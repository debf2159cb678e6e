/-!
# Control-plane errors

What can go wrong between this program and a control plane.

## Main definitions

* `ControlPlane.ApiError` — the causes, with `message`, `isNotFound` and `isTransient`;
* `ControlPlane.optionText` — an optional value as it is shown in messages.
-/

namespace ClusterNet

namespace ControlPlane

/-- Why a request to a control plane came to nothing. -/
inductive ApiError where
  /-- The addressed object does not exist. -/
  | notFound (what : String)
  /-- The control plane refused the request. -/
  | refused (status : Nat) (code : Option Int64) (reason : String)
  /-- The request could not be sent or its answer could not be received. -/
  | http (mayPass : Bool)
  /-- The settings of the connection are unusable. -/
  | invalidConfig (reason : String)
  /-- No access token could be obtained. -/
  | authenticationFailed (reason : String)
  /-- An answer was received that makes no sense. -/
  | unexpectedResponse (reason : String)
  /-- A text could not be decoded. -/
  | json
  /-- A file could not be read or written. -/
  | io
deriving DecidableEq, Repr, Inhabited

/-- An optional value as it is shown in messages. -/
def optionText (value : Option String) : String :=
  match value with
  | none => "None"
  | some text => s!"Some({text})"

namespace ApiError

/-- The wording of an error. -/
def message : ApiError → String
  | notFound what => s!"Object not found: {what}"
  | refused status code reason =>
    let code := optionText (code.map fun c => toString c.toInt)
    s!"API error (HTTP {status}, code {code}): {reason}"
  | http _ => "HTTP error"
  | invalidConfig reason => s!"Invalid configuration: {reason}"
  | authenticationFailed reason => s!"Authentication failed: {reason}"
  | unexpectedResponse reason => s!"Unexpected response: {reason}"
  | json => "JSON error"
  | io => "IO error"

/-- Whether the addressed object does not exist. -/
def isNotFound : ApiError → Bool
  | notFound _ => true
  | _ => false

/-- Whether the same request may succeed when it is made again. -/
def isTransient : ApiError → Bool
  | refused status _ _ => [429, 502, 503, 504].contains status
  | http mayPass => mayPass
  | _ => false

@[simp] theorem isNotFound_notFound (what : String) : (notFound what).isNotFound = true := rfl

theorem isNotFound_iff {e : ApiError} : e.isNotFound = true ↔ ∃ what, e = notFound what := by
  cases e <;> simp [isNotFound]

end ApiError

end ControlPlane

end ClusterNet
