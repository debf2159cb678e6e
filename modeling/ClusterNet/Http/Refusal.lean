import ClusterNet.ControlPlane.Error
import ClusterNet.Json.Codec
import ClusterNet.Json.Parser
import ClusterNet.Text.Blank

/-!
# Refusals

What an answer means that says that a request was not carried out.

## Main definitions

* `Http.Refusal` — the reason that a control plane gives in the body of such an answer;
* `Http.isMissing` — whether the answer says that the object does not exist;
* `Http.errorOf` — the error that the answer stands for.
-/

namespace ClusterNet

namespace Http

open ControlPlane (ApiError)

/-- The reason that a control plane gives. -/
structure Refusal where
  /-- A number that stands for it. -/
  code : Option Int64
  /-- Its wording. -/
  wording : Option String
deriving DecidableEq, Repr, Inhabited

namespace Refusal

/-- How a reason is written. -/
def record : Record Refusal :=
  .iso
    (.field (.nullable "error_code" .int64) <| .field (.nullable "error_message" .text) .nil)
    (fun (code, wording, ()) => { code, wording })
    fun r => (r.code, r.wording, ())

/-- The reason given in a body. -/
def ofBody? (body : String) : Option Refusal := (Json.parse body).bind record.codec.decode

end Refusal

/-- The codes that say that an object does not exist. -/
def missingCodes : List Int64 := [202, 600, 500012]

/-- Whether the answer says that the object does not exist. -/
def isMissing (status : Nat) (code : Option Int64) : Bool :=
  status == 404 || (status == 400 && code.any missingCodes.contains)

/-- The error that an answer stands for. If it gives no reason, its body is taken for one. -/
def errorOf (status : Nat) (body what : String) : ApiError :=
  let refusal := Refusal.ofBody? body
  let code := refusal.bind Refusal.code
  if isMissing status code then .notFound what
  else .refused status code ((refusal.bind Refusal.wording).getD (Text.trim body))

end Http

end ClusterNet
