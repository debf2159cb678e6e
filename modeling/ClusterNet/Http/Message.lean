import ClusterNet.Http.Url
import ClusterNet.Json.Printer

/-!
# Messages

What is sent to a host, and what comes back.

## Main definitions

* `Http.Request` — a request, with its headers and its `address?`;
* `Http.Response` — what a host answers;
* `Http.Failure` — why there was no answer, or none that came to its end.
-/

namespace ClusterNet

namespace Http

/-- What is to be done with a resource. -/
inductive Verb where
  /-- Read it. -/
  | get
  /-- Make it as it is declared to be. -/
  | patch
  /-- Add to it. -/
  | post
  /-- Put something else in its place. -/
  | put
  /-- Remove it. -/
  | delete
deriving DecidableEq, Repr, Inhabited

/-- The verb as it is sent. -/
def Verb.name : Verb → String
  | get => "GET"
  | patch => "PATCH"
  | post => "POST"
  | put => "PUT"
  | delete => "DELETE"

/-- What a request carries. -/
inductive Body where
  /-- Nothing. -/
  | empty
  /-- A JSON value. -/
  | json (value : Json)
  /-- The fields of a form. -/
  | form (fields : List (String × String))
deriving Inhabited

namespace Body

/-- The body as it is sent. -/
def text : Body → String
  | empty => ""
  | json value => value.compact
  | form fields => Text.form fields

/-- The name of the body's format. -/
def contentType? : Body → Option String
  | empty => none
  | json _ => some "application/json"
  | form _ => some "application/x-www-form-urlencoded"

end Body

/-- The header that a user is named in. -/
def authorizationHeader : String := "authorization"

/-- The header that an access token is sent in. -/
def tokenHeader : String := "csp-auth-token"

/-- A request. -/
structure Request where
  /-- What is to be done. -/
  verb : Verb
  /-- The address of the resource. -/
  url : String
  /-- The fields that the query is completed by. -/
  query : List (String × String) := []
  /-- The headers by which the sender proves who it is. -/
  headers : List (String × String) := []
  /-- What it carries. -/
  body : Body := .empty
deriving Inhabited

namespace Request

/-- The value of a header. -/
def header? (r : Request) (name : String) : Option String := r.headers.lookup name

/-- All headers, that of the body's format behind the others. -/
def allHeaders (r : Request) : List (String × String) :=
  r.headers ++ r.body.contentType?.toList.map fun t => ("content-type", t)

/-- The access token that the request carries. -/
def token? (r : Request) : Option String := r.header? tokenHeader

/-- The address with the whole query, if it is one. -/
def address? (r : Request) : Option Url := (Url.parse? r.url).map fun u => u.withFields r.query

end Request

/-- Whether a text can be sent in a header: it has no control characters but tabs. -/
def isHeaderValue (s : String) : Bool :=
  s.toList.all fun c => c == '\t' || (32 ≤ c.toNat && c.toNat != 127)

/-- Why there is no answer, or none that came to its end. -/
structure Failure where
  /-- Whether the same request may be answered when it is sent again. -/
  mayPass : Bool
  /-- The status of the answer, if one broke off behind its status. -/
  status : Option Nat := none
deriving DecidableEq, Repr, Inhabited

/-- Whether a status says that the host did what it was asked. -/
def isSuccessStatus (status : Nat) : Bool := 200 ≤ status && status < 300

/-- What a host answers. -/
structure Response where
  /-- The status, a number of three digits. -/
  status : Nat
  /-- What it says. -/
  body : String
deriving DecidableEq, Repr, Inhabited

namespace Response

/-- Whether the host did what it was asked. -/
def isSuccess (r : Response) : Bool := isSuccessStatus r.status

/-- Whether the host does not accept who asks. -/
def isRejection (r : Response) : Bool := r.status == 401 || r.status == 403

end Response

end Http

end ClusterNet
