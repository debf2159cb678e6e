import ClusterNet.ControlPlane.Request
import ClusterNet.Http.Message
import ClusterNet.Json.Parser

/-!
# Routes

How the requests to a control plane are sent, and how the answers to them are read.

## Main definitions

* `Http.Route` — a verb, a path, a query and a value to carry;
* `Http.route` — the route of every request;
* `Http.readBody` — the response that the body of an answer stands for.

The policy interface lies below a path of its own. Objects of the manager interface are created by
adding to the collection they belong to, and changed by putting them in their own place.
-/

namespace ClusterNet

namespace Http

open ControlPlane (ApiError BalancerKind Kind ManagerKind Method Place RealizedEntity)

/-- How a request is sent. -/
structure Route where
  /-- What is to be done. -/
  verb : Verb
  /-- Where. -/
  path : String
  /-- The fields of the query. -/
  query : List (String × String) := []
  /-- What is carried along. -/
  value : Option Json := none
deriving Inhabited

/-- Where the policy interface lies. -/
def policyBase : String := "/policy/api/v1"

/-- A path of the policy interface. -/
def policyPath (path : String) : String := policyBase ++ path

/-- The field that asks for a page behind the first. -/
def cursorFields (cursor : Option String) : List (String × String) :=
  (cursor.filter fun c => !c.isEmpty).toList.map fun c => ("cursor", c)

/-- The collection that objects of a kind belong to. -/
def collection (k : ManagerKind) (parent : String) : String :=
  match k with
  | .dhcpProfile => "/api/v1/dhcp/server-profiles"
  | .dhcpServer => "/api/v1/dhcp/servers"
  | .logicalPort => "/api/v1/logical-ports"
  | .dhcpIpPool => s!"{ControlPlane.Path.dhcpServer parent}/ip-pools"

/-- Where an object lies. -/
def resource (k : Kind) (place : Place) : String :=
  match k with
  | .policy k => policyPath (k.path place)
  | .manager k => k.path place

/-- What has to be said to delete an object. A port is taken off what is attached to it. -/
def deletionFields : Kind → List (String × String)
  | .manager .logicalPort => [("detach", "true")]
  | _ => []

/-- How a request is sent. -/
def route : ControlPlane.Request → Route
  | .listCatalog c cursor =>
    { verb := .get, path := policyPath c.path, query := cursorFields cursor }
  | .get k place => { verb := .get, path := resource k place }
  | .patch k place o =>
    { verb := .patch, path := resource (.policy k) place, value := some (k.codec.encode o) }
  | .create k parent o =>
    { verb := .post, path := collection k parent, value := some (k.codec.encode o) }
  | .update k place o =>
    { verb := .put, path := resource (.manager k) place, value := some (k.codec.encode o) }
  | .delete k place => { verb := .delete, path := resource k place, query := deletionFields k }
  | .list k parent cursor =>
    { verb := .get, path := collection k parent, query := cursorFields cursor }
  | .listSwitches cursor =>
    { verb := .get, path := "/api/v1/logical-switches", query := cursorFields cursor }
  | .listRealized path =>
    { verb := .get, path := policyPath "/infra/realized-state/realized-entities",
      query := [("intent_path", path)] }
  | .listBalancers kind cursor =>
    { verb := .get, path := policyPath (ControlPlane.Path.balancerObjects kind),
      query := cursorFields cursor }
  | .deleteBalancer kind id =>
    { verb := .delete, path := policyPath (ControlPlane.Path.balancerObject kind id),
      query := [("force", "true")] }

/-! ### Answers -/

/-- How a listing of realized entities is written. -/
def realizedEntities : Record (List RealizedEntity) :=
  .iso (.field (.items "results" RealizedEntity.codec) .nil) (fun (es, ()) => es) fun es => (es, ())

/-- The value that a body stands for. -/
def decodeBody {α : Type} (c : Codec α) (body : String) : Except ApiError α :=
  match (Json.parse body).bind c.decode with
  | some a => .ok a
  | none => .error .json

/-- The response that a body stands for. Where nothing is to be said, nothing is read. -/
def readBody (m : Method) (body : String) : Except ApiError m.Response :=
  match m with
  | .patch _ | .delete _ | .deleteBalancer => .ok ()
  | .listRealized => decodeBody realizedEntities.codec body
  | .listCatalog c => decodeBody (Method.listCatalog c).codec body
  | .get k => decodeBody (Method.get k).codec body
  | .create k => decodeBody (Method.create k).codec body
  | .update k => decodeBody (Method.update k).codec body
  | .list k => decodeBody (Method.list k).codec body
  | .listSwitches => decodeBody Method.listSwitches.codec body
  | .listBalancers => decodeBody Method.listBalancers.codec body

end Http

end ClusterNet
