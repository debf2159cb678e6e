import ClusterNet.ControlPlane.Error
import ClusterNet.ControlPlane.Kind
import ClusterNet.ControlPlane.Page
import ClusterNet.Program

/-!
# Requests to a control plane

## Main definitions

* `ControlPlane.Method` — what can be done at a control plane, with the name and the type of the
  response of each;
* `ControlPlane.Request` — a method with its arguments;
* `ControlPlane.Answer` — a response, or the error that came in its place;
* `ControlPlane.interface` — programs that talk to a control plane.
-/

namespace ClusterNet

namespace ControlPlane

/-- What can be done at a control plane. -/
inductive Method where
  /-- List a catalog. -/
  | listCatalog (catalog : Catalog)
  /-- Read an object. -/
  | get (kind : Kind)
  /-- Declare how an object should be, whether or not it exists. -/
  | patch (kind : PolicyKind)
  /-- Create an object. -/
  | create (kind : ManagerKind)
  /-- Change an object. -/
  | update (kind : ManagerKind)
  /-- Delete an object. -/
  | delete (kind : Kind)
  /-- List the objects of a kind. -/
  | list (kind : ManagerKind)
  /-- List the logical switches. -/
  | listSwitches
  /-- List what an object has become. -/
  | listRealized
  /-- List the load-balancer objects of a kind. -/
  | listBalancers
  /-- Delete a load-balancer object. -/
  | deleteBalancer
deriving DecidableEq, Repr, Inhabited

namespace Method

/-- The type of a method's response. -/
@[reducible] def Response : Method → Type
  | listCatalog _ => Page PolicyObject
  | get k => k.Object
  | patch _ => Unit
  | create k => k.Object
  | update k => k.Object
  | delete _ => Unit
  | list k => Page k.Object
  | listSwitches => Page LogicalSwitch
  | listRealized => List RealizedEntity
  | listBalancers => Page PolicyObject
  | deleteBalancer => Unit

/-- The codec of a method's responses. -/
def codec : (m : Method) → Codec m.Response
  | listCatalog _ => Page.codec PolicyObject.codec
  | get k => k.codec
  | patch _ => .unit
  | create k => k.codec
  | update k => k.codec
  | delete _ => .unit
  | list k => Page.codec k.codec
  | listSwitches => Page.codec LogicalSwitch.codec
  | listRealized => .list RealizedEntity.codec
  | listBalancers => Page.codec PolicyObject.codec
  | deleteBalancer => .unit

/-- The method's name. -/
def name : Method → String
  | listCatalog c => s!"list_{c.name}"
  | get k => s!"get_{k.name}"
  | patch k => s!"patch_{k.name}"
  | create k => s!"create_{k.name}"
  | update k => s!"update_{k.name}"
  | delete k => s!"delete_{k.name}"
  | list k => s!"list_{k.name}s"
  | listSwitches => "list_logical_switches"
  | listRealized => "list_realized_entities"
  | listBalancers => "list_lb_objects"
  | deleteBalancer => "delete_lb_object"

/-- All methods. -/
def all : List Method :=
  Catalog.all.map listCatalog ++ Kind.all.map get ++ PolicyKind.all.map patch ++
    ManagerKind.all.map create ++ ManagerKind.all.map update ++ Kind.all.map delete ++
    ManagerKind.all.map list ++
    [listSwitches, listRealized, listBalancers, deleteBalancer]

/-- The method with a name. -/
def ofName? (s : String) : Option Method := all.find? fun m => m.name == s

/-- Whether the method changes anything at the control plane. -/
def isMutation : Method → Bool
  | patch _ | create _ | update _ | delete _ | deleteBalancer => true
  | _ => false

end Method

/-- A method with its arguments. -/
inductive Request where
  /-- List a catalog. -/
  | listCatalog (catalog : Catalog) (cursor : Option String)
  /-- Read an object. -/
  | get (kind : Kind) (place : Place)
  /-- Declare how an object should be, whether or not it exists. -/
  | patch (kind : PolicyKind) (place : Place) (object : kind.Object)
  /-- Create an object that belongs to another one. -/
  | create (kind : ManagerKind) (parent : String) (object : kind.Object)
  /-- Change an object. -/
  | update (kind : ManagerKind) (place : Place) (object : kind.Object)
  /-- Delete an object. -/
  | delete (kind : Kind) (place : Place)
  /-- List the objects of a kind that belong to another one. -/
  | list (kind : ManagerKind) (parent : String) (cursor : Option String)
  /-- List the logical switches. -/
  | listSwitches (cursor : Option String)
  /-- List what the object at a path has become. -/
  | listRealized (path : String)
  /-- List the load-balancer objects of a kind. -/
  | listBalancers (kind : BalancerKind) (cursor : Option String)
  /-- Delete a load-balancer object. -/
  | deleteBalancer (kind : BalancerKind) (id : String)

namespace Request

/-- The method of a request. -/
@[reducible] def method : Request → Method
  | listCatalog c _ => .listCatalog c
  | get k _ => .get k
  | patch k _ _ => .patch k
  | create k _ _ => .create k
  | update k _ _ => .update k
  | delete k _ => .delete k
  | list k _ _ => .list k
  | listSwitches _ => .listSwitches
  | listRealized _ => .listRealized
  | listBalancers _ _ => .listBalancers
  | deleteBalancer _ _ => .deleteBalancer

/-- What a request is about, in a few characters: the id of its object, the object it belongs to,
or the cursor of a listing. -/
def subject : Request → String
  | listCatalog _ cursor => cursor.getD ""
  | get _ place => place.id
  | patch _ place _ => place.id
  | create _ parent _ => parent
  | update _ place _ => place.id
  | delete _ place => place.id
  | list k parent cursor => if k.isNested then parent else cursor.getD ""
  | listSwitches cursor => cursor.getD ""
  | listRealized path => path
  | listBalancers kind _ => kind.collection
  | deleteBalancer _ id => id

/-- The request in one line. -/
def text (r : Request) : String := s!"{r.method.name} {r.subject}"

end Request

/-- What a request is answered with. -/
@[reducible] def Answer (r : Request) : Type := Except ApiError r.method.Response

/-- Programs that talk to a control plane. -/
@[reducible] def interface : Interface := ⟨Request, Answer⟩

end ControlPlane

end ClusterNet
