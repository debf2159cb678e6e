import ClusterNet.ControlPlane.Request
import ClusterNet.Json.Access

/-!
# Requests from positional arguments

## Main definitions

* `Request.ofArguments?` — the request that a method and a list of values make.

The ids come first, that of the object a nested one belongs to before its own, then the object,
then a cursor. A missing id is empty, and a missing cursor is none.
-/

namespace ClusterNet

namespace ControlPlane

/-- The kind of load-balancer objects with a name. Any other name is that of services. -/
def BalancerKind.named : String → BalancerKind
  | "virtual-server" => .virtualServer
  | "pool" => .pool
  | _ => .service

namespace Request

/-- The argument at a position. -/
def argument (args : List Json) (n : Nat) : Json := (args[n]?).getD .null

/-- The text at a position. -/
def textArgument (args : List Json) (n : Nat) : String := (argument args n).text?.getD ""

/-- The cursor at a position. -/
def cursorArgument (args : List Json) (n : Nat) : Option String := (argument args n).text?

/-- The place that the first arguments name, and the position behind them. -/
def placeArgument (isNested : Bool) (args : List Json) : Place × Nat :=
  if isNested then (⟨textArgument args 0, textArgument args 1⟩, 2)
  else (⟨"", textArgument args 0⟩, 1)

/-- The kind of load-balancer objects that the first argument names. -/
def balancerArgument (args : List Json) : BalancerKind := .named (textArgument args 0)

/-- The request that a method and a list of values make, unless an object cannot be decoded. -/
def ofArguments? (m : Method) (args : List Json) : Option Request :=
  match m with
  | .listCatalog c => some (.listCatalog c (cursorArgument args 0))
  | .get k => some (.get k (placeArgument k.isNested args).1)
  | .patch k =>
    let (place, n) := placeArgument k.isNested args
    (k.codec.decode (argument args n)).map fun o => .patch k place o
  | .create k =>
    let parent := if k.isNested then textArgument args 0 else ""
    (k.codec.decode (argument args (if k.isNested then 1 else 0))).map fun o => .create k parent o
  | .update k =>
    let (place, n) := placeArgument k.isNested args
    (k.codec.decode (argument args n)).map fun o => .update k place o
  | .delete k => some (.delete k (placeArgument k.isNested args).1)
  | .list k =>
    some (if k.isNested then .list k (textArgument args 0) (cursorArgument args 1)
      else .list k "" (cursorArgument args 0))
  | .listSwitches => some (.listSwitches (cursorArgument args 0))
  | .listRealized => some (.listRealized (textArgument args 0))
  | .listBalancers => some (.listBalancers (balancerArgument args) (cursorArgument args 1))
  | .deleteBalancer => some (.deleteBalancer (balancerArgument args) (textArgument args 1))

end Request

end ControlPlane

end ClusterNet
