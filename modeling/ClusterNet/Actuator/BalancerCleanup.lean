import ClusterNet.ControlPlane.Effect
import ClusterNet.ControlPlane.Paging

/-!
# Cleaning up load balancers

Load-balancer objects are created by someone else on behalf of a cluster, and they hang off the
cluster's gateway. They carry a tag with the cluster's name and are deleted before the gateway is.

## Main definitions

* `Actuator.cleanUpBalancers` — delete the load-balancer objects of a cluster.

Virtual servers go first, then the pools that they use, then the services that they run on.
-/

namespace ClusterNet

namespace Actuator

open ControlPlane

/-- The order in which the kinds of objects are deleted. -/
def cleanupOrder : List BalancerKind := [.virtualServer, .pool, .service]

/-- Whether an object carries a tag. -/
def carries (tag : Tag) (o : PolicyObject) : Bool :=
  o.tags.any fun t => t.scope == tag.scope && t.value == tag.value

/-- Delete objects of a kind, and add the number of those that were there to `count`. An object
that is gone already does not count. -/
def deleteBalancers (kind : BalancerKind) :
    List PolicyObject → (count : Nat) → Work (Except ApiError Nat)
  | [], count => .done (.ok count)
  | o :: os, count => do
    match ← Work.call (.deleteBalancer kind o.id) with
    | .ok () => deleteBalancers kind os (count + 1)
    | .error e => if e.isNotFound then deleteBalancers kind os count else return .error e

/-- Delete the objects of some kinds that carry a tag. -/
def cleanUpKinds (tag : Tag) (pages : Nat) :
    List BalancerKind → (count : Nat) → Work (Except ApiError Nat)
  | [], count => .done (.ok count)
  | kind :: kinds, count => do
    let owned ← collect (fun cursor => Work.call (.listBalancers kind cursor)) (carries tag) pages
    match owned with
    | .error e => return .error e
    | .ok owned =>
      match ← deleteBalancers kind owned count with
      | .error e => return .error e
      | .ok count => cleanUpKinds tag pages kinds count

/-- Delete the load-balancer objects of a cluster, and give their number. The first error ends the
cleanup. -/
def cleanUpBalancers (scope clusterName : String) (pages : Nat) : Work (Except ApiError Nat) :=
  cleanUpKinds ⟨scope, clusterName⟩ pages cleanupOrder 0

end Actuator

end ClusterNet
