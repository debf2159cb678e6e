import ClusterNet.ControlPlane.Paging
import ClusterNet.Pipeline.Desired

/-!
# Looking up objects

Objects that a cluster depends on without owning them. They are found in a listing, their
references are kept, and nothing is ever changed about them.

## Main definitions

* `Pipeline.lookUp` — find an object of a catalog by its display name;
* `Pipeline.lookUpSwitch` — find the logical switch that stands for the cluster's segment.
-/

namespace ClusterNet

namespace Pipeline

open Cluster (InfraError Reference Slot Spec State)
open ControlPlane

/-- The name of the task that looks an object of a catalog up. -/
def catalogLabel : Catalog → String
  | .tier0s => "tier0-gateway-lookup"
  | .edgeClusters => "edge-cluster-lookup"
  | .transportZones => "transport-zone-lookup"
  | .ipPools => "snat-ip-pool-lookup"

/-- The slot of the reference to an object of a catalog. -/
def catalogSlot : Catalog → Slot
  | .tier0s => .tier0Gateway
  | .edgeClusters => .edgeCluster
  | .transportZones => .transportZone
  | .ipPools => .snatIpPool

/-- The display name that is looked for in a catalog. -/
def wantedName (spec : Spec) : Catalog → String
  | .tier0s => spec.tier0GatewayName
  | .edgeClusters => spec.edgeClusterName
  | .transportZones => spec.transportZoneName
  | .ipPools => spec.snatIpPoolName

/-- What looking up leads to: a reference in a slot, or an error if nothing was found. -/
def bound {α : Type} (task name : String) (slot : Slot) (reference : α → Reference) (s : State) :
    Except ApiError (Option α) → Except InfraError Action × State
  | .error e => (.error (.api e), s)
  | .ok none => (.error (.lookupNotFound task name), s)
  | .ok (some o) => (.ok .found, s.withReference slot (some (reference o)))

/-- Find an object of a catalog by its display name. -/
def lookUp (catalog : Catalog) (c : Context) (spec : Spec) : Step Action := fun s => do
  let name := wantedName spec catalog
  let found ← findFirst (fun cursor => Work.call (.listCatalog catalog cursor))
    (fun o => o.displayName == some name) c.rounds
  return bound (catalogLabel catalog) name (catalogSlot catalog)
    (fun o : PolicyObject => ⟨o.id, o.path⟩) s found

/-- The name of the task that looks the logical switch up. -/
def switchLabel : String := "logical-switch-lookup"

/-- The scope under which a logical switch names the segment that it stands for. -/
def policyPathScope : String := "policyPath"

/-- Whether a logical switch stands for the segment at a path. -/
def standsFor (path : String) (switch : LogicalSwitch) : Bool :=
  switch.tags.any fun t => t.scope == policyPathScope && t.value == path

/-- Find the logical switch that stands for the cluster's segment. -/
def lookUpSwitch (c : Context) : Step Action := fun s =>
  match require switchLabel s .segment with
  | .error e => .done (.error e, s)
  | .ok segment => do
    let found ← findFirst (fun cursor => Work.call (.listSwitches cursor))
      (standsFor segment.path) c.rounds
    return bound switchLabel segment.path .logicalSwitch
      (fun o : LogicalSwitch => ⟨o.id, Path.logicalSwitch o.id⟩) s found

end Pipeline

end ClusterNet
