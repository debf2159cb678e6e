import ClusterNet.Actuator.Error
import ClusterNet.Cluster.State
import ClusterNet.Config.Controller
import ClusterNet.Retry

/-!
# The status of a cluster

What is published about a cluster's infrastructure.

## Main definitions

* `Actuator.Status` — the state of a cluster and the placement of its machines in every zone;
* `Actuator.zonePlacements` — the placements of a region's zones;
* `Actuator.publish` — publish a status, again if someone else was faster.
-/

namespace ClusterNet

namespace Actuator

open Cluster (State)
open Config (Region Zone)

/-- Where the machines of a zone are. -/
structure ZonePlacement where
  /-- The datacenter. -/
  datacenter : String
  /-- The datastore. -/
  datastore : Option String := none
  /-- The cluster of datastores. -/
  datastoreCluster : Option String := none
  /-- The cluster of hosts. -/
  computeCluster : Option String := none
  /-- The pool of resources. -/
  resourcePool : Option String := none
deriving DecidableEq, Repr, Inhabited

/-- The placements by zone. -/
abbrev ZonePlacements := OrderedMap String ZonePlacement

/-- What is published about a cluster. -/
structure Status where
  /-- What is known of its objects. -/
  state : State
  /-- Where its machines are. -/
  zones : ZonePlacements
deriving DecidableEq, Repr

/-! ### Placements -/

/-- Where the machines of a zone are: what the zone does not say, its region does. There must be a
datacenter and some place for data. -/
def zonePlacement (region : Region) (zone : Zone) : Except ActuatorError ZonePlacement :=
  let p := zone.placement.or region.placement
  match p.datacenter with
  | none => .error (.config s!"zone '{zone.name}' of region '{region.name}' has no datacenter")
  | some datacenter =>
    if p.datastore.isNone && p.datastoreCluster.isNone then
      .error (.config
        s!"zone '{zone.name}' of region '{region.name}' has neither datastore nor datastoreCluster")
    else
      .ok { datacenter, datastore := p.datastore, datastoreCluster := p.datastoreCluster,
            computeCluster := p.computeCluster, resourcePool := p.resourcePool }

/-- The placements of zones, added to those of the zones before them. -/
def placementsFrom (region : Region) (before : ZonePlacements) :
    List Zone → Except ActuatorError ZonePlacements
  | [] => .ok before
  | zone :: zones =>
    match zonePlacement region zone with
    | .error e => .error e
    | .ok p => placementsFrom region (before.insert zone.name p) zones

/-- The placements of a region's zones. The first zone that cannot be placed is reported. -/
def zonePlacements (region : Region) : Except ActuatorError ZonePlacements :=
  placementsFrom region .empty region.zones

/-! ### Written form -/

/-- How a placement is written. -/
def ZonePlacement.record : Record ZonePlacement :=
  .iso
    (.field (.required "datacenter" .text) <| .field (.optional "datastore" .text) <|
      .field (.optional "datastoreCluster" .text) <| .field (.optional "computeCluster" .text) <|
      .field (.optional "resourcePool" .text) .nil)
    (fun (datacenter, datastore, datastoreCluster, computeCluster, resourcePool, ()) =>
      { datacenter, datastore, datastoreCluster, computeCluster, resourcePool })
    fun p => (p.datacenter, p.datastore, p.datastoreCluster, p.computeCluster, p.resourcePool, ())

/-- The codec of placements. -/
def ZonePlacement.codec : Codec ZonePlacement := ZonePlacement.record.codec

/-- How a status is written. -/
def Status.record : Record Status :=
  .iso
    (.field (.required "nsxt" State.codec) <|
      .field (.defaulted "zoneConfig" (.map ZonePlacement.codec) .empty) .nil)
    (fun (state, zones, ()) => { state, zones })
    fun s => (s.state, s.zones, ())

/-- The codec of statuses. -/
def Status.codec : Codec Status := Status.record.codec

/-! ### Publishing -/

/-- Publish a status. A conflict is tried again as often as the policy allows. -/
def publish {I : Interface} (once : String → Status → Program I (Except PublishError Unit))
    (pause : Duration → Program I Unit) (policy : RetryPolicy) (ns : String) (status : Status) :
    Program I (Except PublishError Unit) := do
  let attempt (u : Unit) : Program I (Except PublishError Unit × Unit) := do
    return (← once ns status, u)
  let (result, _) ← policy.attempt attempt PublishError.isConflict pause ()
  return result

end Actuator

end ClusterNet
