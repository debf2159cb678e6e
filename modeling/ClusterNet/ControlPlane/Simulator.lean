import ClusterNet.ControlPlane.Inventory
import ClusterNet.ControlPlane.Request
import ClusterNet.Text.Decimal

/-!
# A simulated control plane

A control plane that keeps its objects in memory and upholds the rules between them: nothing is
declared under a gateway that does not exist, nothing is deleted that something else depends on,
and an update has to name the revision it was made for. An allocated address comes into being
after some polls, and a new segment brings a logical switch with it.

## Main definitions

* `ControlPlane.Simulator` — the state of the control plane, with what has been asked of it and
  the failures that are due;
* `ControlPlane.Simulator.answer` — how it answers a request, and its state afterwards;
* `ControlPlane.Simulator.withRegion` — the objects of a typical region.
-/

namespace ClusterNet

namespace ControlPlane

/-- The load-balancer objects by kind. -/
structure Balancers where
  /-- The virtual servers. -/
  virtualServers : List PolicyObject := []
  /-- The pools. -/
  pools : List PolicyObject := []
  /-- The services. -/
  services : List PolicyObject := []
deriving DecidableEq, Repr

namespace Balancers

/-- The objects of a kind. -/
def get (b : Balancers) : BalancerKind → List PolicyObject
  | .virtualServer => b.virtualServers
  | .pool => b.pools
  | .service => b.services

/-- The objects with other ones of a kind. -/
def set (b : Balancers) (k : BalancerKind) (objects : List PolicyObject) : Balancers :=
  match k with
  | .virtualServer => { b with virtualServers := objects }
  | .pool => { b with pools := objects }
  | .service => { b with services := objects }

@[simp] theorem get_set_self (b : Balancers) (k : BalancerKind) (os : List PolicyObject) :
    (b.set k os).get k = os := by
  cases k <;> rfl

theorem get_set_of_ne (b : Balancers) {k k' : BalancerKind} (h : k' ≠ k)
    (os : List PolicyObject) : (b.set k os).get k' = b.get k' := by
  cases k <;> cases k' <;> first | rfl | exact absurd rfl h

end Balancers

/-- The objects that exist before any cluster, by catalog. -/
structure Catalogs where
  /-- The tier-0 gateways. -/
  tier0s : List PolicyObject := []
  /-- The transport zones. -/
  transportZones : List PolicyObject := []
  /-- The edge clusters. -/
  edgeClusters : List PolicyObject := []
  /-- The pools of addresses. -/
  ipPools : List PolicyObject := []
deriving DecidableEq, Repr

/-- The objects of a catalog. -/
def Catalogs.get (cs : Catalogs) : Catalog → List PolicyObject
  | .tier0s => cs.tier0s
  | .transportZones => cs.transportZones
  | .edgeClusters => cs.edgeClusters
  | .ipPools => cs.ipPools

/-- A control plane in memory. -/
structure Simulator where
  /-- The greatest number of items on a page. -/
  pageSize : Nat := 2
  /-- The number of polls after which an allocated address comes into being. -/
  realizationPolls : Nat := 1
  /-- Whether a new segment brings a logical switch with it. -/
  realizesSwitches : Bool := true
  /-- The ids that objects are given, in order. -/
  freshId : Nat → String := Text.numberedId
  /-- The number of ids given so far. -/
  drawnIds : Nat := 0
  /-- The objects that exist before any cluster. -/
  catalogs : Catalogs := {}
  /-- The load-balancer objects. -/
  balancers : Balancers := {}
  /-- The objects of clusters. -/
  inventory : Inventory := {}
  /-- The logical switches. -/
  switches : List LogicalSwitch := []
  /-- The polls that are left until an address comes into being, by the path of its allocation. -/
  pending : OrderedMap String Nat := .empty
  /-- The addresses by the paths of their allocations. -/
  addresses : OrderedMap String String := .empty
  /-- The last number of the next address. -/
  nextAddress : Nat := 10
  /-- What has been asked, in order. -/
  calls : List Request := []
  /-- The methods that will fail when they are called next. -/
  failures : List Method := []

namespace Simulator

/-- The scope under which a logical switch names the segment that it stands for. -/
def policyPathScope : String := "policyPath"

/-- The error of deleting what something else depends on. -/
def inUse (path : String) : ApiError := .refused 400 (some 500030) s!"{path} is still in use"

/-- The error of a failure that was due. -/
def injected (m : Method) : ApiError := .refused 500 none s!"injected failure in {m.name}"

/-- The error of an update that was made for another revision. -/
def stale (id : String) : ApiError := .refused 412 (some 208) s!"{id} was modified by someone else"

/-- The next id, and the control plane after giving it away. -/
def drawId (s : Simulator) : String × Simulator :=
  (s.freshId s.drawnIds, { s with drawnIds := s.drawnIds + 1 })

/-! ### Listings -/

/-- The number of items before the page at a cursor. -/
def pageStart (cursor : Option String) : Nat :=
  (cursor.bind fun c => Text.boundedDecimal? UInt64.size c.toList).getD 0

/-- The page of a listing at a cursor. The cursor of the next page is the number of items before
it. -/
def pageAt {α : Type} (items : List α) (cursor : Option String) (size : Nat) : Page α :=
  let start := pageStart cursor
  let stop := min (start + size) items.length
  { results := (items.take stop).drop start
    cursor := if stop < items.length then some (toString stop) else none
    resultCount := some (Int64.ofNat items.length) }

/-! ### Rules between objects -/

/-- Whether a logical switch stands for the segment at a path. -/
def isSwitchOf (path : String) (switch : LogicalSwitch) : Bool :=
  switch.tags.any fun t => t.value == path

/-- The ids of the logical switches that stand for the segment at a path. -/
def switchIdsOf (s : Simulator) (path : String) : List String :=
  (s.switches.filter (isSwitchOf path)).map (·.id)

/-- Whether anything depends on the object at a place. -/
def isInUse (s : Simulator) (k : Kind) (place : Place) : Bool :=
  let i := s.inventory
  match k with
  | .policy .tier1 =>
    i.localeServices.keys.any (·.parent == place.id) ||
      i.segments.keys.any (·.parent == place.id) || i.natRules.keys.any (·.parent == place.id)
  | .policy .segment =>
    let ids := s.switchIdsOf (k.path place)
    i.logicalPorts.values.any fun p => p.logicalSwitchId.any ids.contains
  | .policy .dhcpServerConfig =>
    i.segments.values.any fun o => o.dhcpConfigPath == some (k.path place)
  | .manager .dhcpProfile => i.dhcpServers.values.any fun o => o.dhcpProfileId == some place.id
  | .manager .dhcpServer =>
    (i.logicalPorts.values.any fun p => p.attachment.any fun a => a.id == place.id) ||
      i.dhcpIpPools.keys.any (·.parent == place.id)
  | _ => false

/-- The path of the object that a new one would have to belong to, if that object is missing. -/
def missingOwner (s : Simulator) (k : Kind) (parent : String) (o : k.Object) : Option String :=
  let i := s.inventory
  match k, o with
  | .policy pk, _ =>
    if pk.isOfTier1 && !i.tier1s.contains ⟨"", parent⟩ then some (Path.tier1 parent) else none
  | .manager .dhcpProfile, _ => none
  | .manager .dhcpServer, o =>
    let profile := o.dhcpProfileId.getD ""
    if i.dhcpProfiles.contains ⟨"", profile⟩ then none else some (Path.dhcpProfile profile)
  | .manager .logicalPort, o =>
    let switch := o.logicalSwitchId.getD ""
    if s.switches.any fun x => x.id == switch then none else some (Path.logicalSwitch switch)
  | .manager .dhcpIpPool, _ =>
    if i.dhcpServers.contains ⟨"", parent⟩ then none else some (Path.dhcpServer parent)

/-! ### Declared objects -/

/-- The logical switch that stands for a segment. -/
def switchOf (path id : String) (o : Segment) : LogicalSwitch where
  id := s!"ls-{id}"
  displayName := o.displayName
  tags := [⟨policyPathScope, path⟩]

/-- What comes with a new object at a place. -/
def withCompanions (s : Simulator) (k : PolicyKind) (place : Place) (o : k.Object) : Simulator :=
  let path := k.path place
  match k, o with
  | .segment, o =>
    if s.realizesSwitches then
      { s with switches := s.switches ++ [switchOf path place.id o] }
    else s
  | .ipAllocation, _ =>
    { s with
      pending := s.pending.insert path s.realizationPolls
      addresses := s.addresses.insert path s!"192.0.2.{s.nextAddress}"
      nextAddress := s.nextAddress + 1 }
  | _, _ => s

/-- Declare an object. -/
def patch (s : Simulator) (k : PolicyKind) (place : Place) (o : k.Object) :
    Except ApiError Unit × Simulator :=
  match s.missingOwner (.policy k) place.parent o with
  | some path => (.error (.notFound path), s)
  | none =>
    let isNew := (s.inventory.find? (.policy k) place).isNone
    let stored := k.stamped place.id (k.path place) o
    let s := if isNew then s.withCompanions k place o else s
    (.ok (), { s with inventory := s.inventory.put (.policy k) place stored })

/-! ### Created objects -/

/-- Create an object. -/
def create (s : Simulator) (k : ManagerKind) (parent : String) (o : k.Object) :
    Except ApiError k.Object × Simulator :=
  match s.missingOwner (.manager k) parent o with
  | some path => (.error (.notFound path), s)
  | none =>
    let (id, s) := s.drawId
    let stored := k.withRevision (some 0) (k.stamped id o)
    (.ok stored, { s with inventory := s.inventory.put (.manager k) ⟨parent, id⟩ stored })

/-- Change an object. The change has to name the object's revision, which it raises by one. -/
def update (s : Simulator) (k : ManagerKind) (place : Place) (o : k.Object) :
    Except ApiError k.Object × Simulator :=
  match s.inventory.find? (.manager k) place with
  | none => (.error (.notFound (k.path place)), s)
  | some current =>
    let revision := (k.revision? current).getD 0
    if k.revision? o = some revision then
      let stored := k.withRevision (some (revision + 1)) (k.stamped place.id o)
      (.ok stored, { s with inventory := s.inventory.put (.manager k) place stored })
    else (.error (stale place.id), s)

/-! ### Deletion -/

/-- The control plane without what came with the object at a place. -/
def withoutCompanions (s : Simulator) (k : Kind) (place : Place) : Simulator :=
  match k with
  | .policy .segment =>
    let ids := s.switchIdsOf (k.path place)
    { s with switches := s.switches.filter fun x => !ids.contains x.id }
  | _ => s

/-- The control plane without the address of an allocation. -/
def withoutAddress (s : Simulator) (k : Kind) (place : Place) : Simulator :=
  match k with
  | .policy .ipAllocation =>
    { s with pending := s.pending.erase (k.path place), addresses := s.addresses.erase (k.path place) }
  | _ => s

/-- Delete an object. -/
def delete (s : Simulator) (k : Kind) (place : Place) : Except ApiError Unit × Simulator :=
  if s.isInUse k place then (.error (inUse (k.path place)), s)
  else
    let s := s.withoutAddress k place
    match s.inventory.find? k place with
    | none => (.error (.notFound (k.path place)), s)
    | some _ =>
      (.ok (), { s.withoutCompanions k place with inventory := s.inventory.remove k place })

/-- Delete the load-balancer objects with an id. -/
def deleteBalancer (s : Simulator) (k : BalancerKind) (id : String) :
    Except ApiError Unit × Simulator :=
  let objects := s.balancers.get k
  if objects.any fun o => o.id == id then
    (.ok (), { s with balancers := s.balancers.set k (objects.filter fun o => o.id != id) })
  else (.error (.notFound (Path.balancerObject k id)), s)

/-! ### Realization -/

/-- What an allocation has become. -/
def realizedEntity (state : String) (attributes : List AttributeValue) : RealizedEntity where
  entityType := some "IpAllocation"
  state := some state
  extendedAttributes := attributes

/-- What the allocation at a path has become. Asking brings its address one poll nearer. -/
def realized (s : Simulator) (path : String) :
    Except ApiError (List RealizedEntity) × Simulator :=
  match s.addresses.find? path with
  | none => (.error (.notFound path), s)
  | some address =>
    match s.pending.find? path with
    | some (n + 1) =>
      (.ok [realizedEntity "UNREALIZED" []], { s with pending := s.pending.insert path n })
    | _ =>
      (.ok [realizedEntity "REALIZED" [{ key := "allocation_ip", values := [address] }]], s)

/-! ### Answers -/

/-- The objects of a kind that belong to another one, in the order of their ids. -/
def objectsOf (s : Simulator) (k : ManagerKind) (parent : String) : List k.Object :=
  (((s.inventory.table (.manager k)).entries.filter fun e =>
    !k.isNested || e.1.parent == parent).map Prod.snd)

/-- The answer to a request that does not fail on purpose. -/
def serve (s : Simulator) : (r : Request) → Answer r × Simulator
  | .listCatalog c cursor => (.ok (pageAt (s.catalogs.get c) cursor s.pageSize), s)
  | .get k place =>
    (match s.inventory.find? k place with
      | some o => .ok o
      | none => .error (.notFound (k.path place)), s)
  | .patch k place o => s.patch k place o
  | .create k parent o => s.create k parent o
  | .update k place o => s.update k place o
  | .delete k place => s.delete k place
  | .list k parent cursor => (.ok (pageAt (s.objectsOf k parent) cursor s.pageSize), s)
  | .listSwitches cursor => (.ok (pageAt s.switches cursor s.pageSize), s)
  | .listRealized path => s.realized path
  | .listBalancers k cursor => (.ok (pageAt (s.balancers.get k) cursor s.pageSize), s)
  | .deleteBalancer k id => s.deleteBalancer k id

/-- The answer to a request, and the control plane afterwards. A failure that is due takes the
place of the answer, once. -/
def answer (r : Request) (s : Simulator) : Answer r × Simulator :=
  let s := { s with calls := s.calls ++ [r] }
  if s.failures.contains r.method then
    (.error (injected r.method), { s with failures := s.failures.filter (· != r.method) })
  else s.serve r

/-! ### Preparing and inspecting -/

/-- An object of a catalog. -/
def named (path id displayName : String) : PolicyObject where
  id
  path := s!"{path}/{id}"
  displayName := some displayName

/-- The objects of a typical region. -/
def typicalRegion : Catalogs where
  tier0s :=
    [named Path.tier0s "t0-other" "other-gw", named Path.tier0s "t0-legacy" "legacy",
     named Path.tier0s "t0-main" "tier0-gw"]
  transportZones :=
    [named Path.transportZones "tz-vlan" "tz-vlan", named Path.transportZones "tz-1" "tz-overlay"]
  edgeClusters := [named Path.edgeClusters "ec-1" "edge-cluster-1"]
  ipPools :=
    [named Path.ipPools "pool-a" "pool-a", named Path.ipPools "pool-b" "pool-b",
     named Path.ipPools "pool-c" "pool-c", named Path.ipPools "snat" "snat-pool"]

/-- The control plane with the objects of a typical region. -/
def withRegion (s : Simulator) : Simulator := { s with catalogs := typicalRegion }

/-- Make a method fail when it is called next. -/
def failNext (s : Simulator) (m : Method) : Simulator :=
  { s with failures := if s.failures.contains m then s.failures else m :: s.failures }

/-- Add a load-balancer object. -/
def addBalancer (s : Simulator) (k : BalancerKind) (id : String) (tags : List Tag) : Simulator :=
  let o := { named (Path.balancerObjects k) id id with tags }
  { s with balancers := s.balancers.set k (s.balancers.get k ++ [o]) }

/-- Add a logical switch. -/
def addSwitch (s : Simulator) (switch : LogicalSwitch) : Simulator :=
  { s with switches := s.switches ++ [switch] }

/-- Add a DHCP profile under its id, or under a fresh one if it has none. -/
def addProfile (s : Simulator) (o : DhcpProfile) : String × Simulator :=
  let (id, s) := match o.id with
    | some id => (id, s)
    | none => s.drawId
  let stored := { o with id := some id, revision := some 0 }
  (id, { s with inventory := s.inventory.put (.manager .dhcpProfile) ⟨"", id⟩ stored })

/-- Remove an object as if by someone else. -/
def removeBehind (s : Simulator) (k : Kind) (place : Place) : Simulator :=
  { s with inventory := s.inventory.remove k place }

/-- Change an object as if by someone else. -/
def editBehind (s : Simulator) (k : Kind) (place : Place) (edit : k.Object → k.Object) :
    Simulator :=
  match s.inventory.find? k place with
  | some o => { s with inventory := s.inventory.put k place (edit o) }
  | none => s

/-- The requests that were made to change something. -/
def mutations (s : Simulator) : List Request := s.calls.filter fun r => r.method.isMutation

end Simulator

end ControlPlane

end ClusterNet
