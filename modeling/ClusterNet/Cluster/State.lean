import ClusterNet.Json.Codec

/-!
# What is known of a cluster's objects

Objects belong to the control plane. A cluster's state remembers where to find them: it has a slot
for each, which is empty or holds a reference.

## Main definitions

* `Cluster.Reference` — the id and the path of an object;
* `Cluster.State` — the references of a cluster's objects;
* `Cluster.Slot` — the slots, with `State.reference` and `State.withReference` to read and fill
  them.

## The DHCP references

The slots for manager objects lie in a part of the state that is missing until it is needed
(`State.withDhcp`) and is dropped once it is empty again (`State.pruned`). A missing part and an
empty one are written differently, so both are told apart.
-/

namespace ClusterNet

namespace Cluster

/-- Where to find an object. -/
structure Reference where
  /-- Its id. -/
  id : String
  /-- Its path. -/
  path : String
deriving DecidableEq, Repr, Inhabited

/-- The references of a cluster's manager objects. -/
structure DhcpReferences where
  /-- The logical switch of the segment. -/
  logicalSwitch : Option Reference := none
  /-- The DHCP profile. -/
  profile : Option Reference := none
  /-- The logical DHCP server. -/
  server : Option Reference := none
  /-- The port between switch and server. -/
  port : Option Reference := none
  /-- The addresses that the server hands out. -/
  ipPool : Option Reference := none
deriving DecidableEq, Repr, Inhabited

/-- Whether no reference is held. -/
def DhcpReferences.isEmpty (d : DhcpReferences) : Bool := decide (d = {})

/-- What is known of a cluster's objects. -/
structure State where
  /-- The version of the form in which the state is written. -/
  version : Option String := none
  /-- Whether objects may have been created. -/
  creationStarted : Bool := false
  /-- The tier-0 gateway. -/
  tier0Gateway : Option Reference := none
  /-- The edge cluster. -/
  edgeCluster : Option Reference := none
  /-- The transport zone. -/
  transportZone : Option Reference := none
  /-- The pool that the outward address comes from. -/
  snatIpPool : Option Reference := none
  /-- The tier-1 gateway. -/
  tier1Gateway : Option Reference := none
  /-- The gateway's locale service. -/
  localeService : Option Reference := none
  /-- The DHCP server configuration. -/
  dhcpServerConfig : Option Reference := none
  /-- The segment. -/
  segment : Option Reference := none
  /-- The display name of the segment. -/
  segmentName : Option String := none
  /-- The allocation of the outward address. -/
  snatIpAllocation : Option Reference := none
  /-- The outward address. -/
  snatIpAddress : Option String := none
  /-- The rule that gives outward traffic that address. -/
  snatRule : Option Reference := none
  /-- The manager objects. -/
  dhcp : Option DhcpReferences := none
deriving DecidableEq, Repr, Inhabited

/-- The places for references. -/
inductive Slot where
  /-- The tier-0 gateway. -/
  | tier0Gateway
  /-- The edge cluster. -/
  | edgeCluster
  /-- The transport zone. -/
  | transportZone
  /-- The pool that the outward address comes from. -/
  | snatIpPool
  /-- The tier-1 gateway. -/
  | tier1Gateway
  /-- The gateway's locale service. -/
  | localeService
  /-- The DHCP server configuration. -/
  | dhcpServerConfig
  /-- The segment. -/
  | segment
  /-- The allocation of the outward address. -/
  | snatIpAllocation
  /-- The rule that gives outward traffic that address. -/
  | snatRule
  /-- The logical switch of the segment. -/
  | logicalSwitch
  /-- The DHCP profile. -/
  | dhcpProfile
  /-- The logical DHCP server. -/
  | dhcpServer
  /-- The port between switch and server. -/
  | dhcpPort
  /-- The addresses that the server hands out. -/
  | dhcpIpPool
deriving DecidableEq, Repr, Inhabited

namespace Slot

/-- All slots. -/
def all : List Slot :=
  [tier0Gateway, edgeCluster, transportZone, snatIpPool, tier1Gateway, localeService,
   dhcpServerConfig, segment, snatIpAllocation, snatRule, logicalSwitch, dhcpProfile, dhcpServer,
   dhcpPort, dhcpIpPool]

theorem mem_all (slot : Slot) : slot ∈ all := by cases slot <;> decide

/-- Whether the slot lies in the part of the state for manager objects. -/
def isDhcp : Slot → Bool
  | logicalSwitch | dhcpProfile | dhcpServer | dhcpPort | dhcpIpPool => true
  | _ => false

end Slot

/-- The version of the form in which states are written. -/
def stateVersion : String := "1.0"

namespace State

/-- The state of a cluster of which nothing is known yet. -/
def fresh : State where
  version := some stateVersion

/-- The references of manager objects, empty if that part is missing. -/
def dhcpOrEmpty (s : State) : DhcpReferences := s.dhcp.getD {}

/-- The state with a part for manager objects. -/
def withDhcp (s : State) : State := { s with dhcp := some s.dhcpOrEmpty }

/-- The state without a part for manager objects that holds no reference. -/
def pruned (s : State) : State :=
  match s.dhcp with
  | some d => if d.isEmpty then { s with dhcp := none } else s
  | none => s

/-- The reference in a slot. -/
def reference (s : State) : Slot → Option Reference
  | .tier0Gateway => s.tier0Gateway
  | .edgeCluster => s.edgeCluster
  | .transportZone => s.transportZone
  | .snatIpPool => s.snatIpPool
  | .tier1Gateway => s.tier1Gateway
  | .localeService => s.localeService
  | .dhcpServerConfig => s.dhcpServerConfig
  | .segment => s.segment
  | .snatIpAllocation => s.snatIpAllocation
  | .snatRule => s.snatRule
  | .logicalSwitch => s.dhcpOrEmpty.logicalSwitch
  | .dhcpProfile => s.dhcpOrEmpty.profile
  | .dhcpServer => s.dhcpOrEmpty.server
  | .dhcpPort => s.dhcpOrEmpty.port
  | .dhcpIpPool => s.dhcpOrEmpty.ipPool

/-- The state with a slot filled or emptied. -/
def withReference (s : State) (slot : Slot) (r : Option Reference) : State :=
  match slot with
  | .tier0Gateway => { s with tier0Gateway := r }
  | .edgeCluster => { s with edgeCluster := r }
  | .transportZone => { s with transportZone := r }
  | .snatIpPool => { s with snatIpPool := r }
  | .tier1Gateway => { s with tier1Gateway := r }
  | .localeService => { s with localeService := r }
  | .dhcpServerConfig => { s with dhcpServerConfig := r }
  | .segment => { s with segment := r }
  | .snatIpAllocation => { s with snatIpAllocation := r }
  | .snatRule => { s with snatRule := r }
  | .logicalSwitch => { s with dhcp := some { s.dhcpOrEmpty with logicalSwitch := r } }
  | .dhcpProfile => { s with dhcp := some { s.dhcpOrEmpty with profile := r } }
  | .dhcpServer => { s with dhcp := some { s.dhcpOrEmpty with server := r } }
  | .dhcpPort => { s with dhcp := some { s.dhcpOrEmpty with port := r } }
  | .dhcpIpPool => { s with dhcp := some { s.dhcpOrEmpty with ipPool := r } }

/-- The state with a slot emptied. The part for manager objects is neither created by this nor
left behind empty. -/
def forgetting (s : State) (slot : Slot) : State :=
  if slot.isDhcp then
    if s.dhcp.isSome then (s.withReference slot none).pruned else s
  else s.withReference slot none

/-- Whether nothing is known of any object. -/
def holdsNoReferences (s : State) : Bool :=
  (Slot.all.all fun slot => (s.reference slot).isNone) && s.segmentName.isNone &&
    s.snatIpAddress.isNone

/-! ### Slots -/

@[simp] theorem reference_withReference_self (s : State) (slot : Slot) (r : Option Reference) :
    (s.withReference slot r).reference slot = r := by
  cases slot <;> rfl

theorem reference_withReference_of_ne (s : State) {slot slot' : Slot} (h : slot' ≠ slot)
    (r : Option Reference) : (s.withReference slot r).reference slot' = s.reference slot' := by
  cases slot <;> cases slot' <;> first | rfl | exact absurd rfl h

@[simp] theorem reference_withDhcp (s : State) (slot : Slot) :
    s.withDhcp.reference slot = s.reference slot := by
  cases slot <;> rfl

@[simp] theorem reference_pruned (s : State) (slot : Slot) :
    s.pruned.reference slot = s.reference slot := by
  obtain ⟨⟩ := s
  rename_i dhcp
  cases dhcp with
  | none => rfl
  | some d =>
    simp only [pruned]
    split
    · next h =>
      have : d = {} := by simpa [DhcpReferences.isEmpty] using h
      subst this
      cases slot <;> rfl
    · rfl

@[simp] theorem segmentName_withReference (s : State) (slot : Slot) (r : Option Reference) :
    (s.withReference slot r).segmentName = s.segmentName := by
  cases slot <;> rfl

@[simp] theorem snatIpAddress_withReference (s : State) (slot : Slot) (r : Option Reference) :
    (s.withReference slot r).snatIpAddress = s.snatIpAddress := by
  cases slot <;> rfl

@[simp] theorem creationStarted_withReference (s : State) (slot : Slot) (r : Option Reference) :
    (s.withReference slot r).creationStarted = s.creationStarted := by
  cases slot <;> rfl

@[simp] theorem version_withReference (s : State) (slot : Slot) (r : Option Reference) :
    (s.withReference slot r).version = s.version := by
  cases slot <;> rfl

/-- Filling a slot with the reference that it holds changes nothing. -/
theorem withReference_of_reference {s : State} {slot : Slot} {r : Reference}
    (h : s.reference slot = some r) : s.withReference slot (some r) = s := by
  obtain ⟨⟩ := s
  rename_i dhcp
  cases slot <;> cases dhcp <;> simp_all [withReference, reference, dhcpOrEmpty] <;> rw [← h]

/-- A reference to a manager object lies in the part for them. -/
theorem withDhcp_of_reference {s : State} {slot : Slot} {r : Reference} (hslot : slot.isDhcp = true)
    (h : s.reference slot = some r) : s.withDhcp = s := by
  obtain ⟨⟩ := s
  rename_i dhcp
  cases dhcp with
  | none => cases slot <;> simp_all [Slot.isDhcp, reference, dhcpOrEmpty]
  | some d => rfl

theorem pruned_cases (s : State) : s.pruned = s ∨ s.pruned = { s with dhcp := none } := by
  rw [pruned]
  split
  · split
    · exact .inr rfl
    · exact .inl rfl
  · exact .inl rfl

@[simp] theorem segmentName_pruned (s : State) : s.pruned.segmentName = s.segmentName := by
  rcases pruned_cases s with h | h <;> rw [h]

@[simp] theorem snatIpAddress_pruned (s : State) : s.pruned.snatIpAddress = s.snatIpAddress := by
  rcases pruned_cases s with h | h <;> rw [h]

@[simp] theorem creationStarted_pruned (s : State) :
    s.pruned.creationStarted = s.creationStarted := by
  rcases pruned_cases s with h | h <;> rw [h]

@[simp] theorem version_pruned (s : State) : s.pruned.version = s.version := by
  rcases pruned_cases s with h | h <;> rw [h]

@[simp] theorem version_forgetting (s : State) (slot : Slot) :
    (s.forgetting slot).version = s.version := by
  rw [forgetting]
  split
  · split
    · rw [version_pruned, version_withReference]
    · rfl
  · exact version_withReference s slot none

/-- Emptying a slot does not create the part for manager objects. -/
theorem dhcp_forgetting_of_eq_none {s : State} (h : s.dhcp = none) (slot : Slot) :
    (s.forgetting slot).dhcp = none := by
  rw [forgetting, h]
  cases slot <;> exact h

@[simp] theorem creationStarted_forgetting (s : State) (slot : Slot) :
    (s.forgetting slot).creationStarted = s.creationStarted := by
  rw [forgetting]
  split
  · split
    · rw [creationStarted_pruned, creationStarted_withReference]
    · rfl
  · exact creationStarted_withReference s slot none

@[simp] theorem segmentName_forgetting (s : State) (slot : Slot) :
    (s.forgetting slot).segmentName = s.segmentName := by
  rw [forgetting]
  split
  · split
    · rw [segmentName_pruned, segmentName_withReference]
    · rfl
  · exact segmentName_withReference s slot none

@[simp] theorem snatIpAddress_forgetting (s : State) (slot : Slot) :
    (s.forgetting slot).snatIpAddress = s.snatIpAddress := by
  rw [forgetting]
  split
  · split
    · rw [snatIpAddress_pruned, snatIpAddress_withReference]
    · rfl
  · exact snatIpAddress_withReference s slot none

@[simp] theorem reference_forgetting_self (s : State) (slot : Slot) :
    (s.forgetting slot).reference slot = none := by
  rw [forgetting]
  split
  · next hdhcp =>
    split
    · rw [reference_pruned, reference_withReference_self]
    · next hnone =>
      have hempty : s.dhcpOrEmpty = {} := by
        rw [dhcpOrEmpty, Option.not_isSome_iff_eq_none.mp hnone, Option.getD_none]
      cases slot <;> first | exact absurd hdhcp (by decide) | simp [reference, hempty]
  · exact reference_withReference_self s slot none

theorem reference_forgetting_of_ne (s : State) {slot slot' : Slot} (h : slot' ≠ slot) :
    (s.forgetting slot).reference slot' = s.reference slot' := by
  rw [forgetting]
  split
  · split
    · rw [reference_pruned, reference_withReference_of_ne s h]
    · rfl
  · exact reference_withReference_of_ne s h none

end State

/-! ### Written form -/

/-- How a reference is written. -/
def Reference.record : Record Reference :=
  .iso
    (.field (.required "id" .text) <| .field (.required "path" .text) .nil)
    (fun (id, path, ()) => { id, path })
    fun r => (r.id, r.path, ())

/-- The codec of references. -/
def Reference.codec : Codec Reference := Reference.record.codec

/-- How the references of manager objects are written. -/
def DhcpReferences.record : Record DhcpReferences :=
  .iso
    (.field (.optional "logicalSwitchRef" Reference.codec) <|
      .field (.optional "profileRef" Reference.codec) <|
      .field (.optional "serverRef" Reference.codec) <|
      .field (.optional "portRef" Reference.codec) <|
      .field (.optional "ipPoolRef" Reference.codec) .nil)
    (fun (logicalSwitch, profile, server, port, ipPool, ()) =>
      { logicalSwitch, profile, server, port, ipPool })
    fun d => (d.logicalSwitch, d.profile, d.server, d.port, d.ipPool, ())

/-- The codec of the references of manager objects. -/
def DhcpReferences.codec : Codec DhcpReferences := DhcpReferences.record.codec

/-- How a state is written. -/
def State.record : Record State :=
  .iso
    (.field (.optional "version" .text) <| .field (.defaulted "creationStarted" .bool false) <|
      .field (.optional "tier0GatewayRef" Reference.codec) <|
      .field (.optional "edgeClusterRef" Reference.codec) <|
      .field (.optional "transportZoneRef" Reference.codec) <|
      .field (.optional "snatIpPoolRef" Reference.codec) <|
      .field (.optional "tier1GatewayRef" Reference.codec) <|
      .field (.optional "localeServiceRef" Reference.codec) <|
      .field (.optional "dhcpServerConfigRef" Reference.codec) <|
      .field (.optional "segmentRef" Reference.codec) <| .field (.optional "segmentName" .text) <|
      .field (.optional "snatIpAddressAllocRef" Reference.codec) <|
      .field (.optional "snatIpAddress" .text) <|
      .field (.optional "snatRuleRef" Reference.codec) <|
      .field (.optional "advancedDhcp" DhcpReferences.codec) .nil)
    (fun (version, creationStarted, tier0Gateway, edgeCluster, transportZone, snatIpPool,
        tier1Gateway, localeService, dhcpServerConfig, segment, segmentName, snatIpAllocation,
        snatIpAddress, snatRule, dhcp, ()) =>
      { version, creationStarted, tier0Gateway, edgeCluster, transportZone, snatIpPool,
        tier1Gateway, localeService, dhcpServerConfig, segment, segmentName, snatIpAllocation,
        snatIpAddress, snatRule, dhcp })
    fun s => (s.version, s.creationStarted, s.tier0Gateway, s.edgeCluster, s.transportZone,
      s.snatIpPool, s.tier1Gateway, s.localeService, s.dhcpServerConfig, s.segment,
      s.segmentName, s.snatIpAllocation, s.snatIpAddress, s.snatRule, s.dhcp, ())

/-- The codec of states. -/
def State.codec : Codec State := State.record.codec

end Cluster

end ClusterNet
