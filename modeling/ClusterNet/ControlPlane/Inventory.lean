import ClusterNet.ControlPlane.Kind

/-!
# Inventories

The objects that a control plane holds for clusters, a table for each kind.

## Main definitions

* `ControlPlane.Inventory` — the tables;
* `ControlPlane.Inventory.table`, `Inventory.withTable` — the table of a kind, read and replaced;
* `ControlPlane.Inventory.count` — the number of objects.

## Main results

A replaced table is the one that is read afterwards, and no other table changes.
-/

namespace ClusterNet

namespace ControlPlane

/-- The objects of each kind by their places. -/
structure Inventory where
  /-- The tier-1 gateways. -/
  tier1s : OrderedMap Place Tier1 := .empty
  /-- The locale services. -/
  localeServices : OrderedMap Place LocaleService := .empty
  /-- The segments. -/
  segments : OrderedMap Place Segment := .empty
  /-- The allocated addresses. -/
  ipAllocations : OrderedMap Place IpAllocation := .empty
  /-- The NAT rules. -/
  natRules : OrderedMap Place NatRule := .empty
  /-- The DHCP server configurations. -/
  dhcpServerConfigs : OrderedMap Place DhcpServerConfig := .empty
  /-- The DHCP profiles. -/
  dhcpProfiles : OrderedMap Place DhcpProfile := .empty
  /-- The logical DHCP servers. -/
  dhcpServers : OrderedMap Place DhcpServer := .empty
  /-- The logical ports. -/
  logicalPorts : OrderedMap Place LogicalPort := .empty
  /-- The pools of logical DHCP servers. -/
  dhcpIpPools : OrderedMap Place DhcpIpPool := .empty
deriving DecidableEq, Repr

namespace Inventory

/-- The objects of a kind. -/
def table (i : Inventory) : (k : Kind) → OrderedMap Place k.Object
  | .policy .tier1 => i.tier1s
  | .policy .localeService => i.localeServices
  | .policy .segment => i.segments
  | .policy .ipAllocation => i.ipAllocations
  | .policy .natRule => i.natRules
  | .policy .dhcpServerConfig => i.dhcpServerConfigs
  | .manager .dhcpProfile => i.dhcpProfiles
  | .manager .dhcpServer => i.dhcpServers
  | .manager .logicalPort => i.logicalPorts
  | .manager .dhcpIpPool => i.dhcpIpPools

/-- The inventory with other objects of a kind. -/
def withTable (i : Inventory) (k : Kind) (t : OrderedMap Place k.Object) : Inventory :=
  match k, t with
  | .policy .tier1, t => { i with tier1s := t }
  | .policy .localeService, t => { i with localeServices := t }
  | .policy .segment, t => { i with segments := t }
  | .policy .ipAllocation, t => { i with ipAllocations := t }
  | .policy .natRule, t => { i with natRules := t }
  | .policy .dhcpServerConfig, t => { i with dhcpServerConfigs := t }
  | .manager .dhcpProfile, t => { i with dhcpProfiles := t }
  | .manager .dhcpServer, t => { i with dhcpServers := t }
  | .manager .logicalPort, t => { i with logicalPorts := t }
  | .manager .dhcpIpPool, t => { i with dhcpIpPools := t }

@[simp] theorem table_withTable_self (i : Inventory) (k : Kind)
    (t : OrderedMap Place k.Object) : (i.withTable k t).table k = t := by
  rcases k with k | k <;> cases k <;> rfl

theorem table_withTable_of_ne (i : Inventory) {k k' : Kind} (h : k' ≠ k)
    (t : OrderedMap Place k.Object) : (i.withTable k t).table k' = i.table k' := by
  rcases k with k | k <;> rcases k' with k' | k' <;> cases k <;> cases k' <;>
    first | rfl | exact absurd rfl h

/-- The inventory with an object at a place. -/
def put (i : Inventory) (k : Kind) (place : Place) (o : k.Object) : Inventory :=
  i.withTable k ((i.table k).insert place o)

/-- The inventory without the object at a place. -/
def remove (i : Inventory) (k : Kind) (place : Place) : Inventory :=
  i.withTable k ((i.table k).erase place)

/-- The object at a place. -/
def find? (i : Inventory) (k : Kind) (place : Place) : Option k.Object :=
  (i.table k).find? place

@[simp] theorem find?_put_self (i : Inventory) (k : Kind) (place : Place) (o : k.Object) :
    (i.put k place o).find? k place = some o := by
  simp [put, find?]

@[simp] theorem find?_remove_self (i : Inventory) (k : Kind) (place : Place) :
    (i.remove k place).find? k place = none := by
  simp [remove, find?]

@[simp] theorem table_put_self (i : Inventory) (k : Kind) (place : Place) (o : k.Object) :
    (i.put k place o).table k = (i.table k).insert place o :=
  table_withTable_self ..

theorem table_put_of_ne (i : Inventory) {k k' : Kind} (h : k' ≠ k) (place : Place)
    (o : k.Object) : (i.put k place o).table k' = i.table k' :=
  table_withTable_of_ne i h _

@[simp] theorem table_remove_self (i : Inventory) (k : Kind) (place : Place) :
    (i.remove k place).table k = (i.table k).erase place :=
  table_withTable_self ..

theorem table_remove_of_ne (i : Inventory) {k k' : Kind} (h : k' ≠ k) (place : Place) :
    (i.remove k place).table k' = i.table k' :=
  table_withTable_of_ne i h _

/-- The number of objects. -/
def count (i : Inventory) : Nat :=
  Kind.all.foldl (fun n k => n + (i.table k).size) 0

end Inventory

end ControlPlane

end ClusterNet
