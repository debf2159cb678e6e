import ClusterNet.Proofs.ControlPlane.Inventory
import ClusterNet.Proofs.ControlPlane.Path
import ClusterNet.Proofs.Pipeline.Outcome

/-!
# Nothing is lost sight of

Every object that a control plane holds for a cluster is one that the cluster's state refers to.
This does not survive by itself: an object belongs to another one, and the reference to it is only
good as long as the one to its owner is. So the invariant ties the two together, and it comes with
what keeps owners in place:

* an object is referred to by its own reference and by that of its owner;
* the owners that are the cluster's own are there while they are referred to, so no run ever makes
  others in their place;
* the owner that is only looked up is always the same one.

A run keeps the invariant wherever it stops. A reference that is missing means that there is no
object, so recovery finds nothing to adopt and a new object is the only one of its kind.

## Main definitions

* `Pipeline.ownerSlot`, `Pipeline.parentOf` — what an object belongs to, by what a state knows
* `Pipeline.Refers` — whether a state refers to the object of a kind at a place
* `Pipeline.Custody` — the invariant

## Main results

* `Pipeline.Custody.placed`, `Custody.emptied` — a new object in a free table, and a table that
  became free
* `Pipeline.runTask_custody`, `Pipeline.runTasks_custody` — runs keep the invariant
-/

namespace ClusterNet

namespace Pipeline

open Cluster (InfraError Reference Slot Spec State)
open ControlPlane Program

/-! ### References and what they refer to -/

/-- The slot of the reference to what objects of a kind belong to, if they belong to anything. -/
def ownerSlot : Kind → Option Slot
  | .policy .localeService | .policy .segment | .policy .natRule => some .tier1Gateway
  | .policy .ipAllocation => some .snatIpPool
  | .manager .dhcpIpPool => some .dhcpServer
  | _ => none

/-- The id of what an object of a kind belongs to, by what a state knows. It is empty for kinds
whose objects belong to nothing. -/
def parentOf (k : Kind) (s : State) : Option String :=
  match ownerSlot k with
  | none => some ""
  | some slot => (s.reference slot).map (·.id)

/-- Whether a state refers to the object of a kind at a place: by its id, its path, and the id of
what it belongs to. -/
def Refers (s : State) (k : Kind) (place : Place) : Prop :=
  s.reference (slot k) = some ⟨place.id, k.path place⟩ ∧ parentOf k s = some place.parent

variable {s s' : State} {k k' : Kind} {place place' : Place}

theorem slot_injective {k k' : Kind} (h : slot k = slot k') : k = k' := by
  rcases k with k | k <;> rcases k' with k' | k' <;> cases k <;> cases k' <;>
    first | rfl | exact absurd h (by decide)

/-- No kind belongs to itself. -/
theorem ownerSlot_ne_slot (k : Kind) : ownerSlot k ≠ some (slot k) := by
  rcases k with k | k <;> cases k <;> decide

theorem parentOf_congr
    (h : ∀ slot, ownerSlot k = some slot → s'.reference slot = s.reference slot) :
    parentOf k s' = parentOf k s := by
  rw [parentOf, parentOf]
  split
  · rfl
  · next slot howner => rw [h slot howner]

/-- A state refers to one object of a kind at most. -/
theorem Refers.unique (h : Refers s k place) (h' : Refers s k place') : place = place' := by
  have hid : place.id = place'.id :=
    congrArg Reference.id (Option.some.inj (h.1.symm.trans h'.1))
  have hparent : place.parent = place'.parent := Option.some.inj (h.2.symm.trans h'.2)
  cases place
  cases place'
  simp_all

theorem refers_congr (hown : s'.reference (slot k) = s.reference (slot k))
    (howner : ∀ slot, ownerSlot k = some slot → s'.reference slot = s.reference slot) :
    Refers s' k place ↔ Refers s k place := by
  rw [Refers, Refers, hown, parentOf_congr howner]

/-- A reference that was required is there. -/
theorem reference_of_require {task : String} {slot : Slot} {r : Reference}
    (h : require task s slot = .ok r) : s.reference slot = some r := by
  rw [require] at h
  split at h
  · next r' href => rw [href, Except.ok.inj h]
  · cases h

/-- What an object is drafted to belong to is what it belongs to. -/
theorem parentOf_of_draft {identity : ClusterIdentity} {spec : Spec} {parent : String}
    {o : k.Object} (h : draft identity spec s k = .ok (parent, o)) :
    parentOf k s = some parent := by
  cases k with
  | policy k =>
    cases k with
    | tier1 =>
      obtain ⟨tier0, -, h₁⟩ := ok_of_bind h
      obtain ⟨rfl, -⟩ := Prod.mk.inj (Except.ok.inj h₁)
      rfl
    | localeService =>
      obtain ⟨edgeCluster, -, h₁⟩ := ok_of_bind h
      obtain ⟨gateway, hgateway, h₂⟩ := ok_of_bind h₁
      obtain ⟨rfl, -⟩ := Prod.mk.inj (Except.ok.inj h₂)
      exact congrArg (Option.map (·.id)) (reference_of_require hgateway)
    | dhcpServerConfig =>
      obtain ⟨edgeCluster, -, h₁⟩ := ok_of_bind h
      obtain ⟨plan, -, h₂⟩ := ok_of_bind h₁
      obtain ⟨rfl, -⟩ := Prod.mk.inj (Except.ok.inj h₂)
      rfl
    | segment =>
      obtain ⟨gateway, hgateway, h₁⟩ := ok_of_bind h
      obtain ⟨transportZone, -, h₂⟩ := ok_of_bind h₁
      obtain ⟨plan, -, h₃⟩ := ok_of_bind h₂
      obtain ⟨rfl, -⟩ := Prod.mk.inj (Except.ok.inj h₃)
      exact congrArg (Option.map (·.id)) (reference_of_require hgateway)
    | ipAllocation =>
      obtain ⟨pool, hpool, h₁⟩ := ok_of_bind h
      obtain ⟨rfl, -⟩ := Prod.mk.inj (Except.ok.inj h₁)
      exact congrArg (Option.map (·.id)) (reference_of_require hpool)
    | natRule =>
      obtain ⟨address, -, h₁⟩ := ok_of_bind h
      obtain ⟨workers, -, h₂⟩ := ok_of_bind h₁
      obtain ⟨gateway, hgateway, h₃⟩ := ok_of_bind h₂
      obtain ⟨rfl, -⟩ := Prod.mk.inj (Except.ok.inj h₃)
      exact congrArg (Option.map (·.id)) (reference_of_require hgateway)
  | manager k =>
    cases k with
    | dhcpProfile =>
      obtain ⟨edgeCluster, -, h₁⟩ := ok_of_bind h
      obtain ⟨rfl, -⟩ := Prod.mk.inj (Except.ok.inj h₁)
      rfl
    | dhcpServer =>
      obtain ⟨profile, -, h₁⟩ := ok_of_bind h
      obtain ⟨plan, -, h₂⟩ := ok_of_bind h₁
      obtain ⟨rfl, -⟩ := Prod.mk.inj (Except.ok.inj h₂)
      rfl
    | logicalPort =>
      obtain ⟨switch, -, h₁⟩ := ok_of_bind h
      obtain ⟨server, -, h₂⟩ := ok_of_bind h₁
      obtain ⟨rfl, -⟩ := Prod.mk.inj (Except.ok.inj h₂)
      rfl
    | dhcpIpPool =>
      obtain ⟨server, hserver, h₁⟩ := ok_of_bind h
      obtain ⟨plan, -, h₂⟩ := ok_of_bind h₁
      obtain ⟨rfl, -⟩ := Prod.mk.inj (Except.ok.inj h₂)
      exact congrArg (Option.map (·.id)) (reference_of_require hserver)

/-! ### The invariant -/

/-- Whether a reference is to what a search of the pools of addresses finds. -/
def IsPool (plane : Simulator) (name : String) (rounds : Nat) (r : Reference) : Prop :=
  ∃ o, firstIn (plane.catalogs.get .ipPools) plane.pageSize (fun o => o.displayName == some name)
      none rounds = .done (.ok (some o)) ∧ r = ⟨o.id, o.path⟩

theorem IsPool.unique {plane : Simulator} {name : String} {rounds : Nat} {r r' : Reference}
    (h : IsPool plane name rounds r) (h' : IsPool plane name rounds r') : r = r' := by
  obtain ⟨o, hfirst, rfl⟩ := h
  obtain ⟨o', hfirst', rfl⟩ := h'
  rw [hfirst] at hfirst'
  cases hfirst'
  rfl

theorem IsPool.congr {plane plane' : Simulator} {name : String} {rounds : Nat} {r : Reference}
    (h : IsPool plane name rounds r) (hsettings : Part.settings.Same plane plane') :
    IsPool plane' name rounds r := by
  obtain ⟨o, hfirst, rfl⟩ := h
  refine ⟨o, ?_, rfl⟩
  rw [hsettings.1, hsettings.2.1]
  exact hfirst

/-- **The state refers to every object that the control plane holds**, and owners stay in place.
The name is that of the pool of addresses, and the rounds are those of a search for it. -/
structure Custody (name : String) (rounds : Nat) (w : World) : Prop where
  /-- A reference to an object comes with one to its owner. -/
  homed : ∀ k r, w.2.reference (slot k) = some r → ∃ place, Refers w.2 k place
  /-- Every object is referred to. -/
  held : ∀ k place, w.1.inventory.Holds k place → Refers w.2 k place
  /-- An owner that is referred to is there. -/
  present : ∀ k k' place, ownerSlot k' = some (slot k) → Refers w.2 k place →
    w.1.inventory.Holds k place
  /-- The ids of objects can be part of paths. -/
  drawn : ∀ k place, Refers w.2 k place → Path.IsId place.id
  /-- The pool of addresses is the one that is found. -/
  pooled : ∀ r, w.2.reference .snatIpPool = some r → IsPool w.1 name rounds r
  /-- So can the ids that will be drawn. -/
  ids : ∀ n, Path.IsId (w.1.freshId n)

variable {name : String} {rounds : Nat} {w w' : World}

/-- A control plane without objects, for a state without references. -/
theorem custody_of_empty (hholds : ∀ k place, ¬ w.1.inventory.Holds k place)
    (hreference : ∀ slot, w.2.reference slot = none) (hids : ∀ n, Path.IsId (w.1.freshId n)) :
    Custody name rounds w := by
  have hrefers : ∀ k place, ¬ Refers w.2 k place := by
    intro k place h
    cases (hreference (slot k)).symm.trans h.1
  refine ⟨fun k r h => ?_, fun k place h => absurd h (hholds k place),
    fun k _ place _ h => absurd h (hrefers k place), fun k place h => absurd h (hrefers k place),
    fun r h => ?_, hids⟩
  · cases (hreference (slot k)).symm.trans h
  · cases (hreference .snatIpPool).symm.trans h

theorem slot_ne_snatIpPool (k : Kind) : slot k ≠ .snatIpPool := by
  rcases k with k | k <;> cases k <;> decide

/-- An owner is an object of the cluster or the pool of addresses. -/
theorem ownerSlot_cases {slot' : Slot} (h : ownerSlot k = some slot') :
    slot' = .snatIpPool ∨ ∃ k', slot' = slot k' := by
  match k with
  | .policy .localeService | .policy .segment | .policy .natRule =>
    exact .inr ⟨.policy .tier1, (Option.some.inj h).symm⟩
  | .policy .ipAllocation => exact .inl (Option.some.inj h).symm
  | .manager .dhcpIpPool => exact .inr ⟨.manager .dhcpServer, (Option.some.inj h).symm⟩
  | .policy .tier1 | .policy .dhcpServerConfig | .manager .dhcpProfile | .manager .dhcpServer
  | .manager .logicalPort => cases h

/-- Only allocations belong to the pool of addresses. -/
theorem eq_ipAllocation_of_ownerSlot (h : ownerSlot k = some .snatIpPool) :
    k = .policy .ipAllocation := by
  match k with
  | .policy .ipAllocation => rfl
  | .policy .tier1 | .policy .localeService | .policy .segment | .policy .natRule
  | .policy .dhcpServerConfig | .manager .dhcpProfile | .manager .dhcpServer
  | .manager .logicalPort | .manager .dhcpIpPool => exact nomatch h

/-- The invariant is about what is referred to and what is held. -/
theorem Custody.of_refers (h : Custody name rounds w)
    (hslots : ∀ k, w'.2.reference (slot k) = w.2.reference (slot k))
    (hrefers : ∀ k place, Refers w'.2 k place ↔ Refers w.2 k place)
    (hpooled : ∀ r, w'.2.reference .snatIpPool = some r → IsPool w.1 name rounds r)
    (hholds : ∀ k place, w'.1.inventory.Holds k place ↔ w.1.inventory.Holds k place)
    (hsettings : Part.settings.Same w.1 w'.1) : Custody name rounds w' := by
  constructor
  · intro k r href
    obtain ⟨place, hplace⟩ := h.homed k r ((hslots k).symm.trans href)
    exact ⟨place, (hrefers k place).mpr hplace⟩
  · intro k place hmem
    exact (hrefers k place).mpr (h.held k place ((hholds k place).mp hmem))
  · exact fun k k' place hslot hplace =>
      (hholds k place).mpr (h.present k k' place hslot ((hrefers k place).mp hplace))
  · intro k place hplace
    exact h.drawn k place ((hrefers k place).mp hplace)
  · intro r href
    exact (hpooled r href).congr hsettings
  · intro n
    rw [hsettings.2.2]
    exact h.ids n

/-- **The invariant is about references and places only.** -/
theorem Custody.congr (h : Custody name rounds w)
    (hslots : ∀ k, w'.2.reference (slot k) = w.2.reference (slot k))
    (hpool : w'.2.reference .snatIpPool = w.2.reference .snatIpPool)
    (hholds : ∀ k place, w'.1.inventory.Holds k place ↔ w.1.inventory.Holds k place)
    (hsettings : Part.settings.Same w.1 w'.1) : Custody name rounds w' := by
  have howner : ∀ k slot', ownerSlot k = some slot' →
      w'.2.reference slot' = w.2.reference slot' := by
    intro k slot' hslot
    rcases ownerSlot_cases hslot with rfl | ⟨k', rfl⟩
    · exact hpool
    · exact hslots k'
  refine h.of_refers hslots (fun k place => ?_) (fun r href => ?_) hholds hsettings
  · exact refers_congr (hslots k) (howner k)
  · exact h.pooled r (hpool.symm.trans href)

/-- Objects may vanish, as long as owners stay in place. -/
theorem Custody.thinned (h : Custody name rounds w) {plane : Simulator}
    (hheld : ∀ k place, plane.inventory.Holds k place → w.1.inventory.Holds k place)
    (hpresent : ∀ k k' place, ownerSlot k' = some (slot k) →
      w.1.inventory.Holds k place → plane.inventory.Holds k place)
    (hsettings : Part.settings.Same w.1 plane) : Custody name rounds (plane, w.2) := by
  constructor
  · exact h.homed
  · intro k place hmem
    exact h.held k place (hheld k place hmem)
  · exact fun k k' place hslot hplace =>
      hpresent k k' place hslot (h.present k k' place hslot hplace)
  · exact h.drawn
  · intro r href
    exact (h.pooled r href).congr hsettings
  · intro n
    rw [hsettings.2.2]
    exact h.ids n

/-- Nothing belongs to an object that there is no reference to. -/
theorem Custody.childless (h : Custody name rounds w) {slot' : Slot}
    (hnone : w.2.reference slot' = none) (hslot : ownerSlot k = some slot') :
    w.2.reference (slot k) = none := by
  cases href : w.2.reference (slot k) with
  | none => rfl
  | some r =>
    obtain ⟨place, -, hparent⟩ := h.homed k r href
    rw [parentOf, hslot] at hparent
    dsimp only at hparent
    rw [hnone] at hparent
    cases hparent

/-- **The table of one kind changes together with its reference**, while nothing belongs to objects
of that kind. -/
theorem Custody.replaced (h : Custody name rounds w) (k : Kind)
    (hchildless : ∀ k', ownerSlot k' = some (slot k) → w.2.reference (slot k') = none)
    (hothers : ∀ slot', slot' ≠ slot k → w'.2.reference slot' = w.2.reference slot')
    (hkinds : ∀ k', k' ≠ k → ∀ place,
      w'.1.inventory.Holds k' place ↔ w.1.inventory.Holds k' place)
    (hsettings : Part.settings.Same w.1 w'.1)
    (hhomed : ∀ r, w'.2.reference (slot k) = some r → ∃ place, Refers w'.2 k place)
    (hown : ∀ place, w'.1.inventory.Holds k place ↔ Refers w'.2 k place)
    (hdrawn : ∀ place, Refers w'.2 k place → Path.IsId place.id) : Custody name rounds w' := by
  have hslots : ∀ k', k' ≠ k → w'.2.reference (slot k') = w.2.reference (slot k') :=
    fun k' hne => hothers (slot k') fun heq => hne (slot_injective heq)
  have hrefers : ∀ k', k' ≠ k → ∀ place, Refers w'.2 k' place ↔ Refers w.2 k' place := by
    intro k' hne place
    by_cases hchild : ownerSlot k' = some (slot k)
    · have hnone := hchildless k' hchild
      constructor
      · intro h'
        cases ((hslots k' hne).trans hnone).symm.trans h'.1
      · intro h'
        cases hnone.symm.trans h'.1
    · have howner : ∀ slot', ownerSlot k' = some slot' →
          w'.2.reference slot' = w.2.reference slot' :=
        fun slot' hslot => hothers slot' fun heq => hchild (heq ▸ hslot)
      exact refers_congr (hslots k' hne) howner
  constructor
  · intro k' r href
    by_cases hk : k' = k
    · subst hk
      exact hhomed r href
    · obtain ⟨place, hplace⟩ := h.homed k' r ((hslots k' hk).symm.trans href)
      exact ⟨place, (hrefers k' hk place).mpr hplace⟩
  · intro k' place hmem
    by_cases hk : k' = k
    · subst hk
      exact (hown place).mp hmem
    · exact (hrefers k' hk place).mpr (h.held k' place ((hkinds k' hk place).mp hmem))
  · intro k' k'' place hslot hplace
    by_cases hk : k' = k
    · subst hk
      exact (hown place).mpr hplace
    · exact (hkinds k' hk place).mpr
        (h.present k' k'' place hslot ((hrefers k' hk place).mp hplace))
  · intro k' place hplace
    by_cases hk : k' = k
    · subst hk
      exact hdrawn place hplace
    · exact h.drawn k' place ((hrefers k' hk place).mp hplace)
  · intro r href
    have hpool := hothers .snatIpPool (slot_ne_snatIpPool k).symm
    exact (h.pooled r (hpool.symm.trans href)).congr hsettings
  · intro n
    rw [hsettings.2.2]
    exact h.ids n

/-- **A new object in a free table.** -/
theorem Custody.placed (h : Custody name rounds w) {o : k.Object}
    (hparent : parentOf k w.2 = some place.parent) (hid : Path.IsId place.id)
    (hfree : ∀ place', ¬ w.1.inventory.Holds k place')
    (hchildless : ∀ k', ownerSlot k' = some (slot k) → w.2.reference (slot k') = none)
    (hown : w'.2.reference (slot k) = some ⟨place.id, k.path place⟩)
    (hothers : ∀ slot', slot' ≠ slot k → w'.2.reference slot' = w.2.reference slot')
    (hput : w'.1.inventory = w.1.inventory.put k place o)
    (hsettings : Part.settings.Same w.1 w'.1) : Custody name rounds w' := by
  have hrefers : Refers w'.2 k place := by
    refine ⟨hown, (parentOf_congr fun slot' hslot => hothers slot' ?_).trans hparent⟩
    intro heq
    exact ownerSlot_ne_slot k (heq ▸ hslot)
  refine h.replaced k hchildless hothers (fun k' hne place' => ?_) hsettings
    (fun _ _ => ⟨place, hrefers⟩) (fun place' => ?_) fun place' h' => ?_
  · rw [hput]
    exact Inventory.holds_put_of_ne hne
  · rw [hput, Inventory.holds_put_iff]
    constructor
    · rintro (rfl | hmem)
      · exact hrefers
      · exact absurd hmem (hfree place')
    · intro h'
      exact .inl (h'.unique hrefers)
  · rw [h'.unique hrefers]
    exact hid

/-- **A table that became free.** -/
theorem Custody.emptied (h : Custody name rounds w)
    (hchildless : ∀ k', ownerSlot k' = some (slot k) → w.2.reference (slot k') = none)
    (hown : w'.2.reference (slot k) = none)
    (hothers : ∀ slot', slot' ≠ slot k → w'.2.reference slot' = w.2.reference slot')
    (hfree : ∀ place', ¬ w'.1.inventory.Holds k place')
    (hkinds : ∀ k', k' ≠ k → ∀ place,
      w'.1.inventory.Holds k' place ↔ w.1.inventory.Holds k' place)
    (hsettings : Part.settings.Same w.1 w'.1) : Custody name rounds w' := by
  have hrefers : ∀ place', ¬ Refers w'.2 k place' := by
    intro place' h'
    cases hown.symm.trans h'.1
  refine h.replaced k hchildless hothers hkinds hsettings (fun r href => ?_) (fun place' => ?_)
    fun place' h' => absurd h' (hrefers place')
  · cases hown.symm.trans href
  · exact ⟨fun hmem => absurd hmem (hfree place'), fun h' => absurd h' (hrefers place')⟩

/-- **The pool of addresses is looked up or forgotten** while there is no allocation. -/
theorem Custody.repooled (h : Custody name rounds w)
    (hothers : ∀ slot', slot' ≠ .snatIpPool → w'.2.reference slot' = w.2.reference slot')
    (hpooled : ∀ r, w'.2.reference .snatIpPool = some r → IsPool w.1 name rounds r)
    (hnone : w.2.reference .snatIpAllocation = none)
    (hholds : ∀ k place, w'.1.inventory.Holds k place ↔ w.1.inventory.Holds k place)
    (hsettings : Part.settings.Same w.1 w'.1) : Custody name rounds w' := by
  have hslots : ∀ k, w'.2.reference (slot k) = w.2.reference (slot k) :=
    fun k => hothers (slot k) (slot_ne_snatIpPool k)
  refine h.of_refers hslots (fun k place => ?_) hpooled hholds hsettings
  by_cases hk : k = .policy .ipAllocation
  · subst hk
    constructor
    · intro h'
      cases ((hslots (.policy .ipAllocation)).trans hnone).symm.trans h'.1
    · intro h'
      cases hnone.symm.trans h'.1
  · have howner : ∀ slot', ownerSlot k = some slot' →
        w'.2.reference slot' = w.2.reference slot' := by
      intro slot' hslot
      exact hothers slot' fun heq => hk (eq_ipAllocation_of_ownerSlot (heq ▸ hslot))
    exact refers_congr (hslots k) howner

/-- What writes nothing that the invariant is about keeps it. -/
theorem Custody.of_confined (h : Custody name rounds w) {writes : List Resource}
    (hconfined : Confined writes w w') (hslots : ∀ k, .slot (slot k) ∉ writes)
    (hpool : .slot .snatIpPool ∉ writes) (htables : ∀ k, .part (.table k) ∉ writes)
    (hsettings : .part .settings ∉ writes) : Custody name rounds w' :=
  h.congr (fun k => hconfined _ (hslots k)) (hconfined _ hpool)
    (fun k _ => Inventory.holds_of_table_eq (hconfined _ (htables k))) (hconfined _ hsettings)

/-! ### Bringing about -/

variable {b b' : Testbed} {c : Context} {spec : Spec} {es : List Event}

/-- Creating an object keeps the invariant if there is none of its kind. -/
theorem Built.custody {parent : String} {o : k.Object} {left : Left Action}
    (h : Built parent s k o es left) (hqueued : b.queued = [])
    (hreplies : Replies Testbed.perform es b b') (hc : Custody name rounds (b.plane, s))
    (hparent : parentOf k s = some parent) (hfree : ∀ place, ¬ b.plane.inventory.Holds k place)
    (hchildless : ∀ k', ownerSlot k' = some (slot k) → s.reference (slot k') = none) :
    Custody name rounds (b'.plane, left.2) := by
  have hsettings : Part.settings.Same b.plane b'.plane := Testbed.replies_settings hreplies hqueued
  rcases h.stored hqueued hreplies with ⟨n, stored, rfl, hput, -⟩ | ⟨e, rfl, hsame⟩
  · have hid : Path.IsId (Place.mk parent (b.plane.freshId n)).id := hc.ids n
    refine hc.placed hparent hid hfree hchildless ?_ (fun slot' hne => ?_) hput hsettings
    · show (recorded k parent _ o s).reference (slot k) = _
      rw [reference_recorded, State.reference_withReference_self]
    · show (recorded k parent _ o s).reference slot' = s.reference slot'
      rw [reference_recorded, State.reference_withReference_of_ne s hne]
  · refine hc.congr (fun _ => rfl) rfl (fun k' place => ?_) hsettings
    show b'.plane.inventory.Holds k' place ↔ b.plane.inventory.Holds k' place
    rw [hsame]

/-- Changing an object takes and frees no place. -/
theorem Overwritten.holds_iff {current desired : k.Object} {left : Left Action}
    (h : Overwritten place s k current desired es left) (hqueued : b.queued = [])
    (hreplies : Replies Testbed.perform es b b') (hheld : b.plane.inventory.Holds k place)
    (k' : Kind) (place' : Place) :
    b'.plane.inventory.Holds k' place' ↔ b.plane.inventory.Holds k' place' := by
  rcases h.stored hqueued hreplies with ⟨stored, hput, -⟩ | ⟨e, -, hsame⟩
  · rw [hput]
    exact Inventory.holds_put_of_holds hheld
  · rw [hsame]

/-- The invariant is not about what is asked, nor about the part for manager objects. -/
theorem Custody.opened (h : Custody name rounds (b.plane, s)) (k : Kind) {plane : Simulator}
    (hsame : plane.inventory = b.plane.inventory) (hsettings : Part.settings.Same b.plane plane) :
    Custody name rounds (plane, opened k s) :=
  h.congr (fun k' => reference_opened k s (slot k')) (reference_opened k s .snatIpPool)
    (fun k' place => by
      show plane.inventory.Holds k' place ↔ b.plane.inventory.Holds k' place
      rw [hsame]) hsettings

theorem parentOf_opened (k k' : Kind) (s : State) : parentOf k' (opened k s) = parentOf k' s :=
  parentOf_congr fun slot' _ => reference_opened k s slot'

/-- **Bringing an object about keeps the invariant.** -/
theorem Ensured.custody {left : Left Action} (h : Ensured k c spec s es left)
    (hqueued : b.queued = []) (hreplies : Replies Testbed.perform es b b')
    (hc : Custody name rounds (b.plane, s)) : Custody name rounds (b'.plane, left.2) := by
  have hsettings : Part.settings.Same b.plane b'.plane := Testbed.replies_settings hreplies hqueued
  cases h with
  | undrafted hdraft =>
    rw [replies_nil.mp hreplies]
    exact hc
  | first hdraft href h =>
    have hparent := parentOf_of_draft hdraft
    refine h.custody hqueued hreplies (hc.opened k rfl (.refl _ _)) ?_ (fun place hheld => ?_)
      fun k' hslot => ?_
    · rw [parentOf_opened, hparent]
    · cases href.symm.trans (hc.held k place hheld).1
    · rw [reference_opened]
      exact hc.childless href hslot
  | kept hdraft href hagrees =>
    obtain ⟨-, hsame⟩ := Simulator.get_of_answer_ok (Testbed.replies_called hqueued hreplies)
    exact hc.opened k hsame hsettings
  | changed hdraft href hagrees h =>
    obtain ⟨plane, hanswer, hreplies⟩ := Testbed.replies_call hqueued hreplies
    obtain ⟨hfind, hsame⟩ := Simulator.get_of_answer_ok hanswer
    have hheld := Inventory.holds_of_find? hfind
    rw [← hsame] at hheld
    have hholds := h.holds_iff (b := { b with plane }) hqueued hreplies hheld
    refine hc.congr (fun k' => ?_) ?_ (fun k' place => (hholds k' place).trans ?_) hsettings
    · exact (h.reference (slot k')).trans (reference_opened k s (slot k'))
    · exact (h.reference .snatIpPool).trans (reference_opened k s .snatIpPool)
    · show plane.inventory.Holds k' place ↔ b.plane.inventory.Holds k' place
      rw [hsame]
  | @again parent o r e es _ hdraft href he h =>
    obtain ⟨plane, hanswer, hreplies⟩ := Testbed.replies_call hqueued hreplies
    have hsame := Simulator.inventory_of_answer_error hanswer
    have hnone := Simulator.get_of_answer_notFound hanswer he
    have hparent := parentOf_of_draft hdraft
    have hfree : ∀ place, ¬ b.plane.inventory.Holds k place := by
      intro place hheld
      obtain ⟨hown, hparent'⟩ := hc.held k place hheld
      have hid : r.id = place.id := congrArg Reference.id (Option.some.inj (href.symm.trans hown))
      rw [Option.some.inj (hparent.symm.trans hparent'), hid] at hnone
      exact Inventory.find?_eq_none_iff.mp hnone hheld
    have hplane : Part.settings.Same b.plane plane := by
      have hanswered := Simulator.answer_same
        (r := .get k ⟨parent, r.id⟩) (Request.settings_not_mem_touches _) b.plane
      rwa [hanswer] at hanswered
    refine h.custody (b := { b with plane }) hqueued hreplies (hc.opened k hsame hplane) ?_ ?_
      fun k' hslot => ?_
    · rw [parentOf_opened, hparent]
    · rw [hsame]
      exact hfree
    · obtain ⟨place, hplace⟩ := hc.homed k r href
      exact absurd (hc.present k k' place hslot hplace) (hfree place)
  | unread hdraft href he =>
    have hsame := Simulator.inventory_of_answer_error (Testbed.replies_called hqueued hreplies)
    exact hc.opened k hsame hsettings

/-! ### Recovery -/

/-- A search among no objects adopts nothing. -/
theorem adopted_of_found {k : ManagerKind} {parent : String}
    {found : Except ApiError (Option k.Object)} (h : ∀ o, found = .ok o → o = none) :
    (adopted k parent s found).2 = s := by
  cases found with
  | error e => rfl
  | ok o =>
    rw [h o rfl]
    rfl

/-- Recovery looks for objects only where there are none. -/
theorem recoverIfLost_custody {t : Task} {left : Left Unit} (hqueued : b.queued = [])
    (h : b.run (recoverIfLost t c s) = (some left, b')) (hc : Custody name rounds (b.plane, s)) :
    b'.queued = [] ∧ Custody name rounds (b'.plane, left.2) := by
  obtain ⟨hqueued', hparts⟩ := recoverIfLost_same hqueued h
  have hstate : left.2 = s := by
    rcases recoverIfLost_cases t c s with hrecover | ⟨k, rfl, hnone, hrecover⟩
    · rw [hrecover] at h
      obtain ⟨rfl, -⟩ := run_done_eq_some_iff.mp h
      rfl
    · rw [hrecover, adopt_eq] at h
      obtain ⟨left', b₁, h₁, h₂⟩ := run_bind_eq_some_iff.mp h
      obtain ⟨rfl, -⟩ := run_done_eq_some_iff.mp h₂
      show left'.2 = s
      split at h₁
      · obtain ⟨rfl, -⟩ := run_done_eq_some_iff.mp h₁
        rfl
      · next parent _ =>
        obtain ⟨found, b₂, h₃, h₄⟩ := run_bind_eq_some_iff.mp h₁
        obtain ⟨rfl, -⟩ := run_done_eq_some_iff.mp h₄
        refine adopted_of_found ?_
        intro o hfound
        have htable : b.plane.inventory.table (.manager k) = .empty := by
          refine Inventory.table_eq_empty ?_
          intro place hheld
          cases (show s.reference (slot (.manager k)) = none from hnone).symm.trans
            (hc.held (.manager k) place hheld).1
        have hobjects : b.plane.objectsOf k parent = [] := by
          rw [Simulator.objectsOf, htable]
          rfl
        subst hfound
        have hfirst := (lists_objectsOf k parent).loop_ok hqueued h₃
        rw [hobjects] at hfirst
        exact firstIn_nil hfirst
  rw [hstate]
  exact ⟨hqueued', hc.congr (fun _ => rfl) rfl
    (fun k _ => Inventory.holds_of_table_eq (hparts (.table k))) (hparts .settings)⟩

/-! ### Runs -/

/-- Looking the pool of addresses up finds it, or leaves the state alone. -/
theorem pool_of_runTask {left : Left Action} (hqueued : b.queued = [])
    (h : b.run (runTask (.lookUp .ipPools) c spec s) = (some left, b')) :
    left.2 = s ∨ ∃ r, left.2.reference .snatIpPool = some r ∧
      IsPool b.plane spec.snatIpPoolName c.rounds r := by
  obtain ⟨⟨recovered, s₁⟩, b₁, h₁, h₂⟩ := run_bind_eq_some_iff.mp h
  rcases recoverIfLost_cases (.lookUp .ipPools) c s with hrecover | ⟨k, hk, -⟩
  · rw [hrecover] at h₁
    obtain ⟨hleft, rfl⟩ := run_done_eq_some_iff.mp h₁
    obtain ⟨rfl, rfl⟩ := Prod.mk.inj hleft
    obtain ⟨⟨result, s₂⟩, b₂, h₃, h₄⟩ := run_bind_eq_some_iff.mp h₂
    obtain ⟨rfl, rfl⟩ := run_done_eq_some_iff.mp h₄
    obtain ⟨found, b₃, h₅, h₆⟩ := run_bind_eq_some_iff.mp h₃
    obtain ⟨hbound, -⟩ := run_done_eq_some_iff.mp h₆
    match found with
    | .error e => exact .inl (Prod.mk.inj hbound).2
    | .ok none => exact .inl (Prod.mk.inj hbound).2
    | .ok (some o) =>
      refine .inr ⟨⟨o.id, o.path⟩, ?_, o, (lists_catalog .ipPools).loop_ok hqueued h₅, rfl⟩
      show s₂.reference .snatIpPool = _
      rw [(Prod.mk.inj hbound).2]
      exact State.reference_withReference_self ..
  · cases hk

/-- A task that looks after no object keeps the invariant, unless it looks the pool up. -/
theorem custody_of_lookUp {t : Task} {left : Left Action} (hqueued : b.queued = [])
    (h : b.run (runTask t c spec s) = (some left, b')) (hc : Custody name rounds (b.plane, s))
    (ht : ∀ k, t ≠ .managed k) (hpool : t ≠ .lookUp .ipPools) :
    Custody name rounds (b'.plane, left.2) := by
  obtain ⟨-, hconfined⟩ := runTask_confined hqueued h
  match t with
  | .managed k => exact absurd rfl (ht k)
  | .lookUp .ipPools => exact absurd rfl hpool
  | .lookUp .tier0s | .lookUp .edgeClusters | .lookUp .transportZones | .realization
  | .lookUpSwitch =>
    refine hc.of_confined hconfined (fun k => ?_) (by decide) (fun k => ?_) (by decide)
    · rcases k with k | k <;> cases k <;> decide
    · rcases k with k | k <;> cases k <;> decide

/-- Looking the pool up keeps the invariant: an allocation refers to the pool that is found. -/
theorem custody_of_lookUp_ipPools {left : Left Action} (hqueued : b.queued = [])
    (h : b.run (runTask (.lookUp .ipPools) c spec s) = (some left, b'))
    (hc : Custody spec.snatIpPoolName c.rounds (b.plane, s)) :
    Custody spec.snatIpPoolName c.rounds (b'.plane, left.2) := by
  obtain ⟨-, hconfined⟩ := runTask_confined hqueued h
  have hslots : ∀ slot', slot' ≠ .snatIpPool → left.2.reference slot' = s.reference slot' := by
    intro slot' hne
    refine hconfined (.slot slot') fun hmem => hne ?_
    exact Resource.slot.inj (List.mem_singleton.mp hmem)
  have hsame : ∀ part : Part, part.Same b.plane b'.plane :=
    fun part => hconfined (.part part) fun hmem => by cases List.mem_singleton.mp hmem
  have hholds : ∀ k place, b'.plane.inventory.Holds k place ↔ b.plane.inventory.Holds k place :=
    fun k _ => Inventory.holds_of_table_eq (hsame (.table k))
  rcases pool_of_runTask hqueued h with hleft | ⟨r, hfilled, hfound⟩
  · rw [hleft]
    exact hc.congr (fun _ => rfl) rfl hholds (hsame .settings)
  · have hpooled : ∀ r', left.2.reference .snatIpPool = some r' →
        IsPool b.plane spec.snatIpPoolName c.rounds r' := by
      intro r' hr'
      rw [hfilled] at hr'
      exact Option.some.inj hr' ▸ hfound
    cases hallocation : s.reference .snatIpAllocation with
    | none => exact hc.repooled hslots hpooled hallocation hholds (hsame .settings)
    | some allocation =>
      obtain ⟨place, -, hparent⟩ := hc.homed (.policy .ipAllocation) allocation hallocation
      obtain ⟨pool, hpool, -⟩ := Option.map_eq_some_iff.mp hparent
      have hsamePool : r = pool := hfound.unique (hc.pooled pool hpool)
      refine hc.congr (fun k => hslots (slot k) (slot_ne_snatIpPool k)) ?_ hholds (hsame .settings)
      show left.2.reference .snatIpPool = s.reference .snatIpPool
      rw [hfilled, hpool, hsamePool]

/-- Looking after an object keeps the invariant. -/
theorem custody_of_managed {k : Kind} {left : Left Action} (hqueued : b.queued = [])
    (h : b.run (runTask (.managed k) c spec s) = (some left, b'))
    (hc : Custody name rounds (b.plane, s)) : Custody name rounds (b'.plane, left.2) := by
  obtain ⟨recovered, b₁, h₁, hqueued₁, hleft⟩ := runTask_managed_cases hqueued h
  have hc₁ := (recoverIfLost_custody hqueued h₁ hc).2
  rcases hleft with ⟨hsame, rfl⟩ | ⟨es, left', hensured, hreplies, hsame⟩
  · rw [hsame]
    exact hc₁
  · rw [hsame]
    exact hensured.custody hqueued₁ hreplies hc₁

/-- **A task keeps the invariant.** -/
theorem runTask_custody {t : Task} {left : Left Action} (hqueued : b.queued = [])
    (h : b.run (runTask t c spec s) = (some left, b'))
    (hc : Custody spec.snatIpPoolName c.rounds (b.plane, s)) :
    Custody spec.snatIpPoolName c.rounds (b'.plane, left.2) := by
  by_cases hpool : t = .lookUp .ipPools
  · subst hpool
    exact custody_of_lookUp_ipPools hqueued h hc
  · cases t with
    | managed k => exact custody_of_managed hqueued h hc
    | lookUp _ | realization | lookUpSwitch =>
      exact custody_of_lookUp hqueued h hc (fun k heq => by cases heq) hpool

theorem runTasks_custody {ts : List Task} {left : Left (List Outcome)} (hqueued : b.queued = [])
    (h : b.run (runTasks c spec ts s) = (some left, b'))
    (hc : Custody spec.snatIpPoolName c.rounds (b.plane, s)) :
    Custody spec.snatIpPoolName c.rounds (b'.plane, left.2) := by
  have hkept := runTasks_invariant
    (P := fun b s => b.queued = [] ∧ Custody spec.snatIpPoolName c.rounds (b.plane, s))
    (fun h' hrun => ⟨(runTask_confined h'.1 hrun).1, runTask_custody h'.1 hrun h'.2⟩)
    ⟨hqueued, hc⟩ h
  exact hkept.2

/-- **A run keeps the invariant**, wherever it stops. -/
theorem run_custody {g : Generation} {left : Left (List Outcome)} (hqueued : b.queued = [])
    (h : b.run (run g c spec s) = (some left, b'))
    (hc : Custody spec.snatIpPoolName c.rounds (b.plane, s)) :
    b'.queued = [] ∧ Custody spec.snatIpPoolName c.rounds (b'.plane, left.2) := by
  rw [Pipeline.run] at h
  split at h
  · obtain ⟨rfl, rfl⟩ := run_done_eq_some_iff.mp h
    exact ⟨hqueued, hc⟩
  · exact ⟨(runTasks_confined hqueued h).1, runTasks_custody hqueued h hc⟩

end Pipeline

end ClusterNet
