import ClusterNet.ControlPlane.Inventory
import ClusterNet.Proofs.OrderedMap

/-!
# What an inventory holds

Which places are taken, whatever the objects there look like. Putting an object takes its place and
removing it frees the place; changing one takes and frees nothing.

## Main definitions

* `Inventory.Holds` — whether there is an object of a kind at a place
* `Inventory.Indexed` — whether created objects are kept under the ids that they have
* `Inventory.Sorted` — whether created objects are listed in the order of their places

## Main results

* `Inventory.holds_put_iff`, `Inventory.holds_remove_iff` — the places that are taken afterwards
* `Inventory.holds_of_mem_keys`, `Inventory.count_eq_zero` — listing and counting by places
* `Inventory.Indexed.put_policy`, `Indexed.put_manager` — objects that are put keep it so
-/

namespace ClusterNet

namespace ControlPlane

instance : LawfulKeyOrder Place where
  irrefl place := LawfulKeyOrder.irrefl (place.parent, place.id)
  trans h h' := LawfulKeyOrder.trans (κ := String × String) h h'
  before_of_ne {place place'} hne h := by
    refine LawfulKeyOrder.before_of_ne (κ := String × String) (fun heq => hne ?_) h
    cases place
    cases place'
    simp_all

namespace Inventory

variable {i i' : Inventory} {k k' : Kind} {place place' : Place}

/-- Whether there is an object of a kind at a place. -/
def Holds (i : Inventory) (k : Kind) (place : Place) : Prop := (i.find? k place).isSome

theorem find?_eq_none_iff : i.find? k place = none ↔ ¬ i.Holds k place := by
  rw [Holds, Option.not_isSome_iff_eq_none]

theorem holds_of_find? {o : k.Object} (h : i.find? k place = some o) : i.Holds k place := by
  rw [Holds, h]
  rfl

theorem holds_of_table_eq (h : i'.table k = i.table k) :
    i'.Holds k place ↔ i.Holds k place := by
  rw [Holds, Holds, find?, find?, h]

/-- Inventories with the same tables are the same. -/
theorem eq_of_table_eq (h : ∀ k, i'.table k = i.table k) : i' = i := by
  obtain ⟨⟩ := i
  obtain ⟨⟩ := i'
  congr
  · exact h (.policy .tier1)
  · exact h (.policy .localeService)
  · exact h (.policy .segment)
  · exact h (.policy .ipAllocation)
  · exact h (.policy .natRule)
  · exact h (.policy .dhcpServerConfig)
  · exact h (.manager .dhcpProfile)
  · exact h (.manager .dhcpServer)
  · exact h (.manager .logicalPort)
  · exact h (.manager .dhcpIpPool)

theorem find?_put_of_ne {o : k.Object} (h : place' ≠ place) :
    (i.put k place o).find? k place' = i.find? k place' := by
  rw [find?, table_put_self, OrderedMap.find?_insert_of_ne _ h, find?]

/-- The places that are taken when an object has been put. -/
theorem holds_put_iff {o : k.Object} :
    (i.put k place o).Holds k place' ↔ place' = place ∨ i.Holds k place' := by
  rw [Holds, find?, table_put_self, OrderedMap.isSome_find?_insert_iff, Holds, find?]

theorem holds_put_of_ne {o : k.Object} (h : k' ≠ k) :
    (i.put k place o).Holds k' place' ↔ i.Holds k' place' :=
  holds_of_table_eq (i.table_put_of_ne h place o)

/-- Putting an object where there is one takes no place. -/
theorem holds_put_of_holds {o : k.Object} (h : i.Holds k place) :
    (i.put k place o).Holds k' place' ↔ i.Holds k' place' := by
  by_cases hk : k' = k
  · subst hk
    rw [holds_put_iff]
    constructor
    · rintro (rfl | h')
      · exact h
      · exact h'
    · exact .inr
  · exact holds_put_of_ne hk

theorem find?_remove_of_ne (h : place' ≠ place) :
    (i.remove k place).find? k place' = i.find? k place' := by
  rw [find?, table_remove_self, OrderedMap.find?_erase_of_ne _ h, find?]

/-- The places that are taken when an object has been removed. -/
theorem holds_remove_iff :
    (i.remove k place).Holds k place' ↔ place' ≠ place ∧ i.Holds k place' := by
  rw [Holds, find?, table_remove_self, OrderedMap.isSome_find?_erase_iff, Holds, find?]

theorem holds_remove_of_ne (h : k' ≠ k) : (i.remove k place).Holds k' place' ↔ i.Holds k' place' :=
  holds_of_table_eq (i.table_remove_of_ne h place)

/-- Every place that is listed is taken. -/
theorem holds_of_mem_keys (h : place ∈ (i.table k).keys) : i.Holds k place :=
  OrderedMap.isSome_find?_of_mem_keys h

/-- The table of a kind of which no place is taken. -/
theorem table_eq_empty (h : ∀ place, ¬ i.Holds k place) : i.table k = .empty :=
  OrderedMap.eq_empty_of_find?_eq_none fun place => find?_eq_none_iff.mpr (h place)

/-- **An inventory none of whose places is taken counts no objects.** -/
theorem count_eq_zero (h : ∀ k place, ¬ i.Holds k place) : i.count = 0 := by
  have hsize : ∀ k, (i.table k).size = 0 := by
    intro k
    rw [table_eq_empty (h k)]
    rfl
  rw [count]
  simp only [hsize]
  rfl

/-! ### Objects under their ids -/

/-- **Created objects are kept under the ids that they have.** Those of kinds that belong to no
other object are kept under no parent. -/
def Indexed (i : Inventory) : Prop :=
  ∀ k : ManagerKind, ∀ e ∈ (i.table (.manager k)).entries,
    k.id? e.2 = some e.1.id ∧ (k.isNested = false → e.1.parent = "")

theorem indexed_empty : ({} : Inventory).Indexed := by
  intro k e hmem
  cases k <;> exact absurd hmem List.not_mem_nil

theorem Indexed.congr (h : i.Indexed)
    (htables : ∀ k : ManagerKind, i'.table (.manager k) = i.table (.manager k)) : i'.Indexed := by
  intro k e hmem
  rw [htables k] at hmem
  exact h k e hmem

/-- Declared objects do not matter. -/
theorem Indexed.put_policy (h : i.Indexed) (k : PolicyKind) (place : Place) (o : k.Object) :
    (i.put (.policy k) place o).Indexed :=
  h.congr fun k' => i.table_put_of_ne (fun heq : Kind.manager k' = .policy k => nomatch heq) place o

theorem Indexed.put_manager (h : i.Indexed) {k : ManagerKind} {o : k.Object}
    (hid : k.id? o = some place.id) (hparent : k.isNested = false → place.parent = "") :
    (i.put (.manager k) place o).Indexed := by
  intro k' e hmem
  by_cases hk : k' = k
  · subst hk
    rw [table_put_self] at hmem
    rcases OrderedMap.eq_or_mem_of_mem_insert hmem with rfl | hmem
    · exact ⟨hid, hparent⟩
    · exact h k' e hmem
  · rw [table_put_of_ne _ fun heq => hk (Kind.manager.inj heq)] at hmem
    exact h k' e hmem

/-- An object that is found lies where one of its kind may lie. -/
theorem Indexed.parent_eq_empty (h : i.Indexed) {k : ManagerKind} {o : k.Object}
    (hfind : i.find? (.manager k) place = some o) (hnested : k.isNested = false) :
    place.parent = "" :=
  (h k _ (OrderedMap.mem_of_find? hfind)).2 hnested

/-- Created objects that are listed after a removal were listed before. -/
theorem mem_of_mem_remove {k : ManagerKind} {e : Place × k.Object}
    (h : e ∈ ((i.remove k' place).table (.manager k)).entries) :
    e ∈ (i.table (.manager k)).entries := by
  by_cases hk : Kind.manager k = k'
  · subst hk
    rw [table_remove_self] at h
    exact (List.mem_filter.mp h).1
  · rwa [table_remove_of_ne _ hk] at h

theorem Indexed.remove (h : i.Indexed) (k : Kind) (place : Place) : (i.remove k place).Indexed :=
  fun k' e hmem => h k' e (mem_of_mem_remove hmem)

/-! ### Objects in order -/

/-- Whether created objects are listed in the order of their places. -/
def Sorted (i : Inventory) : Prop := ∀ k : ManagerKind, (i.table (.manager k)).IsSorted

theorem sorted_empty : ({} : Inventory).Sorted := by
  intro k
  cases k <;> exact .nil

theorem Sorted.put (h : i.Sorted) (k : Kind) (place : Place) (o : k.Object) :
    (i.put k place o).Sorted := by
  intro k'
  by_cases hk : Kind.manager k' = k
  · subst hk
    rw [table_put_self]
    exact (h k').insert place o
  · rw [table_put_of_ne _ hk]
    exact h k'

theorem Sorted.remove (h : i.Sorted) (k : Kind) (place : Place) : (i.remove k place).Sorted := by
  intro k'
  by_cases hk : Kind.manager k' = k
  · subst hk
    rw [table_remove_self]
    exact (h k').erase place
  · rw [table_remove_of_ne _ hk]
    exact h k'

end Inventory

end ControlPlane

end ClusterNet
