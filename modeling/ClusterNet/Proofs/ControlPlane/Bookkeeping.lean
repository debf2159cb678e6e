import ClusterNet.Proofs.ControlPlane.Integrity
import ClusterNet.Proofs.ControlPlane.Path

/-!
# A control plane keeps its books

Everything that is known about runs on a simulated control plane rests on what that control plane
keeps to itself, whoever asks it for what: objects lie under what they belong to, carry the ids and
paths that they are stored under, and an allocation has an address as long as it is there. A created
object counts its updates. And where the control plane refuses something, it has changed nothing.

What a request that is met does to the objects is said once, by `Simulator.Wrote`, and each of these
facts follows from that. Two of them need more. That an object counts *all* its updates rests on ids
that never repeat: an object that was deleted is not created again at its place, so the count never
starts anew. And that a deletion that is refused changes nothing rests on the books themselves: it
strikes the address off before it looks for the allocation, and only because there is no allocation
there is no address either. Addresses are kept by paths, so ids must not separate parts of a path.

## Main definitions

* `Simulator.Wrote` — what a request does to the objects
* `Simulator.Addressed` — addresses belong to allocations
* `Simulator.Counted` — created objects count their updates
* `Simulator.Kept` — both, and what else keeps itself
* `ControlPlane.Happening`, `Simulator.afterAll` — what happens to a control plane
* `Simulator.updateCount` — how often an object is updated in the course of it
* `Simulator.InOrder` — what can be relied on

## Main results

* `Simulator.wrote_answer` — what a request that is met does to the objects
* `Simulator.Addressed.same_of_refused` — a request that is refused changes nothing
* `Simulator.Kept.answer`, `Simulator.Kept.afterAll` — the books stay in order
* `Simulator.inOrder_afterAll` — whatever happens, the books are in order
-/

namespace ClusterNet

namespace ControlPlane

/-! ### What objects carry -/

/-- The id of an object. -/
def PolicyKind.id? (k : PolicyKind) (o : k.Object) : Option String :=
  match k, o with
  | tier1, o => o.id
  | localeService, o => o.id
  | segment, o => o.id
  | ipAllocation, o => o.id
  | natRule, o => o.id
  | dhcpServerConfig, o => o.id

/-- The path of an object, as it carries it. -/
def PolicyKind.path? (k : PolicyKind) (o : k.Object) : Option String :=
  match k, o with
  | tier1, o => o.path
  | localeService, o => o.path
  | segment, o => o.path
  | ipAllocation, o => o.path
  | natRule, o => o.path
  | dhcpServerConfig, o => o.path

/-- Whether an object carries what it is stored under: its id, and its path if it was declared. -/
def Kind.IsStamped (k : Kind) (place : Place) (o : k.Object) : Prop :=
  match k, o with
  | .policy k, o => k.id? o = some place.id ∧ k.path? o = some (k.path place)
  | .manager k, o => k.id? o = some place.id

/-- Whether an object, if it was created, has the number of its updates as its revision. -/
def Kind.IsRevised (count : ManagerKind → Place → Nat) (k : Kind) (place : Place)
    (o : k.Object) : Prop :=
  match k, o with
  | .policy _, _ => True
  | .manager k, o => k.revision? o = some (Int64.ofNat (count k place))

theorem PolicyKind.isStamped_stamped (k : PolicyKind) (place : Place) (o : k.Object) :
    (Kind.policy k).IsStamped place (k.stamped place.id (k.path place) o) := by
  cases k <;> exact ⟨rfl, rfl⟩

theorem ManagerKind.revision?_withRevision (k : ManagerKind) (revision : Option Int64)
    (o : k.Object) : k.revision? (k.withRevision revision o) = revision := by
  cases k <;> rfl

/-! ### What holds of all objects -/

namespace Inventory

variable {i : Inventory} {k : Kind} {place : Place} {o : k.Object}
  {P : (k : Kind) → Place → k.Object → Prop}

/-- Whether something holds of all objects. -/
def All (P : (k : Kind) → Place → k.Object → Prop) (i : Inventory) : Prop :=
  ∀ k place o, i.find? k place = some o → P k place o

theorem all_empty : ({} : Inventory).All P := by
  intro k place o hfind
  rcases k with k | k <;> cases k <;> exact nomatch hfind

/-- What holds of the new object and of the others holds of all objects afterwards. -/
theorem all_put (hothers : ∀ k' place' o', (k', place') ≠ (k, place) →
    i.find? k' place' = some o' → P k' place' o') (hnew : P k place o) :
    (i.put k place o).All P := by
  intro k' place' o' hfind
  by_cases hk : k' = k
  · subst hk
    by_cases hplace : place' = place
    · subst hplace
      rw [find?_put_self] at hfind
      exact Option.some.inj hfind ▸ hnew
    · rw [find?_put_of_ne hplace] at hfind
      exact hothers k' place' o' (fun heq => hplace (Prod.mk.inj heq).2) hfind
  · rw [find?, table_put_of_ne _ hk] at hfind
    exact hothers k' place' o' (fun heq => hk (Prod.mk.inj heq).1) hfind

/-- An object that is found after a removal was there before. -/
theorem All.remove (h : i.All P) : (i.remove k place).All P := by
  intro k' place' o' hfind
  have hholds := holds_of_find? hfind
  by_cases hk : k' = k
  · subst hk
    rw [find?_remove_of_ne (holds_remove_iff.mp hholds).1] at hfind
    exact h k' place' o' hfind
  · rw [find?, table_remove_of_ne _ hk] at hfind
    exact h k' place' o' hfind

end Inventory

/-! ### What requests write -/

/-- Whether a request is one to update the object of a kind at a place. -/
def Request.updates (k : ManagerKind) (place : Place) : Request → Bool
  | .update k' place' _ => k' == k && place' == place
  | _ => false

/-- The ids that a request is made with. -/
def Request.ids : Request → List String
  | .get _ place | .patch _ place _ | .update _ place _ | .delete _ place =>
    [place.parent, place.id]
  | .create _ parent _ | .list _ parent _ => [parent]
  | .deleteBalancer _ id => [id]
  | .listCatalog _ _ | .listSwitches _ | .listRealized _ | .listBalancers _ _ => []

/-- Whether the ids that a request is made with separate nothing. -/
def Request.IsPlain (r : Request) : Prop := ∀ id ∈ r.ids, Path.IsPlain id

namespace Simulator

variable {s s' : Simulator} {r : Request} {met : Bool}

/-- What a request does to the objects of a control plane, depending on whether it is met. -/
inductive Wrote (s : Simulator) : Request → Bool → Simulator → Prop
  /-- Nothing. That is no update that is met. -/
  | nothing {r : Request} {met : Bool} {s' : Simulator}
    (hupdates : met = true → ∀ k place, r.updates k place = false)
    (h : s'.inventory = s.inventory) : Wrote s r met s'
  /-- An object is declared. -/
  | declared {k : PolicyKind} {place : Place} {o : k.Object} {s' : Simulator}
    (h : s'.inventory =
      s.inventory.put (.policy k) place (k.stamped place.id (k.path place) o)) :
    Wrote s (.patch k place o) true s'
  /-- An object is created under an id that is drawn for it. -/
  | created {k : ManagerKind} {parent : String} {o : k.Object} {s' : Simulator} (id : String)
    (hid : s.Drew s' id)
    (h : s'.inventory = s.inventory.put (.manager k) ⟨parent, id⟩
      (k.withRevision (some 0) (k.stamped id o))) : Wrote s (.create k parent o) true s'
  /-- An object is updated, and has the next revision. -/
  | updated {k : ManagerKind} {place : Place} {o current : k.Object} {s' : Simulator}
    (hfind : s.inventory.find? (.manager k) place = some current)
    (h : s'.inventory = s.inventory.put (.manager k) place
      (k.withRevision (some ((k.revision? current).getD 0 + 1)) (k.stamped place.id o))) :
    Wrote s (.update k place o) true s'
  /-- An object is deleted. -/
  | deleted {k : Kind} {place : Place} {s' : Simulator}
    (h : s'.inventory = s.inventory.remove k place) : Wrote s (.delete k place) true s'

/-- A request that touches no object writes nothing. -/
theorem inventory_answer_of_untouched (h : ∀ k, Part.table k ∉ r.touches) (s : Simulator) :
    (answer r s).2.inventory = s.inventory :=
  Inventory.eq_of_table_eq fun k => answer_same (h k) s

/-- **What a request does to the objects.** -/
theorem wrote_answer (r : Request) (s : Simulator) :
    Wrote s r (answer r s).1.isOk (answer r s).2 := by
  cases hanswer : answer r s with
  | mk result s' =>
  cases result with
  | error e => exact .nothing nofun (inventory_of_answer_error hanswer)
  | ok response =>
    have huntouched (h : ∀ k, Part.table k ∉ r.touches) : s'.inventory = s.inventory :=
      congrArg (·.2.inventory) hanswer ▸ inventory_answer_of_untouched h s
    cases r with
    | patch k place o => exact .declared (patch_of_answer_ok hanswer)
    | create k parent o =>
      obtain ⟨rfl, hinventory⟩ := create_of_answer_ok hanswer
      exact .created _ (drew_of_create_ok hanswer) hinventory
    | update k place o =>
      obtain ⟨current, hfind, rfl⟩ := raised_of_update_ok hanswer
      exact .updated hfind (update_of_answer_ok hanswer).2
    | delete k place => exact .deleted (delete_of_answer_ok hanswer)
    | listRealized _ | deleteBalancer _ _ =>
      exact .nothing (fun _ _ _ => rfl) (huntouched fun k => by simp [Request.touches])
    | listCatalog _ _ | get _ _ | list _ _ _ | listSwitches _ | listBalancers _ _ =>
      exact .nothing (fun _ _ _ => rfl) (huntouched fun k => List.not_mem_nil)

/-- Objects carry what they are stored under, whatever is written. -/
theorem Wrote.stamped (h : Wrote s r met s') (hstamped : s.inventory.All Kind.IsStamped) :
    s'.inventory.All Kind.IsStamped := by
  cases h with
  | nothing _ h => exact h ▸ hstamped
  | declared h =>
    rw [h]
    exact Inventory.all_put (fun _ _ _ _ => hstamped _ _ _) (PolicyKind.isStamped_stamped _ _ _)
  | created id _ h =>
    rw [h]
    exact Inventory.all_put (fun _ _ _ _ => hstamped _ _ _)
      (ManagerKind.id?_withRevision_stamped _ _ _ _)
  | updated _ h =>
    rw [h]
    exact Inventory.all_put (fun _ _ _ _ => hstamped _ _ _)
      (ManagerKind.id?_withRevision_stamped _ _ _ _)
  | deleted h => exact h ▸ hstamped.remove

/-! ### Addresses -/

/-- Whether a path leads to an allocation. -/
def Allocated (s : Simulator) (path : String) : Prop :=
  ∃ place, s.inventory.Holds (.policy .ipAllocation) place ∧
    (Kind.policy .ipAllocation).path place = path

/-- **Addresses belong to allocations**, those that are there and those that are still to come into
being. -/
structure Addressed (s : Simulator) : Prop where
  /-- The pools of allocations have ids that separate nothing. -/
  plain : ∀ place, s.inventory.Holds (.policy .ipAllocation) place → Path.IsPlain place.parent
  /-- There are addresses for the allocations that there are. -/
  addresses : ∀ path, (s.addresses.find? path).isSome ↔ s.Allocated path
  /-- For each of them it is known how far it is off. -/
  pending : ∀ path, (s.pending.find? path).isSome ↔ s.Allocated path

theorem allocated_congr (h : Part.Same (.table (.policy .ipAllocation)) s s') {path : String} :
    s'.Allocated path ↔ s.Allocated path :=
  exists_congr fun _ => and_congr_left' (Inventory.holds_of_table_eq h)

/-- What has nothing to do with allocations leaves addresses as they are. -/
theorem Addressed.congr (h : s.Addressed) (htable : Part.Same (.table (.policy .ipAllocation)) s s')
    (haddresses : Part.Same .addresses s s') : s'.Addressed where
  plain place hholds := h.plain place ((Inventory.holds_of_table_eq htable).mp hholds)
  addresses path := by
    rw [haddresses.2, allocated_congr htable]
    exact h.addresses path
  pending path := by
    rw [haddresses.1, allocated_congr htable]
    exact h.pending path

/-- What is not allocated has no address that could be struck off. -/
theorem Addressed.withoutAddress_eq (h : s.Addressed) {k : Kind} {place : Place}
    (hplain : Path.IsPlain place.parent) (hfind : s.inventory.find? k place = none) :
    s.withoutAddress k place = s := by
  match k with
  | .policy .ipAllocation =>
    have hnot : ¬ s.Allocated ((Kind.policy .ipAllocation).path place) := by
      rintro ⟨place', hholds, hpath⟩
      obtain rfl := Kind.place_eq_of_isPlain rfl (h.plain place' hholds) hplain hpath
      exact Inventory.find?_eq_none_iff.mp hfind hholds
    have haddress := mt (h.addresses _).mp hnot
    have hpending := mt (h.pending _).mp hnot
    rw [Option.not_isSome_iff_eq_none] at haddress hpending
    rw [withoutAddress, OrderedMap.erase_of_find?_eq_none haddress,
      OrderedMap.erase_of_find?_eq_none hpending]
  | .policy .tier1 | .policy .localeService | .policy .segment | .policy .natRule
  | .policy .dhcpServerConfig | .manager _ => rfl

/-- **A request that is refused changes nothing**, but for the record of what was asked. -/
theorem Addressed.same_of_refused (h : s.Addressed) (hplain : r.IsPlain) {e : ApiError}
    (hrefused : (answer r s).1 = .error e) (part : Part) : part.Same s (answer r s).2 := by
  have hasked := asked_same part s [r]
  rcases answer_cases r s with ⟨-, hfailed⟩ | ⟨-, hserved⟩
  · rw [hfailed]
    exact hasked.trans (failed_same part _ _)
  · rw [hserved] at hrefused ⊢
    refine hasked.trans ?_
    have hbooks : (s.asked [r]).Addressed := h.congr (asked_same _ s [r]) (asked_same _ s [r])
    rcases serve_of_error hrefused with hsame | ⟨k, place, rfl, hfind, hstruck⟩
    · rw [hsame]
      exact .refl part _
    · rw [hstruck, hbooks.withoutAddress_eq (hplain place.parent (.head _)) hfind]
      exact .refl part _

/-- A new allocation has an address. -/
theorem Addressed.gained (h : s.Addressed) {place : Place} {o : IpAllocation} {address : String}
    {n : Nat} (hplain : Path.IsPlain place.parent)
    (hinventory : s'.inventory = s.inventory.put (.policy .ipAllocation) place o)
    (haddresses : s'.addresses =
      s.addresses.insert ((Kind.policy .ipAllocation).path place) address)
    (hpending : s'.pending = s.pending.insert ((Kind.policy .ipAllocation).path place) n) :
    s'.Addressed := by
  have hallocated : ∀ path, s'.Allocated path ↔
      path = (Kind.policy .ipAllocation).path place ∨ s.Allocated path := by
    intro path
    rw [Allocated, hinventory]
    simp only [Inventory.holds_put_iff]
    constructor
    · rintro ⟨place', rfl | hholds, rfl⟩
      · exact .inl rfl
      · exact .inr ⟨place', hholds, rfl⟩
    · rintro (rfl | ⟨place', hholds, rfl⟩)
      · exact ⟨place, .inl rfl, rfl⟩
      · exact ⟨place', .inr hholds, rfl⟩
  refine ⟨fun place' hholds => ?_, fun path => ?_, fun path => ?_⟩
  · rw [hinventory, Inventory.holds_put_iff] at hholds
    rcases hholds with rfl | hholds
    · exact hplain
    · exact h.plain place' hholds
  · rw [haddresses, OrderedMap.isSome_find?_insert_iff, h.addresses, hallocated]
  · rw [hpending, OrderedMap.isSome_find?_insert_iff, h.pending, hallocated]

/-- With an allocation goes its address, and no other one. -/
theorem Addressed.lost (h : s.Addressed) {place : Place} (hplain : Path.IsPlain place.parent)
    (hinventory : s'.inventory = s.inventory.remove (.policy .ipAllocation) place)
    (haddresses : s'.addresses = s.addresses.erase ((Kind.policy .ipAllocation).path place))
    (hpending : s'.pending = s.pending.erase ((Kind.policy .ipAllocation).path place)) :
    s'.Addressed := by
  have hallocated : ∀ path, s'.Allocated path ↔
      path ≠ (Kind.policy .ipAllocation).path place ∧ s.Allocated path := by
    intro path
    rw [Allocated, hinventory]
    simp only [Inventory.holds_remove_iff]
    constructor
    · rintro ⟨place', ⟨hne, hholds⟩, rfl⟩
      refine ⟨fun hpath => hne ?_, place', hholds, rfl⟩
      exact Kind.place_eq_of_isPlain rfl (h.plain place' hholds) hplain hpath
    · rintro ⟨hne, place', hholds, rfl⟩
      exact ⟨place', ⟨fun heq => hne (heq ▸ rfl), hholds⟩, rfl⟩
  refine ⟨fun place' hholds => ?_, fun path => ?_, fun path => ?_⟩
  · rw [hinventory, Inventory.holds_remove_iff] at hholds
    exact h.plain place' hholds.2
  · rw [haddresses, OrderedMap.isSome_find?_erase_iff, h.addresses, hallocated]
  · rw [hpending, OrderedMap.isSome_find?_erase_iff, h.pending, hallocated]

theorem Addressed.patched (h : s.Addressed) {place : Place} (hplain : Path.IsPlain place.parent)
    (o : IpAllocation) : (s.patch .ipAllocation place o).2.Addressed := by
  have howner : s.missingOwner (.policy .ipAllocation) place.parent o = none := rfl
  rw [patch, howner]
  dsimp only
  split
  · exact h.gained hplain rfl rfl rfl
  · next hknown =>
    -- An allocation that was there keeps its address.
    have hheld : s.inventory.Holds (.policy .ipAllocation) place := by
      rwa [Option.isNone_iff_eq_none, Inventory.find?_eq_none_iff, not_not] at hknown
    have hallocated : ∀ {o' : IpAllocation} path,
        ({ s with inventory := s.inventory.put (.policy .ipAllocation) place o' } :
          Simulator).Allocated path ↔ s.Allocated path :=
      fun path => exists_congr fun _ => and_congr_left' (Inventory.holds_put_of_holds hheld)
    exact ⟨fun place' hholds => h.plain place' ((Inventory.holds_put_of_holds hheld).mp hholds),
      fun path => (h.addresses path).trans (hallocated path).symm,
      fun path => (h.pending path).trans (hallocated path).symm⟩

theorem Addressed.deleted (h : s.Addressed) {place : Place} (hplain : Path.IsPlain place.parent) :
    (s.delete (.policy .ipAllocation) place).2.Addressed := by
  have hunused : s.isInUse (.policy .ipAllocation) place = false := rfl
  rw [delete, hunused, if_neg Bool.false_ne_true]
  dsimp only
  split
  · next hfind =>
    rw [inventory_withoutAddress] at hfind
    rw [h.withoutAddress_eq hplain hfind]
    exact h
  · exact h.lost hplain rfl rfl rfl

theorem Addressed.polled (h : s.Addressed) (path : String) : (s.realized path).2.Addressed := by
  rw [realized]
  split
  · exact h
  · next address haddress =>
    split
    · have hallocated : s.Allocated path :=
        (h.addresses path).mp (by rw [haddress]; rfl)
      refine ⟨h.plain, h.addresses, fun path' => ?_⟩
      rw [OrderedMap.isSome_find?_insert_iff, h.pending]
      refine ⟨fun hpath => ?_, .inr⟩
      rcases hpath with rfl | hpath
      · exact hallocated
      · exact hpath
    · exact h

/-- **Addresses belong to allocations**, whatever is asked with ids that separate nothing. -/
theorem Addressed.answer (h : s.Addressed) (hplain : r.IsPlain) : (answer r s).2.Addressed := by
  have hbooks : (s.asked [r]).Addressed := h.congr (asked_same _ s [r]) (asked_same _ s [r])
  have huntouched (htable : Part.table (.policy .ipAllocation) ∉ r.touches)
      (haddresses : Part.addresses ∉ r.touches) : (Simulator.answer r s).2.Addressed :=
    h.congr (answer_same htable s) (answer_same haddresses s)
  rcases answer_cases r s with ⟨-, hfailed⟩ | ⟨-, hserved⟩
  · rw [hfailed]
    exact hbooks.congr (failed_same _ _ _) (failed_same _ _ _)
  · cases r with
    | patch k place o =>
      cases k with
      | ipAllocation =>
        rw [hserved]
        exact hbooks.patched (hplain place.parent (.head _)) o
      | tier1 | localeService | segment | natRule | dhcpServerConfig =>
        exact huntouched (by simp [Request.touches, companions])
          (by simp [Request.touches, companions])
    | delete k place =>
      cases k with
      | policy k =>
        cases k with
        | ipAllocation =>
          rw [hserved]
          exact hbooks.deleted (hplain place.parent (.head _))
        | tier1 | localeService | segment | natRule | dhcpServerConfig =>
          exact huntouched (by simp [Request.touches, companions])
            (by simp [Request.touches, companions])
      | manager k =>
        exact huntouched (by simp [Request.touches, companions])
          (by simp [Request.touches, companions])
    | listRealized path =>
      rw [hserved]
      exact hbooks.polled path
    | create _ _ _ | update _ _ _ | deleteBalancer _ _ =>
      exact huntouched (by simp [Request.touches]) (by simp [Request.touches])
    | listCatalog _ _ | get _ _ | list _ _ _ | listSwitches _ | listBalancers _ _ =>
      exact huntouched List.not_mem_nil List.not_mem_nil

/-! ### Revisions -/

/-- **Created objects count their updates.** -/
structure Counted (s : Simulator) (count : ManagerKind → Place → Nat) : Prop where
  /-- No id is given away twice. -/
  fresh : Function.Injective s.freshId
  /-- The ids of created objects were given away. -/
  given : ∀ k place, s.inventory.Holds (.manager k) place → s.Given place.id
  /-- What may still be created was not updated yet. -/
  unused : ∀ k place, s.Upcoming place.id → count k place = 0
  /-- The revision of an object is the number of its updates. -/
  revised : s.inventory.All (Kind.IsRevised count)

/-- The updates of an object, when a request was made in addition and was met or not. -/
def counting (r : Request) (met : Bool) (count : ManagerKind → Place → Nat) (k : ManagerKind)
    (place : Place) : Nat :=
  count k place + if met && r.updates k place then 1 else 0

variable {count : ManagerKind → Place → Nat}

theorem counting_of_not_updates (h : met = true → ∀ k place, r.updates k place = false) :
    counting r met count = count := by
  funext k place
  cases met with
  | false => rfl
  | true => rw [counting, h rfl k place]; rfl

theorem counting_update_self {k : ManagerKind} {place : Place} {o : k.Object} :
    counting (.update k place o) true count k place = count k place + 1 := by
  simp [counting, Request.updates]

theorem counting_update_of_ne {k k' : ManagerKind} {place place' : Place} {o : k.Object}
    (h : (Kind.manager k', place') ≠ (.manager k, place)) :
    counting (.update k place o) true count k' place' = count k' place' := by
  have hother : (Request.update k place o).updates k' place' = false := by
    refine Bool.eq_false_iff.mpr fun hupdates => h ?_
    rw [Request.updates, Bool.and_eq_true, beq_iff_eq, beq_iff_eq] at hupdates
    rw [hupdates.1, hupdates.2]
  rw [counting, hother]
  rfl

/-- As long as no created object is touched, nothing has to be counted. -/
theorem Counted.congr (h : s.Counted count) (hfresh : s'.freshId = s.freshId)
    (hdrawn : s.drawnIds ≤ s'.drawnIds)
    (hgiven : ∀ k place, s'.inventory.Holds (.manager k) place → s'.Given place.id)
    (hrevised : s'.inventory.All (Kind.IsRevised count)) : s'.Counted count where
  fresh := hfresh ▸ h.fresh
  given := hgiven
  unused k place hupcoming := h.unused k place (hupcoming.before hdrawn hfresh)
  revised := hrevised

/-- **Created objects count their updates**, whatever is written. -/
theorem Counted.wrote (h : s.Counted count) (hwrote : Wrote s r met s')
    (hfresh : s'.freshId = s.freshId) (hdrawn : s.drawnIds ≤ s'.drawnIds) :
    s'.Counted (counting r met count) := by
  have hgiven : ∀ k place, s.inventory.Holds (.manager k) place → s'.Given place.id :=
    fun k place hholds => (h.given k place hholds).mono hdrawn hfresh
  cases hwrote with
  | nothing hupdates hinventory =>
    rw [counting_of_not_updates hupdates]
    exact h.congr hfresh hdrawn (hinventory ▸ hgiven) (hinventory ▸ h.revised)
  | @declared kind place o _ hinventory =>
    rw [counting_of_not_updates fun _ _ _ => rfl]
    refine h.congr hfresh hdrawn (fun k place' hholds => hgiven k place' ?_) ?_
    · rw [hinventory] at hholds
      exact (Inventory.holds_put_of_ne fun heq : Kind.manager k = .policy kind => nomatch heq).mp
        hholds
    · rw [hinventory]
      exact Inventory.all_put (fun _ _ _ _ => h.revised _ _ _) trivial
  | @created kind parent o _ id hdrew hinventory =>
    rw [counting_of_not_updates fun _ _ _ => rfl]
    refine h.congr hfresh hdrawn (fun k place' hholds => ?_) ?_
    · rw [hinventory] at hholds
      by_cases hk : Kind.manager k = .manager kind
      · obtain rfl := Kind.manager.inj hk
        rcases Inventory.holds_put_iff.mp hholds with rfl | hholds
        · exact hdrew.given hfresh
        · exact hgiven k place' hholds
      · exact hgiven k place' ((Inventory.holds_put_of_ne hk).mp hholds)
    · rw [hinventory]
      refine Inventory.all_put (fun _ _ _ _ => h.revised _ _ _) ?_
      have hnone : count kind ⟨parent, id⟩ = 0 := h.unused kind ⟨parent, id⟩ hdrew.upcoming
      rw [Kind.IsRevised, ManagerKind.revision?_withRevision, hnone]
      rfl
  | @updated kind place o current _ hfind hinventory =>
    have hholds := Inventory.holds_of_find? hfind
    refine ⟨hfresh ▸ h.fresh, fun k place' hholds' => hgiven k place' ?_, ?_, ?_⟩
    · rw [hinventory] at hholds'
      exact (Inventory.holds_put_of_holds hholds).mp hholds'
    · -- What may still be created is not there, and so it is not the object that is updated.
      intro k place' hupcoming
      have hbefore := hupcoming.before hdrawn hfresh
      rw [counting_update_of_ne, h.unused k place' hbefore]
      rintro heq
      obtain ⟨-, rfl⟩ := Prod.mk.inj heq
      exact (h.given kind place' hholds).not_upcoming h.fresh hbefore
    · rw [hinventory]
      refine Inventory.all_put (fun k place' o' hne hfind' => ?_) ?_
      · have hrevised := h.revised k place' o' hfind'
        cases k with
        | policy k => trivial
        | manager k =>
          rw [Kind.IsRevised, counting_update_of_ne hne]
          exact hrevised
      · have hcurrent : kind.revision? current = some (Int64.ofNat (count kind place)) :=
          h.revised (.manager kind) place current hfind
        rw [Kind.IsRevised, ManagerKind.revision?_withRevision, counting_update_self, hcurrent,
          Option.getD_some, Int64.ofNat_add]
        rfl
  | deleted hinventory =>
    rw [counting_of_not_updates fun _ _ _ => rfl]
    refine h.congr hfresh hdrawn (fun k place' hholds => hgiven k place' ?_) ?_
    · rw [hinventory] at hholds
      obtain ⟨o, hfind⟩ := Option.isSome_iff_exists.mp hholds
      exact Inventory.holds_of_find? (Inventory.All.remove (P := fun k place o =>
        s.inventory.find? k place = some o) (fun _ _ _ => id) _ _ _ hfind)
    · exact hinventory ▸ h.revised.remove

/-! ### Whatever happens -/

/-- All that a control plane keeps, and that keeps itself. -/
structure Kept (s : Simulator) (count : ManagerKind → Place → Nat) : Prop where
  /-- What objects belong to is there. -/
  rooted : s.inventory.Rooted
  /-- Addresses belong to allocations. -/
  addressed : s.Addressed
  /-- Objects carry what they are stored under. -/
  stamped : s.inventory.All Kind.IsStamped
  /-- Created objects count their updates. -/
  counted : s.Counted count

/-- A control plane without objects and addresses has nothing to keep. -/
theorem kept_of_empty (hfresh : Function.Injective s.freshId) (hinventory : s.inventory = {})
    (haddresses : s.addresses = .empty) (hpending : s.pending = .empty) :
    s.Kept fun _ _ => 0 := by
  have hnone : ∀ k place, ¬ s.inventory.Holds k place := by
    intro k place hholds
    obtain ⟨o, hfind⟩ := Option.isSome_iff_exists.mp hholds
    rw [hinventory] at hfind
    exact Inventory.all_empty (P := fun _ _ _ => False) k place o hfind
  have hunallocated : ∀ path, ¬ s.Allocated path := fun path ⟨place, hholds, _⟩ =>
    hnone _ place hholds
  refine ⟨hinventory ▸ Inventory.rooted_empty, ⟨?_, fun path => ?_, fun path => ?_⟩,
    hinventory ▸ Inventory.all_empty, hfresh, ?_, fun _ _ _ => rfl,
    hinventory ▸ Inventory.all_empty⟩
  · exact fun place hholds => absurd hholds (hnone _ place)
  · rw [haddresses]
    exact iff_of_false nofun (hunallocated path)
  · rw [hpending]
    exact iff_of_false nofun (hunallocated path)
  · exact fun k place hholds => absurd hholds (hnone _ place)

/-- A request with ids that separate nothing leaves the books in order, whether it is met or not. -/
theorem Kept.answer (h : s.Kept count) (hplain : r.IsPlain) :
    (answer r s).2.Kept (counting r (answer r s).1.isOk count) where
  rooted := rooted_answer h.rooted r
  addressed := h.addressed.answer hplain
  stamped := (wrote_answer r s).stamped h.stamped
  counted := h.counted.wrote (wrote_answer r s) (freshId_answer r s) (drawnIds_le_answer r s)

end Simulator

/-- What can happen to a control plane. -/
inductive Happening where
  /-- Something is asked of it. -/
  | request (r : Request)
  /-- A method is made to fail when it is called next. -/
  | failure (m : Method)

namespace Simulator

variable {s : Simulator} {count : ManagerKind → Place → Nat}

/-- The control plane after something has happened. -/
def after (s : Simulator) : Happening → Simulator
  | .request r => (answer r s).2
  | .failure m => s.failNext m

/-- The control plane after a number of things have happened, one after the other. -/
def afterAll (s : Simulator) (hs : List Happening) : Simulator := hs.foldl after s

/-- The updates that happen to the object of a kind at a place: one if that is what is asked for,
and the answer is no error. -/
def updatesBy (s : Simulator) (h : Happening) (k : ManagerKind) (place : Place) : Nat :=
  match h with
  | .request r => if (answer r s).1.isOk && r.updates k place then 1 else 0
  | .failure _ => 0

/-- The updates of the object of a kind at a place, in the course of what happens. -/
def updateCount (s : Simulator) (hs : List Happening) (k : ManagerKind) (place : Place) : Nat :=
  match hs with
  | [] => 0
  | h :: hs => s.updatesBy h k place + (s.after h).updateCount hs k place

theorem Kept.after (hkept : s.Kept count) {h : Happening}
    (hplain : ∀ r, h = .request r → r.IsPlain) :
    (s.after h).Kept fun k place => count k place + s.updatesBy h k place := by
  cases h with
  | request r => exact hkept.answer (hplain r rfl)
  | failure m =>
    have hsame (part : Part) : part.Same s (s.failNext m) :=
      record_same part s s.calls _ s.drawnIds
    exact ⟨hkept.rooted, hkept.addressed.congr (hsame _) (hsame _), hkept.stamped,
      hkept.counted.congr rfl le_rfl hkept.counted.given hkept.counted.revised⟩

/-- The books stay in order, whatever happens. -/
theorem Kept.afterAll (hkept : s.Kept count) {hs : List Happening}
    (hplain : ∀ r, .request r ∈ hs → r.IsPlain) :
    (s.afterAll hs).Kept fun k place => count k place + s.updateCount hs k place := by
  induction hs generalizing s count with
  | nil => exact hkept
  | cons h hs ih =>
    have hstep := hkept.after (h := h) fun r heq => hplain r (heq ▸ .head _)
    have hrest := ih hstep fun r hmem => hplain r (.tail _ hmem)
    simp only [Nat.add_assoc] at hrest
    exact hrest

/-- Whether a control plane is in order, when created objects were updated so many times. -/
structure InOrder (s : Simulator) (count : ManagerKind → Place → Nat) : Prop where
  /-- Locale services, segments and NAT rules lie under a gateway that is there. -/
  gateways : ∀ k place, k.isOfTier1 = true → s.inventory.Holds (.policy k) place →
    s.inventory.Holds (.policy .tier1) ⟨"", place.parent⟩
  /-- Pools of DHCP addresses lie under a server that is there. -/
  servers : ∀ place, s.inventory.Holds (.manager .dhcpIpPool) place →
    s.inventory.Holds (.manager .dhcpServer) ⟨"", place.parent⟩
  /-- There are addresses for the allocations that there are. -/
  addresses : ∀ path, (s.addresses.find? path).isSome ↔
    ∃ place, s.inventory.Holds (.policy .ipAllocation) place ∧
      PolicyKind.ipAllocation.path place = path
  /-- For each of them it is known how far it is off. -/
  pending : ∀ path, (s.pending.find? path).isSome ↔
    ∃ place, s.inventory.Holds (.policy .ipAllocation) place ∧
      PolicyKind.ipAllocation.path place = path
  /-- Declared objects carry the id and the path that they are stored under. -/
  declared : ∀ k place o, s.inventory.find? (.policy k) place = some o →
    k.id? o = some place.id ∧ k.path? o = some (k.path place)
  /-- Created objects carry the id that they are stored under. -/
  created : ∀ k place o, s.inventory.find? (.manager k) place = some o →
    k.id? o = some place.id
  /-- The revision of a created object is the number of its updates, in the 64 bits it has. -/
  revisions : ∀ k place o, s.inventory.find? (.manager k) place = some o →
    ∃ revision, k.revision? o = some revision ∧ revision = Int64.ofNat (count k place) ∧
      (count k place < 2 ^ 63 → revision.toInt = count k place)
  /-- A request that is refused changes nothing. -/
  refusals : ∀ r e, r.IsPlain → (Simulator.answer r s).1 = .error e →
    ∀ part, Part.Same part s (Simulator.answer r s).2

theorem Kept.inOrder (h : s.Kept count) : s.InOrder count where
  gateways k place hk hholds := by
    refine h.rooted (.policy k) (.policy .tier1) place ?_ hholds
    cases k with
    | localeService | segment | natRule => rfl
    | tier1 | ipAllocation | dhcpServerConfig => cases hk
  servers place hholds := h.rooted (.manager .dhcpIpPool) (.manager .dhcpServer) place rfl hholds
  addresses := h.addressed.addresses
  pending := h.addressed.pending
  declared k place o hfind := h.stamped (.policy k) place o hfind
  created k place o hfind := h.stamped (.manager k) place o hfind
  revisions k place o hfind :=
    ⟨_, h.counted.revised (.manager k) place o hfind, rfl, Int64.toInt_ofNat_of_lt⟩
  refusals _ _ hplain hrefused := h.addressed.same_of_refused hplain hrefused

/-- **A control plane keeps its books**, whatever is asked of it with ids that separate nothing, and
whatever is made to fail. -/
theorem inOrder_afterAll (hfresh : Function.Injective s.freshId) (hinventory : s.inventory = {})
    (haddresses : s.addresses = .empty) (hpending : s.pending = .empty) {hs : List Happening}
    (hplain : ∀ r, .request r ∈ hs → r.IsPlain) :
    (s.afterAll hs).InOrder (s.updateCount hs) := by
  have hkept := (kept_of_empty hfresh hinventory haddresses hpending).afterAll hplain
  simp only [Nat.zero_add] at hkept
  exact hkept.inOrder

/-- A gateway with a segment and an address, a profile that is updated twice, once in vain as it is
out of date by then, a failure, and deletions that are refused. -/
def busyDay : List Happening :=
  [.request (.patch .tier1 ⟨"", "gw"⟩ {}), .request (.patch .segment ⟨"gw", "nodes"⟩ {}),
   .request (.patch .segment ⟨"nowhere", "nodes"⟩ {}),
   .request (.patch .ipAllocation ⟨"pool", "api"⟩ {}), .failure .listSwitches,
   .request (.create .dhcpProfile "" {}),
   .request (.update .dhcpProfile ⟨"", "i"⟩ { revision := some 0 }),
   .request (.update .dhcpProfile ⟨"", "i"⟩ { revision := some 0 }),
   .request (.listSwitches none), .request (.delete (.policy .tier1) ⟨"", "gw"⟩),
   .request (.delete (.policy .ipAllocation) ⟨"pool", "ingress"⟩)]

/-- A control plane whose ids are tallies of the ids before them. -/
def busyPlane : Simulator :=
  ({ freshId := fun n => String.ofList (List.replicate (n + 1) 'i') } : Simulator).withRegion

theorem inOrder_busyDay :
    (busyPlane.afterAll busyDay).InOrder (busyPlane.updateCount busyDay) ∧
      busyPlane.updateCount busyDay .dhcpProfile ⟨"", "i"⟩ = 1 ∧
      ((busyPlane.afterAll busyDay).addresses.find? (Path.ipAllocation "pool" "api")).isSome =
        true := by
  refine ⟨inOrder_afterAll (fun m n hsame => ?_) rfl rfl rfl fun r hmem => ?_,
    by decide +kernel, by decide +kernel⟩
  · have hlength := congrArg String.length hsame
    simpa [busyPlane, Simulator.withRegion] using hlength
  · have hplain : ∀ h ∈ busyDay, ∀ r, h = .request r → r.IsPlain := by
      simp [busyDay, Request.IsPlain, Request.ids, Path.IsPlain, Path.isSeparator]
    exact hplain _ hmem r rfl

end Simulator

end ControlPlane

end ClusterNet
