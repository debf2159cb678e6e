import ClusterNet.Proofs.Pipeline.Whereabouts

/-!
# References and the objects behind them

On a control plane that nobody else works on, every reference points at an object that is there: a
run creates the object before it writes the reference, and it takes nothing away. So what is
referred to is always found again, and nothing that others belong to is ever made anew.

This is what ties objects to their owners across runs, whatever their specifications and wherever
they stop. It does not tie an allocation to its pool. The pool is not the cluster's own: a run looks
it up by a name, and another name binds another pool while the allocation stays where it is.

## Main definitions

* `Pipeline.PointsAt` — the place of what a reference points at
* `Pipeline.Stands` — what a reference points at is there
* `Pipeline.Stocked` — what a task does to the objects of a control plane
* `Pipeline.Anchored` — every reference stands, and leads to a place under the owner that is known

## Main results

* `Pipeline.PointsAt.unique` — a reference points at one place
* `Pipeline.runTask_stocked` — a task takes nothing away, and what it refers to is there
* `Pipeline.Anchored.run` — runs keep references anchored
-/

namespace ClusterNet

/-- What is listed is an entry, under the id that it has. -/
theorem ControlPlane.Simulator.mem_entries_of_mem_objectsOf {s : ControlPlane.Simulator}
    {k : ControlPlane.ManagerKind} {parent id : String} {o : k.Object}
    (h : s.inventory.Indexed) (hparent : k.isNested = false → parent = "")
    (hmem : o ∈ s.objectsOf k parent) (hid : k.id? o = some id) :
    (⟨parent, id⟩, o) ∈ (s.inventory.table (.manager k)).entries := by
  obtain ⟨⟨place, o'⟩, hentry, rfl⟩ := List.mem_map.mp hmem
  obtain ⟨hentry, hunder⟩ := List.mem_filter.mp hentry
  obtain ⟨hplace, hnested⟩ := h k _ hentry
  have hsame : place = ⟨parent, id⟩ := by
    obtain ⟨parent', id'⟩ := place
    obtain rfl : id' = id := Option.some.inj (hplace.symm.trans hid)
    have hparents : parent' = parent := by
      cases hk : k.isNested with
      | false => rw [hparent hk]; exact hnested hk
      | true => simpa [hk] using hunder
    rw [hparents]
  exact hsame ▸ hentry

/-- What is listed is held, under the id that it has. -/
theorem ControlPlane.Simulator.holds_of_mem_objectsOf {s : ControlPlane.Simulator}
    {k : ControlPlane.ManagerKind} {parent id : String} {o : k.Object}
    (h : s.inventory.Indexed) (hparent : k.isNested = false → parent = "")
    (hmem : o ∈ s.objectsOf k parent) (hid : k.id? o = some id) :
    s.inventory.Holds (.manager k) ⟨parent, id⟩ :=
  ControlPlane.Inventory.holds_of_mem_keys
    (List.mem_map.mpr ⟨_, mem_entries_of_mem_objectsOf h hparent hmem hid, rfl⟩)

namespace Pipeline

open Cluster (InfraError Reference Slot Spec State)
open ControlPlane Program

variable {s s' s₁ : State} {k : Kind} {t : Task} {ts : List Task} {es : List Event}
  {g : Generation} {c : Context} {spec : Spec} {r : Reference} {place place' : Place}
  {b b' b₁ : Testbed} {i i' : Inventory}

/-! ### What references point at -/

/-- The place of what a reference points at: it has the reference's id, and the reference's path is
its own. Objects that belong to nothing are under no parent. -/
def PointsAt (k : Kind) (r : Reference) (place : Place) : Prop :=
  r = ⟨place.id, k.path place⟩ ∧ (ownerSlot k = none → place.parent = "")

theorem ownerSlot_eq_none_iff : ownerSlot k = none ↔ k.isNested = false := by
  rcases k with k | k <;> cases k <;> decide

/-- **A reference points at one place.** -/
theorem PointsAt.unique (h : PointsAt k r place) (h' : PointsAt k r place') : place = place' := by
  obtain ⟨rfl, hparent⟩ := h
  obtain ⟨hr, hparent'⟩ := h'
  obtain ⟨hid, hpath⟩ : place.id = place'.id ∧ k.path place = k.path place' :=
    Reference.mk.inj hr
  cases hk : k.isNested with
  | true => exact Kind.place_eq_of_path_eq hk hid hpath
  | false =>
    have hnone := ownerSlot_eq_none_iff.mpr hk
    have hparents : place.parent = place'.parent := (hparent hnone).trans (hparent' hnone).symm
    cases place
    cases place'
    simp_all

theorem pointsAt_of_parentOf {parent : String} (h : parentOf k s = some parent) (id : String) :
    PointsAt k ⟨id, k.path ⟨parent, id⟩⟩ ⟨parent, id⟩ := by
  refine ⟨rfl, fun hnone => ?_⟩
  rw [parentOf, hnone] at h
  exact (Option.some.inj h).symm

/-- Whether what a reference points at is there. -/
def Stands (i : Inventory) (k : Kind) (r : Reference) : Prop :=
  ∃ place, PointsAt k r place ∧ i.Holds k place

theorem Stands.mono (h : Stands i k r) (hheld : ∀ place, i.Holds k place → i'.Holds k place) :
    Stands i' k r := by
  obtain ⟨place, hplace, hholds⟩ := h
  exact ⟨place, hplace, hheld place hholds⟩

/-! ### What a task does to objects -/

/-- What a task does to the objects of a control plane: it takes nothing away, what it newly refers
to is there, and created objects are kept under their ids. -/
structure Stocked (w w' : World) : Prop where
  /-- Nothing is taken away. -/
  held : ∀ k place, w.1.inventory.Holds k place → w'.1.inventory.Holds k place
  /-- What is newly referred to is there. -/
  stands : ∀ k r, w'.2.reference (slot k) = some r →
    w.2.reference (slot k) = some r ∨ Stands w'.1.inventory k r
  /-- Created objects are kept under their ids. -/
  indexed : w'.1.inventory.Indexed

theorem Stocked.trans {w w' w'' : World} (h : Stocked w w') (h' : Stocked w' w'') :
    Stocked w w'' where
  held k place hholds := h'.held k place (h.held k place hholds)
  stands k r href := by
    rcases h'.stands k r href with hkept | hstands
    · exact (h.stands k r hkept).imp_right fun hstands => hstands.mono (h'.held k)
    · exact .inr hstands
  indexed := h'.indexed

/-- Where the objects are as they were, and no reference is written. -/
theorem stocked_of_same {w w' : World} (hi : w.1.inventory.Indexed)
    (htables : ∀ k, w'.1.inventory.table k = w.1.inventory.table k)
    (hslots : ∀ k, w'.2.reference (slot k) = w.2.reference (slot k)) : Stocked w w' where
  held k _ hholds := (Inventory.holds_of_table_eq (htables k)).mpr hholds
  stands k _ href := .inl ((hslots k).symm.trans href)
  indexed := hi.congr fun k => htables (.manager k)

/-- Creating an object keeps created objects under their ids. -/
theorem Built.indexed {parent : String} {o : k.Object} {left : Left Action}
    (h : Built parent s k o es left) (hqueued : b.queued = [])
    (hreplies : Replies Testbed.perform es b b') (hi : b.plane.inventory.Indexed)
    (hparent : ownerSlot k = none → parent = "") : b'.plane.inventory.Indexed := by
  cases h with
  | @declared k o id =>
    obtain ⟨-, hreplies⟩ := Testbed.replies_drawId hreplies
    have hanswer := Testbed.replies_called (b := { b with plane := b.plane.drawId.2 }) hqueued
      hreplies
    rw [Simulator.patch_of_answer_ok hanswer]
    exact hi.put_policy k ⟨parent, id⟩ _
  | undeclared id e =>
    obtain ⟨-, hreplies⟩ := Testbed.replies_drawId hreplies
    have hanswer := Testbed.replies_called (b := { b with plane := b.plane.drawId.2 }) hqueued
      hreplies
    rw [Simulator.inventory_of_answer_error hanswer]
    exact hi
  | @created k o answer id hid =>
    have hanswer := Testbed.replies_called hqueued hreplies
    obtain ⟨rfl, hput⟩ := Simulator.create_of_answer_ok hanswer
    rw [hput]
    refine hi.put_manager (ManagerKind.id?_withRevision_stamped ..) fun hnested => ?_
    exact hparent (ownerSlot_eq_none_iff.mpr hnested)
  | nameless hid =>
    have hanswer := Testbed.replies_called hqueued hreplies
    obtain ⟨rfl, -⟩ := Simulator.create_of_answer_ok hanswer
    rw [ManagerKind.id?_withRevision_stamped] at hid
    exact nomatch hid
  | uncreated e =>
    rw [Simulator.inventory_of_answer_error (Testbed.replies_called hqueued hreplies)]
    exact hi

/-- **What is created is there.** -/
theorem Built.stocked {parent : String} {o : k.Object} {left : Left Action}
    (h : Built parent s k o es left) (hqueued : b.queued = [])
    (hreplies : Replies Testbed.perform es b b') (hi : b.plane.inventory.Indexed)
    (hparent : parentOf k s = some parent) :
    Stocked (b.plane, s) (b'.plane, left.2) := by
  have hindexed : b'.plane.inventory.Indexed := by
    refine h.indexed hqueued hreplies hi fun hnone => ?_
    rw [parentOf, hnone] at hparent
    exact (Option.some.inj hparent).symm
  rcases h.stored hqueued hreplies with ⟨n, stored, rfl, hput, -⟩ | ⟨e, rfl, hsame⟩
  · refine ⟨fun k' place hholds => ?_, fun k' r href => ?_, hindexed⟩
    · show b'.plane.inventory.Holds k' place
      rw [hput]
      by_cases hk : k' = k
      · subst hk
        exact Inventory.holds_put_iff.mpr (.inr hholds)
      · exact (Inventory.holds_put_of_ne hk).mpr hholds
    · rw [reference_recorded] at href
      by_cases hk : k' = k
      · subst hk
        rw [State.reference_withReference_self] at href
        obtain rfl := Option.some.inj href
        refine .inr ⟨⟨parent, b.plane.freshId n⟩, pointsAt_of_parentOf hparent _, ?_⟩
        rw [hput]
        exact Inventory.holds_put_iff.mpr (.inl rfl)
      · rw [State.reference_withReference_of_ne s fun heq => hk (slot_injective heq)] at href
        exact .inl href
  · refine ⟨fun k' place hholds => ?_, fun k' r href => .inl href, hindexed⟩
    show b'.plane.inventory.Holds k' place
    rw [hsame]
    exact hholds

/-- Changing an object that is there keeps created objects under their ids. -/
theorem Overwritten.indexed {current desired o : k.Object} {left : Left Action}
    (h : Overwritten place s k current desired es left) (hqueued : b.queued = [])
    (hreplies : Replies Testbed.perform es b b') (hi : b.plane.inventory.Indexed)
    (hfind : b.plane.inventory.find? k place = some o) : b'.plane.inventory.Indexed := by
  cases h with
  | @declared k current desired =>
    rw [Simulator.patch_of_answer_ok (Testbed.replies_called hqueued hreplies)]
    exact hi.put_policy k place _
  | @updated k current desired answer =>
    obtain ⟨⟨revision, rfl⟩, hput⟩ :=
      Simulator.update_of_answer_ok (Testbed.replies_called hqueued hreplies)
    rw [hput]
    exact hi.put_manager (ManagerKind.id?_withRevision_stamped ..) (hi.parent_eq_empty hfind)
  | undeclared e =>
    rw [Simulator.inventory_of_answer_error (Testbed.replies_called hqueued hreplies)]
    exact hi
  | refused e =>
    rw [Simulator.inventory_of_answer_error (Testbed.replies_called hqueued hreplies)]
    exact hi

/-- **Bringing an object about takes nothing away.** -/
theorem Ensured.stocked {left : Left Action} (h : Ensured k c spec s es left)
    (hqueued : b.queued = []) (hreplies : Replies Testbed.perform es b b')
    (hi : b.plane.inventory.Indexed) :
    Stocked (b.plane, s) (b'.plane, left.2) := by
  have hopened : ∀ {plane : Simulator}, plane.inventory = b.plane.inventory →
      Stocked (b.plane, s) (plane, opened k s) := by
    intro plane hsame
    refine stocked_of_same hi (fun k' => ?_) fun k' => reference_opened k s (slot k')
    show plane.inventory.table k' = _
    rw [hsame]
  cases h with
  | undrafted hdraft =>
    rw [replies_nil.mp hreplies]
    exact stocked_of_same hi (fun _ => rfl) fun _ => rfl
  | first hdraft href h =>
    have hparent := (parentOf_opened k k s).trans (parentOf_of_draft hdraft)
    exact (hopened rfl).trans (h.stocked hqueued hreplies hi hparent)
  | kept hdraft href hagrees =>
    obtain ⟨-, hsame⟩ := Simulator.get_of_answer_ok (Testbed.replies_called hqueued hreplies)
    exact hopened hsame
  | changed hdraft href hagrees h =>
    obtain ⟨plane, hanswer, hreplies⟩ := Testbed.replies_call hqueued hreplies
    obtain ⟨hfind, hsame⟩ := Simulator.get_of_answer_ok hanswer
    rw [← hsame] at hfind
    have hi' : plane.inventory.Indexed := hsame ▸ hi
    have hholds := h.holds_iff (b := { b with plane }) hqueued hreplies
      (Inventory.holds_of_find? hfind)
    refine (hopened hsame).trans ⟨fun k' place hheld => (hholds k' place).mpr hheld,
      fun k' r href' => .inl ((h.reference (slot k')).symm.trans href'), ?_⟩
    exact h.indexed (b := { b with plane }) hqueued hreplies hi' hfind
  | again hdraft href he h =>
    obtain ⟨plane, hanswer, hreplies⟩ := Testbed.replies_call hqueued hreplies
    have hsame := Simulator.inventory_of_answer_error hanswer
    have hi' : plane.inventory.Indexed := hsame ▸ hi
    have hparent := (parentOf_opened k k s).trans (parentOf_of_draft hdraft)
    exact (hopened hsame).trans (h.stocked (b := { b with plane }) hqueued hreplies hi' hparent)
  | unread hdraft href he =>
    exact hopened (Simulator.inventory_of_answer_error (Testbed.replies_called hqueued hreplies))

/-- **Recovering takes nothing away, and what it adopts is there.** -/
theorem recoverIfLost_stocked {left : Left Unit} (hqueued : b.queued = [])
    (h : b.run (recoverIfLost t c s) = (some left, b')) (hi : b.plane.inventory.Indexed) :
    Stocked (b.plane, s) (b'.plane, left.2) := by
  have htables : ∀ k, b'.plane.inventory.table k = b.plane.inventory.table k := fun k =>
    (recoverIfLost_same hqueued h).2 (.table k)
  have hsame : left.2 = s → Stocked (b.plane, s) (b'.plane, left.2) := fun hleft =>
    stocked_of_same hi htables fun k => by rw [hleft]
  rcases recoverIfLost_cases t c s with hrecover | ⟨k, rfl, -, hrecover⟩
  · rw [hrecover] at h
    obtain ⟨rfl, -⟩ := run_done_eq_some_iff.mp h
    exact hsame rfl
  · rw [hrecover, adopt_eq] at h
    obtain ⟨left', b₁, h₁, h₂⟩ := run_bind_eq_some_iff.mp h
    obtain ⟨rfl, -⟩ := run_done_eq_some_iff.mp h₂
    split at h₁
    · obtain ⟨rfl, -⟩ := run_done_eq_some_iff.mp h₁
      exact hsame rfl
    · next parent hparent =>
      obtain ⟨found, b₂, h₃, h₄⟩ := run_bind_eq_some_iff.mp h₁
      obtain ⟨rfl, -⟩ := run_done_eq_some_iff.mp h₄
      rw [listingParent_eq_parentOf] at hparent
      match found with
      | .error e => exact hsame rfl
      | .ok none => exact hsame rfl
      | .ok (some o) =>
        cases hid : k.id? o with
        | none => exact hsame (by simp only [adopted, Option.bind_some, hid])
        | some id =>
          have hpoints := pointsAt_of_parentOf hparent id
          have hmem : o ∈ b.plane.objectsOf k parent :=
            mem_of_firstIn ((lists_objectsOf k parent).loop_ok hqueued h₃)
          have hholds : b.plane.inventory.Holds (.manager k) ⟨parent, id⟩ :=
            Simulator.holds_of_mem_objectsOf hi
              (fun hnested => hpoints.2 (ownerSlot_eq_none_iff.mpr hnested)) hmem hid
          refine ⟨fun k' _ => (Inventory.holds_of_table_eq (htables k')).mpr, ?_,
            hi.congr fun k' => htables (.manager k')⟩
          intro k' r href
          simp only [adopted, Option.bind_some, hid] at href
          by_cases hk : k' = .manager k
          · subst hk
            rw [State.reference_withReference_self] at href
            obtain rfl := Option.some.inj href
            exact .inr ⟨_, hpoints, (Inventory.holds_of_table_eq (htables _)).mpr hholds⟩
          · rw [State.reference_withReference_of_ne s fun heq => hk (slot_injective heq)] at href
            exact .inl href

/-- **A task takes nothing away, and what it refers to is there.** -/
theorem runTask_stocked {left : Left Action} (hqueued : b.queued = [])
    (h : b.run (runTask t c spec s) = (some left, b')) (hi : b.plane.inventory.Indexed) :
    Stocked (b.plane, s) (b'.plane, left.2) := by
  by_cases ht : ∃ k, t = .managed k
  · obtain ⟨k, rfl⟩ := ht
    obtain ⟨recovered, b₁, h₁, hqueued₁, hleft⟩ := runTask_managed_cases hqueued h
    have hrecovered := recoverIfLost_stocked hqueued h₁ hi
    rcases hleft with ⟨hsame, rfl⟩ | ⟨es, left', hensured, hreplies, hsame⟩
    · rw [hsame]
      exact hrecovered
    · rw [hsame]
      exact hrecovered.trans (hensured.stocked hqueued₁ hreplies hrecovered.indexed)
  · obtain ⟨es, htrace, -⟩ := run_eq_some_iff.mp h
    refine stocked_of_same hi (fun k => table_runTask_of_ne hqueued h fun heq => ht ⟨k, heq⟩) ?_
    exact fun k => (runTask_advanced htrace).1.others (slot k) fun hown =>
      ht ⟨k, Task.slot_injective hown⟩

/-- **What is there is found again**, under the owner that is known, so no other object is made in
its place. -/
theorem Ensured.keeps {left : Left Action} (h : Ensured k c spec s es left)
    (hqueued : b.queued = []) (hreplies : Replies Testbed.perform es b b')
    (hrefers : Refers s k place) (hholds : b.plane.inventory.Holds k place) :
    left.2.reference (slot k) = s.reference (slot k) := by
  have hopened := reference_opened k s (slot k)
  cases h with
  | undrafted hdraft => rfl
  | first hdraft hnone h => exact nomatch hnone.symm.trans hrefers.1
  | kept hdraft hset hagrees => exact hopened
  | changed hdraft hset hagrees h => exact (h.reference (slot k)).trans hopened
  | @again parent o r e es _ hdraft hset he h =>
    obtain rfl : r = ⟨place.id, k.path place⟩ := Option.some.inj (hset.symm.trans hrefers.1)
    obtain rfl : parent = place.parent :=
      Option.some.inj ((parentOf_of_draft hdraft).symm.trans hrefers.2)
    obtain ⟨plane, hanswer, -⟩ := Testbed.replies_call hqueued hreplies
    have hnone := Simulator.get_of_answer_notFound hanswer he
    exact absurd hholds (Inventory.find?_eq_none_iff.mp hnone)
  | unread hdraft hset he => exact hopened

/-- A task keeps a reference to what is there under the owner that is known. -/
theorem runTask_keeps_referred {left : Left Action} (hqueued : b.queued = [])
    (h : b.run (runTask (.managed k) c spec s) = (some left, b')) (hrefers : Refers s k place)
    (hholds : b.plane.inventory.Holds k place) :
    left.2.reference (slot k) = s.reference (slot k) := by
  obtain ⟨es, left', hensured, hreplies, rfl⟩ :=
    ensured_of_run (recoverIfLost_of_reference (t := .managed k) hrefers.1 c) h
  exact hensured.keeps hqueued hreplies hrefers hholds

/-- A task keeps a reference to what stands, if it is to something that belongs to nothing. -/
theorem runTask_keeps {left : Left Action} (hqueued : b.queued = [])
    (h : b.run (runTask (.managed k) c spec s) = (some left, b')) (howner : ownerSlot k = none)
    (href : s.reference (slot k) = some r) (hstands : Stands b.plane.inventory k r) :
    left.2.reference (slot k) = some r := by
  obtain ⟨place, ⟨rfl, htop⟩, hholds⟩ := hstands
  have hparent : parentOf k s = some place.parent := by
    rw [parentOf, howner, htop howner]
  exact (runTask_keeps_referred hqueued h ⟨href, hparent⟩ hholds).trans href

/-! ### Anchored references -/

/-- **Every reference stands, and leads to a place under the owner that is known.** The pool of an
allocation is looked up anew by every run, so it need not be the one that is known. -/
structure Anchored (w : World) : Prop where
  /-- References lead to places whose owners are known. -/
  homed : Homed w.2
  /-- What is referred to is there. -/
  stands : ∀ k r, w.2.reference (slot k) = some r → Stands w.1.inventory k r
  /-- It lies under the owner that is known, unless that is only looked up. -/
  tied : ∀ k r, ownerSlot k ≠ some .snatIpPool → w.2.reference (slot k) = some r →
    ∃ place, Refers w.2 k place
  /-- Created objects are kept under their ids. -/
  indexed : w.1.inventory.Indexed
  /-- The ids that will be drawn can be part of paths. -/
  ids : ∀ n, Path.IsId (w.1.freshId n)

/-- A control plane that a cluster has just come to. -/
theorem anchored_fresh {plane : Simulator} (hi : plane.inventory.Indexed)
    (hids : ∀ n, Path.IsId (plane.freshId n)) : Anchored (plane, .fresh) where
  homed := homed_fresh
  stands k _ href := nomatch (reference_fresh (slot k)).symm.trans href
  tied k _ _ href := nomatch (reference_fresh (slot k)).symm.trans href
  indexed := hi
  ids := hids

/-- What others belong to belongs to nothing itself. -/
theorem ownerSlot_of_ownerSlot {k' : Kind} (h : ownerSlot k = some (slot k')) :
    ownerSlot k' = none := by
  match k with
  | .policy .localeService | .policy .segment | .policy .natRule =>
    obtain rfl : Kind.policy .tier1 = k' := slot_injective (Option.some.inj h)
    rfl
  | .policy .ipAllocation => exact absurd (Option.some.inj h).symm (slot_ne_snatIpPool k')
  | .manager .dhcpIpPool =>
    obtain rfl : Kind.manager .dhcpServer = k' := slot_injective (Option.some.inj h)
    rfl
  | .policy .tier1 | .policy .dhcpServerConfig | .manager .dhcpProfile | .manager .dhcpServer
  | .manager .logicalPort => exact nomatch h

/-- **A task leaves owners in place.** What objects belong to is the same afterwards, unless it is
only looked up. -/
theorem Anchored.parentOf_runTask {left : Left Action} {parent : String}
    (h : Anchored (b.plane, s)) (hqueued : b.queued = [])
    (hrun : b.run (Pipeline.runTask t c spec s) = (some left, b'))
    (hpool : ownerSlot k ≠ some .snatIpPool) (hparent : parentOf k s = some parent) :
    parentOf k left.2 = some parent := by
  obtain ⟨es, htrace, -⟩ := run_eq_some_iff.mp hrun
  cases howner : ownerSlot k with
  | none =>
    rw [parentOf, howner] at hparent ⊢
    exact hparent
  | some slot' =>
    rw [parentOf, howner] at hparent ⊢
    obtain ⟨r, href, hid⟩ := Option.map_eq_some_iff.mp hparent
    have hkept : left.2.reference slot' = some r := by
      by_cases hown : t.slot = some slot'
      · rcases ownerSlot_cases howner with rfl | ⟨k', rfl⟩
        · exact absurd howner hpool
        · obtain rfl : t = .managed k' := Task.slot_injective hown
          have htop := ownerSlot_of_ownerSlot howner
          exact runTask_keeps hqueued hrun htop href (h.stands k' r href)
      · exact ((runTask_advanced htrace).1.others slot' hown).trans href
    exact Option.map_eq_some_iff.mpr ⟨r, hkept, hid⟩

/-- **A task keeps references anchored.** -/
theorem Anchored.runTask {left : Left Action} (h : Anchored (b.plane, s)) (hqueued : b.queued = [])
    (hrun : b.run (Pipeline.runTask t c spec s) = (some left, b')) :
    b'.queued = [] ∧ Anchored (b'.plane, left.2) := by
  obtain ⟨es, htrace, hreplies⟩ := run_eq_some_iff.mp hrun
  have hstocked := runTask_stocked hqueued hrun h.indexed
  have hsettings : Part.settings.Same b.plane b'.plane := Testbed.replies_settings hreplies hqueued
  refine ⟨(Testbed.replies_same hreplies hqueued).1, ?_, fun k r href => ?_,
    fun k r hpool href => ?_, hstocked.indexed, fun n => ?_⟩
  · exact h.homed.runTask (drawsIds_of_replies hqueued h.ids hreplies) htrace
  · rcases hstocked.stands k r href with hkept | hstands
    · exact (h.stands k r hkept).mono (hstocked.held k)
    · exact hstands
  · rcases runTask_writes htrace href with hkept | ⟨place, rfl, hparent, -⟩
    · obtain ⟨place, hplace, hparent⟩ := h.tied k r hpool hkept
      obtain rfl : r = ⟨place.id, k.path place⟩ := Option.some.inj (hkept.symm.trans hplace)
      exact ⟨place, href, h.parentOf_runTask hqueued hrun hpool hparent⟩
    · exact ⟨place, href, h.parentOf_runTask hqueued hrun hpool hparent⟩
  · rw [hsettings.2.2]
    exact h.ids n

theorem Anchored.runTasks {left : Left (List Outcome)} (h : Anchored (b.plane, s))
    (hqueued : b.queued = [])
    (hrun : b.run (Pipeline.runTasks c spec ts s) = (some left, b')) :
    b'.queued = [] ∧ Anchored (b'.plane, left.2) :=
  runTasks_invariant (P := fun b s => b.queued = [] ∧ Anchored (b.plane, s))
    (fun h' hrun' => h'.2.runTask h'.1 hrun') ⟨hqueued, h⟩ hrun

/-- **A run keeps references anchored**, wherever it stops. -/
theorem Anchored.run {left : Left (List Outcome)} (h : Anchored (b.plane, s))
    (hqueued : b.queued = []) (hrun : b.run (Pipeline.run g c spec s) = (some left, b')) :
    b'.queued = [] ∧ Anchored (b'.plane, left.2) := by
  rw [Pipeline.run] at hrun
  split at hrun
  · obtain ⟨rfl, rfl⟩ := run_done_eq_some_iff.mp hrun
    exact ⟨hqueued, h⟩
  · exact h.runTasks hqueued hrun

end Pipeline

end ClusterNet
