import ClusterNet.Proofs.Pipeline.Anchors
import ClusterNet.Proofs.Pipeline.Generations

/-!
# What a takedown leaves behind

A deletion names its object by an id and by the object that it belongs to. Where the two do not go
together, the answer is that there is no such object, which counts as done, and the reference is
forgotten while the object stays.

The gateway that an object belongs to is read from the object's own path, and a logical server is
never made anew while a pool of it is known. So these deletions name what they should. An allocation
is deleted under the pool that is known now, and a run binds that pool anew before it comes to the
allocation. If the run was given another name for the pool and stopped in between, the deletion of
the allocation names the wrong pool.

## Main definitions

* `Pipeline.RanOn` — testbeds and states that runs lead to

## Main results

* `Pipeline.holds_deletions` — what deletions leave
* `Pipeline.takeDownTasks_leaves_iff` — what is there after a takedown that succeeded
* `Pipeline.takeDown_rebound` — the allocation that is left behind
-/

namespace ClusterNet

namespace Pipeline

open Cluster (InfraError Reference Slot Spec State)
open ControlPlane Program

variable {s s' : State} {k k' : Kind} {ts : List Task} {es : List Event} {g : Generation}
  {r : Reference} {place place' : Place} {b b' : Testbed}

/-! ### Histories -/

/-- The testbeds and states that runs lead to. Every run may be given another specification and
another context, it may meet another generation, and it may stop anywhere: any method can be made to
fail. At the start nothing is known, and created objects that are there have the ids that they are
kept under. -/
inductive RanOn : Testbed → State → Prop
  /-- Nothing is known yet. -/
  | start {b : Testbed} (hqueued : b.queued = []) (hids : ∀ n, Path.IsId (b.plane.freshId n))
    (hi : b.plane.inventory.Indexed) : RanOn b .fresh
  /-- A run, which may have stopped anywhere. -/
  | run {b b' : Testbed} {s s' : State} {g : Generation} {c : Context} {spec : Spec}
    {result : Except InfraError (List Outcome)} (hs : RanOn b s)
    (h : b.run (run g c spec s) = (some (result, s'), b')) : RanOn b' s'
  /-- A method that will fail. -/
  | failNext {b : Testbed} {s : State} (hs : RanOn b s) (m : Method) :
    RanOn { b with plane := b.plane.failNext m } s

theorem RanOn.anchored (h : RanOn b s) : b.queued = [] ∧ Anchored (b.plane, s) := by
  induction h with
  | start hqueued hids hi => exact ⟨hqueued, anchored_fresh hi hids⟩
  | run _ h ih => exact ih.2.run ih.1 h
  | failNext _ m ih => exact ⟨ih.1, ih.2.homed, ih.2.stands, ih.2.tied, ih.2.indexed, ih.2.ids⟩

/-- A run that comes to an end leads on. -/
theorem RanOn.next (hs : RanOn b s) {g : Generation} {c : Context} {spec : Spec}
    (h : (b.run (Pipeline.run g c spec s)).1.isSome = true) :
    RanOn (b.run (Pipeline.run g c spec s)).2
      ((b.run (Pipeline.run g c spec s)).1.elim .fresh Prod.snd) := by
  obtain ⟨left, hleft⟩ := Option.isSome_iff_exists.mp h
  rw [hleft]
  exact .run hs (Prod.ext hleft rfl)

/-! ### What deletions leave -/

/-- An object that is gone after its deletion is the only one that is. -/
theorem holds_deletion {answer : Except ApiError Unit} {plane plane' : Simulator}
    (h : Simulator.answer (.delete k place) plane = (answer, plane'))
    (hgone : isGone answer = true) (k' : Kind) (place' : Place) :
    plane'.inventory.Holds k' place' ↔
      plane.inventory.Holds k' place' ∧ ¬ (k' = k ∧ place' = place) := by
  match answer, hgone with
  | .ok (), _ =>
    rw [Simulator.delete_of_answer_ok h]
    by_cases hk : k' = k
    · subst hk
      rw [Inventory.holds_remove_iff]
      tauto
    · rw [Inventory.holds_remove_of_ne hk]
      tauto
  | .error e, he =>
    rw [Simulator.inventory_of_answer_error h]
    have hnone := Inventory.find?_eq_none_iff.mp (Simulator.delete_of_answer_notFound h he)
    refine ⟨fun hholds => ⟨hholds, ?_⟩, And.left⟩
    rintro ⟨rfl, rfl⟩
    exact hnone hholds

/-- **Deletions leave what they do not name.** -/
theorem holds_deletions (hqueued : b.queued = []) (h : Replies Testbed.perform es b b')
    (hes : ∀ e ∈ es, ∃ k place answer, isGone answer = true ∧ e = called (.delete k place) answer) :
    b'.plane.inventory.Holds k place ↔
      b.plane.inventory.Holds k place ∧ ∀ answer, called (.delete k place) answer ∉ es := by
  induction es generalizing b with
  | nil =>
    rw [replies_nil.mp h]
    exact ⟨fun hholds => ⟨hholds, fun _ => List.not_mem_nil⟩, And.left⟩
  | cons e es ih =>
    obtain ⟨k', place', answer', hgone, rfl⟩ := hes e (.head es)
    obtain ⟨plane, hanswer, hrest⟩ := Testbed.replies_call hqueued h
    rw [ih (b := { b with plane }) hqueued hrest fun e hmem => hes e (.tail _ hmem),
      holds_deletion hanswer hgone k place, and_assoc]
    refine and_congr_right fun _ => ⟨?_, fun hnot => ⟨?_, fun answer hmem => ?_⟩⟩
    · rintro ⟨hne, hnot⟩ answer hmem
      rcases List.mem_cons.mp hmem with heq | hmem
      · cases heq
        exact hne ⟨rfl, rfl⟩
      · exact hnot answer hmem
    · rintro ⟨rfl, rfl⟩
      exact hnot answer' (.head es)
    · exact hnot answer (.tail _ hmem)

/-- What tasks that are done have asked to delete: what is referred to, under its owner. -/
theorem Completed.mem_iff {labels : List String} (h : Completed ts s es labels s') :
    (∃ answer, called (.delete k place) answer ∈ es) ↔
      .managed k ∈ ts ∧ ∃ r, s.reference (slot k) = some r ∧ r.id = place.id ∧
        ownerOf k s r = .ok place.parent := by
  constructor
  · rintro ⟨answer, hmem⟩
    obtain ⟨k', answer', hk', -, r, parent, href, howner, heq⟩ := h.deletes _ hmem
    cases heq
    exact ⟨hk', r, href, rfl, howner⟩
  · rintro ⟨hk, r, href, hid, howner⟩
    have hheld : k ∈ held ts s := mem_held.mpr ⟨hk, by rw [href]; rfl⟩
    obtain ⟨e, hmem, answer, -, r', parent, href', howner', rfl⟩ :=
      exists_of_mem_left h.deletions hheld
    obtain rfl : r' = r := Option.some.inj (href'.symm.trans href)
    obtain rfl : parent = place.parent := Except.ok.inj (howner'.symm.trans howner)
    rw [hid] at hmem
    exact ⟨answer, hmem⟩

/-! ### What a takedown leaves -/

/-- The deletion of an object that is no allocation names it. -/
theorem Anchored.ownerOf {w : World} (h : Anchored w) (hk : k ≠ .policy .ipAllocation)
    (href : w.2.reference (slot k) = some r) (hplace : PointsAt k r place) :
    Pipeline.ownerOf k w.2 r = .ok place.parent := by
  by_cases howner : ownerSlot k = some .tier1Gateway
  · obtain ⟨pk, rfl, hpk⟩ := eq_policy_of_ownerSlot howner
    obtain ⟨place', rfl, hparent⟩ := h.homed.placed (.policy pk) r href
    have hpoints : PointsAt (.policy pk) ⟨place'.id, pk.path place'⟩ place' :=
      ⟨rfl, fun hnone => nomatch hnone.symm.trans howner⟩
    rw [hplace.unique hpoints]
    exact ownerOf_path hpk (hparent howner) w.2
  · have hpool : ownerSlot k ≠ some .snatIpPool := fun heq => hk (eq_ipAllocation_of_ownerSlot heq)
    obtain ⟨place', hown, hparent⟩ := h.tied k r hpool href
    obtain rfl : r = ⟨place'.id, k.path place'⟩ := Option.some.inj (href.symm.trans hown)
    rw [hplace.unique (pointsAt_of_parentOf hparent place'.id)]
    exact ownerOf_of_parentOf howner hparent _

/-- **When a deletion names its object.** That of an allocation does if the pool that is known is
the one that the allocation lies in. -/
theorem Anchored.ownerOf_iff {w : World} (h : Anchored w) (href : w.2.reference (slot k) = some r)
    (hplace : PointsAt k r place) : Pipeline.ownerOf k w.2 r = .ok place.parent ↔
      (k = .policy .ipAllocation → parentOf k w.2 = some place.parent) := by
  by_cases hk : k = .policy .ipAllocation
  · subst hk
    obtain ⟨parent, hparent⟩ := Option.isSome_iff_exists.mp
      (h.homed.owned (.policy .ipAllocation) (by rw [href]; rfl))
    rw [ownerOf_of_parentOf (by decide) hparent, hparent, Except.ok.injEq, Option.some.injEq]
    exact ⟨fun hsame _ => hsame, fun hsame => hsame rfl⟩
  · exact iff_of_true (h.ownerOf hk href hplace) fun heq => absurd heq hk

/-- **What is there after a takedown that succeeded.** Whatever runs have led to the state, what a
reference pointed at was there when the takedown began. It is still there only if no task of the
takedown looks after it, or if it is an allocation and the pool that is known is not the one that it
lies in. -/
theorem takeDownTasks_leaves_iff (hs : RanOn b s) (hts : ts = tasks g ∨ ts = teardownTasks g s)
    {labels : List String} (h : b.run (takeDownTasks ts s) = (some (.ok labels, s'), b'))
    (href : s.reference (slot k) = some r) :
    Stands b.plane.inventory k r ∧ ∀ place, PointsAt k r place →
      (b'.plane.inventory.Holds k place ↔
        (.managed k ∈ ts → k = .policy .ipAllocation ∧ parentOf k s ≠ some place.parent)) := by
  obtain ⟨hqueued, hanchored⟩ := hs.anchored
  have hstands : Stands b.plane.inventory k r := hanchored.stands k r href
  refine ⟨hstands, fun place hplace => ?_⟩
  have hholds : b.plane.inventory.Holds k place := by
    obtain ⟨place', hplace', hholds⟩ := hstands
    exact hplace.unique hplace' ▸ hholds
  obtain ⟨es, htrace, hreplies⟩ := run_eq_some_iff.mp h
  have hdone : Completed ts.reverse s es labels s' := completed_of_ok hts htrace
  have hes : ∀ e ∈ es, ∃ k place answer, isGone answer = true ∧
      e = called (.delete k place) answer := by
    intro e hmem
    obtain ⟨k', answer, -, hgone, r', parent, -, -, rfl⟩ := hdone.deletes e hmem
    exact ⟨k', _, answer, hgone, rfl⟩
  have hdeleted : (∃ answer, called (.delete k place) answer ∈ es) ↔
      .managed k ∈ ts ∧ (k = .policy .ipAllocation → parentOf k s = some place.parent) := by
    rw [hdone.mem_iff, List.mem_reverse]
    refine and_congr_right fun _ => ?_
    rw [← hanchored.ownerOf_iff href hplace]
    constructor
    · rintro ⟨r', href', -, howner⟩
      rwa [← Option.some.inj (href.symm.trans href')] at howner
    · exact fun howner => ⟨r, href, by rw [hplace.1], howner⟩
  rw [holds_deletions hqueued hreplies hes, ← not_exists, hdeleted]
  tauto

/-- A takedown behind the first run for a cluster leaves nothing that was referred to. -/
theorem takeDownTasks_leaves_iff_typical :
    ∃ labels s' b', firstRun.2.run (takeDownTasks (teardownTasks .v2 typicalState) typicalState) =
        (some (.ok labels, s'), b') ∧
      ∀ k r place, typicalState.reference (slot k) = some r → PointsAt k r place →
        ¬ b'.plane.inventory.Holds k place := by
  have hran : RanOn firstRun.2 typicalState :=
    RanOn.next (.start rfl Path.isId_numberedId Inventory.indexed_empty) (by decide +kernel)
  have hok : (firstRun.2.run (takeDownTasks (teardownTasks .v2 typicalState) typicalState)).1.any
      (·.1.isOk) = true := by decide +kernel
  have hdhcp : typicalState.dhcp.isSome = true := by decide +kernel
  have hall : ∀ k, .managed k ∈ teardownTasks .v2 typicalState := by
    intro k
    rw [teardownTasks, if_pos hdhcp]
    rcases k with k | k <;> cases k <;> decide
  have hallocation : Refers typicalState (.policy .ipAllocation) ⟨"snat", Text.numberedId 3⟩ :=
    ⟨by decide +kernel, by decide +kernel⟩
  cases hrun : firstRun.2.run (takeDownTasks (teardownTasks .v2 typicalState) typicalState) with
  | mk left b' =>
    rw [hrun] at hok
    obtain ⟨⟨result, s'⟩, rfl, hresult⟩ := (Option.any_eq_true _ _).mp hok
    cases result with
    | error e => exact nomatch hresult
    | ok labels =>
      refine ⟨labels, s', b', rfl, fun k r place href hplace hholds => ?_⟩
      have hleaves := (takeDownTasks_leaves_iff hran (.inr rfl) hrun href).2 place hplace
      obtain ⟨rfl, hother⟩ := hleaves.mp hholds (hall k)
      rw [Option.some.inj (href.symm.trans hallocation.1)] at hplace
      rw [hplace.unique (pointsAt_of_parentOf hallocation.2 _)] at hother
      exact hother hallocation.2

/-- The run that comes next, with another name for the pool, and stops at the gateway. -/
def reboundRun : Option (Left (List Outcome)) × Testbed :=
  ({ newerRun.2 with plane := newerRun.2.plane.failNext (.get (.policy .tier1)) } : Testbed).run
    (run .v3 { identity := typicalCluster.identity, rounds := 3 }
      { typicalCluster with snatIpPoolName := "pool-a" } newerState)

/-- What is known after it. -/
def reboundState : State := reboundRun.1.elim .fresh Prod.snd

/-- Where the allocation lies. -/
def reboundPlace : Place := ⟨"snat", Text.numberedId 4⟩

theorem ranOn_newerState : RanOn newerRun.2 newerState :=
  RanOn.next (.start rfl Path.isId_numberedId Inventory.indexed_empty) (by decide +kernel)

theorem ranOn_reboundState : RanOn reboundRun.2 reboundState :=
  RanOn.next (ranOn_newerState.failNext (.get (.policy .tier1))) (by decide +kernel)

/-- **An allocation is left behind** when a run that was given another pool stopped before it came
to the allocation: the takedown succeeds, one of its tasks looks after allocations, and the
allocation is still there. -/
theorem takeDown_rebound :
    ¬ ∀ b s g labels s' b', RanOn b s → b.run (takeDown g s) = (some (.ok labels, s'), b') →
      ∀ k r place, .managed k ∈ teardownTasks g s → s.reference (slot k) = some r →
        PointsAt k r place → ¬ b'.plane.inventory.Holds k place := by
  intro hall
  have htakenDown : (reboundRun.2.run (takeDown .v3 reboundState)).1.any (·.1.isOk) = true ∧
      ((reboundRun.2.run (takeDown .v3 reboundState)).2.plane.inventory.find?
        (.policy .ipAllocation) reboundPlace).isSome = true := by decide +kernel
  have href : reboundState.reference (slot (.policy .ipAllocation)) =
      some ⟨reboundPlace.id, (Kind.policy .ipAllocation).path reboundPlace⟩ := by decide +kernel
  have hpoints : PointsAt (.policy .ipAllocation)
      ⟨reboundPlace.id, (Kind.policy .ipAllocation).path reboundPlace⟩ reboundPlace :=
    ⟨rfl, nofun⟩
  have htask : .managed (.policy .ipAllocation) ∈ teardownTasks .v3 reboundState := by
    rcases takeDown_pipelines (.inr rfl : teardownTasks .v3 reboundState = tasks .v3 ∨ _) with
      hts | hts | hts <;> rw [hts] <;> decide
  cases hrun : reboundRun.2.run (takeDown .v3 reboundState) with
  | mk left b' =>
    rw [hrun] at htakenDown
    obtain ⟨hok, hholds⟩ := htakenDown
    obtain ⟨⟨result, s'⟩, rfl, hresult⟩ := (Option.any_eq_true _ _).mp hok
    cases result with
    | error e => exact nomatch hresult
    | ok labels => exact hall _ _ _ _ _ _ ranOn_reboundState hrun _ _ _ htask href hpoints hholds

end Pipeline

end ClusterNet
