import ClusterNet.Proofs.ControlPlane.Integrity
import ClusterNet.Proofs.Pipeline.Rebinding

/-!
# Making objects anew

A task that does not find its object makes another one and forgets the first. It looks for the
object under what is known now to be its owner, so it matters whether that is where the object is.

It is for all objects but one. A gateway or a logical server is made anew only when it is gone, and
while anything lies under it, it cannot be gone: the control plane deletes nothing that others
belong to. So whatever is still there lies under the owner that is known, however often runs have
stopped and whatever others have taken away in the meantime. The exception is the allocation. Its
pool is looked up by a name, and with another name the allocation is looked for in another pool; it
is not found there, and another one is made while the first is where it was.

## Main definitions

* `Pipeline.Moored` — what is referred to and is there lies under the owner that is known
* `Pipeline.RanAmid` — testbeds and states that runs lead to while others take objects away

## Main results

* `Pipeline.Moored.runTask` — tasks keep references moored
* `Pipeline.created_iff` — an object is made anew if it is not found under the owner that is known
* `Pipeline.remade_iff` — when an object is made anew although it is there
* `Pipeline.remade_repooled` — the allocation that is
-/

namespace ClusterNet

namespace Pipeline

open Cluster (InfraError Reference Slot Spec State)
open ControlPlane Program

variable {s s' s₁ : State} {k k' : Kind} {t : Task} {ts : List Task} {es : List Event}
  {g : Generation} {c : Context} {spec : Spec} {r : Reference} {place : Place} {b b' b₁ : Testbed}

/-! ### Objects and their owners -/

/-- What objects belong to is an object of the cluster or the pool of addresses. -/
theorem owner_cases {slot' : Slot} (h : ownerSlot k = some slot') :
    slot' = .snatIpPool ∨ ∃ k', k.owner? = some k' ∧ slot' = slot k' := by
  match k with
  | .policy .localeService | .policy .segment | .policy .natRule =>
    exact .inr ⟨.policy .tier1, rfl, (Option.some.inj h).symm⟩
  | .policy .ipAllocation => exact .inl (Option.some.inj h).symm
  | .manager .dhcpIpPool => exact .inr ⟨.manager .dhcpServer, rfl, (Option.some.inj h).symm⟩
  | .policy .tier1 | .policy .dhcpServerConfig | .manager .dhcpProfile | .manager .dhcpServer
  | .manager .logicalPort => cases h

/-- What a task newly stores lies under the owner that is known. -/
theorem Built.holds {parent : String} {o : k.Object} {left : Left Action}
    (h : Built parent s k o es left) (hqueued : b.queued = [])
    (hreplies : Replies Testbed.perform es b b') (hholds : b'.plane.inventory.Holds k place) :
    b.plane.inventory.Holds k place ∨ place.parent = parent ∧
      left.2.reference (slot k) = some ⟨place.id, k.path place⟩ := by
  rcases h.stored hqueued hreplies with ⟨n, stored, rfl, hput, -⟩ | ⟨e, -, hsame⟩
  · rw [hput] at hholds
    rcases Inventory.holds_put_iff.mp hholds with rfl | hholds
    · refine .inr ⟨rfl, ?_⟩
      rw [reference_recorded, State.reference_withReference_self]
    · exact .inl hholds
  · rw [hsame] at hholds
    exact .inl hholds

theorem Ensured.holds {left : Left Action} (h : Ensured k c spec s es left)
    (hqueued : b.queued = []) (hreplies : Replies Testbed.perform es b b')
    (hholds : b'.plane.inventory.Holds k place) :
    b.plane.inventory.Holds k place ∨ parentOf k s = some place.parent ∧
      left.2.reference (slot k) = some ⟨place.id, k.path place⟩ := by
  cases h with
  | undrafted hdraft =>
    rw [replies_nil.mp hreplies] at hholds
    exact .inl hholds
  | first hdraft href h =>
    refine (h.holds hqueued hreplies hholds).imp_right fun ⟨hparent, href'⟩ => ⟨?_, href'⟩
    rw [hparent]
    exact parentOf_of_draft hdraft
  | kept hdraft href hagrees =>
    obtain ⟨-, hsame⟩ := Simulator.get_of_answer_ok (Testbed.replies_called hqueued hreplies)
    rw [hsame] at hholds
    exact .inl hholds
  | changed hdraft href hagrees h =>
    obtain ⟨plane, hanswer, hreplies⟩ := Testbed.replies_call hqueued hreplies
    obtain ⟨hfind, hsame⟩ := Simulator.get_of_answer_ok hanswer
    rw [← hsame] at hfind ⊢
    exact .inl ((h.holds_iff (b := { b with plane }) hqueued hreplies
      (Inventory.holds_of_find? hfind) k place).mp hholds)
  | again hdraft href he h =>
    obtain ⟨plane, hanswer, hreplies⟩ := Testbed.replies_call hqueued hreplies
    rw [← Simulator.inventory_of_answer_error hanswer]
    refine (h.holds (b := { b with plane }) hqueued hreplies hholds).imp_right
      fun ⟨hparent, href'⟩ => ⟨?_, href'⟩
    rw [hparent]
    exact parentOf_of_draft hdraft
  | unread hdraft href he =>
    rw [Simulator.inventory_of_answer_error (Testbed.replies_called hqueued hreplies)] at hholds
    exact .inl hholds

/-- Recovering stores nothing, and it does not change what objects of its own kind belong to. -/
theorem recoverIfLost_still {left : Left Unit} (hqueued : b.queued = [])
    (h : b.run (recoverIfLost (.managed k) c s) = (some left, b')) :
    b'.plane.inventory.table k = b.plane.inventory.table k ∧ parentOf k left.2 = parentOf k s := by
  obtain ⟨es, htrace, -⟩ := run_eq_some_iff.mp h
  refine ⟨(recoverIfLost_same hqueued h).2 (.table k), ?_⟩
  exact parentOf_congr fun slot' howner => (recoverIfLost_advanced htrace).others slot' fun hown =>
    ownerSlot_ne_slot k (howner.trans hown.symm)

/-- **What a task newly stores lies under the owner that is known**, and is referred to. -/
theorem runTask_holds {left : Left Action} (hqueued : b.queued = [])
    (h : b.run (runTask t c spec s) = (some left, b')) (hholds : b'.plane.inventory.Holds k place) :
    b.plane.inventory.Holds k place ∨ t = .managed k ∧ parentOf k s = some place.parent ∧
      left.2.reference (slot k) = some ⟨place.id, k.path place⟩ := by
  by_cases ht : t = .managed k
  · subst ht
    obtain ⟨recovered, b₁, h₁, hqueued₁, hleft⟩ := runTask_managed_cases hqueued h
    obtain ⟨htable, hparent⟩ := recoverIfLost_still hqueued h₁
    rcases hleft with ⟨-, rfl⟩ | ⟨es, left', hensured, hreplies, hleft⟩
    · exact .inl ((Inventory.holds_of_table_eq htable).mp hholds)
    · rcases hensured.holds hqueued₁ hreplies hholds with hheld | ⟨hunder, href⟩
      · exact .inl ((Inventory.holds_of_table_eq htable).mp hheld)
      · exact .inr ⟨rfl, hparent.symm.trans hunder, hleft ▸ href⟩
  · exact .inl ((Inventory.holds_of_table_eq (table_runTask_of_ne hqueued h ht)).mp hholds)

/-! ### Moored references -/

/-- **What is referred to and is there lies under the owner that is known**, unless that is the
pool. -/
structure Moored (w : World) : Prop where
  /-- Every reference leads to a place. -/
  placed : ∀ k r, w.2.reference (slot k) = some r → ∃ place, PointsAt k r place
  /-- If the object is there, its owner is the one that is known. -/
  tied : ∀ k r place, ownerSlot k ≠ some .snatIpPool → w.2.reference (slot k) = some r →
    PointsAt k r place → w.1.inventory.Holds k place → parentOf k w.2 = some place.parent
  /-- What objects belong to is there. -/
  rooted : w.1.inventory.Rooted

theorem moored_fresh {plane : Simulator} (h : plane.inventory.Rooted) : Moored (plane, .fresh) where
  placed k _ href := nomatch (reference_fresh (slot k)).symm.trans href
  tied k _ _ _ href := nomatch (reference_fresh (slot k)).symm.trans href
  rooted := h

/-- **A task leaves the owners of what is there in place.** -/
theorem Moored.parentOf_runTask {left : Left Action} (h : Moored (b.plane, s))
    (hqueued : b.queued = []) (hrun : b.run (Pipeline.runTask t c spec s) = (some left, b'))
    (hpool : ownerSlot k ≠ some .snatIpPool) (hparent : parentOf k s = some place.parent)
    (hheld : t = .managed k ∨ b.plane.inventory.Holds k place) :
    parentOf k left.2 = some place.parent := by
  obtain ⟨es, htrace, -⟩ := run_eq_some_iff.mp hrun
  cases howner : ownerSlot k with
  | none =>
    rw [parentOf, howner] at hparent ⊢
    exact hparent
  | some slot' =>
    rcases owner_cases howner with rfl | ⟨k', hk', rfl⟩
    · exact absurd howner hpool
    rw [parentOf, howner] at hparent ⊢
    obtain ⟨r, href, hid⟩ := Option.map_eq_some_iff.mp hparent
    suffices hkept : left.2.reference (slot k') = some r from
      Option.map_eq_some_iff.mpr ⟨r, hkept, hid⟩
    by_cases hown : t.slot = some (slot k')
    · obtain rfl : t = .managed k' := Task.slot_injective hown
      rcases hheld with heq | hheld
      · obtain rfl : k' = k := Task.managed.inj heq
        exact absurd howner (ownerSlot_ne_slot k')
      -- The owner has a child, so it is found and not made anew.
      · obtain ⟨⟨parent', id'⟩, hplace⟩ := h.placed k' r href
        have htop := ownerSlot_of_ownerSlot howner
        obtain rfl : parent' = "" := hplace.2 htop
        obtain rfl : id' = place.parent := (congrArg Reference.id hplace.1).symm.trans hid
        exact runTask_keeps hqueued hrun htop href ⟨_, hplace, h.rooted k k' place hk' hheld⟩
    · exact ((runTask_advanced htrace).1.others (slot k') hown).trans href

/-- **A task keeps references moored.** -/
theorem Moored.runTask {left : Left Action} (h : Moored (b.plane, s)) (hqueued : b.queued = [])
    (hrun : b.run (Pipeline.runTask t c spec s) = (some left, b')) :
    b'.queued = [] ∧ Moored (b'.plane, left.2) := by
  obtain ⟨es, htrace, hreplies⟩ := run_eq_some_iff.mp hrun
  refine ⟨(Testbed.replies_same hreplies hqueued).1, fun k r href => ?_,
    fun k r place hpool href hplace hholds => ?_, Testbed.rooted_of_replies hreplies h.rooted⟩
  · rcases runTask_writes htrace href with hkept | ⟨place, rfl, hparent, -⟩
    · exact h.placed k r hkept
    · exact ⟨place, pointsAt_of_parentOf hparent place.id⟩
  · have hstored := runTask_holds hqueued hrun hholds
    have hparent : parentOf k s = some place.parent := by
      rcases runTask_writes htrace href with hkept | ⟨place', rfl, hparent', -⟩
      · rcases hstored with hheld | ⟨-, hunder, -⟩
        · exact h.tied k r place hpool hkept hplace hheld
        · exact hunder
      · rw [hplace.unique (pointsAt_of_parentOf hparent' place'.id)]
        exact hparent'
    have hheld : t = .managed k ∨ b.plane.inventory.Holds k place := hstored.symm.imp And.left id
    exact h.parentOf_runTask hqueued hrun hpool hparent hheld

theorem Moored.runTasks {left : Left (List Outcome)} (h : Moored (b.plane, s))
    (hqueued : b.queued = [])
    (hrun : b.run (Pipeline.runTasks c spec ts s) = (some left, b')) :
    b'.queued = [] ∧ Moored (b'.plane, left.2) :=
  runTasks_invariant (P := fun b s => b.queued = [] ∧ Moored (b.plane, s))
    (fun h' hrun' => h'.2.runTask h'.1 hrun') ⟨hqueued, h⟩ hrun

/-! ### Histories among others -/

/-- The testbeds and states that runs lead to while others are at work. Every run may be given
another specification and another context, it may meet another generation, and it may stop
anywhere. Others may ask the control plane for anything in between, as long as they do not put
objects where there were none. -/
inductive RanAmid : Testbed → State → Prop
  /-- Nothing is known yet. -/
  | start {b : Testbed} (hqueued : b.queued = []) (hrooted : b.plane.inventory.Rooted) :
    RanAmid b .fresh
  /-- A run, which may have stopped anywhere. -/
  | run {b b' : Testbed} {s s' : State} {g : Generation} {c : Context} {spec : Spec}
    {result : Except InfraError (List Outcome)} (hs : RanAmid b s)
    (h : b.run (run g c spec s) = (some (result, s'), b')) : RanAmid b' s'
  /-- A method that will fail. -/
  | failNext {b : Testbed} {s : State} (hs : RanAmid b s) (m : Method) :
    RanAmid { b with plane := b.plane.failNext m } s
  /-- A request of someone else. -/
  | asked {b : Testbed} {s : State} (hs : RanAmid b s) (r : Request)
    (hnew : ∀ k place, (Simulator.answer r b.plane).2.inventory.Holds k place →
      b.plane.inventory.Holds k place) :
    RanAmid { b with plane := (Simulator.answer r b.plane).2 } s

theorem RanAmid.moored (h : RanAmid b s) : b.queued = [] ∧ Moored (b.plane, s) := by
  induction h with
  | start hqueued hrooted => exact ⟨hqueued, moored_fresh hrooted⟩
  | run _ h ih =>
    rw [Pipeline.run] at h
    split at h
    · obtain ⟨hleft, rfl⟩ := run_done_eq_some_iff.mp h
      obtain ⟨-, rfl⟩ := Prod.mk.inj hleft
      exact ih
    · exact ih.2.runTasks ih.1 h
  | failNext _ m ih => exact ⟨ih.1, ih.2.placed, ih.2.tied, ih.2.rooted⟩
  | asked _ r hnew ih =>
    exact ⟨ih.1, ih.2.placed, fun k r' place hpool href hplace hholds =>
      ih.2.tied k r' place hpool href hplace (hnew k place hholds),
      Simulator.rooted_answer ih.2.rooted r⟩

/-! ### Objects that are made anew -/

/-- An object that is created says so. -/
theorem Built.action {parent : String} {o : k.Object} {action : Action}
    (h : Built parent s k o es (.ok action, s')) :
    action = .created := by
  cases h <;> rfl

theorem Overwritten.action {current desired : k.Object} {action : Action}
    (h : Overwritten place s k current desired es (.ok action, s')) : action = .updated := by
  cases h <;> rfl

/-- **An object is made anew if it is not found under the owner that is known.** -/
theorem Ensured.created_iff {action : Action} (h : Ensured k c spec s es (.ok action, s'))
    (hqueued : b.queued = []) (hreplies : Replies Testbed.perform es b b')
    (href : s.reference (slot k) = some r) :
    ∃ parent, parentOf k s = some parent ∧
      (action = .created ↔ ¬ b.plane.inventory.Holds k ⟨parent, r.id⟩) := by
  cases h with
  | first hdraft hnone h => cases hnone.symm.trans href
  | @kept parent o current r' hdraft hset hagrees =>
    obtain rfl := Option.some.inj (hset.symm.trans href)
    obtain ⟨hfind, -⟩ := Simulator.get_of_answer_ok (Testbed.replies_called hqueued hreplies)
    exact ⟨parent, parentOf_of_draft hdraft, nofun, fun hnot =>
      absurd (Inventory.holds_of_find? hfind) hnot⟩
  | @changed parent o current r' es _ hdraft hset hagrees h =>
    obtain rfl := Option.some.inj (hset.symm.trans href)
    obtain ⟨plane, hanswer, -⟩ := Testbed.replies_call hqueued hreplies
    obtain ⟨hfind, -⟩ := Simulator.get_of_answer_ok hanswer
    refine ⟨parent, parentOf_of_draft hdraft, fun hcreated => ?_, fun hnot =>
      absurd (Inventory.holds_of_find? hfind) hnot⟩
    cases h.action.symm.trans hcreated
  | @again parent o r' e es _ hdraft hset he h =>
    obtain rfl := Option.some.inj (hset.symm.trans href)
    obtain ⟨plane, hanswer, -⟩ := Testbed.replies_call hqueued hreplies
    have hnone := Inventory.find?_eq_none_iff.mp (Simulator.get_of_answer_notFound hanswer he)
    exact ⟨parent, parentOf_of_draft hdraft, fun _ => hnone, fun _ => h.action⟩

theorem runTask_created_iff {action : Action} (hqueued : b.queued = [])
    (h : b.run (runTask (.managed k) c spec s) = (some (.ok action, s'), b'))
    (href : s.reference (slot k) = some r) :
    ∃ parent, parentOf k s = some parent ∧
      (action = .created ↔ ¬ b.plane.inventory.Holds k ⟨parent, r.id⟩) := by
  obtain ⟨es, ⟨result, s₁⟩, hensured, hreplies, hleft⟩ :=
    ensured_of_run (recoverIfLost_of_reference (t := .managed k) href c) h
  cases result with
  | error e => cases (Prod.mk.inj hleft).1
  | ok action' =>
    obtain ⟨haction, rfl⟩ := Prod.mk.inj hleft
    obtain rfl := Except.ok.inj haction
    exact hensured.created_iff hqueued hreplies href

/-- **When an object is made anew although it is there.** Whatever runs and others have done before,
a task that succeeds in a run and has a reference to an object that is there makes another one only
if it looks after allocations, and if the pool that is known has no allocation of that id. Every
other object is found where it is. -/
theorem remade_iff (hs : RanAmid b s) {outcomes : List Outcome} {action : Action}
    (hbefore : b.run (runTasks c spec ts s) = (some (.ok outcomes, s₁), b₁))
    (hrun : b₁.run (runTask (.managed k) c spec s₁) = (some (.ok action, s'), b'))
    (href : s₁.reference (slot k) = some r) :
    ∃ place, PointsAt k r place ∧ (b₁.plane.inventory.Holds k place →
      (action = .created ↔ k = .policy .ipAllocation ∧
        ∃ pool, parentOf k s₁ = some pool ∧ ¬ b₁.plane.inventory.Holds k ⟨pool, r.id⟩)) := by
  obtain ⟨hqueued, hmoored⟩ := hs.moored
  obtain ⟨hqueued₁, hmoored₁⟩ := hmoored.runTasks hqueued hbefore
  obtain ⟨place, hplace⟩ := hmoored₁.placed k r href
  refine ⟨place, hplace, fun hlive => ?_⟩
  obtain ⟨parent, hparent, hcreated⟩ := runTask_created_iff hqueued₁ hrun href
  rw [hcreated]
  by_cases hk : k = .policy .ipAllocation
  · exact ⟨fun hnot => ⟨hk, parent, hparent, hnot⟩, fun ⟨_, pool, hpool, hnot⟩ =>
      Option.some.inj (hpool.symm.trans hparent) ▸ hnot⟩
  · have hpool : ownerSlot k ≠ some .snatIpPool := fun heq => hk (eq_ipAllocation_of_ownerSlot heq)
    have hunder := hmoored₁.tied k r place hpool href hplace hlive
    have hsame : (⟨parent, r.id⟩ : Place) = place := by
      rw [Option.some.inj (hparent.symm.trans hunder), hplace.1]
    rw [hsame]
    exact iff_of_false (absurd hlive) fun h => hk h.1

/-- A cluster that is to get its address from another pool, and new names for its objects. -/
def repooledCluster : Spec :=
  { typicalCluster with gardenName := "meadow", snatIpPoolName := "pool-a" }

/-- The tasks of a run before it comes to the allocation. -/
def beforeAllocation : List Task := (tasks .v3).take 8

/-- What they do in the run behind the first one. -/
def repooledStart : Option (Left (List Outcome)) × Testbed :=
  newerRun.2.run (runTasks { identity := typicalCluster.identity, rounds := 3 } repooledCluster
    beforeAllocation newerState)

/-- What is known when that run comes to the allocation. -/
def repooledState : State := repooledStart.1.elim .fresh Prod.snd

/-- What the run does about the allocation. -/
def repooledTask : Option (Left Action) × Testbed :=
  repooledStart.2.run (runTask (.managed (.policy .ipAllocation))
    { identity := typicalCluster.identity, rounds := 3 } repooledCluster repooledState)

theorem repooledStart_eq : ∃ outcomes,
    repooledStart = (some (.ok outcomes, repooledState), repooledStart.2) := by
  have hok : repooledStart.1.any (·.1.isOk) = true := by decide +kernel
  obtain ⟨⟨result, s'⟩, hleft, hresult⟩ := (Option.any_eq_true _ _).mp hok
  cases result with
  | error e => cases hresult
  | ok outcomes =>
    have hstate : repooledState = s' := by
      rw [repooledState, hleft]
      rfl
    exact ⟨outcomes, by rw [hstate]; exact Prod.ext hleft rfl⟩

theorem repooledTask_eq : ∃ s' b', repooledTask = (some (.ok .created, s'), b') := by
  have hcreated : repooledTask.1.any (fun left => left.1.toOption == some .created) = true := by
    decide +kernel
  obtain ⟨⟨result, s'⟩, hleft, hresult⟩ := (Option.any_eq_true _ _).mp hcreated
  refine ⟨s', repooledTask.2, Prod.ext ?_ rfl⟩
  cases result with
  | error e => cases hresult
  | ok action =>
    obtain rfl : action = .created := Option.some.inj (eq_of_beq hresult)
    exact hleft

/-- The allocation of the first run is known and is where it was. -/
theorem refers_repooled : repooledState.reference (slot (.policy .ipAllocation)) =
      some ⟨reboundPlace.id, (Kind.policy .ipAllocation).path reboundPlace⟩ ∧
    (repooledStart.2.plane.inventory.find? (.policy .ipAllocation) reboundPlace).isSome := by
  decide +kernel

theorem pointsAt_rebound : PointsAt (.policy .ipAllocation)
    ⟨reboundPlace.id, (Kind.policy .ipAllocation).path reboundPlace⟩ reboundPlace :=
  ⟨rfl, nofun⟩

/-- The run binds another pool and comes to the allocation, which is there. -/
theorem remade_iff_repooled : ∃ outcomes action s' b',
    RanAmid newerRun.2 newerState ∧
    newerRun.2.run (runTasks { identity := typicalCluster.identity, rounds := 3 } repooledCluster
      beforeAllocation newerState) = (some (.ok outcomes, repooledState), repooledStart.2) ∧
    repooledStart.2.run (runTask (.managed (.policy .ipAllocation))
      { identity := typicalCluster.identity, rounds := 3 } repooledCluster repooledState) =
        (some (.ok action, s'), b') ∧
    ∃ pool, parentOf (.policy .ipAllocation) repooledState = some pool ∧
      ¬ repooledStart.2.plane.inventory.Holds (.policy .ipAllocation)
        ⟨pool, reboundPlace.id⟩ := by
  have hran : RanAmid newerRun.2 newerState := by
    obtain ⟨result, hrun⟩ := newerRun_eq
    exact .run (.start rfl Inventory.rooted_empty) hrun
  obtain ⟨outcomes, hstart⟩ := repooledStart_eq
  obtain ⟨s', b', htask⟩ := repooledTask_eq
  obtain ⟨href, hlive⟩ := refers_repooled
  refine ⟨outcomes, .created, s', b', hran, hstart, htask, ?_⟩
  obtain ⟨place, hplace, hremade⟩ := remade_iff hran hstart htask href
  rw [hplace.unique pointsAt_rebound] at hremade
  exact ((hremade hlive).mp rfl).2

/-- **An allocation is given up while it is there** by a run that is given another pool: the run
makes another one and refers to that. -/
theorem remade_repooled :
    ¬ ∀ b s, RanOn b s → ∀ g c spec before k after, tasks g = before ++ .managed k :: after →
      spec.validate = .ok () → ∀ outcomes s₁ b₁,
      b.run (runTasks c spec before s) = (some (.ok outcomes, s₁), b₁) → ∀ s₂ b₂,
      b₁.run (runTask (.managed k) c spec s₁) = (some (.ok .created, s₂), b₂) →
      ∀ r place, s₁.reference (slot k) = some r → PointsAt k r place →
        ¬ b₁.plane.inventory.Holds k place := by
  intro hall
  obtain ⟨outcomes, hstart⟩ := repooledStart_eq
  obtain ⟨s', b', htask⟩ := repooledTask_eq
  obtain ⟨href, hlive⟩ := refers_repooled
  exact hall _ _ ranOn_newerState .v3 _ repooledCluster beforeAllocation (.policy .ipAllocation)
    [.realization, .managed (.policy .natRule)] rfl rfl _ _ _ hstart _ _ htask _ _ href
    pointsAt_rebound hlive

end Pipeline

end ClusterNet
