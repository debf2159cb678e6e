import Mathlib.Logic.Function.Basic
import ClusterNet.Proofs.Actuator.Calls

/-!
# Calls that overlap

Two calls for one cluster may take their steps in any order. Both work from the state that they
loaded, and what one of them saves replaces what the other one has saved. So the objects that only
the replaced state refers to are orphaned.

Of the states that the calls leave behind, though, one refers to each object, and one of them is
what is stored in the end. That leaves no orphans if both calls are deletions, or if one of them
begins when the other is over.

## Main definitions

* `Actuator.Turn` — one of several calls takes its next step
* `Actuator.NoOrphans` — what is stored refers to everything that is there
* `Actuator.Accounted` — what holds of the states that overlapping calls leave behind

## Main results

* `Accounted.turn` — every turn of every call keeps this
* `Actuator.overlap_accounted` — what it comes to when two calls are over
* `Actuator.overlap_orphans` — two calls can leave orphans
-/

namespace ClusterNet

namespace Actuator

open Cluster (State)
open Config (Region)
open ControlPlane (Generation Kind Place)
open Pipeline (Refers)
open Program (run_bind_eq_some_iff run_done_eq_some_iff)

/-! ### Turns -/

/-- The state that the work of a call has left behind, if it has worked. -/
def Phase.left : Phase → Option State
  | begun | loaded _ _ _ => none
  | ran _ _ state | saved _ state => some state
  | ended state => state

/-- The state that a call has saved, if it has saved any. -/
def Phase.written : Phase → Option State
  | begun | loaded _ _ _ | ran _ _ _ => none
  | saved _ state => some state
  | ended state => state

/-- **One of several calls takes its next step**, on the surroundings that they share. -/
inductive Turn {ι : Type} [DecidableEq ι] (s : Settings) (r : ClusterRequest) (calls : ι → Call) :
    Testbed × (ι → Phase) → Testbed × (ι → Phase) → Prop
  /-- It is the turn of a call. -/
  | take {t t' : Testbed} {phases : ι → Phase} {phase : Phase} (i : ι)
    (h : t.run ((calls i).advance s r (phases i)) = (some phase, t')) :
    Turn s r calls (t, phases) (t', Function.update phases i phase)

/-- Whether a state is what is stored for a cluster. -/
def Stores (r : ClusterRequest) (t : Testbed) (state : State) : Prop :=
  ∃ record, t.memory.snapshot.entries.find? r.ns = some record ∧
    Store.stateOf r.ns record = .ok state

/-- **What is stored for a cluster refers to every object** that the control plane holds. -/
def NoOrphans (r : ClusterRequest) (t : Testbed) : Prop :=
  ∀ k, ∀ place ∈ (t.bed.plane.inventory.table k).keys, ∃ state, Stores r t state ∧
    Refers state k place

variable {s : Settings} {r : ClusterRequest} {known : Option State} {t t' : Testbed}

theorem stores_of_find? {state : State}
    (h : t.memory.snapshot.entries.find? r.ns = some (Store.recordOf state)) : Stores r t state :=
  ⟨_, h, Store.stateOf_recordOf r.ns state⟩

theorem Stores.unique {state state' : State} (h : Stores r t state) (h' : Stores r t state') :
    state = state' := by
  obtain ⟨record, hfind, hstate⟩ := h
  obtain ⟨record', hfind', hstate'⟩ := h'
  obtain rfl := Option.some.inj (hfind.symm.trans hfind')
  exact Except.ok.inj (hstate.symm.trans hstate')

/-- The invariant of the lifecycle says that there are no orphans. -/
theorem Tended.noOrphans (h : Tended s r known t) : NoOrphans r t := by
  intro k place hmem
  have hrefers := h.custody.held k place (ControlPlane.Inventory.holds_of_mem_keys hmem)
  cases known with
  | none => cases (Pipeline.reference_fresh _).symm.trans hrefers.1
  | some state => exact ⟨state, stores_of_find? h.stored, hrefers⟩

/-! ### The states left behind -/

section Accounted

variable {ι : Type} {calls : ι → Call} {phases phases' : ι → Phase} {i : ι} {phase : Phase}
  {region : Region} {g : Generation} {state : State} {succeeded : Bool}

/-- **Some state that was left behind refers to every object**, and some state that was left behind
is stored. -/
structure Accounted (s : Settings) (r : ClusterRequest) (known : Option State) (calls : ι → Call)
    (t : Testbed) (phases : ι → Phase) : Prop where
  /-- The control plane gives its own answers. -/
  queued : t.bed.queued = []
  /-- No failure is due. -/
  failures : t.bed.plane.failures = []
  /-- The shared object can be changed. -/
  conflicts : t.memory.pendingConflicts < s.storeAttempts
  /-- Before any call has worked, what is stored is what is known. -/
  idle : (∀ i, (phases i).left = none) → Tended s r known t
  /-- So is what calls have loaded. -/
  ready : (∀ i, (phases i).left = none) → ∀ i region g state,
    phases i = .loaded region g state → Ready s r (calls i) known t region g state
  /-- Afterwards one of the states refers to each object. -/
  held : (∃ i, (phases i).left ≠ none) → ∀ k place, t.bed.plane.inventory.Holds k place →
    ∃ i state, (phases i).left = some state ∧ Refers state k place
  /-- If all calls are deletions, there are none. -/
  cleared : (∀ i, (calls i).isDelete = true) → (∃ i, (phases i).left ≠ none) →
    ∀ k place, ¬ t.bed.plane.inventory.Holds k place
  /-- One of the states that were saved is stored, unless it had no references and was dropped. -/
  written : (∃ i, (phases i).written ≠ none) → ∃ i state, (phases i).written = some state ∧
    (t.memory.snapshot.entries.find? r.ns = some (Store.recordOf state) ∨
      ((calls i).isDelete = true ∧ state.holdsNoReferences = true ∧
        t.memory.snapshot.entries.find? r.ns = none))

/-- **It holds at the beginning.** -/
theorem Tended.accounted (h : Tended s r known t) (hfailures : t.bed.plane.failures = []) :
    Accounted s r known calls t fun _ => .begun where
  queued := h.queued
  failures := hfailures
  conflicts := h.conflicts
  idle _ := h
  ready _ _ _ _ _ hphase := by cases hphase
  held hleft := absurd rfl hleft.choose_spec
  cleared _ hleft := absurd rfl hleft.choose_spec
  written hwritten := absurd rfl hwritten.choose_spec

/-- A turn in which nothing is left behind and nothing is saved keeps it. -/
theorem Accounted.calm (h : Accounted s r known calls t phases) (hcalm : Testbed.Calm t t')
    (hleft : ∀ j, (phases' j).left = (phases j).left)
    (hwritten : ∀ j, (phases' j).written = (phases j).written)
    (hready : (∀ j, (phases j).left = none) → ∀ j region g state,
      phases' j = .loaded region g state → Ready s r (calls j) known t region g state) :
    Accounted s r known calls t' phases' := by
  have hfind : t'.memory.snapshot.entries.find? r.ns = t.memory.snapshot.entries.find? r.ns := by
    rw [hcalm.memory]
  obtain ⟨hqueued, hfailures, hconflicts, hidle, -, hheld, hcleared, hrecord⟩ := h
  refine ⟨hcalm.queued.trans hqueued, ?_, ?_, ?_, ?_, ?_, ?_, ?_⟩
  · rw [hcalm.plane]
    exact hfailures
  · rw [hcalm.memory]
    exact hconflicts
  · simp only [hleft]
    exact fun hnone => (hidle hnone).calm hcalm
  · simp only [hleft]
    exact fun hnone j region g state hphase =>
      (hready hnone j region g state hphase).calm hcalm
  · simp only [hleft, hcalm.plane]
    exact hheld
  · simp only [hleft, hcalm.plane]
    exact hcleared
  · simp only [hwritten, hfind]
    exact hrecord

variable [DecidableEq ι]

/-- What a step of a call keeps of it is kept of all calls. -/
theorem congr_update {α : Type} (f : Phase → α) (h : f phase = f (phases i)) (j : ι) :
    f (Function.update phases i phase j) = f (phases j) := by
  rw [Function.apply_update (fun _ => f), h, Function.update_eq_self]

theorem Accounted.load (h : Accounted s r known calls t phases) (hphase : phases i = .begun)
    (hrun : t.run ((calls i).load s r) = (some phase, t')) :
    Accounted s r known calls t' (Function.update phases i phase) := by
  obtain ⟨hcalm, hloads⟩ := Call.load_cases hrun
  have hnothing : phase.left = none ∧ phase.written = none := by
    rcases hloads with rfl | ⟨known', region, g, state, -, -, rfl⟩ <;> exact ⟨rfl, rfl⟩
  refine h.calm hcalm (congr_update _ ?_) (congr_update _ ?_) fun hnone j region g state hj => ?_
  · rw [hphase, hnothing.1]
    rfl
  · rw [hphase, hnothing.2]
    rfl
  · by_cases hji : j = i
    · subst hji
      rw [Function.update_self] at hj
      subst hj
      rcases hloads with hended | ⟨known', region', g', state', hstored, hready, heq⟩
      · cases hended
      · obtain ⟨rfl, rfl, rfl⟩ := Phase.loaded.inj heq
        rw [(h.idle hnone).stateIn] at hstored
        rwa [Except.ok.inj hstored]
    · rw [Function.update_of_ne hji] at hj
      exact h.ready hnone j region g state hj

theorem Accounted.work (h : Accounted s r known calls t phases)
    (hphase : phases i = .loaded region g state)
    (hrun : t.run ((calls i).work s r region g state) = (some phase, t')) :
    Accounted s r known calls t' (Function.update phases i phase) := by
  obtain ⟨succeeded, left, bed, rfl, rfl, hqueued, hfailures, hholds⟩ :=
    Call.work_holds hrun h.queued
  have hself : (Function.update phases i (.ran region succeeded left) i).left = some left := by
    rw [Function.update_self]
    rfl
  have hworked : ¬ ∀ j, (Function.update phases i (.ran region succeeded left) j).left = none := by
    intro hnone
    cases hself.symm.trans (hnone i)
  have hwritten : ∀ j, (Function.update phases i (.ran region succeeded left) j).written =
      (phases j).written := by
    refine congr_update _ ?_
    rw [hphase]
    rfl
  refine ⟨hqueued, hfailures h.failures, h.conflicts, fun hnone => absurd hnone hworked,
    fun hnone => absurd hnone hworked, fun _ k place hheld => ?_,
    fun hdelete _ k place hheld => ?_, ?_⟩
  · by_cases hidle : ∀ j, (phases j).left = none
    · have hkept := (h.ready hidle i region g state hphase).work (h.idle hidle) hrun
      exact ⟨i, left, hself, hkept.custody.held k place hheld⟩
    · rcases hholds k place hheld with hbefore | ⟨-, hrefers⟩
      · obtain ⟨j, state', hleft, hrefers⟩ := h.held (not_forall.mp hidle) k place hbefore
        have hji : j ≠ i := by
          rintro rfl
          rw [hphase] at hleft
          cases hleft
        refine ⟨j, state', ?_, hrefers⟩
        rw [Function.update_of_ne hji, hleft]
      · exact ⟨i, left, hself, hrefers⟩
  · by_cases hidle : ∀ j, (phases j).left = none
    · exact (h.ready hidle i region g state hphase).work_cleared (h.idle hidle) (hdelete i)
        h.failures hrun k place hheld
    · rcases hholds k place hheld with hbefore | ⟨hcreates, -⟩
      · exact h.cleared hdelete (not_forall.mp hidle) k place hbefore
      · cases (hdelete i).symm.trans hcreates
  · simp only [hwritten]
    exact h.written

/-- A turn in which the record of a state that was left behind before is written, or dropped, keeps
it. -/
theorem Accounted.recorded (h : Accounted s r known calls t phases)
    (hleft : (phases i).left = some state) (hleft' : phase.left = some state)
    (hwritten : phase.written = some state) (hbed : t'.bed = t.bed)
    (hconflicts : t'.memory.pendingConflicts = 0)
    (hrecord : t'.memory.snapshot.entries.find? r.ns = some (Store.recordOf state) ∨
      ((calls i).isDelete = true ∧ state.holdsNoReferences = true ∧
        t'.memory.snapshot.entries.find? r.ns = none)) :
    Accounted s r known calls t' (Function.update phases i phase) := by
  have hsame : ∀ j, (Function.update phases i phase j).left = (phases j).left :=
    congr_update Phase.left (hleft'.trans hleft.symm)
  have hworked : ¬ ∀ j, (phases j).left = none := fun hnone => by cases hleft.symm.trans (hnone i)
  refine ⟨?_, ?_, ?_, ?_, ?_, ?_, ?_, fun _ => ⟨i, state, ?_, hrecord⟩⟩
  · rw [hbed]
    exact h.queued
  · rw [hbed]
    exact h.failures
  · rw [hconflicts]
    exact Nat.lt_of_le_of_lt (Nat.zero_le _) h.conflicts
  · simp only [hsame]
    exact fun hnone => absurd hnone hworked
  · simp only [hsame]
    exact fun hnone => absurd hnone hworked
  · simp only [hsame, hbed]
    exact h.held
  · simp only [hsame, hbed]
    exact h.cleared
  · rw [Function.update_self, hwritten]

theorem Accounted.save (h : Accounted s r known calls t phases)
    (hphase : phases i = .ran region succeeded state)
    (hrun : t.run (Call.save s r region succeeded state) = (some phase, t')) :
    Accounted s r known calls t' (Function.update phases i phase) := by
  obtain ⟨hsaves, hstores⟩ := save_cases hrun
  have hsaved := hstores h.conflicts
  have hafter : phase.left = some state ∧ phase.written = some state := by
    rcases hsaves with rfl | rfl <;> exact ⟨rfl, rfl⟩
  exact h.recorded (congrArg Phase.left hphase) hafter.1 hafter.2 hsaved.bed hsaved.conflicts
    (.inl hsaved.stored)

theorem Accounted.conclude (h : Accounted s r known calls t phases)
    (hphase : phases i = .saved region state)
    (hrun : t.run ((calls i).conclude s r region state) = (some phase, t')) :
    Accounted s r known calls t' (Function.update phases i phase) := by
  obtain ⟨rfl, hconcludes⟩ := Call.conclude_cases hrun
  have hleft : (phases i).left = some state := congrArg Phase.left hphase
  rcases hconcludes with hcalm | ⟨hdelete, hnone, hdrops⟩
  · refine h.calm hcalm (congr_update _ hleft.symm) (congr_update _ ?_) fun hidle => ?_
    · exact (congrArg Phase.written hphase).symm
    · cases hleft.symm.trans (hidle i)
  · obtain ⟨m, rfl, hentries, hzero⟩ := hdrops h.conflicts
    refine h.recorded hleft rfl rfl rfl hzero (.inr ⟨hdelete, hnone, ?_⟩)
    rw [hentries, OrderedMap.find?_erase_self]

/-- **Every turn of every call keeps the account.** -/
theorem Accounted.turn {x y : Testbed × (ι → Phase)} (h : Accounted s r known calls x.1 x.2)
    (hturn : Turn s r calls x y) : Accounted s r known calls y.1 y.2 := by
  obtain @⟨t, t', phases, phase, i, hrun⟩ := hturn
  dsimp only at h ⊢
  cases hphase : phases i with
  | begun =>
    rw [hphase] at hrun
    exact h.load hphase hrun
  | loaded region g state =>
    rw [hphase] at hrun
    exact h.work hphase hrun
  | ran region succeeded state =>
    rw [hphase] at hrun
    exact h.save hphase hrun
  | saved region state =>
    rw [hphase] at hrun
    exact h.conclude hphase hrun
  | ended state =>
    rw [hphase] at hrun
    obtain ⟨rfl, rfl⟩ := run_done_eq_some_iff.mp hrun
    rwa [← hphase, Function.update_eq_self]

/-- **So do all turns together.** -/
theorem Accounted.turns {x y : Testbed × (ι → Phase)} (h : Accounted s r known calls x.1 x.2)
    (hturns : Relation.ReflTransGen (Turn s r calls) x y) :
    Accounted s r known calls y.1 y.2 := by
  induction hturns with
  | refl => exact h
  | tail _ hturn ih => exact ih.turn hturn

end Accounted

/-! ### One call after another -/

section Alone

variable {ι : Type} [DecidableEq ι] {calls : ι → Call} {x y : Testbed × (ι → Phase)} {i : ι}

/-- Another turn of a call is another step of it. -/
theorem run_advances_succ {call : Call} {phase phase₁ phase₂ : Phase} {t₁ t₂ : Testbed} {n : Nat}
    (h : t.run (call.advances s r n phase) = (some phase₁, t₁))
    (h' : t₁.run (call.advance s r phase₁) = (some phase₂, t₂)) :
    t.run (call.advances s r (n + 1) phase) = (some phase₂, t₂) := by
  rw [Call.advances_add]
  exact run_bind_eq_some_iff.mpr ⟨phase₁, t₁, h, run_bind_eq_some_iff.mpr ⟨phase₂, t₂, h', rfl⟩⟩

/-- **Turns before any other call begins** are steps of one call. -/
theorem run_of_others_begun (h : Relation.ReflTransGen (Turn s r calls) x y)
    (hothers : ∀ j, j ≠ i → y.2 j = .begun) :
    ∃ n, x.1.run ((calls i).advances s r n (x.2 i)) = (some (y.2 i), y.1) := by
  induction h with
  | refl => exact ⟨0, rfl⟩
  | tail _ hturn ih =>
    obtain @⟨t, t', phases, phase, j, hrun⟩ := hturn
    dsimp only at ih hothers ⊢
    have hji : j = i := by
      by_contra hne
      -- a call that has had its turn does not come back to its beginning
      have hbegun := hothers j hne
      rw [Function.update_self] at hbegun
      subst hbegun
      have hback : 4 ≤ (phases j).ahead - 1 := Call.ahead_advance hrun
      have hle := (phases j).ahead_le
      omega
    subst hji
    obtain ⟨n, hn⟩ := ih fun j' hne => by
      have hbegun := hothers j' hne
      rwa [Function.update_of_ne hne] at hbegun
    rw [Function.update_self]
    exact ⟨n + 1, run_advances_succ hn hrun⟩

/-- **Turns when all other calls are over** are steps of one call. -/
theorem run_of_others_ended (h : Relation.ReflTransGen (Turn s r calls) x y)
    (hothers : ∀ j, j ≠ i → ∃ left, x.2 j = .ended left) :
    (∀ j, j ≠ i → y.2 j = x.2 j) ∧
      ∃ n, x.1.run ((calls i).advances s r n (x.2 i)) = (some (y.2 i), y.1) := by
  induction h with
  | refl => exact ⟨fun _ _ => rfl, 0, rfl⟩
  | tail _ hturn ih =>
    obtain @⟨t, t', phases, phase, j, hrun⟩ := hturn
    obtain ⟨hsame, n, hn⟩ := ih
    dsimp only at hsame hn ⊢
    by_cases hji : j = i
    · subst hji
      refine ⟨fun j' hne => ?_, n + 1, ?_⟩
      · rw [Function.update_of_ne hne, hsame j' hne]
      · rw [Function.update_self]
        exact run_advances_succ hn hrun
    · obtain ⟨left, hended⟩ := hothers j hji
      have hphase := (hsame j hji).trans hended
      rw [hphase] at hrun
      obtain ⟨rfl, rfl⟩ := run_done_eq_some_iff.mp hrun
      rw [← hphase, Function.update_eq_self]
      exact ⟨hsame, n, hn⟩

end Alone

variable {calls : Bool → Call}

/-- Whether one of two calls begins when the other is over. -/
def Successive (s : Settings) (r : ClusterRequest) (calls : Bool → Call) (t : Testbed)
    (y : Testbed × (Bool → Phase)) : Prop :=
  ∃ i x left, Relation.ReflTransGen (Turn s r calls) (t, fun _ => .begun) x ∧
    x.2 i = .ended left ∧ x.2 (!i) = .begun ∧ Relation.ReflTransGen (Turn s r calls) x y

/-- **Calls that do not overlap are steps of the lifecycle.** -/
theorem Successive.steps {y : Testbed × (Bool → Phase)} (h : Successive s r calls t y)
    (hended : ∀ i, ∃ left, y.2 i = .ended left) : Relation.ReflTransGen (Step s r) t y.1 := by
  obtain ⟨i, x, left, hfirst, hleft, hbegun, hsecond⟩ := h
  obtain ⟨n, hn⟩ := run_of_others_begun (i := i) hfirst fun j hne => by
    rw [Bool.eq_not_of_ne hne, hbegun]
  obtain ⟨-, m, hm⟩ := run_of_others_ended (i := !i) hsecond fun j hne => ⟨left, by
    rw [Bool.eq_not_of_ne hne, Bool.not_not, hleft]⟩
  obtain ⟨left', hleft'⟩ := hended (!i)
  rw [hleft] at hn
  rw [hbegun, hleft'] at hm
  exact .tail (.single (Call.step (Call.run_program hn))) (Call.step (Call.run_program hm))

/-! ### Turns in a given order -/

/-- What calls come to when they take their turns in a given order. -/
def takeTurns {ι : Type} [DecidableEq ι] (s : Settings) (r : ClusterRequest) (calls : ι → Call) :
    List ι → Testbed × (ι → Phase) → Option (Testbed × (ι → Phase))
  | [], x => some x
  | i :: is, (t, phases) =>
    match t.run ((calls i).advance s r (phases i)) with
    | (some phase, t') => takeTurns s r calls is (t', Function.update phases i phase)
    | (none, _) => none

theorem turns_of_takeTurns {ι : Type} [DecidableEq ι] {calls : ι → Call} {is : List ι}
    {x y : Testbed × (ι → Phase)} (h : takeTurns s r calls is x = some y) :
    Relation.ReflTransGen (Turn s r calls) x y := by
  induction is generalizing x with
  | nil => rw [Option.some.inj h]
  | cons i is ih =>
    obtain ⟨t, phases⟩ := x
    rw [takeTurns] at h
    split at h
    · next phase t' hrun => exact .head (.take i hrun) (ih h)
    · cases h

/-- Two requests for a new cluster. -/
def newcomers (_ : Bool) : Call :=
  .reconcile typicalRequest.gardenName typicalRequest.workersNetwork

/-- What they come to when both load before either has saved anything. -/
def bothNew : Option (Testbed × (Bool → Phase)) :=
  takeTurns typicalSettings typicalRequest newcomers
    [false, true, false, false, false, true, true, true] (typicalStart, fun _ => .begun)

/-- Both have worked and come to an end, and there are two gateways. -/
theorem exists_bothNew : ∃ y, bothNew = some y ∧ (∀ i, ∃ left, y.2 i = .ended left) ∧
    (∃ i, (y.2 i).left ≠ none) ∧
    ∃ place ∈ (y.1.bed.plane.inventory.table (.policy .tier1)).keys,
      ∃ place' ∈ (y.1.bed.plane.inventory.table (.policy .tier1)).keys, place ≠ place' := by
  have hboth : (bothNew.any fun y => decide ((∀ i, (y.2 i).ahead = 0) ∧
      (y.2 false).left.isSome = true ∧
      ∃ place ∈ (y.1.bed.plane.inventory.table (.policy .tier1)).keys,
        ∃ place' ∈ (y.1.bed.plane.inventory.table (.policy .tier1)).keys, place ≠ place')) =
      true := by
    decide +kernel
  obtain ⟨y, hy, hdecided⟩ := (Option.any_eq_true _ _).mp hboth
  obtain ⟨hahead, hleft, hplaces⟩ := of_decide_eq_true hdecided
  exact ⟨y, hy, fun i => Phase.exists_ended (hahead i),
    ⟨false, Option.ne_none_iff_isSome.mpr hleft⟩, hplaces⟩

/-! ### Two calls -/

/-- **Of the states that overlapping calls leave behind, one refers to each object.** Two calls for
a cluster take their turns in any order, after any history, while no failure is due. If neither has
worked when both are over, what is stored refers to every object. Otherwise every object is one that
a state refers to that one of them left behind, and one of these states is stored, unless it had no
references and was dropped. If both are deletions, or if one of them begins when the other is over,
what is stored refers to every object. -/
theorem overlap_accounted {start : Testbed} (hstart : Pristine s r start)
    (hhistory : Relation.ReflTransGen (Step s r) start t) (hfailures : t.bed.plane.failures = [])
    {phases : Bool → Phase}
    (hturns : Relation.ReflTransGen (Turn s r calls) (t, fun _ => .begun) (t', phases))
    (hended : ∀ i, ∃ left, phases i = .ended left) :
    ((∀ i, (phases i).left = none) → NoOrphans r t') ∧
    ((∃ i, (phases i).left ≠ none) →
      (∀ k, ∀ place ∈ (t'.bed.plane.inventory.table k).keys, ∃ i state,
        (phases i).left = some state ∧ Refers state k place) ∧
      ∃ i state, (phases i).left = some state ∧ (Stores r t' state ∨
        ((calls i).isDelete = true ∧ state.holdsNoReferences = true ∧
          t'.memory.snapshot.entries.find? r.ns = none))) ∧
    ((∀ i, (calls i).isDelete = true) ∨ Successive s r calls t (t', phases) → NoOrphans r t') := by
  obtain ⟨known, htended⟩ := hstart.tended.steps hhistory
  have haccounted : Accounted s r known calls t' phases :=
    (htended.accounted hfailures).turns hturns
  have hwritten : ∀ i, (phases i).written = (phases i).left := by
    intro i
    obtain ⟨left, hleft⟩ := hended i
    rw [hleft]
    rfl
  have hidle : (∀ i, (phases i).left = none) → NoOrphans r t' :=
    fun hnone => (haccounted.idle hnone).noOrphans
  refine ⟨hidle, fun hworked => ⟨fun k place hmem => ?_, ?_⟩, fun hcase => ?_⟩
  · exact haccounted.held hworked k place (ControlPlane.Inventory.holds_of_mem_keys hmem)
  · obtain ⟨i, hleft⟩ := hworked
    obtain ⟨j, state, hstate, hrecord⟩ := haccounted.written ⟨i, hwritten i ▸ hleft⟩
    exact ⟨j, state, hwritten j ▸ hstate, hrecord.imp_left stores_of_find?⟩
  · rcases hcase with hdelete | hsuccessive
    · by_cases hnone : ∀ i, (phases i).left = none
      · exact hidle hnone
      · intro k place hmem
        have hheld := ControlPlane.Inventory.holds_of_mem_keys hmem
        exact absurd hheld (haccounted.cleared hdelete (not_forall.mp hnone) k place)
    · obtain ⟨known', htended'⟩ := htended.steps (hsuccessive.steps hended)
      exact htended'.noOrphans

/-- Two requests that overlap leave twice as many objects as either of them refers to. -/
theorem overlap_accounted_bothNew :
    Pristine typicalSettings typicalRequest typicalStart ∧
      typicalStart.bed.plane.failures = [] ∧
      ∃ y, Relation.ReflTransGen (Turn typicalSettings typicalRequest newcomers)
          (typicalStart, fun _ => .begun) y ∧
        (∀ i, ∃ left, y.2 i = .ended left) ∧ (∃ i, (y.2 i).left ≠ none) ∧
        ∀ k, ∀ place ∈ (y.1.bed.plane.inventory.table k).keys, ∃ i state,
          (y.2 i).left = some state ∧ Refers state k place := by
  obtain ⟨⟨t', phases⟩, hy, hended, hworked, -⟩ := exists_bothNew
  have hturns := turns_of_takeTurns hy
  obtain ⟨-, haccounted, -⟩ := overlap_accounted pristine_typicalStart .refl rfl hturns hended
  exact ⟨pristine_typicalStart, rfl, (t', phases), hturns, hended, hworked, (haccounted hworked).1⟩

/-- **Overlapping calls can leave orphans.** It is not so that what is stored refers to every object
whenever two calls for a cluster are over: each of two requests for a new cluster creates a gateway,
and what is stored refers to one. -/
theorem overlap_orphans : ¬ ∀ (s : Settings) (r : ClusterRequest) (start t t' : Testbed)
    (calls : Bool → Call) (phases : Bool → Phase), Pristine s r start →
    Relation.ReflTransGen (Step s r) start t → t.bed.plane.failures = [] →
    Relation.ReflTransGen (Turn s r calls) (t, fun _ => .begun) (t', phases) →
    (∀ i, ∃ left, phases i = .ended left) → NoOrphans r t' := by
  intro hall
  obtain ⟨y, hy, hended, -, place, hmem, place', hmem', hne⟩ := exists_bothNew
  have horphans : NoOrphans typicalRequest y.1 :=
    hall typicalSettings typicalRequest typicalStart typicalStart y.1 newcomers y.2
      pristine_typicalStart .refl rfl (turns_of_takeTurns hy) hended
  obtain ⟨state, hstored, hrefers⟩ := horphans _ place hmem
  obtain ⟨state', hstored', hrefers'⟩ := horphans _ place' hmem'
  obtain rfl := hstored.unique hstored'
  exact hne (hrefers.unique hrefers')

end Actuator

end ClusterNet
