import ClusterNet.Proofs.Actuator.Lifecycle
import ClusterNet.Proofs.Actuator.Surroundings
import ClusterNet.Proofs.Pipeline.Adoption

/-!
# The steps of a call

A call for a cluster has a few steps that work on its surroundings: it loads the state, it works on
the control plane, it saves the state that this has left behind, and then it publishes the status or
drops the record. Between two steps, other calls may have their turn.

## Main definitions

* `Actuator.Call`, `Actuator.Phase` — calls, and how far they have come
* `Actuator.Call.advance` — the next step of a call
* `Actuator.Ready` — whether what a call has loaded is what is known
* `Actuator.Loads` — what a call may have loaded

## Main results

* `Actuator.Call.program_eq` — the steps, one after another, are the call
* `Actuator.Call.load_cases`, `Actuator.Call.work_reconcile`, `Actuator.Call.work_delete`,
  `Actuator.save_cases`, `Actuator.Call.conclude_cases` — what a step can do
* `Actuator.Ready.work` — work from what is known leaves a state that refers to every object
* `Actuator.Call.work_holds` — work from any other state creates nothing that it does not refer to
-/

namespace ClusterNet

namespace Actuator

open Cluster (State)
open Config (Region)
open ControlPlane (ApiError Generation Kind Place)
open Pipeline (Refers)
open Program (bind_eq run_eq_some_iff run_bind_eq_some_iff run_done_eq_some_iff)

/-- The calls for a cluster. Those for one cluster differ in nothing but the name of its garden and
the network of its workers. -/
inductive Call where
  /-- Create or repair its infrastructure. -/
  | reconcile (gardenName workersNetwork : String)
  /-- Take its infrastructure down. -/
  | delete (gardenName workersNetwork : String)

/-- How far a call has come, and what it goes on with. -/
inductive Phase where
  /-- Nothing has happened yet. -/
  | begun
  /-- It works in a region, at a control plane of a generation, from the state that it loaded. -/
  | loaded (region : Region) (generation : Generation) (state : State)
  /-- Its work has succeeded or failed, and left a state behind. -/
  | ran (region : Region) (succeeded : Bool) (state : State)
  /-- The state is saved, and the work had succeeded. -/
  | saved (region : Region) (state : State)
  /-- It is over. If it has worked, this is the state that was left behind. -/
  | ended (state : Option State)

/-- The number of steps that a call has ahead of it. -/
def Phase.ahead : Phase → Nat
  | begun => 4
  | loaded _ _ _ => 3
  | ran _ _ _ => 2
  | saved _ _ => 1
  | ended _ => 0

theorem Phase.ahead_le (phase : Phase) : phase.ahead ≤ 4 := by
  cases phase <;> simp [ahead]

theorem Phase.exists_ended {phase : Phase} (h : phase.ahead = 0) : ∃ left, phase = .ended left := by
  cases phase with
  | ended left => exact ⟨left, rfl⟩
  | begun | loaded _ _ _ | ran _ _ _ | saved _ _ => cases h

namespace Call

/-- What a call asks for, by a request that names another garden and another network. -/
def request (r : ClusterRequest) : Call → ClusterRequest
  | reconcile gardenName workersNetwork | delete gardenName workersNetwork =>
    { r with gardenName, workersNetwork }

/-- Whether a call takes the infrastructure down. -/
def isDelete : Call → Bool
  | reconcile _ _ => false
  | delete _ _ => true

/-- A call, but for its result. -/
def program (s : Settings) (r : ClusterRequest) (call : Call) : Work Unit :=
  match call with
  | reconcile _ _ => (Actuator.reconcile s (call.request r)).bind fun _ => .done ()
  | delete _ _ => (Actuator.delete s (call.request r)).bind fun _ => .done ()

/-! ### Steps -/

/-- Load the state, if there is anything to do. -/
def load (s : Settings) (r : ClusterRequest) (call : Call) : Work Phase :=
  let r := call.request r
  match call with
  | reconcile _ _ =>
    match s.region r with
    | .error _ => .done (.ended none)
    | .ok region =>
      match zonePlacements region with
      | .error _ => .done (.ended none)
      | .ok _ => do
        match ← connect s r region with
        | .error _ => return .ended none
        | .ok g =>
          match ← loadState r.ns with
          | .error _ => return .ended none
          | .ok state => return .loaded region g (started state)
  | delete _ _ => do
    match ← loadState r.ns with
    | .error _ => return .ended none
    | .ok none => return .ended none
    | .ok (some state) =>
      if state.creationStarted then
        match s.region r with
        | .error _ => return .ended none
        | .ok region =>
          match ← connect s r region with
          | .error _ => return .ended none
          | .ok g => return .loaded region g state
      else return .ended none

/-- Work on the control plane. -/
def work (s : Settings) (r : ClusterRequest) (call : Call) (region : Region) (g : Generation)
    (state : State) : Work Phase :=
  let r := call.request r
  match call with
  | reconcile _ _ => do
    let (result, state) ← Work.onPlane (Pipeline.run g (s.context r) (r.spec region) state)
    return .ran region result.isOk state
  | delete _ _ => do
    let scope := s.config.loadBalancer.clusterTagScope
    let _ ← Work.onPlane (cleanUpBalancers scope r.clusterName s.rounds)
    let (result, state) ← Work.onPlane (Pipeline.takeDown g state)
    return .ran region result.isOk state

/-- Save the state that the work has left behind. -/
def save (s : Settings) (r : ClusterRequest) (region : Region) (succeeded : Bool)
    (state : State) : Work Phase := do
  match ← Work.onStore (Store.save r.ns state s.storeAttempts) with
  | .error _ => return .ended (some state)
  | .ok () => return if succeeded then .saved region state else .ended (some state)

/-- Publish the status, or drop the record if nothing is left to refer to. -/
def conclude (s : Settings) (r : ClusterRequest) (call : Call) (region : Region)
    (state : State) : Work Phase :=
  match call with
  | reconcile _ _ =>
    match zonePlacements region with
    | .error _ => .done (.ended (some state))
    | .ok zones => (announce s r.ns { state, zones }).bind fun _ => .done (.ended (some state))
  | delete _ _ => (dropState s r.ns state).bind fun _ => .done (.ended (some state))

/-- The next step of a call. -/
def advance (s : Settings) (r : ClusterRequest) (call : Call) : Phase → Work Phase
  | .begun => call.load s r
  | .loaded region g state => call.work s r region g state
  | .ran region succeeded state => save s r region succeeded state
  | .saved region state => call.conclude s r region state
  | .ended state => .done (.ended state)

/-- A number of steps of a call. -/
def advances (s : Settings) (r : ClusterRequest) (call : Call) : Nat → Phase → Work Phase
  | 0, phase => .done phase
  | n + 1, phase => (call.advance s r phase).bind (call.advances s r n)

/-! ### The steps of a call together -/

variable (s : Settings) (r : ClusterRequest) (call : Call)

/-- Steps can be taken in two goes. -/
theorem advances_add (m n : Nat) (phase : Phase) : call.advances s r (m + n) phase =
    (call.advances s r m phase).bind (call.advances s r n) := by
  induction m generalizing phase with
  | zero =>
    rw [Nat.zero_add]
    rfl
  | succ m ih =>
    rw [Nat.succ_add, advances, advances, Program.bind_assoc]
    exact congrArg _ (funext fun phase' => ih phase')

theorem advances_ended (n : Nat) (state : Option State) :
    call.advances s r n (.ended state) = .done (.ended state) := by
  induction n with
  | zero => rfl
  | succ n ih => exact ih

/-- What follows work that has left something behind. -/
theorem advances_ran {α : Type} (region : Region) (result : Except Cluster.InfraError α)
    (state : State) :
    call.advances s r 2 (.ran region result.isOk state) =
      (Work.onStore (Store.save r.ns state s.storeAttempts)).bind fun saved =>
        match afterSaving result saved with
        | .error _ => .done (.ended (some state))
        | .ok _ => call.conclude s r region state := by
  rw [advances, advance, save, bind_eq, Program.bind_assoc]
  refine congrArg _ (funext fun saved => ?_)
  cases saved with
  | error e => cases result <;> exact advances_ended s r call 1 _
  | ok u =>
    cases result with
    | error e => exact advances_ended s r call 1 _
    | ok a => exact Program.bind_done _

/-- What a reconciliation does once it has loaded a state. -/
theorem advances_reconcile (gardenName workersNetwork : String) {region : Region}
    {zones : ZonePlacements} (hzones : zonePlacements region = .ok zones) (g : Generation)
    (state : State) :
    let r' := (reconcile gardenName workersNetwork).request r
    ((reconcile gardenName workersNetwork).advances s r 3 (.loaded region g state)).bind
        (fun _ => Program.done ()) =
      (runAndSave s r'.ns (Pipeline.run g (s.context r') (r'.spec region)) state).bind fun left =>
        match left.1 with
        | .error _ => .done ()
        | .ok _ => (announce s r'.ns { state := left.2, zones }).bind fun _ => .done () := by
  intro r'
  rw [runAndSave_eq, advances, advance, work, bind_eq, Program.bind_assoc, Program.bind_assoc]
  refine congrArg _ (funext fun left => ?_)
  change ((reconcile gardenName workersNetwork).advances s r 2
    (.ran region left.1.isOk left.2)).bind _ = _
  rw [advances_ran, Program.bind_assoc]
  refine congrArg _ (funext fun saved => ?_)
  cases afterSaving left.1 saved with
  | error e => rfl
  | ok a =>
    simp only [conclude, hzones, Program.bind_assoc]
    rfl

/-- What a deletion does once it has loaded a state. -/
theorem advances_delete (gardenName workersNetwork : String) (region : Region) (g : Generation)
    (state : State) :
    ((delete gardenName workersNetwork).advances s r 3 (.loaded region g state)).bind
        (fun _ => Program.done ()) =
      (deleteAt s ((delete gardenName workersNetwork).request r) state g).bind fun _ =>
        .done () := by
  rw [deleteAt, bind_eq, Program.bind_assoc, advances, advance, work, bind_eq, Program.bind_assoc,
    Program.bind_assoc]
  refine congrArg _ (funext fun cleaned => ?_)
  dsimp only
  rw [bind_eq, bind_eq, runAndSave_eq, Program.bind_assoc, Program.bind_assoc]
  refine congrArg _ (funext fun left => ?_)
  change ((delete gardenName workersNetwork).advances s r 2
    (.ran region left.1.isOk left.2)).bind _ = _
  rw [advances_ran, Program.bind_assoc, Program.bind_assoc]
  refine congrArg _ (funext fun saved => ?_)
  cases afterSaving left.1 saved with
  | error e => rfl
  | ok a => exact Program.bind_assoc _ _ _

theorem program_reconcile (gardenName workersNetwork : String) :
    (reconcile gardenName workersNetwork).program s r =
      ((reconcile gardenName workersNetwork).advances s r 4 .begun).bind fun _ => .done () := by
  rw [program, Actuator.reconcile, advances, advance, load]
  cases hregion : s.region ((reconcile gardenName workersNetwork).request r) with
  | error e => rfl
  | ok region =>
    dsimp only
    cases hzones : zonePlacements region with
    | error e => rfl
    | ok zones =>
      dsimp only
      rw [bind_eq, bind_eq, Program.bind_assoc, Program.bind_assoc, Program.bind_assoc]
      refine congrArg _ (funext fun connected => ?_)
      cases connected with
      | error e => rfl
      | ok g =>
        dsimp only
        rw [reconcileAt, bind_eq, bind_eq, Program.bind_assoc, Program.bind_assoc]
        refine congrArg _ (funext fun loaded => ?_)
        cases loaded with
        | error e => rfl
        | ok known =>
          refine Eq.trans ?_
            (advances_reconcile s r gardenName workersNetwork hzones g (started known)).symm
          dsimp only
          rw [bind_eq, Program.bind_assoc]
          refine congrArg _ (funext fun left => ?_)
          obtain ⟨result, state⟩ := left
          cases result <;> rfl

theorem program_delete (gardenName workersNetwork : String) :
    (delete gardenName workersNetwork).program s r =
      ((delete gardenName workersNetwork).advances s r 4 .begun).bind fun _ => .done () := by
  rw [program, Actuator.delete, advances, advance, load, bind_eq, bind_eq, Program.bind_assoc,
    Program.bind_assoc, Program.bind_assoc]
  refine congrArg _ (funext fun loaded => ?_)
  rcases loaded with e | known
  · rfl
  cases known with
  | none => rfl
  | some state =>
    dsimp only
    split
    · cases hregion : s.region ((delete gardenName workersNetwork).request r) with
      | error e => rfl
      | ok region =>
        dsimp only
        rw [bind_eq, bind_eq, Program.bind_assoc, Program.bind_assoc]
        refine congrArg _ (funext fun connected => ?_)
        cases connected with
        | error e => rfl
        | ok g => exact (advances_delete s r gardenName workersNetwork region g state).symm
    · rfl

/-- **The steps of a call, one after another, are the call.** -/
theorem program_eq : call.program s r =
    (call.advances s r 4 .begun).bind fun _ => .done () := by
  cases call with
  | reconcile gardenName workersNetwork => exact program_reconcile s r gardenName workersNetwork
  | delete gardenName workersNetwork => exact program_delete s r gardenName workersNetwork

/-! ### What a step can do -/

variable {s r call} {known : Option State} {t t' : Testbed} {phase : Phase} {region : Region}
  {g : Generation} {state : State} {succeeded : Bool}

/-- The invariant is not about which call it is. -/
theorem tended_request_iff (call : Call) :
    Tended s (call.request r) known t ↔ Tended s r known t := by
  cases call <;> exact tended_renamed_iff _ _

/-- The state that a call works from, if this is what is known. -/
def starts (known : Option State) : Call → Option State
  | reconcile _ _ => some (started known)
  | delete _ _ => known

end Call

/-- **What a call has loaded is what is known**, and it can work from there. -/
structure Ready (s : Settings) (r : ClusterRequest) (call : Call) (known : Option State)
    (t : Testbed) (region : Region) (g : Generation) (state : State) : Prop where
  /-- The region is the one of the request. -/
  region : s.region (call.request r) = .ok region
  /-- The generation is the one of the control plane. -/
  generation : g = t.generation
  /-- The control plane can be reached. -/
  connects : Connects s (call.request r) t
  /-- The state is what is known. -/
  starts : call.starts known = some state

variable {s : Settings} {r : ClusterRequest} {call : Call} {known : Option State} {t t' : Testbed}
  {phase : Phase} {region : Region} {g : Generation} {state : State} {succeeded : Bool}

/-- What is published does not matter to a call. -/
theorem Ready.calm (h : Ready s r call known t region g state) (hcalm : Testbed.Calm t t') :
    Ready s r call known t' region g state where
  region := h.region
  generation := h.generation.trans hcalm.generation.symm
  connects := h.connects.congr hcalm.connectError
  starts := h.starts

/-- What a call may have loaded: nothing to go on with, or what is stored. -/
def Loads (s : Settings) (r : ClusterRequest) (call : Call) (t : Testbed) (phase : Phase) : Prop :=
  phase = .ended none ∨ ∃ known region g state, Store.stateIn r.ns t.memory.snapshot = .ok known ∧
    Ready s r call known t region g state ∧ phase = .loaded region g state

theorem Call.load_reconcile {gardenName workersNetwork : String}
    (h : t.run ((reconcile gardenName workersNetwork).load s r) = (some phase, t')) :
    Testbed.Calm t t' ∧ Loads s r (.reconcile gardenName workersNetwork) t phase := by
  rw [load] at h
  split at h
  · obtain ⟨rfl, rfl⟩ := run_done_eq_some_iff.mp h
    exact ⟨.refl _, .inl rfl⟩
  next region hregion =>
  split at h
  · obtain ⟨rfl, rfl⟩ := run_done_eq_some_iff.mp h
    exact ⟨.refl _, .inl rfl⟩
  obtain ⟨connected, t₁, h₁, h₂⟩ := run_bind_eq_some_iff.mp h
  obtain ⟨hcalm, hconnected⟩ := connect_cases hregion h₁
  rcases hconnected with ⟨e, rfl, -⟩ | ⟨rfl, hconnects⟩
  · obtain ⟨rfl, rfl⟩ := run_done_eq_some_iff.mp h₂
    exact ⟨hcalm, .inl rfl⟩
  obtain ⟨loaded, t₂, h₃, h₄⟩ := run_bind_eq_some_iff.mp h₂
  rw [← Testbed.run, run_loadState, hcalm.memory] at h₃
  obtain ⟨hloaded, rfl⟩ := Prod.mk.inj h₃
  obtain rfl := Option.some.inj hloaded
  cases hknown : Store.stateIn ((reconcile gardenName workersNetwork).request r).ns
      t.memory.snapshot with
  | error e =>
    rw [hknown] at h₄
    obtain ⟨rfl, rfl⟩ := run_done_eq_some_iff.mp h₄
    exact ⟨hcalm, .inl rfl⟩
  | ok known =>
    rw [hknown] at h₄
    obtain ⟨rfl, rfl⟩ := run_done_eq_some_iff.mp h₄
    exact ⟨hcalm, .inr ⟨known, region, t.generation, _, hknown,
      ⟨hregion, rfl, hconnects, rfl⟩, rfl⟩⟩

theorem Call.load_delete {gardenName workersNetwork : String}
    (h : t.run ((delete gardenName workersNetwork).load s r) = (some phase, t')) :
    Testbed.Calm t t' ∧ Loads s r (.delete gardenName workersNetwork) t phase := by
  obtain ⟨loaded, t₁, h₁, h₂⟩ := run_bind_eq_some_iff.mp h
  rw [← Testbed.run, run_loadState] at h₁
  obtain ⟨hloaded, rfl⟩ := Prod.mk.inj h₁
  obtain rfl := Option.some.inj hloaded
  rcases hknown : Store.stateIn ((delete gardenName workersNetwork).request r).ns
    t.memory.snapshot with e | known
  · rw [hknown] at h₂
    obtain ⟨rfl, rfl⟩ := run_done_eq_some_iff.mp h₂
    exact ⟨.refl _, .inl rfl⟩
  rw [hknown] at h₂
  cases known with
  | none =>
    obtain ⟨rfl, rfl⟩ := run_done_eq_some_iff.mp h₂
    exact ⟨.refl _, .inl rfl⟩
  | some state =>
    dsimp only [Except.mapError] at h₂
    split at h₂
    · split at h₂
      · obtain ⟨rfl, rfl⟩ := run_done_eq_some_iff.mp h₂
        exact ⟨.refl _, .inl rfl⟩
      next region hregion =>
      obtain ⟨connected, t₂, h₃, h₄⟩ := run_bind_eq_some_iff.mp h₂
      obtain ⟨hcalm, hconnected⟩ := connect_cases hregion h₃
      rcases hconnected with ⟨e, rfl, -⟩ | ⟨rfl, hconnects⟩
      · obtain ⟨rfl, rfl⟩ := run_done_eq_some_iff.mp h₄
        exact ⟨hcalm, .inl rfl⟩
      obtain ⟨rfl, rfl⟩ := run_done_eq_some_iff.mp h₄
      exact ⟨hcalm, .inr ⟨some state, region, t.generation, state, hknown,
        ⟨hregion, rfl, hconnects, rfl⟩, rfl⟩⟩
    · obtain ⟨rfl, rfl⟩ := run_done_eq_some_iff.mp h₂
      exact ⟨.refl _, .inl rfl⟩

/-- **Loading changes nothing.** What is loaded is what is stored. -/
theorem Call.load_cases (h : t.run (call.load s r) = (some phase, t')) :
    Testbed.Calm t t' ∧ Loads s r call t phase := by
  cases call with
  | reconcile gardenName workersNetwork => exact load_reconcile h
  | delete gardenName workersNetwork => exact load_delete h

/-- What the work of a reconciliation is. -/
theorem Call.work_reconcile {gardenName workersNetwork : String} :
    let call := reconcile gardenName workersNetwork
    t.run (call.work s r region g state) = (some phase, t') →
    ∃ left bed, t.bed.run (Pipeline.run g (s.context (call.request r))
        ((call.request r).spec region) state) = (some left, bed) ∧
      t' = { t with bed } ∧ phase = .ran region left.1.isOk left.2 := by
  intro call h
  obtain ⟨left, t₁, h₁, h₂⟩ := run_bind_eq_some_iff.mp h
  rw [← Testbed.run, Testbed.run_onPlane] at h₁
  obtain ⟨hleft, rfl⟩ := Prod.mk.inj h₁
  obtain ⟨rfl, rfl⟩ := run_done_eq_some_iff.mp h₂
  exact ⟨left, _, Prod.ext hleft rfl, rfl, rfl⟩

/-- What the work of a deletion is. -/
theorem Call.work_delete {gardenName workersNetwork : String}
    (h : t.run ((delete gardenName workersNetwork).work s r region g state) = (some phase, t')) :
    ∃ cleaned bed₁ left bed,
      t.bed.run (cleanUpBalancers s.config.loadBalancer.clusterTagScope r.clusterName s.rounds) =
        (some cleaned, bed₁) ∧
      bed₁.run (Pipeline.takeDown g state) = (some left, bed) ∧
      t' = { t with bed } ∧ phase = .ran region left.1.isOk left.2 := by
  obtain ⟨cleaned, t₁, h₁, h₂⟩ := run_bind_eq_some_iff.mp h
  rw [← Testbed.run, Testbed.run_onPlane] at h₁
  obtain ⟨hcleaned, rfl⟩ := Prod.mk.inj h₁
  obtain ⟨left, t₂, h₃, h₄⟩ := run_bind_eq_some_iff.mp h₂
  rw [← Testbed.run, Testbed.run_onPlane] at h₃
  obtain ⟨hleft, rfl⟩ := Prod.mk.inj h₃
  obtain ⟨rfl, rfl⟩ := run_done_eq_some_iff.mp h₄
  exact ⟨cleaned, _, left, _, Prod.ext hcleaned rfl, Prod.ext hleft rfl, rfl, rfl⟩

/-- What saving a state is. -/
theorem save_cases (h : t.run (Call.save s r region succeeded state) = (some phase, t')) :
    (phase = .saved region state ∨ phase = .ended (some state)) ∧
      (t.memory.pendingConflicts < s.storeAttempts → Saved r.ns state t.bed t t') := by
  obtain ⟨saved, t₁, h₁, h₂⟩ := run_bind_eq_some_iff.mp h
  have hphase : (phase = .saved region state ∨ phase = .ended (some state)) ∧ t' = t₁ := by
    cases saved with
    | error e =>
      obtain ⟨rfl, rfl⟩ := run_done_eq_some_iff.mp h₂
      exact ⟨.inr rfl, rfl⟩
    | ok u =>
      obtain ⟨rfl, rfl⟩ := run_done_eq_some_iff.mp h₂
      cases succeeded
      · exact ⟨.inr rfl, rfl⟩
      · exact ⟨.inl rfl, rfl⟩
  refine ⟨hphase.1, fun hconflicts => ?_⟩
  obtain ⟨t₂, hsave, hsaved⟩ := run_save r.ns state hconflicts
  rw [← Testbed.run, hsave] at h₁
  rw [hphase.2, ← (Prod.mk.inj h₁).2]
  exact hsaved

/-- What comes behind a state that was saved: only a deletion that has left no references drops the
record. -/
theorem Call.conclude_cases (h : t.run (call.conclude s r region state) = (some phase, t')) :
    phase = .ended (some state) ∧ (Testbed.Calm t t' ∨
      (call.isDelete = true ∧ state.holdsNoReferences = true ∧
        (t.memory.pendingConflicts < s.storeAttempts → ∃ m, t' = { t with memory := m } ∧
          m.snapshot.entries = t.memory.snapshot.entries.erase r.ns ∧
          m.pendingConflicts = 0))) := by
  cases call with
  | reconcile gardenName workersNetwork =>
    rw [conclude] at h
    split at h
    · obtain ⟨rfl, rfl⟩ := run_done_eq_some_iff.mp h
      exact ⟨rfl, .inl (.refl _)⟩
    · obtain ⟨announced, t₁, h₁, h₂⟩ := run_bind_eq_some_iff.mp h
      obtain ⟨rfl, rfl⟩ := run_done_eq_some_iff.mp h₂
      exact ⟨rfl, .inl (calm_of_announce h₁)⟩
  | delete gardenName workersNetwork =>
    obtain ⟨dropped, t₁, h₁, h₂⟩ := run_bind_eq_some_iff.mp h
    obtain ⟨rfl, rfl⟩ := run_done_eq_some_iff.mp h₂
    refine ⟨rfl, ?_⟩
    cases hnone : state.holdsNoReferences with
    | false =>
      rw [dropState, hnone, if_neg Bool.false_ne_true] at h₁
      obtain ⟨rfl, rfl⟩ := run_done_eq_some_iff.mp h₁
      exact .inl (.refl _)
    | true =>
      refine .inr ⟨rfl, rfl, fun hconflicts => ?_⟩
      obtain ⟨m, hdropped, hentries, hzero⟩ := run_dropState r.ns hnone hconflicts
      rw [← Testbed.run, hdropped] at h₁
      obtain ⟨-, rfl⟩ := Prod.mk.inj h₁
      exact ⟨m, rfl, hentries, hzero⟩

/-- **Every step brings a call closer to its end.** -/
theorem Call.ahead_advance {phase' : Phase}
    (h : t.run (call.advance s r phase) = (some phase', t')) : phase'.ahead ≤ phase.ahead - 1 := by
  cases phase with
  | begun =>
    rcases (load_cases h).2 with rfl | ⟨known, region, g, state, -, -, rfl⟩
    · exact Nat.zero_le _
    · exact Nat.le_refl _
  | loaded region g state =>
    cases call with
    | reconcile gardenName workersNetwork =>
      obtain ⟨left, bed, -, -, rfl⟩ := work_reconcile h
      exact Nat.le_refl _
    | delete gardenName workersNetwork =>
      obtain ⟨cleaned, bed₁, left, bed, -, -, -, rfl⟩ := work_delete h
      exact Nat.le_refl _
  | ran region succeeded state =>
    rcases (save_cases h).1 with rfl | rfl
    · exact Nat.le_refl _
    · exact Nat.zero_le _
  | saved region state =>
    rw [(conclude_cases h).1]
    exact Nat.le_refl _
  | ended state =>
    obtain ⟨rfl, -⟩ := run_done_eq_some_iff.mp h
    exact Nat.le_refl _

theorem Call.ahead_advances {n : Nat} {phase' : Phase}
    (h : t.run (call.advances s r n phase) = (some phase', t')) :
    phase'.ahead ≤ phase.ahead - n := by
  induction n generalizing t phase with
  | zero =>
    obtain ⟨rfl, -⟩ := run_done_eq_some_iff.mp h
    exact Nat.le_refl _
  | succ n ih =>
    obtain ⟨phase₁, t₁, h₁, h₂⟩ := run_bind_eq_some_iff.mp h
    have hfirst := ahead_advance h₁
    have hrest := ih h₂
    omega

/-- **A call that comes to its end, in however many steps, is the call.** -/
theorem Call.run_program {n : Nat} {left : Option State}
    (h : t.run (call.advances s r n .begun) = (some (.ended left), t')) :
    t.run (call.program s r) = (some (), t') := by
  -- four steps are enough, and further ones change nothing
  have hmore : t.run (call.advances s r (n + 4) .begun) = (some (.ended left), t') := by
    rw [advances_add]
    refine run_bind_eq_some_iff.mpr ⟨_, t', h, ?_⟩
    rw [advances_ended]
    rfl
  rw [Nat.add_comm, advances_add] at hmore
  obtain ⟨phase, t₁, h₁, h₂⟩ := run_bind_eq_some_iff.mp hmore
  obtain ⟨left', rfl⟩ := Phase.exists_ended (Nat.le_zero.mp (ahead_advances h₁))
  rw [advances_ended] at h₂
  obtain ⟨-, rfl⟩ := run_done_eq_some_iff.mp h₂
  rw [program_eq]
  exact run_bind_eq_some_iff.mpr ⟨_, t', h₁, rfl⟩

/-- A call is a step of the lifecycle. -/
theorem Call.step (h : t.run (call.program s r) = (some (), t')) : Step s r t t' := by
  cases call with
  | reconcile gardenName workersNetwork =>
    obtain ⟨result, t₁, h₁, h₂⟩ := run_bind_eq_some_iff.mp h
    obtain ⟨-, rfl⟩ := run_done_eq_some_iff.mp h₂
    exact .reconcile gardenName workersNetwork h₁
  | delete gardenName workersNetwork =>
    obtain ⟨result, t₁, h₁, h₂⟩ := run_bind_eq_some_iff.mp h
    obtain ⟨-, rfl⟩ := run_done_eq_some_iff.mp h₂
    exact .delete gardenName workersNetwork h₁

/-! ### What work leaves behind -/

/-- **Work creates nothing that the state it leaves does not refer to**, and a deletion creates
nothing. Where no failure is due, none is due afterwards. -/
theorem Call.work_holds (h : t.run (call.work s r region g state) = (some phase, t'))
    (hqueued : t.bed.queued = []) :
    ∃ succeeded left bed, phase = .ran region succeeded left ∧ t' = { t with bed } ∧
      bed.queued = [] ∧ (t.bed.plane.failures = [] → bed.plane.failures = []) ∧
      ∀ k place, bed.plane.inventory.Holds k place → t.bed.plane.inventory.Holds k place ∨
        (call.isDelete = false ∧ Refers left k place) := by
  cases call with
  | reconcile gardenName workersNetwork =>
    obtain ⟨left, bed, hrun, rfl, rfl⟩ := work_reconcile h
    obtain ⟨es, -, hreplies⟩ := run_eq_some_iff.mp hrun
    refine ⟨_, _, bed, rfl, rfl, (ControlPlane.Testbed.replies_same hreplies hqueued).1,
      ControlPlane.Testbed.failures_replies hreplies hqueued, fun k place hholds => ?_⟩
    exact (Pipeline.run_holds hqueued hrun hholds).imp_right fun hrefers => ⟨rfl, hrefers⟩
  | delete gardenName workersNetwork =>
    obtain ⟨cleaned, bed₁, left, bed, hclean, htake, rfl, rfl⟩ := work_delete h
    obtain ⟨es₁, -, hreplies₁⟩ := run_eq_some_iff.mp hclean
    obtain ⟨es, -, hreplies⟩ := run_eq_some_iff.mp htake
    have hqueued₁ := (cleanUpBalancers_same hqueued hclean).1
    refine ⟨_, _, bed, rfl, rfl, (ControlPlane.Testbed.replies_same hreplies hqueued₁).1,
      fun hfailures => ?_, fun k place hholds => .inl ?_⟩
    · exact ControlPlane.Testbed.failures_replies hreplies hqueued₁
        (ControlPlane.Testbed.failures_replies hreplies₁ hqueued hfailures)
    · exact (cleanUpBalancers_holds hqueued hclean k place).mp
        (Pipeline.takeDown_holds hqueued₁ htake hholds)

/-- **Work from what is known leaves a state that refers to every object.** -/
theorem Ready.work {left : State} (h : Ready s r call known t region g state)
    (htended : Tended s r known t)
    (hrun : t.run (call.work s r region g state) = (some (.ran region succeeded left), t')) :
    Kept s (call.request r) t left t'.bed := by
  have hrequest := (Call.tended_request_iff call).mpr htended
  obtain ⟨hregion, rfl, hconnects, hstarts⟩ := h
  cases call with
  | reconcile gardenName workersNetwork =>
    obtain rfl := Option.some.inj hstarts
    obtain ⟨ran, bed, hplane, rfl, hphase⟩ := Call.work_reconcile hrun
    obtain ⟨-, -, rfl⟩ := Phase.ran.inj hphase
    exact hrequest.ran hconnects hregion hplane
  | delete gardenName workersNetwork =>
    obtain rfl : known = some state := hstarts
    obtain ⟨cleaned, bed₁, ran, bed, hclean, htake, rfl, hphase⟩ := Call.work_delete hrun
    obtain ⟨-, -, rfl⟩ := Phase.ran.inj hphase
    have hkept := (hrequest.cleaned hclean).tookDown htake
    exact ⟨hkept.custody, hkept.coherent, hkept.fits, hkept.started, hkept.connects.congr rfl,
      hkept.queued, hkept.balancers⟩

/-- **A deletion from what is known leaves no object**, if no failure is due. -/
theorem Ready.work_cleared (h : Ready s r call known t region g state)
    (htended : Tended s r known t) (hdelete : call.isDelete = true)
    (hfailures : t.bed.plane.failures = [])
    (hrun : t.run (call.work s r region g state) = (some phase, t')) (k : Kind) (place : Place) :
    ¬ t'.bed.plane.inventory.Holds k place := by
  cases call with
  | reconcile gardenName workersNetwork => cases hdelete
  | delete gardenName workersNetwork =>
    have hrequest := (Call.tended_request_iff (.delete gardenName workersNetwork)).mpr htended
    obtain ⟨-, rfl, -, hstarts⟩ := h
    obtain rfl : known = some state := hstarts
    obtain ⟨cleaned, bed₁, ran, bed, hclean, htake, rfl, -⟩ := Call.work_delete hrun
    have hcleaned := hrequest.cleaned hclean
    obtain ⟨-, hfailures₁, -⟩ := hrequest.balancers.run hclean hrequest.queued hfailures
    obtain ⟨labels, left, bed', htaken, hnone⟩ := hcleaned.run_takeDown hfailures₁
    have hkept := hcleaned.tookDown htaken
    obtain ⟨-, rfl⟩ := Prod.mk.inj (htake.symm.trans htaken)
    intro hholds
    have hrefers := hkept.custody.held k place hholds
    cases (Pipeline.reference_of_holdsNoReferences hnone _).symm.trans hrefers.1

end Actuator

end ClusterNet
