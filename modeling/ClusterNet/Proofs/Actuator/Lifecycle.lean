import Mathlib.Logic.Relation
import ClusterNet.Proofs.Actuator.BalancerCleanup
import ClusterNet.Proofs.Actuator.Testbed
import ClusterNet.Proofs.Pipeline.Teardown

/-!
# The lifecycle of a cluster

A cluster's infrastructure is brought about and taken down again and again, each time with whatever
comes in between: failures of the control plane, changes that someone else makes there, conflicts
in the shared object, an upgrade. Through all of this the state that is stored refers to every
object that the control plane holds. So nothing is ever left behind that the next request could not
find, and a deletion that meets no failure leaves nothing at all.

## Main definitions

* `Actuator.Step` — what can happen to the surroundings of an actuator
* `Actuator.Pristine` — surroundings in which the cluster has left nothing yet
* `Actuator.Tended` — the invariant: what is stored and that it refers to everything

## Main results

* `Tended.reconcile`, `Tended.delete` — the invariant is kept, whatever the request comes to
* `Actuator.delete_ok` — a deletion succeeds if no failure is due
* `Actuator.no_orphans` — all of this, after any history
-/

namespace ClusterNet

namespace Actuator

open Cluster (State)
open ControlPlane (ApiError Generation Inventory Kind Method Part Place Simulator)
open Pipeline (Coherent Custody Fits Refers)
open Program

/-! ### The invariant -/

/-- The name of the pool of addresses in the region of a request. -/
def poolName (s : Settings) (r : ClusterRequest) : String :=
  match s.region r with
  | .ok region => region.snatIpPoolName
  | .error _ => ""

/-- Whether a request gets as far as the control plane. -/
def Connects (s : Settings) (r : ClusterRequest) (t : Testbed) : Prop :=
  ∃ region settings, s.region r = .ok region ∧
    r.connectorSettings region s.config.apiRetries = .ok settings ∧ t.connectError = none

/-- **What is known of a cluster is stored, and it refers to everything that is there.** -/
structure Tended (s : Settings) (r : ClusterRequest) (known : Option State) (t : Testbed) :
    Prop where
  /-- The record of the cluster holds what is known. -/
  stored : t.memory.snapshot.entries.find? r.ns = known.map Store.recordOf
  /-- What is known refers to every object. -/
  custody : Custody (poolName s r) s.rounds (t.bed.plane, known.getD .fresh)
  /-- What goes with references does so. -/
  coherent : Coherent (known.getD .fresh)
  /-- It can have been left at a control plane of this generation. -/
  fits : Fits t.generation (known.getD .fresh)
  /-- Something is only known once creation has started, so the control plane can be reached. -/
  begun : ∀ state, known = some state → state.creationStarted = true ∧ Connects s r t
  /-- The control plane gives its own answers. -/
  queued : t.bed.queued = []
  /-- The shared object can be changed. -/
  conflicts : t.memory.pendingConflicts < s.storeAttempts
  /-- The load-balancer objects can be listed. -/
  balancers : FitsRounds s.rounds t.bed.plane

variable {s : Settings} {r : ClusterRequest} {known : Option State} {t t' : Testbed}

/-- The invariant is not about the name of the garden and the network of the workers. -/
theorem tended_renamed_iff (gardenName workersNetwork : String) :
    Tended s { r with gardenName, workersNetwork } known t ↔ Tended s r known t := by
  constructor
  · rintro ⟨hstored, hcustody, hcoherent, hfits, hbegun, hqueued, hconflicts, hbalancers⟩
    exact ⟨hstored, hcustody, hcoherent, hfits, hbegun, hqueued, hconflicts, hbalancers⟩
  · rintro ⟨hstored, hcustody, hcoherent, hfits, hbegun, hqueued, hconflicts, hbalancers⟩
    exact ⟨hstored, hcustody, hcoherent, hfits, hbegun, hqueued, hconflicts, hbalancers⟩

theorem Connects.congr (h : Connects s r t) (hsame : t'.connectError = t.connectError) :
    Connects s r t' := by
  obtain ⟨region, settings, hregion, hsettings, hconnect⟩ := h
  exact ⟨region, settings, hregion, hsettings, hsame.trans hconnect⟩

/-- The invariant is not about what is published. -/
theorem Tended.calm (h : Tended s r known t) (hcalm : Testbed.Calm t t') : Tended s r known t' where
  stored := by rw [hcalm.memory]; exact h.stored
  custody := by rw [hcalm.plane]; exact h.custody
  coherent := h.coherent
  fits := by rw [hcalm.generation]; exact h.fits
  begun state hknown := by
    obtain ⟨hstarted, hconnects⟩ := h.begun state hknown
    exact ⟨hstarted, hconnects.congr hcalm.connectError⟩
  queued := hcalm.queued.trans h.queued
  conflicts := by rw [hcalm.memory]; exact h.conflicts
  balancers := by rw [hcalm.plane]; exact h.balancers

/-! ### Parts of a request -/

/-- Connecting changes nothing that matters, and it succeeds if the control plane can be reached. -/
theorem connect_cases {region : Config.Region} {connected : Except ActuatorError Generation}
    (hregion : s.region r = .ok region) (h : t.run (connect s r region) = (some connected, t')) :
    Testbed.Calm t t' ∧ ((∃ e, connected = .error e ∧ ¬ Connects s r t) ∨
      (connected = .ok t.generation ∧ Connects s r t)) := by
  rw [connect] at h
  split at h
  · next e he =>
    obtain ⟨rfl, rfl⟩ := run_done_eq_some_iff.mp h
    refine ⟨.refl _, .inl ⟨e, rfl, ?_⟩⟩
    rintro ⟨region', settings, hregion', hsettings, -⟩
    rw [hregion] at hregion'
    rw [Except.ok.inj hregion', hsettings] at he
    cases he
  · next settings hsettings =>
    obtain ⟨answer, t₁, h₁, h₂⟩ := run_bind_eq_some_iff.mp h
    obtain ⟨rfl, rfl⟩ := run_done_eq_some_iff.mp h₂
    obtain ⟨hanswer, rfl⟩ := Prod.mk.inj h₁
    refine ⟨⟨rfl, rfl, rfl, rfl, rfl⟩, ?_⟩
    rw [← Option.some.inj hanswer]
    dsimp only [Testbed.perform]
    cases hconnect : t.connectError with
    | some e =>
      refine .inl ⟨.connect e, rfl, ?_⟩
      rintro ⟨-, -, -, -, hnone⟩
      rw [hconnect] at hnone
      cases hnone
    | none => exact .inr ⟨rfl, region, settings, hregion, hsettings, hconnect⟩

/-- What loading a state comes to. -/
theorem run_loadState (ns : String) (t : Testbed) : t.run (loadState ns) =
    (some ((Store.stateIn ns t.memory.snapshot).mapError .store), t) := by
  rw [loadState, bind_eq, Testbed.run, run_bind, ← Testbed.run, Testbed.run_onStore, Store.run_load]
  rfl

/-- What is stored is what is loaded. -/
theorem Tended.stateIn (h : Tended s r known t) :
    Store.stateIn r.ns t.memory.snapshot = .ok known := by
  cases known with
  | none => exact Store.stateIn_of_find?_none h.stored
  | some state => exact Store.stateIn_of_find? h.stored

theorem Tended.run_loadState (h : Tended s r known t) :
    t.run (loadState r.ns) = (some (.ok known), t) := by
  rw [Actuator.run_loadState, h.stateIn]
  rfl

/-- What has been done to the surroundings when a state was saved behind a run. -/
structure Saved (ns : String) (state : State) (bed : ControlPlane.Testbed) (t t' : Testbed) :
    Prop where
  /-- The control plane is as the run left it. -/
  bed : t'.bed = bed
  /-- Its generation is as it was. -/
  generation : t'.generation = t.generation
  /-- So is what connections meet. -/
  connectError : t'.connectError = t.connectError
  /-- The record holds the state. -/
  stored : t'.memory.snapshot.entries.find? ns = some (Store.recordOf state)
  /-- No conflict is left. -/
  conflicts : t'.memory.pendingConflicts = 0

/-- A state is saved. -/
theorem run_save (ns : String) (state : State)
    (hconflicts : t.memory.pendingConflicts < s.storeAttempts) :
    ∃ t', t.run (Work.onStore (Store.save ns state s.storeAttempts)) = (some (.ok ()), t') ∧
      Saved ns state t.bed t t' := by
  obtain ⟨m, hsave, hentries, hnone⟩ := Store.run_modify ns
    (·.insert ns (Store.recordOf state)) hconflicts
  refine ⟨{ t with memory := m }, ?_, rfl, rfl, rfl, ?_, hnone⟩
  · rw [Testbed.run_onStore, Store.save, hsave]
  · rw [hentries, OrderedMap.find?_insert_self]

/-- A state that a run leaves behind is saved. -/
theorem run_runAndSave {α : Type} (ns : String) {run : Pipeline.Step α} {state state' : State}
    {result : Except Cluster.InfraError α} {bed : ControlPlane.Testbed}
    (hconflicts : t.memory.pendingConflicts < s.storeAttempts)
    (hrun : t.bed.run (run state) = (some (result, state'), bed)) :
    ∃ t', t.run (runAndSave s ns run state) =
        (some (afterSaving result (.ok ()), state'), t') ∧ Saved ns state' bed t t' := by
  obtain ⟨t', hsave, hsaved⟩ := run_save (t := { t with bed }) ns state' hconflicts
  refine ⟨t', ?_, hsaved.bed, hsaved.generation, hsaved.connectError, hsaved.stored,
    hsaved.conflicts⟩
  rw [runAndSave, bind_eq, Testbed.run, run_bind, ← Testbed.run, Testbed.run_onPlane, hrun]
  dsimp only
  rw [bind_eq, run_bind, ← Testbed.run, hsave]
  rfl

/-- Whatever comes of a run that is saved is what came of the run. -/
theorem runAndSave_cases {α : Type} {ns : String} {run : Pipeline.Step α} {state : State}
    {left : Except ActuatorError α × State}
    (hconflicts : t.memory.pendingConflicts < s.storeAttempts)
    (h : t.run (runAndSave s ns run state) = (some left, t')) :
    ∃ result bed, t.bed.run (run state) = (some (result, left.2), bed) ∧
      left.1 = afterSaving result (.ok ()) ∧ Saved ns left.2 bed t t' := by
  have hplane : ∃ result state' bed, t.bed.run (run state) = (some (result, state'), bed) := by
    rw [runAndSave] at h
    obtain ⟨⟨result, state'⟩, t₁, h₁, -⟩ := run_bind_eq_some_iff.mp h
    rw [← Testbed.run, Testbed.run_onPlane] at h₁
    exact ⟨result, state', _, Prod.ext (Prod.mk.inj h₁).1 rfl⟩
  obtain ⟨result, state', bed, hrun⟩ := hplane
  obtain ⟨t₁, hsaved, hstored⟩ := run_runAndSave ns hconflicts hrun
  rw [h] at hsaved
  obtain ⟨hleft, rfl⟩ := Prod.mk.inj hsaved
  obtain rfl := Option.some.inj hleft
  exact ⟨result, bed, hrun, rfl, hstored⟩

/-- What is known of a state that a run or a takedown has left behind, and of the control plane,
when the state is about to be saved. -/
structure Kept (s : Settings) (r : ClusterRequest) (t : Testbed) (state : State)
    (bed : ControlPlane.Testbed) : Prop where
  /-- The state refers to every object. -/
  custody : Custody (poolName s r) s.rounds (bed.plane, state)
  /-- What goes with references does so. -/
  coherent : Coherent state
  /-- It can have been left at a control plane of this generation. -/
  fits : Fits t.generation state
  /-- Creation has started. -/
  started : state.creationStarted = true
  /-- The control plane can be reached. -/
  connects : Connects s r t
  /-- It gives its own answers. -/
  queued : bed.queued = []
  /-- Its load-balancer objects can be listed. -/
  balancers : FitsRounds s.rounds bed.plane

/-- **The invariant holds of a state that was saved** behind a run that kept it. -/
theorem Kept.saved {state : State} {bed : ControlPlane.Testbed} (h : Kept s r t state bed)
    (hsaved : Saved r.ns state bed t t') (hconflicts : 0 < s.storeAttempts) :
    Tended s r (some state) t' where
  stored := hsaved.stored
  custody := by rw [hsaved.bed]; exact h.custody
  coherent := h.coherent
  fits := by rw [hsaved.generation]; exact h.fits
  begun state' hknown :=
    ⟨Option.some.inj hknown ▸ h.started, h.connects.congr hsaved.connectError⟩
  queued := by rw [hsaved.bed]; exact h.queued
  conflicts := by rw [hsaved.conflicts]; exact hconflicts
  balancers := by rw [hsaved.bed]; exact h.balancers

theorem Tended.attempts (h : Tended s r known t) : 0 < s.storeAttempts :=
  Nat.lt_of_le_of_lt (Nat.zero_le _) h.conflicts

/-! ### Reconcile -/

theorem reference_started (known : Option State) (slot : Cluster.Slot) :
    (started known).reference slot = (known.getD .fresh).reference slot := by
  cases slot <;> rfl

/-- What a run starts from refers to every object. -/
theorem Tended.custody_started (h : Tended s r known t) {region : Config.Region}
    (hregion : s.region r = .ok region) :
    Custody (r.spec region).snatIpPoolName (s.context r).rounds (t.bed.plane, started known) := by
  have hname : poolName s r = region.snatIpPoolName := by rw [poolName, hregion]
  have hc := h.custody
  rw [hname] at hc
  exact hc.congr (fun k => reference_started known _) (reference_started known _)
    (fun _ _ => .rfl) (.refl _ _)

/-- A run from what is known keeps what the invariant is about. -/
theorem Tended.ran (h : Tended s r known t) (hconnects : Connects s r t) {region : Config.Region}
    (hregion : s.region r = .ok region) {ran : Pipeline.Left (List Pipeline.Outcome)}
    {bed : ControlPlane.Testbed}
    (hrun : t.bed.run (Pipeline.run t.generation (s.context r) (r.spec region) (started known)) =
      (some ran, bed)) : Kept s r t ran.2 bed := by
  have hname : poolName s r = region.snatIpPoolName := by rw [poolName, hregion]
  have hcoherent : Coherent (started known) := by
    refine ⟨?_, ?_⟩
    · rw [reference_started]
      exact h.coherent.named
    · rw [reference_started]
      exact h.coherent.addressed
  have hfits : Fits t.generation (started known) := by
    intro hg
    rw [reference_started]
    exact h.fits hg
  obtain ⟨es, htrace, hreplies⟩ := run_eq_some_iff.mp hrun
  have hadvanced := Pipeline.run_advanced htrace
  obtain ⟨hqueued, hc⟩ := Pipeline.run_custody h.queued hrun (h.custody_started hregion)
  have hkept : Custody (poolName s r) s.rounds (bed.plane, ran.2) := by
    rw [hname]
    exact hc
  exact ⟨hkept, hadvanced.coherent hcoherent, hfits.run htrace, hadvanced.started, hconnects,
    hqueued, h.balancers.replies hreplies h.queued⟩

theorem Tended.reconcileAt (h : Tended s r known t) (hconnects : Connects s r t)
    {region : Config.Region} (hregion : s.region r = .ok region) {zones : ZonePlacements}
    {result : Except ActuatorError Status}
    (hrun : t.run (Actuator.reconcileAt s r region zones t.generation) = (some result, t')) :
    ∃ known', Tended s r known' t' := by
  rw [Actuator.reconcileAt] at hrun
  obtain ⟨loaded, t₁, h₁, h₂⟩ := run_bind_eq_some_iff.mp hrun
  rw [← Testbed.run, h.run_loadState] at h₁
  obtain ⟨hloaded, rfl⟩ := Prod.mk.inj h₁
  obtain rfl := Option.some.inj hloaded
  obtain ⟨⟨outcome, state⟩, t₂, h₃, h₄⟩ := run_bind_eq_some_iff.mp h₂
  obtain ⟨ran, bed, hplane, -, hsaved⟩ := runAndSave_cases h.conflicts h₃
  have htended : Tended s r (some state) t₂ :=
    (h.ran hconnects hregion hplane).saved hsaved h.attempts
  cases outcome with
  | error e =>
    obtain ⟨rfl, rfl⟩ := run_done_eq_some_iff.mp h₄
    exact ⟨_, htended⟩
  | ok outcomes => exact ⟨_, htended.calm (calm_of_announce h₄)⟩

/-- **Reconciling keeps the invariant**, whatever comes of it. -/
theorem Tended.reconcile (h : Tended s r known t) {result : Except ActuatorError Status}
    (hrun : t.run (Actuator.reconcile s r) = (some result, t')) :
    ∃ known', Tended s r known' t' := by
  rw [Actuator.reconcile] at hrun
  split at hrun
  · obtain ⟨rfl, rfl⟩ := run_done_eq_some_iff.mp hrun
    exact ⟨known, h⟩
  · next region hregion =>
    split at hrun
    · obtain ⟨rfl, rfl⟩ := run_done_eq_some_iff.mp hrun
      exact ⟨known, h⟩
    · next zones hzones =>
      obtain ⟨connected, t₁, h₁, h₂⟩ := run_bind_eq_some_iff.mp hrun
      obtain ⟨hcalm, hconnected⟩ := connect_cases hregion h₁
      have htended := h.calm hcalm
      rcases hconnected with ⟨e, rfl, -⟩ | ⟨rfl, hconnects⟩
      · obtain ⟨rfl, rfl⟩ := run_done_eq_some_iff.mp h₂
        exact ⟨known, htended⟩
      · rw [← hcalm.generation] at h₂
        exact htended.reconcileAt (hconnects.congr hcalm.connectError) hregion h₂

/-! ### Delete -/

/-- A cleanup keeps the invariant. -/
theorem Tended.cleaned (h : Tended s r known t) {scope clusterName : String} {pages : Nat}
    {cleaned : Except ApiError Nat} {bed : ControlPlane.Testbed}
    (hrun : t.bed.run (cleanUpBalancers scope clusterName pages) = (some cleaned, bed)) :
    Tended s r known { t with bed } := by
  obtain ⟨es, -, hreplies⟩ := run_eq_some_iff.mp hrun
  obtain ⟨hqueued, hsame⟩ := cleanUpBalancers_same h.queued hrun
  have hcustody : Custody (poolName s r) s.rounds (bed.plane, known.getD .fresh) :=
    h.custody.congr (fun _ => rfl) rfl (fun k place => cleanUpBalancers_holds h.queued hrun k place)
      (hsame .settings (by decide))
  exact ⟨h.stored, hcustody, h.coherent, h.fits, h.begun, hqueued, h.conflicts,
    h.balancers.replies hreplies h.queued⟩

/-- A takedown of what is known keeps what the invariant is about. -/
theorem Tended.tookDown {state : State} (h : Tended s r (some state) t)
    {taken : Pipeline.Left (List String)} {bed : ControlPlane.Testbed}
    (hrun : t.bed.run (Pipeline.takeDown t.generation state) = (some taken, bed)) :
    Kept s r t taken.2 bed := by
  obtain ⟨hstarted, hconnects⟩ := h.begun state rfl
  obtain ⟨es, htrace, hreplies⟩ := run_eq_some_iff.mp hrun
  obtain ⟨hqueued, hcustody⟩ := Pipeline.takeDown_custody h.queued hrun h.fits h.custody
  have hretracted := Pipeline.takeDown_retracted htrace
  have hcoherent : Coherent state := h.coherent
  have hfits : Fits t.generation state := h.fits
  exact ⟨hcustody, hcoherent.takeDown htrace, hfits.takeDown htrace,
    hretracted.started.trans hstarted, hconnects, hqueued, h.balancers.replies hreplies h.queued⟩

/-- The invariant holds when a state without references has been dropped. -/
theorem Tended.dropped {state : State} (h : Tended s r (some state) t)
    (hnone : state.holdsNoReferences = true) {m : Store.Memory}
    (hentries : m.snapshot.entries = t.memory.snapshot.entries.erase r.ns)
    (hconflicts : m.pendingConflicts = 0) : Tended s r none { t with memory := m } where
  stored := by
    rw [hentries, OrderedMap.find?_erase_self]
    rfl
  custody := by
    have hfresh : ∀ slot, State.fresh.reference slot = state.reference slot := by
      intro slot
      rw [Pipeline.reference_fresh, Pipeline.reference_of_holdsNoReferences hnone]
    exact h.custody.congr (fun k => hfresh _) (hfresh _) (fun _ _ => .rfl) (.refl _ _)
  coherent := Pipeline.coherent_fresh
  fits _ := Pipeline.reference_fresh _
  begun _ hknown := by cases hknown
  queued := h.queued
  conflicts := by
    rw [hconflicts]
    exact Nat.lt_of_le_of_lt (Nat.zero_le _) h.conflicts
  balancers := h.balancers

/-- A state without references is dropped. -/
theorem run_dropState (ns : String) {state : State} (hnone : state.holdsNoReferences = true)
    (hconflicts : t.memory.pendingConflicts < s.storeAttempts) :
    ∃ m, t.run (dropState s ns state) = (some (.ok ()), { t with memory := m }) ∧
      m.snapshot.entries = t.memory.snapshot.entries.erase ns ∧ m.pendingConflicts = 0 := by
  obtain ⟨m, hdelete, hentries, hzero⟩ := Store.run_modify ns (·.erase ns) hconflicts
  refine ⟨m, ?_, hentries, hzero⟩
  rw [dropState, if_pos hnone, bind_eq, Testbed.run, run_bind, ← Testbed.run, Testbed.run_onStore,
    Store.delete, hdelete]
  rfl

theorem Tended.deleteAt {state : State} (h : Tended s r (some state) t)
    {result : Except ActuatorError Unit}
    (hrun : t.run (Actuator.deleteAt s r state t.generation) = (some result, t')) :
    ∃ known', Tended s r known' t' ∧ (result = .ok () → known' = none) := by
  obtain ⟨cleaned, t₁, h₁, h₂⟩ := run_bind_eq_some_iff.mp hrun
  rw [← Testbed.run, Testbed.run_onPlane] at h₁
  obtain ⟨hcleaned, rfl⟩ := Prod.mk.inj h₁
  have htended := h.cleaned (Prod.ext hcleaned rfl)
  obtain ⟨⟨outcome, state'⟩, t₂, h₃, h₄⟩ := run_bind_eq_some_iff.mp h₂
  obtain ⟨taken, bed, hplane, -, hsaved⟩ := runAndSave_cases htended.conflicts h₃
  have hkept : Tended s r (some state') t₂ :=
    (htended.tookDown hplane).saved hsaved htended.attempts
  cases outcome with
  | error e =>
    obtain ⟨rfl, rfl⟩ := run_done_eq_some_iff.mp h₄
    exact ⟨_, hkept, fun hok => by cases hok⟩
  | ok labels =>
    cases hnone : state'.holdsNoReferences with
    | true =>
      obtain ⟨m, hdropped, hentries, hzero⟩ := run_dropState r.ns hnone hkept.conflicts
      change t₂.run (dropState s r.ns state') = (some result, t') at h₄
      rw [hdropped] at h₄
      obtain ⟨-, rfl⟩ := Prod.mk.inj h₄
      exact ⟨none, hkept.dropped hnone hentries hzero, fun _ => rfl⟩
    | false =>
      change t₂.run (dropState s r.ns state') = (some result, t') at h₄
      rw [dropState, hnone, if_neg Bool.false_ne_true] at h₄
      obtain ⟨rfl, rfl⟩ := run_done_eq_some_iff.mp h₄
      exact ⟨_, hkept, fun hok => by cases hok⟩

/-- **Deleting keeps the invariant**, whatever comes of it, and nothing is known behind a deletion
that succeeds. -/
theorem Tended.delete (h : Tended s r known t) {result : Except ActuatorError Unit}
    (hrun : t.run (Actuator.delete s r) = (some result, t')) :
    ∃ known', Tended s r known' t' ∧ (result = .ok () → known' = none) := by
  obtain ⟨loaded, t₁, h₁, h₂⟩ := run_bind_eq_some_iff.mp hrun
  rw [← Testbed.run, h.run_loadState] at h₁
  obtain ⟨hloaded, rfl⟩ := Prod.mk.inj h₁
  obtain rfl := Option.some.inj hloaded
  cases known with
  | none =>
    obtain ⟨rfl, rfl⟩ := run_done_eq_some_iff.mp h₂
    exact ⟨none, h, fun _ => rfl⟩
  | some state =>
    obtain ⟨hstarted, hconnects⟩ := h.begun state rfl
    obtain ⟨region, settings, hregion, hsettings, hconnect⟩ := hconnects
    dsimp only at h₂
    rw [if_pos hstarted, hregion] at h₂
    obtain ⟨connected, t₂, h₃, h₄⟩ := run_bind_eq_some_iff.mp h₂
    obtain ⟨hcalm, hconnected⟩ := connect_cases hregion h₃
    have htended := h.calm hcalm
    rcases hconnected with ⟨e, rfl, hnot⟩ | ⟨rfl, -⟩
    · exact absurd ⟨region, settings, hregion, hsettings, hconnect⟩ hnot
    · rw [← hcalm.generation] at h₄
      exact htended.deleteAt h₄

/-! ### Deletions that succeed -/

theorem connect_finishes (s : Settings) (r : ClusterRequest) (region : Config.Region)
    (t : Testbed) : ∃ connected t', t.run (connect s r region) = (some connected, t') := by
  rw [connect]
  split
  · exact ⟨_, _, rfl⟩
  · exact ⟨_, _, rfl⟩

/-- A takedown of what is known succeeds if no failure is due, and the state that it leaves has no
references. -/
theorem Tended.run_takeDown {state : State} (h : Tended s r (some state) t)
    (hfailures : t.bed.plane.failures = []) :
    ∃ labels state' bed, t.bed.run (Pipeline.takeDown t.generation state) =
      (some (.ok labels, state'), bed) ∧ state'.holdsNoReferences = true := by
  obtain ⟨labels, state', bed, hplane⟩ :=
    Pipeline.takeDown_ok h.queued hfailures h.fits h.custody
  obtain ⟨es, htrace, -⟩ := run_eq_some_iff.mp hplane
  exact ⟨labels, state', bed, hplane, Pipeline.takeDown_lost h.fits h.coherent htrace⟩

theorem Tended.run_deleteAt {state : State} (h : Tended s r (some state) t)
    (hfailures : t.bed.plane.failures = []) :
    ∃ t', t.run (Actuator.deleteAt s r state t.generation) = (some (.ok ()), t') := by
  obtain ⟨cleaned, bed, hclean⟩ := cleanUpBalancers_finishes
    s.config.loadBalancer.clusterTagScope r.clusterName h.queued hfailures h.balancers
  have htended := h.cleaned hclean
  obtain ⟨-, hfailures', -⟩ := h.balancers.run hclean h.queued hfailures
  obtain ⟨labels, state', bed', hplane, hnone⟩ := htended.run_takeDown hfailures'
  obtain ⟨t₂, hrun, hsaved⟩ := run_runAndSave r.ns htended.conflicts hplane
  have hkept := (htended.tookDown hplane).saved hsaved htended.attempts
  obtain ⟨m, hdropped, -, -⟩ := run_dropState r.ns hnone hkept.conflicts
  refine ⟨{ t₂ with memory := m }, run_bind_eq_some_iff.mpr ⟨cleaned, { t with bed }, ?_, ?_⟩⟩
  · rw [← Testbed.run, Testbed.run_onPlane, hclean]
  · exact run_bind_eq_some_iff.mpr ⟨_, t₂, hrun, hdropped⟩

/-- **A deletion succeeds if no failure is due.** -/
theorem Tended.run_delete (h : Tended s r known t) (hfailures : t.bed.plane.failures = []) :
    ∃ t', t.run (Actuator.delete s r) = (some (.ok ()), t') := by
  cases known with
  | none => exact ⟨t, run_bind_eq_some_iff.mpr ⟨_, t, h.run_loadState, rfl⟩⟩
  | some state =>
    obtain ⟨hstarted, hconnects⟩ := h.begun state rfl
    obtain ⟨region, settings, hregion, hsettings, hconnect⟩ := hconnects
    obtain ⟨connected, t₁, h₁⟩ := connect_finishes s r region t
    obtain ⟨hcalm, hconnected⟩ := connect_cases hregion h₁
    rcases hconnected with ⟨e, -, hnot⟩ | ⟨rfl, -⟩
    · exact absurd ⟨region, settings, hregion, hsettings, hconnect⟩ hnot
    · have hfailures₁ : t₁.bed.plane.failures = [] := by
        rw [hcalm.plane]
        exact hfailures
      obtain ⟨t', hrun⟩ := (h.calm hcalm).run_deleteAt hfailures₁
      rw [hcalm.generation] at hrun
      refine ⟨t', run_bind_eq_some_iff.mpr ⟨_, t, h.run_loadState, ?_⟩⟩
      dsimp only
      rw [if_pos hstarted, hregion]
      exact run_bind_eq_some_iff.mpr ⟨_, t₁, h₁, hrun⟩

/-! ### Histories -/

/-- The testbed with a change to its control plane. -/
def Testbed.changed (t : Testbed) (f : Simulator → Simulator) : Testbed :=
  { t with bed := { t.bed with plane := f t.bed.plane } }

/-- What can happen to the surroundings of an actuator that looks after one cluster. The requests
for the cluster differ in nothing but the name of its garden and the network of its workers. -/
inductive Step (s : Settings) (r : ClusterRequest) : Testbed → Testbed → Prop
  /-- The cluster's infrastructure is created or repaired, as far as it goes. -/
  | reconcile {t t' : Testbed} {result : Except ActuatorError Status}
    (gardenName workersNetwork : String)
    (h : t.run (Actuator.reconcile s { r with gardenName, workersNetwork }) = (some result, t')) :
    Step s r t t'
  /-- The cluster's infrastructure is taken down, as far as it goes. -/
  | delete {t t' : Testbed} {result : Except ActuatorError Unit}
    (gardenName workersNetwork : String)
    (h : t.run (Actuator.delete s { r with gardenName, workersNetwork }) = (some result, t')) :
    Step s r t t'
  /-- A method of the control plane is going to fail. -/
  | failNext (t : Testbed) (m : Method) : Step s r t (t.changed (·.failNext m))
  /-- Someone else edits a gateway. -/
  | editTier1 (t : Testbed) (place : Place)
    (edit : (Kind.policy .tier1).Object → (Kind.policy .tier1).Object) :
    Step s r t (t.changed (·.editBehind (.policy .tier1) place edit))
  /-- Someone else removes a segment. -/
  | removeSegment (t : Testbed) (place : Place) :
    Step s r t (t.changed (·.removeBehind (.policy .segment) place))
  /-- Someone else removes a DHCP profile. -/
  | removeDhcpProfile (t : Testbed) (place : Place) :
    Step s r t (t.changed (·.removeBehind (.manager .dhcpProfile) place))
  /-- The next writes of the shared object meet conflicts, fewer than there are attempts. -/
  | conflicts (t : Testbed) (pendingConflicts : Nat) (h : pendingConflicts < s.storeAttempts) :
    Step s r t { t with memory := { t.memory with pendingConflicts } }
  /-- The control plane is upgraded. -/
  | upgrade (t : Testbed) : Step s r t { t with generation := .v3 }

/-- A request for the cluster itself, if it comes to an end. -/
theorem step_of_reconcile (h : (t.run (reconcile s r)).1.isSome) :
    Step s r t (t.run (reconcile s r)).2 := by
  obtain ⟨result, hresult⟩ := Option.isSome_iff_exists.mp h
  exact .reconcile r.gardenName r.workersNetwork (Prod.ext hresult rfl)

/-- Changes that take no place and free none of an owner keep the invariant. -/
theorem Tended.changed (h : Tended s r known t) {f : Simulator → Simulator}
    (hheld : ∀ k place, (f t.bed.plane).inventory.Holds k place →
      t.bed.plane.inventory.Holds k place)
    (hpresent : ∀ k k' place, Pipeline.ownerSlot k' = some (Pipeline.slot k) →
      t.bed.plane.inventory.Holds k place → (f t.bed.plane).inventory.Holds k place)
    (hsettings : Part.settings.Same t.bed.plane (f t.bed.plane))
    (hbalancers : (f t.bed.plane).balancers = t.bed.plane.balancers) :
    Tended s r known (t.changed f) := by
  have hfew : FitsRounds s.rounds (f t.bed.plane) := by
    refine h.balancers.of_le ?_
    intro k
    rw [hbalancers]
  exact ⟨h.stored, h.custody.thinned hheld hpresent hsettings, h.coherent, h.fits, h.begun,
    h.queued, h.conflicts, hfew⟩

/-- Removing objects that own nothing keeps the invariant. -/
theorem Tended.removeBehind (h : Tended s r known t) {k : Kind} (place : Place)
    (howner : ∀ k', Pipeline.ownerSlot k' ≠ some (Pipeline.slot k)) :
    Tended s r known (t.changed (·.removeBehind k place)) := by
  refine h.changed (fun k' place' hheld => ?_) (fun k' k'' place' hslot hheld => ?_)
    ⟨rfl, rfl, rfl⟩ rfl
  · by_cases hk : k' = k
    · subst hk
      exact (Inventory.holds_remove_iff.mp hheld).2
    · exact (Inventory.holds_remove_of_ne hk).mp hheld
  · refine (Inventory.holds_remove_of_ne fun heq => ?_).mpr hheld
    exact howner k'' (heq ▸ hslot)

/-- Editing an object keeps the invariant. -/
theorem Tended.editBehind (h : Tended s r known t) {k : Kind} (place : Place)
    (edit : k.Object → k.Object) :
    Tended s r known (t.changed (·.editBehind k place edit)) := by
  have hsame : ∀ k' place', (t.bed.plane.editBehind k place edit).inventory.Holds k' place' ↔
      t.bed.plane.inventory.Holds k' place' := by
    intro k' place'
    rw [Simulator.editBehind]
    split
    · next o hfind => exact Inventory.holds_put_of_holds (Inventory.holds_of_find? hfind)
    · rfl
  have hparts : Part.settings.Same t.bed.plane (t.bed.plane.editBehind k place edit) ∧
      (t.bed.plane.editBehind k place edit).balancers = t.bed.plane.balancers := by
    rw [Simulator.editBehind]
    split <;> exact ⟨⟨rfl, rfl, rfl⟩, rfl⟩
  exact h.changed (fun k' place' => (hsame k' place').mp)
    (fun k' _ place' _ => (hsame k' place').mpr) hparts.1 hparts.2

/-- **Whatever happens keeps the invariant.** -/
theorem Tended.step (h : Tended s r known t) (hstep : Step s r t t') :
    ∃ known', Tended s r known' t' := by
  cases hstep with
  | reconcile gardenName workersNetwork hrun =>
    have hother := (tended_renamed_iff gardenName workersNetwork).mpr h
    obtain ⟨known', hkept⟩ := hother.reconcile hrun
    exact ⟨known', (tended_renamed_iff gardenName workersNetwork).mp hkept⟩
  | delete gardenName workersNetwork hrun =>
    have hother := (tended_renamed_iff gardenName workersNetwork).mpr h
    obtain ⟨known', hkept, -⟩ := hother.delete hrun
    exact ⟨known', (tended_renamed_iff gardenName workersNetwork).mp hkept⟩
  | failNext m =>
    exact ⟨known, h.changed (fun _ _ => id) (fun _ _ _ _ => id) ⟨rfl, rfl, rfl⟩ rfl⟩
  | editTier1 place edit => exact ⟨known, h.editBehind place edit⟩
  | removeSegment place =>
    refine ⟨known, h.removeBehind place fun k => ?_⟩
    rcases k with k | k <;> cases k <;> decide
  | removeDhcpProfile place =>
    refine ⟨known, h.removeBehind place fun k => ?_⟩
    rcases k with k | k <;> cases k <;> decide
  | conflicts n hn =>
    exact ⟨known, h.stored, h.custody, h.coherent, h.fits, h.begun, h.queued, hn, h.balancers⟩
  | upgrade =>
    exact ⟨known, h.stored, h.custody, h.coherent, fun hg => (by cases hg), h.begun, h.queued,
      h.conflicts, h.balancers⟩

/-- **So does any history.** -/
theorem Tended.steps (h : Tended s r known t) (hsteps : Relation.ReflTransGen (Step s r) t t') :
    ∃ known', Tended s r known' t' := by
  induction hsteps with
  | refl => exact ⟨known, h⟩
  | tail _ hstep ih =>
    obtain ⟨known', hknown⟩ := ih
    exact hknown.step hstep

/-- Surroundings in which the cluster has left nothing yet. Ids can be part of paths, and the
load-balancer objects can be listed. -/
structure Pristine (s : Settings) (r : ClusterRequest) (t : Testbed) : Prop where
  /-- The control plane holds no objects. -/
  empty : t.bed.plane.inventory = {}
  /-- Nothing is stored for the cluster. -/
  unknown : t.memory.snapshot.entries.find? r.ns = none
  /-- The control plane gives its own answers. -/
  queued : t.bed.queued = []
  /-- The next write meets fewer conflicts than there are attempts. -/
  conflicts : t.memory.pendingConflicts < s.storeAttempts
  /-- The ids that will be drawn can be part of paths. -/
  ids : ∀ n, ControlPlane.Path.IsId (t.bed.plane.freshId n)
  /-- There are fewer load-balancer objects of a kind than rounds to list them. -/
  balancers : FitsRounds s.rounds t.bed.plane

theorem Pristine.tended (h : Pristine s r t) : Tended s r none t where
  stored := h.unknown
  custody := by
    refine Pipeline.custody_of_empty (fun k place hheld => ?_) Pipeline.reference_fresh h.ids
    change t.bed.plane.inventory.Holds k place at hheld
    rw [h.empty] at hheld
    rcases k with k | k <;> cases k <;> cases hheld
  coherent := Pipeline.coherent_fresh
  fits _ := Pipeline.reference_fresh _
  begun _ hknown := by cases hknown
  queued := h.queued
  conflicts := h.conflicts
  balancers := h.balancers

/-- **Nothing is orphaned, over the whole lifecycle.** After any history, every object that the
control plane holds is one that the stored state refers to. And if no failure is due, a deletion
succeeds and leaves neither an object nor a record. -/
theorem no_orphans {start : Testbed} (hstart : Pristine s r start)
    (h : Relation.ReflTransGen (Step s r) start t) :
    (∀ k, ∀ place ∈ (t.bed.plane.inventory.table k).keys, ∃ record state,
      t.memory.snapshot.entries.find? r.ns = some record ∧
        Store.stateOf r.ns record = .ok state ∧ Refers state k place) ∧
    (t.bed.plane.failures = [] → ∀ gardenName workersNetwork, ∃ t',
      t.run (delete s { r with gardenName, workersNetwork }) = (some (.ok ()), t') ∧
        t'.bed.plane.inventory.count = 0 ∧ t'.memory.snapshot.entries.find? r.ns = none) := by
  obtain ⟨known, htended⟩ := hstart.tended.steps h
  refine ⟨fun k place hmem => ?_, fun hfailures gardenName workersNetwork => ?_⟩
  · have hrefers := htended.custody.held k place (Inventory.holds_of_mem_keys hmem)
    cases known with
    | none => cases (Pipeline.reference_fresh _).symm.trans hrefers.1
    | some state => exact ⟨_, state, htended.stored, Store.stateOf_recordOf r.ns state, hrefers⟩
  · have hother := (tended_renamed_iff gardenName workersNetwork).mpr htended
    obtain ⟨t', hrun⟩ := hother.run_delete hfailures
    obtain ⟨known', hdeleted, hnone⟩ := hother.delete hrun
    obtain rfl := hnone rfl
    exact ⟨t', hrun, hdeleted.custody.count_eq_zero Pipeline.reference_fresh, hdeleted.stored⟩

/-- A region whose objects are typical. -/
def typicalRegion : Config.Region where
  name := "typical"
  host := "control-plane"
  tier0GatewayName := "tier0-gw"
  edgeClusterName := "edge-cluster-1"
  transportZoneName := "tz-overlay"
  snatIpPoolName := "snat-pool"
  placement := { datacenter := some "datacenter", datastore := some "datastore" }

/-- An actuator for that region. -/
def typicalSettings : Settings where
  config := { regions := [typicalRegion] }
  rounds := 5

/-- A cluster in that region. -/
def typicalRequest : ClusterRequest where
  ns := "shoot"
  region := "typical"
  gardenId := "id"
  gardenName := "garden"
  clusterName := "small"
  workersNetwork := "10.0.0.0/16"
  secret := .userPassword "user" "password"

/-- The surroundings of a cluster that is not there yet, at a control plane of the older
generation. -/
def typicalStart : Testbed where
  bed := { plane := ({} : Simulator).withRegion }
  generation := .v2

theorem pristine_typicalStart : Pristine typicalSettings typicalRequest typicalStart := by
  refine ⟨rfl, rfl, rfl, by decide, ControlPlane.Path.isId_numberedId, fun k => ?_⟩
  cases k <;> decide

/-- What the first request comes to when the DHCP server cannot be created. -/
def interrupted : Option (Except ActuatorError Status) × Testbed :=
  (typicalStart.changed (·.failNext (.create .dhcpServer))).run
    (reconcile typicalSettings typicalRequest)

/-- A cluster that was left unfinished and met an upgrade is deleted all the same. -/
theorem no_orphans_interrupted :
    let t := { interrupted.2 with generation := .v3 }
    Pristine typicalSettings typicalRequest typicalStart ∧
      Relation.ReflTransGen (Step typicalSettings typicalRequest) typicalStart t ∧
      t.bed.plane.inventory.count = 6 ∧
      ∃ t', t.run (delete typicalSettings typicalRequest) = (some (.ok ()), t') ∧
        t'.bed.plane.inventory.count = 0 := by
  intro t
  have hfinished : interrupted.1.isSome = true := by decide +kernel
  have hfailures : t.bed.plane.failures = [] := by decide +kernel
  have hcount : t.bed.plane.inventory.count = 6 := by decide +kernel
  have hhistory : Relation.ReflTransGen (Step typicalSettings typicalRequest) typicalStart t :=
    .tail (.tail (.single (.failNext typicalStart (.create .dhcpServer)))
      (step_of_reconcile hfinished)) (.upgrade interrupted.2)
  obtain ⟨-, hdelete⟩ := no_orphans pristine_typicalStart hhistory
  obtain ⟨t', hrun, hnone, -⟩ :=
    hdelete hfailures typicalRequest.gardenName typicalRequest.workersNetwork
  exact ⟨pristine_typicalStart, hhistory, hcount, t', hrun, hnone⟩

end Actuator

end ClusterNet
