import ClusterNet.Proofs.Actuator.Delete
import ClusterNet.Proofs.Actuator.Reconcile

/-!
# Calls that cannot begin

Before a call works on anything, it has to find out where and from which state, and in each of these
steps something may be in its way: the region is not known, its zones cannot be placed, the request
does not go with the region, the control plane cannot be reached, or the record cannot be read. A
call that meets such an obstacle fails, and it has touched nothing: it has looked at the shared
object, if that, and has tried to connect, if that. A reconciliation does the one behind the other,
a deletion the other way round.

In particular a record that was written by another version is left as it is. It may be all that is
known of a cluster's objects.

## Main definitions

* `Actuator.Obstacle` — what may be in the way of a call
* `Actuator.ReconcileBarred`, `Actuator.DeleteBarred` — the obstacles that a call meets
* `Actuator.LeftAlone` — a call that has failed and touched nothing
* `Actuator.Cautious` — what can be relied on where calls cannot begin

## Main results

* `Actuator.ReconcileBarred.leftAlone`, `Actuator.DeleteBarred.leftAlone` — obstacles make calls
  fail
* `Actuator.reconcile_begins`, `Actuator.delete_begins` — without them, the pipeline is started
* `Actuator.barred_of_unreadable` — nobody gets past a record that cannot be read
* `Actuator.calls_cautious` — all together
-/

namespace ClusterNet

namespace Actuator

open Cluster (State)
open Config (Region)
open ControlPlane (ApiError ConnectorSettings Generation)
open Program

variable {α σ : Type} {answer : (e : Effect) → σ → e.Answer × σ} {object : σ → Store.Snapshot}
  {s : Settings} {r : ClusterRequest} {t t' : σ} {region : Region} {zones : ZonePlacements}
  {settings : ConnectorSettings} {e : ActuatorError}

/-! ### Obstacles -/

/-- What may be in the way of a call. -/
inductive Obstacle where
  /-- The region is not known. -/
  | region
  /-- A zone of the region cannot be placed. -/
  | placement
  /-- The credentials do not go with the region, or the settings of the connection are unusable. -/
  | settings
  /-- The control plane cannot be reached. -/
  | connection
  /-- The record cannot be read. -/
  | record
deriving DecidableEq

/-- Whether the obstacle is met before anyone tries to connect. -/
def Obstacle.isOffline : Obstacle → Bool
  | .region | .placement | .settings => true
  | .connection | .record => false

/-- The state that a look at the object shows. -/
def seen (answer : (e : Effect) → σ → e.Answer × σ) (ns : String) (t : σ) :
    Except Store.StoreError (Option State) :=
  (answer (.store .read) t).1.bind (Store.stateIn ns)

/-- The obstacles that a reconciliation meets, in the order in which it may meet them, and the
errors that it ends with. -/
inductive ReconcileBarred (answer : (e : Effect) → σ → e.Answer × σ) (s : Settings)
    (r : ClusterRequest) (t : σ) : Obstacle → ActuatorError → Prop
  /-- The region is not known. -/
  | region {e : ActuatorError} (h : s.region r = .error e) : ReconcileBarred answer s r t .region e
  /-- A zone cannot be placed. -/
  | placement {region : Region} {e : ActuatorError} (hregion : s.region r = .ok region)
    (h : zonePlacements region = .error e) : ReconcileBarred answer s r t .placement e
  /-- There are no settings to connect with. -/
  | settings {region : Region} {zones : ZonePlacements} {e : ActuatorError}
    (hregion : s.region r = .ok region) (hzones : zonePlacements region = .ok zones)
    (h : r.connectorSettings region s.config.apiRetries = .error e) :
    ReconcileBarred answer s r t .settings e
  /-- The connection has failed. -/
  | connection {region : Region} {zones : ZonePlacements} {settings : ConnectorSettings}
    {e : ApiError} (hregion : s.region r = .ok region) (hzones : zonePlacements region = .ok zones)
    (hsettings : r.connectorSettings region s.config.apiRetries = .ok settings)
    (h : (answer (.connect settings) t).1 = .error e) :
    ReconcileBarred answer s r t .connection (.connect e)
  /-- The record cannot be read. -/
  | record {region : Region} {zones : ZonePlacements} {settings : ConnectorSettings}
    {g : Generation} {e : Store.StoreError} (hregion : s.region r = .ok region)
    (hzones : zonePlacements region = .ok zones)
    (hsettings : r.connectorSettings region s.config.apiRetries = .ok settings)
    (hconnect : (answer (.connect settings) t).1 = .ok g)
    (h : seen answer r.ns (answer (.connect settings) t).2 = .error e) :
    ReconcileBarred answer s r t .record (.store e)

/-- The obstacles that a deletion meets, in the order in which it may meet them, and the errors that
it ends with. How zones are placed is of no interest to it. -/
inductive DeleteBarred (answer : (e : Effect) → σ → e.Answer × σ) (s : Settings)
    (r : ClusterRequest) (t : σ) : Obstacle → ActuatorError → Prop
  /-- The record cannot be read. -/
  | record {e : Store.StoreError} (h : seen answer r.ns t = .error e) :
    DeleteBarred answer s r t .record (.store e)
  /-- The region is not known. -/
  | region {state : State} {e : ActuatorError} (hseen : seen answer r.ns t = .ok (some state))
    (hbegun : state.creationStarted = true) (h : s.region r = .error e) :
    DeleteBarred answer s r t .region e
  /-- There are no settings to connect with. -/
  | settings {state : State} {region : Region} {e : ActuatorError}
    (hseen : seen answer r.ns t = .ok (some state)) (hbegun : state.creationStarted = true)
    (hregion : s.region r = .ok region)
    (h : r.connectorSettings region s.config.apiRetries = .error e) :
    DeleteBarred answer s r t .settings e
  /-- The connection has failed. -/
  | connection {state : State} {region : Region} {settings : ConnectorSettings} {e : ApiError}
    (hseen : seen answer r.ns t = .ok (some state)) (hbegun : state.creationStarted = true)
    (hregion : s.region r = .ok region)
    (hsettings : r.connectorSettings region s.config.apiRetries = .ok settings)
    (h : (answer (.connect settings) (answer (.store .read) t).2).1 = .error e) :
    DeleteBarred answer s r t .connection (.connect e)

/-- A call that an obstacle has made fail and that has touched nothing. -/
structure LeftAlone (answer : (e : Effect) → σ → e.Answer × σ) (object : σ → Store.Snapshot)
    (call : Work (Except ActuatorError α)) (t : σ) (o : Obstacle) (e : ActuatorError) : Prop where
  /-- It ends with the error, and all records are as they were. -/
  ends : ∃ t', call.run answer t = (some (.error e), t') ∧ (object t').entries = (object t).entries
  /-- Nothing was asked of the control plane. -/
  plane : ∀ event ∈ asked answer call t, ∀ effect, event.1 ≠ .plane effect
  /-- Nothing was to be written. -/
  unwritten : ∀ event ∈ asked answer call t, ∀ entries expected,
    event.1 ≠ .store (.write entries expected)
  /-- Nothing was to be published. -/
  silent : Silent (asked answer call t)
  /-- If the obstacle was met before, nobody has tried to connect. -/
  offline : o.isOffline = true → ∀ event ∈ asked answer call t, ∀ settings,
    event.1 ≠ .connect settings

/-! ### Looking and connecting -/

/-- Loading a state is one look. -/
theorem run_loadState_eq (answer : (e : Effect) → σ → e.Answer × σ) (ns : String) (t : σ) :
    (loadState ns).run answer t =
    (some ((seen answer ns t).mapError .store), (answer (.store .read) t).2) := by
  rw [loadState_eq]
  rfl

theorem connect_of_error (h : r.connectorSettings region s.config.apiRetries = .error e) :
    connect s r region = .done (.error e) := by
  rw [connect, h]

/-- Connecting is one attempt. -/
theorem run_connect_eq (answer : (e : Effect) → σ → e.Answer × σ)
    (h : r.connectorSettings region s.config.apiRetries = .ok settings) (t : σ) :
    (connect s r region).run answer t =
      (some ((answer (.connect settings) t).1.mapError .connect),
        (answer (.connect settings) t).2) := by
  rw [connect, h]
  rfl

theorem looks_loadState (ns : String) (t : σ) :
    ∀ event ∈ asked answer (loadState ns) t, event.1 = .store .read := by
  rw [asked_loadState]
  exact fun event he => congrArg Sigma.fst (List.mem_singleton.mp he)

/-- A call that has failed, and has only looked at the object and tried to connect. -/
theorem leftAlone_of_looks (hkeeps : Keeps answer object) {call : Work (Except ActuatorError α)}
    {o : Obstacle} (hrun : call.run answer t = (some (.error e), t'))
    (hlooks : ∀ event ∈ asked answer call t, event.1 = .store .read ∨
      o.isOffline = false ∧ ∃ settings, event.1 = .connect settings) :
    LeftAlone answer object call t o e := by
  have hnothing : ∀ event ∈ asked answer call t, ∀ effect : Effect, effect ≠ .store .read →
      (∀ settings, effect ≠ .connect settings) → event.1 ≠ effect := by
    rintro event he effect hnoread hnoconnect rfl
    rcases hlooks event he with hread | ⟨-, settings, hconnect⟩
    · exact hnoread hread
    · exact hnoconnect settings hconnect
  exact
    { ends := ⟨t', hrun, hkeeps.looked hrun fun event he => (hlooks event he).imp_right And.right⟩
      plane := fun event he effect => hnothing event he _ nofun nofun
      unwritten := fun event he entries expected => hnothing event he _ nofun nofun
      silent := fun event he ns status => hnothing event he _ nofun nofun
      offline := fun hoffline event he settings h => by
        rcases hlooks event he with hread | ⟨honline, -⟩
        · cases h.symm.trans hread
        · cases hoffline.symm.trans honline }

/-! ### What follows a look and a connection -/

/-- A reconciliation whose connection has failed. -/
theorem reconcile_unconnected (hregion : s.region r = .ok region)
    (hzones : zonePlacements region = .ok zones)
    (hconnect : (connect s r region).run answer t = (some (.error e), t')) :
    (reconcile s r).run answer t = (some (.error e), t') ∧
      asked answer (reconcile s r) t = asked answer (connect s r region) t := by
  rw [reconcile_eq hregion hzones, run_bind_of_run hconnect, asked_bind hconnect]
  exact ⟨rfl, List.append_nil _⟩

/-- A reconciliation that is connected. -/
theorem reconcile_connected (hregion : s.region r = .ok region)
    (hzones : zonePlacements region = .ok zones) {g : Generation}
    (hconnect : (connect s r region).run answer t = (some (.ok g), t')) :
    (reconcile s r).run answer t = (reconcileAt s r region zones g).run answer t' ∧
      asked answer (reconcile s r) t = asked answer (connect s r region) t ++
        asked answer (reconcileAt s r region zones g) t' := by
  rw [reconcile_eq hregion hzones, run_bind_of_run hconnect, asked_bind hconnect]
  exact ⟨rfl, rfl⟩

/-- A reconciliation that cannot load a state. -/
theorem reconcileAt_unloaded (zones : ZonePlacements) (region : Region) (g : Generation)
    (hload : (loadState r.ns).run answer t = (some (.error e), t')) :
    (reconcileAt s r region zones g).run answer t = (some (.error e), t') ∧
      asked answer (reconcileAt s r region zones g) t = asked answer (loadState r.ns) t := by
  rw [reconcileAt_eq, run_bind_of_run hload, asked_bind hload]
  exact ⟨rfl, List.append_nil _⟩

/-- A deletion that cannot load a state. -/
theorem delete_unloaded (hload : (loadState r.ns).run answer t = (some (.error e), t')) :
    (delete s r).run answer t = (some (.error e), t') ∧
      asked answer (delete s r) t = asked answer (loadState r.ns) t := by
  rw [delete_eq, run_bind_of_run hload, asked_bind hload]
  exact ⟨rfl, List.append_nil _⟩

/-- What a deletion does behind a state in which creation has started. -/
def deleteFrom (s : Settings) (r : ClusterRequest) (state : State) :
    Work (Except ActuatorError Unit) :=
  match s.region r with
  | .error e => .done (.error e)
  | .ok region => (connect s r region).bind fun connected =>
    match connected with
    | .error e => .done (.error e)
    | .ok g => deleteAt s r state g

theorem delete_loaded {state : State} (hbegun : state.creationStarted = true)
    (hload : (loadState r.ns).run answer t = (some (.ok (some state)), t')) :
    (delete s r).run answer t = (deleteFrom s r state).run answer t' ∧
      asked answer (delete s r) t =
        asked answer (loadState r.ns) t ++ asked answer (deleteFrom s r state) t' := by
  rw [delete_eq, run_bind_of_run hload, asked_bind hload]
  dsimp only
  rw [if_pos hbegun]
  exact ⟨rfl, rfl⟩

/-- A deletion whose connection has failed. -/
theorem deleteFrom_unconnected (state : State) (hregion : s.region r = .ok region)
    (hconnect : (connect s r region).run answer t = (some (.error e), t')) :
    (deleteFrom s r state).run answer t = (some (.error e), t') ∧
      asked answer (deleteFrom s r state) t = asked answer (connect s r region) t := by
  rw [deleteFrom, hregion]
  dsimp only
  rw [run_bind_of_run hconnect, asked_bind hconnect]
  exact ⟨rfl, List.append_nil _⟩

/-- A deletion that is connected. -/
theorem deleteFrom_connected (state : State) (hregion : s.region r = .ok region) {g : Generation}
    (hconnect : (connect s r region).run answer t = (some (.ok g), t')) :
    (deleteFrom s r state).run answer t = (deleteAt s r state g).run answer t' := by
  rw [deleteFrom, hregion]
  dsimp only
  rw [run_bind_of_run hconnect]

/-! ### Calls that meet an obstacle -/

/-- A call that fails at once. -/
theorem leftAlone_of_done (hkeeps : Keeps answer object) {call : Work (Except ActuatorError α)}
    (h : call = .done (.error e)) (o : Obstacle) (t : σ) : LeftAlone answer object call t o e := by
  subst h
  exact leftAlone_of_looks hkeeps (run_done ..) fun event he => absurd he List.not_mem_nil

/-- **A reconciliation that meets an obstacle** fails and touches nothing. -/
theorem ReconcileBarred.leftAlone (hkeeps : Keeps answer object) {o : Obstacle}
    (h : ReconcileBarred answer s r t o e) : LeftAlone answer object (reconcile s r) t o e := by
  cases h with
  | region h => exact leftAlone_of_done hkeeps (by rw [reconcile, h]) _ t
  | placement hregion h =>
    refine leftAlone_of_done hkeeps ?_ _ t
    rw [reconcile, hregion]
    dsimp only
    rw [h]
  | settings hregion hzones h =>
    refine leftAlone_of_done hkeeps ?_ _ t
    rw [reconcile_eq hregion hzones, connect_of_error h, done_bind]
  | connection hregion hzones hsettings h =>
    have hconnect := run_connect_eq answer hsettings t
    rw [h] at hconnect
    obtain ⟨hrun, hasked⟩ := reconcile_unconnected hregion hzones hconnect
    refine leftAlone_of_looks hkeeps hrun fun event he => .inr ⟨rfl, ?_⟩
    exact trace_connect (trace_asked hconnect) event (hasked ▸ he)
  | @record region zones settings g e hregion hzones hsettings hconnected h =>
    have hconnect := run_connect_eq answer hsettings t
    have hload := run_loadState_eq answer r.ns (answer (.connect settings) t).2
    rw [hconnected] at hconnect
    rw [h] at hload
    obtain ⟨hrun, hasked⟩ := reconcile_connected hregion hzones hconnect
    obtain ⟨hrun', hasked'⟩ := reconcileAt_unloaded zones region g hload
    refine leftAlone_of_looks hkeeps (hrun.trans hrun') fun event he => ?_
    rw [hasked, hasked'] at he
    rcases List.mem_append.mp he with he | he
    · exact .inr ⟨rfl, trace_connect (trace_asked hconnect) event he⟩
    · exact .inl (looks_loadState _ _ event he)

/-- **A deletion that meets an obstacle** fails and touches nothing. -/
theorem DeleteBarred.leftAlone (hkeeps : Keeps answer object) {o : Obstacle}
    (h : DeleteBarred answer s r t o e) : LeftAlone answer object (delete s r) t o e := by
  have hload := run_loadState_eq answer r.ns t
  have hlooked : ∀ {state : State}, seen answer r.ns t = .ok (some state) →
      state.creationStarted = true → deleteFrom s r state = .done (.error e) →
      LeftAlone answer object (delete s r) t o e := by
    intro state hseen hbegun hdone
    rw [hseen] at hload
    obtain ⟨hrun, hasked⟩ := delete_loaded (s := s) hbegun hload
    rw [hdone] at hrun hasked
    refine leftAlone_of_looks hkeeps hrun fun event he => .inl ?_
    rw [hasked, asked_done, List.append_nil] at he
    exact looks_loadState _ _ event he
  cases h with
  | record h =>
    rw [h] at hload
    obtain ⟨hrun, hasked⟩ := delete_unloaded (s := s) hload
    exact leftAlone_of_looks hkeeps hrun fun event he =>
      .inl (looks_loadState _ _ event (hasked ▸ he))
  | region hseen hbegun h => exact hlooked hseen hbegun (by rw [deleteFrom, h])
  | settings hseen hbegun hregion h =>
    refine hlooked hseen hbegun ?_
    rw [deleteFrom, hregion]
    dsimp only
    rw [connect_of_error h, done_bind]
  | @connection state _ _ _ hseen hbegun hregion hsettings h =>
    rw [hseen] at hload
    have hconnect := run_connect_eq answer hsettings (answer (.store .read) t).2
    rw [h] at hconnect
    obtain ⟨hrun, hasked⟩ := delete_loaded (s := s) hbegun hload
    obtain ⟨hrun', hasked'⟩ := deleteFrom_unconnected state hregion hconnect
    refine leftAlone_of_looks hkeeps (hrun.trans hrun') fun event he => ?_
    rw [hasked, hasked'] at he
    rcases List.mem_append.mp he with he | he
    · exact .inl (looks_loadState _ _ event he)
    · exact .inr ⟨rfl, trace_connect (trace_asked hconnect) event he⟩

/-! ### Calls that begin -/

/-- A reconciliation meets an obstacle, or it is connected and sees a state. -/
theorem reconcile_barred_or (answer : (e : Effect) → σ → e.Answer × σ) (s : Settings)
    (r : ClusterRequest) (t : σ) : (∃ o e, ReconcileBarred answer s r t o e) ∨
      ∃ region zones settings g known, s.region r = .ok region ∧ zonePlacements region = .ok zones ∧
        r.connectorSettings region s.config.apiRetries = .ok settings ∧
        (answer (.connect settings) t).1 = .ok g ∧
        seen answer r.ns (answer (.connect settings) t).2 = .ok known := by
  cases hregion : s.region r with
  | error e => exact .inl ⟨_, e, .region hregion⟩
  | ok region =>
  cases hzones : zonePlacements region with
  | error e => exact .inl ⟨_, e, .placement hregion hzones⟩
  | ok zones =>
  cases hsettings : r.connectorSettings region s.config.apiRetries with
  | error e => exact .inl ⟨_, e, .settings hregion hzones hsettings⟩
  | ok settings =>
  cases hconnected : (answer (.connect settings) t).1 with
  | error e => exact .inl ⟨_, _, .connection hregion hzones hsettings hconnected⟩
  | ok g =>
  cases hseen : seen answer r.ns (answer (.connect settings) t).2 with
  | error e => exact .inl ⟨_, _, .record hregion hzones hsettings hconnected hseen⟩
  | ok known =>
  exact .inr ⟨region, zones, settings, g, known, rfl, hzones, hsettings, hconnected, hseen⟩

/-- A deletion meets an obstacle, or it sees that there is nothing to do, or it is connected. -/
theorem delete_barred_or (answer : (e : Effect) → σ → e.Answer × σ) (s : Settings)
    (r : ClusterRequest) (t : σ) : (∃ o e, DeleteBarred answer s r t o e) ∨
      ∃ known, seen answer r.ns t = .ok known ∧
        ((∀ state ∈ known, state.creationStarted = false) ∨
          ∃ state region settings g, known = some state ∧ state.creationStarted = true ∧
            s.region r = .ok region ∧
            r.connectorSettings region s.config.apiRetries = .ok settings ∧
            (answer (.connect settings) (answer (.store .read) t).2).1 = .ok g) := by
  cases hseen : seen answer r.ns t with
  | error e => exact .inl ⟨_, _, .record hseen⟩
  | ok known =>
  by_cases hnone : ∀ state ∈ known, state.creationStarted = false
  · exact .inr ⟨known, rfl, .inl hnone⟩
  obtain ⟨state, rfl, hbegun⟩ : ∃ state, known = some state ∧ state.creationStarted = true := by
    simpa using hnone
  cases hregion : s.region r with
  | error e => exact .inl ⟨_, e, .region hseen hbegun hregion⟩
  | ok region =>
  cases hsettings : r.connectorSettings region s.config.apiRetries with
  | error e => exact .inl ⟨_, e, .settings hseen hbegun hregion hsettings⟩
  | ok settings =>
  cases hconnected : (answer (.connect settings) (answer (.store .read) t).2).1 with
  | error e => exact .inl ⟨_, _, .connection hseen hbegun hregion hsettings hconnected⟩
  | ok g =>
  exact .inr ⟨_, rfl, .inr ⟨state, region, settings, g, rfl, hbegun, rfl, hsettings, hconnected⟩⟩

/-- **A reconciliation that meets no obstacle** runs its pipeline. -/
theorem reconcile_begins (h : ∀ o e, ¬ ReconcileBarred answer s r t o e) :
    ∃ region zones settings g known t',
      s.region r = .ok region ∧ zonePlacements region = .ok zones ∧
      r.connectorSettings region s.config.apiRetries = .ok settings ∧
      (answer (.connect settings) t).1 = .ok g ∧
      (reconcile s r).run answer t =
        ((runAndSave s r.ns (Pipeline.run g (s.context r) (r.spec region)) (started known)).bind
          (publishSaved s r zones)).run answer t' := by
  obtain ⟨region, zones, settings, g, known, hregion, hzones, hsettings, hconnected, hseen⟩ :=
    (reconcile_barred_or answer s r t).resolve_left fun ⟨o, e, hbarred⟩ => h o e hbarred
  have hconnect := run_connect_eq answer hsettings t
  have hload := run_loadState_eq answer r.ns (answer (.connect settings) t).2
  rw [hconnected] at hconnect
  rw [hseen] at hload
  have hrun := (reconcile_connected hregion hzones hconnect).1
  rw [reconcileAt_eq, run_bind_of_run hload] at hrun
  exact ⟨region, zones, settings, g, known, _, hregion, hzones, hsettings, hconnected, hrun⟩

/-- **A deletion that meets no obstacle** takes down what there is, or there is nothing to do. -/
theorem delete_begins (h : ∀ o e, ¬ DeleteBarred answer s r t o e) :
    (∃ t', (delete s r).run answer t = (some (.ok ()), t')) ∨
      ∃ region settings g state t',
        s.region r = .ok region ∧ r.connectorSettings region s.config.apiRetries = .ok settings ∧
        (answer (.connect settings) (answer (.store .read) t).2).1 = .ok g ∧
        (delete s r).run answer t = (deleteAt s r state g).run answer t' := by
  obtain ⟨known, hseen, hknown⟩ :=
    (delete_barred_or answer s r t).resolve_left fun ⟨o, e, hbarred⟩ => h o e hbarred
  have hload := run_loadState_eq answer r.ns t
  rw [hseen] at hload
  rcases hknown with
    hnone | ⟨state, region, settings, g, rfl, hbegun, hregion, hsettings, hconnected⟩
  · obtain ⟨behind, heq, hidle⟩ := delete_idle s r
    refine .inl ⟨(answer (.store .read) t).2, ?_⟩
    rw [heq, run_bind_of_run hload]
    exact congrArg (Program.run answer · _) (hidle known hnone)
  · have hconnect := run_connect_eq answer hsettings (answer (.store .read) t).2
    rw [hconnected] at hconnect
    have hrun := (delete_loaded (s := s) hbegun hload).1
    exact .inr ⟨region, settings, g, state, _, hregion, hsettings, hconnected,
      hrun.trans (deleteFrom_connected state hregion hconnect)⟩

/-! ### Records that cannot be read -/

/-- A look at an object with a record that cannot be read shows no state. -/
theorem seen_of_unreadable (hkeeps : Keeps answer object) {ns : String}
    {record : Store.StoredRecord} {e : Store.StoreError}
    (hrecord : (object t).entries.find? ns = some record)
    (hunreadable : Store.stateOf ns record = .error e) : ∃ e, seen answer ns t = .error e := by
  rw [seen]
  cases hread : (answer (.store .read) t).1 with
  | error e => exact ⟨e, rfl⟩
  | ok snapshot =>
    refine ⟨e, ?_⟩
    show Store.stateIn ns snapshot = .error e
    rw [Store.stateIn, hkeeps.store.told t snapshot hread, hrecord]
    dsimp only
    rw [hunreadable]
    rfl

/-- **Nobody gets past a record that cannot be read.** -/
theorem barred_of_unreadable (hkeeps : Keeps answer object) (s : Settings)
    {record : Store.StoredRecord} {e : Store.StoreError}
    (hrecord : (object t).entries.find? r.ns = some record)
    (hunreadable : Store.stateOf r.ns record = .error e) :
    (∃ o e, ReconcileBarred answer s r t o e) ∧ ∃ o e, DeleteBarred answer s r t o e := by
  constructor
  · refine (reconcile_barred_or answer s r t).resolve_right ?_
    rintro ⟨region, zones, settings, g, known, -, -, -, -, hseen⟩
    have hsame := hkeeps.others (.connect settings) (fun _ h => nomatch h) t
    obtain ⟨e, herror⟩ := seen_of_unreadable hkeeps (hsame ▸ hrecord) hunreadable
    exact nomatch hseen.symm.trans herror
  · obtain ⟨e, hseen⟩ := seen_of_unreadable hkeeps hrecord hunreadable
    exact ⟨_, _, .record hseen⟩

/-! ### All together -/

/-- What can be relied on where calls cannot begin. -/
structure Cautious (answer : (e : Effect) → σ → e.Answer × σ) (object : σ → Store.Snapshot)
    (s : Settings) (r : ClusterRequest) (t : σ) : Prop where
  /-- A reconciliation that meets an obstacle touches nothing. -/
  reconcile : ∀ o e, ReconcileBarred answer s r t o e →
    LeftAlone answer object (reconcile s r) t o e
  /-- Nor does a deletion. -/
  delete : ∀ o e, DeleteBarred answer s r t o e → LeftAlone answer object (delete s r) t o e
  /-- There are no other obstacles: without them, a reconciliation runs its pipeline. -/
  reconcileBegins : (∀ o e, ¬ ReconcileBarred answer s r t o e) →
    ∃ region zones settings g known t',
      s.region r = .ok region ∧ zonePlacements region = .ok zones ∧
      r.connectorSettings region s.config.apiRetries = .ok settings ∧
      (answer (.connect settings) t).1 = .ok g ∧
      (Actuator.reconcile s r).run answer t =
        ((runAndSave s r.ns (Pipeline.run g (s.context r) (r.spec region)) (started known)).bind
          (publishSaved s r zones)).run answer t'
  /-- And a deletion takes down what there is, or there is nothing to do. -/
  deleteBegins : (∀ o e, ¬ DeleteBarred answer s r t o e) →
    (∃ t', (Actuator.delete s r).run answer t = (some (.ok ()), t')) ∨
      ∃ region settings g state t',
        s.region r = .ok region ∧ r.connectorSettings region s.config.apiRetries = .ok settings ∧
        (answer (.connect settings) (answer (.store .read) t).2).1 = .ok g ∧
        (Actuator.delete s r).run answer t = (deleteAt s r state g).run answer t'
  /-- A record of another version makes both calls fail, and neither of them replaces it. -/
  foreign : ∀ record, (object t).entries.find? r.ns = some record →
    record.version ≠ Cluster.stateVersion →
    (∃ e t', (Actuator.reconcile s r).run answer t = (some (.error e), t') ∧
      (object t').entries.find? r.ns = some record) ∧
    ∃ e t', (Actuator.delete s r).run answer t = (some (.error e), t') ∧
      (object t').entries.find? r.ns = some record

/-- **Calls that fail early touch nothing.** The store is honest, and everything else may be as it
likes. -/
theorem calls_cautious (hkeeps : Keeps answer object) (s : Settings) (r : ClusterRequest) (t : σ) :
    Cautious answer object s r t where
  reconcile _ _ h := h.leftAlone hkeeps
  delete _ _ h := h.leftAlone hkeeps
  reconcileBegins := reconcile_begins
  deleteBegins := delete_begins
  foreign record hrecord hversion := by
    have hunreadable : Store.stateOf r.ns record =
        .error (.versionMismatch r.ns record.version Cluster.stateVersion) := by
      rw [Store.stateOf, if_neg hversion]
    obtain ⟨⟨o, e, hreconcile⟩, o', e', hdelete⟩ :=
      barred_of_unreadable hkeeps s hrecord hunreadable
    obtain ⟨t₁, hrun, hsame⟩ := (hreconcile.leftAlone hkeeps).ends
    obtain ⟨t₂, hrun', hsame'⟩ := (hdelete.leftAlone hkeeps).ends
    exact ⟨⟨e, t₁, hrun, hsame ▸ hrecord⟩, e', t₂, hrun', hsame' ▸ hrecord⟩

/-- A record that was written by a version that is not known here. -/
def foreignRecord : Store.StoredRecord := ⟨"another", ""⟩

/-- The surroundings of a cluster with that record. -/
def foreignStart : Testbed :=
  { typicalStart with
    memory.snapshot.entries := OrderedMap.empty.insert typicalRequest.ns foreignRecord }

/-- A record of another version is still there when both calls have failed. -/
theorem calls_cautious_foreign :
    Cautious Testbed.perform (fun t => t.memory.snapshot) typicalSettings typicalRequest
      foreignStart ∧
    (∃ e t', foreignStart.run (reconcile typicalSettings typicalRequest) = (some (.error e), t') ∧
      t'.memory.snapshot.entries.find? typicalRequest.ns = some foreignRecord) ∧
    ∃ e t', foreignStart.run (delete typicalSettings typicalRequest) = (some (.error e), t') ∧
      t'.memory.snapshot.entries.find? typicalRequest.ns = some foreignRecord := by
  have hcautious := calls_cautious keeps_testbed typicalSettings typicalRequest foreignStart
  have hrecord : foreignStart.memory.snapshot.entries.find? typicalRequest.ns =
      some foreignRecord := OrderedMap.find?_insert_self ..
  exact ⟨hcautious, hcautious.foreign foreignRecord hrecord (by decide)⟩

end Actuator

end ClusterNet
