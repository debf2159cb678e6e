import ClusterNet.Proofs.Actuator.Reconcile
import ClusterNet.Proofs.Pipeline.Naming

/-!
# The name of the segment, from request to request

The status that a reconciliation yields names the cluster's segment. The name comes with the state:
from the run, if it has declared the segment, and from the record otherwise. The record is older
than the segment if an earlier reconciliation has renamed the segment and could not save its state.
The next one for the same garden finds the segment as it should be, declares nothing, and passes the
old name on.

That is the only way in which the name goes wrong. As long as states are saved, the name that is
stored is that of the segment, whatever else fails and however often the garden is renamed.

## Main definitions

* `Actuator.Renaming` — what can happen while the garden of a cluster changes its name
* `Actuator.Reports` — what a reconciliation that succeeded says of the segment
* `Actuator.Aligned` — the invariant: what is stored refers to everything and knows the name
* `Actuator.Willing` — surroundings in which a request fails only in its run or in saving

## Main results

* `Actuator.reconcile_cases` — a reconciliation stops early, or it runs and saves
* `Actuator.reconcile_reports` — when the name in a status is that of the segment
* `Actuator.Willing.run_reconcile` — what a request comes to in willing surroundings
* `Actuator.reconcile_misnames` — a history after which the name is that of another garden
-/

namespace ClusterNet

namespace Actuator

open Cluster (InfraError State)
open Config (Region)
open ControlPlane (ConnectorSettings Generation Kind Method Segment)
open Pipeline (Declares Named called)
open Program

variable {s : Settings} {r : ClusterRequest} {region : Region} {known : Option State}
  {t t' : Testbed}

/-! ### A reconciliation -/

/-- Whether a segment was declared. -/
def DeclaresSegment (es : List Event) : Prop :=
  ∃ place o, Event.ofPlane (called (.patch .segment place o) (.ok ())) ∈ es

theorem declaresSegment_append {es es' : List Event} :
    DeclaresSegment (es ++ es') ↔ DeclaresSegment es ∨ DeclaresSegment es' := by
  simp only [DeclaresSegment, List.mem_append, exists_or]

/-- What was declared at the control plane was asked of the control plane. -/
theorem declaresSegment_ofPlane {es : List Pipeline.Event} :
    DeclaresSegment (es.map Event.ofPlane) ↔ Declares es :=
  exists_congr fun _ => exists_congr fun _ =>
    ⟨fun h => (List.mem_map_of_injective Event.ofPlane_injective).mp h, List.mem_map_of_mem⟩

/-- Nothing is declared where nothing is asked of the control plane but pauses. -/
theorem not_declaresSegment {es : List Event}
    (h : ∀ e ∈ es, ∀ request, e.1 ≠ .plane (.call request)) : ¬ DeclaresSegment es := by
  rintro ⟨place, o, hmem⟩
  exact h _ hmem _ rfl

/-- A segment is declared by a reconciliation exactly if its run declares one. -/
theorem declaresSegment_reconcile {zones : ZonePlacements} {g : Generation}
    {t₁ t₂ t₃ t₄ : Testbed} {ran : Except InfraError (List Pipeline.Outcome)} {left : State}
    (hregion : s.region r = .ok region) (hzones : zonePlacements region = .ok zones)
    (hconnect : t.run (connect s r region) = (some (.ok g), t₁))
    (hload : t₁.run (loadState r.ns) = (some (.ok known), t₂))
    (hrun : t₂.run (Work.onPlane (Pipeline.run g (s.context r) (r.spec region) (started known))) =
      (some (ran, left), t₃))
    {saved : Except Store.StoreError Unit}
    (hsave : t₃.run (Work.onStore (Store.save r.ns left s.storeAttempts)) = (some saved, t₄)) :
    ∃ es, (Pipeline.run g (s.context r) (r.spec region) (started known)).Trace es (ran, left) ∧
      (DeclaresSegment (asked Testbed.perform (reconcile s r) t) ↔ Declares es) := by
  obtain ⟨es, htrace, hes⟩ := trace_onPlane_iff.mp (trace_asked hrun)
  refine ⟨es, htrace, ?_⟩
  have hfront : ¬ DeclaresSegment (asked Testbed.perform (connect s r region) t) := by
    refine not_declaresSegment fun e he request heq => ?_
    obtain ⟨settings, hsettings⟩ := trace_connect (trace_asked hconnect) e he
    cases hsettings.symm.trans heq
  have hloading : ¬ DeclaresSegment (asked Testbed.perform (loadState r.ns) t₁) := by
    rw [asked_loadState]
    refine not_declaresSegment fun e he request heq => ?_
    rw [List.mem_singleton.mp he] at heq
    cases heq
  have hsaving : ¬ DeclaresSegment (asked Testbed.perform
      (Work.onStore (Store.save r.ns left s.storeAttempts)) t₃) := by
    obtain ⟨storeEvents, -, hstore⟩ := trace_onStore_iff.mp (trace_asked hsave)
    rw [hstore]
    refine not_declaresSegment fun e he request heq => ?_
    obtain ⟨e', -, rfl⟩ := List.mem_map.mp he
    cases heq
  have hbehind : ¬ DeclaresSegment (asked Testbed.perform
      (publishSaved s r zones (afterSaving ran saved, left)) t₄) := by
    obtain ⟨result, t', -, hpublished⟩ :
        ∃ result t', _ ∧ PublishedIf Testbed.perform r _ _ t₄ _ result t' :=
      publishSaved_run s r zones (afterSaving ran saved) left t₄
    refine not_declaresSegment fun e he request heq => ?_
    have hcalm := hpublished.calm e he
    rw [heq] at hcalm
    exact hcalm
  rw [(reconcile_stages hregion hzones hconnect hload hrun hsave).2]
  simp only [declaresSegment_append, hes, declaresSegment_ofPlane, hfront, hloading, hsaving,
    hbehind, false_or, or_false]

/-- What a reconciliation has done that came as far as the pipeline: a run from the state that is
stored, at a control plane as it was, and an attempt to save what the run has left. -/
structure Ran (s : Settings) (r : ClusterRequest) (region : Region) (t t' : Testbed)
    (known : Option State) (ran : Except InfraError (List Pipeline.Outcome)) (left : State)
    (saved : Except Store.StoreError Unit) : Prop where
  /-- The state was loaded. -/
  load : Store.stateIn r.ns t.memory.snapshot = .ok known
  /-- The run has left the control plane behind. -/
  run : ∃ b b' : ControlPlane.Testbed, b.plane = t.bed.plane ∧ b.queued = t.bed.queued ∧
    b'.plane = t'.bed.plane ∧ b'.queued = t'.bed.queued ∧
    b.run (Pipeline.run t.generation (s.context r) (r.spec region) (started known)) =
      (some (ran, left), b')
  /-- A segment was declared by the run or not at all. -/
  declares : ∃ es, (Pipeline.run t.generation (s.context r) (r.spec region)
      (started known)).Trace es (ran, left) ∧
    (DeclaresSegment (asked Testbed.perform (reconcile s r) t) ↔ Declares es)
  /-- The attempt to save what the run has left. -/
  save : (Store.save r.ns left s.storeAttempts).run Store.Memory.answer t.memory =
    (some saved, t'.memory)

/-- Publishing behind a run changes nothing that matters. It yields what was saved if nothing has
failed. -/
theorem publishSaved_cases {zones : ZonePlacements}
    {ran : Except InfraError (List Pipeline.Outcome)} {saved : Except Store.StoreError Unit}
    {left : State} {result : Except ActuatorError Status}
    (h : t.run (publishSaved s r zones (afterSaving ran saved, left)) = (some result, t')) :
    Testbed.Calm t t' ∧ ∀ status, result = .ok status →
      (∃ outcomes, ran = .ok outcomes) ∧ saved = .ok () ∧ status.state = left := by
  cases houtcome : afterSaving ran saved with
  | error e =>
    rw [houtcome] at h
    obtain ⟨rfl, rfl⟩ := run_done_eq_some_iff.mp h
    exact ⟨.refl _, fun status hok => by cases hok⟩
  | ok outcomes =>
    rw [houtcome, publishSaved] at h
    obtain ⟨hran, hsaved⟩ := afterSaving_eq_ok_iff.mp houtcome
    obtain ⟨-, -, last, -, -, -, hresult⟩ := announced (trace_asked h)
    refine ⟨calm_of_announce h, fun status hok => ⟨⟨outcomes, hran⟩, hsaved, ?_⟩⟩
    cases last with
    | error e => cases hresult.symm.trans hok
    | ok done => rw [← Except.ok.inj (hresult.symm.trans hok)]

/-- A reconciliation that has loaded a state runs and saves. -/
theorem ran_of_loaded {zones : ZonePlacements} {t₁ : Testbed}
    (hregion : s.region r = .ok region) (hzones : zonePlacements region = .ok zones)
    (hconnect : t.run (connect s r region) = (some (.ok t.generation), t₁))
    (hcalm : Testbed.Calm t t₁) (hload : t₁.run (loadState r.ns) = (some (.ok known), t₁))
    (hstate : Store.stateIn r.ns t₁.memory.snapshot = .ok known)
    {result : Except ActuatorError Status}
    (h : t₁.run ((runAndSave s r.ns (Pipeline.run t.generation (s.context r) (r.spec region))
      (started known)).bind (publishSaved s r zones)) = (some result, t')) :
    ∃ ran left saved, Ran s r region t t' known ran left saved ∧
      ∀ status, result = .ok status →
        (∃ outcomes, ran = .ok outcomes) ∧ saved = .ok () ∧ status.state = left := by
  rw [runAndSave_eq] at h
  obtain ⟨⟨ran, left⟩, t₂, hrun, h⟩ := run_bind_eq_some_iff.mp h
  obtain ⟨saved, t₃, hsave, hpublish⟩ := run_bind_eq_some_iff.mp h
  obtain ⟨hbehind, hstatus⟩ := publishSaved_cases hpublish
  have hdeclares := declaresSegment_reconcile hregion hzones hconnect hload hrun hsave
  rw [← Testbed.run, Testbed.run_onPlane] at hrun
  obtain ⟨hran, rfl⟩ := Prod.mk.inj hrun
  rw [← Testbed.run, Testbed.run_onStore] at hsave
  obtain ⟨hsaved, rfl⟩ := Prod.mk.inj hsave
  refine ⟨ran, left, saved, ⟨?_, ?_, hdeclares, ?_⟩, hstatus⟩
  · rw [← hcalm.memory]
    exact hstate
  · exact ⟨t₁.bed, _, hcalm.plane, hcalm.queued, hbehind.plane.symm, hbehind.queued.symm,
      Prod.ext hran rfl⟩
  · rw [hbehind.memory, ← hcalm.memory]
    exact Prod.ext hsaved rfl

/-- A reconciliation stops before it has changed anything, or it runs and saves. It yields what was
saved if nothing has failed. -/
theorem reconcile_cases {result : Except ActuatorError Status}
    (hrun : t.run (reconcile s r) = (some result, t')) :
    (Testbed.Calm t t' ∧ ∃ e, result = .error e) ∨
      ∃ region known ran left saved, s.region r = .ok region ∧
        Ran s r region t t' known ran left saved ∧
        ∀ status, result = .ok status →
          (∃ outcomes, ran = .ok outcomes) ∧ saved = .ok () ∧ status.state = left := by
  cases hregion : s.region r with
  | error e =>
    rw [reconcile, hregion] at hrun
    obtain ⟨rfl, rfl⟩ := run_done_eq_some_iff.mp hrun
    exact .inl ⟨.refl _, _, rfl⟩
  | ok region =>
    cases hzones : zonePlacements region with
    | error e =>
      rw [reconcile, hregion] at hrun
      dsimp only at hrun
      rw [hzones] at hrun
      obtain ⟨rfl, rfl⟩ := run_done_eq_some_iff.mp hrun
      exact .inl ⟨.refl _, _, rfl⟩
    | ok zones =>
      rw [reconcile_eq hregion hzones] at hrun
      obtain ⟨connected, t₁, hconnect, h₁⟩ := run_bind_eq_some_iff.mp hrun
      obtain ⟨hcalm, ⟨e, rfl, -⟩ | ⟨rfl, -⟩⟩ := connect_cases hregion hconnect
      · obtain ⟨rfl, rfl⟩ := run_done_eq_some_iff.mp h₁
        exact .inl ⟨hcalm, _, rfl⟩
      · dsimp only at h₁
        rw [reconcileAt_eq] at h₁
        obtain ⟨loaded, t₂, hload, h₂⟩ := run_bind_eq_some_iff.mp h₁
        have hloaded := run_loadState r.ns t₁
        rw [Testbed.run, hload] at hloaded
        obtain ⟨hknown, rfl⟩ := Prod.mk.inj hloaded
        cases hstate : Store.stateIn r.ns t₂.memory.snapshot with
        | error e =>
          rw [Option.some.inj hknown, hstate] at h₂
          obtain ⟨rfl, rfl⟩ := run_done_eq_some_iff.mp h₂
          exact .inl ⟨hcalm, _, rfl⟩
        | ok known =>
          rw [Option.some.inj hknown, hstate] at h₂ hload
          obtain ⟨ran, left, saved, hran, hstatus⟩ :=
            ran_of_loaded hregion hzones hconnect hcalm hload hstate h₂
          exact .inr ⟨region, known, ran, left, saved, rfl, hran, hstatus⟩

/-! ### What a status says -/

/-- What a reconciliation that succeeded says of the segment. -/
structure Reports (s : Settings) (r : ClusterRequest) (region : Region) (t t' : Testbed)
    (status : Status) : Prop where
  /-- The state that it yields is stored. -/
  stored : Store.stateIn r.ns t'.memory.snapshot = .ok (some status.state)
  /-- The segment that the state refers to is there, with the name that was asked for. -/
  segment : ∃ parent ref, ∃ o : Segment,
    Pipeline.parentOf (.policy .segment) status.state = some parent ∧
    status.state.reference .segment = some ref ∧
    t'.bed.plane.inventory.find? (.policy .segment) ⟨parent, ref.id⟩ = some o ∧
    o.displayName = some (r.spec region).segmentName
  /-- The state has that name if the segment was declared, or if the record had it before. -/
  named : status.state.segmentName = some (r.spec region).segmentName ↔
    DeclaresSegment (asked Testbed.perform (reconcile s r) t) ∨
      ∃ state, Store.stateIn r.ns t.memory.snapshot = .ok (some state) ∧
        state.segmentName = some (r.spec region).segmentName

/-- A state that was never saved has no name for the segment. -/
theorem segmentName_started_eq_some_iff {name : String} :
    (started known).segmentName = some name ↔
      ∃ state, known = some state ∧ state.segmentName = some name := by
  cases known with
  | none => simp [started, State.fresh]
  | some state => simp [started]

/-- Behind a run that succeeded and was saved, the segment has its name and the state may have. -/
theorem Ran.reports {outcomes : List Pipeline.Outcome} {status : Status}
    (h : Ran s r region t t' known (.ok outcomes) status.state (.ok ()))
    (hqueued : t.bed.queued = []) : Reports s r region t t' status where
  stored := Store.stateIn_of_save h.save
  segment := by
    obtain ⟨b, b', -, hsame, hplane', -, hrun⟩ := h.run
    obtain ⟨parent, ref, o, hparent, href, hfind, hname⟩ :=
      Pipeline.displayName_of_run (hsame.trans hqueued) hrun
    rw [hplane'] at hfind
    exact ⟨parent, ref, o, hparent, href, hfind, hname⟩
  named := by
    obtain ⟨es, htrace, hdeclares⟩ := h.declares
    have hname := (Pipeline.run_renames htrace).eq_some_iff
    rw [hname, hdeclares, h.load, segmentName_started_eq_some_iff]
    simp

/-- A reconciliation that succeeded reports, whatever has happened before. -/
theorem reports_of_reconcile {status : Status} (hqueued : t.bed.queued = [])
    (hrun : t.run (reconcile s r) = (some (.ok status), t')) :
    ∃ region, s.region r = .ok region ∧ Reports s r region t t' status := by
  rcases reconcile_cases hrun with ⟨-, e, he⟩ | ⟨region, known, ran, left, saved, hregion, hran, h⟩
  · cases he
  · obtain ⟨⟨outcomes, rfl⟩, rfl, rfl⟩ := h status rfl
    exact ⟨region, hregion, hran.reports hqueued⟩

/-! ### Names that are in step -/

/-- What is stored refers to everything and knows the name that every segment has. -/
structure Aligned (s : Settings) (r : ClusterRequest) (known : Option State) (t : Testbed) :
    Prop where
  /-- What is stored refers to everything. -/
  tended : Tended s r known t
  /-- It knows the name. -/
  named : Named (t.bed.plane, known.getD .fresh)

theorem aligned_renamed_iff (gardenName workersNetwork : String) :
    Aligned s { r with gardenName, workersNetwork } known t ↔ Aligned s r known t :=
  ⟨fun ⟨h, hnamed⟩ => ⟨(tended_renamed_iff gardenName workersNetwork).mp h, hnamed⟩,
    fun ⟨h, hnamed⟩ => ⟨(tended_renamed_iff gardenName workersNetwork).mpr h, hnamed⟩⟩

/-- While a state can be saved, what a run has left behind is what is known from there on. -/
theorem Ran.aligned {ran : Except InfraError (List Pipeline.Outcome)}
    {left : State} {saved : Except Store.StoreError Unit} {known' : Option State}
    (h : Ran s r region t t' known ran left saved) (hregion : s.region r = .ok region)
    (ht : Aligned s r known t) (htended : Tended s r known' t') :
    Aligned s r known' t' := by
  obtain ⟨b, b', hplane, hsame, hplane', -, hrun⟩ := h.run
  have hcustody := ht.tended.custody_started hregion
  have hbefore : Named (b.plane, started known) := by
    rw [hplane]
    exact ht.named
  rw [← hplane] at hcustody
  have hbehind : Named (b'.plane, left) :=
    Pipeline.run_named (hsame.trans ht.tended.queued) hrun hcustody hbefore
  obtain ⟨m, hsaved, -⟩ := Store.run_modify r.ns (·.insert r.ns (Store.recordOf left))
    ht.tended.conflicts
  obtain ⟨hok, -⟩ := Prod.mk.inj (h.save.symm.trans hsaved)
  have hsave := h.save
  rw [Option.some.inj hok] at hsave
  obtain rfl : known' = some left :=
    Except.ok.inj (htended.stateIn.symm.trans (Store.stateIn_of_save hsave))
  rw [hplane'] at hbehind
  exact ⟨htended, hbehind⟩

/-- **Reconciling keeps the names in step**, whatever comes of it. -/
theorem Aligned.reconcile (h : Aligned s r known t) {result : Except ActuatorError Status}
    (hrun : t.run (Actuator.reconcile s r) = (some result, t')) :
    ∃ known', Aligned s r known' t' := by
  obtain ⟨known', htended⟩ := h.tended.reconcile hrun
  rcases reconcile_cases hrun with
    ⟨hcalm, -⟩ | ⟨region, loaded, ran, left, saved, hregion, hran, -⟩
  · refine ⟨known, h.tended.calm hcalm, ?_⟩
    rw [hcalm.plane]
    exact h.named
  · obtain rfl : loaded = known := Except.ok.inj (hran.load.symm.trans h.tended.stateIn)
    exact ⟨known', hran.aligned hregion h htended⟩

/-! ### Surroundings in which little can fail -/

/-- Surroundings with a given control plane and a given shared object, in which nothing else fails:
every connection is made, and the publisher takes everything. -/
structure Willing (bed : ControlPlane.Testbed) (g : Generation) (memory : Store.Memory)
    (t : Testbed) : Prop where
  /-- The control plane. -/
  bed : t.bed = bed
  /-- Its generation. -/
  generation : t.generation = g
  /-- The shared object. -/
  memory : t.memory = memory
  /-- Every connection is made. -/
  connectError : t.connectError = none
  /-- The publisher takes everything. -/
  script : t.script = []

variable {bed : ControlPlane.Testbed} {g : Generation} {memory : Store.Memory}

theorem Willing.run_connect (h : Willing bed g memory t) {settings : ConnectorSettings}
    (hsettings : r.connectorSettings region s.config.apiRetries = .ok settings) :
    ∃ t', t.run (connect s r region) = (some (.ok g), t') ∧ Willing bed g memory t' := by
  obtain ⟨bed, generation, memory, connectError, script, connects, attempts, published⟩ := t
  obtain ⟨rfl, rfl, rfl, rfl, rfl⟩ := h
  rw [connect, hsettings]
  exact ⟨_, rfl, rfl, rfl, rfl, rfl, rfl⟩

theorem Willing.run_announce (h : Willing bed g memory t) (s : Settings) (ns : String)
    (status : Status) :
    ∃ t', t.run (announce s ns status) = (some (.ok status), t') ∧ Willing bed g memory t' := by
  obtain ⟨bed, generation, memory, connectError, script, connects, attempts, published⟩ := t
  obtain ⟨rfl, rfl, rfl, rfl, rfl⟩ := h
  rw [announce_eq, publish, RetryPolicy.attempt]
  -- the first attempt is the last one, whether or not there could be another
  cases s.publishRetry.attempts - 1 <;> exact ⟨_, rfl, rfl, rfl, rfl, rfl, rfl⟩

/-- What a reconciliation comes to is decided by its run and by what comes of saving its state. -/
theorem Willing.run_reconcile (h : Willing bed g memory t) {settings : ConnectorSettings}
    {zones : ZonePlacements} (hregion : s.region r = .ok region)
    (hzones : zonePlacements region = .ok zones)
    (hsettings : r.connectorSettings region s.config.apiRetries = .ok settings)
    (hload : Store.stateIn r.ns memory.snapshot = .ok known)
    {ran : Except InfraError (List Pipeline.Outcome)} {left : State}
    {bed' : ControlPlane.Testbed}
    (hrun : bed.run (Pipeline.run g (s.context r) (r.spec region) (started known)) =
      (some (ran, left), bed'))
    {saved : Except Store.StoreError Unit} {memory' : Store.Memory}
    (hsave : (Store.save r.ns left s.storeAttempts).run Store.Memory.answer memory =
      (some saved, memory')) :
    ∃ t', t.run (reconcile s r) =
        (some ((afterSaving ran saved).map fun _ => ⟨left, zones⟩), t') ∧
      Willing bed' g memory' t' := by
  obtain ⟨t₁, hconnect, hreached⟩ := h.run_connect hsettings
  have hloaded : t₁.run (loadState r.ns) = (some (.ok known), t₁) := by
    rw [run_loadState, hreached.memory, hload]
    rfl
  have hran : t₁.run (Work.onPlane (Pipeline.run g (s.context r) (r.spec region)
      (started known))) = (some (ran, left), { t₁ with bed := bed' }) := by
    rw [Testbed.run_onPlane, hreached.bed, hrun]
  have hsaved : ({ t₁ with bed := bed' } : Testbed).run (Work.onStore (Store.save r.ns left
      s.storeAttempts)) = (some saved, { t₁ with bed := bed', memory := memory' }) := by
    rw [Testbed.run_onStore]
    dsimp only
    rw [hreached.memory, hsave]
  have hbehind : Willing bed' g memory' { t₁ with bed := bed', memory := memory' } :=
    ⟨rfl, hreached.generation, rfl, hreached.connectError, hreached.script⟩
  rw [Testbed.run, (reconcile_stages hregion hzones hconnect hloaded hran hsaved).1]
  cases afterSaving ran saved with
  | error e => exact ⟨_, rfl, hbehind⟩
  | ok outcomes => exact hbehind.run_announce s r.ns ⟨left, zones⟩

/-- Conflicts that are due in the shared object. -/
theorem Willing.conflicts (h : Willing bed g memory t) (pendingConflicts : Nat) :
    Willing bed g { memory with pendingConflicts }
      { t with memory := { t.memory with pendingConflicts } } :=
  ⟨h.bed, h.generation, by rw [h.memory], h.connectError, h.script⟩

/-! ### Histories -/

/-- What can happen while the garden of a cluster changes its name. The `allowed` numbers of
conflicts may be due in the shared object. -/
inductive Renaming (s : Settings) (r : ClusterRequest) (allowed : Nat → Prop) :
    Testbed → Testbed → Prop
  /-- The cluster's infrastructure is created or repaired for a garden of some name, as far as it
  goes. -/
  | reconcile {t t' : Testbed} {result : Except ActuatorError Status}
    (gardenName workersNetwork : String)
    (h : t.run (Actuator.reconcile s { r with gardenName, workersNetwork }) = (some result, t')) :
    Renaming s r allowed t t'
  /-- A method of the control plane is going to fail. -/
  | failNext (t : Testbed) (m : Method) : Renaming s r allowed t (t.changed (·.failNext m))
  /-- The next writes of the shared object meet conflicts. -/
  | conflicts (t : Testbed) (pendingConflicts : Nat) (h : allowed pendingConflicts) :
    Renaming s r allowed t { t with memory := { t.memory with pendingConflicts } }
  /-- The publisher is going to answer what it is told. -/
  | publisher (t : Testbed) (script : List PublisherReply) :
    Renaming s r allowed t { t with script }

variable {allowed : Nat → Prop}

/-- The control plane gives its own answers throughout. -/
theorem Renaming.queued (h : Renaming s r allowed t t') (hqueued : t.bed.queued = []) :
    t'.bed.queued = [] := by
  cases h with
  | reconcile gardenName workersNetwork hrun =>
    rcases reconcile_cases hrun with ⟨hcalm, -⟩ | ⟨region, known, ran, left, saved, -, hran, -⟩
    · exact hcalm.queued.trans hqueued
    · obtain ⟨b, b', -, hsame, -, hsame', hplane⟩ := hran.run
      obtain ⟨es, -, hreplies⟩ := run_eq_some_iff.mp hplane
      exact hsame'.symm.trans
        (ControlPlane.Testbed.replies_same hreplies (hsame.trans hqueued)).1
  | failNext | conflicts | publisher => exact hqueued

theorem queued_of_renamings (h : Relation.ReflTransGen (Renaming s r allowed) t t')
    (hqueued : t.bed.queued = []) : t'.bed.queued = [] := by
  induction h with
  | refl => exact hqueued
  | tail _ hstep ih => exact hstep.queued ih

/-- **Whatever happens keeps the names in step**, as long as states can be saved. -/
theorem Aligned.step (h : Aligned s r known t)
    (hallowed : ∀ n, allowed n → n < s.storeAttempts) (hstep : Renaming s r allowed t t') :
    ∃ known', Aligned s r known' t' := by
  cases hstep with
  | reconcile gardenName workersNetwork hrun =>
    obtain ⟨known', hkept⟩ :=
      ((aligned_renamed_iff gardenName workersNetwork).mpr h).reconcile hrun
    exact ⟨known', (aligned_renamed_iff gardenName workersNetwork).mp hkept⟩
  | failNext m =>
    exact ⟨known, h.tended.changed (fun _ _ => id) (fun _ _ _ _ => id) ⟨rfl, rfl, rfl⟩ rfl,
      h.named⟩
  | conflicts n hn =>
    obtain ⟨⟨hstored, hcustody, hcoherent, hfits, hbegun, hqueued, -, hbalancers⟩, hnamed⟩ := h
    exact ⟨known, ⟨hstored, hcustody, hcoherent, hfits, hbegun, hqueued, hallowed n hn,
      hbalancers⟩, hnamed⟩
  | publisher script =>
    exact ⟨known, h.tended.calm ⟨rfl, rfl, rfl, rfl, rfl⟩, h.named⟩

/-- **So does any history.** -/
theorem Aligned.steps (h : Aligned s r known t)
    (hallowed : ∀ n, allowed n → n < s.storeAttempts)
    (hsteps : Relation.ReflTransGen (Renaming s r allowed) t t') :
    ∃ known', Aligned s r known' t' := by
  induction hsteps with
  | refl => exact ⟨known, h⟩
  | tail _ hstep ih =>
    obtain ⟨known', hknown⟩ := ih
    exact hknown.step hallowed hstep

/-- Where there is no segment yet, there is none with another name. -/
theorem Pristine.aligned (h : Pristine s r t) : Aligned s r none t where
  tended := h.tended
  named place o hfind := by
    change t.bed.plane.inventory.find? (.policy .segment) place = some o at hfind
    rw [h.empty] at hfind
    cases hfind

/-- If the names are in step behind a reconciliation, the name that it reports is right. -/
theorem Aligned.segmentName (h : Aligned s r known t') {status : Status}
    (hreports : Reports s r region t t' status) :
    status.state.segmentName = some (r.spec region).segmentName := by
  obtain ⟨parent, ref, o, -, -, hfind, hname⟩ := hreports.segment
  obtain rfl : known = some status.state :=
    Except.ok.inj (h.tended.stateIn.symm.trans hreports.stored)
  have hknown : o.displayName = status.state.segmentName := h.named _ o hfind
  rw [← hknown, hname]

/-- **When the name in a status is that of the segment.** Whatever has happened before, a
reconciliation that succeeds stores the state that it yields, and the segment of this state has the
name that was asked for. The state has it too if the reconciliation has declared the segment or the
record had the name before. As long as states can be saved, it always has. -/
theorem reconcile_reports {start : Testbed} (hstart : Pristine s r start)
    (h : Relation.ReflTransGen (Renaming s r allowed) start t) (gardenName workersNetwork : String)
    {status : Status}
    (hrun : t.run (reconcile s { r with gardenName, workersNetwork }) = (some (.ok status), t')) :
    ∃ region, s.region r = .ok region ∧
      Reports s { r with gardenName, workersNetwork } region t t' status ∧
      ((∀ n, allowed n → n < s.storeAttempts) →
        status.state.segmentName = some (({ r with gardenName, workersNetwork } :
          ClusterRequest).spec region).segmentName) := by
  obtain ⟨region, hregion, hreports⟩ :=
    reports_of_reconcile (queued_of_renamings h hstart.queued) hrun
  refine ⟨region, hregion, hreports, fun hallowed => ?_⟩
  obtain ⟨known, haligned⟩ := hstart.aligned.steps hallowed
    (h.tail (.reconcile gardenName workersNetwork hrun))
  exact ((aligned_renamed_iff gardenName workersNetwork).mpr haligned).segmentName hreports

/-! ### A garden that is renamed -/

/-- The typical cluster in a garden of a given name. -/
def inGarden (gardenName : String) : ClusterRequest := { typicalRequest with gardenName }

/-- The run of a request for that garden. -/
def runIn (gardenName : String) (known : Option State) (b : ControlPlane.Testbed) :
    Option (Pipeline.Left (List Pipeline.Outcome)) × ControlPlane.Testbed :=
  b.run (Pipeline.run .v2 (typicalSettings.context (inGarden gardenName))
    ((inGarden gardenName).spec typicalRegion) (started known))

/-- What a request for that garden comes to if its run succeeds. -/
theorem Willing.run_inGarden {gardenName : String} (h : Willing bed .v2 memory t)
    (hload : Store.stateIn typicalRequest.ns memory.snapshot = .ok known)
    {outcomes : List Pipeline.Outcome} {left : State} {bed' : ControlPlane.Testbed}
    (hrun : runIn gardenName known bed = (some (.ok outcomes, left), bed'))
    {saved : Except Store.StoreError Unit} {memory' : Store.Memory}
    (hsave : (Store.save typicalRequest.ns left typicalSettings.storeAttempts).run
      Store.Memory.answer memory = (some saved, memory')) :
    ∃ result t', t.run (reconcile typicalSettings (inGarden gardenName)) = (some result, t') ∧
      (saved = .ok () → result = .ok ⟨left, .empty⟩) ∧ Willing bed' .v2 memory' t' := by
  have hregion : typicalSettings.region (inGarden gardenName) = .ok typicalRegion := rfl
  have hzones : zonePlacements typicalRegion = .ok .empty := rfl
  obtain ⟨t', hreconcile, hwilling⟩ :=
    h.run_reconcile hregion hzones rfl hload hrun hsave
  refine ⟨_, t', hreconcile, ?_, hwilling⟩
  rintro rfl
  rfl

/-- The run that sets everything up. -/
def plantingRun : Option (Pipeline.Left (List Pipeline.Outcome)) × ControlPlane.Testbed :=
  runIn "garden" none typicalStart.bed

/-- What is known after it. -/
def planted : State := plantingRun.1.elim .fresh Prod.snd

/-- The run that comes next, when the garden has another name. -/
def movingRun : Option (Pipeline.Left (List Pipeline.Outcome)) × ControlPlane.Testbed :=
  runIn "park" (some planted) plantingRun.2

/-- What is known after it. -/
def moved : State := movingRun.1.elim .fresh Prod.snd

/-- What a run that succeeded has left behind. -/
theorem exists_outcomes {x : Option (Pipeline.Left (List Pipeline.Outcome)) × ControlPlane.Testbed}
    (h : x.1.any (·.1.isOk) = true) :
    ∃ outcomes, x = (some (.ok outcomes, x.1.elim .fresh Prod.snd), x.2) := by
  match x, h with
  | (some (.ok outcomes, left), b), _ => exact ⟨outcomes, rfl⟩
  | (some (.error _, _), _), h | (none, _), h => cases h

theorem exists_planting :
    ∃ outcomes, runIn "garden" none typicalStart.bed = (some (.ok outcomes, planted),
      plantingRun.2) :=
  exists_outcomes (by decide +kernel)

theorem exists_moving :
    ∃ outcomes, runIn "park" (some planted) plantingRun.2 = (some (.ok outcomes, moved),
      movingRun.2) :=
  exists_outcomes (by decide +kernel)

/-- Moving to another garden changes the name of the segment and nothing else that is known. -/
theorem moved_eq : moved = { planted with segmentName := some "park--small--workers" } := by
  decide +kernel

theorem segmentName_planted : planted.segmentName = some "garden--small--workers" := by
  decide +kernel

theorem reference_moved (slot : Cluster.Slot) :
    moved.reference slot = (started (some planted)).reference slot := by
  rw [moved_eq, reference_started]
  generalize planted = known
  cases slot <;> rfl

theorem address_moved : moved.snatIpAddress = (started (some planted)).snatIpAddress := by
  rw [moved_eq]
  rfl

theorem failures_movingRun : movingRun.2.plane.failures = [] := by decide +kernel

theorem queued_plantingRun : plantingRun.2.queued = [] := by
  obtain ⟨outcomes, hplanting⟩ := exists_planting
  obtain ⟨es, -, hreplies⟩ := run_eq_some_iff.mp hplanting
  exact (ControlPlane.Testbed.replies_same hreplies rfl).1

/-- Surroundings in which everything is set up. -/
theorem exists_planted (allowed : Nat → Prop) :
    ∃ t m, Renaming typicalSettings typicalRequest allowed typicalStart t ∧
      Willing plantingRun.2 .v2 m t ∧
      Store.stateIn typicalRequest.ns m.snapshot = .ok (some planted) := by
  obtain ⟨outcomes, hplanting⟩ := exists_planting
  obtain ⟨m, hsave, -, -⟩ := Store.run_modify (m := typicalStart.memory) typicalRequest.ns
    (·.insert typicalRequest.ns (Store.recordOf planted))
    (show 0 < typicalSettings.storeAttempts by decide)
  have hstart : Willing typicalStart.bed .v2 typicalStart.memory typicalStart :=
    ⟨rfl, rfl, rfl, rfl, rfl⟩
  obtain ⟨result, t, hrun, -, hwilling⟩ := hstart.run_inGarden rfl hplanting hsave
  exact ⟨t, m, .reconcile "garden" typicalRequest.workersNetwork hrun, hwilling,
    Store.stateIn_of_save hsave⟩

/-- When the garden has another name, the next request reports the new name of the segment. -/
theorem reconcile_reports_moved : ∃ t status t',
    Pristine typicalSettings typicalRequest typicalStart ∧
    Relation.ReflTransGen (Renaming typicalSettings typicalRequest (· < 5)) typicalStart t ∧
    t.memory.pendingConflicts = 2 ∧
    t.run (reconcile typicalSettings (inGarden "park")) = (some (.ok status), t') ∧
    status.state.segmentName = some ((inGarden "park").spec typicalRegion).segmentName := by
  obtain ⟨t, m, hstep, hwilling, hload⟩ := exists_planted (· < 5)
  obtain ⟨outcomes, hmoving⟩ := exists_moving
  obtain ⟨m', hsave, -, -⟩ := Store.run_modify (m := { m with pendingConflicts := 2 })
    typicalRequest.ns (·.insert typicalRequest.ns (Store.recordOf moved))
    (show 2 < typicalSettings.storeAttempts by decide)
  have hhistory : Relation.ReflTransGen (Renaming typicalSettings typicalRequest (· < 5))
      typicalStart { t with memory.pendingConflicts := 2 } :=
    .tail (.single hstep) (.conflicts t 2 (by decide))
  obtain ⟨result, t', hrun, hok, -⟩ := (hwilling.conflicts 2).run_inGarden hload hmoving hsave
  obtain rfl := hok rfl
  obtain ⟨region, hregion, -, hname⟩ := reconcile_reports pristine_typicalStart hhistory "park"
    typicalRequest.workersNetwork hrun
  obtain rfl : typicalRegion = region := Except.ok.inj hregion
  exact ⟨_, _, t', pristine_typicalStart, hhistory, rfl, hrun, hname fun n hn => hn⟩

/-- **The name in a status need not be that of the segment.** When the garden has another name and
the state of the request that renames the segment cannot be saved, the next request for the garden
succeeds. It finds the segment renamed, and it stores and yields the old name. -/
theorem reconcile_misnames : ∃ t status t',
    Pristine typicalSettings typicalRequest typicalStart ∧
    Relation.ReflTransGen (Renaming typicalSettings typicalRequest fun _ => True) typicalStart t ∧
    t.run (reconcile typicalSettings (inGarden "park")) = (some (.ok status), t') ∧
    Reports typicalSettings (inGarden "park") typicalRegion t t' status ∧
    ((inGarden "park").spec typicalRegion).segmentName = "park--small--workers" ∧
    status.state.segmentName = some "garden--small--workers" := by
  obtain ⟨t, m, hplanted, hwilling, hload⟩ := exists_planted fun _ => True
  obtain ⟨outcomes, hmoving⟩ := exists_moving
  -- the segment is renamed, but the record still has what was known before
  obtain ⟨m₁, hlost, hentries, hnone⟩ := Store.run_attempt_exhausted
    (m := { m with pendingConflicts := 5 }) typicalRequest.ns
    (·.insert typicalRequest.ns (Store.recordOf moved)) typicalSettings.storeAttempts
    (show typicalSettings.storeAttempts ≤ 5 by decide)
  obtain ⟨lost, t₁, hrenamed, -, houtdated⟩ :=
    (hwilling.conflicts 5).run_inGarden hload hmoving hlost
  rw [← Store.stateIn_congr hentries] at hload
  -- the next run finds everything as it should be
  obtain ⟨outcomes', rs, hstaying⟩ := Pipeline.run_of_outdated queued_plantingRun hmoving
    reference_moved address_moved failures_movingRun
  obtain ⟨m₂, hsave, -, -⟩ := Store.run_modify (m := m₁) typicalRequest.ns
    (·.insert typicalRequest.ns (Store.recordOf (started (some planted))))
    (hnone.trans_lt (show 5 - typicalSettings.storeAttempts < typicalSettings.storeAttempts by
      decide))
  obtain ⟨result, t₂, hrun, hok, -⟩ := houtdated.run_inGarden hload hstaying hsave
  obtain rfl := hok rfl
  have hhistory : Relation.ReflTransGen (Renaming typicalSettings typicalRequest fun _ => True)
      typicalStart t₁ :=
    .tail (.tail (.single hplanted) (.conflicts t 5 trivial))
      (.reconcile "park" typicalRequest.workersNetwork hrenamed)
  obtain ⟨region, hregion, hreports⟩ :=
    reports_of_reconcile (queued_of_renamings hhistory pristine_typicalStart.queued) hrun
  obtain rfl : typicalRegion = region := Except.ok.inj hregion
  exact ⟨t₁, _, t₂, pristine_typicalStart, hhistory, hrun, hreports, by decide +kernel,
    segmentName_planted⟩

end Actuator

end ClusterNet
