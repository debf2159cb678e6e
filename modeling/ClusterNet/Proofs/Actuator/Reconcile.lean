import ClusterNet.Proofs.Actuator.Lifecycle
import ClusterNet.Proofs.Actuator.Surroundings
import ClusterNet.Proofs.Pipeline.References

/-!
# What a reconciliation leaves behind

A reconciliation that has loaded a state runs the pipeline, and whatever comes of the run is saved,
once. A status is published only if the run has succeeded and what it has left behind is saved, so
nothing is ever published that is not stored. Of several errors the first one is reported.

All of this holds in any surroundings: the control plane, the store and the publisher may answer
what they like. Only what the record is afterwards takes a store that is honest.

## Main definitions

* `Actuator.Checkpointed` — what a reconciliation comes to behind its run

## Main results

* `Actuator.reconcile_checkpoints` — every reconciliation that has loaded a state comes to that
-/

namespace ClusterNet

namespace Actuator

open Cluster (InfraError State)
open Config (Region)
open ControlPlane (Generation)
open Program

variable {α σ : Type} {answer : (e : Effect) → σ → e.Answer × σ}
  {s : Settings} {r : ClusterRequest} {region : Region} {zones : ZonePlacements} {g : Generation}
  {known : Option State}

/-! ### The parts of a reconciliation -/

/-- What is done behind a run when its state was saved or could not be saved: the status is
published if nothing has failed. -/
def publishSaved (s : Settings) (r : ClusterRequest) (zones : ZonePlacements) :
    Except ActuatorError α × State → Work (Except ActuatorError Status)
  | (.error e, _) => .done (.error e)
  | (.ok _, state) => announce s r.ns { state, zones }

theorem reconcile_eq (hregion : s.region r = .ok region)
    (hzones : zonePlacements region = .ok zones) :
    reconcile s r = (connect s r region).bind fun connected =>
      match connected with
      | .error e => .done (.error e)
      | .ok g => reconcileAt s r region zones g := by
  rw [reconcile, hregion]
  dsimp only
  rw [hzones]
  rfl

theorem reconcileAt_eq (s : Settings) (r : ClusterRequest) (region : Region)
    (zones : ZonePlacements) (g : Generation) :
    reconcileAt s r region zones g = (loadState r.ns).bind fun loaded =>
      match loaded with
      | .error e => .done (.error e)
      | .ok known =>
        (runAndSave s r.ns (Pipeline.run g (s.context r) (r.spec region)) (started known)).bind
          (publishSaved s r zones) := by
  rw [reconcileAt, bind_eq]
  refine congrArg _ (funext fun loaded => ?_)
  cases loaded with
  | error e => rfl
  | ok known =>
    dsimp only
    rw [bind_eq]
    refine congrArg _ (funext fun left => ?_)
    obtain ⟨result, state⟩ := left
    cases result <;> rfl

/-- What comes of publishing behind a run, by the outcome of the run and of saving its state. -/
structure PublishedIf (answer : (e : Effect) → σ → e.Answer × σ) (r : ClusterRequest)
    (outcome : Except ActuatorError α) (status : Status) (t : σ) (es : List Event)
    (result : Except ActuatorError Status) (t' : σ) : Prop where
  /-- Nothing is asked for but publications and pauses. -/
  calm : ∀ e ∈ es, Testbed.IsCalm e.1
  /-- What is published is the status. -/
  statuses : ∀ ns status' (reply : Except PublishError Unit),
    (⟨.publish ns status', reply⟩ : Event) ∈ es → ns = r.ns ∧ status' = status
  /-- Something is published exactly if nothing has failed. -/
  published : publisherAnswers es ≠ [] ↔ ∃ a, outcome = .ok a
  /-- If something has failed, that is the result. -/
  failed : ∀ e, outcome = .error e → result = .error e
  /-- Otherwise the last answer of the publisher decides. -/
  told : ∀ last, (publisherAnswers es).getLast? = some last → result = verdict status last
  /-- The records are as they were. -/
  same : ∀ object, Keeps answer object → (object t').entries = (object t).entries

/-- **Publishing behind a run comes to an end**, and it is done only if nothing has failed. -/
theorem publishSaved_run (s : Settings) (r : ClusterRequest) (zones : ZonePlacements)
    (outcome : Except ActuatorError α) (left : State) (t : σ) :
    ∃ result t', (publishSaved s r zones (outcome, left)).run answer t = (some result, t') ∧
      PublishedIf answer r outcome ⟨left, zones⟩ t
        (asked answer (publishSaved s r zones (outcome, left)) t) result t' := by
  cases outcome with
  | error e =>
    refine ⟨.error e, t, rfl, ?_⟩
    rw [publishSaved, asked_done]
    exact { calm := fun e he => absurd he List.not_mem_nil
            statuses := fun _ _ _ he => absurd he List.not_mem_nil
            published := ⟨fun h => absurd rfl h, fun ⟨a, h⟩ => by cases h⟩
            failed := fun e' h => by rw [Except.error.inj h]
            told := fun last h => by cases h
            same := fun _ _ => rfl }
  | ok a =>
    obtain ⟨result, t', hrun⟩ : ∃ result t', (announce s r.ns ⟨left, zones⟩).run answer t =
        (some result, t') := (ends_announce s r.ns ⟨left, zones⟩).run t
    obtain ⟨honly, conflicts, last, -, -, hanswers, hresult⟩ := announced (trace_asked hrun)
    refine ⟨result, t', hrun, ?_⟩
    rw [publishSaved]
    refine ⟨isCalm_of_trace_announce (trace_asked hrun), fun ns status reply he => ?_, ?_, ?_, ?_,
      fun object hkeeps => hkeeps.announced hrun⟩
    · rcases honly _ he with hpublish | ⟨time, hpause⟩
      · exact Effect.publish.inj hpublish
      · cases hpause
    · rw [hanswers]
      simp
    · intro e h
      cases h
    · intro last' h
      rw [hanswers, List.getLast?_concat] at h
      rw [hresult, Option.some.inj h]

section Stages

variable {t t₁ t₂ t₃ : σ} {ran : Except InfraError (List Pipeline.Outcome)} {left : State}

/-- **The parts of a reconciliation that has loaded a state**, one behind the other. -/
theorem reconcile_stages (hregion : s.region r = .ok region)
    (hzones : zonePlacements region = .ok zones)
    (hconnect : (connect s r region).run answer t = (some (.ok g), t₁))
    (hload : (loadState r.ns).run answer t₁ = (some (.ok known), t₂))
    (hrun : (Work.onPlane (Pipeline.run g (s.context r) (r.spec region) (started known))).run
      answer t₂ = (some (ran, left), t₃))
    {saved : Except Store.StoreError Unit} {t₄ : σ}
    (hsave : (Work.onStore (Store.save r.ns left s.storeAttempts)).run answer t₃ =
      (some saved, t₄)) :
    (reconcile s r).run answer t =
        (publishSaved s r zones (afterSaving ran saved, left)).run answer t₄ ∧
      asked answer (reconcile s r) t =
        asked answer (connect s r region) t ++ (asked answer (loadState r.ns) t₁ ++
          (asked answer (Work.onPlane
              (Pipeline.run g (s.context r) (r.spec region) (started known))) t₂ ++
            (asked answer (Work.onStore (Store.save r.ns left s.storeAttempts)) t₃ ++
              asked answer (publishSaved s r zones (afterSaving ran saved, left)) t₄))) := by
  rw [reconcile_eq hregion hzones]
  constructor
  · rw [run_bind_of_run hconnect]
    dsimp only
    rw [reconcileAt_eq, run_bind_of_run hload]
    dsimp only
    rw [runAndSave_eq, run_bind_of_run hrun, run_bind_of_run hsave]
  · rw [asked_bind hconnect]
    dsimp only
    rw [reconcileAt_eq, asked_bind hload]
    dsimp only
    rw [runAndSave_eq, asked_bind hrun, asked_bind hsave]

/-- Nothing is published before the state is saved. -/
theorem silent_front
    (hconnect : (connect s r region).run answer t = (some (.ok g), t₁))
    (hrun : (Work.onPlane (Pipeline.run g (s.context r) (r.spec region) (started known))).run
      answer t₂ = (some (ran, left), t₃))
    {saved : Except Store.StoreError Unit} {t₄ : σ}
    (hsave : (Work.onStore (Store.save r.ns left s.storeAttempts)).run answer t₃ =
      (some saved, t₄)) :
    Silent (asked answer (connect s r region) t ++ asked answer (loadState r.ns) t₁ ++
      asked answer (Work.onPlane
        (Pipeline.run g (s.context r) (r.spec region) (started known))) t₂ ++
      asked answer (Work.onStore (Store.save r.ns left s.storeAttempts)) t₃) := by
  obtain ⟨runEvents, -, hrunEvents⟩ := trace_onPlane_iff.mp (trace_asked hrun)
  obtain ⟨saveEvents, -, hsaveEvents⟩ := trace_onStore_iff.mp (trace_asked hsave)
  rw [hrunEvents, hsaveEvents]
  exact (((silent_connect (trace_asked hconnect)).append (silent_loadState _ _)).append
    (silent_ofPlane _)).append (silent_ofStore _)

/-- A state that is saved behind a run is the one that the record holds, and the other records are
as they were at the start. -/
theorem recorded_of_saved {object : σ → Store.Snapshot} (hkeeps : Keeps answer object)
    (hsorted : (object t).entries.IsSorted)
    (hconnect : (connect s r region).run answer t = (some (.ok g), t₁))
    (hload : (loadState r.ns).run answer t₁ = (some (.ok known), t₂))
    (hrun : (Work.onPlane (Pipeline.run g (s.context r) (r.spec region) (started known))).run
      answer t₂ = (some (ran, left), t₃)) {t₄ : σ}
    (hsave : (Work.onStore (Store.save r.ns left s.storeAttempts)).run answer t₃ =
      (some (.ok ()), t₄)) :
    Store.stateIn r.ns (object t₄) = .ok (some left) ∧
      ∀ ns, ns ≠ r.ns → (object t₄).entries.find? ns = (object t).entries.find? ns := by
  have hsame : (object t₃).entries = (object t).entries :=
    calc (object t₃).entries
      _ = (object t₂).entries := hkeeps.onPlane hrun
      _ = (object t₁).entries := (hkeeps.loaded hload).1
      _ = (object t).entries := hkeeps.connected hconnect
  rw [← hsame] at hsorted ⊢
  exact hkeeps.saved hsorted hsave

/-- What a reconciliation comes to behind its run. It has asked for `before` up to then, the run has
succeeded or failed and left a state behind, and what comes of saving this state is `saved`. -/
structure Checkpointed (answer : (e : Effect) → σ → e.Answer × σ) (s : Settings)
    (r : ClusterRequest) (zones : ZonePlacements) (t : σ) (before : List Event)
    (ran : Except InfraError (List Pipeline.Outcome)) (left : State) (t₃ : σ)
    (saved : Except Store.StoreError Unit) (result : Except ActuatorError Status) (t₅ : σ) :
    Prop where
  /-- It comes to an end. -/
  ends : (reconcile s r).run answer t = (some result, t₅)
  /-- The run is followed by one save, and this by nothing but publications and pauses. -/
  saves : ∃ t₄ behind,
    (Work.onStore (Store.save r.ns left s.storeAttempts)).run answer t₃ = (some saved, t₄) ∧
    asked answer (reconcile s r) t = before ++
      asked answer (Work.onStore (Store.save r.ns left s.storeAttempts)) t₃ ++ behind ∧
    ∀ e ∈ behind, Testbed.IsCalm e.1
  /-- In the state that is saved, creation has started. -/
  begun : left.creationStarted = true
  /-- On an honest store that keeps its records in order, a state that is saved is the one that the
  record holds afterwards, and the records of other namespaces are as they were. -/
  recorded : ∀ object, Keeps answer object → (object t).entries.IsSorted → saved = .ok () →
    Store.stateIn r.ns (object t₅) = .ok (some left) ∧
    ∀ ns, ns ≠ r.ns → (object t₅).entries.find? ns = (object t).entries.find? ns
  /-- Something is published exactly if the run has succeeded and its state is saved. -/
  published : publisherAnswers (asked answer (reconcile s r) t) ≠ [] ↔
    (∃ outcomes, ran = .ok outcomes) ∧ saved = .ok ()
  /-- What is published is the state that is saved. -/
  statuses : ∀ ns status (reply : Except PublishError Unit),
    (⟨.publish ns status, reply⟩ : Event) ∈ asked answer (reconcile s r) t →
      ns = r.ns ∧ status.state = left ∧ status.zones = zones
  /-- If the run has failed, its error is the result. -/
  failed : ∀ e, ran = .error e → result = .error (.infra e)
  /-- If the state could not be saved behind a run that has succeeded, that is the result. -/
  unsaved : ∀ outcomes e, ran = .ok outcomes → saved = .error e → result = .error (.store e)
  /-- Otherwise the last answer of the publisher decides. -/
  told : ∀ last, (publisherAnswers (asked answer (reconcile s r) t)).getLast? = some last →
    result = verdict ⟨left, zones⟩ last

/-- **A reconciliation saves what has happened and publishes only what is saved.** -/
theorem reconcile_checkpoints (hregion : s.region r = .ok region)
    (hzones : zonePlacements region = .ok zones)
    (hconnect : (connect s r region).run answer t = (some (.ok g), t₁))
    (hload : (loadState r.ns).run answer t₁ = (some (.ok known), t₂))
    (hrun : (Work.onPlane (Pipeline.run g (s.context r) (r.spec region) (started known))).run
      answer t₂ = (some (ran, left), t₃)) :
    ∃ saved result t₅, Checkpointed answer s r zones t
      (asked answer (connect s r region) t ++ asked answer (loadState r.ns) t₁ ++
        asked answer (Work.onPlane
          (Pipeline.run g (s.context r) (r.spec region) (started known))) t₂)
      ran left t₃ saved result t₅ := by
  obtain ⟨saved, t₄, hsave⟩ : ∃ saved t₄, (Work.onStore
      (Store.save r.ns left s.storeAttempts)).run answer t₃ = (some saved, t₄) :=
    (ends_onStore (Store.ends_change (.save r.ns left) s.storeAttempts)).run t₃
  obtain ⟨result, t₅, hpublish, hpublished⟩ : ∃ result t₅, _ ∧ PublishedIf answer r _ _ t₄ _ _ _ :=
    publishSaved_run s r zones (afterSaving ran saved) left t₄
  obtain ⟨hends, hasked⟩ := reconcile_stages hregion hzones hconnect hload hrun hsave
  rw [hpublish] at hends
  have hsilent := silent_front hconnect hrun hsave
  obtain ⟨runEvents, hran, -⟩ := trace_onPlane_iff.mp (trace_asked hrun)
  rw [← List.append_assoc, ← List.append_assoc, ← List.append_assoc] at hasked
  generalize asked answer (publishSaved s r zones (afterSaving ran saved, left)) t₄ = behind
    at hasked hpublished
  have hanswers : publisherAnswers (asked answer (reconcile s r) t) = publisherAnswers behind := by
    rw [hasked, hsilent.publisherAnswers_append]
  refine ⟨saved, result, t₅, hends, ⟨t₄, behind, hsave, hasked, hpublished.calm⟩, ?_, ?_, ?_, ?_,
    ?_, ?_, ?_⟩
  · rw [(Pipeline.run_advanced hran).started]
    rfl
  · rintro object hkeeps hsorted rfl
    have hlast := hpublished.same object hkeeps
    rw [Store.stateIn_congr hlast, hlast]
    exact recorded_of_saved hkeeps hsorted hconnect hload hrun hsave
  · rw [hanswers, hpublished.published]
    exact ⟨fun ⟨outcomes, h⟩ => (afterSaving_eq_ok_iff.mp h).imp_left fun hok => ⟨outcomes, hok⟩,
      fun ⟨⟨outcomes, hok⟩, hsaved⟩ => ⟨outcomes, afterSaving_eq_ok_iff.mpr ⟨hok, hsaved⟩⟩⟩
  · intro ns status reply he
    rw [hasked] at he
    rcases List.mem_append.mp he with he | he
    · exact absurd rfl (hsilent _ he ns status)
    · obtain ⟨hns, rfl⟩ := hpublished.statuses ns status reply he
      exact ⟨hns, rfl, rfl⟩
  · rintro e rfl
    exact hpublished.failed _ rfl
  · rintro outcomes e rfl rfl
    exact hpublished.failed _ rfl
  · rw [hanswers]
    exact hpublished.told

end Stages

/-- Surroundings in which the DHCP server cannot be created, and two conflicts are due. -/
def brittleStart : Testbed :=
  { typicalStart.changed (·.failNext (.create .dhcpServer)) with memory.pendingConflicts := 2 }

/-- The surroundings when the control plane was reached. -/
def brittleReached : Testbed :=
  ((connect typicalSettings typicalRequest typicalRegion).run Testbed.perform brittleStart).2

/-- The work of the pipeline in them. -/
def brittleWork : Work (Pipeline.Left (List Pipeline.Outcome)) :=
  Work.onPlane (Pipeline.run .v2 (typicalSettings.context typicalRequest)
    (typicalRequest.spec typicalRegion) (started none))

/-- A run that has failed is saved with what it has created, and its error is the result. -/
theorem reconcile_checkpoints_brittle : ∃ t₃ e left saved result t₅,
    typicalSettings.region typicalRequest = .ok typicalRegion ∧
    zonePlacements typicalRegion = .ok .empty ∧
    (connect typicalSettings typicalRequest typicalRegion).run Testbed.perform brittleStart =
      (some (.ok .v2), brittleReached) ∧
    (loadState typicalRequest.ns).run Testbed.perform brittleReached =
      (some (.ok none), brittleReached) ∧
    brittleWork.run Testbed.perform brittleReached = (some (.error e, left), t₃) ∧
    left.tier1Gateway.isSome = true ∧
    Checkpointed Testbed.perform typicalSettings typicalRequest .empty brittleStart
      (asked Testbed.perform (connect typicalSettings typicalRequest typicalRegion) brittleStart ++
        asked Testbed.perform (loadState typicalRequest.ns) brittleReached ++
        asked Testbed.perform brittleWork brittleReached)
      (.error e) left t₃ saved result t₅ ∧
    result = .error (.infra e) := by
  have hregion : typicalSettings.region typicalRequest = .ok typicalRegion := rfl
  have hzones : zonePlacements typicalRegion = .ok .empty := rfl
  have hconnect : (connect typicalSettings typicalRequest typicalRegion).run Testbed.perform
      brittleStart = (some (.ok .v2), brittleReached) := rfl
  have hload : (loadState typicalRequest.ns).run Testbed.perform brittleReached =
      (some (.ok none), brittleReached) := rfl
  have hfailed : (brittleWork.run Testbed.perform brittleReached).1.any (fun left =>
      !left.1.isOk && left.2.tier1Gateway.isSome) = true := by decide +kernel
  obtain ⟨⟨ran, left⟩, hleft, hwhat⟩ := (Option.any_eq_true _ _).mp hfailed
  obtain ⟨herror, hgateway⟩ := (Bool.and_eq_true _ _).mp hwhat
  cases ran with
  | ok outcomes => cases herror
  | error e =>
    have hrun : brittleWork.run Testbed.perform brittleReached =
        (some (.error e, left), (brittleWork.run Testbed.perform brittleReached).2) :=
      Prod.ext hleft rfl
    obtain ⟨saved, result, t₅, hcheckpointed⟩ :=
      reconcile_checkpoints hregion hzones hconnect hload hrun
    exact ⟨_, e, left, saved, result, t₅, hregion, hzones, hconnect, hload, hrun, hgateway,
      hcheckpointed, hcheckpointed.failed e rfl⟩

end Actuator

end ClusterNet
