import ClusterNet.Proofs.Actuator.Lifecycle
import ClusterNet.Proofs.Actuator.Surroundings
import ClusterNet.Proofs.Pipeline.Takedown

/-!
# What a deletion forgets

A deletion goes through its parts one by one, and any of them may end it: it loads the state, it
connects, it cleans up what others have put beside the cluster, it takes down what the state holds,
it saves what is left, and it drops the record if that is nothing. The cleanup is the exception:
whatever comes of it, the deletion goes on.

The record is written in two places, and both come behind the takedown. So either it is as it was,
or it holds what the takedown has left, or that was nothing and the record is dropped. All of this
holds in any surroundings with an honest store, whatever else they answer.

## Main definitions

* `Actuator.cleanUp`, `Actuator.dropSaved` — the parts of a deletion before and behind its takedown
* `Actuator.Dismantling` — a deletion that has come as far as saving what its takedown has left
* `Actuator.Careful` — what can be relied on when a cluster is deleted

## Main results

* `Actuator.delete_cases` — a deletion looks and connects only, or it comes to a takedown
* `Actuator.Dismantling.references`, `Actuator.Dismantling.forgets` — what is forgotten was deleted
* `Actuator.Dismantling.deletes` — what is deleted was referred to
* `Actuator.Dismantling.cleanup` — the cleanup has no say in the outcome
* `Actuator.delete_careful` — all together
-/

namespace ClusterNet

namespace Actuator

open Cluster (InfraError State)
open Config (Region)
open ControlPlane (ApiError Generation Kind Place)
open Pipeline (Deletes called isGone slot)
open Program

variable {α σ : Type} {answer : (e : Effect) → σ → e.Answer × σ}
  {s : Settings} {r : ClusterRequest} {t t' : σ}

/-! ### The parts of a deletion -/

/-- Clean up what others have put beside the cluster. -/
def cleanUp (s : Settings) (r : ClusterRequest) : Work (Except ApiError Nat) :=
  Work.onPlane (cleanUpBalancers s.config.loadBalancer.clusterTagScope r.clusterName s.rounds)

/-- What is done behind a takedown when its state was saved or could not be saved: the record is
dropped if nothing has failed. -/
def dropSaved (s : Settings) (r : ClusterRequest) :
    Except ActuatorError α × State → Work (Except ActuatorError Unit)
  | (.error e, _) => .done (.error e)
  | (.ok _, state) => dropState s r.ns state

theorem deleteAt_eq (s : Settings) (r : ClusterRequest) (state : State) (g : Generation) :
    deleteAt s r state g = (cleanUp s r).bind fun _ =>
      (runAndSave s r.ns (Pipeline.takeDown g) state).bind (dropSaved s r) := by
  rw [deleteAt, bind_eq]
  refine congrArg _ (funext fun cleaned => ?_)
  rw [bind_eq]
  refine congrArg _ (funext fun left => ?_)
  obtain ⟨result, state'⟩ := left
  cases result <;> rfl

theorem delete_eq (s : Settings) (r : ClusterRequest) :
    delete s r = (loadState r.ns).bind fun loaded =>
      match loaded with
      | .error e => .done (.error e)
      | .ok none => .done (.ok ())
      | .ok (some state) =>
        if state.creationStarted then
          match s.region r with
          | .error e => .done (.error e)
          | .ok region => (connect s r region).bind fun connected =>
            match connected with
            | .error e => .done (.error e)
            | .ok g => deleteAt s r state g
        else .done (.ok ()) :=
  rfl

/-- A deletion that has come as far as saving what its takedown has left. -/
structure Dismantling (answer : (e : Effect) → σ → e.Answer × σ) (s : Settings)
    (r : ClusterRequest) (t : σ) where
  /-- The state that was loaded. -/
  state : State
  /-- The region. -/
  region : Region
  /-- The generation of the control plane. -/
  generation : Generation
  /-- What came of the cleanup. -/
  cleaned : Except ApiError Nat
  /-- What came of the takedown. -/
  ran : Except InfraError (List String)
  /-- The state that it has left behind. -/
  left : State
  /-- What came of saving that state. -/
  saved : Except Store.StoreError Unit
  /-- The surroundings when the state was loaded. -/
  loadedAt : σ
  /-- The surroundings when the control plane was reached. -/
  reachedAt : σ
  /-- The surroundings behind the cleanup. -/
  cleanedAt : σ
  /-- The surroundings behind the takedown. -/
  ranAt : σ
  /-- The surroundings when the state was saved or could not be saved. -/
  savedAt : σ
  /-- The state is loaded. -/
  loads : (loadState r.ns).run answer t = (some (.ok (some state)), loadedAt)
  /-- In that state, creation has started. -/
  begun : state.creationStarted = true
  /-- The region is known. -/
  located : s.region r = .ok region
  /-- The control plane is reached. -/
  connects : (connect s r region).run answer loadedAt = (some (.ok generation), reachedAt)
  /-- The cleanup comes to an end. -/
  cleans : (cleanUp s r).run answer reachedAt = (some cleaned, cleanedAt)
  /-- The takedown comes to an end. -/
  takesDown : (Work.onPlane (Pipeline.takeDown generation state)).run answer cleanedAt =
    (some (ran, left), ranAt)
  /-- So does saving. -/
  saves : (Work.onStore (Store.save r.ns left s.storeAttempts)).run answer ranAt =
    (some saved, savedAt)

namespace Dismantling

variable (d : Dismantling answer s r t)

/-- The takedown, and what follows it. -/
def work : Work (Except ActuatorError Unit) :=
  (runAndSave s r.ns (Pipeline.takeDown d.generation) d.state).bind (dropSaved s r)

theorem run_work : d.work.run answer d.cleanedAt =
    (dropSaved s r (afterSaving d.ran d.saved, d.left)).run answer d.savedAt := by
  rw [work, runAndSave_eq, run_bind_of_run d.takesDown, run_bind_of_run d.saves]

theorem asked_work : asked answer d.work d.cleanedAt =
    asked answer (Work.onPlane (Pipeline.takeDown d.generation d.state)) d.cleanedAt ++
      (asked answer (Work.onStore (Store.save r.ns d.left s.storeAttempts)) d.ranAt ++
        asked answer (dropSaved s r (afterSaving d.ran d.saved, d.left)) d.savedAt) := by
  rw [work, runAndSave_eq, asked_bind d.takesDown, asked_bind d.saves]

theorem run_delete : (delete s r).run answer t = d.work.run answer d.cleanedAt := by
  rw [delete_eq, run_bind_of_run d.loads]
  dsimp only
  rw [if_pos d.begun, d.located]
  dsimp only
  rw [run_bind_of_run d.connects]
  dsimp only
  rw [deleteAt_eq, run_bind_of_run d.cleans]
  rfl

theorem asked_delete : asked answer (delete s r) t =
    asked answer (loadState r.ns) t ++ (asked answer (connect s r d.region) d.loadedAt ++
      (asked answer (cleanUp s r) d.reachedAt ++ asked answer d.work d.cleanedAt)) := by
  rw [delete_eq, asked_bind d.loads]
  dsimp only
  rw [if_pos d.begun, d.located]
  dsimp only
  rw [asked_bind d.connects]
  dsimp only
  rw [deleteAt_eq, asked_bind d.cleans]
  rfl

end Dismantling

/-- **A deletion stops before it touches anything, or it comes to a takedown.** -/
theorem delete_cases {result : Except ActuatorError Unit}
    (hrun : (delete s r).run answer t = (some result, t')) :
    (∀ e ∈ asked answer (delete s r) t, e.1 = .store .read ∨ ∃ settings, e.1 = .connect settings) ∨
      Nonempty (Dismantling answer s r t) := by
  obtain ⟨loaded, t₁, hload, h₁⟩ := run_bind_eq_some_iff.mp hrun
  have hlooked : ∀ e ∈ asked answer (loadState r.ns) t ++ [], e.1 = .store .read ∨
      ∃ settings, e.1 = .connect settings := by
    rw [asked_loadState, List.append_nil]
    exact fun e he => .inl (congrArg Sigma.fst (List.mem_singleton.mp he))
  rw [delete_eq, asked_bind hload]
  rcases loaded with e | known | state
  · exact .inl hlooked
  · exact .inl hlooked
  dsimp only at h₁ ⊢
  by_cases hbegun : state.creationStarted = true
  · rw [if_pos hbegun] at h₁ ⊢
    cases hregion : s.region r with
    | error e => exact .inl hlooked
    | ok region =>
      rw [hregion] at h₁
      dsimp only at h₁ ⊢
      obtain ⟨connected, t₂, hconnect, h₂⟩ := run_bind_eq_some_iff.mp h₁
      rw [asked_bind hconnect]
      rcases connected with e | g
      · refine .inl fun e' he => ?_
        rw [asked_done, List.append_nil] at he
        rcases List.mem_append.mp he with he | he
        · exact hlooked e' (List.mem_append_left _ he)
        · exact .inr (trace_connect (trace_asked hconnect) e' he)
      · dsimp only at h₂
        rw [deleteAt_eq] at h₂
        obtain ⟨cleaned, t₃, hclean, h₃⟩ := run_bind_eq_some_iff.mp h₂
        rw [runAndSave_eq] at h₃
        obtain ⟨⟨ran, left⟩, t₄, htake, h₄⟩ := run_bind_eq_some_iff.mp h₃
        obtain ⟨saved, t₅, hsave, -⟩ := run_bind_eq_some_iff.mp h₄
        exact .inr ⟨⟨state, region, g, cleaned, ran, left, saved, t₁, t₂, t₃, t₄, t₅, hload,
          hbegun, hregion, hconnect, hclean, htake, hsave⟩⟩
  · rw [if_neg hbegun]
    exact .inl hlooked

/-! ### What becomes of the record -/

namespace Dismantling

variable {object : σ → Store.Snapshot} (d : Dismantling answer s r t)

/-- The record held the state that was loaded. -/
theorem stateIn_eq (h : Keeps answer object) :
    Store.stateIn r.ns (object t) = .ok (some d.state) :=
  (h.loaded d.loads).2 _ rfl

/-- Up to saving, the records are as they were. -/
theorem entries_ranAt (h : Keeps answer object) :
    (object d.ranAt).entries = (object t).entries :=
  calc (object d.ranAt).entries
    _ = (object d.cleanedAt).entries := h.onPlane d.takesDown
    _ = (object d.reachedAt).entries := h.onPlane d.cleans
    _ = (object d.loadedAt).entries := h.connected d.connects
    _ = (object t).entries := (h.loaded d.loads).1

/-- Saving does not remove a record. -/
theorem find?_savedAt (h : Keeps answer object) (hsorted : (object t).entries.IsSorted)
    (hpresent : (object t).entries.find? r.ns ≠ none) :
    (object d.savedAt).entries.find? r.ns ≠ none := by
  have hentries := d.entries_ranAt h
  rcases (h.tried (hentries.symm ▸ hsorted) (.save r.ns d.left) d.saves).only with hsame | hmade
  · rw [hsame, hentries]
    exact hpresent
  · rw [hmade, Store.Change.apply, OrderedMap.find?_insert_self]
    exact Option.some_ne_none _

/-- What the takedown asked for is a trace of it. -/
theorem trace_takeDown : ∃ es, (Pipeline.takeDown d.generation d.state).Trace es (d.ran, d.left) ∧
    asked answer (Work.onPlane (Pipeline.takeDown d.generation d.state)) d.cleanedAt =
      es.map Event.ofPlane :=
  trace_onPlane_iff.mp (trace_asked d.takesDown)

/-- Whether creation has started is kept. -/
theorem begun_left : d.left.creationStarted = true := by
  obtain ⟨es, htrace, -⟩ := d.trace_takeDown
  exact (Pipeline.takeDown_retracted htrace).started.trans d.begun

/-- **A reference is only forgotten when its object was deleted.** -/
theorem references (k : Kind) : d.left.reference (slot k) = d.state.reference (slot k) ∨
    d.left.reference (slot k) = none ∧ ∃ e reply, Event.ofPlane e ∈ asked answer (delete s r) t ∧
      isGone reply = true ∧ Deletes d.state k reply e := by
  obtain ⟨es, htrace, hasked⟩ := d.trace_takeDown
  have hforgotten :=
    Pipeline.removeAll_references (Pipeline.ownersLast_takeDown (.inr rfl)).2 htrace k
  refine hforgotten.imp_right (And.imp_right ?_)
  rintro ⟨e, he, reply, hgone, hdeletes⟩
  refine ⟨e, reply, ?_, hgone, hdeletes⟩
  rw [d.asked_delete, d.asked_work, hasked]
  simp only [List.mem_append]
  exact .inr (.inr (.inr (.inl (List.mem_map_of_mem he))))

/-- **The record is dropped only if nothing is left.** -/
theorem forgets (h : Keeps answer object) (hsorted : (object t).entries.IsSorted)
    {result : Except ActuatorError Unit} (hrun : (delete s r).run answer t = (some result, t'))
    (hpresent : (object t).entries.find? r.ns ≠ none)
    (habsent : (object t').entries.find? r.ns = none) : d.left.holdsNoReferences = true := by
  have hkept := d.find?_savedAt h hsorted hpresent
  rw [d.run_delete, d.run_work] at hrun
  cases houtcome : afterSaving d.ran d.saved with
  | error e =>
    rw [houtcome] at hrun
    obtain ⟨-, rfl⟩ := run_done_eq_some_iff.mp hrun
    exact absurd habsent hkept
  | ok labels =>
    rw [houtcome, dropSaved, dropState] at hrun
    by_contra hsome
    rw [if_neg hsome] at hrun
    obtain ⟨-, rfl⟩ := run_done_eq_some_iff.mp hrun
    exact hkept habsent

end Dismantling

/-! ### What is deleted -/

/-- Whether nothing was deleted that a task looks after. -/
def Sparing (es : List Event) : Prop :=
  ∀ k place (reply : Except ApiError Unit), Event.ofPlane (called (.delete k place) reply) ∉ es

theorem sparing_ofStore (es : List (Program.Event Store.interface)) :
    Sparing (es.map Event.ofStore) := by
  intro k place reply hmem
  obtain ⟨e, -, he⟩ := List.mem_map.mp hmem
  cases congrArg Sigma.fst he

theorem sparing_connect {region : Region} {connected : Except ActuatorError Generation}
    {es : List Event} (h : (connect s r region).Trace es connected) : Sparing es := by
  intro k place reply hmem
  obtain ⟨settings, hconnect⟩ := trace_connect h _ hmem
  cases hconnect

/-- The cleanup deletes nothing that a task looks after. -/
theorem sparing_cleanUp {cleaned : Except ApiError Nat} {es : List Event}
    (h : (cleanUp s r).Trace es cleaned) : Sparing es := by
  intro k place reply hmem
  obtain ⟨es', hclean, rfl⟩ := trace_onPlane_iff.mp h
  obtain ⟨⟨e, reply'⟩, he, hsame⟩ := List.mem_map.mp hmem
  obtain rfl := Effect.plane.inj (congrArg Sigma.fst hsame)
  have htable := within_cleanUpBalancers hclean _ he (.table k) (.head _)
  cases List.mem_singleton.mp htable

/-- Dropping a record asks the store. -/
theorem trace_dropSaved {outcome : Except ActuatorError α} {left : State} {es : List Event}
    {result : Except ActuatorError Unit} (h : (dropSaved s r (outcome, left)).Trace es result) :
    ∃ es' : List (Program.Event Store.interface), es = es'.map Event.ofStore := by
  cases outcome with
  | error e => exact ⟨[], (trace_done_iff.mp h).1⟩
  | ok a =>
    rw [dropSaved, dropState] at h
    split at h
    · obtain ⟨dropped, hdrop, -⟩ := trace_bind_done_iff.mp h
      obtain ⟨es', -, hes⟩ := trace_onStore_iff.mp hdrop
      exact ⟨es', hes⟩
    · exact ⟨[], (trace_done_iff.mp h).1⟩

/-- **A deletion deletes only what the state that it has loaded refers to.** -/
theorem Dismantling.deletes (d : Dismantling answer s r t) {result : Except ActuatorError Unit}
    (hrun : (delete s r).run answer t = (some result, t')) {k : Kind} {place : Place}
    {reply : Except ApiError Unit}
    (hmem : Event.ofPlane (called (.delete k place) reply) ∈ asked answer (delete s r) t) :
    Deletes d.state k reply (called (.delete k place) reply) := by
  rw [d.run_delete, d.run_work] at hrun
  obtain ⟨saveEvents, -, hsave⟩ := trace_onStore_iff.mp (trace_asked d.saves)
  obtain ⟨dropEvents, hdrop⟩ := trace_dropSaved (trace_asked hrun)
  obtain ⟨es, htrace, htake⟩ := d.trace_takeDown
  rw [d.asked_delete, d.asked_work, asked_loadState, hsave, hdrop, htake] at hmem
  simp only [List.mem_append] at hmem
  rcases hmem with hmem | hmem | hmem | hmem | hmem | hmem
  · exact absurd hmem (sparing_ofStore [_] k place reply)
  · exact absurd hmem (sparing_connect (trace_asked d.connects) k place reply)
  · exact absurd hmem (sparing_cleanUp (trace_asked d.cleans) k place reply)
  · obtain ⟨e, he, hsame⟩ := List.mem_map.mp hmem
    obtain ⟨k', reply', -, hdeletes⟩ := Pipeline.removeAll_deletes
      (Pipeline.ownersLast_takeDown (.inr rfl)).2 htrace e he
    obtain rfl := Event.ofPlane_injective hsame
    obtain ⟨ref, parent, href, howner, heq⟩ := hdeletes
    cases heq
    exact ⟨ref, parent, href, howner, rfl⟩
  · exact absurd hmem (sparing_ofStore saveEvents k place reply)
  · exact absurd hmem (sparing_ofStore dropEvents k place reply)

/-! ### The cleanup -/

/-- **What comes of the cleanup makes no difference.** Put any other answers to a cleanup in the
place of those that were given: the deletion asks for the same behind them and comes to the same. -/
theorem Dismantling.cleanup (d : Dismantling answer s r t) {result : Except ActuatorError Unit}
    (hrun : (delete s r).run answer t = (some result, t')) :
    ∃ front rest,
      asked answer (delete s r) t = front ++ (asked answer (cleanUp s r) d.reachedAt ++ rest) ∧
      ∀ cleaned found, (cleanUp s r).Trace cleaned found →
        (delete s r).Trace (front ++ (cleaned ++ rest)) result := by
  refine ⟨asked answer (loadState r.ns) t ++ asked answer (connect s r d.region) d.loadedAt,
    asked answer d.work d.cleanedAt, ?_, fun cleaned found hclean => ?_⟩
  · rw [d.asked_delete, List.append_assoc]
  · rw [d.run_delete] at hrun
    rw [delete_eq, List.append_assoc]
    refine trace_bind_iff.mpr ⟨_, _, _, rfl, trace_asked d.loads, ?_⟩
    dsimp only
    rw [if_pos d.begun, d.located]
    refine trace_bind_iff.mpr ⟨_, _, _, rfl, trace_asked d.connects, ?_⟩
    dsimp only
    rw [deleteAt_eq]
    exact trace_bind_iff.mpr ⟨_, _, _, rfl, hclean, trace_asked hrun⟩

/-! ### All together -/

/-- What can be relied on when a cluster is deleted. -/
structure Careful (answer : (e : Effect) → σ → e.Answer × σ) (object : σ → Store.Snapshot)
    (s : Settings) (r : ClusterRequest) (t : σ) : Prop where
  /-- The record is only removed if every reference that it held had its deletion answered with
  success, or with the object not being there. -/
  forgets : ∀ result t', (delete s r).run answer t = (some result, t') →
    (object t).entries.find? r.ns ≠ none → (object t').entries.find? r.ns = none →
    ∃ state, Store.stateIn r.ns (object t) = .ok (some state) ∧
      ∀ k, state.reference (slot k) ≠ none →
        ∃ e reply, Event.ofPlane e ∈ asked answer (delete s r) t ∧ isGone reply = true ∧
          Deletes state k reply e
  /-- Whatever the takedown comes to, it only forgets references whose deletions were answered so.
  All others are left as they were. -/
  progress : ∀ (d : Dismantling answer s r t) k,
    d.left.reference (slot k) = d.state.reference (slot k) ∨
    d.left.reference (slot k) = none ∧ ∃ e reply, Event.ofPlane e ∈ asked answer (delete s r) t ∧
      isGone reply = true ∧ Deletes d.state k reply e
  /-- If the takedown stops with an error and what it has left is saved, the record holds that, and
  creation has still started. Whenever a deletion finds this record, it deletes nothing but what is
  still referred to. -/
  resumes : ∀ (d : Dismantling answer s r t) e, d.ran = .error e → d.saved = .ok () →
    (delete s r).run answer t = (some (.error (.infra e)), d.savedAt) ∧
    d.left.creationStarted = true ∧ Store.stateIn r.ns (object d.savedAt) = .ok (some d.left) ∧
    ∀ u result u', Store.stateIn r.ns (object u) = .ok (some d.left) →
      (delete s r).run answer u = (some result, u') → ∀ k place reply,
        Event.ofPlane (called (.delete k place) reply) ∈ asked answer (delete s r) u →
          Deletes d.left k reply (called (.delete k place) reply)
  /-- What comes of the cleanup makes no difference. -/
  cleanup : ∀ (d : Dismantling answer s r t) result t',
    (delete s r).run answer t = (some result, t') → ∃ front rest,
      asked answer (delete s r) t = front ++ (asked answer (cleanUp s r) d.reachedAt ++ rest) ∧
      ∀ cleaned found, (cleanUp s r).Trace cleaned found →
        (delete s r).Trace (front ++ (cleaned ++ rest)) result
  /-- If there is no record, or creation has not started in it, a look at the object is all. -/
  untouched : ∀ snapshot known, (answer (.store .read) t).1 = .ok snapshot →
    Store.stateIn r.ns (object t) = .ok known → (∀ state ∈ known, state.creationStarted = false) →
    ∃ t', (delete s r).run answer t = (some (.ok ()), t') ∧
      asked answer (delete s r) t = [⟨.store .read, .ok snapshot⟩] ∧
      (object t').entries = (object t).entries

variable {object : σ → Store.Snapshot}

/-- A deletion that finds nothing to take down is over when it has loaded the state. -/
theorem delete_idle (s : Settings) (r : ClusterRequest) :
    ∃ behind, delete s r = (loadState r.ns).bind behind ∧
      ∀ known : Option State, (∀ state ∈ known, state.creationStarted = false) →
        behind (.ok known) = .done (.ok ()) := by
  refine ⟨_, delete_eq s r, fun known hnone => ?_⟩
  cases known with
  | none => rfl
  | some state =>
    dsimp only
    rw [hnone state rfl]
    rfl

/-- A deletion of a cluster whose creation never started does nothing. -/
theorem delete_untouched (h : Keeps answer object) {snapshot : Store.Snapshot}
    {known : Option State} (hread : (answer (.store .read) t).1 = .ok snapshot)
    (hknown : Store.stateIn r.ns (object t) = .ok known)
    (hnone : ∀ state ∈ known, state.creationStarted = false) :
    ∃ t', (delete s r).run answer t = (some (.ok ()), t') ∧
      asked answer (delete s r) t = [⟨.store .read, .ok snapshot⟩] ∧
      (object t').entries = (object t).entries := by
  have hloads : (loadState r.ns).run answer t =
      (some (.ok known), (answer (.store .read) t).2) := by
    rw [loadState_eq, run_ask, hread, run_done]
    show (some (Except.mapError _ (Store.stateIn r.ns snapshot)), _) = _
    rw [Store.stateIn_congr (h.store.told t snapshot hread), hknown]
    rfl
  have hasked : asked answer (loadState r.ns) t = [⟨.store .read, .ok snapshot⟩] := by
    rw [asked_loadState, hread]
    rfl
  obtain ⟨behind, heq, hidle⟩ := delete_idle s r
  refine ⟨(answer (.store .read) t).2, ?_, ?_, h.store.read t⟩
  · rw [heq, run_bind_of_run hloads, hidle known hnone, run_done]
  · rw [heq, asked_bind hloads, hasked, hidle known hnone, asked_done, List.append_nil]

/-- **A deletion forgets a cluster only when nothing is left.** The store is honest and keeps its
records in order, and the control plane may answer what it likes. -/
theorem delete_careful (h : Keeps answer object) (s : Settings) (r : ClusterRequest) {t : σ}
    (hsorted : (object t).entries.IsSorted) : Careful answer object s r t where
  forgets result t' hrun hpresent habsent := by
    rcases delete_cases hrun with hlooks | ⟨⟨d⟩⟩
    · rw [h.looked hrun hlooks] at habsent
      exact absurd habsent hpresent
    · refine ⟨d.state, d.stateIn_eq h, fun k href => ?_⟩
      have hnone := Pipeline.reference_of_holdsNoReferences
        (d.forgets h hsorted hrun hpresent habsent) (slot k)
      exact ((d.references k).resolve_left fun hsame => href (hsame.symm.trans hnone)).2
  progress d := d.references
  resumes d e hran hsaved := by
    have hsave := d.saves
    rw [hsaved] at hsave
    refine ⟨?_, d.begun_left, (h.saved ((d.entries_ranAt h).symm ▸ hsorted) hsave).1, ?_⟩
    · rw [d.run_delete, d.run_work, hran]
      rfl
    · intro u result u' hstate hrun k place reply hmem
      rcases delete_cases hrun with hlooks | ⟨⟨d'⟩⟩
      · rcases hlooks _ hmem with hread | ⟨settings, hconnect⟩
        · cases hread
        · cases hconnect
      · have hsame : d'.state = d.left :=
          Option.some.inj (Except.ok.inj ((d'.stateIn_eq h).symm.trans hstate))
        rw [← hsame]
        exact d'.deletes hrun hmem
  cleanup d result t' hrun := d.cleanup hrun
  untouched snapshot known hread hknown hnone := delete_untouched h hread hknown hnone

/-- What the record of a cluster holds. -/
def clingingState : State := started (some Pipeline.typicalState)

/-- That cluster, with its record, where the segment will not be deleted. -/
def clinging : Testbed where
  bed := Pipeline.segmentKept
  generation := .v2
  memory.snapshot.entries :=
    OrderedMap.empty.insert typicalRequest.ns (Store.recordOf clingingState)

/-- That cluster when the control plane was reached. -/
def clingingReached : Testbed :=
  ((connect typicalSettings typicalRequest typicalRegion).run Testbed.perform clinging).2

/-- That cluster behind the cleanup. -/
def clingingCleaned : Testbed :=
  ((cleanUp typicalSettings typicalRequest).run Testbed.perform clingingReached).2

/-- Its takedown. -/
def clingingWork : Work (Pipeline.Left (List String)) :=
  Work.onPlane (Pipeline.takeDown .v2 clingingState)

/-- A takedown that stops has its progress recorded. -/
theorem delete_careful_clinging :
    ∃ (d : Dismantling Testbed.perform typicalSettings typicalRequest clinging) (e : InfraError),
      clinging.memory.snapshot.entries.IsSorted ∧ d.ran = .error e ∧ d.saved = .ok () ∧
      d.left.snatIpAllocation = none ∧
      Careful Testbed.perform (fun t => t.memory.snapshot) typicalSettings typicalRequest clinging ∧
      Store.stateIn typicalRequest.ns d.savedAt.memory.snapshot = .ok (some d.left) := by
  have hsorted : clinging.memory.snapshot.entries.IsSorted := OrderedMap.isSorted_empty.insert _ _
  have hloads : (loadState typicalRequest.ns).run Testbed.perform clinging =
      (some (.ok (some clingingState)), clinging) := by
    refine (run_loadState _ _).trans ?_
    rw [Store.stateIn_of_find? (OrderedMap.find?_insert_self ..)]
    rfl
  have hcleaned : ((cleanUp typicalSettings typicalRequest).run Testbed.perform
      clingingReached).1.isSome = true := by decide +kernel
  obtain ⟨cleaned, hcleaned⟩ := Option.isSome_iff_exists.mp hcleaned
  have hstopped : (clingingWork.run Testbed.perform clingingCleaned).1.any (fun left =>
      !left.1.isOk && decide (left.2.snatIpAllocation = none)) = true := by decide +kernel
  have hconflicts : (clingingWork.run Testbed.perform clingingCleaned).2.memory.pendingConflicts <
      typicalSettings.storeAttempts := by decide +kernel
  obtain ⟨⟨ran, left⟩, hleft, hwhat⟩ := (Option.any_eq_true _ _).mp hstopped
  obtain ⟨herror, hnone⟩ := (Bool.and_eq_true _ _).mp hwhat
  cases ran with
  | ok labels => cases herror
  | error e =>
    have htakesDown : clingingWork.run Testbed.perform clingingCleaned =
        (some (.error e, left), (clingingWork.run Testbed.perform clingingCleaned).2) := by
      rw [← hleft]
    obtain ⟨t', hsaves, -⟩ := run_save typicalRequest.ns left hconflicts
    have hcareful := delete_careful keeps_testbed typicalSettings typicalRequest hsorted
    refine ⟨⟨clingingState, typicalRegion, .v2, cleaned, .error e, left, .ok (), clinging,
      clingingReached, clingingCleaned, _, t', hloads, rfl, rfl, rfl, Prod.ext hcleaned rfl,
      htakesDown, hsaves⟩, e, hsorted, rfl, rfl, of_decide_eq_true hnone, hcareful, ?_⟩
    exact (hcareful.resumes _ e rfl rfl).2.2.1

end Actuator

end ClusterNet
