import ClusterNet.Proofs.Actuator.Testbed
import ClusterNet.Proofs.Pipeline.Cases
import ClusterNet.Proofs.Store.Honesty

/-!
# The actuator in any surroundings

The actuator works on a control plane and on the shared object, it connects, and it publishes. Its
surroundings may answer all of this in any way. What is asked of one of them is what the work on it
asks, and none of the other parts has to do with it. So the records of the shared object are only
changed by work on the object, and if the store is honest, what becomes of them is known.

## Main definitions

* `Actuator.Event`, `Event.ofPlane`, `Event.ofStore` — what is asked, and what is asked of a part
* `Actuator.Keeps` — surroundings with an honest store that nothing else has to do with
* `Actuator.publisherAnswers`, `Actuator.Silent` — what the publisher has answered, and whether
  nothing was to be published
* `Actuator.Announced` — what is asked when a status is published

## Main results

* `Actuator.trace_onPlane_iff`, `Actuator.trace_onStore_iff`, `Actuator.run_onStore` — work on a
  part
* `Actuator.Keeps.same`, `Actuator.Keeps.loaded`, `Actuator.Keeps.tried` — what becomes of the
  records
* `Actuator.announced` — what becomes of a status
-/

namespace ClusterNet

namespace Actuator

open Cluster (InfraError State)
open Config (Region)
open ControlPlane (Generation)
open Program

/-! ### Work on a part -/

/-- What the actuator asked for, with the answer. -/
abbrev Event := Program.Event Effect.interface

/-- What was asked of the control plane. -/
def Event.ofPlane (e : Pipeline.Event) : Event := ⟨.plane e.1, e.2⟩

theorem Event.ofPlane_injective : Function.Injective Event.ofPlane := by
  rintro ⟨e, answer⟩ ⟨e', answer'⟩ h
  change (⟨.plane e, answer⟩ : Event) = ⟨.plane e', answer'⟩ at h
  cases h
  rfl

/-- What was asked of the store. -/
def Event.ofStore (e : Program.Event Store.interface) : Event := ⟨.store e.1, e.2⟩

variable {α σ : Type} {answer : (e : Effect) → σ → e.Answer × σ} {t t' : σ}
  {s : Settings} {r : ClusterRequest} {es : List Event}

/-- Work on the control plane asks the control plane. -/
theorem trace_onPlane_iff {w : ControlPlane.Work α} {a : α} :
    (Work.onPlane w).Trace es a ↔ ∃ es', w.Trace es' a ∧ es = es'.map Event.ofPlane :=
  trace_translate_iff Event.ofPlane fun _ _ _ => trace_request_iff

/-- Work on the shared object asks the store. -/
theorem trace_onStore_iff {w : Store.Work α} {a : α} :
    (Work.onStore w).Trace es a ↔ ∃ es', w.Trace es' a ∧ es = es'.map Event.ofStore :=
  trace_translate_iff Event.ofStore fun _ _ _ => trace_request_iff

/-- Work on the shared object is that work in the surroundings of the store. -/
theorem run_onStore (w : Store.Work α) (t : σ) :
    (Work.onStore w).run answer t = w.run (fun r => answer (.store r)) t :=
  run_translate id (fun t _ => t) (fun _ _ => rfl) (fun _ _ => rfl) (fun _ _ _ => rfl)
    (fun _ => rfl) w t

theorem ends_onStore {w : Store.Work α} (h : w.Ends) : (Work.onStore w).Ends :=
  h.translate fun _ => ends_request _

/-- Connecting asks for nothing but a connection. -/
theorem trace_connect {region : Region} {connected : Except ActuatorError Generation}
    (h : (connect s r region).Trace es connected) :
    ∀ e ∈ es, ∃ settings, e.1 = .connect settings := by
  rw [connect] at h
  split at h
  · rw [(trace_done_iff.mp h).1]
    exact fun e he => absurd he List.not_mem_nil
  · obtain ⟨answer, h', -⟩ := trace_bind_done_iff.mp h
    rw [trace_request_iff.mp h']
    intro e he
    exact ⟨_, congrArg Sigma.fst (List.mem_singleton.mp he)⟩

/-- Loading a state is one look at the object. -/
theorem loadState_eq (ns : String) : loadState ns =
    Program.ask (I := Effect.interface) (.store .read) fun reply =>
      .done ((Except.bind reply (Store.stateIn ns)).mapError .store) := by
  rw [loadState, Work.onStore, Store.load_eq]
  rfl

theorem asked_loadState (ns : String) (t : σ) : asked answer (loadState ns) t =
    [Event.ofStore ⟨.read, (answer (.store .read) t).1⟩] := by
  rw [loadState_eq]
  rfl

/-- Saving and what comes after it, behind some work. -/
theorem runAndSave_eq {α β : Type} {ns : String} (run : Pipeline.Step α) (state : State)
    (f : Except ActuatorError α × State → Work β) :
    (runAndSave s ns run state).bind f =
      (Work.onPlane (run state)).bind fun left =>
        (Work.onStore (Store.save ns left.2 s.storeAttempts)).bind fun saved =>
          f (afterSaving left.1 saved, left.2) := by
  rw [runAndSave, bind_eq, Program.bind_assoc]
  exact congrArg _ (funext fun left => Program.bind_assoc _ _ _)

/-- A run that was saved has come to something if neither the run nor saving has failed. -/
theorem afterSaving_eq_ok_iff {ran : Except InfraError α} {saved : Except Store.StoreError Unit}
    {a : α} : afterSaving ran saved = .ok a ↔ ran = .ok a ∧ saved = .ok () := by
  rcases ran with e | a' <;> rcases saved with e' | u <;> simp [afterSaving]

/-! ### The records of the shared object -/

/-- Surroundings with an honest store that nothing but work on the object has to do with. -/
structure Keeps (answer : (e : Effect) → σ → e.Answer × σ) (object : σ → Store.Snapshot) :
    Prop where
  /-- The store is honest. -/
  store : Store.Honest (fun r => answer (.store r)) object
  /-- Nothing else has to do with the records. -/
  others : ∀ e : Effect, (∀ r, e ≠ .store r) → ∀ t,
    (object (answer e t).2).entries = (object t).entries

/-- **The testbed keeps its object**, whatever conflicts are due and whatever else it is told to
answer. -/
theorem keeps_testbed : Keeps Testbed.perform fun t => t.memory.snapshot where
  store :=
    { read := fun t => Store.honest_memory.read t.memory
      told := fun t => Store.honest_memory.told t.memory
      written := fun t => Store.honest_memory.written t.memory
      refused := fun t => Store.honest_memory.refused t.memory
      failed := fun t => Store.honest_memory.failed t.memory }
  others e he t := by
    cases e with
    | plane e | connect settings => rfl
    | store r => exact absurd rfl (he r)
    | publish ns status =>
      rw [Testbed.perform]
      split <;> rfl

namespace Keeps

variable {object : σ → Store.Snapshot} {ns : String}

/-- Work that asks nothing of the store leaves the records as they are. -/
theorem same (h : Keeps answer object) {p : Work α} {a : α} (hrun : p.run answer t = (some a, t'))
    (hnone : ∀ es, p.Trace es a → ∀ e ∈ es, ∀ r, e.1 ≠ .store r) :
    (object t').entries = (object t).entries := by
  exact (replies_asked hrun).invariant (R := fun t t' => (object t').entries = (object t).entries)
    (fun _ => rfl) (fun h h' => h'.trans h)
    fun e he t => h.others e.1 (hnone _ (trace_asked hrun) e he) t

/-- Work on the control plane leaves the records as they are. -/
theorem onPlane (h : Keeps answer object) {w : ControlPlane.Work α} {a : α}
    (hrun : (Work.onPlane w).run answer t = (some a, t')) :
    (object t').entries = (object t).entries := by
  refine h.same hrun fun es htrace e he r hr => ?_
  obtain ⟨es', -, rfl⟩ := trace_onPlane_iff.mp htrace
  obtain ⟨e', -, rfl⟩ := List.mem_map.mp he
  cases hr

/-- So does connecting. -/
theorem connected (h : Keeps answer object) {region : Region}
    {connected : Except ActuatorError Generation}
    (hrun : (connect s r region).run answer t = (some connected, t')) :
    (object t').entries = (object t).entries := by
  refine h.same hrun fun es htrace e he r hr => ?_
  obtain ⟨settings, hconnect⟩ := trace_connect htrace e he
  rw [hconnect] at hr
  cases hr

/-- So does publishing a status. -/
theorem announced (h : Keeps answer object) {status : Status}
    {result : Except ActuatorError Status}
    (hrun : (announce s ns status).run answer t = (some result, t')) :
    (object t').entries = (object t).entries := by
  refine h.same hrun fun es htrace e he r hr => ?_
  have hcalm := isCalm_of_trace_announce htrace e he
  rw [hr] at hcalm
  exact hcalm

/-- So does looking at the object. -/
theorem looked (h : Keeps answer object) {p : Work α} {a : α}
    (hrun : p.run answer t = (some a, t'))
    (hlooks : ∀ e ∈ asked answer p t, e.1 = .store .read ∨ ∃ settings, e.1 = .connect settings) :
    (object t').entries = (object t).entries := by
  refine (replies_asked hrun).invariant (R := fun t t' => (object t').entries = (object t).entries)
    (fun _ => rfl) (fun h h' => h'.trans h) fun e he t => ?_
  rcases hlooks e he with hread | ⟨settings, hconnect⟩
  · rw [hread]
    exact h.store.read t
  · rw [hconnect]
    exact h.others _ (fun r hr => by cases hr) t

/-- **What is loaded is what is kept.** -/
theorem loaded (h : Keeps answer object) {loaded : Except ActuatorError (Option State)}
    (hrun : (loadState ns).run answer t = (some loaded, t')) :
    (object t').entries = (object t).entries ∧
      ∀ known, loaded = .ok known → Store.stateIn ns (object t) = .ok known := by
  obtain ⟨result, t₁, hload, hdone⟩ := run_bind_eq_some_iff.mp hrun
  obtain ⟨rfl, rfl⟩ := run_done_eq_some_iff.mp hdone
  rw [run_onStore] at hload
  obtain ⟨hsame, hknown⟩ := h.store.load_cases hload
  refine ⟨hsame, fun known hok => hknown known ?_⟩
  cases result with
  | error e => contradiction
  | ok known' => exact congrArg _ (Except.ok.inj hok)

/-- **What becomes of a change to the records.** -/
theorem tried (h : Keeps answer object) (hsorted : (object t).entries.IsSorted)
    (c : Store.Change) {attempts : Nat} {result : Except Store.StoreError Unit}
    (hrun : (Work.onStore (c.work attempts)).run answer t = (some result, t')) :
    Store.Tried c.apply (object t).entries (object t').entries result := by
  rw [run_onStore] at hrun
  exact h.store.tried hsorted c hrun

/-- **A state that was saved is the one that is kept**, and nothing else has changed. -/
theorem saved (h : Keeps answer object) (hsorted : (object t).entries.IsSorted) {state : State}
    {attempts : Nat}
    (hrun : (Work.onStore (Store.save ns state attempts)).run answer t = (some (.ok ()), t')) :
    Store.stateIn ns (object t') = .ok (some state) ∧
      ∀ ns', ns' ≠ ns → (object t').entries.find? ns' = (object t).entries.find? ns' := by
  have hentries : (object t').entries = (object t).entries.insert ns (Store.recordOf state) :=
    (h.tried hsorted (.save ns state) hrun).made rfl
  rw [hentries]
  refine ⟨Store.stateIn_of_find? ?_, fun ns' hne => OrderedMap.find?_insert_of_ne _ hne _⟩
  rw [hentries, OrderedMap.find?_insert_self]

end Keeps

/-! ### Publishing -/

/-- What the publisher has answered, if this was asked of it. -/
def publisherAnswer? : Event → Option (Except PublishError Unit)
  | ⟨.publish _ _, answer⟩ => some answer
  | _ => none

/-- What the publisher has answered, in order. -/
def publisherAnswers (es : List Event) : List (Except PublishError Unit) :=
  es.filterMap publisherAnswer?

/-- Whether nothing was to be published. -/
def Silent (es : List Event) : Prop := ∀ e ∈ es, ∀ ns status, e.1 ≠ .publish ns status

theorem Silent.append {es' : List Event} (h : Silent es) (h' : Silent es') :
    Silent (es ++ es') := by
  intro e he
  rcases List.mem_append.mp he with he | he
  · exact h e he
  · exact h' e he

theorem silent_ofPlane (es : List Pipeline.Event) : Silent (es.map Event.ofPlane) := by
  intro e he ns status hpublish
  obtain ⟨e', -, rfl⟩ := List.mem_map.mp he
  cases hpublish

theorem silent_ofStore (es : List (Program.Event Store.interface)) :
    Silent (es.map Event.ofStore) := by
  intro e he ns status hpublish
  obtain ⟨e', -, rfl⟩ := List.mem_map.mp he
  cases hpublish

theorem silent_loadState (ns : String) (t : σ) : Silent (asked answer (loadState ns) t) := by
  rw [asked_loadState]
  exact silent_ofStore [_]

theorem silent_connect {region : Region} {connected : Except ActuatorError Generation}
    (h : (connect s r region).Trace es connected) : Silent es := by
  intro e he ns status hpublish
  obtain ⟨settings, hconnect⟩ := trace_connect h e he
  cases hconnect.symm.trans hpublish

/-- The publisher answers only what was to be published. -/
theorem Silent.publisherAnswers_append (h : Silent es) (es' : List Event) :
    publisherAnswers (es ++ es') = publisherAnswers es' := by
  have hnone : es.filterMap publisherAnswer? = [] := by
    refine List.filterMap_eq_nil_iff.mpr ?_
    rintro ⟨e, answer⟩ he
    cases e with
    | publish ns status => exact absurd rfl (h _ he ns status)
    | plane _ | connect _ | store _ => rfl
  rw [publisherAnswers, List.filterMap_append, hnone]
  rfl

/-- What publishing a status comes to, by the last answer of the publisher. -/
def verdict (status : Status) : Except PublishError Unit → Except ActuatorError Status
  | .error e => .error (.publish e)
  | .ok () => .ok status

/-- What was asked when a status was published: nothing but to publish it, again after each
conflict, and the last answer decides. -/
structure Announced (s : Settings) (ns : String) (status : Status) (es : List Event)
    (result : Except ActuatorError Status) : Prop where
  /-- Nothing else is asked for, but for pauses. -/
  only : ∀ e ∈ es, e.1 = .publish ns status ∨ ∃ time, e.1 = .plane (.sleep time)
  /-- All answers but the last are conflicts. -/
  answers : ∃ (conflicts : List PublishError) (last : Except PublishError Unit),
    conflicts.length < s.publishRetry.attempts ∧
    (∀ e ∈ conflicts, PublishError.isConflict e = true) ∧
    publisherAnswers es = conflicts.map .error ++ [last] ∧ result = verdict status last

theorem announce_eq (s : Settings) (ns : String) (status : Status) :
    announce s ns status =
      (Actuator.publish Work.publish Work.sleep s.publishRetry ns status).bind fun last =>
        .done (verdict status last) := by
  rw [announce, bind_eq]
  refine congrArg _ (funext fun last => ?_)
  cases last <;> rfl

/-- Publishing a status comes to an end, whatever the publisher answers. -/
theorem ends_announce (s : Settings) (ns : String) (status : Status) :
    (announce s ns status).Ends := by
  rw [announce_eq]
  refine Ends.bind (Ends.bind ?_ fun _ => .done _) fun _ => .done _
  refine RetryPolicy.ends_attemptFrom (fun u => ?_) (fun time => ends_request _) _ _ _
  exact (ends_request _).bind fun _ => .done _

/-- **What becomes of a status.** -/
theorem announced {ns : String} {status : Status} {result : Except ActuatorError Status}
    (h : (announce s ns status).Trace es result) : Announced s ns status es result := by
  rw [announce_eq] at h
  obtain ⟨last, h', rfl⟩ := trace_bind_done_iff.mp h
  obtain ⟨⟨last, u⟩, hattempts, rfl⟩ := trace_bind_done_iff.mp h'
  have honce : ∀ (u : Unit) es left,
      (do return (← Work.publish ns status, u) :
        Work (Except PublishError Unit × Unit)).Trace es left →
      es = [⟨.publish ns status, left.1⟩] := by
    intro u es left hone
    obtain ⟨answer, hrequest, rfl⟩ := trace_bind_done_iff.mp hone
    exact trace_request_iff.mp hrequest
  have hpause : ∀ time es u, (Work.sleep time).Trace es u → es = [⟨.plane (.sleep time), u⟩] :=
    fun time es u hone => trace_request_iff.mp hone
  refine ⟨RetryPolicy.trace_attemptFrom_forall (fun u es left hone => ?_)
    (fun time es u hone => ?_) hattempts, ?_⟩
  · rw [honce u es left hone]
    exact fun e he => .inl (congrArg Sigma.fst (List.mem_singleton.mp he))
  · rw [hpause time es u hone]
    exact fun e he => .inr ⟨time, congrArg Sigma.fst (List.mem_singleton.mp he)⟩
  · have houtcomes : ∃ conflicts : List PublishError,
        conflicts.length ≤ s.publishRetry.attempts - 1 ∧
        (∀ e ∈ conflicts, PublishError.isConflict e = true) ∧
        es.filterMap publisherAnswer? = conflicts.map .error ++ [last] := by
      refine RetryPolicy.trace_attemptFrom_outcomes (fun u es left hone => ?_)
        (fun time es u hone => ?_) hattempts
      · rw [honce u es left hone]
        rfl
      · rw [hpause time es u hone]
        rfl
    obtain ⟨conflicts, hlength, hconflicts, hanswers⟩ := houtcomes
    have hpositive : 0 < s.publishRetry.attempts :=
      Nat.lt_of_lt_of_le Nat.one_pos (Nat.le_max_left ..)
    exact ⟨conflicts, last, by omega, hconflicts, hanswers, rfl⟩

end Actuator

end ClusterNet
