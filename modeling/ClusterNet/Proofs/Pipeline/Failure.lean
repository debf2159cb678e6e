import ClusterNet.Proofs.Pipeline.Idempotence

/-!
# Where a run stops

A run that fails stops at one of its tasks. The tasks before it have done their work, those behind
it have asked for nothing, and the error carries the name of the task that it arose in.

What such a run has learnt is kept, so it matters that a failed task leaves nothing half written:
the reference of an object, its name and its address are recorded when the control plane has
confirmed the object, and in one go. What a failed task may leave is what it did before it came to
the object: a reference that it adopted, or an empty part for manager objects.

## Main definitions

* `Cluster.InfraError.IsBare` — an error that has not been put down to a task
* `Pipeline.Residue` — what a failed task may leave behind
* `Pipeline.FailedIn` — a task that failed

## Main results

* `Pipeline.failedIn_of_trace` — a task that fails leaves a residue and an error with its name
* `Pipeline.runTasks_failed` — the tasks before it have succeeded
* `Pipeline.run_fails_in_task` — both, for a run
-/

namespace ClusterNet

/-! ### Errors and tasks -/

/-- An error that has not been put down to a task. -/
def Cluster.InfraError.IsBare (e : Cluster.InfraError) : Prop :=
  ∀ label source, e ≠ .task label source

namespace Pipeline

open Cluster (InfraError Reference Slot Spec State)
open ControlPlane Program

theorem isBare_api (e : ApiError) : (InfraError.api e).IsBare := nofun

theorem isBare_lookupNotFound (kind name : String) : (InfraError.lookupNotFound kind name).IsBare :=
  nofun

theorem isBare_realizationTimeout (path : String) (timeout : Duration) :
    (InfraError.realizationTimeout path timeout).IsBare :=
  nofun

theorem isBare_missingDependency (task dependency : String) :
    (InfraError.missingDependency task dependency).IsBare := by
  intro label source h
  cases h

/-- The task that a bare error is put down to is the one that counts. -/
theorem inTask_of_isBare {e : InfraError} (h : e.IsBare) (label : String) :
    e.inTask label = .task label e := by
  cases e with
  | task label' source => exact absurd rfl (h label' source)
  | lookupNotFound | missingDependency | realizationTimeout | cidr | invalidSpec | api => rfl

/-- A computation whose errors have not been put down to a task. -/
def FailsBare {α : Type} (x : Except InfraError α) : Prop := ∀ e, x = .error e → e.IsBare

variable {α β : Type}

theorem failsBare_ok (a : α) : FailsBare (.ok a : Except InfraError α) := nofun

theorem failsBare_error {e : InfraError} (h : e.IsBare) :
    FailsBare (.error e : Except InfraError α) := by
  rintro e' ⟨⟩
  exact h

theorem FailsBare.bind {x : Except InfraError α} {f : α → Except InfraError β}
    (hx : FailsBare x) (hf : ∀ a, FailsBare (f a)) : FailsBare (x >>= f) := by
  cases x with
  | error e => exact failsBare_error (hx e rfl)
  | ok a => exact hf a

theorem failsBare_mapError {ε : Type} {x : Except ε α} {f : ε → InfraError}
    (h : ∀ e, (f e).IsBare) : FailsBare (x.mapError f) := by
  cases x with
  | error e => exact failsBare_error (h e)
  | ok a => exact failsBare_ok a

theorem failsBare_require (task : String) (s : State) (slot : Slot) :
    FailsBare (require task s slot) := by
  rw [require]
  cases s.reference slot with
  | none => exact failsBare_error (isBare_missingDependency task _)
  | some r => exact failsBare_ok r

theorem failsBare_requireAddress (task : String) (s : State) :
    FailsBare (requireAddress task s) := by
  rw [requireAddress]
  cases s.snatIpAddress with
  | none => exact failsBare_error (isBare_missingDependency task _)
  | some address => exact failsBare_ok address

/-- What is missing for a draft is a dependency, or an address plan. -/
theorem failsBare_draft (identity : ClusterIdentity) (spec : Spec) (s : State) (k : Kind) :
    FailsBare (draft identity spec s k) := by
  have hrequire := failsBare_require (label k) s
  have hplan : FailsBare spec.addressPlan := failsBare_mapError nofun
  have hworkers : FailsBare (workersNetwork spec) := failsBare_mapError nofun
  match k with
  | .policy .tier1 | .policy .ipAllocation | .manager .dhcpProfile =>
    exact (hrequire _).bind fun _ => failsBare_ok _
  | .policy .localeService | .manager .logicalPort =>
    exact (hrequire _).bind fun _ => (hrequire _).bind fun _ => failsBare_ok _
  | .policy .dhcpServerConfig | .manager .dhcpServer | .manager .dhcpIpPool =>
    exact (hrequire _).bind fun _ => hplan.bind fun _ => failsBare_ok _
  | .policy .segment =>
    exact (hrequire _).bind fun _ => (hrequire _).bind fun _ => hplan.bind fun _ => failsBare_ok _
  | .policy .natRule =>
    exact (failsBare_requireAddress _ s).bind fun _ => hworkers.bind fun _ =>
      (hrequire _).bind fun _ => failsBare_ok _

/-! ### What a failed task leaves behind -/

section Residue

variable {k : Kind} {t : Task} {c : Context} {spec : Spec} {s s' : State} {es : List Event}
  {e : InfraError}

/-- An object is only kept from being created by the control plane. -/
theorem Built.failed {parent : String} {o : k.Object} (h : Built parent s k o es (.error e, s')) :
    (∃ e', e = .api e') ∧ s' = s := by
  cases h with
  | undeclared id e => exact ⟨⟨e, rfl⟩, rfl⟩
  | nameless hid => exact ⟨⟨_, rfl⟩, rfl⟩
  | uncreated e => exact ⟨⟨e, rfl⟩, rfl⟩

/-- An object is only kept from being changed by the control plane. -/
theorem Overwritten.failed {place : Place} {current desired : k.Object}
    (h : Overwritten place s k current desired es (.error e, s')) :
    (∃ e', e = .api e') ∧ s' = s := by
  cases h with
  | undeclared e => exact ⟨⟨e, rfl⟩, rfl⟩
  | refused e => exact ⟨⟨e, rfl⟩, rfl⟩

/-- An object that can be drafted is only kept from being brought about by the control plane. -/
theorem Ensured.failed (h : Ensured k c spec s es (.error e, s')) :
    (draft c.identity spec s k = .error e ∧ s' = s) ∨ ((∃ e', e = .api e') ∧ s' = opened k s) := by
  cases h with
  | undrafted hdraft => exact .inl ⟨hdraft, rfl⟩
  | first hdraft href h => exact .inr h.failed
  | changed hdraft href hagrees h => exact .inr h.failed
  | again hdraft href he h => exact .inr h.failed
  | unread hdraft href he => exact .inr ⟨⟨_, rfl⟩, rfl⟩

/-- Looking up fails with the control plane, or because nothing was found. -/
theorem bound_failed {task name : String} {slot : Slot} {reference : α → Reference}
    {found : Except ApiError (Option α)}
    (h : bound task name slot reference s found = (.error e, s')) :
    ((∃ e', e = .api e') ∨ e = .lookupNotFound task name) ∧ s' = s := by
  match found, h with
  | .error e, rfl => exact ⟨.inl ⟨e, rfl⟩, rfl⟩
  | .ok none, rfl => exact ⟨.inr rfl, rfl⟩

theorem arrived_failed {result : Except InfraError String} (h : arrived s result = (.error e, s')) :
    result = .error e ∧ s' = s := by
  match result, h with
  | .error e, rfl => exact ⟨rfl, rfl⟩

/-- A wait fails with the control plane, or because time is up. -/
theorem awaitAddress_failed {schedule : RealizationSchedule} {path : String} {polls : Nat}
    (h : (awaitAddress schedule path polls).Trace es (.error e)) :
    (∃ e', e = .api e') ∨ e = .realizationTimeout path schedule.timeout := by
  refine trace_loop_result
    (P := fun result => ∀ e, result = .error e →
      (∃ e', e = .api e') ∨ e = .realizationTimeout path schedule.timeout) ?_ h e rfl
  intro w es result hpoll e hresult
  obtain ⟨answer, es', rfl, h'⟩ := trace_request_bind_iff.mp hpoll
  split at h'
  · next polled hpolled =>
    obtain ⟨-, hresult'⟩ := trace_done_iff.mp h'
    obtain rfl : polled = .error e := (Sum.inr.inj hresult').symm.trans hresult
    match answer, hpolled with
    | .ok entities, hpolled =>
      obtain ⟨address, -, haddress⟩ := Option.map_eq_some_iff.mp hpolled
      cases haddress
    | .error e', hpolled =>
      simp only [pollResult] at hpolled
      split at hpolled
      · cases hpolled
      · exact .inl ⟨e', (Except.error.inj (Option.some.inj hpolled)).symm⟩
  · split at h'
    · obtain ⟨-, hresult'⟩ := trace_done_iff.mp h'
      exact .inr (Except.error.inj ((Sum.inr.inj hresult').symm.trans hresult)).symm
    · obtain ⟨_, _, _, hnext⟩ := trace_request_bind_iff.mp h'
      cases (trace_done_iff.mp hnext).2

theorem Task.ensure_failed (h : (t.ensure c spec s).Trace es (.error e, s')) :
    e.IsBare ∧ (s' = s ∨ ∃ k, t = .managed k ∧ s' = opened k s) := by
  cases t with
  | lookUp catalog =>
    rw [Task.ensure, lookUp_eq, trace_bind_done_iff] at h
    obtain ⟨found, -, hbound⟩ := h
    obtain ⟨⟨e', rfl⟩ | rfl, hsame⟩ := bound_failed hbound.symm
    · exact ⟨isBare_api e', .inl hsame⟩
    · exact ⟨isBare_lookupNotFound _ _, .inl hsame⟩
  | managed k =>
    rcases (ensured_of_trace h).failed with ⟨hdraft, hsame⟩ | ⟨⟨e', rfl⟩, hopened⟩
    · exact ⟨failsBare_draft _ _ _ _ _ hdraft, .inl hsame⟩
    · exact ⟨isBare_api e', .inr ⟨k, rfl, hopened⟩⟩
  | realization =>
    rw [Task.ensure, realize_eq] at h
    split at h
    · obtain ⟨-, hleft⟩ := trace_done_iff.mp h
      obtain ⟨he, rfl⟩ := Prod.mk.inj hleft
      obtain rfl := Except.error.inj he
      exact ⟨isBare_missingDependency _ _, .inl rfl⟩
    · obtain ⟨result, hawait, hleft⟩ := trace_bind_done_iff.mp h
      obtain ⟨rfl, rfl⟩ := arrived_failed hleft.symm
      rcases awaitAddress_failed hawait with ⟨e', rfl⟩ | rfl
      · exact ⟨isBare_api e', .inl rfl⟩
      · exact ⟨isBare_realizationTimeout _ _, .inl rfl⟩
  | lookUpSwitch =>
    rw [Task.ensure, lookUpSwitch_eq] at h
    split at h
    · obtain ⟨-, hleft⟩ := trace_done_iff.mp h
      obtain ⟨he, rfl⟩ := Prod.mk.inj hleft
      obtain rfl := Except.error.inj he
      exact ⟨isBare_missingDependency _ _, .inl rfl⟩
    · obtain ⟨found, -, hbound⟩ := trace_bind_done_iff.mp h
      obtain ⟨⟨e', rfl⟩ | rfl, hsame⟩ := bound_failed hbound.symm
      · exact ⟨isBare_api e', .inl hsame⟩
      · exact ⟨isBare_lookupNotFound _ _, .inl hsame⟩

/-- What a failed task may leave of the state that it was given. -/
inductive Residue (t : Task) (c : Context) (s : State) (es : List Event) : State → Prop
  /-- The state as it was. -/
  | same : Residue t c s es s
  /-- A part for manager objects that was missing and is empty. -/
  | opened {k : ManagerKind} (htask : t = .managed (.manager k)) (hdhcp : s.dhcp = none) :
    Residue t c s es { s with dhcp := some {} }
  /-- The reference that the task was to recover. -/
  | adopted {k : ManagerKind} {es₁ es₂ : List Event} {r : Reference}
    (htask : t = .managed (.manager k)) (henabled : c.recoveryEnabled = true)
    (hlost : t.reference s = none) (hes : es = es₁ ++ es₂)
    (h : (adopt k c s).Trace es₁ (.ok true, s.withReference (slot (.manager k)) (some r))) :
    Residue t c s es (s.withReference (slot (.manager k)) (some r))

/-- Opening the part for manager objects does something only where it is missing. -/
theorem opened_cases (k : Kind) (s : State) :
    opened k s = s ∨
      ∃ mk, k = .manager mk ∧ s.dhcp = none ∧ opened k s = { s with dhcp := some {} } := by
  cases k with
  | policy k => exact .inl rfl
  | manager k =>
    obtain ⟨⟩ := s
    rename_i dhcp
    cases dhcp with
    | none => exact .inr ⟨k, rfl, rfl, rfl⟩
    | some d => exact .inl rfl

theorem slot_manager_isDhcp (k : ManagerKind) : (slot (.manager k)).isDhcp = true := by
  cases k <;> rfl

/-- The ways in which an adoption can go. -/
theorem adopted_cases {k : ManagerKind} {left : Left Bool} (h : (adopt k c s).Trace es left) :
    (∃ e, left = (.error (.api e), s)) ∨ left = (.ok false, s) ∨
      ∃ parent id, listingParent k s = some parent ∧
        left =
          (.ok true, s.withReference (slot (.manager k)) (some ⟨id, k.path ⟨parent, id⟩⟩)) := by
  rw [adopt_eq] at h
  split at h
  · exact .inr (.inl (trace_done_iff.mp h).2)
  · next parent hparent =>
    obtain ⟨found, -, rfl⟩ := trace_bind_done_iff.mp h
    match found with
    | .error e => exact .inl ⟨e, rfl⟩
    | .ok o =>
      simp only [adopted]
      cases o.bind k.id? with
      | none => exact .inr (.inl rfl)
      | some id => exact .inr (.inr ⟨parent, id, hparent, rfl⟩)

/-- Where recovery is disabled, no task is recovered. -/
theorem recoverIfLost_disabled (hdisabled : c.recoveryEnabled = false) (t : Task) (s : State) :
    recoverIfLost t c s = .done (.ok (), s) := by
  rw [recoverIfLost, hdisabled]
  rfl

/-- A state that a task's reference was recovered in, if it is not the one that was given. -/
def Recovered (t : Task) (c : Context) (s : State) (es : List Event) (s' : State) : Prop :=
  ∃ k parent id, t = .managed (.manager k) ∧ c.recoveryEnabled = true ∧ t.reference s = none ∧
    listingParent k s = some parent ∧
    s' = s.withReference (slot (.manager k)) (some ⟨id, k.path ⟨parent, id⟩⟩) ∧
    (adopt k c s).Trace es (.ok true, s')

/-- Recovering leaves the state alone, or fills the slot that was empty. -/
theorem recoverIfLost_left {left : Left Unit} (h : (recoverIfLost t c s).Trace es left) :
    (∃ e, left = (.error (.api e), s)) ∨
      ∃ s', left = (.ok (), s') ∧ (s' = s ∨ Recovered t c s es s') := by
  rcases recoverIfLost_cases t c s with hrecover | ⟨k, htask, hlost, hrecover⟩
  · rw [hrecover] at h
    exact .inr ⟨s, (trace_done_iff.mp h).2, .inl rfl⟩
  · cases henabled : c.recoveryEnabled with
    | false =>
      rw [recoverIfLost_disabled henabled] at h
      exact .inr ⟨s, (trace_done_iff.mp h).2, .inl rfl⟩
    | true =>
      rw [hrecover] at h
      obtain ⟨left', hadopt, rfl⟩ := trace_bind_done_iff.mp h
      rcases adopted_cases hadopt with ⟨e, rfl⟩ | rfl | ⟨parent, id, hparent, rfl⟩
      · exact .inl ⟨e, rfl⟩
      · exact .inr ⟨s, rfl, .inl rfl⟩
      · exact .inr ⟨_, rfl, .inr ⟨k, parent, id, htask, henabled, hlost, hparent, rfl, hadopt⟩⟩

/-- What a task leaves behind that fails at its object, as it was given. -/
theorem residue_of_ensure (h : s' = s ∨ ∃ k, t = .managed k ∧ s' = opened k s) :
    Residue t c s es s' := by
  rcases h with rfl | ⟨k, htask, rfl⟩
  · exact .same
  · rcases opened_cases k s with hsame | ⟨mk, rfl, hdhcp, hopened⟩
    · rw [hsame]
      exact .same
    · rw [hopened]
      exact .opened htask hdhcp

/-- What a task leaves behind that fails at its object, when it was recovered before. The reference
lies in the part for manager objects, so that part is there already. -/
theorem Recovered.residue {s₁ : State} {es₁ : List Event} (h : Recovered t c s es₁ s₁)
    (hleft : s' = s₁ ∨ ∃ k, t = .managed k ∧ s' = opened k s₁) (es₂ : List Event) :
    Residue t c s (es₁ ++ es₂) s' := by
  obtain ⟨k, parent, id, htask, henabled, hlost, -, rfl, hadopt⟩ := h
  have hset : (s.withReference (slot (.manager k)) (some ⟨id, k.path ⟨parent, id⟩⟩)).reference
      (slot (.manager k)) = some ⟨id, k.path ⟨parent, id⟩⟩ := State.reference_withReference_self ..
  have hsame : s' = s.withReference (slot (.manager k)) (some ⟨id, k.path ⟨parent, id⟩⟩) := by
    rcases hleft with hsame | ⟨k', htask', hopened⟩
    · exact hsame
    · obtain rfl : Kind.manager k = k' := Task.managed.inj (htask.symm.trans htask')
      exact hopened.trans (State.withDhcp_of_reference (slot_manager_isDhcp k) hset)
  rw [hsame]
  exact .adopted htask henabled hlost rfl hadopt

/-- A task that failed. -/
structure FailedIn (t : Task) (c : Context) (spec : Spec) (s : State) (es : List Event)
    (e : InfraError) (s' : State) : Prop where
  /-- It was run. -/
  trace : (runTask t c spec s).Trace es (.error e, s')
  /-- The error carries its name, and no other. -/
  labelled : ∃ source : InfraError, source.IsBare ∧ e = .task t.label source
  /-- It left nothing half written. -/
  residue : Residue t c s es s'

/-- A task fails with the control plane when it recovers, or else at what it looks after. -/
theorem runTask_failed (h : (runTask t c spec s).Trace es (.error e, s')) :
    ((∃ e', e = .task t.label (.api e')) ∧ s' = s) ∨
      ∃ es₁ es₂ s₁ source, es = es₁ ++ es₂ ∧ (s₁ = s ∨ Recovered t c s es₁ s₁) ∧
        (t.ensure c spec s₁).Trace es₂ (.error source, s') ∧ e = .task t.label source := by
  rw [runTask, bind_eq, trace_bind_iff] at h
  obtain ⟨es₁, es₂, left, rfl, h₁, h₂⟩ := h
  rcases recoverIfLost_left h₁ with ⟨e', rfl⟩ | ⟨s₁, rfl, hrecovered⟩
  · obtain ⟨-, hleft⟩ := trace_done_iff.mp h₂
    obtain ⟨he, rfl⟩ := Prod.mk.inj hleft
    exact .inl ⟨⟨e', Except.error.inj he⟩, rfl⟩
  · obtain ⟨⟨result, s₂⟩, h₃, hleft⟩ := trace_bind_done_iff.mp h₂
    cases result with
    | ok action => cases (Prod.mk.inj hleft).1
    | error source =>
      obtain ⟨he, rfl⟩ := Prod.mk.inj hleft
      have hlabel : e = .task t.label source :=
        (Except.error.inj he).trans (inTask_of_isBare (Task.ensure_failed h₃).1 t.label)
      exact .inr ⟨es₁, es₂, s₁, source, rfl, hrecovered, h₃, hlabel⟩

/-- **A task that fails leaves nothing half written**, and its error carries its name. -/
theorem failedIn_of_trace (h : (runTask t c spec s).Trace es (.error e, s')) :
    FailedIn t c spec s es e s' := by
  rcases runTask_failed h with ⟨⟨e', hlabel⟩, rfl⟩ |
    ⟨es₁, es₂, s₁, source, rfl, hrecovered, hensure, hlabel⟩
  · exact ⟨h, ⟨.api e', isBare_api e', hlabel⟩, .same⟩
  · obtain ⟨hbare, hstate⟩ := Task.ensure_failed hensure
    refine ⟨h, ⟨source, hbare, hlabel⟩, ?_⟩
    rcases hrecovered with rfl | hrecovered
    · exact residue_of_ensure hstate
    · exact hrecovered.residue hstate es₂

/-! ### Runs -/

/-- Tasks that are gone through stop at the first that fails: those before it have succeeded, and
those behind it are not part of the trace. -/
theorem runTasks_failed {ts : List Task} (h : (runTasks c spec ts s).Trace es (.error e, s')) :
    ∃ before t after outcomes s₁ es₁ es₂, ts = before ++ t :: after ∧ es = es₁ ++ es₂ ∧
      (runTasks c spec before s).Trace es₁ (.ok outcomes, s₁) ∧ FailedIn t c spec s₁ es₂ e s' := by
  induction ts generalizing s es with
  | nil => cases (Prod.mk.inj (trace_done_iff.mp h).2).1
  | cons t ts ih =>
    rw [runTasks, bind_eq, trace_bind_iff] at h
    obtain ⟨es₁, es₂, ⟨result, s₁⟩, rfl, h₁, h₂⟩ := h
    cases result with
    | error e₁ =>
      obtain ⟨rfl, hleft⟩ := trace_done_iff.mp h₂
      obtain ⟨he, rfl⟩ := Prod.mk.inj hleft
      obtain rfl := Except.error.inj he
      exact ⟨[], t, ts, [], s, [], es₁, rfl, List.append_nil es₁, .done _, failedIn_of_trace h₁⟩
    | ok action =>
      obtain ⟨⟨rest, s₂⟩, h₃, hleft⟩ := trace_bind_done_iff.mp h₂
      cases rest with
      | ok outcomes => cases (Prod.mk.inj hleft).1
      | error e₂ =>
        obtain ⟨he, rfl⟩ := Prod.mk.inj hleft
        obtain rfl := Except.error.inj he
        obtain ⟨before, t', after, outcomes, s₃, es₃, es₄, rfl, rfl, hbefore, hfailed⟩ := ih h₃
        refine ⟨t :: before, t', after, ⟨t.label, action⟩ :: outcomes, s₃, es₁ ++ es₃, es₄, rfl,
          (List.append_assoc es₁ es₃ es₄).symm, ?_, hfailed⟩
        rw [runTasks, bind_eq, trace_bind_iff]
        exact ⟨es₁, es₃, _, rfl, h₁, trace_bind_done_iff.mpr ⟨_, hbefore, rfl⟩⟩

end Residue

/-- **A failed run stops cleanly.** If the specification is not valid, nothing is asked for and the
state is as it was. Otherwise, whatever is answered, a run that fails does so in one of its tasks:
the error carries that task's name, what is asked for is what the tasks before it and the task
itself ask for, and the state is the one that the tasks before it come to under the same answers,
but for a reference that the task adopted or an empty part for manager objects. -/
theorem run_fails_in_task (g : Generation) (c : Context) (spec : Spec) (s : State) :
    (∀ e, spec.validate = .error e → run g c spec s = .done (.error e, s)) ∧
    (spec.validate = .ok () → ∀ es e s', (run g c spec s).Trace es (.error e, s') →
      ∃ before t after outcomes s₁ es₁ es₂, tasks g = before ++ t :: after ∧ es = es₁ ++ es₂ ∧
        (runTasks c spec before s).Trace es₁ (.ok outcomes, s₁) ∧
        FailedIn t c spec s₁ es₂ e s') := by
  refine ⟨fun e hinvalid => ?_, fun hvalid es e s' h => ?_⟩
  · rw [run, hinvalid]
  · rw [run, hvalid] at h
    exact runTasks_failed h

/-- A context in which lost references are recovered. -/
def recovering : Context :=
  { identity := typicalCluster.identity, recoveryEnabled := true, rounds := 3 }

/-- A region in which someone left a DHCP profile of the cluster that cannot be read. -/
def profileLeft : Testbed where
  plane := ((({} : Simulator).withRegion.addProfile
    { tags := typicalCluster.identity.tags }).2.failNext (.get (.manager .dhcpProfile)))

/-- A cluster without a name has no run, and a run that stops at the DHCP profile keeps the
reference to it that it recovered. -/
theorem run_fails_in_task_recovering :
    run .v2 recovering { typicalCluster with clusterName := "" } .fresh =
      .done (.error (.invalidSpec "clusterName must not be empty"), .fresh) ∧
    ∃ es e s', (run .v2 recovering typicalCluster .fresh).Trace es (.error e, s') ∧
      (s'.reference .dhcpProfile).isSome ∧
      ∃ before t after outcomes s₁ es₁ es₂, tasks .v2 = before ++ t :: after ∧ es = es₁ ++ es₂ ∧
        (runTasks recovering typicalCluster before .fresh).Trace es₁ (.ok outcomes, s₁) ∧
        FailedIn t recovering typicalCluster s₁ es₂ e s' := by
  refine ⟨(run_fails_in_task .v2 recovering _ .fresh).1 _ rfl, ?_⟩
  have hvalid : typicalCluster.validate = .ok () := rfl
  have hrecovered : ((run .v2 recovering typicalCluster .fresh).run
      Testbed.perform profileLeft).1.any (fun left =>
        !left.1.isOk && (left.2.reference .dhcpProfile).isSome) = true := by decide +kernel
  obtain ⟨⟨result, s'⟩, hleft, hresult⟩ := (Option.any_eq_true _ _).mp hrecovered
  obtain ⟨herror, hset⟩ := (Bool.and_eq_true _ _).mp hresult
  cases result with
  | ok outcomes => exact nomatch herror
  | error e =>
    obtain ⟨es, htrace⟩ := exists_trace_of_run hleft
    exact ⟨es, e, s', htrace, hset,
      (run_fails_in_task .v2 recovering typicalCluster .fresh).2 hvalid es e s' htrace⟩

end Pipeline

end ClusterNet
