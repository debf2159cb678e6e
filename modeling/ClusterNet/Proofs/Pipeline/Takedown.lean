import ClusterNet.Proofs.Pipeline.Failure
import ClusterNet.Proofs.Pipeline.Teardown
import Mathlib.Data.List.Forall2

/-!
# What a takedown deletes

A takedown asks for nothing but deletions. It goes through the tasks backwards and deletes the
object of each reference that is held, up to the first deletion that fails. What it has deleted is
forgotten, and what it has not come to is known as before, so the next takedown goes on where this
one stopped.

Which deletions these are can be said of the state at the start. A deletion depends on the
reference to its object and on the one to the object's owner, and no earlier task of a takedown
empties either of them (`Pipeline.OwnersLast`).

## Main definitions

* `Pipeline.held` — the kinds whose references are held, in the order of some tasks
* `Pipeline.Deletes`, `Pipeline.Blocked` — the deletion of what a reference points at, and how it
  fails
* `Pipeline.Cleared` — what deletions do to a state
* `Pipeline.Completed` — tasks that are done

## Main results

* `Pipeline.Task.remove_cases` — one task is done, or its deletion fails
* `Pipeline.removeAll_cases` — tasks are done up to the first whose deletion fails
* `Pipeline.removeAll_references` — tasks forget nothing that they have not deleted
* `Pipeline.takeDownTasks_exact` — a takedown is exact and can be resumed
-/

namespace ClusterNet

namespace Pipeline

open Cluster (InfraError Reference Slot Spec State)
open ControlPlane Program

variable {s s' s₁ : State} {k : Kind} {t : Task} {ts : List Task} {es es₁ es₂ : List Event}
  {g : Generation}

/-! ### Deletions -/

/-- The kind of objects that a task looks after. -/
def Task.kind? : Task → Option Kind
  | managed k => some k
  | _ => none

/-- The kinds of objects that tasks look after and that a state refers to, in their order. -/
def held (ts : List Task) (s : State) : List Kind :=
  (ts.filterMap Task.kind?).filter fun k => (s.reference (slot k)).isSome

/-- A request to delete the object that a state refers to, with the answer. -/
def Deletes (s : State) (k : Kind) (answer : Except ApiError Unit) (e : Event) : Prop :=
  ∃ r parent, s.reference (slot k) = some r ∧ ownerOf k s r = .ok parent ∧
    e = called (.delete k ⟨parent, r.id⟩) answer

/-- Whether an answer to a deletion says that the object is not there any more. -/
def isGone : Except ApiError Unit → Bool
  | .ok () => true
  | .error e => e.isNotFound

/-- The name of the task whose object was deleted by a request. -/
def deletedLabel? : Event → Option String
  | ⟨.call (.delete k _), .ok _⟩ => some (label k)
  | _ => none

/-- How the deletion of what a state refers to fails. -/
inductive Blocked (k : Kind) (s : State) : List Event → InfraError → Prop
  /-- It is not known what the object belongs to, and nothing is asked. -/
  | ownerless {r : Reference} {e : InfraError} (href : s.reference (slot k) = some r)
    (howner : ownerOf k s r = .error e) : Blocked k s [] e
  /-- The deletion is refused, and not because the object does not exist. -/
  | refused {e : ApiError} {event : Event} (he : e.isNotFound = false)
    (h : Deletes s k (.error e) event) : Blocked k s [event] (.api e)

/-! ### What is left of a state -/

/-- What deletions do to a state: the slots of the tasks are emptied, with what goes with them, and
everything else is as it was. The part for manager objects may be dropped, which shows only where
it is empty. -/
structure Cleared (ts : List Task) (s s' : State) : Prop where
  /-- The slots of the tasks are empty. -/
  lost : ∀ slot' ∈ slotsOf ts, s'.reference slot' = none
  /-- The others are as they were. -/
  kept : ∀ slot', slot' ∉ slotsOf ts → s'.reference slot' = s.reference slot'
  /-- The segment's name goes with the segment. -/
  name : s'.segmentName = if segmentTask ∈ ts then none else s.segmentName
  /-- The address goes with the task that waited for it. -/
  address : s'.snatIpAddress = if .realization ∈ ts then none else s.snatIpAddress
  /-- The version is as it was. -/
  version : s'.version = s.version
  /-- Whether objects may have been created is not touched. -/
  started : s'.creationStarted = s.creationStarted
  /-- The part for manager objects is not created. -/
  dhcp : s.dhcp = none → s'.dhcp = none

theorem Cleared.refl (s : State) : Cleared [] s s :=
  ⟨nofun, fun _ _ => rfl, rfl, rfl, rfl, rfl, id⟩

theorem slotsOf_append (ts ts' : List Task) : slotsOf (ts ++ ts') = slotsOf ts ++ slotsOf ts' :=
  List.filterMap_append

theorem Cleared.append {ts' : List Task} (h : Cleared ts s s₁) (h' : Cleared ts' s₁ s') :
    Cleared (ts ++ ts') s s' where
  lost slot' hmem := by
    by_cases hlater : slot' ∈ slotsOf ts'
    · exact h'.lost slot' hlater
    · rw [slotsOf_append, List.mem_append] at hmem
      rw [h'.kept slot' hlater, h.lost slot' (hmem.resolve_right hlater)]
  kept slot' hnot := by
    rw [slotsOf_append, List.mem_append, not_or] at hnot
    rw [h'.kept slot' hnot.2, h.kept slot' hnot.1]
  name := by
    rw [h'.name, h.name]
    by_cases hmem : segmentTask ∈ ts' <;> simp [hmem]
  address := by
    rw [h'.address, h.address]
    by_cases hmem : Task.realization ∈ ts' <;> simp [hmem]
  version := h'.version.trans h.version
  started := h'.started.trans h.started
  dhcp hnone := h'.dhcp (h.dhcp hnone)

/-- Emptying the slot of a task, where nothing goes with it. -/
theorem cleared_forgetting (t : Task) {slot' : Slot} (hslot : t.slot = some slot')
    (hsegment : t ≠ segmentTask) (s : State) : Cleared [t] s (s.forgetting slot') where
  lost slot'' hmem := by
    rw [slotsOf_cons_some hslot, slotsOf, List.filterMap_nil, List.mem_singleton] at hmem
    rw [hmem, State.reference_forgetting_self]
  kept slot'' hnot := by
    rw [slotsOf_cons_some hslot, slotsOf, List.filterMap_nil, List.mem_singleton] at hnot
    exact State.reference_forgetting_of_ne s hnot
  name := by
    rw [State.segmentName_forgetting, if_neg fun hmem => hsegment (List.mem_singleton.mp hmem).symm]
  address := by
    refine (State.snatIpAddress_forgetting s slot').trans (if_neg ?_).symm
    intro hmem
    rw [← List.mem_singleton.mp hmem] at hslot
    exact nomatch hslot
  version := State.version_forgetting s slot'
  started := State.creationStarted_forgetting s slot'
  dhcp hnone := State.dhcp_forgetting_of_eq_none hnone slot'

/-- Nothing goes with the reference to an object that is not the segment. -/
theorem forgotten_eq_forgetting (h : k ≠ .policy .segment) (s : State) :
    forgotten k s = s.forgetting (slot k) := by
  match k, h with
  | .policy .tier1, _ | .policy .localeService, _ | .policy .ipAllocation, _ | .policy .natRule, _
  | .policy .dhcpServerConfig, _ | .manager _, _ => rfl

theorem cleared_forgotten (k : Kind) (s : State) : Cleared [.managed k] s (forgotten k s) := by
  by_cases hk : k = .policy .segment
  · subst hk
    refine ⟨fun slot' hmem => ?_, fun slot' hnot => ?_, rfl, rfl, rfl, rfl, id⟩
    · obtain rfl : slot' = .segment := List.mem_singleton.mp hmem
      rfl
    · have hne : slot' ≠ .segment := fun heq => hnot (List.mem_singleton.mpr heq)
      exact reference_forgotten_of_ne (.policy .segment) s hne
  · rw [forgotten_eq_forgetting hk]
    exact cleared_forgetting (.managed k) rfl (fun heq => hk (Task.managed.inj heq)) s

theorem cleared_withoutObject (href : s.reference (slot k) = none) :
    Cleared [.managed k] s (withoutObject k s) := by
  match k with
  | .manager .dhcpIpPool =>
    refine ⟨fun slot' hmem => ?_, fun _ _ => rfl, rfl, rfl, rfl, rfl, id⟩
    obtain rfl : slot' = .dhcpIpPool := List.mem_singleton.mp hmem
    exact href
  | .policy _ | .manager .dhcpProfile | .manager .dhcpServer | .manager .logicalPort =>
    exact cleared_forgotten _ s

/-! ### Tasks that are done -/

/-- Whatever is in the first of two lists that go together is related to something in the second. -/
theorem exists_of_mem_left {α β : Type} {R : α → β → Prop} {as : List α} {bs : List β}
    (h : List.Forall₂ R as bs) {a : α} (hmem : a ∈ as) : ∃ b ∈ bs, R a b := by
  induction h with
  | nil => exact absurd hmem List.not_mem_nil
  | cons hhead _ ih =>
    rcases List.mem_cons.mp hmem with rfl | hmem
    · exact ⟨_, .head _, hhead⟩
    · obtain ⟨b, hb, hrelated⟩ := ih hmem
      exact ⟨b, .tail _ hb, hrelated⟩

/-- Tasks that are done: what a state referred to was deleted, one request for each reference in the
order of the tasks, and is not there any more. -/
structure Completed (ts : List Task) (s : State) (es : List Event) (labels : List String)
    (s' : State) : Prop where
  /-- The requests are the deletions of what was referred to. -/
  deletions : List.Forall₂ (fun k e => ∃ answer, isGone answer = true ∧ Deletes s k answer e)
    (held ts s) es
  /-- The result names the tasks whose deletions were carried out. -/
  labels : labels = es.filterMap deletedLabel?
  /-- What was deleted is forgotten. -/
  cleared : Cleared ts s s'

/-- What can be in the way of a deletion is not put down to a task yet. -/
theorem failsBare_ownerOf (k : Kind) (s : State) (r : Reference) : FailsBare (ownerOf k s r) := by
  have hrequire : ∀ slot', FailsBare ((require (label k) s slot').map (·.id)) := fun slot' => by
    have hbare := failsBare_require (label k) s slot'
    cases hr : require (label k) s slot' with
    | ok r' => exact failsBare_ok r'.id
    | error e => exact failsBare_error (hbare e hr)
  match k with
  | .policy .ipAllocation | .manager .dhcpIpPool => exact hrequire _
  | .policy .localeService | .policy .segment | .policy .natRule =>
    simp only [ownerOf, PolicyKind.isOfTier1, if_true]
    split
    · exact failsBare_ok _
    · exact failsBare_error (isBare_missingDependency _ _)
  | .policy .tier1 | .policy .dhcpServerConfig | .manager .dhcpProfile | .manager .dhcpServer
  | .manager .logicalPort => exact failsBare_ok _

/-- A task without a reference is done without a request. -/
theorem completed_of_held_eq_nil (hheld : held [t] s = []) (h : Cleared [t] s s') :
    Completed [t] s [] [] s' :=
  ⟨hheld ▸ .nil, rfl, h⟩

theorem held_managed (k : Kind) (s : State) :
    held [.managed k] s = if (s.reference (slot k)).isSome then [k] else [] :=
  List.filter_cons

/-- A task is done when its object is not there any more. -/
theorem completed_of_deletes {answer : Except ApiError Unit} {e : Event}
    (h : Deletes s k answer e) (hgone : isGone answer = true) :
    Completed [.managed k] s [e] ([e].filterMap deletedLabel?) (forgotten k s) := by
  refine ⟨?_, rfl, cleared_forgotten k s⟩
  obtain ⟨r, -, href, -⟩ := id h
  rw [held_managed, href]
  exact .cons ⟨answer, hgone, h⟩ .nil

/-- **One task of a takedown** is done, or the deletion of its object fails and nothing changes. -/
theorem Task.remove_cases {left : Left Bool} (h : (t.remove s).Trace es left) :
    (∃ deleted s', left = (.ok deleted, s') ∧
      Completed [t] s es (if deleted then [t.label] else []) s') ∨
    ∃ k source, t = .managed k ∧ left = (.error source, s) ∧ Blocked k s es source := by
  cases t with
  | lookUp catalog =>
    obtain ⟨rfl, rfl⟩ := trace_done_iff.mp h
    refine .inl ⟨_, _, rfl, completed_of_held_eq_nil rfl ?_⟩
    exact cleared_forgetting (.lookUp catalog) rfl nofun s
  | lookUpSwitch =>
    obtain ⟨rfl, rfl⟩ := trace_done_iff.mp h
    refine .inl ⟨_, _, rfl, completed_of_held_eq_nil rfl ?_⟩
    exact cleared_forgetting .lookUpSwitch rfl nofun s
  | realization =>
    obtain ⟨rfl, rfl⟩ := trace_done_iff.mp h
    refine .inl ⟨_, _, rfl, completed_of_held_eq_nil rfl ?_⟩
    exact ⟨nofun, fun slot' _ => by cases slot' <;> rfl, rfl, rfl, rfl, rfl, id⟩
  | managed k =>
    cases removed_of_trace h with
    | nothing href =>
      refine .inl ⟨_, _, rfl, completed_of_held_eq_nil ?_ (cleared_withoutObject href)⟩
      rw [held_managed, href]
      rfl
    | @deleted r parent href howner =>
      exact .inl ⟨_, _, rfl, completed_of_deletes ⟨r, parent, href, howner, rfl⟩ rfl⟩
    | @gone r parent e href howner he =>
      exact .inl ⟨_, _, rfl, completed_of_deletes ⟨r, parent, href, howner, rfl⟩ he⟩
    | ownerless href howner => exact .inr ⟨k, _, rfl, rfl, .ownerless href howner⟩
    | @refused r parent e href howner he =>
      exact .inr ⟨k, _, rfl, rfl, .refused he ⟨r, parent, href, howner, rfl⟩⟩

/-! ### Going through tasks -/

/-- The slots that say what a task deletes: its own, and that of the owner of its object. -/
def Task.relies : Task → List Slot
  | managed k => Pipeline.slot k :: (ownerSlot k).toList
  | _ => []

/-- Whether no task empties a slot that a task behind it relies on. -/
abbrev OwnersLast (ts : List Task) : Prop :=
  ts.Pairwise fun t t' => ∀ slot' ∈ t'.relies, t.slot ≠ some slot'

/-- The owner of an object is the same where the reference to it is. -/
theorem ownerOf_congr
    (h : ∀ slot', ownerSlot k = some slot' → s'.reference slot' = s.reference slot')
    (r : Reference) : ownerOf k s' r = ownerOf k s r := by
  match k with
  | .policy .ipAllocation | .manager .dhcpIpPool =>
    simp only [ownerOf, require, h _ rfl]
  | .policy .tier1 | .policy .localeService | .policy .segment | .policy .natRule
  | .policy .dhcpServerConfig | .manager .dhcpProfile | .manager .dhcpServer
  | .manager .logicalPort => rfl

/-- What is deleted for a task depends on the slots that it relies on. -/
theorem deletes_congr {answer : Except ApiError Unit} {e : Event}
    (h : ∀ slot' ∈ (Task.managed k).relies, s'.reference slot' = s.reference slot') :
    Deletes s' k answer e ↔ Deletes s k answer e := by
  have hown : s'.reference (slot k) = s.reference (slot k) := h _ (.head _)
  have howner : ∀ r, ownerOf k s' r = ownerOf k s r := ownerOf_congr fun slot' hslot =>
    h slot' (.tail _ (Option.mem_toList.mpr hslot))
  simp only [Deletes, hown, howner]

theorem Task.eq_managed_of_kind? (h : t.kind? = some k) : t = .managed k := by
  cases t with
  | managed k' => exact congrArg Task.managed (Option.some.inj h)
  | lookUp _ | realization | lookUpSwitch => exact nomatch h

theorem mem_held : k ∈ held ts s ↔ .managed k ∈ ts ∧ (s.reference (slot k)).isSome := by
  rw [held, List.mem_filter, List.mem_filterMap]
  refine and_congr_left fun _ => ⟨?_, fun hmem => ⟨_, hmem, rfl⟩⟩
  rintro ⟨t, hmem, hkind⟩
  exact Task.eq_managed_of_kind? hkind ▸ hmem

theorem held_append (ts ts' : List Task) (s : State) :
    held (ts ++ ts') s = held ts s ++ held ts' s := by
  rw [held, List.filterMap_append, List.filter_append, held, held]

/-- Two states in which tasks delete the same. -/
def SameFor (ts : List Task) (s s' : State) : Prop :=
  ∀ k, .managed k ∈ ts → ∀ slot' ∈ (Task.managed k).relies, s'.reference slot' = s.reference slot'

theorem SameFor.held (h : SameFor ts s s') : held ts s' = held ts s := by
  refine List.filter_congr fun k hmem => ?_
  obtain ⟨t, ht, hkind⟩ := List.mem_filterMap.mp hmem
  rw [h k (Task.eq_managed_of_kind? hkind ▸ ht) (slot k) (.head _)]

/-- **Tasks that are done one after the other**, where the first ones leave alone what the others
rely on. -/
theorem Completed.append {ts' : List Task} {labels labels' : List String}
    (h : Completed ts s es₁ labels s₁) (h' : Completed ts' s₁ es₂ labels' s')
    (hsame : SameFor ts' s s₁) : Completed (ts ++ ts') s (es₁ ++ es₂) (labels ++ labels') s' where
  deletions := by
    rw [held_append, ← hsame.held]
    refine List.rel_append h.deletions ?_
    have hheld : ∀ k ∈ held ts' s₁, .managed k ∈ ts' := fun k hmem => (mem_held.mp hmem).1
    refine ((List.forall₂_and_left _ _).mpr ⟨hheld, h'.deletions⟩).imp ?_
    rintro k e ⟨hmem, answer, hgone, hdeletes⟩
    exact ⟨answer, hgone, (deletes_congr (hsame k hmem)).mp hdeletes⟩
  labels := by rw [List.filterMap_append, ← h.labels, ← h'.labels]
  cleared := h.cleared.append h'.cleared

theorem Blocked.congr {source : InfraError} (h : Blocked k s₁ es source)
    (hsame : ∀ slot' ∈ (Task.managed k).relies, s₁.reference slot' = s.reference slot') :
    Blocked k s es source := by
  cases h with
  | ownerless href howner =>
    refine .ownerless ((hsame _ (.head _)).symm.trans href) (Eq.trans ?_ howner)
    exact (ownerOf_congr (fun slot' hslot => hsame slot' (.tail _ (Option.mem_toList.mpr hslot)))
      _).symm
  | refused he h => exact .refused he ((deletes_congr hsame).mp h)

/-- What a task clears is not what tasks behind it rely on. -/
theorem Cleared.sameFor (h : Cleared [t] s s') (horder : OwnersLast (t :: ts)) :
    SameFor ts s s' := by
  intro k hmem slot' hslot
  refine h.kept slot' fun hmem' => ?_
  obtain ⟨t', ht', hslot'⟩ := List.mem_filterMap.mp hmem'
  obtain rfl := List.mem_singleton.mp ht'
  exact (List.pairwise_cons.mp horder).1 _ hmem slot' hslot hslot'

/-- A task that cannot delete its object, behind others that are done. The requests are those of the
others, and the last one is the one that failed. -/
def Halted (done : List Task) (k : Kind) (s : State) (es : List Event) (e : InfraError)
    (s' : State) : Prop :=
  ∃ es₁ es₂ labels source, es = es₁ ++ es₂ ∧ e = .task (label k) source ∧
    Completed done s es₁ labels s' ∧ Blocked k s es₂ source

theorem Blocked.isBare {source : InfraError} (h : Blocked k s es source) : source.IsBare := by
  cases h with
  | ownerless href howner => exact failsBare_ownerOf k s _ _ howner
  | refused he h => exact isBare_api _

/-- **Tasks are done up to the first that cannot delete its object.** -/
theorem removeAll_cases (horder : OwnersLast ts) {left : Left (List String)}
    (h : (removeAll ts s).Trace es left) :
    (∃ labels s', left = (.ok labels, s') ∧ Completed ts s es labels s') ∨
      ∃ done k rest e s', ts = done ++ .managed k :: rest ∧ left = (.error e, s') ∧
        Halted done k s es e s' := by
  induction ts generalizing s es left with
  | nil =>
    obtain ⟨rfl, rfl⟩ := trace_done_iff.mp h
    exact .inl ⟨[], s, rfl, .nil, rfl, .refl s⟩
  | cons t ts ih =>
    rw [removeAll, bind_eq, trace_bind_iff] at h
    obtain ⟨es₁, es₂, left₁, rfl, h₁, h₂⟩ := h
    rcases Task.remove_cases h₁ with ⟨deleted, s₁, rfl, hfirst⟩ | ⟨k, source, rfl, rfl, hblocked⟩
    · obtain ⟨⟨result, s₂⟩, h₃, rfl⟩ := trace_bind_done_iff.mp h₂
      have hsame : SameFor ts s s₁ := hfirst.cleared.sameFor horder
      rcases ih (List.pairwise_cons.mp horder).2 h₃ with
        ⟨labels, s', hleft, hrest⟩ | ⟨done, k, rest, e, s', rfl, hleft, hhalted⟩
      · obtain ⟨rfl, rfl⟩ := Prod.mk.inj hleft
        refine .inl ⟨_, s₂, rfl, ?_⟩
        have hall := hfirst.append hrest hsame
        cases deleted <;> exact hall
      · obtain ⟨rfl, rfl⟩ := Prod.mk.inj hleft
        obtain ⟨es₃, es₄, labels, source, rfl, rfl, hdone, hblocked⟩ := hhalted
        refine .inr ⟨t :: done, k, rest, _, s₂, rfl, rfl, es₁ ++ es₃, es₄, _, source,
          (List.append_assoc es₁ es₃ es₄).symm, rfl, hfirst.append hdone ?_, hblocked.congr ?_⟩
        · exact fun k' hmem => hsame k' (List.mem_append_left _ hmem)
        · exact hsame k (List.mem_append_right _ (.head _))
    · obtain ⟨rfl, rfl⟩ := trace_done_iff.mp h₂
      refine .inr ⟨[], k, ts, _, s, rfl, rfl, [], es₁, [], source, List.append_nil es₁, ?_,
        ⟨.nil, rfl, .refl s⟩, hblocked⟩
      exact inTask_of_isBare hblocked.isBare _

/-- No two tasks have one slot. -/
theorem Task.slot_injective {t t' : Task} (h : t.slot = t'.slot) : t = t' := by
  rcases t with (_ | _ | _ | _) | (k | k) | _ | _ <;>
    rcases t' with (_ | _ | _ | _) | (k' | k') | _ | _ <;> (try cases k) <;> (try cases k') <;>
    first | rfl | exact absurd h (by decide)

/-- What is asked for when tasks are done is to delete what they hold. -/
theorem Completed.deletes {labels : List String} (h : Completed ts s es labels s') :
    ∀ event ∈ es, ∃ k answer, .managed k ∈ ts ∧ isGone answer = true ∧
      Deletes s k answer event := by
  intro event hmem
  obtain ⟨k, hk, answer, hgone, hdeletes⟩ := exists_of_mem_left h.deletions.flip hmem
  exact ⟨k, answer, (mem_held.mp hk).1, hgone, hdeletes⟩

/-- A reference is as it was, or it was held and its object was deleted. -/
theorem Completed.references {labels : List String} (h : Completed ts s es labels s') (k : Kind) :
    s'.reference (slot k) = s.reference (slot k) ∨ s'.reference (slot k) = none ∧
      ∃ event ∈ es, ∃ answer, isGone answer = true ∧ Deletes s k answer event := by
  by_cases hslot : slot k ∈ slotsOf ts
  · have hlost := h.cleared.lost _ hslot
    cases href : s.reference (slot k) with
    | none => exact .inl hlost
    | some r =>
      obtain ⟨t, hmem, ht⟩ := List.mem_filterMap.mp hslot
      obtain rfl : t = .managed k := Task.slot_injective ht
      have hheld : k ∈ held ts s := mem_held.mpr ⟨hmem, href ▸ rfl⟩
      exact .inr ⟨hlost, exists_of_mem_left h.deletions hheld⟩
  · exact .inl (h.cleared.kept _ hslot)

/-- Tasks ask for nothing but deletions of what is referred to. -/
theorem removeAll_deletes (horder : OwnersLast ts) {left : Left (List String)}
    (h : (removeAll ts s).Trace es left) :
    ∀ event ∈ es, ∃ k answer, .managed k ∈ ts ∧ Deletes s k answer event := by
  have hdone : ∀ {done es labels s'}, Completed done s es labels s' → ∀ event ∈ es,
      ∃ k answer, .managed k ∈ done ∧ Deletes s k answer event := by
    intro done es labels s' hdone event hmem
    obtain ⟨k, answer, hk, -, hdeletes⟩ := hdone.deletes event hmem
    exact ⟨k, answer, hk, hdeletes⟩
  rcases removeAll_cases horder h with
    ⟨labels, s', -, hall⟩ |
    ⟨done, k, rest, e, s', rfl, -, es₁, es₂, labels, source, rfl, -, hfirst, hblocked⟩
  · exact hdone hall
  · intro event hmem
    rcases List.mem_append.mp hmem with hmem | hmem
    · obtain ⟨k', answer, hk', hdeletes⟩ := hdone hfirst event hmem
      exact ⟨k', answer, List.mem_append_left _ hk', hdeletes⟩
    · cases hblocked with
      | ownerless href howner => exact nomatch hmem
      | refused he hdeletes =>
        obtain rfl := List.mem_singleton.mp hmem
        exact ⟨k, _, List.mem_append_right _ (.head _), hdeletes⟩

/-- **Tasks forget nothing that they have not deleted**, whatever they come to. -/
theorem removeAll_references (horder : OwnersLast ts) {left : Left (List String)}
    (h : (removeAll ts s).Trace es left) (k : Kind) :
    left.2.reference (slot k) = s.reference (slot k) ∨ left.2.reference (slot k) = none ∧
      ∃ event ∈ es, ∃ answer, isGone answer = true ∧ Deletes s k answer event := by
  rcases removeAll_cases horder h with
    ⟨labels, s', rfl, hall⟩ |
    ⟨done, k', rest, e, s', rfl, rfl, es₁, es₂, labels, source, rfl, -, hfirst, -⟩
  · exact hall.references k
  · refine (hfirst.references k).imp_right (And.imp_right ?_)
    rintro ⟨event, hmem, hdeleted⟩
    exact ⟨event, List.mem_append_left _ hmem, hdeleted⟩

/-! ### Takedowns -/

/-- No two tasks are after one thing. -/
theorem Task.item_injective : Function.Injective Task.item := by
  intro t t' h
  rcases t with catalog | k | _ | _ <;> rcases t' with catalog' | k' | _ | _ <;>
    first
      | rfl
      | exact Task.slot_injective (congrArg some (Item.reference.inj h))
      | cases h

/-- What is known by a task is as it was: its reference, and what goes with it. -/
structure Untouched (t : Task) (s s' : State) : Prop where
  /-- The slot is as it was. -/
  slot : ∀ slot', t.slot = some slot' → s'.reference slot' = s.reference slot'
  /-- The segment's name is as it was. -/
  name : t = segmentTask → s'.segmentName = s.segmentName
  /-- The address is as it was. -/
  address : t = .realization → s'.snatIpAddress = s.snatIpAddress

theorem Cleared.untouched (h : Cleared ts s s') (hnot : t ∉ ts) : Untouched t s s' where
  slot slot' hslot := by
    refine h.kept slot' fun hmem => ?_
    obtain ⟨t', ht', hslot'⟩ := List.mem_filterMap.mp hmem
    exact hnot (Task.slot_injective (hslot'.trans hslot.symm) ▸ ht')
  name heq := by
    subst heq
    rw [h.name, if_neg hnot]
  address heq := by
    subst heq
    rw [h.address, if_neg hnot]

/-- There are three pipelines that can be taken down. -/
theorem takeDown_pipelines (hts : ts = tasks g ∨ ts = teardownTasks g s) :
    ts = tasks .v2 ∨ ts = tasks .v3 ∨
      ts = lookUps ++ gateway ++ [dhcpServerConfigTask, segmentTask] ++ outward ++ managerDhcp := by
  have htasks : ts = tasks g → ts = tasks .v2 ∨ ts = tasks .v3 := by
    rintro rfl
    cases g with
    | v2 => exact .inl rfl
    | v3 => exact .inr rfl
  rw [teardownTasks] at hts
  split at hts
  · rcases hts with hts | hts
    · exact (htasks hts).imp_right .inl
    · exact .inr (.inr hts)
  · exact (htasks (hts.elim id id)).imp_right .inl

/-- The tasks of takedowns are all different, and none empties a slot that those behind it rely
on. -/
theorem ownersLast_takeDown (hts : ts = tasks g ∨ ts = teardownTasks g s) :
    ts.reverse.Nodup ∧ OwnersLast ts.reverse := by
  rcases takeDown_pipelines hts with rfl | rfl | rfl <;> decide

/-- A takedown that succeeded is done with all tasks. -/
theorem completed_of_ok (hts : ts = tasks g ∨ ts = teardownTasks g s) {labels : List String}
    (h : (takeDownTasks ts s).Trace es (.ok labels, s')) : Completed ts.reverse s es labels s' := by
  rcases removeAll_cases (ownersLast_takeDown hts).2 h with
    ⟨labels', s'', heq, hall⟩ | ⟨done, k, rest, e, s'', -, heq, -⟩
  · cases heq
    exact hall
  · exact nomatch (Prod.mk.inj heq).1

/-- The tasks of a takedown that resumes another one: the same, or those for what is left, if the
others were picked by what there was. -/
def Resumes (g : Generation) (ts ts' : List Task) (s s' : State) : Prop :=
  ts' = ts ∨ ts = teardownTasks g s ∧ ts' = teardownTasks g s'

/-- Where the part for manager objects is not created, no tasks are added. -/
theorem teardownTasks_subset (h : s.dhcp = none → s'.dhcp = none) :
    teardownTasks g s' ⊆ teardownTasks g s := by
  cases hdhcp : s.dhcp with
  | none =>
    rw [teardownTasks, teardownTasks, h hdhcp, hdhcp]
    exact List.Subset.refl _
  | some d =>
    simp only [teardownTasks, hdhcp, Option.isSome_some, if_true]
    split <;> cases g <;> decide

theorem Resumes.subset {ts' : List Task} (h : Resumes g ts ts' s s')
    (hdhcp : s.dhcp = none → s'.dhcp = none) : ts' ⊆ ts := by
  rcases h with rfl | ⟨rfl, rfl⟩
  · exact List.Subset.refl _
  · exact teardownTasks_subset hdhcp

/-- A takedown that resumes another one deletes what is left of what that one was to delete. -/
theorem Resumes.deletes {ts' done rest : List Task} (h : Resumes g ts ts' s s')
    (hts : ts = tasks g ∨ ts = teardownTasks g s) (hsplit : ts.reverse = done ++ rest)
    (hcleared : Cleared done s s') {left : Left (List String)}
    (htrace : (takeDownTasks ts' s').Trace es left) :
    ∀ event ∈ es, ∃ k answer, .managed k ∈ rest ∧ Deletes s' k answer event := by
  have hts' : ts' = tasks g ∨ ts' = teardownTasks g s' ∨ ts' = teardownTasks g s := by
    rcases h with rfl | ⟨-, rfl⟩
    · exact hts.imp_right .inr
    · exact .inr (.inl rfl)
  have horder : OwnersLast ts'.reverse := by
    rcases hts' with hts' | hts' | hts'
    · exact (ownersLast_takeDown (s := s) (.inl hts')).2
    · exact (ownersLast_takeDown (.inr hts')).2
    · exact (ownersLast_takeDown (.inr hts')).2
  intro event hevent
  obtain ⟨k, answer, hmem, hdeletes⟩ := removeAll_deletes horder htrace event hevent
  refine ⟨k, answer, ?_, hdeletes⟩
  have hfirst : .managed k ∈ done ++ rest := by
    rw [← hsplit, List.mem_reverse]
    exact h.subset hcleared.dhcp (List.mem_reverse.mp hmem)
  refine (List.mem_append.mp hfirst).resolve_left fun hdone => ?_
  obtain ⟨r, -, href, -⟩ := hdeletes
  have hlost := hcleared.lost (slot k) (List.mem_filterMap.mpr ⟨_, hdone, rfl⟩)
  exact nomatch href.symm.trans hlost

/-- **A takedown is exact and can be resumed.** Whatever is answered, either all tasks are done, or
all behind one that cannot delete its object are, in the order from the last task to the first. What
is asked for is one deletion for each reference that these tasks hold, and the one that failed. The
tasks before it are untouched. A takedown that resumes this one asks for the deletions that are
left, and for none if all tasks were done. -/
theorem takeDownTasks_exact (hts : ts = tasks g ∨ ts = teardownTasks g s)
    {left : Left (List String)} (h : (takeDownTasks ts s).Trace es left) :
    (∃ labels s', left = (.ok labels, s') ∧ Completed ts.reverse s es labels s' ∧
      ∀ ts' es' left', Resumes g ts ts' s s' → (takeDownTasks ts' s').Trace es' left' →
        es' = []) ∨
    ∃ done k rest e s', ts.reverse = done ++ .managed k :: rest ∧ left = (.error e, s') ∧
      Halted done k s es e s' ∧ (∀ t ∈ .managed k :: rest, Untouched t s s') ∧
      ∀ ts' es' left', Resumes g ts ts' s s' → (takeDownTasks ts' s').Trace es' left' →
        ∀ event ∈ es', ∃ k' answer, .managed k' ∈ .managed k :: rest ∧
          Deletes s' k' answer event := by
  obtain ⟨hnodup, horder⟩ := ownersLast_takeDown hts
  rcases removeAll_cases horder h with
    ⟨labels, s', rfl, hall⟩ | ⟨done, k, rest, e, s', hsplit, rfl, hhalted⟩
  · refine .inl ⟨labels, s', rfl, hall, fun ts' es' left' hresumes htrace => ?_⟩
    refine List.eq_nil_iff_forall_not_mem.mpr fun event hmem => ?_
    have hnone := hresumes.deletes hts (List.append_nil _).symm hall.cleared htrace event hmem
    obtain ⟨k, answer, hmem, -⟩ := hnone
    exact nomatch hmem
  · have hdone : Cleared done s s' := by
      obtain ⟨es₁, es₂, labels, source, -, -, hdone, -⟩ := id hhalted
      exact hdone.cleared
    refine .inr ⟨done, k, rest, e, s', hsplit, rfl, hhalted, fun t hmem => ?_, ?_⟩
    · rw [hsplit] at hnodup
      exact hdone.untouched fun hmem' => (List.nodup_append.mp hnodup).2.2 t hmem' t hmem rfl
    · exact fun ts' es' left' hresumes htrace => hresumes.deletes hts hsplit hdone htrace

/-- What is known after the first run for a cluster in a typical region. -/
def typicalState : State := firstRun.1.elim .fresh Prod.snd

/-- The control plane after that run, where the segment will not be deleted. -/
def segmentKept : Testbed where
  plane := firstRun.2.plane.failNext (.delete (.policy .segment))

theorem takeDownTasks_exact_refused :
    ∃ es e s', (takeDownTasks (teardownTasks .v2 typicalState) typicalState).Trace es
        (.error e, s') ∧ s'.snatIpAllocation = none ∧
      ∃ done k rest, (teardownTasks .v2 typicalState).reverse = done ++ .managed k :: rest ∧
        Halted done k typicalState es e s' ∧
        (∀ t ∈ .managed k :: rest, Untouched t typicalState s') ∧
        ∀ ts' es' left', Resumes .v2 (teardownTasks .v2 typicalState) ts' typicalState s' →
          (takeDownTasks ts' s').Trace es' left' →
          ∀ event ∈ es', ∃ k' answer, .managed k' ∈ .managed k :: rest ∧
            Deletes s' k' answer event := by
  have hrefused : ((takeDownTasks (teardownTasks .v2 typicalState) typicalState).run
      Testbed.perform segmentKept).1.any (fun left =>
        !left.1.isOk && decide (left.2.snatIpAllocation = none)) = true := by decide +kernel
  obtain ⟨⟨result, s'⟩, hleft, hresult⟩ := (Option.any_eq_true _ _).mp hrefused
  obtain ⟨herror, hnone⟩ := (Bool.and_eq_true _ _).mp hresult
  cases result with
  | ok labels => exact nomatch herror
  | error e =>
    obtain ⟨es, htrace⟩ := exists_trace_of_run hleft
    rcases takeDownTasks_exact (.inr rfl) htrace with
      ⟨labels, s'', hok, -⟩ | ⟨done, k, rest, e', s'', hsplit, hhalt, hall⟩
    · exact nomatch (Prod.mk.inj hok).1
    · obtain ⟨he, rfl⟩ := Prod.mk.inj hhalt
      obtain rfl := Except.error.inj he
      exact ⟨es, e, s', htrace, of_decide_eq_true hnone, done, k, rest, hsplit, hall⟩

end Pipeline

end ClusterNet
