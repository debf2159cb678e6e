import ClusterNet.Proofs.ControlPlane.Testbed
import ClusterNet.Proofs.Pipeline.References

/-!
# What actions say

A task that looks after an object reports what it did, and those who read the report cannot look at
the control plane. So the report has to be right. It is, and whatever the control plane answers, a
task reads its object at most once and tries to change something at most once. An object that is not
found is made anew in one attempt, and the old reference is kept until that has succeeded.

All of it is read off the ways in which a task can go (`Pipeline.Ensured`), of which there are few.
The other tasks and recoveries only look. Their loops may not come to an end, so of them it is said
what they ask for, however far they come.

## Main definitions

* `Pipeline.isRead`, `Pipeline.isMutation` — what is asked to look at an object and to change one
* `Pipeline.Attempt` — an attempt to make an object, and the id under which it succeeded
* `Pipeline.Truthful` — a task that has done what it says

## Main results

* `Pipeline.Ensured.truthful` — a task does what it says
* `Pipeline.looks_ensure`, `Pipeline.looks_recover` — lookups, waits and recoveries only look
* `Pipeline.actions_truthful` — all together, in any surroundings
-/

namespace ClusterNet

namespace Pipeline

open Cluster (InfraError Reference Slot Spec State)
open ControlPlane Program

/-- Whether an object was read. -/
def isRead : Event → Bool
  | ⟨.call (.get _ _), _⟩ => true
  | _ => false

/-- Whether it was asked for a change. -/
def isMutation : Event → Bool
  | ⟨.call r, _⟩ => r.method.isMutation
  | _ => false

variable {k : Kind} {c : Context} {spec : Spec} {s : State} {es : List Event} {left : Left Action}
  {parent : String} {o current : k.Object} {place : Place}

/-! ### Attempts to make an object -/

/-- An attempt to make an object under an owner, and the id under which it is there if the attempt
has succeeded. A declared object is there under the id that was drawn for it, and a created one
under the id that it brought. -/
inductive Attempt (parent : String) :
    (k : Kind) → k.Object → List Event → Option String → Prop
  /-- It was declared under a fresh id. -/
  | declared {k : PolicyKind} {o : k.Object} (id : String) :
    Attempt parent (.policy k) o [drawn id, called (.patch k ⟨parent, id⟩ o) (.ok ())] (some id)
  /-- It could not be declared. -/
  | undeclared {k : PolicyKind} {o : k.Object} (id : String) (e : ApiError) :
    Attempt parent (.policy k) o [drawn id, called (.patch k ⟨parent, id⟩ o) (.error e)] none
  /-- It was created. One that brings no id is of no use. -/
  | created {k : ManagerKind} {o answer : k.Object} :
    Attempt parent (.manager k) o [called (.create k parent o) (.ok answer)] (k.id? answer)
  /-- It could not be created. -/
  | uncreated {k : ManagerKind} {o : k.Object} (e : ApiError) :
    Attempt parent (.manager k) o [called (.create k parent o) (.error e)] none

/-- An attempt reads nothing and asks for one change. -/
theorem Attempt.counts {id? : Option String} (h : Attempt parent k o es id?) :
    es.filter isRead = [] ∧ ∃ e, es.filter isMutation = [e] := by
  cases h <;> exact ⟨rfl, _, rfl⟩

/-- What an attempt to make an object leaves behind. -/
theorem Built.attempt (h : Built parent s k o es left) :
    (∃ id, Attempt parent k o es (some id) ∧ left.1 = .ok .created ∧
      left.2.reference (slot k) = some ⟨id, k.path ⟨parent, id⟩⟩) ∨
    ∃ e, Attempt parent k o es none ∧ left = (.error e, s) := by
  have hslot : ∀ (k : Kind) (o : k.Object) (id : String),
      (recorded k parent id o s).reference (slot k) = some ⟨id, k.path ⟨parent, id⟩⟩ := by
    intro k o id
    rw [reference_recorded, State.reference_withReference_self]
  cases h with
  | @declared k o id => exact .inl ⟨id, .declared id, rfl, hslot (.policy k) o id⟩
  | undeclared id e => exact .inr ⟨_, .undeclared id e, rfl⟩
  | @created k o answer id hid => exact .inl ⟨id, hid ▸ .created, rfl, hslot (.manager k) o id⟩
  | nameless hid => exact .inr ⟨_, hid ▸ .created, rfl⟩
  | uncreated e => exact .inr ⟨_, .uncreated e, rfl⟩

/-! ### Changes -/

/-- A request that has changed the object at a place. -/
inductive Changed (place : Place) : (k : Kind) → Event → Prop
  /-- It was declared as it should be. -/
  | declared {k : PolicyKind} {o : k.Object} :
    Changed place (.policy k) (called (.patch k place o) (.ok ()))
  /-- It was changed. -/
  | updated {k : ManagerKind} {o answer : k.Object} :
    Changed place (.manager k) (called (.update k place o) (.ok answer))

/-- What an attempt to change an object leaves behind. -/
theorem Overwritten.change (h : Overwritten place s k current o es left) :
    ∃ e, es = [e] ∧ isRead e = false ∧ isMutation e = true ∧
      (Changed place k e ∧ left.1 = .ok .updated ∧
          (∀ slot', left.2.reference slot' = s.reference slot') ∨
        ∃ err, left = (.error err, s)) := by
  cases h with
  | declared => exact ⟨_, rfl, rfl, rfl, .inl ⟨.declared, rfl, reference_noted _ _ s⟩⟩
  | undeclared e => exact ⟨_, rfl, rfl, rfl, .inr ⟨_, rfl⟩⟩
  | updated => exact ⟨_, rfl, rfl, rfl, .inl ⟨.updated, rfl, reference_noted _ _ s⟩⟩
  | refused e => exact ⟨_, rfl, rfl, rfl, .inr ⟨_, rfl⟩⟩

/-! ### Reports -/

/-- A task that looks after an object and has done what it says: `es` is what it has asked for, and
`left` is what it has left behind of the state `s`. -/
structure Truthful (k : Kind) (c : Context) (spec : Spec) (s : State) (es : List Event)
    (left : Left Action) : Prop where
  /-- At most one object is read. -/
  reads : (es.filter isRead).length ≤ 1
  /-- What is read is the object that is referred to. -/
  own : ∀ e ∈ es, isRead e = true → ∃ parent o r answer,
    draft c.identity spec s k = .ok (parent, o) ∧ s.reference (slot k) = some r ∧
    e = called (.get k ⟨parent, r.id⟩) answer
  /-- At most one change is asked for. -/
  mutations : (es.filter isMutation).length ≤ 1
  /-- An object that is reported as created was made in one attempt, behind which nothing comes and
  before which nothing was changed, and it is the one that is referred to. -/
  created : left.1 = .ok .created → ∃ parent o before attempt id,
    draft c.identity spec s k = .ok (parent, o) ∧ es = before ++ attempt ∧
    before.filter isMutation = [] ∧ Attempt parent k o attempt (some id) ∧
    left.2.reference (slot k) = some ⟨id, k.path ⟨parent, id⟩⟩
  /-- An object that is reported as updated is the one that was referred to. It was changed by one
  request, and no reference has changed. -/
  updated : left.1 = .ok .updated → ∃ parent o r e,
    draft c.identity spec s k = .ok (parent, o) ∧ s.reference (slot k) = some r ∧
    es.filter isMutation = [e] ∧ Changed ⟨parent, r.id⟩ k e ∧
    ∀ slot', left.2.reference slot' = s.reference slot'
  /-- Where nothing is reported to have changed, no change was asked for, and the state is as it
  was. -/
  unchanged : left.1 = .ok .unchanged → es.filter isMutation = [] ∧ left.2 = s
  /-- Finding is for others. -/
  found : left.1 ≠ .ok .found
  /-- A failure leaves all references as they were. -/
  failed : ∀ e, left.1 = .error e → ∀ slot', left.2.reference slot' = s.reference slot'
  /-- An object that is not found is made anew in one attempt, and nothing else follows. If that
  fails, the task fails and keeps the reference to the one that is gone. -/
  healed : ∀ place e, called (.get k place) (.error e) ∈ es → e.isNotFound = true →
    ∃ parent o attempt id?, draft c.identity spec s k = .ok (parent, o) ∧
      es = called (.get k place) (.error e) :: attempt ∧ Attempt parent k o attempt id? ∧
      (left.1 = .ok .created ↔ id? ≠ none) ∧
      (id? = none → (∃ err, left.1 = .error err) ∧
        left.2.reference (slot k) = s.reference (slot k))

/-- What is asked before an object is made: nothing if none is known, and for one that is known that
it is gone. -/
inductive Missed (parent : String) (s : State) (k : Kind) : List Event → Prop
  /-- None is known. -/
  | unknown (href : s.reference (slot k) = none) : Missed parent s k []
  /-- The one that is known is gone. -/
  | vanished {r : Reference} {e : ApiError} (href : s.reference (slot k) = some r) :
    Missed parent s k [called (.get k ⟨parent, r.id⟩) (.error e)]

/-- A task that reports something, or has failed, reports nothing else. -/
theorem not_reported {action action' : Action} (h : left.1 = .ok action ∨ ∃ e, left.1 = .error e)
    (hne : action' ≠ action) : left.1 ≠ .ok action' := by
  intro hsame
  rcases h with h | ⟨e, h⟩
  · exact hne (Except.ok.inj (hsame.symm.trans h))
  · exact nomatch hsame.symm.trans h

/-- A task that makes its object. -/
theorem Built.truthful {before attempt : List Event}
    (hdraft : draft c.identity spec s k = .ok (parent, o)) (hmissed : Missed parent s k before)
    (h : Built parent (opened k s) k o attempt left) :
    Truthful k c spec s (before ++ attempt) left := by
  have hbefore : (before.filter isRead).length ≤ 1 ∧ before.filter isMutation = [] := by
    cases hmissed with
    | unknown href => exact ⟨Nat.zero_le 1, rfl⟩
    | vanished href => exact ⟨Nat.le_refl 1, rfl⟩
  obtain ⟨hreads, m, hmutations⟩ :
      attempt.filter isRead = [] ∧ ∃ m, attempt.filter isMutation = [m] := by
    rcases h.attempt with ⟨id, hattempt, -⟩ | ⟨e, hattempt, -⟩ <;> exact hattempt.counts
  have hlooked : ∀ e ∈ before ++ attempt, isRead e = true → e ∈ before := by
    intro e he hread
    refine (List.mem_append.mp he).resolve_right fun hmem => ?_
    exact List.filter_eq_nil_iff.mp hreads e hmem hread
  have hleft : left.1 = .ok .created ∨ ∃ e, left = (.error e, opened k s) := by
    rcases h.attempt with ⟨id, -, hcreated, -⟩ | ⟨e, -, hfailed⟩
    · exact .inl hcreated
    · exact .inr ⟨e, hfailed⟩
  have hreport : left.1 = .ok .created ∨ ∃ e, left.1 = .error e :=
    hleft.imp_right fun ⟨e, he⟩ => ⟨e, congrArg Prod.fst he⟩
  refine { reads := ?_, own := ?_, mutations := ?_, created := ?_
           updated := fun h => absurd h (not_reported hreport (by decide))
           unchanged := fun h => absurd h (not_reported hreport (by decide))
           found := not_reported hreport (by decide), failed := ?_, healed := ?_ }
  · rw [List.filter_append, hreads, List.append_nil]
    exact hbefore.1
  · intro e he hread
    have hmem := hlooked e he hread
    cases hmissed with
    | unknown href => exact absurd hmem List.not_mem_nil
    | vanished href => exact ⟨parent, o, _, _, hdraft, href, List.mem_singleton.mp hmem⟩
  · rw [List.filter_append, hbefore.2, hmutations]
    exact Nat.le_refl 1
  · intro hcreated
    rcases h.attempt with ⟨id, hattempt, -, href⟩ | ⟨e, -, rfl⟩
    · exact ⟨parent, o, before, attempt, id, hdraft, rfl, hbefore.2, hattempt, href⟩
    · exact nomatch hcreated
  · intro e he slot'
    rcases hleft with hcreated | ⟨e', rfl⟩
    · exact nomatch hcreated.symm.trans he
    · exact reference_opened k s slot'
  · intro place e hmem _
    have hread := hlooked _ hmem rfl
    obtain rfl : before = [called (.get k place) (.error e)] := by
      cases hmissed with
      | unknown href => exact absurd hread List.not_mem_nil
      | vanished href => exact congrArg ([·]) (List.mem_singleton.mp hread).symm
    rcases h.attempt with ⟨id, hattempt, hcreated, -⟩ | ⟨err, hattempt, rfl⟩
    · exact ⟨parent, o, attempt, some id, hdraft, rfl, hattempt, by simp [hcreated], nofun⟩
    · exact ⟨parent, o, attempt, none, hdraft, rfl, hattempt, by simp,
        fun _ => ⟨⟨err, rfl⟩, reference_opened k s _⟩⟩

/-- A task that has read its object and changes it. -/
theorem Overwritten.truthful {r : Reference} {write : List Event}
    (hdraft : draft c.identity spec s k = .ok (parent, o)) (href : s.reference (slot k) = some r)
    (h : Overwritten ⟨parent, r.id⟩ (opened k s) k current o write left) :
    Truthful k c spec s (called (.get k ⟨parent, r.id⟩) (.ok current) :: write) left := by
  obtain ⟨m, rfl, hread, hmutation, hleft⟩ := h.change
  have hwrites : (called (.get k ⟨parent, r.id⟩) (.ok current) :: [m]).filter isMutation = [m] := by
    rw [List.filter_cons_of_neg Bool.false_ne_true, List.filter_cons_of_pos hmutation]
    rfl
  have hreport : left.1 = .ok .updated ∨ ∃ e, left.1 = .error e :=
    hleft.imp (fun h => h.2.1) fun ⟨e, he⟩ => ⟨_, congrArg Prod.fst he⟩
  refine { reads := ?_, own := ?_, mutations := ?_
           created := fun h => absurd h (not_reported hreport (by decide)), updated := ?_
           unchanged := fun h => absurd h (not_reported hreport (by decide))
           found := not_reported hreport (by decide), failed := ?_, healed := ?_ }
  · rw [List.filter_cons_of_pos rfl, List.filter_cons_of_neg (Bool.not_eq_true _ ▸ hread)]
    exact Nat.le_refl 1
  · intro e he hlook
    rcases List.mem_cons.mp he with rfl | he
    · exact ⟨parent, o, r, _, hdraft, href, rfl⟩
    · rw [List.mem_singleton.mp he, hread] at hlook
      exact nomatch hlook
  · rw [hwrites]
    exact Nat.le_refl 1
  · intro hupdated
    rcases hleft with ⟨hchanged, -, hsame⟩ | ⟨err, rfl⟩
    · refine ⟨parent, o, r, m, hdraft, href, hwrites, hchanged, fun slot' => ?_⟩
      rw [hsame, reference_opened]
    · exact nomatch hupdated
  · intro e _ slot'
    rw [h.reference, reference_opened]
  · intro place e hmem _
    rcases List.mem_cons.mp hmem with hhead | htail
    · cases hhead
    · rw [← List.mem_singleton.mp htail] at hread
      exact nomatch hread

/-- A task that changes nothing, and of which nothing is to be said but that it is done or that it
has failed. -/
theorem truthful_of_looks {answer : Except ApiError k.Object}
    (hdraft : draft c.identity spec s k = .ok (parent, o)) {r : Reference}
    (href : s.reference (slot k) = some r)
    (hleft : left.1 = .ok .unchanged ∨ ∃ e, left.1 = .error e) (hstate : left.2 = s)
    (hanswer : ∀ e, answer = .error e → e.isNotFound = false) :
    Truthful k c spec s [called (.get k ⟨parent, r.id⟩) answer] left := by
  refine { reads := Nat.le_refl 1, own := ?_, mutations := Nat.zero_le 1
           created := fun h => absurd h (not_reported hleft (by decide))
           updated := fun h => absurd h (not_reported hleft (by decide))
           unchanged := fun _ => ⟨rfl, hstate⟩, found := not_reported hleft (by decide)
           failed := fun _ _ _ => by rw [hstate], healed := ?_ }
  · intro e he _
    exact ⟨parent, o, r, answer, hdraft, href, List.mem_singleton.mp he⟩
  · intro place e hmem hnot
    cases List.mem_singleton.mp hmem
    exact nomatch (hanswer e rfl).symm.trans hnot

/-- A task that fails before it asks for anything. -/
theorem truthful_of_silent (e : InfraError) : Truthful k c spec s [] (.error e, s) where
  reads := Nat.zero_le 1
  own _ h := absurd h List.not_mem_nil
  mutations := Nat.zero_le 1
  created h := nomatch h
  updated h := nomatch h
  unchanged h := nomatch h
  found h := nomatch h
  failed _ _ _ := rfl
  healed _ _ h := absurd h List.not_mem_nil

/-- **A task does what it says**, whichever way it goes. -/
theorem Ensured.truthful (h : Ensured k c spec s es left) : Truthful k c spec s es left := by
  cases h with
  | undrafted => exact truthful_of_silent _
  | first hdraft href h => exact h.truthful hdraft (.unknown href)
  | kept hdraft href =>
    exact truthful_of_looks hdraft href (.inl rfl) (opened_of_reference href) nofun
  | changed hdraft href _ h => exact h.truthful hdraft href
  | again hdraft href _ h => exact h.truthful hdraft (.vanished href)
  | unread hdraft href he =>
    refine truthful_of_looks hdraft href (.inr ⟨_, rfl⟩) (opened_of_reference href) ?_
    rintro e ⟨⟩
    exact he

/-! ### Coming to an end -/

theorem ends_build (k : Kind) (parent : String) (o : k.Object) (s : State) :
    (build k parent o s).Ends := by
  cases k with
  | policy k =>
    refine (ends_request _).bind fun id => (ends_request _).bind fun answer => ?_
    cases answer <;> exact .done _
  | manager k =>
    refine (ends_request _).bind fun answer => ?_
    cases answer with
    | error e => exact .done _
    | ok o' => dsimp only; split <;> exact .done _

theorem ends_overwrite (k : Kind) (place : Place) (current o : k.Object) (s : State) :
    (overwrite k place current o s).Ends := by
  cases k with
  | policy k => exact (ends_request _).bind fun _ => .done _
  | manager k => exact (ends_request _).bind fun _ => .done _

/-- Bringing an object about comes to an end. -/
theorem ends_ensure (k : Kind) (c : Context) (spec : Spec) (s : State) :
    (ensure k c spec s).Ends := by
  rw [ensure]
  split
  · exact .done _
  · dsimp only
    split
    · exact ends_build ..
    · refine (ends_request _).bind fun answer => ?_
      split
      · split
        · exact .done _
        · exact ends_overwrite ..
      · split
        · exact ends_build ..
        · exact .done _

/-! ### Tasks that only look -/

section Looking

variable {σ : Type} {answer : (e : Effect) → σ → e.Answer × σ}

/-- Going through a listing only looks. -/
theorem looks_findFirst {α : Type} {listing : Option String → Work (Except ApiError (Page α))}
    (hlisting : ∀ cursor w, ∀ e ∈ asked answer (listing cursor) w, isMutation e = false)
    (wanted : α → Bool) (pages : Nat) (w : σ) :
    ∀ e ∈ asked answer (findFirst listing wanted pages) w, isMutation e = false := by
  refine asked_loop_forall fun cursor w e he => ?_
  rw [findOnPage_eq] at he
  rcases mem_asked_bind he with he | ⟨page, w₁, -, he⟩
  · exact hlisting cursor w e he
  · cases page <;> exact absurd he List.not_mem_nil

/-- A single request that only looks. -/
theorem looks_call {r : Request} (h : r.method.isMutation = false) (w : σ) :
    ∀ e ∈ asked answer (Work.call r) w, isMutation e = false := by
  intro e he
  rw [List.mem_singleton.mp he]
  exact h

/-- What is made of a result asks for nothing. -/
theorem looks_bind_done {α β : Type} {p : Work α} {f : α → β} {w : σ}
    (hp : ∀ e ∈ asked answer p w, isMutation e = false) :
    ∀ e ∈ asked answer (p.bind fun a => .done (f a)) w, isMutation e = false := by
  intro e he
  rcases mem_asked_bind he with he | ⟨a, w₁, -, he⟩
  · exact hp e he
  · exact absurd he List.not_mem_nil

/-- Waiting for an address only looks. -/
theorem looks_awaitAddress (schedule : RealizationSchedule) (path : String) (polls : Nat) (w : σ) :
    ∀ e ∈ asked answer (awaitAddress schedule path polls) w, isMutation e = false := by
  refine asked_loop_forall fun x w e he => ?_
  rcases mem_asked_bind he with he | ⟨result, w₁, -, he⟩
  · exact looks_call rfl w e he
  · split at he
    · exact absurd he List.not_mem_nil
    · split at he
      · exact absurd he List.not_mem_nil
      · rcases mem_asked_bind he with he | ⟨_, w₂, -, he⟩
        · rw [List.mem_singleton.mp he]
          rfl
        · exact absurd he List.not_mem_nil

/-- A task that does not look after an object of the cluster only looks. -/
theorem looks_ensure {t : Task} (ht : ∀ k, t ≠ .managed k) (c : Context) (spec : Spec) (s : State)
    (w : σ) : ∀ e ∈ asked answer (t.ensure c spec s) w, isMutation e = false := by
  cases t with
  | managed k => exact absurd rfl (ht k)
  | lookUp catalog =>
    rw [Task.ensure, lookUp_eq]
    exact looks_bind_done (looks_findFirst (fun cursor => looks_call rfl) _ _ w)
  | realization =>
    rw [Task.ensure, realize_eq]
    split
    · exact fun e he => absurd he List.not_mem_nil
    · exact looks_bind_done (looks_awaitAddress _ _ _ w)
  | lookUpSwitch =>
    rw [Task.ensure, lookUpSwitch_eq]
    split
    · exact fun e he => absurd he List.not_mem_nil
    · exact looks_bind_done (looks_findFirst (fun cursor => looks_call rfl) _ _ w)

/-- A recovery only looks. -/
theorem looks_recover {t : Task} {recover : Context → Step Bool} (h : t.recover? = some recover)
    (c : Context) (s : State) (w : σ) :
    ∀ e ∈ asked answer (recover c s) w, isMutation e = false := by
  match t, h with
  | .managed (.manager k), rfl =>
    rw [adopt_eq]
    split
    · exact fun e he => absurd he List.not_mem_nil
    · exact looks_bind_done (looks_findFirst (fun cursor => looks_call rfl) _ _ w)

end Looking

/-! ### In any surroundings -/

/-- **Tasks do what they say.** A task that looks after an object comes to an end, and its report is
right. The other tasks ask for no change, and neither does any recovery. -/
theorem actions_truthful {σ : Type} (answer : (e : Effect) → σ → e.Answer × σ) (w : σ)
    (c : Context) (spec : Spec) (s : State) :
    (∀ k, ∃ left w', ((Task.managed k).ensure c spec s).run answer w = (some left, w') ∧
      Truthful k c spec s (asked answer ((Task.managed k).ensure c spec s) w) left) ∧
    (∀ t : Task, (∀ k, t ≠ .managed k) →
      ∀ e ∈ asked answer (t.ensure c spec s) w, isMutation e = false) ∧
    ∀ (t : Task) (recover : Context → Step Bool), t.recover? = some recover →
      ∀ e ∈ asked answer (recover c s) w, isMutation e = false := by
  refine ⟨fun k => ?_, fun t ht => looks_ensure ht c spec s w,
    fun t recover h => looks_recover h c s w⟩
  obtain ⟨left, w', hrun⟩ : ∃ left w', (ensure k c spec s).run answer w = (some left, w') :=
    (ends_ensure k c spec s).run w
  exact ⟨left, w', hrun, (ensured_of_trace (trace_asked hrun)).truthful⟩

/-- A control plane that has lost every object and takes new ones. -/
def forgetful : (e : Effect) → Unit → e.Answer × Unit
  | .call (.patch _ _ _), w => (.ok (), w)
  | .call _, w => (.error (.notFound ""), w)
  | .drawId, w => ("new", w)
  | .sleep _, w => ((), w)

/-- A gateway that has been lost is made anew, and the task says so. -/
theorem actions_truthful_forgetful :
    let c : Context := { identity := ⟨"id", "small"⟩, rounds := 1 }
    let s : State := { State.fresh with
      tier0Gateway := some ⟨"edge", "/edge"⟩, tier1Gateway := some ⟨"old", "/old"⟩ }
    let work := (Task.managed (.policy .tier1)).ensure c smallCluster s
    ∃ left, work.run forgetful () = (some left, ()) ∧
      left.1 = .ok .created ∧ (left.2.reference .tier1Gateway).map (·.id) = some "new" ∧
      Truthful (.policy .tier1) c smallCluster s (asked forgetful work ()) left := by
  intro c s work
  obtain ⟨left, w, hrun, htruthful⟩ :=
    (actions_truthful forgetful () c smallCluster s).1 (.policy .tier1)
  have hreport : (work.run forgetful ()).1.map (fun left => (left.1.toOption,
      (left.2.reference .tier1Gateway).map (·.id))) = some (some .created, some "new") := by
    decide +kernel
  rw [show work.run forgetful () = (some left, w) from hrun] at hreport
  obtain ⟨haction, href⟩ := Prod.mk.inj (Option.some.inj hreport)
  refine ⟨left, hrun, ?_, href, htruthful⟩
  cases hresult : left.1 with
  | error e => rw [hresult] at haction; exact nomatch haction
  | ok action => rw [hresult] at haction; exact congrArg Except.ok (Option.some.inj haction)

end Pipeline

end ClusterNet
