import ClusterNet.Pipeline
import ClusterNet.Proofs.Trace

/-!
# What can come of a task

For each thing that is done about one object, the ways in which it can go: the requests that are
made with their answers, the result, and the state that is left behind. Nothing is assumed about
who answers. Whatever is to be said about tasks is said by going through these cases; what the
tasks do is read off their definitions here and nowhere else.

## Main definitions

* `Pipeline.Event`, `Pipeline.Left` — what is asked and answered, and what is left behind
* `Pipeline.Built`, `Pipeline.Overwritten`, `Pipeline.Ensured` — the ways of bringing an object
  about
* `Pipeline.Removed` — the ways of deleting one

## Main results

* `Pipeline.ensured_of_trace`, `Pipeline.removed_of_trace` — these are all the ways
* `Pipeline.lookUp_eq`, `Pipeline.adopt_eq` and their like — looking up, adopting and waiting are
  one loop each, and what is made of its result
-/

namespace ClusterNet

namespace Pipeline

open Cluster (InfraError Reference Slot Spec State)
open ControlPlane Program

/-- What a task asked for, with the answer. -/
abbrev Event := Program.Event Effect.interface

/-- What a task leaves behind: its result and the state. -/
abbrev Left (α : Type) := Except InfraError α × State

/-- A request with its answer. -/
abbrev called (r : Request) (answer : Answer r) : Event := ⟨.call r, answer⟩

/-- An id that was drawn. -/
abbrev drawn (id : String) : Event := ⟨.drawId, id⟩

/-- What comes of a sequence of two computations that may fail comes of the second one. -/
theorem ok_of_bind {ε α β : Type} {x : Except ε α} {f : α → Except ε β} {b : β}
    (h : x >>= f = .ok b) : ∃ a, x = .ok a ∧ f a = .ok b := by
  cases x with
  | error e => exact nomatch h
  | ok a => exact ⟨a, rfl, h⟩

/-! ### Bringing about -/

/-- The ways of creating an object, from a state. -/
inductive Built (parent : String) (s : State) :
    (k : Kind) → k.Object → List Event → Left Action → Prop
  /-- It was declared under a fresh id. -/
  | declared {k : PolicyKind} {o : k.Object} (id : String) :
    Built parent s (.policy k) o [drawn id, called (.patch k ⟨parent, id⟩ o) (.ok ())]
      (.ok .created, recorded (.policy k) parent id o s)
  /-- It could not be declared. -/
  | undeclared {k : PolicyKind} {o : k.Object} (id : String) (e : ApiError) :
    Built parent s (.policy k) o [drawn id, called (.patch k ⟨parent, id⟩ o) (.error e)]
      (.error (.api e), s)
  /-- It was created and brought an id. -/
  | created {k : ManagerKind} {o answer : k.Object} {id : String} (hid : k.id? answer = some id) :
    Built parent s (.manager k) o [called (.create k parent o) (.ok answer)]
      (.ok .created, recorded (.manager k) parent id o s)
  /-- It was created and brought no id. -/
  | nameless {k : ManagerKind} {o answer : k.Object} (hid : k.id? answer = none) :
    Built parent s (.manager k) o [called (.create k parent o) (.ok answer)]
      (.error (withoutId (.manager k)), s)
  /-- It could not be created. -/
  | uncreated {k : ManagerKind} {o : k.Object} (e : ApiError) :
    Built parent s (.manager k) o [called (.create k parent o) (.error e)] (.error (.api e), s)

theorem built_of_trace {k : Kind} {parent : String} {o : k.Object} {s : State} {es : List Event}
    {left : Left Action} (h : (build k parent o s).Trace es left) : Built parent s k o es left := by
  cases k with
  | policy k =>
    obtain ⟨id, es₁, rfl, h₁⟩ := trace_request_bind_iff.mp h
    obtain ⟨answer, es₂, rfl, h₂⟩ := trace_request_bind_iff.mp h₁
    cases answer with
    | ok done => obtain ⟨rfl, rfl⟩ := trace_done_iff.mp h₂; exact .declared id
    | error e => obtain ⟨rfl, rfl⟩ := trace_done_iff.mp h₂; exact .undeclared id e
  | manager k =>
    obtain ⟨answer, es₁, rfl, h₁⟩ := trace_request_bind_iff.mp h
    cases answer with
    | ok answer =>
      cases hid : k.id? answer with
      | some id =>
        simp only [hid] at h₁
        obtain ⟨rfl, rfl⟩ := trace_done_iff.mp h₁
        exact .created hid
      | none =>
        simp only [hid] at h₁
        obtain ⟨rfl, rfl⟩ := trace_done_iff.mp h₁
        exact .nameless hid
    | error e => obtain ⟨rfl, rfl⟩ := trace_done_iff.mp h₁; exact .uncreated e

/-- The ways of changing an object that is not as it should be, from a state. -/
inductive Overwritten (place : Place) (s : State) :
    (k : Kind) → (current desired : k.Object) → List Event → Left Action → Prop
  /-- It was declared as it should be. -/
  | declared {k : PolicyKind} {current desired : k.Object} :
    Overwritten place s (.policy k) current desired
      [called (.patch k place (rewritten (.policy k) current desired)) (.ok ())]
      (.ok .updated, noted (.policy k) desired s)
  /-- It could not be declared. -/
  | undeclared {k : PolicyKind} {current desired : k.Object} (e : ApiError) :
    Overwritten place s (.policy k) current desired
      [called (.patch k place (rewritten (.policy k) current desired)) (.error e)]
      (.error (.api e), s)
  /-- It was changed. -/
  | updated {k : ManagerKind} {current desired answer : k.Object} :
    Overwritten place s (.manager k) current desired
      [called (.update k place (rewritten (.manager k) current desired)) (.ok answer)]
      (.ok .updated, noted (.manager k) desired s)
  /-- It could not be changed. -/
  | refused {k : ManagerKind} {current desired : k.Object} (e : ApiError) :
    Overwritten place s (.manager k) current desired
      [called (.update k place (rewritten (.manager k) current desired)) (.error e)]
      (.error (.api e), s)

theorem overwritten_of_trace {k : Kind} {place : Place} {current desired : k.Object} {s : State}
    {es : List Event} {left : Left Action}
    (h : (overwrite k place current desired s).Trace es left) :
    Overwritten place s k current desired es left := by
  cases k with
  | policy k =>
    obtain ⟨answer, es₁, rfl, h₁⟩ := trace_request_bind_iff.mp h
    cases answer with
    | ok done => obtain ⟨rfl, rfl⟩ := trace_done_iff.mp h₁; exact .declared
    | error e => obtain ⟨rfl, rfl⟩ := trace_done_iff.mp h₁; exact .undeclared e
  | manager k =>
    obtain ⟨answer, es₁, rfl, h₁⟩ := trace_request_bind_iff.mp h
    cases answer with
    | ok answer => obtain ⟨rfl, rfl⟩ := trace_done_iff.mp h₁; exact .updated
    | error e => obtain ⟨rfl, rfl⟩ := trace_done_iff.mp h₁; exact .refused e

/-- The ways of bringing an object about, from a state. -/
inductive Ensured (k : Kind) (c : Context) (spec : Spec) (s : State) :
    List Event → Left Action → Prop
  /-- It is not known how the object should be. -/
  | undrafted {e : InfraError} (hdraft : draft c.identity spec s k = .error e) :
    Ensured k c spec s [] (.error e, s)
  /-- There was no object, and one was to be created. -/
  | first {parent : String} {o : k.Object} {es : List Event} {left : Left Action}
    (hdraft : draft c.identity spec s k = .ok (parent, o)) (href : s.reference (slot k) = none)
    (h : Built parent (opened k s) k o es left) : Ensured k c spec s es left
  /-- The object was as it should be. -/
  | kept {parent : String} {o current : k.Object} {r : Reference}
    (hdraft : draft c.identity spec s k = .ok (parent, o)) (href : s.reference (slot k) = some r)
    (hagrees : agrees k current o = true) :
    Ensured k c spec s [called (.get k ⟨parent, r.id⟩) (.ok current)] (.ok .unchanged, opened k s)
  /-- The object was to be changed. -/
  | changed {parent : String} {o current : k.Object} {r : Reference} {es : List Event}
    {left : Left Action}
    (hdraft : draft c.identity spec s k = .ok (parent, o)) (href : s.reference (slot k) = some r)
    (hagrees : agrees k current o = false)
    (h : Overwritten ⟨parent, r.id⟩ (opened k s) k current o es left) :
    Ensured k c spec s (called (.get k ⟨parent, r.id⟩) (.ok current) :: es) left
  /-- The object had vanished, and another one was to be created. -/
  | again {parent : String} {o : k.Object} {r : Reference} {e : ApiError} {es : List Event}
    {left : Left Action}
    (hdraft : draft c.identity spec s k = .ok (parent, o)) (href : s.reference (slot k) = some r)
    (he : e.isNotFound = true) (h : Built parent (opened k s) k o es left) :
    Ensured k c spec s (called (.get k ⟨parent, r.id⟩) (.error e) :: es) left
  /-- The object could not be read. -/
  | unread {parent : String} {o : k.Object} {r : Reference} {e : ApiError}
    (hdraft : draft c.identity spec s k = .ok (parent, o)) (href : s.reference (slot k) = some r)
    (he : e.isNotFound = false) :
    Ensured k c spec s [called (.get k ⟨parent, r.id⟩) (.error e)] (.error (.api e), opened k s)

/-- Opening the part for manager objects fills no slot. -/
@[simp] theorem reference_opened (k : Kind) (s : State) (slot : Slot) :
    (opened k s).reference slot = s.reference slot := by
  cases k with
  | policy k => rfl
  | manager k => exact State.reference_withDhcp s slot

/-- The part for manager objects is open if it holds a reference. -/
theorem opened_of_reference {k : Kind} {s : State} {r : Reference}
    (h : s.reference (slot k) = some r) : opened k s = s := by
  cases k with
  | policy k => rfl
  | manager k =>
    have hslot : (slot (.manager k)).isDhcp = true := by cases k <;> rfl
    exact State.withDhcp_of_reference hslot h

theorem ensured_of_trace {k : Kind} {c : Context} {spec : Spec} {s : State} {es : List Event}
    {left : Left Action} (h : (ensure k c spec s).Trace es left) : Ensured k c spec s es left := by
  rw [ensure] at h
  cases hdraft : draft c.identity spec s k with
  | error e =>
    simp only [hdraft] at h
    obtain ⟨rfl, rfl⟩ := trace_done_iff.mp h
    exact .undrafted hdraft
  | ok drafted =>
    obtain ⟨parent, o⟩ := drafted
    simp only [hdraft, reference_opened] at h
    cases href : s.reference (slot k) with
    | none =>
      simp only [href] at h
      exact .first hdraft href (built_of_trace h)
    | some r =>
      simp only [href] at h
      obtain ⟨answer, es₁, rfl, h₁⟩ := trace_request_bind_iff.mp h
      cases answer with
      | ok current =>
        cases hagrees : agrees k current o with
        | true =>
          simp only [hagrees, if_true] at h₁
          obtain ⟨rfl, rfl⟩ := trace_done_iff.mp h₁
          exact .kept hdraft href hagrees
        | false =>
          simp only [hagrees, Bool.false_eq_true, if_false] at h₁
          exact .changed hdraft href hagrees (overwritten_of_trace h₁)
      | error e =>
        cases he : e.isNotFound with
        | true =>
          simp only [he, if_true] at h₁
          exact .again hdraft href he (built_of_trace h₁)
        | false =>
          simp only [he, Bool.false_eq_true, if_false] at h₁
          obtain ⟨rfl, rfl⟩ := trace_done_iff.mp h₁
          exact .unread hdraft href he

/-! ### Deletion -/

/-- The ways of deleting an object, from a state. -/
inductive Removed (k : Kind) (s : State) : List Event → Left Bool → Prop
  /-- There is no object. -/
  | nothing (href : s.reference (slot k) = none) : Removed k s [] (.ok false, withoutObject k s)
  /-- It is not known what the object belongs to. -/
  | ownerless {r : Reference} {e : InfraError} (href : s.reference (slot k) = some r)
    (howner : ownerOf k s r = .error e) : Removed k s [] (.error e, s)
  /-- It was deleted. -/
  | deleted {r : Reference} {parent : String} (href : s.reference (slot k) = some r)
    (howner : ownerOf k s r = .ok parent) :
    Removed k s [called (.delete k ⟨parent, r.id⟩) (.ok ())] (.ok true, forgotten k s)
  /-- It was gone already. -/
  | gone {r : Reference} {parent : String} {e : ApiError} (href : s.reference (slot k) = some r)
    (howner : ownerOf k s r = .ok parent) (he : e.isNotFound = true) :
    Removed k s [called (.delete k ⟨parent, r.id⟩) (.error e)] (.ok false, forgotten k s)
  /-- It could not be deleted. -/
  | refused {r : Reference} {parent : String} {e : ApiError} (href : s.reference (slot k) = some r)
    (howner : ownerOf k s r = .ok parent) (he : e.isNotFound = false) :
    Removed k s [called (.delete k ⟨parent, r.id⟩) (.error e)] (.error (.api e), s)

theorem removed_of_trace {k : Kind} {s : State} {es : List Event} {left : Left Bool}
    (h : (remove k s).Trace es left) : Removed k s es left := by
  rw [remove] at h
  cases href : s.reference (slot k) with
  | none =>
    simp only [href] at h
    obtain ⟨rfl, rfl⟩ := trace_done_iff.mp h
    exact .nothing href
  | some r =>
    simp only [href] at h
    cases howner : ownerOf k s r with
    | error e =>
      simp only [howner] at h
      obtain ⟨rfl, rfl⟩ := trace_done_iff.mp h
      exact .ownerless href howner
    | ok parent =>
      simp only [howner] at h
      obtain ⟨answer, es₁, rfl, h₁⟩ := trace_request_bind_iff.mp h
      cases answer with
      | ok done =>
        obtain ⟨rfl, rfl⟩ := trace_done_iff.mp h₁
        exact .deleted href howner
      | error e =>
        cases he : e.isNotFound with
        | true =>
          simp only [he, if_true] at h₁
          obtain ⟨rfl, rfl⟩ := trace_done_iff.mp h₁
          exact .gone href howner he
        | false =>
          simp only [he, Bool.false_eq_true, if_false] at h₁
          obtain ⟨rfl, rfl⟩ := trace_done_iff.mp h₁
          exact .refused href howner he

/-! ### Finding and waiting -/

/-- Going through a catalog. -/
abbrev search (catalog : Catalog) (c : Context) (spec : Spec) :
    Work (Except ApiError (Option PolicyObject)) :=
  findFirst (fun cursor => Work.call (.listCatalog catalog cursor))
    (fun o => o.displayName == some (wantedName spec catalog)) c.rounds

/-- Going through the logical switches. -/
abbrev searchSwitches (c : Context) (segment : Reference) :
    Work (Except ApiError (Option LogicalSwitch)) :=
  findFirst (fun cursor => Work.call (.listSwitches cursor)) (standsFor segment.path) c.rounds

/-- Going through the objects of a kind that belong to another one. -/
abbrev searchTagged (k : ManagerKind) (parent : String) (c : Context) :
    Work (Except ApiError (Option k.Object)) :=
  findFirst (fun cursor => Work.call (.list k parent cursor))
    (fun o => c.identity.isTagged (k.tags o)) c.rounds

/-- What a search of a catalog means for the state. -/
abbrev boundIn (catalog : Catalog) (spec : Spec) (s : State) :
    Except ApiError (Option PolicyObject) → Left Action :=
  bound (catalogLabel catalog) (wantedName spec catalog) (catalogSlot catalog)
    (fun o => ⟨o.id, o.path⟩) s

/-- What a search of the logical switches means for the state. -/
abbrev boundSwitch (segment : Reference) (s : State) :
    Except ApiError (Option LogicalSwitch) → Left Action :=
  bound switchLabel segment.path .logicalSwitch (fun o => ⟨o.id, Path.logicalSwitch o.id⟩) s

/-- What a search for a tagged object means for the state. -/
def adopted (k : ManagerKind) (parent : String) (s : State) :
    Except ApiError (Option k.Object) → Left Bool
  | .error e => (.error (.api e), s)
  | .ok o =>
    match o.bind k.id? with
    | none => (.ok false, s)
    | some id => (.ok true, s.withReference (slot (.manager k)) (some ⟨id, k.path ⟨parent, id⟩⟩))

/-- What the end of a wait means for the state. -/
def arrived (s : State) : Except InfraError String → Left Action
  | .error e => (.error e, s)
  | .ok address =>
    (.ok (addressAction s.snatIpAddress address), { s with snatIpAddress := some address })

theorem lookUp_eq (catalog : Catalog) (c : Context) (spec : Spec) (s : State) :
    lookUp catalog c spec s =
      (search catalog c spec).bind fun found => .done (boundIn catalog spec s found) :=
  rfl

theorem lookUpSwitch_eq (c : Context) (s : State) :
    lookUpSwitch c s =
      match s.reference .segment with
      | none => .done (.error (.missingDependency switchLabel (dependencyName .segment)), s)
      | some segment =>
        (searchSwitches c segment).bind fun found => .done (boundSwitch segment s found) := by
  rw [lookUpSwitch, require]
  cases s.reference .segment <;> rfl

theorem adopt_eq (k : ManagerKind) (c : Context) (s : State) :
    adopt k c s =
      match listingParent k s with
      | none => .done (.ok false, s)
      | some parent =>
        (searchTagged k parent c).bind fun found => .done (adopted k parent s found) := by
  rw [adopt]
  cases listingParent k s with
  | none => rfl
  | some parent =>
    refine congrArg (Program.bind _) (funext fun found => ?_)
    cases found with
    | error e => rfl
    | ok o =>
      cases hid : o.bind k.id? <;> simp only [adopted, hid] <;> rfl

/-- A task is recovered only if it looks after a created object whose reference is missing. Then it
is one adoption. -/
theorem recoverIfLost_cases (t : Task) (c : Context) (s : State) :
    recoverIfLost t c s = .done (.ok (), s) ∨
      ∃ k, t = .managed (.manager k) ∧ t.reference s = none ∧
        recoverIfLost t c s =
          (adopt k c s).bind fun left => .done (left.1.map fun _ => (), left.2) := by
  rw [recoverIfLost]
  split
  · next hlost =>
    have hnone : t.reference s = none := by
      rw [Bool.and_eq_true] at hlost
      exact Option.isNone_iff_eq_none.mp hlost.2
    cases t with
    | lookUp catalog => exact .inl rfl
    | realization => exact .inl rfl
    | lookUpSwitch => exact .inl rfl
    | managed k =>
      cases k with
      | policy k => exact .inl rfl
      | manager k => exact .inr ⟨k, rfl, hnone, rfl⟩
  · exact .inl rfl

/-- A task that recovers nothing only ensures what it looks after. -/
theorem runTask_eq {t : Task} {c : Context} {s : State}
    (h : recoverIfLost t c s = .done (.ok (), s)) (spec : Spec) :
    runTask t c spec s =
      (t.ensure c spec s).bind fun left => .done (left.1.mapError (·.inTask t.label), left.2) := by
  rw [runTask, h]
  rfl

theorem recoverIfLost_of_recover? {t : Task} (h : t.recover? = none) (c : Context) (s : State) :
    recoverIfLost t c s = .done (.ok (), s) := by
  rw [recoverIfLost, h]
  split <;> rfl

theorem recoverIfLost_of_reference {t : Task} {s : State} {r : Reference}
    (h : t.reference s = some r) (c : Context) : recoverIfLost t c s = .done (.ok (), s) := by
  rcases recoverIfLost_cases t c s with hrecover | ⟨k, -, hlost, -⟩
  · exact hrecover
  · cases hlost.symm.trans h

theorem realize_eq (c : Context) (s : State) :
    realize c s =
      match s.reference .snatIpAllocation with
      | none =>
        .done (.error (.missingDependency realizationLabel (dependencyName .snatIpAllocation)), s)
      | some allocation =>
        (awaitAddress c.realization allocation.path c.rounds).bind fun result =>
          .done (arrived s result) := by
  rw [realize, require]
  cases s.reference .snatIpAllocation with
  | none => rfl
  | some allocation =>
    refine congrArg (Program.bind _) (funext fun result => ?_)
    cases result <;> rfl

end Pipeline

end ClusterNet
