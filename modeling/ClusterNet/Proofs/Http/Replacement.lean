import ClusterNet.Proofs.Http.Client
import ClusterNet.Proofs.Pipeline.Actions

/-!
# When a replacement is made

A task that refers to an object reads it first, and makes another one if the object is missing. Over
a network an object is missing if an answer says so, and nothing else counts: not a rejection, not a
host that fails or cannot be reached, and not an answer that makes no sense. So an object is made
twice only if the control plane has said that the first one is gone.

A task goes one of a few ways (`Pipeline.Ensured`), and each of them is a list of requests that are
carried out one behind the other. The first of these is the read, and what it comes to is decided by
the last answer to it (`Client.isMissing_call_iff`).

## Main definitions

* `Http.Replaces` — another object is being made
* `Http.ReplacesMissing` — a task over a network that makes another object only for a missing one

## Main results

* `Http.replacesMissing_of_ensured` — each way in which a task can go is carried out like that
* `Http.replaces_iff_saysMissing` — tasks over a network, in any surroundings
-/

namespace ClusterNet

namespace Http

open Cluster (InfraError Reference Spec State)
open ControlPlane (Kind ManagerKind PolicyKind Place)
open Pipeline (Action Built Ensured Left Overwritten draft slot)
open Program

variable {c : Client} {k : Kind} {ctx : Pipeline.Context} {spec : Spec} {s : State} {r : Reference}
  {es : List Pipeline.Event} {fs : List Event} {left : Left Action} {tokens tokens' : TokenCache}
  {parent : String} {o : k.Object} {place : Place}

/-- Another object is being made under an owner. A declared one is sent to a place with a fresh id,
a created one to the collection that it belongs to. -/
def Replaces (c : Client) (parent : String) (k : Kind) (o : k.Object) (fs : List Event) : Prop :=
  match k, o with
  | .policy k, o => ∃ id headers answer, drawn id ∈ fs ∧
      exchanged (c.request (route (.patch k ⟨parent, id⟩ o)) headers) answer ∈ fs
  | .manager k, o => ∃ headers answer,
      exchanged (c.request (route (.create k parent o)) headers) answer ∈ fs

/-- Everything that is sent to be read or to be stored concerns the object at a place, and no other
one is made. -/
structure Confined (c : Client) (k : Kind) (place : Place) (fs : List Event) : Prop where
  /-- No id is drawn. -/
  drawsNone : ∀ id, drawn id ∉ fs
  /-- What is read is the object at that place. -/
  reads : ∀ request answer, exchanged request answer ∈ fs → request.verb = .get →
    request.url = c.base ++ resource k place
  /-- What is stored goes to that place, and nothing is added to a collection. -/
  stores : ∀ request answer value, exchanged request answer ∈ fs → request.body = .json value →
    request.verb ≠ .post ∧ request.url = c.base ++ resource k place

/-- A task that refers to an object by `r` and makes another one only if the object is missing: `fs`
is what it has asked for over a network, and `left` is what it has left behind. -/
structure ReplacesMissing (c : Client) (k : Kind) (ctx : Pipeline.Context) (spec : Spec) (s : State)
    (r : Reference) (fs : List Event) (left : Left Action) : Prop where
  /-- What is read is the object that is referred to. -/
  reads : ∀ request answer, exchanged request answer ∈ fs → request.verb = .get → ∃ parent o,
    draft ctx.identity spec s k = .ok (parent, o) ∧
    request.url = c.base ++ resource k ⟨parent, r.id⟩
  /-- Another object is made exactly if the last answer says that this one does not exist. -/
  replaces : (∃ parent o, draft ctx.identity spec s k = .ok (parent, o) ∧
    Replaces c parent k o fs) ↔ SaysMissing fs
  /-- If not, whatever is stored goes to the place of the object that is referred to. -/
  keeps : ¬ SaysMissing fs → fs = [] ∨ ∃ parent o,
    draft ctx.identity spec s k = .ok (parent, o) ∧ Confined c k ⟨parent, r.id⟩ fs
  /-- A failure leaves all references as they were. -/
  failed : ∀ e, left.1 = .error e → ∀ slot', left.2.reference slot' = s.reference slot'

theorem Replaces.append (h : Replaces c parent k o fs) (fs' : List Event) :
    Replaces c parent k o (fs' ++ fs) := by
  cases k with
  | policy k =>
    obtain ⟨id, headers, answer, hdrawn, hmem⟩ := h
    exact ⟨id, headers, answer, List.mem_append_right _ hdrawn, List.mem_append_right _ hmem⟩
  | manager k =>
    obtain ⟨headers, answer, hmem⟩ := h
    exact ⟨headers, answer, List.mem_append_right _ hmem⟩

/-! ### Keeping to one object -/

theorem Confined.append {fs' : List Event} (h : Confined c k place fs)
    (h' : Confined c k place fs') : Confined c k place (fs ++ fs') where
  drawsNone id hmem := (List.mem_append.mp hmem).elim (h.drawsNone id) (h'.drawsNone id)
  reads request answer hmem hverb :=
    (List.mem_append.mp hmem).elim (h.reads request answer · hverb)
      (h'.reads request answer · hverb)
  stores request answer value hmem hbody :=
    (List.mem_append.mp hmem).elim (h.stores request answer value · hbody)
      (h'.stores request answer value · hbody)

/-- Who keeps to one object makes no other one. -/
theorem Confined.not_replaces (h : Confined c k place fs) : ¬ Replaces c parent k o fs := by
  cases k with
  | policy k =>
    rintro ⟨id, -, -, hdrawn, -⟩
    exact h.drawsNone id hdrawn
  | manager k =>
    rintro ⟨headers, answer, hmem⟩
    exact (h.stores _ _ _ hmem rfl).1 rfl

/-- A client that sends a request to a place, but does not add to a collection, keeps to the object
there. -/
theorem confined_of_sends {route : Route} (h : ∀ e ∈ fs, c.Sends route e)
    (hpath : route.path = resource k place) (hverb : route.verb ≠ .post) :
    Confined c k place fs where
  drawsNone id hmem := by cases h _ hmem
  reads request answer hmem hget := by
    cases h _ hmem with
    | token => exact nomatch hget
    | request headers => exact congrArg (c.base ++ ·) hpath
  stores request answer value hmem hbody := by
    cases h _ hmem with
    | token => exact nomatch hbody
    | request headers => exact ⟨hverb, congrArg (c.base ++ ·) hpath⟩

/-- Reading an object. -/
theorem confined_get {answer : ControlPlane.Answer (.get k place)}
    (h : (c.call (.get k place) tokens).Trace fs (answer, tokens')) : Confined c k place fs :=
  confined_of_sends (Client.sends_of_call h) rfl nofun

/-- Changing an object, for which nothing is read. -/
theorem confined_of_overwritten {s : State} {current : k.Object}
    (h : Overwritten place s k current o es left)
    (hcarried : Carried c.carry es tokens fs tokens') :
    Confined c k place fs ∧ readAnswers fs = [] := by
  have hsent : ∀ {q : ControlPlane.Request} {answer : ControlPlane.Answer q},
      (c.call q tokens).Trace fs (answer, tokens') → (route q).path = resource k place →
      (route q).verb ≠ .post → (route q).verb ≠ .get →
      Confined c k place fs ∧ readAnswers fs = [] :=
    fun hcall hpath hpost hget =>
      ⟨confined_of_sends (Client.sends_of_call hcall) hpath hpost,
        readAnswers_of_sends (Client.sends_of_call hcall) hget⟩
  cases h with
  | declared | undeclared | updated | refused => exact hsent hcarried.single rfl nofun nofun

/-! ### Making another one -/

/-- Making an object, for which nothing is read. A client that is ready sends what it takes. -/
theorem replaces_of_built {s : State} (hready : c.Ready tokens)
    (h : Built parent s k o es left) (hcarried : Carried c.carry es tokens fs tokens') :
    Replaces c parent k o fs ∧ readAnswers fs = [] := by
  have hcreate : ∀ {k : ManagerKind} {o : k.Object} {answer : ControlPlane.Answer
      (.create k parent o)}, (c.call (.create k parent o) tokens).Trace fs (answer, tokens') →
      Replaces c parent (.manager k) o fs ∧ readAnswers fs = [] := by
    intro k o answer hcall
    obtain ⟨body, hsend, -⟩ := Client.trace_call_iff.mp hcall
    exact ⟨Client.exists_sent hready hsend, readAnswers_of_sends (Client.sends_of_call hcall) nofun⟩
  have hdeclare : ∀ {k : PolicyKind} {o : k.Object} {id : String} {answer},
      Carried c.carry [Pipeline.drawn id, Pipeline.called (.patch k ⟨parent, id⟩ o) answer] tokens
        fs tokens' → Replaces c parent (.policy k) o fs ∧ readAnswers fs = [] := by
    intro k o id answer hcarried
    cases hcarried with
    | cons hdraw hrest =>
      obtain ⟨rfl, rfl⟩ := Client.trace_carry_drawId_iff.mp hdraw
      have hcall := hrest.single
      obtain ⟨body, hsend, -⟩ := Client.trace_call_iff.mp hcall
      obtain ⟨headers, answer, hmem⟩ := Client.exists_sent hready hsend
      refine ⟨⟨id, headers, answer, .head _, .tail _ hmem⟩, ?_⟩
      rw [readAnswers_append, readAnswers_of_sends (Client.sends_of_call hcall) nofun]
      rfl
  cases h with
  | declared | undeclared => exact hdeclare hcarried
  | created | nameless | uncreated => exact hcreate hcarried.single

/-- **Each way in which a task can go** is carried out so that another object is made only for a
missing one. -/
theorem replacesMissing_of_ensured (href : s.reference (slot k) = some r)
    (h : Ensured k ctx spec s es left) (hcarried : Carried c.carry es tokens fs tokens') :
    ReplacesMissing c k ctx spec s r fs left := by
  have hfailed := h.truthful.failed
  have hkeeps : ∀ {parent} {o : k.Object}, draft ctx.identity spec s k = .ok (parent, o) →
      Confined c k ⟨parent, r.id⟩ fs → ¬ SaysMissing fs →
      ReplacesMissing c k ctx spec s r fs left := by
    intro parent o hdraft hconfined hnot
    exact {
      reads := fun request answer hmem hverb =>
        ⟨parent, o, hdraft, hconfined.reads request answer hmem hverb⟩
      replaces := iff_of_false (fun ⟨_, _, _, hreplaces⟩ => hconfined.not_replaces hreplaces) hnot
      keeps := fun _ => .inr ⟨parent, o, hdraft, hconfined⟩
      failed := hfailed }
  cases h with
  | undrafted hdraft =>
    cases hcarried
    have hnot : ¬ SaysMissing [] := fun ⟨a, ha, _⟩ => nomatch ha
    exact {
      reads := fun _ _ hmem => absurd hmem List.not_mem_nil
      replaces := iff_of_false (fun ⟨_, _, hok, _⟩ => nomatch hdraft.symm.trans hok) hnot
      keeps := fun _ => .inl rfl
      failed := hfailed }
  | first hdraft hnone h => exact nomatch href.symm.trans hnone
  | kept hdraft href' hagrees =>
    cases href.symm.trans href'
    have hcall := hcarried.single
    refine hkeeps hdraft (confined_get hcall) ?_
    rw [← Client.isMissing_call_iff rfl hcall]
    exact not_isMissing_ok _
  | changed hdraft href' hagrees h =>
    cases href.symm.trans href'
    cases hcarried with
    | cons hcall hrest =>
      obtain ⟨hconfined, hnone⟩ := confined_of_overwritten h hrest
      refine hkeeps hdraft ((confined_get hcall).append hconfined) ?_
      rw [saysMissing_append_iff hnone, ← Client.isMissing_call_iff rfl hcall]
      exact not_isMissing_ok _
  | unread hdraft href' he =>
    cases href.symm.trans href'
    have hcall := hcarried.single
    refine hkeeps hdraft (confined_get hcall) ?_
    rw [← Client.isMissing_call_iff rfl hcall, isMissing_error_iff, he]
    exact Bool.false_ne_true
  | @again parent o _ e es left hdraft href' he h =>
    cases href.symm.trans href'
    cases hcarried with
    | @cons _ _ _ fs₁ fs₂ _ _ _ hcall hrest =>
      have hmissing : IsMissing (.error e : Except ControlPlane.ApiError k.Object) :=
        isMissing_error_iff.mpr he
      obtain ⟨hreplaces, hnone⟩ :=
        replaces_of_built (Client.ready_of_isMissing hcall hmissing) h hrest
      have hsays : SaysMissing (fs₁ ++ fs₂) := by
        rw [saysMissing_append_iff hnone, ← Client.isMissing_call_iff rfl hcall]
        exact hmissing
      refine {
        reads := fun request answer hmem hverb => ⟨parent, o, hdraft, ?_⟩
        replaces := iff_of_true ⟨parent, o, hdraft, hreplaces.append fs₁⟩ hsays
        keeps := fun hnot => absurd hsays hnot
        failed := hfailed }
      rcases List.mem_append.mp hmem with hmem | hmem
      · exact (confined_get hcall).reads request answer hmem hverb
      · exact absurd hverb (verb_of_readAnswers hnone hmem)

/-- **Only a missing object is replaced.** A task that refers to an object and is run over a network
comes to an end, whatever the hosts answer. It makes another object exactly if the last answer to
its reads says that this one does not exist, and a failure leaves all references as they were. -/
theorem replaces_iff_saysMissing {σ : Type} (answer : (e : Effect) → σ → e.Answer × σ) (w : σ)
    (c : Client) (tokens : TokenCache) {k : Kind} (ctx : Pipeline.Context) (spec : Spec) {s : State}
    {r : Reference} (href : s.reference (slot k) = some r) :
    ∃ left tokens' w',
      (c.carryOut (Pipeline.ensure k ctx spec s) tokens).run answer w =
        (some (left, tokens'), w') ∧
      ReplacesMissing c k ctx spec s r
        (asked answer (c.carryOut (Pipeline.ensure k ctx spec s) tokens) w) left := by
  obtain ⟨⟨left, tokens'⟩, w', hrun⟩ : ∃ left w',
      (c.carryOut (Pipeline.ensure k ctx spec s) tokens).run answer w = (some left, w') :=
    (Client.ends_carryOut (Pipeline.ends_ensure k ctx spec s) c tokens).run w
  refine ⟨left, tokens', w', hrun, ?_⟩
  obtain ⟨es, htrace, hcarried⟩ := exists_carried (trace_asked hrun)
  exact replacesMissing_of_ensured href (Pipeline.ensured_of_trace htrace) hcarried

/-- A host that has too much to do at first and then refuses a request, because there is no such
object. After that it takes whatever it is sent. -/
def busyHost : (e : Effect) → Nat → e.Answer × Nat
  | .exchange _, 0 => (.ok ⟨503, ""⟩, 1)
  | .exchange _, 1 => (.ok ⟨400, "\x7b\"error_code\":600\x7d"⟩, 2)
  | .exchange _, n + 2 => (.ok ⟨200, ""⟩, n + 3)
  | .readFile _, n => (none, n)
  | .drawId, n => ("new", n)
  | .sleep _, n => ((), n)

/-- A gateway that is gone is made anew behind a host that was busy at first. -/
theorem replaces_iff_saysMissing_busyHost :
    let c : Client := { base := "http://host", credentials := .basic "user" "secret", retry := {} }
    let ctx : Pipeline.Context := { identity := ⟨"id", "small"⟩, rounds := 1 }
    let r : Reference := ⟨"old", "/old"⟩
    let s : State := { State.fresh with
      tier0Gateway := some ⟨"edge", "/edge"⟩, tier1Gateway := some r }
    let work := c.carryOut (Pipeline.ensure (.policy .tier1) ctx Pipeline.smallCluster s) {}
    s.reference (slot (.policy .tier1)) = some r ∧
      ∃ left tokens' w', work.run busyHost 0 = (some (left, tokens'), w') ∧
        SaysMissing (asked busyHost work 0) ∧
        (left.2.reference .tier1Gateway).map (·.id) = some "new" ∧
        ReplacesMissing c (.policy .tier1) ctx Pipeline.smallCluster s r (asked busyHost work 0)
          left := by
  intro c ctx r s work
  obtain ⟨left, tokens', w', hrun, hreplaces⟩ :=
    replaces_iff_saysMissing busyHost 0 c {} ctx Pipeline.smallCluster
      (show s.reference (slot (.policy .tier1)) = some r from rfl)
  have hnew : (work.run busyHost 0).1.map (fun left =>
      (left.1.2.reference .tier1Gateway).map (·.id)) = some (some "new") := by
    decide +kernel
  rw [show work.run busyHost 0 = (some (left, tokens'), w') from hrun] at hnew
  have hsays : SaysMissing (asked busyHost work 0) := by
    have hlast : (readAnswers (asked busyHost work 0)).getLast?.map Except.toOption =
        some (some ⟨400, "\x7b\"error_code\":600\x7d"⟩) := by
      decide +kernel
    obtain ⟨answer, hread, hok⟩ := Option.map_eq_some_iff.mp hlast
    cases answer with
    | error f => exact nomatch hok
    | ok a =>
      obtain rfl := Option.some.inj hok
      exact ⟨_, hread, .inr ⟨rfl, ⟨some 600, none⟩, by decide +kernel, .inr (.inl rfl)⟩⟩
  exact ⟨rfl, left, tokens', w', hrun, hsays, Option.some.inj hnew, hreplaces⟩

end Http

end ClusterNet
