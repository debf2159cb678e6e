import ClusterNet.ControlPlane.Paging
import ClusterNet.Proofs.ControlPlane.Simulator
import ClusterNet.Proofs.Trace

/-!
# Work on a testbed

What work does to the control plane of a testbed, as long as no answers are queued there. Work that
only looks, at a control plane where no failure is due, leaves nothing behind but the record of
what it asked.

Listings are handed out in pages. What is found on them does not depend on when the pages were
asked for, so it is given by a search through the same pages that asks for nothing
(`ControlPlane.firstIn`).

## Main definitions

* `Testbed.asked` — a testbed at whose control plane more has been asked
* `Effect.touches` — the parts of a control plane that an effect may change
* `ControlPlane.Lists` — work that fetches a page of some items
* `ControlPlane.firstIn` — the search for an item in pages that are at hand

## Main results

* `Testbed.replies_same` — what no effect of a trace touches stays as it was
* `ControlPlane.Lists.loop_ok`, `Lists.run_loop` — a search that comes to an end has found what is
  in the pages, and it does so whenever no failure is due
-/

namespace ClusterNet

namespace ControlPlane

open Program

/-! ### Effects -/

/-- The parts of a control plane that an effect may change. -/
def Effect.touches : Effect → List Part
  | .call r => r.touches
  | .drawId | .sleep _ => []

namespace Testbed

/-- The testbed at whose control plane more has been asked. -/
def asked (b : Testbed) (rs : List Request) : Testbed := { b with plane := b.plane.asked rs }

@[simp] theorem asked_nil (b : Testbed) : b.asked [] = b := by
  rw [asked, Simulator.asked_nil]

@[simp] theorem asked_asked (b : Testbed) (rs rs' : List Request) :
    (b.asked rs).asked rs' = b.asked (rs ++ rs') := by
  rw [asked, asked, Simulator.asked_asked, asked]

variable {b b' : Testbed}

/-- Without queued answers, a request is answered by the control plane. -/
theorem perform_call (hqueued : b.queued = []) (r : Request) :
    perform (.call r) b =
      ((Simulator.answer r b.plane).1, { b with plane := (Simulator.answer r b.plane).2 }) := by
  rw [perform, answer, hqueued]
  rfl

theorem run_call (hqueued : b.queued = []) (r : Request) :
    b.run (Work.call r) =
      (some (Simulator.answer r b.plane).1,
        { b with plane := (Simulator.answer r b.plane).2 }) := by
  have hperform := perform_call hqueued r
  rw [Testbed.run, Work.call, request, run_ask, hperform]
  rfl

/-- A request that only looks, while its failure is not due. -/
theorem run_call_served {r : Request} {answer : Answer r} (hqueued : b.queued = [])
    (hdue : b.plane.failures.contains r.method = false)
    (hserve : (b.plane.asked [r]).serve r = (answer, b.plane.asked [r])) :
    b.run (Work.call r) = (some answer, b.asked [r]) := by
  rcases Simulator.answer_cases r b.plane with ⟨hdue', -⟩ | ⟨-, hserved⟩
  · rw [hdue] at hdue'
    exact nomatch hdue'
  · rw [run_call hqueued, hserved, hserve]
    rfl

/-- A request whose failure is due. -/
theorem run_call_failed {r : Request} (hqueued : b.queued = [])
    (hdue : b.plane.failures.contains r.method = true) :
    ∃ e b', b.run (Work.call r) = (some (.error e), b') := by
  rcases Simulator.answer_cases r b.plane with ⟨-, hfailed⟩ | ⟨hdue', -⟩
  · refine ⟨Simulator.injected r.method,
      { b with plane := (b.plane.asked [r]).failed r.method }, ?_⟩
    rw [run_call hqueued, hfailed]
  · rw [hdue] at hdue'
    exact nomatch hdue'

/-- Work queues no answers. -/
theorem queued_perform (hqueued : b.queued = []) (e : Effect) : (perform e b).2.queued = [] := by
  cases e with
  | call r => rw [perform_call hqueued]; exact hqueued
  | drawId | sleep _ => exact hqueued

theorem perform_same (hqueued : b.queued = []) {e : Effect} {part : Part} (h : part ∉ e.touches) :
    part.Same b.plane (perform e b).2.plane := by
  cases e with
  | call r =>
    rw [perform_call hqueued]
    exact Simulator.answer_same h b.plane
  | drawId => exact Simulator.drawId_same part b.plane
  | sleep _ => exact .refl part b.plane

/-- A trace that begins with a request. -/
theorem replies_call {r : Request} {answer : Answer r} {es : List (Event Effect.interface)}
    (hqueued : b.queued = []) (h : Replies perform (⟨Effect.call r, answer⟩ :: es) b b') :
    ∃ plane, Simulator.answer r b.plane = (answer, plane) ∧
      Replies perform es { b with plane } b' := by
  obtain ⟨hanswer, hrest⟩ := h
  change (perform (.call r) b).1 = answer at hanswer
  change Replies perform es (perform (.call r) b).2 b' at hrest
  rw [perform_call hqueued] at hanswer hrest
  exact ⟨_, Prod.ext hanswer rfl, hrest⟩

/-- A trace that is one request. -/
theorem replies_called {r : Request} {answer : Answer r} (hqueued : b.queued = [])
    (h : Replies perform ([⟨Effect.call r, answer⟩] : List (Event Effect.interface)) b b') :
    Simulator.answer r b.plane = (answer, b'.plane) := by
  obtain ⟨plane, hanswer, hnil⟩ := replies_call hqueued h
  rw [hanswer, replies_nil.mp hnil]

/-- A trace that begins with an id that is drawn. -/
theorem replies_drawId {id : String} {es : List (Event Effect.interface)}
    (h : Replies perform (⟨Effect.drawId, id⟩ :: es) b b') :
    id = b.plane.freshId b.plane.drawnIds ∧
      Replies perform es { b with plane := b.plane.drawId.2 } b' :=
  ⟨h.1.symm, h.2⟩

/-- **What no effect of a trace touches stays as it was.** -/
theorem replies_same {es : List (Event Effect.interface)} (h : Replies perform es b b')
    (hqueued : b.queued = []) :
    b'.queued = [] ∧ ∀ part, (∀ e ∈ es, part ∉ e.1.touches) → part.Same b.plane b'.plane := by
  induction es generalizing b with
  | nil =>
    rw [replies_nil.mp h]
    exact ⟨hqueued, fun part _ => .refl part b.plane⟩
  | cons e es ih =>
    obtain ⟨hqueued', hsame⟩ := ih h.2 (queued_perform hqueued e.1)
    refine ⟨hqueued', fun part hnot => ?_⟩
    have hhead := perform_same hqueued (hnot e (.head es))
    exact hhead.trans (hsame part fun e' hmem => hnot e' (.tail e hmem))

/-- No trace changes the settings. -/
theorem replies_settings {es : List (Event Effect.interface)} (h : Replies perform es b b')
    (hqueued : b.queued = []) : Part.settings.Same b.plane b'.plane := by
  refine (replies_same h hqueued).2 .settings ?_
  intro e _
  obtain ⟨e, answer⟩ := e
  cases e with
  | call r => exact r.settings_not_mem_touches
  | drawId | sleep _ => exact List.not_mem_nil

/-- Where no failure is due, none will be. -/
theorem failures_replies {es : List (Event Effect.interface)} (h : Replies perform es b b')
    (hqueued : b.queued = []) (hfailures : b.plane.failures = []) : b'.plane.failures = [] := by
  induction es generalizing b with
  | nil =>
    rw [replies_nil.mp h]
    exact hfailures
  | cons e es ih =>
    refine ih h.2 (queued_perform hqueued e.1) ?_
    obtain ⟨e, answer⟩ := e
    cases e with
    | call r =>
      rw [perform_call hqueued]
      exact Simulator.failures_answer hfailures r
    | drawId | sleep _ => exact hfailures

/-- No trace takes back an id that was given away. -/
theorem drawnIds_le_of_replies {es : List (Event Effect.interface)} (h : Replies perform es b b')
    (hqueued : b.queued = []) : b.plane.drawnIds ≤ b'.plane.drawnIds := by
  induction es generalizing b with
  | nil =>
    obtain rfl := replies_nil.mp h
    exact Nat.le_refl _
  | cons e es ih =>
    refine Nat.le_trans ?_ (ih h.2 (queued_perform hqueued e.1))
    obtain ⟨e, answer⟩ := e
    cases e with
    | call r =>
      rw [perform_call hqueued]
      exact Simulator.drawnIds_le_answer r b.plane
    | drawId => exact Nat.le_succ _
    | sleep _ => exact Nat.le_refl _

end Testbed

/-! ### Listings -/

section Listing

variable {α : Type} {fetch : Option String → Work (Except ApiError (Page α))}
variable {request : Option String → Request} {items : Simulator → List α} {wanted : α → Bool}
variable {b b' : Testbed}

/-- Work that fetches a page of some items by a request. -/
structure Lists (fetch : Option String → Work (Except ApiError (Page α)))
    (request : Option String → Request) (items : Simulator → List α) : Prop where
  /-- The page, if no failure is due. -/
  served : ∀ {b : Testbed} (cursor : Option String), b.queued = [] →
    b.plane.failures.contains (request cursor).method = false →
    b.run (fetch cursor) =
      (some (.ok (Simulator.pageAt (items b.plane) cursor b.plane.pageSize)),
        b.asked [request cursor])
  /-- The failure that is due. -/
  failed : ∀ {b : Testbed} (cursor : Option String), b.queued = [] →
    b.plane.failures.contains (request cursor).method = true →
    ∃ e b', b.run (fetch cursor) = (some (.error e), b')
  /-- The request only looks. -/
  looks : ∀ cursor, (request cursor).method.isMutation = false
  /-- Asking does not change the items. -/
  items_asked : ∀ s rs, items (Simulator.asked s rs) = items s

theorem lists_catalog (c : Catalog) :
    Lists (fun cursor => Work.call (.listCatalog c cursor)) (.listCatalog c)
      (fun s => s.catalogs.get c) where
  served _ hqueued hdue := Testbed.run_call_served hqueued hdue rfl
  failed _ hqueued hdue := Testbed.run_call_failed hqueued hdue
  looks _ := rfl
  items_asked _ _ := rfl

theorem lists_switches :
    Lists (fun cursor => Work.call (.listSwitches cursor)) .listSwitches (·.switches) where
  served _ hqueued hdue := Testbed.run_call_served hqueued hdue rfl
  failed _ hqueued hdue := Testbed.run_call_failed hqueued hdue
  looks _ := rfl
  items_asked _ _ := rfl

theorem lists_objectsOf (k : ManagerKind) (parent : String) :
    Lists (fun cursor => Work.call (.list k parent cursor)) (.list k parent)
      (·.objectsOf k parent) where
  served _ hqueued hdue := Testbed.run_call_served hqueued hdue rfl
  failed _ hqueued hdue := Testbed.run_call_failed hqueued hdue
  looks _ := rfl
  items_asked _ _ := rfl

theorem lists_balancers (k : BalancerKind) :
    Lists (fun cursor => Work.call (.listBalancers k cursor)) (.listBalancers k)
      (fun s => s.balancers.get k) where
  served _ hqueued hdue := Testbed.run_call_served hqueued hdue rfl
  failed _ hqueued hdue := Testbed.run_call_failed hqueued hdue
  looks _ := rfl
  items_asked _ _ := rfl

/-- What a page at a cursor means for a search: the cursor to go on with, or the result. -/
def onPage (wanted : α → Bool) (cursor : Option String) (page : Page α) :
    Option String ⊕ Except ApiError (Option α) :=
  match page.results.find? wanted with
  | some a => .inr (.ok (some a))
  | none =>
    match nextCursor cursor page with
    | .error e => .inr (.error e)
    | .ok none => .inr (.ok none)
    | .ok (some next) => .inl (some next)

theorem findOnPage_eq {I : Interface} (fetch : Option String → Program I (Except ApiError (Page α)))
    (wanted : α → Bool) (cursor : Option String) :
    findOnPage fetch wanted cursor = (fetch cursor).bind fun
      | .error e => .done (.inr (.error e))
      | .ok page => .done (onPage wanted cursor page) := by
  refine congrArg (Program.bind _) (funext fun answer => ?_)
  cases answer with
  | error e => rfl
  | ok page =>
    cases hfound : page.results.find? wanted with
    | some a => simp only [onPage, hfound]
    | none =>
      simp only [onPage, hfound]
      split <;> simp_all

/-- The search for an item in the pages of some items, without asking for them. -/
def firstIn (items : List α) (size : Nat) (wanted : α → Bool) (cursor : Option String)
    (pages : Nat) : Work (Except ApiError (Option α)) :=
  Program.loop (findOnPage (fun cursor => .done (.ok (Simulator.pageAt items cursor size))) wanted)
    pages cursor

/-- There is nothing to be found among no items. -/
theorem firstIn_nil {size pages : Nat} {cursor : Option String} {o : Option α}
    (h : firstIn [] size wanted cursor pages = .done (.ok o)) : o = none := by
  cases pages with
  | zero => cases h
  | succ pages =>
    have hresults : (Simulator.pageAt ([] : List α) cursor size).results = [] := by
      simp [Simulator.pageAt]
    have hnext : nextCursor cursor (Simulator.pageAt ([] : List α) cursor size) = .ok none := by
      simp [nextCursor, Simulator.pageAt, Page.next?]
    have hpage : onPage wanted cursor (Simulator.pageAt [] cursor size) = .inr (.ok none) := by
      rw [onPage, hresults, List.find?_nil]
      dsimp only
      rw [hnext]
    rw [firstIn, Program.loop, findOnPage_eq, done_bind] at h
    dsimp only at h
    rw [hpage] at h
    cases h
    rfl

/-- What is found on a page is on it. -/
theorem mem_of_onPage {page : Page α} {cursor : Option String} {o : α}
    (h : onPage wanted cursor page = .inr (.ok (some o))) : o ∈ page.results := by
  rw [onPage] at h
  split at h
  · next found hfound =>
    obtain rfl : found = o := Option.some.inj (Except.ok.inj (Sum.inr.inj h))
    exact List.mem_of_find?_eq_some hfound
  · split at h <;> cases h

/-- What is found in the pages of some items is one of them. -/
theorem mem_of_firstIn {items : List α} {size pages : Nat} {cursor : Option String} {o : α}
    (h : firstIn items size wanted cursor pages = .done (.ok (some o))) : o ∈ items := by
  induction pages generalizing cursor with
  | zero => exact nomatch h
  | succ pages ih =>
    rw [firstIn, Program.loop, findOnPage_eq, Program.done_bind] at h
    dsimp only [Program.done_bind] at h
    generalize hpage : onPage wanted cursor _ = next at h
    cases next with
    | inl cursor' => exact ih h
    | inr result =>
      rw [Program.done.inj h] at hpage
      exact List.mem_of_mem_take (List.mem_of_mem_drop (mem_of_onPage hpage))

/-- A search makes no other requests than for pages. -/
theorem trace_findFirst {P : Event Effect.interface → Prop}
    (hfetch : ∀ cursor es answer, (fetch cursor).Trace es answer → ∀ e ∈ es, P e) {pages : Nat}
    {es : List (Event Effect.interface)} {found : Except ApiError (Option α)}
    (h : (findFirst fetch wanted pages).Trace es found) : ∀ e ∈ es, P e := by
  refine trace_loop_forall (fun cursor es' next h' => ?_) h
  rw [findOnPage_eq, trace_bind_iff] at h'
  obtain ⟨es₁, es₂, answer, rfl, h₁, h₂⟩ := h'
  have hrest : es₂ = [] := by
    cases answer with
    | error e => exact (trace_done_iff.mp h₂).1
    | ok page => exact (trace_done_iff.mp h₂).1
  rw [hrest, List.append_nil]
  exact hfetch cursor es₁ answer h₁

/-- A search that comes to an end without an error has found what is in the pages. -/
theorem Lists.loop_ok (h : Lists fetch request items) {pages : Nat} {cursor : Option String}
    {o : Option α} (hqueued : b.queued = [])
    (hrun : b.run (Program.loop (findOnPage fetch wanted) pages cursor) = (some (.ok o), b')) :
    firstIn (items b.plane) b.plane.pageSize wanted cursor pages = .done (.ok o) := by
  induction pages generalizing b cursor with
  | zero => exact nomatch (Prod.mk.inj hrun).1
  | succ pages ih =>
    rw [Testbed.run, Program.loop, findOnPage_eq, run_bind, run_bind] at hrun
    rw [firstIn, Program.loop, findOnPage_eq, done_bind]
    cases hdue : b.plane.failures.contains (request cursor).method with
    | true =>
      obtain ⟨e, b'', hfailed⟩ := h.failed cursor hqueued hdue
      rw [← Testbed.run, hfailed] at hrun
      exact nomatch (Prod.mk.inj hrun).1
    | false =>
      rw [← Testbed.run, h.served cursor hqueued hdue] at hrun
      dsimp only [run_done, done_bind] at hrun ⊢
      generalize onPage wanted cursor _ = next at hrun ⊢
      cases next with
      | inl cursor' =>
        have hrest := ih (b := b.asked [request cursor]) hqueued hrun
        rwa [show items (b.asked [request cursor]).plane = items b.plane from
          h.items_asked b.plane _] at hrest
      | inr result => exact congrArg Program.done (Option.some.inj (Prod.mk.inj hrun).1)

/-- Without failures that are due, a search finds what is in the pages. -/
theorem Lists.run_loop (h : Lists fetch request items) {pages : Nat} {cursor : Option String}
    {result : Except ApiError (Option α)} (hqueued : b.queued = [])
    (hfailures : b.plane.failures = [])
    (hfirst : firstIn (items b.plane) b.plane.pageSize wanted cursor pages = .done result) :
    ∃ rs, (∀ r ∈ rs, r.method.isMutation = false) ∧
      b.run (Program.loop (findOnPage fetch wanted) pages cursor) = (some result, b.asked rs) := by
  induction pages generalizing b cursor with
  | zero => exact nomatch hfirst
  | succ pages ih =>
    rw [firstIn, Program.loop, findOnPage_eq, done_bind] at hfirst
    have hserved := h.served cursor hqueued (by rw [hfailures]; rfl)
    rw [Testbed.run, Program.loop, findOnPage_eq, run_bind, run_bind, ← Testbed.run, hserved]
    dsimp only [run_done, done_bind] at hfirst ⊢
    generalize onPage wanted cursor _ = next at hfirst ⊢
    cases next with
    | inl cursor' =>
      have hfirst' : firstIn (items (b.asked [request cursor]).plane) b.plane.pageSize wanted
          cursor' pages = .done result := by
        rw [show items (b.asked [request cursor]).plane = items b.plane from
          h.items_asked b.plane _]
        exact hfirst
      obtain ⟨rs, hrs, hrun⟩ := ih (b := b.asked [request cursor]) hqueued hfailures hfirst'
      refine ⟨request cursor :: rs, ?_, ?_⟩
      · rintro r (_ | ⟨_, hmem⟩)
        · exact h.looks cursor
        · exact hrs r hmem
      · rw [Testbed.asked_asked] at hrun
        exact hrun
    | inr result' =>
      refine ⟨[request cursor], ?_, ?_⟩
      · rintro r (_ | ⟨_, ⟨⟩⟩)
        exact h.looks cursor
      · rw [show result' = result from Program.done.inj hfirst]
        rfl

end Listing

end ControlPlane

end ClusterNet
