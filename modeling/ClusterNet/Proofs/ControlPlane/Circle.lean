import ClusterNet.Proofs.ControlPlane.Chain
import ClusterNet.Proofs.Loop

/-!
# Listings that go round in circles

How far a listing goes is up to the server: every page names the next cursor, and a server that
answers each cursor with one page lays out a path of cursors. Whoever follows the listing notices
that a page names the very cursor by which it was asked for. It remembers no other cursor. So of all
circles that the cursors of a server can make, only those of one cursor are noticed, and in a larger
one the listing is followed for ever.

That is also the only way not to come to an end. A server that uses finitely many cursors leads into
a circle of two or more of them, or else to a page at which the listing stops.

## Main definitions

* `ControlPlane.AnswersAlike` — a server that answers each cursor with one page
* `ControlPlane.Leads`, `ControlPlane.Stops` — what a page means for a search
* `ControlPlane.EndsUnlessCircling` — all that is to be said about following a listing

## Main results

* `ControlPlane.travels_find`, `ControlPlane.travels_collect` — listings are followed along a path
* `ControlPlane.listing_ends_iff` — they come to an end unless the path leads into a circle
-/

namespace ClusterNet

namespace ControlPlane

open Program

variable {I : Interface} {α β τ : Type} {answer : (r : I.Request) → τ → I.Answer r × τ}
variable {fetch : Option String → Program I (Except ApiError (Page α))}
variable {server : Option String → Page α} {wanted : α → Bool}

/-- Every cursor is answered with one page, whenever it is asked for. -/
def AnswersAlike (answer : (r : I.Request) → τ → I.Answer r × τ)
    (fetch : Option String → Program I (Except ApiError (Page α)))
    (server : Option String → Page α) : Prop :=
  ∀ cursor s, ∃ s', (fetch cursor).run answer s = (some (.ok (server cursor)), s')

/-! ### Paths of cursors -/

/-- The page at a cursor leads a search on to another cursor: nothing on it is wanted, and it names
that cursor, which is not its own. -/
def Leads (server : Option String → Page α) (wanted : α → Bool)
    (cursor cursor' : Option String) : Prop :=
  (server cursor).results.find? wanted = none ∧
    ∃ next, (server cursor).next? = some next ∧ cursor ≠ some next ∧ cursor' = some next

/-- A search stops at the page at a cursor. -/
inductive Stops (server : Option String → Page α) (wanted : α → Bool) :
    Option String → Except ApiError (Option α) → Prop
  /-- An item on the page is wanted. -/
  | found {cursor : Option String} {a : α}
    (h : (server cursor).results.find? wanted = some a) : Stops server wanted cursor (.ok (some a))
  /-- It is the last page. -/
  | exhausted {cursor : Option String} (hnone : (server cursor).results.find? wanted = none)
    (h : (server cursor).next? = none) : Stops server wanted cursor (.ok none)
  /-- The page names the cursor that led to it. -/
  | repeated {next : String} (hnone : (server (some next)).results.find? wanted = none)
    (h : (server (some next)).next? = some next) :
    Stops server wanted (some next) (.error (repeatedCursor next))

theorem leads_unique : Relator.RightUnique (Leads server wanted) := by
  rintro cursor _ _ ⟨-, next, hnext, -, rfl⟩ ⟨-, next', hnext', -, rfl⟩
  exact hnext.symm.trans hnext'

theorem Stops.not_leads {cursor : Option String} {result : Except ApiError (Option α)}
    (h : Stops server wanted cursor result) (cursor' : Option String) :
    ¬ Leads server wanted cursor cursor' := by
  rintro ⟨hunwanted, next, hnext, hne, -⟩
  cases h with
  | found hfound =>
    rw [hunwanted] at hfound
    cases hfound
  | exhausted _ hlast =>
    rw [hlast] at hnext
    cases hnext
  | repeated _ hsame =>
    rw [hsame] at hnext
    exact hne hnext

/-- A page leads a search on, or the search stops at it. -/
theorem onPage_cases (server : Option String → Page α) (wanted : α → Bool)
    (cursor : Option String) :
    (∃ cursor', onPage wanted cursor (server cursor) = .inl cursor' ∧
      Leads server wanted cursor cursor') ∨
    ∃ result, onPage wanted cursor (server cursor) = .inr result ∧
      Stops server wanted cursor result := by
  cases hfound : (server cursor).results.find? wanted with
  | some a => exact .inr ⟨_, onPage_of_found hfound, .found hfound⟩
  | none =>
    cases hnext : (server cursor).next? with
    | none => exact .inr ⟨_, onPage_of_last hfound hnext, .exhausted hfound hnext⟩
    | some next =>
      by_cases hsame : cursor = some next
      · subst hsame
        exact .inr ⟨_, onPage_of_repeated hfound hnext, .repeated hfound hnext⟩
      · exact .inl ⟨_, onPage_of_more hfound hnext hsame, hfound, next, hnext, hsame, rfl⟩

/-- Collecting goes the same way as a search for nothing. -/
theorem gatherOn_cases (server : Option String → Page α) (wanted : α → Bool)
    (earlier : List α) (cursor : Option String) :
    (∃ later cursor', gatherOn wanted (earlier, cursor) (server cursor) = .inl (later, cursor') ∧
      Leads server (fun _ => false) cursor cursor') ∨
    ∃ result, gatherOn wanted (earlier, cursor) (server cursor) = .inr result ∧
      Stops server (fun _ => false) cursor (result.map fun _ => none) := by
  have hnone : (server cursor).results.find? (fun _ => false) = none := by simp
  cases hnext : (server cursor).next? with
  | none => exact .inr ⟨_, gatherOn_of_last hnext, .exhausted hnone hnext⟩
  | some next =>
    by_cases hsame : cursor = some next
    · subst hsame
      exact .inr ⟨_, gatherOn_of_repeated hnext, .repeated hnone hnext⟩
    · exact .inl ⟨_, _, gatherOn_of_more hnext hsame, hnone, next, hnext, hsame, rfl⟩

/-! ### Following a listing -/

theorem travels_find (h : AnswersAlike answer fetch server) (wanted : α → Bool) :
    Travels answer (findOnPage fetch wanted) id (Leads server wanted) (Stops server wanted) where
  unique := leads_unique
  stuck := Stops.not_leads
  round cursor s := by
    obtain ⟨s', hfetch⟩ := h cursor s
    refine ⟨onPage wanted cursor (server cursor), s', ?_, ?_⟩
    · rw [findOnPage_eq, run_bind, hfetch]
      rfl
    · exact onPage_cases server wanted cursor

theorem travels_collect (h : AnswersAlike answer fetch server) (wanted : α → Bool) :
    Travels answer (collectOnPage fetch wanted) Prod.snd (Leads server fun _ => false)
      (fun cursor result => Stops server (fun _ => false) cursor (result.map fun _ => none)) where
  unique := leads_unique
  stuck := Stops.not_leads
  round earlier s := by
    obtain ⟨s', hfetch⟩ := h earlier.2 s
    refine ⟨gatherOn wanted earlier (server earlier.2), s', ?_, ?_⟩
    · rw [collectOnPage_eq, run_bind, hfetch]
      rfl
    · rcases gatherOn_cases server wanted earlier.1 earlier.2 with ⟨later, cursor', hmore⟩ | hstops
      · exact .inl ⟨(later, cursor'), hmore⟩
      · exact .inr hstops

/-- **Following a listing** from the first page on, where `walk` is given the number of pages that
it fetches at most. -/
structure EndsUnlessCircling (answer : (r : I.Request) → τ → I.Answer r × τ)
    (walk : Nat → Program I (Except ApiError β)) (leads : Option String → Option String → Prop)
    (stops : Option String → Except ApiError β → Prop) (limit : Nat) (s : τ) : Prop where
  /-- It comes to an end exactly if the cursors do not lead into a circle. -/
  ends_iff : (∃ pages result s', (walk pages).run answer s = (some result, s')) ↔
    ¬ Circles leads none
  /-- If they do not, a limited number of pages suffices. -/
  within : ¬ Circles leads none → ∃ result s', (walk limit).run answer s = (some result, s')
  /-- Its result is that of the page at which it stops. -/
  result : ∀ {pages result s'}, (walk pages).run answer s = (some result, s') →
    ∃ cursor, Relation.ReflTransGen leads none cursor ∧ stops cursor result

theorem endsUnlessCircling_of_travels {σ : Type} {step : σ → Program I (σ ⊕ Except ApiError β)}
    {place : σ → Option String} {leads : Option String → Option String → Prop}
    {stops : Option String → Except ApiError β → Prop} {x : σ} {limit : Nat}
    (h : Travels answer step place leads stops) (hx : place x = none)
    (hends : ¬ Circles leads none → ∀ s, ∃ result s',
      (Program.loop step limit x).run answer s = (some result, s')) (s : τ) :
    EndsUnlessCircling answer (fun pages => Program.loop step pages x) leads stops limit s where
  ends_iff := by
    constructor
    · rintro ⟨pages, result, s', hrun⟩
      exact hx ▸ h.not_circles hrun
    · intro hnot
      obtain ⟨result, s', hrun⟩ := hends hnot s
      exact ⟨limit, result, s', hrun⟩
  within hnot := hends hnot s
  result hrun := hx ▸ h.ended hrun

/-- A path of cursors is made of the cursors that a server uses. -/
theorem leads_mem {cursors : Finset String}
    (hcursors : ∀ cursor next, (server cursor).next? = some next → next ∈ cursors)
    {cursor cursor' : Option String} (h : Leads server wanted cursor cursor') :
    cursor' ∈ cursors.map .some := by
  obtain ⟨-, next, hnext, -, rfl⟩ := h
  exact Finset.mem_map_of_mem _ (hcursors cursor next hnext)

/-- **A listing from a server that uses finitely many cursors is followed to its end exactly if the
cursors do not lead into a circle** of two or more of them. Then no more pages are fetched than there
are cursors, and one more. A search stops with what it looks for, with the exhausted listing or with
the error that the same cursor came back. Collecting stops where a search for nothing does. -/
theorem listing_ends_iff (hserver : AnswersAlike answer fetch server) {cursors : Finset String}
    (hcursors : ∀ cursor next, (server cursor).next? = some next → next ∈ cursors)
    (wanted : α → Bool) (s : τ) :
    EndsUnlessCircling answer (findFirst fetch wanted) (Leads server wanted) (Stops server wanted)
        (cursors.card + 1) s ∧
      EndsUnlessCircling answer (collect fetch wanted) (Leads server fun _ => false)
        (fun cursor result => Stops server (fun _ => false) cursor (result.map fun _ => none))
        (cursors.card + 1) s := by
  have hcard : (cursors.map Function.Embedding.some).card = cursors.card := Finset.card_map _
  have hfind := travels_find hserver wanted
  have hcollect := travels_collect hserver wanted
  constructor
  · refine endsUnlessCircling_of_travels hfind rfl (fun hnot s => ?_) s
    rw [← hcard]
    exact hfind.ends (leads_mem hcursors) hnot s
  · refine endsUnlessCircling_of_travels hcollect rfl (fun hnot s => ?_) s
    rw [← hcard]
    exact hcollect.ends (leads_mem hcursors) hnot s

/-! ### A circle that is noticed, and one that is not -/

/-- Ask for a page of tier-0 gateways. -/
def gatewayPage (cursor : Option String) :
    Program interface (Except ApiError (Page PolicyObject)) :=
  Program.request (I := interface) (.listCatalog .tier0s cursor)

/-- A control plane that hands out pages of tier-0 gateways and nothing else. -/
def handsOut (server : Option String → Page PolicyObject) : (r : Request) → Unit → Answer r × Unit
  | .listCatalog .tier0s cursor, _ => (.ok (server cursor), ())
  | _, _ => (.error (.notFound "page"), ())

/-- The item that is looked for, which is on no page. -/
def isAbsent (o : PolicyObject) : Bool := o.displayName == some "absent"

/-- Every page names the same cursor. -/
def stammering : Option String → Page PolicyObject := fun _ => { cursor := some "same" }

/-- Two pages name each other's cursor. -/
def carousel : Option String → Page PolicyObject
  | some "a" => { cursor := some "b" }
  | _ => { cursor := some "a" }

theorem answersAlike_handsOut (server : Option String → Page PolicyObject) :
    AnswersAlike (handsOut server) gatewayPage server :=
  fun _ s => ⟨s, rfl⟩

/-- There is no circle of two cursors if there is only one cursor, so the search ends, with the
error that this cursor came back. -/
theorem listing_ends_iff_stammering :
    AnswersAlike (handsOut stammering) gatewayPage stammering ∧
      (∀ cursor next, (stammering cursor).next? = some next → next ∈ ({"same"} : Finset String)) ∧
      ¬ Circles (Leads stammering isAbsent) none ∧
      ((findFirst gatewayPage isAbsent 2).run (handsOut stammering) ()).1 =
        some (.error (repeatedCursor "same")) ∧
      EndsUnlessCircling (handsOut stammering) (findFirst gatewayPage isAbsent)
        (Leads stammering isAbsent) (Stops stammering isAbsent) 2 () := by
  have hcursors : ∀ cursor next, (stammering cursor).next? = some next →
      next ∈ ({"same"} : Finset String) := by
    intro cursor next hnext
    exact Finset.mem_singleton.mpr (Option.some.inj hnext).symm
  have hends := (listing_ends_iff (answersAlike_handsOut stammering) hcursors isAbsent ()).1
  have hrun : (findFirst gatewayPage isAbsent 2).run (handsOut stammering) () =
      (some (.error (repeatedCursor "same")), ()) := rfl
  exact ⟨answersAlike_handsOut stammering, hcursors, hends.ends_iff.mp ⟨_, _, _, hrun⟩,
    congrArg Prod.fst hrun, hends⟩

/-- Two cursors suffice to go in a circle, and then no listing ends, however many pages are
fetched. -/
theorem carousel_unended :
    AnswersAlike (handsOut carousel) gatewayPage carousel ∧
      (∀ cursor next, (carousel cursor).next? = some next → next ∈ ({"a", "b"} : Finset String)) ∧
      (∀ pages, ((findFirst gatewayPage isAbsent pages).run (handsOut carousel) ()).1 = none) ∧
      ∀ pages, ((collect gatewayPage isAbsent pages).run (handsOut carousel) ()).1 = none := by
  have hcursors : ∀ cursor next, (carousel cursor).next? = some next →
      next ∈ ({"a", "b"} : Finset String) := by
    intro cursor next hnext
    unfold carousel at hnext
    split at hnext <;> obtain rfl := Option.some.inj hnext <;> decide
  have hcircles : ∀ wanted, Circles (Leads carousel wanted) none := by
    intro wanted
    have hstart : Leads carousel wanted none (some "a") := ⟨rfl, "a", rfl, by decide, rfl⟩
    have hthere : Leads carousel wanted (some "a") (some "b") := ⟨rfl, "b", rfl, by decide, rfl⟩
    have hback : Leads carousel wanted (some "b") (some "a") := ⟨rfl, "a", rfl, by decide, rfl⟩
    exact ⟨some "a", .single hstart, .head hthere (.single hback)⟩
  have hserver := answersAlike_handsOut carousel
  refine ⟨hserver, hcursors, fun pages => ?_, fun pages => ?_⟩
  · refine Option.eq_none_iff_forall_ne_some.mpr fun result hresult => ?_
    exact (travels_find hserver isAbsent).not_circles (Prod.ext hresult rfl) (hcircles isAbsent)
  · refine Option.eq_none_iff_forall_ne_some.mpr fun result hresult => ?_
    exact (travels_collect hserver isAbsent).not_circles (Prod.ext hresult rfl)
      (hcircles fun _ => false)

end ControlPlane

end ClusterNet
