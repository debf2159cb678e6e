import ClusterNet.Proofs.ControlPlane.Search

/-!
# Chains of pages

A listing comes as a chain of pages. Each page names the cursor of the next one, and the last page
names none. How the items are spread over the pages does not matter: whoever goes through the chain
page by page has seen every item once and in order, and has asked for every page once and in order.
A search is over at the first page that holds what it looks for, so it asks for no page behind that
one, and an error behind that page never shows.

The chain says nothing about who hands it out. It is given by its pages and by what the fetches of
these pages ask, one fetch after the other. So the result holds for every server, also for one that
answers the same cursor in different ways, and whatever it takes to fetch a page. That a simulated
control plane hands out such chains, for every size of pages, is a fact about its arithmetic of
cursors.

## Main definitions

* `ControlPlane.IsChain` — the chains
* `ControlPlane.Fetches` — what the fetches of pages ask
* `ControlPlane.SeenOnce` — all that is to be said about going through a chain

## Main results

* `ControlPlane.trace_collect_chain`, `ControlPlane.trace_find_chain` — one lemma for each loop
* `ControlPlane.exists_chain_pageAt` — the listings of a simulated control plane are chains
* `ControlPlane.Lists.collects` — what is collected from a simulated control plane
* `ControlPlane.listings_seen_once` — every item of every listing is seen once
-/

namespace ClusterNet

namespace ControlPlane

open Program

variable {I : Interface} {α : Type} {fetch : Option String → Program I (Except ApiError (Page α))}
variable {cursor : Option String} {page : Page α} {pages : List (Page α)} {next : String}
variable {failure : Option ApiError} {wanted : α → Bool} {rounds : Nat}

/-! ### Chains -/

/-- The pages that are handed out from a cursor on make a chain: every page names the cursor of the
next one, which is not its own, and the last page names none. A chain may break off with the error
of a fetch. -/
inductive IsChain : Option String → List (Page α) → Option ApiError → Prop
  /-- The last page. -/
  | last {cursor : Option String} {page : Page α} (h : page.next? = none) :
    IsChain cursor [page] none
  /-- The fetch of the next page fails. -/
  | failed {cursor : Option String} (e : ApiError) : IsChain cursor [] (some e)
  /-- A page, and those behind it. -/
  | more {cursor : Option String} {page : Page α} {pages : List (Page α)} {next : String}
    {failure : Option ApiError} (hnext : page.next? = some next) (hne : cursor ≠ some next)
    (h : IsChain (some next) pages failure) : IsChain cursor (page :: pages) failure

/-- What is asked when pages are fetched one after the other, and when the fetch behind them fails.
Every page is asked for by the cursor that the page in front of it names. -/
inductive Fetches (fetch : Option String → Program I (Except ApiError (Page α))) :
    Option String → List (Page α) → Option ApiError → List (Event I) → Prop
  /-- No page is fetched. -/
  | nil {cursor : Option String} : Fetches fetch cursor [] none []
  /-- A fetch that fails. -/
  | failed {cursor : Option String} {e : ApiError} {es : List (Event I)}
    (h : (fetch cursor).Trace es (.error e)) : Fetches fetch cursor [] (some e) es
  /-- The fetch of a page, and those of the pages behind it. -/
  | page {cursor : Option String} {page : Page α} {pages : List (Page α)}
    {failure : Option ApiError} {es es' : List (Event I)}
    (h : (fetch cursor).Trace es (.ok page)) (h' : Fetches fetch page.next? pages failure es') :
    Fetches fetch cursor (page :: pages) failure (es ++ es')

/-- The fetch of one page. -/
theorem Fetches.single {es : List (Event I)} (h : (fetch cursor).Trace es (.ok page)) :
    Fetches fetch cursor [page] none es := by
  have hfetches : Fetches fetch cursor [page] none (es ++ []) := .page h .nil
  rwa [List.append_nil] at hfetches

/-- The items on pages. -/
def itemsOn (pages : List (Page α)) : List α := pages.flatMap (·.results)

@[simp] theorem itemsOn_nil : itemsOn ([] : List (Page α)) = [] := rfl

@[simp] theorem itemsOn_cons (page : Page α) (pages : List (Page α)) :
    itemsOn (page :: pages) = page.results ++ itemsOn pages := rfl

/-- The pages up to the first one that holds a wanted item. -/
def upToWanted (wanted : α → Bool) : List (Page α) → List (Page α)
  | [] => []
  | page :: pages =>
    match page.results.find? wanted with
    | some _ => [page]
    | none => page :: upToWanted wanted pages

/-- A result, unless something has failed. -/
def unlessFailed {β : Type} (failure : Option ApiError) (result : β) : Except ApiError β :=
  failure.elim (.ok result) .error

/-- The error that a search meets: the one with which the chain breaks off, unless there is a wanted
item in front of it. -/
def failureMet (wanted : α → Bool) (pages : List (Page α)) (failure : Option ApiError) :
    Option ApiError :=
  match (itemsOn pages).find? wanted with
  | some _ => none
  | none => failure

/-- What a search finds on the pages of a chain: the first wanted item, and otherwise nothing or the
error with which the chain breaks off. -/
def foundOn (wanted : α → Bool) (pages : List (Page α)) (failure : Option ApiError) :
    Except ApiError (Option α) :=
  match (itemsOn pages).find? wanted with
  | some a => .ok (some a)
  | none => unlessFailed failure none

section FirstPage

variable {a : α}

theorem upToWanted_of_found (h : page.results.find? wanted = some a) :
    upToWanted wanted (page :: pages) = [page] := by
  simp only [upToWanted, h]

theorem upToWanted_of_not_found (h : page.results.find? wanted = none) :
    upToWanted wanted (page :: pages) = page :: upToWanted wanted pages := by
  simp only [upToWanted, h]

theorem failureMet_of_found (h : page.results.find? wanted = some a) :
    failureMet wanted (page :: pages) failure = none := by
  simp only [failureMet, itemsOn_cons, List.find?_append, h, Option.some_or]

theorem failureMet_of_not_found (h : page.results.find? wanted = none) :
    failureMet wanted (page :: pages) failure = failureMet wanted pages failure := by
  simp only [failureMet, itemsOn_cons, List.find?_append, h, Option.none_or]

theorem foundOn_of_found (h : page.results.find? wanted = some a) :
    foundOn wanted (page :: pages) failure = .ok (some a) := by
  simp only [foundOn, itemsOn_cons, List.find?_append, h, Option.some_or]

theorem foundOn_of_not_found (h : page.results.find? wanted = none) :
    foundOn wanted (page :: pages) failure = foundOn wanted pages failure := by
  simp only [foundOn, itemsOn_cons, List.find?_append, h, Option.none_or]

end FirstPage

/-! ### One page -/

theorem trace_findOnPage (wanted : α → Bool) {es : List (Event I)}
    (h : (fetch cursor).Trace es (.ok page)) :
    (findOnPage fetch wanted cursor).Trace es (onPage wanted cursor page) := by
  rw [findOnPage_eq]
  exact trace_bind_iff.mpr ⟨es, [], .ok page, (List.append_nil es).symm, h, .done _⟩

theorem trace_findOnPage_error {e : ApiError} {es : List (Event I)}
    (h : (fetch cursor).Trace es (.error e)) :
    (findOnPage fetch wanted cursor).Trace es (.inr (.error e)) := by
  rw [findOnPage_eq]
  exact trace_bind_iff.mpr ⟨es, [], .error e, (List.append_nil es).symm, h, .done _⟩

/-- What a page and those before it mean for collecting: the state to go on with, or the result. -/
def gatherOn (wanted : α → Bool) (earlier : List α × Option String) (page : Page α) :
    (List α × Option String) ⊕ Except ApiError (List α) :=
  let items := earlier.1 ++ page.results.filter wanted
  match nextCursor earlier.2 page with
  | .error e => .inr (.error e)
  | .ok none => .inr (.ok items)
  | .ok (some next) => .inl (items, some next)

theorem collectOnPage_eq (fetch : Option String → Program I (Except ApiError (Page α)))
    (wanted : α → Bool) (earlier : List α × Option String) :
    collectOnPage fetch wanted earlier = (fetch earlier.2).bind fun
      | .error e => .done (.inr (.error e))
      | .ok page => .done (gatherOn wanted earlier page) := by
  refine congrArg (Program.bind _) (funext fun answer => ?_)
  cases answer with
  | error e => rfl
  | ok page =>
    dsimp only [gatherOn]
    split <;> simp_all

theorem trace_collectOnPage (wanted : α → Bool) (earlier : List α) {es : List (Event I)}
    (h : (fetch cursor).Trace es (.ok page)) :
    (collectOnPage fetch wanted (earlier, cursor)).Trace es
      (gatherOn wanted (earlier, cursor) page) := by
  rw [collectOnPage_eq]
  exact trace_bind_iff.mpr ⟨es, [], .ok page, (List.append_nil es).symm, h, .done _⟩

theorem trace_collectOnPage_error {earlier : List α} {e : ApiError} {es : List (Event I)}
    (h : (fetch cursor).Trace es (.error e)) :
    (collectOnPage fetch wanted (earlier, cursor)).Trace es (.inr (.error e)) := by
  rw [collectOnPage_eq]
  exact trace_bind_iff.mpr ⟨es, [], .error e, (List.append_nil es).symm, h, .done _⟩

/-! ### The last page, one that is not the last, and one that repeats its cursor -/

theorem nextCursor_of_last (h : page.next? = none) : nextCursor cursor page = .ok none := by
  rw [nextCursor, h]

theorem nextCursor_of_more (hnext : page.next? = some next) (hne : cursor ≠ some next) :
    nextCursor cursor page = .ok (some next) := by
  simp only [nextCursor, hnext, if_neg hne]

theorem nextCursor_of_repeated (h : page.next? = some next) :
    nextCursor (some next) page = .error (repeatedCursor next) := by
  simp only [nextCursor, h, if_true]

theorem gatherOn_of_last {earlier : List α} (h : page.next? = none) :
    gatherOn wanted (earlier, cursor) page =
      .inr (.ok (earlier ++ page.results.filter wanted)) := by
  simp only [gatherOn, nextCursor_of_last h]

theorem gatherOn_of_more {earlier : List α} (hnext : page.next? = some next)
    (hne : cursor ≠ some next) : gatherOn wanted (earlier, cursor) page =
      .inl (earlier ++ page.results.filter wanted, some next) := by
  simp only [gatherOn, nextCursor_of_more hnext hne]

theorem gatherOn_of_repeated {earlier : List α} (h : page.next? = some next) :
    gatherOn wanted (earlier, some next) page = .inr (.error (repeatedCursor next)) := by
  simp only [gatherOn, nextCursor_of_repeated h]

theorem onPage_of_found {a : α} (h : page.results.find? wanted = some a) :
    onPage wanted cursor page = .inr (.ok (some a)) := by
  simp only [onPage, h]

theorem onPage_of_last (hnone : page.results.find? wanted = none) (h : page.next? = none) :
    onPage wanted cursor page = .inr (.ok none) := by
  simp only [onPage, hnone, nextCursor_of_last h]

theorem onPage_of_more (hnone : page.results.find? wanted = none)
    (hnext : page.next? = some next) (hne : cursor ≠ some next) :
    onPage wanted cursor page = .inl (some next) := by
  simp only [onPage, hnone, nextCursor_of_more hnext hne]

theorem onPage_of_repeated (hnone : page.results.find? wanted = none)
    (h : page.next? = some next) :
    onPage wanted (some next) page = .inr (.error (repeatedCursor next)) := by
  simp only [onPage, hnone, nextCursor_of_repeated h]

/-! ### A whole chain -/

/-- **Collecting goes through the whole chain** and gathers the wanted items in order, behind those
that were gathered before. -/
theorem trace_collect_chain (hchain : IsChain cursor pages failure) {es : List (Event I)}
    (hes : Fetches fetch cursor pages failure es) (hrounds : pages.length < rounds)
    (earlier : List α) :
    (Program.loop (collectOnPage fetch wanted) rounds (earlier, cursor)).Trace es
      (unlessFailed failure (earlier ++ (itemsOn pages).filter wanted)) := by
  obtain ⟨rounds, rfl⟩ := Nat.exists_eq_succ_of_ne_zero (Nat.ne_zero_of_lt hrounds)
  induction hchain generalizing es rounds earlier with
  | last hlast =>
    cases hes with
    | page hpage hrest =>
      cases hrest
      have hstep := trace_collectOnPage wanted earlier hpage
      rw [gatherOn_of_last hlast] at hstep
      simpa [unlessFailed, itemsOn] using Trace.loop_last hstep
  | failed e =>
    cases hes with
    | failed hfailed => exact .loop_last (trace_collectOnPage_error hfailed)
  | @more cursor page pages next failure hnext hne _ ih =>
    cases hes with
    | page hpage hrest =>
      obtain ⟨rounds, rfl⟩ : ∃ rounds', rounds = rounds' + 1 :=
        Nat.exists_eq_succ_of_ne_zero (Nat.ne_zero_of_lt (Nat.lt_of_succ_lt_succ hrounds))
      have hstep := trace_collectOnPage wanted earlier hpage
      rw [gatherOn_of_more hnext hne] at hstep
      rw [hnext] at hrest
      have hloop := ih hrest (earlier ++ page.results.filter wanted) rounds
        (Nat.lt_of_succ_lt_succ hrounds)
      rw [itemsOn_cons, List.filter_append, ← List.append_assoc]
      exact .loop_next hstep hloop

/-- A search is over on the first page that holds a wanted item, whatever is behind it. -/
theorem trace_find_found {a : α} (hfound : page.results.find? wanted = some a)
    {es : List (Event I)} (hpage : (fetch cursor).Trace es (.ok page)) :
    Fetches fetch cursor (upToWanted wanted (page :: pages))
        (failureMet wanted (page :: pages) failure) es ∧
      (Program.loop (findOnPage fetch wanted) (rounds + 1) cursor).Trace es
        (foundOn wanted (page :: pages) failure) := by
  have hstep := trace_findOnPage wanted hpage
  rw [onPage_of_found hfound] at hstep
  rw [upToWanted_of_found hfound, failureMet_of_found hfound, foundOn_of_found hfound]
  exact ⟨.single hpage, .loop_last hstep⟩

/-- **A search goes through the chain up to the first page that holds a wanted item**, and finds the
first wanted item of all. -/
theorem trace_find_chain (hchain : IsChain cursor pages failure) {es : List (Event I)}
    (hes : Fetches fetch cursor pages failure es) (hrounds : pages.length < rounds) :
    ∃ es₁ es₂, es = es₁ ++ es₂ ∧
      Fetches fetch cursor (upToWanted wanted pages)
        (failureMet wanted pages failure) es₁ ∧
      (Program.loop (findOnPage fetch wanted) rounds cursor).Trace es₁
        (foundOn wanted pages failure) := by
  obtain ⟨rounds, rfl⟩ := Nat.exists_eq_succ_of_ne_zero (Nat.ne_zero_of_lt hrounds)
  induction hchain generalizing es rounds with
  | @last cursor page hlast =>
    cases hes with
    | @page _ _ _ _ es es' hpage hrest =>
      refine ⟨es, es', rfl, ?_⟩
      cases hfound : page.results.find? wanted with
      | some a => exact trace_find_found hfound hpage
      | none =>
        have hstep := trace_findOnPage wanted hpage
        rw [onPage_of_last hfound hlast] at hstep
        rw [upToWanted_of_not_found hfound, failureMet_of_not_found hfound,
          foundOn_of_not_found hfound]
        exact ⟨.single hpage, .loop_last hstep⟩
  | failed e =>
    cases hes with
    | failed hfailed =>
      exact ⟨es, [], (List.append_nil es).symm, .failed hfailed,
        .loop_last (trace_findOnPage_error hfailed)⟩
  | @more cursor page pages next failure hnext hne _ ih =>
    cases hes with
    | @page _ _ _ _ es es' hpage hrest =>
      cases hfound : page.results.find? wanted with
      | some a => exact ⟨es, es', rfl, trace_find_found hfound hpage⟩
      | none =>
        obtain ⟨rounds, rfl⟩ : ∃ rounds', rounds = rounds' + 1 :=
          Nat.exists_eq_succ_of_ne_zero (Nat.ne_zero_of_lt (Nat.lt_of_succ_lt_succ hrounds))
        have hstep := trace_findOnPage wanted hpage
        rw [onPage_of_more hfound hnext hne] at hstep
        rw [upToWanted_of_not_found hfound, failureMet_of_not_found hfound,
          foundOn_of_not_found hfound]
        rw [hnext] at hrest
        obtain ⟨es₁, es₂, rfl, hfetched, hloop⟩ :=
          ih hrest rounds (Nat.lt_of_succ_lt_succ hrounds)
        refine ⟨es ++ es₁, es₂, (List.append_assoc _ _ _).symm, .page hpage ?_,
          .loop_next hstep hloop⟩
        rwa [hnext]

/-! ### The listings of a simulated control plane -/

section Simulated

variable {items : List α} {size : Nat}

/-- The cursors at which pages are fetched. -/
def cursorsOf : Option String → List (Page α) → List (Option String)
  | _, [] => []
  | cursor, page :: pages => cursor :: cursorsOf page.next? pages

/-- **The pages of a listing make a chain**, whatever their size, and all items behind the page's
beginning are on them. -/
theorem exists_chain_pageAt (hsize : 0 < size) (hlength : items.length < UInt64.size)
    (hcursor : ∀ c, cursor = some c → ∃ n, c = toString n ∧ n < items.length) :
    ∃ pages, IsChain cursor pages none ∧
      itemsOn pages = items.drop (Simulator.pageStart cursor) ∧
      pages = (cursorsOf cursor pages).map fun c => Simulator.pageAt items c size := by
  generalize hleft : pagesLeft items cursor = left
  induction left using Nat.strong_induction_on generalizing cursor with
  | _ left ih =>
    have hnext := next?_pageAt items cursor size
    have hresults : (Simulator.pageAt items cursor size).results =
        (items.take (pageStop items size cursor)).drop (Simulator.pageStart cursor) := rfl
    by_cases hstop : pageStop items size cursor < items.length
    · obtain ⟨hread, hmoved, hne⟩ := pageStop_leads hsize hlength hstop
      rw [if_pos hstop] at hnext
      have hfewer : pagesLeft items (some (toString (pageStop items size cursor))) < left := by
        rw [pagesLeft, hread, ← hleft]
        cases cursor with
        | none => rw [pagesLeft]; omega
        | some c => rw [pagesLeft]; omega
      obtain ⟨pages, hchain, hitems, hpages⟩ :=
        ih _ hfewer (fun c hc => ⟨_, (Option.some.inj hc).symm, hstop⟩) rfl
      refine ⟨Simulator.pageAt items cursor size :: pages, .more hnext hne hchain, ?_, ?_⟩
      · have hrest : items.drop (pageStop items size cursor) =
            (items.drop (Simulator.pageStart cursor)).drop
              (pageStop items size cursor - Simulator.pageStart cursor) := by
          rw [List.drop_drop, Nat.add_sub_cancel' hmoved.le]
        rw [itemsOn_cons, hitems, hresults, hread, List.drop_take, hrest]
        exact List.take_append_drop _ _
      · rw [cursorsOf, hnext, List.map_cons, ← hpages]
    · rw [if_neg hstop] at hnext
      refine ⟨[Simulator.pageAt items cursor size], .last hnext, ?_, ?_⟩
      · rw [itemsOn_cons, itemsOn_nil, List.append_nil, hresults,
          List.take_of_length_le (Nat.le_of_not_lt hstop)]
      · rfl

variable {b : Testbed} {fetch : Option String → Work (Except ApiError (Page α))}
variable {request : Option String → Request} {items : Simulator → List α}

/-- A simulated control plane where no failure is due hands out its pages. -/
theorem Lists.fetches (h : Lists fetch request items) (hqueued : b.queued = [])
    (hdue : ∀ cursor, b.plane.failures.contains (request cursor).method = false)
    (hpages : pages = (cursorsOf cursor pages).map fun c =>
      Simulator.pageAt (items b.plane) c b.plane.pageSize) :
    ∃ es, Fetches fetch cursor pages none es ∧
      Replies Testbed.perform es b (b.asked ((cursorsOf cursor pages).map request)) := by
  induction pages generalizing b cursor with
  | nil => exact ⟨[], .nil, by rw [cursorsOf, List.map_nil, Testbed.asked_nil]; rfl⟩
  | cons page pages ih =>
    obtain ⟨hpage, hrest⟩ := List.cons.inj hpages
    change page = Simulator.pageAt (items b.plane) cursor b.plane.pageSize at hpage
    obtain ⟨es, hfetch, hreplies⟩ := run_eq_some_iff.mp (h.served cursor hqueued (hdue cursor))
    rw [← hpage] at hfetch
    obtain ⟨es', hfetches, hreplies'⟩ := ih (b := b.asked [request cursor]) hqueued hdue (by
      rw [Testbed.asked, h.items_asked]
      exact hrest)
    refine ⟨es ++ es', .page hfetch hfetches, replies_append.mpr ⟨_, hreplies, ?_⟩⟩
    rw [Testbed.asked_asked] at hreplies'
    exact hreplies'

/-- **Collecting from a simulated control plane** gives the wanted items of the listing in order,
and it only asks for pages. Collecting comes to an end within `rounds`, and it goes through the
whole chain if there are rounds enough, so the two come to the same. -/
theorem Lists.collects (h : Lists fetch request items) (wanted : α → Bool)
    (hqueued : b.queued = []) (hfailures : b.plane.failures = []) (hsize : 0 < b.plane.pageSize)
    (hlength : (items b.plane).length < UInt64.size) (hrounds : (items b.plane).length < rounds) :
    ∃ rs, b.run (collect fetch wanted rounds) =
      (some (.ok ((items b.plane).filter wanted)), b.asked rs) := by
  have hstart : ∀ c, none = some c → ∃ n, c = toString n ∧ n < (items b.plane).length :=
    fun c hc => nomatch hc
  obtain ⟨pages, hchain, hitems, hpages⟩ := exists_chain_pageAt hsize hlength hstart
  obtain ⟨es, hfetches, hreplies⟩ := h.fetches hqueued (fun _ => by rw [hfailures]; rfl) hpages
  have hwhole : (collect fetch wanted (rounds + (pages.length + 1))).Trace es
      (unlessFailed none ((itemsOn pages).filter wanted)) :=
    trace_collect_chain hchain hfetches (Nat.lt_add_left rounds (Nat.lt_succ_self _)) []
  obtain ⟨found, b', hrun⟩ := h.run_collect wanted hqueued hfailures hlength hrounds
  obtain ⟨es', hends, hreplies'⟩ := run_eq_some_iff.mp hrun
  have hsame := (run_eq_some_iff.mpr ⟨es', hends.loop_add (pages.length + 1), hreplies'⟩).symm.trans
    (run_eq_some_iff.mpr ⟨es, hwhole, hreplies⟩)
  obtain ⟨hfound, rfl⟩ := Prod.mk.inj hsame
  rw [Option.some.inj hfound, hitems] at hrun
  exact ⟨_, hrun⟩

end Simulated

/-! ### Every listing -/

/-- **Going through a chain of pages**, whose fetches ask `es`. -/
structure SeenOnce (fetch : Option String → Program I (Except ApiError (Page α)))
    (wanted : α → Bool) (rounds : Nat) (pages : List (Page α)) (failure : Option ApiError)
    (es : List (Event I)) : Prop where
  /-- Collecting asks for every page once and in order, and what it gathers are the wanted items in
  order. If the chain breaks off with an error, that is the result. -/
  collects : (collect fetch wanted rounds).Trace es
    (unlessFailed failure ((itemsOn pages).filter wanted))
  /-- A search asks for every page once and in order up to the first one that holds a wanted item,
  and what it finds is the first wanted item. If there is none, it finds nothing, or the result is
  the error with which the chain breaks off. -/
  finds : ∃ es₁ es₂, es = es₁ ++ es₂ ∧
    Fetches fetch none (upToWanted wanted pages) (failureMet wanted pages failure) es₁ ∧
    (findFirst fetch wanted rounds).Trace es₁ (foundOn wanted pages failure)

/-- **Every item of a listing is seen once.** That is so for every chain of pages, whatever hands
it out. The listings of a simulated control plane are such chains if its pages are not empty: its
pages hold all items in order, and it answers the requests for them without being changed but for
its record of what it was asked. -/
theorem listings_seen_once (wanted : α → Bool) :
    (∀ {I : Interface} {fetch : Option String → Program I (Except ApiError (Page α))}
      {pages : List (Page α)} {failure : Option ApiError} {es : List (Event I)} {rounds : Nat},
      IsChain none pages failure → Fetches fetch none pages failure es → pages.length < rounds →
        SeenOnce fetch wanted rounds pages failure es) ∧
    ∀ {fetch : Option String → Work (Except ApiError (Page α))}
      {request : Option String → Request} {items : Simulator → List α} {b : Testbed},
      Lists fetch request items → b.queued = [] →
      (∀ cursor, b.plane.failures.contains (request cursor).method = false) →
      0 < b.plane.pageSize → (items b.plane).length < UInt64.size →
        ∃ pages es, IsChain none pages none ∧ itemsOn pages = items b.plane ∧
          Fetches fetch none pages none es ∧
          Replies Testbed.perform es b (b.asked ((cursorsOf none pages).map request)) := by
  constructor
  · intro I fetch pages failure es rounds hchain hes hrounds
    exact ⟨trace_collect_chain hchain hes hrounds [], trace_find_chain hchain hes hrounds⟩
  · intro fetch request items b hlists hqueued hdue hsize hlength
    have hstart : ∀ c, none = some c → ∃ n, c = toString n ∧ n < (items b.plane).length :=
      fun c hc => nomatch hc
    obtain ⟨pages, hchain, hitems, hpages⟩ := exists_chain_pageAt hsize hlength hstart
    obtain ⟨es, hfetches, hreplies⟩ := hlists.fetches hqueued hdue hpages
    exact ⟨pages, es, hchain, hitems, hfetches, hreplies⟩

/-- The tier-0 gateways of a typical region, two on a page. -/
def gatewayPages : List (Page PolicyObject) :=
  [none, some "2"].map fun cursor => Simulator.pageAt Simulator.typicalRegion.tier0s cursor 2

/-- The gateway that a cluster is attached to is on the last page. -/
theorem listings_seen_once_gateways : ∃ es,
    IsChain none gatewayPages none ∧
    Fetches (fun cursor => Work.call (.listCatalog .tier0s cursor)) none gatewayPages none es ∧
    SeenOnce (fun cursor => Work.call (.listCatalog .tier0s cursor))
      (fun o => o.displayName == some "tier0-gw") 3 gatewayPages none es ∧
    ∃ pages es, IsChain none pages none ∧ itemsOn pages = Simulator.typicalRegion.tier0s ∧
      Fetches (fun cursor => Work.call (.listCatalog .tier0s cursor)) none pages none es := by
  have hchain : IsChain none gatewayPages none :=
    .more (show _ = some "2" by decide +kernel) (by decide) (.last (by decide +kernel))
  have hfetches : Fetches (fun cursor => Work.call (.listCatalog .tier0s cursor)) none
      gatewayPages none _ := .page (.ask (.done _)) (.page (.ask (.done _)) .nil)
  obtain ⟨hseen, hlisted⟩ := listings_seen_once fun o : PolicyObject =>
    o.displayName == some "tier0-gw"
  obtain ⟨pages, es, hchain', hitems, hfetches', -⟩ := hlisted
    (b := { plane := Simulator.withRegion {} }) (lists_catalog .tier0s) rfl (fun _ => rfl)
    (by decide) (by decide)
  exact ⟨_, hchain, hfetches, hseen hchain hfetches (by decide), pages, es, hchain', hitems,
    hfetches'⟩

end ControlPlane

end ClusterNet
