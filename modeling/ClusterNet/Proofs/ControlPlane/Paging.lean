import ClusterNet.Proofs.ControlPlane.Testbed
import ClusterNet.Proofs.Text.Decimal

/-!
# Collecting comes to an end

What is left of a listing gets shorter with every page that is fetched, unless a page names the
cursor by which it was asked for, which is an error. So a listing is collected in as many rounds as
it has items, and one more.

## Main definitions

* `ControlPlane.pagesLeft` — the number of pages that may be left at a cursor

## Main results

* `ControlPlane.nextCursor_pageAt` — the cursor behind a page is that of an item further on
* `ControlPlane.exists_run_collect_loop` — collecting comes to an end wherever pages are handed out
* `ControlPlane.Lists.run_collect` — collecting the items of a listing comes to an end
-/

namespace ClusterNet

namespace ControlPlane

open Program

variable {α : Type} {fetch : Option String → Work (Except ApiError (Page α))}
variable {request : Option String → Request} {items : Simulator → List α}
variable {b : Testbed}

theorem pageStart_toString {n : Nat} (h : n < UInt64.size) :
    Simulator.pageStart (some (toString n)) = n := by
  rw [Simulator.pageStart, Option.bind_some, Text.boundedDecimal?_toString h, Option.getD_some]

/-- The cursor behind a page is that of an item further on, or the listing is over. -/
theorem nextCursor_pageAt {xs : List α} {size : Nat} {cursor : Option String} {next : String}
    (hsize : xs.length < UInt64.size)
    (hcursor : ∀ c, cursor = some c → ∃ n, c = toString n ∧ n < xs.length)
    (h : nextCursor cursor (Simulator.pageAt xs cursor size) = .ok (some next)) :
    ∃ n, next = toString n ∧ n < xs.length ∧ (cursor ≠ none → Simulator.pageStart cursor < n) := by
  rw [nextCursor] at h
  split at h
  · cases h
  · next next' hnext =>
    split at h
    · cases h
    · next hne =>
      obtain rfl : next' = next := Option.some.inj (Except.ok.inj h)
      have hpage : (Simulator.pageAt xs cursor size).cursor = some next' :=
        (Option.filter_eq_some_iff.mp hnext).1
      rw [Simulator.pageAt] at hpage
      dsimp only at hpage
      split at hpage
      · next hstop =>
        obtain rfl := Option.some.inj hpage
        refine ⟨_, rfl, hstop, fun hsome => ?_⟩
        obtain ⟨c, hc⟩ := Option.ne_none_iff_exists'.mp hsome
        obtain ⟨m, rfl, hm⟩ := hcursor c hc
        subst hc
        have hstart := pageStart_toString (Nat.lt_trans hm hsize)
        have hmoved : min (m + size) xs.length ≠ m := by
          intro heq
          rw [hstart, heq] at hne
          exact hne rfl
        rw [hstart]
        omega
      · cases hpage

/-- The number of pages that may be left at a cursor. -/
def pagesLeft (xs : List α) : (cursor : Option String) → Nat
  | none => xs.length + 1
  | some c => xs.length - Simulator.pageStart (some c)

/-- A page that is not the last one leaves fewer pages. -/
theorem pagesLeft_lt {xs : List α} {cursor : Option String} {n : Nat}
    (hsize : xs.length < UInt64.size) (hn : n < xs.length)
    (hmoved : cursor ≠ none → Simulator.pageStart cursor < n) :
    pagesLeft xs (some (toString n)) < pagesLeft xs cursor := by
  rw [pagesLeft, pageStart_toString (Nat.lt_trans hn hsize)]
  cases cursor with
  | none =>
    rw [pagesLeft]
    omega
  | some c =>
    have hstart := hmoved (Option.some_ne_none c)
    rw [pagesLeft]
    omega

/-- **Collecting comes to an end** in all surroundings in which a fetch gives a page of the items or
fails. `P` holds of the surroundings all the time. -/
theorem exists_run_collect_loop {I : Interface} {σ : Type}
    {answer : (r : I.Request) → σ → I.Answer r × σ}
    {fetch : Option String → Program I (Except ApiError (Page α))} {P : σ → Prop} {xs : List α}
    {size : Nat}
    (hfetch : ∀ cursor t, P t → ∃ fetched t', (fetch cursor).run answer t = (some fetched, t') ∧
      P t' ∧ ∀ page, fetched = .ok page → page = Simulator.pageAt xs cursor size)
    (hsize : xs.length < UInt64.size) (wanted : α → Bool) {pages : Nat}
    {earlier : List α × Option String} {t : σ} (ht : P t)
    (hcursor : ∀ c, earlier.2 = some c → ∃ n, c = toString n ∧ n < xs.length)
    (hpages : pagesLeft xs earlier.2 ≤ pages) :
    ∃ found t', (Program.loop (collectOnPage fetch wanted) pages earlier).run answer t =
      (some found, t') ∧ P t' := by
  induction pages generalizing earlier t with
  | zero =>
    cases hc : earlier.2 with
    | none =>
      rw [hc, pagesLeft] at hpages
      omega
    | some c =>
      obtain ⟨n, rfl, hn⟩ := hcursor c hc
      rw [hc, pagesLeft, pageStart_toString (Nat.lt_trans hn hsize)] at hpages
      omega
  | succ pages ih =>
    obtain ⟨fetched, t', hrun, ht', hpage⟩ := hfetch earlier.2 t ht
    rw [Program.loop, run_bind, collectOnPage, run_bind, hrun]
    cases fetched with
    | error e => exact ⟨_, _, rfl, ht'⟩
    | ok page =>
      obtain rfl := hpage page rfl
      dsimp only
      cases hnext : nextCursor earlier.2 (Simulator.pageAt xs earlier.2 size) with
      | error e => exact ⟨_, _, rfl, ht'⟩
      | ok next? =>
        cases next? with
        | none => exact ⟨_, _, rfl, ht'⟩
        | some next =>
          obtain ⟨n, rfl, hn, hmoved⟩ := nextCursor_pageAt hsize hcursor hnext
          have hfewer := pagesLeft_lt hsize hn hmoved
          refine ih ht' (fun c hc => ⟨n, (Option.some.inj hc).symm, hn⟩) ?_
          exact Nat.le_of_lt_succ (Nat.lt_of_lt_of_le hfewer hpages)

/-- **Collecting the items of a listing comes to an end**, in as many rounds as there are items and
one more. -/
theorem Lists.run_collect (h : Lists fetch request items) (wanted : α → Bool) {pages : Nat}
    (hqueued : b.queued = []) (hfailures : b.plane.failures = [])
    (hsize : (items b.plane).length < UInt64.size) (hpages : (items b.plane).length < pages) :
    ∃ result b', b.run (collect fetch wanted pages) = (some result, b') := by
  have hfetch : ∀ cursor (b' : Testbed), (∃ rs, b' = b.asked rs) →
      ∃ fetched b'', b'.run (fetch cursor) = (some fetched, b'') ∧ (∃ rs, b'' = b.asked rs) ∧
        ∀ page, fetched = .ok page →
          page = Simulator.pageAt (items b.plane) cursor b.plane.pageSize := by
    rintro cursor b' ⟨rs, rfl⟩
    have hserved := h.served (b := b.asked rs) cursor hqueued (by
      rw [show (b.asked rs).plane.failures = [] from hfailures]
      rfl)
    rw [Testbed.asked_asked] at hserved
    refine ⟨_, _, hserved, ⟨_, rfl⟩, ?_⟩
    rintro page ⟨⟩
    rw [show items (b.asked rs).plane = items b.plane from h.items_asked b.plane rs]
    rfl
  have hstart : ∀ c, none = some c → ∃ n, c = toString n ∧ n < (items b.plane).length :=
    fun c hc => nomatch hc
  have hends : ∃ result b', b.run (collect fetch wanted pages) = (some result, b') ∧
      ∃ rs, b' = b.asked rs :=
    exists_run_collect_loop hfetch hsize wanted ⟨[], (Testbed.asked_nil b).symm⟩ hstart hpages
  obtain ⟨result, b', hrun, -⟩ := hends
  exact ⟨result, b', hrun⟩

end ControlPlane

end ClusterNet
