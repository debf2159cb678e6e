import ClusterNet.Proofs.ControlPlane.Paging

/-!
# What a search finds

A search goes through the pages of a listing and stops at the first item that is wanted. Nothing
before the page at hand is wanted: that holds of the first page, and each page hands it on to the
next. So a search that comes to an end has found what a search of the whole listing finds, whatever
the size of the pages, and if it has found nothing, nothing in the listing is wanted. It does come
to an end if pages are not empty and more of them are allowed than there are items.

## Main definitions

* `ControlPlane.pageStop` — where the page at a cursor ends

## Main results

* `ControlPlane.firstIn_succ` — one page of a search
* `ControlPlane.find?_of_firstIn` — what was found is the first item that is wanted
* `ControlPlane.firstIn_eq_find?` — the first item that is wanted is found
-/

namespace ClusterNet

namespace ControlPlane

open Program

variable {α : Type} {items : List α} {wanted : α → Bool} {size : Nat}

/-- No cursor is read as more than what counts the items of a listing. -/
theorem pageStart_lt (cursor : Option String) : Simulator.pageStart cursor < UInt64.size := by
  rw [Simulator.pageStart]
  cases hread : cursor.bind fun c => Text.boundedDecimal? UInt64.size c.toList with
  | none => decide
  | some n =>
    obtain ⟨c, -, hc⟩ := Option.bind_eq_some_iff.mp hread
    unfold Text.boundedDecimal? at hc
    exact of_decide_eq_true (Option.filter_eq_some_iff.mp hc).2

/-- A cursor leads to no item behind the one that it was made for. -/
theorem pageStart_toString_le (n : Nat) : Simulator.pageStart (some (toString n)) ≤ n := by
  by_cases hn : n < UInt64.size
  · exact Nat.le_of_eq (pageStart_toString hn)
  · have hstart := pageStart_lt (some (toString n))
    omega

/-- The end of the page at a cursor. -/
def pageStop (items : List α) (size : Nat) (cursor : Option String) : Nat :=
  min (Simulator.pageStart cursor + size) items.length

/-- A page that is not the last one leads on, to where it ends. -/
theorem pageStop_leads {cursor : Option String} (hsize : 0 < size)
    (hlength : items.length < UInt64.size) (hstop : pageStop items size cursor < items.length) :
    Simulator.pageStart (some (toString (pageStop items size cursor))) =
        pageStop items size cursor ∧
      Simulator.pageStart cursor < pageStop items size cursor ∧
      cursor ≠ some (toString (pageStop items size cursor)) := by
  have hread : Simulator.pageStart (some (toString (pageStop items size cursor))) =
      pageStop items size cursor := pageStart_toString (Nat.lt_trans hstop hlength)
  have hmoved : Simulator.pageStart cursor < pageStop items size cursor := by
    rw [pageStop] at hstop ⊢
    omega
  refine ⟨hread, hmoved, fun hsame => ?_⟩
  rw [← hsame] at hread
  omega

/-- The page at a cursor names its end, unless it is the last one. -/
theorem next?_pageAt (items : List α) (cursor : Option String) (size : Nat) :
    (Simulator.pageAt items cursor size).next? =
      if pageStop items size cursor < items.length then
        some (toString (pageStop items size cursor)) else none := by
  have hdigits : ∀ n : Nat, (toString n).isEmpty = false := by
    intro n
    have hne : (toString n).toList ≠ [] := by
      rw [show (toString n).toList = Nat.toDigits 10 n from Nat.toList_repr]
      exact Nat.toDigits_ne_nil
    rw [String.isEmpty_eq_false_iff]
    exact fun h => hne (String.toList_eq_nil_iff.mpr h)
  rw [Page.next?, Simulator.pageAt, pageStop]
  dsimp only
  split
  · rw [Option.filter_some, hdigits]
    rfl
  · rfl

/-- A page is searched like everything before its end, if nothing before the page is wanted. -/
theorem find?_take_pageStop {cursor : Option String}
    (hbefore : (items.take (Simulator.pageStart cursor)).find? wanted = none) :
    (items.take (pageStop items size cursor)).find? wanted =
      (Simulator.pageAt items cursor size).results.find? wanted := by
  have hnone : ((items.take (pageStop items size cursor)).take
      (Simulator.pageStart cursor)).find? wanted = none := by
    rw [List.find?_eq_none] at hbefore ⊢
    rw [List.take_take]
    exact fun a hmem => hbefore a (List.take_subset_take_left items (Nat.min_le_left _ _) hmem)
  rw [← List.take_append_drop (Simulator.pageStart cursor) (items.take _), List.find?_append, hnone]
  exact Option.none_or

/-- **One page of a search**, if nothing before it is wanted. -/
theorem firstIn_succ {cursor : Option String} (pages : Nat)
    (hbefore : (items.take (Simulator.pageStart cursor)).find? wanted = none) :
    firstIn items size wanted cursor (pages + 1) =
      match (items.take (pageStop items size cursor)).find? wanted with
      | some a => .done (.ok (some a))
      | none =>
        let next := toString (pageStop items size cursor)
        if pageStop items size cursor < items.length then
          if cursor = some next then .done (.error (repeatedCursor next))
          else firstIn items size wanted (some next) pages
        else .done (.ok none) := by
  rw [firstIn, Program.loop, findOnPage_eq, done_bind]
  dsimp only [done_bind]
  rw [onPage, ← find?_take_pageStop hbefore]
  cases (items.take (pageStop items size cursor)).find? wanted with
  | some a => rfl
  | none =>
    dsimp only
    rw [nextCursor, next?_pageAt]
    by_cases hstop : pageStop items size cursor < items.length
    · rw [if_pos hstop, if_pos hstop]
      dsimp only
      by_cases hsame : cursor = some (toString (pageStop items size cursor))
      · rw [if_pos hsame, if_pos hsame]
      · rw [if_neg hsame, if_neg hsame]
        rfl
    · rw [if_neg hstop, if_neg hstop]

/-- A whole listing is searched by searching its beginning and its rest. -/
theorem find?_eq_or_take (items : List α) (wanted : α → Bool) (n : Nat) :
    items.find? wanted = ((items.take n).find? wanted).or ((items.drop n).find? wanted) := by
  rw [← List.find?_append, List.take_append_drop]

/-- Nothing is wanted before the page that a cursor leads to, if nothing is before the one that it
was made for. -/
theorem find?_take_pageStart {n : Nat} (h : (items.take n).find? wanted = none) :
    (items.take (Simulator.pageStart (some (toString n)))).find? wanted = none := by
  rw [List.find?_eq_none] at h ⊢
  exact fun a hmem => h a (List.take_subset_take_left items (pageStart_toString_le n) hmem)

/-- **A search that comes to an end has found the first item that is wanted**, if there is one. -/
theorem find?_of_firstIn {cursor : Option String} {pages : Nat} {o : Option α}
    (hbefore : (items.take (Simulator.pageStart cursor)).find? wanted = none)
    (h : firstIn items size wanted cursor pages = .done (.ok o)) : items.find? wanted = o := by
  induction pages generalizing cursor with
  | zero => exact nomatch h
  | succ pages ih =>
    have hwhole := find?_eq_or_take items wanted (pageStop items size cursor)
    rw [firstIn_succ pages hbefore] at h
    cases hfound : (items.take (pageStop items size cursor)).find? wanted with
    | some a =>
      rw [hfound] at h hwhole
      obtain rfl := Except.ok.inj (Program.done.inj h)
      exact hwhole
    | none =>
      rw [hfound] at h
      dsimp only at h
      split at h
      · split at h
        · cases h
        · exact ih (find?_take_pageStart hfound) h
      · next hstop =>
        obtain rfl := Except.ok.inj (Program.done.inj h)
        rw [hwhole, hfound, List.drop_eq_nil_of_le (Nat.le_of_not_lt hstop)]
        rfl

/-- **The first item that is wanted is found**, if pages are not empty and as many are allowed as
there may be. -/
theorem firstIn_eq_find? {cursor : Option String} {pages : Nat} (hsize : 0 < size)
    (hlength : items.length < UInt64.size)
    (hcursor : ∀ c, cursor = some c → ∃ n, c = toString n ∧ n < items.length)
    (hbefore : (items.take (Simulator.pageStart cursor)).find? wanted = none)
    (hpages : pagesLeft items cursor ≤ pages) :
    firstIn items size wanted cursor pages = .done (.ok (items.find? wanted)) := by
  induction pages generalizing cursor with
  | zero =>
    cases cursor with
    | none => exact absurd hpages (Nat.not_succ_le_zero _)
    | some c =>
      obtain ⟨n, rfl, hn⟩ := hcursor c rfl
      rw [pagesLeft, pageStart_toString (Nat.lt_trans hn hlength)] at hpages
      omega
  | succ pages ih =>
    have hwhole := find?_eq_or_take items wanted (pageStop items size cursor)
    rw [firstIn_succ pages hbefore]
    cases hfound : (items.take (pageStop items size cursor)).find? wanted with
    | some a =>
      rw [hfound] at hwhole
      rw [hwhole]
      rfl
    | none =>
      dsimp only
      split
      · next hstop =>
        obtain ⟨hread, hmoved, hne⟩ := pageStop_leads hsize hlength hstop
        rw [if_neg hne]
        refine ih (fun c hc => ⟨_, (Option.some.inj hc).symm, hstop⟩)
          (find?_take_pageStart hfound) ?_
        rw [pagesLeft, hread]
        cases cursor with
        | none => rw [pagesLeft] at hpages; omega
        | some c => rw [pagesLeft] at hpages; omega
      · next hstop =>
        rw [hwhole, hfound, List.drop_eq_nil_of_le (Nat.le_of_not_lt hstop)]
        rfl

end ControlPlane

end ClusterNet
