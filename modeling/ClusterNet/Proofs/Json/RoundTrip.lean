import ClusterNet.Json.Parser
import ClusterNet.Json.Printer
import ClusterNet.Proofs.Text.Decimal
import Mathlib.Data.List.DropRight

/-!
# Written values read back

A value that is written, without spaces or with one item or member a line, is read as itself. The
reader is given a text that goes on behind the value, so the law is about every continuation: *what
is read is the value, and what is left is the continuation*. A continuation must not look like more
of a number, which is all that could be read on with.

The two ways of writing lists differ only in the spaces that stand before each item and before the
closing bracket, and the reader skips spaces in both places. So there is one law for lists, about
any way of writing items that can be read.

The reader follows values within values for a number of levels. Twice the number of characters is
enough, since each level takes a character of its own and each step through a list another one.

## Scope

Numbers that are no integers are kept as they are written, whatever that is, and a value that could
not be read is written as another one. Both are left out (`Json.IsPlain`).

## Main definitions

* `Json.IsPlain` — values without such numbers and without what cannot be read
* `Json.Ends` — continuations that do not go on with a number
* `Json.ReadFrom` — values that are read from some characters
* `Json.itemsBehind`, `Json.membersBehind` — lists whose parts are written in a given way

## Main results

* `Json.textBody_escaped`, `Json.assemble_pieces` — texts are read back
* `Json.numberChars_integerChars` — integers are read back
* `Json.readFrom_array`, `Json.readFrom_object` — lists of what can be read can be read
* `Json.parse_compact`, `Json.parse_indented` — plain values are read back
-/

namespace ClusterNet

namespace Json

/-! ### Texts -/

/-- Whether a character of a text is written by its number. -/
def isNumbered (c : Char) : Bool :=
  c.toNat < 0x20 && !(c == '\n' || c == '\r' || c == '\t' || c == '\x08' || c == '\x0c')

/-- The part of a text that a character is read as. -/
def pieceOf (c : Char) : Piece := if isNumbered c then .unit c.toNat else .char c

/-- The numbers of control characters have four digits that stand for them. -/
theorem hexPadded_control : ∀ n < 0x20, ∃ a b c d, Text.hexPadded 4 n [] = [a, b, c, d] ∧
    Text.number? 16 [a, b, c, d] = some n := by
  intro n hn
  refine ⟨_, _, _, _, rfl, ?_⟩
  revert n
  decide

/-- A character is read as its part, and reading goes on behind it. -/
theorem textBody_escapedChar (c : Char) (cs : List Char) :
    textBody (escapedChar c ++ cs) =
      (textBody cs).map fun (ps, rest) => (pieceOf c :: ps, rest) := by
  by_cases hquote : c = '"'
  · subst hquote; rfl
  by_cases hbackslash : c = '\\'
  · subst hbackslash; rfl
  by_cases hline : c = '\n'
  · subst hline; rfl
  by_cases hreturn : c = '\r'
  · subst hreturn; rfl
  by_cases htab : c = '\t'
  · subst htab; rfl
  by_cases hback : c = '\x08'
  · subst hback; rfl
  by_cases hfeed : c = '\x0c'
  · subst hfeed; rfl
  rw [escapedChar, if_neg hquote, if_neg hbackslash, if_neg hline, if_neg hreturn, if_neg htab,
    if_neg hback, if_neg hfeed]
  by_cases hcontrol : c.toNat < 0x20
  · have hpiece : pieceOf c = .unit c.toNat := by
      rw [pieceOf, isNumbered]
      simp [hcontrol, hline, hreturn, htab, hback, hfeed]
    obtain ⟨w, x, y, z, hdigits, hnumber⟩ := hexPadded_control c.toNat hcontrol
    rw [if_pos hcontrol, hdigits, hpiece]
    show textBody ('\\' :: 'u' :: w :: x :: y :: z :: cs) = _
    rw [textBody, hnumber, Option.bind_some]
  · have hpiece : pieceOf c = .char c := by
      rw [pieceOf, isNumbered]
      simp [hcontrol]
    rw [if_neg hcontrol, hpiece]
    show textBody (c :: cs) = _
    rw [textBody.eq_def]
    split
    · next heq => exact nomatch heq
    · next heq => exact absurd (List.cons.inj heq).1 hquote
    · next heq => exact absurd (List.cons.inj heq).1 hbackslash
    · next heq => exact absurd (List.cons.inj heq).1 hbackslash
    · next heq =>
      obtain ⟨rfl, rfl⟩ := List.cons.inj heq
      simp [hcontrol, hbackslash]

/-- A text is read up to its closing quote. -/
theorem textBody_escaped (cs rest : List Char) :
    textBody (cs.flatMap escapedChar ++ '"' :: rest) = some (cs.map pieceOf, rest) := by
  induction cs with
  | nil => rfl
  | cons c cs ih =>
    rw [List.flatMap_cons, List.append_assoc, textBody_escapedChar, ih]
    rfl

/-- A control character is no half of a surrogate pair. -/
theorem toNat_lt_of_isNumbered {c : Char} (h : isNumbered c = true) : c.toNat < 0x20 := by
  rw [isNumbered, Bool.and_eq_true] at h
  exact of_decide_eq_true h.1

/-- The parts of a text stand for its characters. -/
theorem assemble_pieces (cs : List Char) : assemble (cs.map pieceOf) = some cs := by
  induction cs with
  | nil => rfl
  | cons c cs ih =>
    rw [List.map_cons]
    cases hnumbered : isNumbered c with
    | false =>
      rw [pieceOf, hnumbered, if_neg Bool.false_ne_true, assemble, ih]
      rfl
    | true =>
      have hlt : c.toNat < 0x20 := toNat_lt_of_isNumbered hnumbered
      have hhigh : ¬ (0xd800 ≤ c.toNat) := by omega
      have hlow : ¬ (0xdc00 ≤ c.toNat) := by omega
      rw [pieceOf, hnumbered, if_pos rfl, assemble.eq_def]
      split
      · next heq => exact nomatch heq
      · next heq => exact nomatch (List.cons.inj heq).1
      · next n l ps heq =>
        obtain ⟨hunit, hps⟩ := List.cons.inj heq
        obtain rfl := Piece.unit.inj hunit
        rw [hps] at ih
        simp [hhigh, hlow, ih]
      · next n ps _ heq =>
        obtain ⟨hunit, hps⟩ := List.cons.inj heq
        obtain rfl := Piece.unit.inj hunit
        rw [hps] at ih
        simp [hhigh, ih]

/-! ### Numbers -/

/-- Continuations that do not go on with a number. -/
def Ends (rest : List Char) : Prop :=
  ∀ c, rest.head? = some c → Text.isDigit c = false ∧ c ≠ '.' ∧ c ≠ 'e' ∧ c ≠ 'E'

theorem ends_nil : Ends [] := fun _ h => nomatch h

theorem ends_cons {c : Char} (h : c ∈ [',', ']', '\x7d', ' ', '\n', '\t', '\r'])
    (cs : List Char) : Ends (c :: cs) := by
  have hends : ∀ c' ∈ [',', ']', '\x7d', ' ', '\n', '\t', '\r'],
      Text.isDigit c' = false ∧ c' ≠ '.' ∧ c' ≠ 'e' ∧ c' ≠ 'E' := by
    simp [Text.isDigit]
  intro c' hc'
  rw [← Option.some.inj hc']
  exact hends c h

theorem takeWhile_isDigit {digits rest : List Char} (h : ∀ c ∈ digits, Text.isDigit c = true)
    (hrest : Ends rest) : (digits ++ rest).takeWhile Text.isDigit = digits ∧
      (digits ++ rest).dropWhile Text.isDigit = rest := by
  have hend : rest.takeWhile Text.isDigit = [] ∧ rest.dropWhile Text.isDigit = rest := by
    cases rest with
    | nil => exact ⟨rfl, rfl⟩
    | cons c cs =>
      have hc := (hrest c rfl).1
      rw [List.takeWhile_cons, List.dropWhile_cons, hc]
      exact ⟨rfl, rfl⟩
  rw [List.takeWhile_append_of_pos h, List.dropWhile_append_of_pos h, hend.1, hend.2,
    List.append_nil]
  exact ⟨rfl, rfl⟩

/-- The digits of a number are its whole part. -/
theorem wholePart_toDigits (n : Nat) {rest : List Char} (hrest : Ends rest) :
    wholePart (Nat.toDigits 10 n ++ rest) = some (Nat.toDigits 10 n, rest) := by
  obtain ⟨htake, hdrop⟩ := takeWhile_isDigit (fun c => Text.isDigit_of_mem_toDigits (n := n)) hrest
  by_cases hzero : n = 0
  · subst hzero
    rfl
  · rw [wholePart.eq_def]
    split
    · next ds hds =>
      cases hdigits : Nat.toDigits 10 n with
      | nil => exact absurd hdigits Nat.toDigits_ne_nil
      | cons c cs =>
        rw [hdigits, List.cons_append] at hds
        rw [(List.cons.inj hds).1] at hdigits
        exact absurd hdigits (Text.toDigits_ne_zero_cons hzero cs)
    · have hne : (Nat.toDigits 10 n).isEmpty = false :=
        List.isEmpty_eq_false_iff.mpr Nat.toDigits_ne_nil
      rw [digitsAhead, htake, hdrop, hne, if_neg Bool.false_ne_true]

theorem fractionPart_of_ends {rest : List Char} (hrest : Ends rest) :
    fractionPart rest = some ([], rest) := by
  rw [fractionPart.eq_def]
  split
  · exact absurd rfl (hrest '.' rfl).2.1
  · rfl

theorem exponentPart_of_ends {rest : List Char} (hrest : Ends rest) :
    exponentPart rest = some ([], rest) := by
  cases rest with
  | nil => rfl
  | cons c cs =>
    obtain ⟨-, -, hlower, hupper⟩ := hrest c rfl
    rw [exponentPart.eq_def]
    simp [hlower, hupper]

/-- The parts of a number without fraction and exponent. -/
theorem numberParts_toDigits (n : Nat) {rest : List Char} (hrest : Ends rest) (isNegative : Bool) :
    ((wholePart (Nat.toDigits 10 n ++ rest)).bind fun (whole, cs) =>
      (fractionPart cs).bind fun (fraction, cs) =>
        (exponentPart cs).map fun (exponent, cs) =>
          (numberValue isNegative whole (fraction ++ exponent), cs)) =
      some (numberValue isNegative (Nat.toDigits 10 n) [], rest) := by
  rw [wholePart_toDigits n hrest, Option.bind_some]
  dsimp only
  rw [fractionPart_of_ends hrest, Option.bind_some]
  dsimp only
  rw [exponentPart_of_ends hrest, Option.map_some]
  rfl

/-- An integer is read up to the end of its digits. -/
theorem numberChars_integerChars (n : Int) {rest : List Char} (hrest : Ends rest) :
    numberChars (integerChars n ++ rest) = some (.integer n, rest) := by
  cases n with
  | ofNat n =>
    have hsign : ∀ cs, Nat.toDigits 10 n ++ rest ≠ '-' :: cs := by
      intro cs hcs
      cases hdigits : Nat.toDigits 10 n with
      | nil => exact absurd hdigits Nat.toDigits_ne_nil
      | cons c ds =>
        rw [hdigits, List.cons_append] at hcs
        have hmem : '-' ∈ Nat.toDigits 10 n := by
          rw [hdigits, (List.cons.inj hcs).1]
          exact .head ds
        exact absurd (Text.isDigit_of_mem_toDigits hmem) (by decide)
    have hvalue : numberValue false (Nat.toDigits 10 n) [] = .integer n := by
      simp [numberValue, Text.numberFrom?_toDigits]
    show numberChars (Nat.toDigits 10 n ++ rest) = some (.integer n, rest)
    rw [numberChars.eq_def]
    split
    next isNegative cs hsigned =>
      split at hsigned
      · next hminus => exact absurd hminus (hsign _)
      · obtain ⟨rfl, rfl⟩ := Prod.mk.inj hsigned
        rw [numberParts_toDigits n hrest, hvalue]
  | negSucc n =>
    have hzero : Nat.toDigits 10 (n + 1) ≠ ['0'] := Text.toDigits_ne_zero_cons n.succ_ne_zero []
    have hvalue : numberValue true (Nat.toDigits 10 (n + 1)) [] = .integer (.negSucc n) := by
      have hneg : -((n : Int) + 1) = .negSucc n := (Int.negSucc_eq n).symm
      simp [numberValue, Text.numberFrom?_toDigits, hzero, hneg]
    show numberChars ('-' :: (Nat.toDigits 10 (n + 1) ++ rest)) = _
    exact (numberParts_toDigits (n + 1) hrest true).trans (by rw [hvalue])

/-! ### Spaces -/

/-- Spaces and nothing else. -/
def IsGap (gap : List Char) : Prop := ∀ c ∈ gap, isSpace c = true

theorem isGap_nil : IsGap [] := fun _ h => nomatch h

theorem isGap_newline (level : Nat) : IsGap (newline level) := by
  intro c hc
  rcases List.mem_cons.mp hc with rfl | hc
  · rfl
  · rw [List.eq_of_mem_replicate hc]
    rfl

theorem skipSpaces_gap {gap : List Char} (h : IsGap gap) (cs : List Char) :
    skipSpaces (gap ++ cs) = skipSpaces cs :=
  List.dropWhile_append_of_pos h

theorem skipSpaces_skipSpaces (cs : List Char) : skipSpaces (skipSpaces cs) = skipSpaces cs :=
  List.dropWhile_idempotent isSpace cs

theorem valueAhead_skipSpaces (fuel : Nat) (cs : List Char) :
    valueAhead fuel (skipSpaces cs) = valueAhead fuel cs := by
  cases fuel with
  | zero => rfl
  | succ fuel => rw [valueAhead, valueAhead, skipSpaces_skipSpaces]

theorem itemsAhead_skipSpaces (fuel : Nat) (cs : List Char) :
    itemsAhead fuel (skipSpaces cs) = itemsAhead fuel cs := by
  cases fuel with
  | zero => rfl
  | succ fuel => rw [itemsAhead, itemsAhead, valueAhead_skipSpaces]

theorem membersAhead_skipSpaces (fuel : Nat) (cs : List Char) :
    membersAhead fuel (skipSpaces cs) = membersAhead fuel cs := by
  cases fuel with
  | zero => rfl
  | succ fuel => rw [membersAhead, membersAhead, skipSpaces_skipSpaces]

/-- A continuation may start with spaces. -/
theorem ends_gap {gap : List Char} (h : IsGap gap) {c : Char} (hc : c ∈ [',', ']', '\x7d'])
    (cs : List Char) : Ends (gap ++ c :: cs) := by
  cases gap with
  | nil => exact ends_cons (List.mem_append_left _ hc) cs
  | cons g gap =>
    have hspace : isSpace g = true := h g (.head gap)
    refine ends_cons (List.mem_append_right [',', ']', '\x7d'] ?_) _
    simpa [isSpace, or_assoc] using hspace

/-! ### Values -/

/-- Values without numbers that are no integers, and without what cannot be read. -/
inductive IsPlain : Json → Prop
  /-- The value `null`. -/
  | null : IsPlain .null
  /-- A truth value. -/
  | bool (b : Bool) : IsPlain (.bool b)
  /-- An integer. -/
  | integer (n : Int) : IsPlain (.integer n)
  /-- A text. -/
  | string (s : String) : IsPlain (.string s)
  /-- A list of plain values. -/
  | array {vs : List Json} (h : ∀ v ∈ vs, IsPlain v) : IsPlain (.array vs)
  /-- A list of named plain values. -/
  | object {ms : List (String × Json)} (h : ∀ m ∈ ms, IsPlain m.2) : IsPlain (.object ms)

/-- Whether a value is read from some characters, whatever ends it. -/
def ReadFrom (v : Json) (cs : List Char) : Prop :=
  ∀ (fuel : Nat) (rest : List Char), 2 * cs.length < fuel → Ends rest →
    valueAhead fuel (cs ++ rest) = some (v, rest)

/-- A value is read from its characters behind spaces. -/
theorem ReadFrom.behind {v : Json} {cs gap : List Char} (h : ReadFrom v cs) (hgap : IsGap gap) :
    ReadFrom v (gap ++ cs) := by
  intro fuel rest hfuel hrest
  rw [List.length_append] at hfuel
  rw [List.append_assoc, ← valueAhead_skipSpaces, skipSpaces_gap hgap, valueAhead_skipSpaces]
  exact h fuel rest (by omega) hrest

/-- What a value is read from closes no list. -/
theorem ReadFrom.opens {v : Json} {cs : List Char} (h : ReadFrom v cs) {rest : List Char}
    (hrest : Ends rest) (after : List Char) : skipSpaces (cs ++ rest) ≠ ']' :: after := by
  intro hcloses
  have hread := h (2 * cs.length + 1) rest (Nat.lt_succ_self _) hrest
  rw [valueAhead, hcloses] at hread
  exact nomatch hread

/-! ### Values without parts -/

/-- An integer starts with a sign or with a digit. -/
theorem integerChars_eq_cons (n : Int) :
    ∃ c cs, integerChars n = c :: cs ∧ (c = '-' ∨ Text.isDigit c = true) := by
  cases n with
  | negSucc n => exact ⟨_, _, rfl, .inl rfl⟩
  | ofNat n =>
    cases hdigits : Nat.toDigits 10 n with
    | nil => exact absurd hdigits Nat.toDigits_ne_nil
    | cons c cs =>
      refine ⟨c, cs, hdigits, .inr (Text.isDigit_of_mem_toDigits (n := n) ?_)⟩
      rw [hdigits]
      exact .head cs

/-- What starts a number is none of these characters. -/
theorem ne_of_startsNumber {c : Char} (h : c = '-' ∨ Text.isDigit c = true) :
    ∀ c' ∈ [' ', '\n', '\t', '\r', '"', '[', '\x7b', 'n', 't', 'f'], c ≠ c' := by
  have hother : ∀ c' ∈ [' ', '\n', '\t', '\r', '"', '[', '\x7b', 'n', 't', 'f'],
      ¬ (c' = '-' ∨ Text.isDigit c' = true) := by
    simp [Text.isDigit]
  intro c' hmem heq
  exact hother c' hmem (heq ▸ h)

/-- What starts like a number is read as one. -/
theorem valueAhead_number {c : Char} (h : c = '-' ∨ Text.isDigit c = true) (fuel : Nat)
    (cs : List Char) : valueAhead (fuel + 1) (c :: cs) = numberChars (c :: cs) := by
  have hne := ne_of_startsNumber h
  have hspaces : skipSpaces (c :: cs) = c :: cs := by
    have hspace : isSpace c = false := by
      simp [isSpace, hne]
    rw [skipSpaces, List.dropWhile_cons, hspace]
    rfl
  rw [valueAhead, hspaces]
  split
  · next heq => exact nomatch heq
  all_goals first
    | rfl
    | next heq => exact absurd (List.cons.inj heq).1 (hne _ (by decide))

theorem readFrom_null : ReadFrom .null "null".toList := by
  intro fuel rest hfuel _
  cases fuel with
  | zero => omega
  | succ fuel => rfl

theorem readFrom_bool (b : Bool) : ReadFrom (.bool b) (compactChars (.bool b)) := by
  intro fuel rest hfuel _
  cases fuel with
  | zero => omega
  | succ fuel => cases b <;> rfl

theorem readFrom_integer (n : Int) : ReadFrom (.integer n) (integerChars n) := by
  intro fuel rest hfuel hrest
  cases fuel with
  | zero => omega
  | succ fuel =>
    obtain ⟨c, cs, hcs, hc⟩ := integerChars_eq_cons n
    rw [← numberChars_integerChars n hrest, hcs, List.cons_append]
    exact valueAhead_number hc fuel _

theorem readFrom_string (s : String) : ReadFrom (.string s) (quoted s) := by
  intro fuel rest hfuel _
  cases fuel with
  | zero => omega
  | succ fuel =>
    rw [quoted, List.cons_append, List.append_assoc, List.singleton_append, valueAhead]
    show Option.map _ (textBody _) = _
    rw [textBody_escaped, Option.map_some]
    dsimp only
    rw [assemble_pieces]
    exact congrArg (fun t => some (Json.string t, rest)) String.ofList_toList

/-! ### Lists of items -/

/-- The items behind the first one, each written in a given way behind a comma. -/
def itemsBehind (chars : Json → List Char) (vs : List Json) : List Char :=
  vs.flatMap fun v => ',' :: chars v

theorem compactItems_eq (vs : List Json) : compactItems vs = itemsBehind compactChars vs := by
  induction vs with
  | nil => rfl
  | cons v vs ih => rw [compactItems, ih, itemsBehind, itemsBehind, List.flatMap_cons]; rfl

theorem indentedItems_eq (level : Nat) (vs : List Json) : indentedItems level vs =
    itemsBehind (fun v => newline (level + 1) ++ indentedChars (level + 1) v) vs := by
  induction vs with
  | nil => rfl
  | cons v vs ih =>
    rw [indentedItems, ih, itemsBehind, itemsBehind, List.flatMap_cons, List.cons_append,
      List.append_assoc]

section Items

variable {chars : Json → List Char} {gap : List Char}

/-- What follows an item ends it. -/
theorem ends_itemsBehind (chars : Json → List Char) (hgap : IsGap gap) (vs : List Json)
    (rest : List Char) :
    Ends (itemsBehind chars vs ++ (gap ++ ']' :: rest)) := by
  cases vs with
  | nil => exact ends_gap hgap (by decide) rest
  | cons v vs => exact ends_cons (by decide) _

/-- The items of an array are read if each of them is. -/
theorem itemsAhead_items (hgap : IsGap gap) {vs : List Json}
    (hvs : ∀ w ∈ vs, ReadFrom w (chars w)) {v : Json} (hv : ReadFrom v (chars v)) (fuel : Nat)
    (rest : List Char)
    (hfuel : 2 * ((chars v).length + (itemsBehind chars vs).length) + 1 < fuel) :
    itemsAhead fuel (chars v ++ (itemsBehind chars vs ++ (gap ++ ']' :: rest))) =
      some (v :: vs, rest) := by
  induction vs generalizing v fuel with
  | nil =>
    cases fuel with
    | zero => omega
    | succ fuel =>
      have hcloses : skipSpaces (itemsBehind chars [] ++ (gap ++ ']' :: rest)) = ']' :: rest :=
        skipSpaces_gap hgap _
      rw [itemsAhead, hv fuel _ (by omega) (ends_itemsBehind chars hgap [] rest), Option.bind_some]
      dsimp only
      rw [hcloses]
      rfl
  | cons v' vs ih =>
    cases fuel with
    | zero => omega
    | succ fuel =>
      have hvs' : ∀ w ∈ vs, ReadFrom w (chars w) := fun w hmem => hvs w (.tail v' hmem)
      have hbehind : itemsBehind chars (v' :: vs) = ',' :: (chars v' ++ itemsBehind chars vs) := rfl
      rw [hbehind, List.length_cons, List.length_append] at hfuel
      rw [itemsAhead, hv fuel _ (by omega) (ends_itemsBehind chars hgap (v' :: vs) rest),
        Option.bind_some, hbehind, List.cons_append, List.append_assoc]
      show Option.map _ (itemsAhead fuel _) = _
      rw [ih hvs' (hvs v' (.head vs)) fuel (by omega)]
      rfl

/-- What follows an opening bracket is read as items, unless it closes the array. -/
theorem valueAhead_items {cs : List Char} (h : ∀ after, skipSpaces cs ≠ ']' :: after)
    (fuel : Nat) : valueAhead (fuel + 1) ('[' :: cs) =
      (itemsAhead fuel cs).map fun (vs, rest) => (.array vs, rest) := by
  have hopened : skipSpaces ('[' :: cs) = '[' :: cs := rfl
  rw [valueAhead, hopened, ← itemsAhead_skipSpaces]
  split
  case h_3 rest heq =>
    obtain rfl := (List.cons.inj heq).2
    split
    · next heq' => exact absurd heq' (h _)
    · rfl
  all_goals simp_all

/-- An array is read if its items are, whatever spaces stand before its end. -/
theorem readFrom_array (chars : Json → List Char) (hgap : IsGap gap) {v : Json}
    {vs : List Json} (h : ∀ w ∈ v :: vs, ReadFrom w (chars w)) :
    ReadFrom (.array (v :: vs)) ('[' :: (chars v ++ (itemsBehind chars vs ++ (gap ++ [']'])))) := by
  intro fuel rest hfuel _
  have hv : ReadFrom v (chars v) := h v (.head vs)
  have hvs : ∀ w ∈ vs, ReadFrom w (chars w) := fun w hmem => h w (.tail v hmem)
  simp only [List.length_cons, List.length_append] at hfuel
  cases fuel with
  | zero => omega
  | succ fuel =>
    have hitems := itemsAhead_items hgap hvs hv fuel rest (by omega)
    have hopens := hv.opens (ends_itemsBehind chars hgap vs rest)
    simp only [List.cons_append, List.append_assoc, List.nil_append]
    rw [valueAhead_items hopens, hitems]
    rfl

end Items

/-! ### Lists of members -/

/-- A member whose value is written in a given way, behind a gap. -/
def memberChars (gap : List Char) (chars : Json → List Char) (m : String × Json) : List Char :=
  gap ++ (quoted m.1 ++ ':' :: chars m.2)

/-- The members behind the first one, each written in a given way behind a comma. -/
def membersBehind (gap : List Char) (chars : Json → List Char) (ms : List (String × Json)) :
    List Char :=
  ms.flatMap fun m => ',' :: memberChars gap chars m

theorem compactMembers_eq (ms : List (String × Json)) :
    compactMembers ms = membersBehind [] compactChars ms := by
  induction ms with
  | nil => rfl
  | cons m ms ih =>
    obtain ⟨k, v⟩ := m
    rw [compactMembers, ih, membersBehind, membersBehind, List.flatMap_cons, memberChars]
    simp only [List.cons_append, List.append_assoc, List.nil_append]

theorem indentedMembers_eq (level : Nat) (ms : List (String × Json)) : indentedMembers level ms =
    membersBehind (newline (level + 1)) (fun v => ' ' :: indentedChars (level + 1) v) ms := by
  induction ms with
  | nil => rfl
  | cons m ms ih =>
    obtain ⟨k, v⟩ := m
    rw [indentedMembers, ih, membersBehind, membersBehind, List.flatMap_cons, memberChars]
    simp only [List.cons_append, List.append_assoc]

/-- The members of an object as they are read. -/
def membersRead (ms : List (String × Json)) : List (Option (List Char) × Json) :=
  ms.map fun m => (some m.1.toList, m.2)

/-- Members whose names can be read make an object. -/
theorem objectOf_membersRead (ms : List (String × Json)) :
    objectOf (membersRead ms) = .object ms := by
  have hms : (membersRead ms).mapM (fun m => m.1.map fun k => (String.ofList k, m.2)) =
      some ms := by
    induction ms with
    | nil => rfl
    | cons m ms ih =>
      obtain ⟨k, v⟩ := m
      rw [membersRead] at ih
      rw [membersRead, List.map_cons, List.mapM_cons, ih]
      show some ((String.ofList k.toList, v) :: ms) = _
      rw [String.ofList_toList]
  rw [objectOf]
  split
  · next members heq => rw [Option.some.inj (heq.symm.trans hms)]
  · next heq => cases heq.symm.trans hms

section Members

variable {chars : Json → List Char} {gap gap' : List Char}

/-- What follows a member ends it. -/
theorem ends_membersBehind (hgap : IsGap gap') (ms : List (String × Json)) (rest : List Char) :
    Ends (membersBehind gap chars ms ++ (gap' ++ '\x7d' :: rest)) := by
  cases ms with
  | nil => exact ends_gap hgap (by decide) rest
  | cons m ms => exact ends_cons (by decide) _

/-- What is read behind the value of a member. -/
def membersAfter (fuel : Nat) (name : Option (List Char)) (v : Json) (cs : List Char) :
    Option (List (Option (List Char) × Json) × List Char) :=
  match skipSpaces cs with
  | ',' :: rest => (membersAhead fuel rest).map fun (ms, rest) => ((name, v) :: ms, rest)
  | '\x7d' :: rest => some ([(name, v)], rest)
  | _ => none

/-- A member is read up to the end of its value. -/
theorem membersAhead_member (hgap : IsGap gap) {k : String} {v : Json}
    (hv : ReadFrom v (chars v)) {fuel : Nat} {cs : List Char}
    (hfuel : 2 * (chars v).length < fuel) (hcs : Ends cs) :
    membersAhead (fuel + 1) (memberChars gap chars (k, v) ++ cs) =
      membersAfter fuel (some k.toList) v cs := by
  have hmember : memberChars gap chars (k, v) ++ cs =
      gap ++ ('"' :: (k.toList.flatMap escapedChar ++ '"' :: ':' :: (chars v ++ cs))) := by
    simp only [memberChars, quoted, List.cons_append, List.append_assoc, List.nil_append]
  rw [hmember, membersAhead, skipSpaces_gap hgap]
  show Option.bind (textBody _) _ = _
  rw [textBody_escaped, Option.bind_some]
  show Option.bind (valueAhead fuel _) _ = _
  rw [hv fuel cs hfuel hcs, Option.bind_some]
  dsimp only
  rw [assemble_pieces]
  rfl

/-- The members of an object are read if the value of each of them is. -/
theorem membersAhead_members (hgap : IsGap gap) (hgap' : IsGap gap') {ms : List (String × Json)}
    (hms : ∀ m ∈ ms, ReadFrom m.2 (chars m.2)) (k : String) {v : Json}
    (hv : ReadFrom v (chars v)) (fuel : Nat) (rest : List Char)
    (hfuel : 2 * ((chars v).length + (membersBehind gap chars ms).length) + 1 < fuel) :
    membersAhead fuel (memberChars gap chars (k, v) ++
        (membersBehind gap chars ms ++ (gap' ++ '\x7d' :: rest))) =
      some (membersRead ((k, v) :: ms), rest) := by
  induction ms generalizing k v fuel with
  | nil =>
    cases fuel with
    | zero => omega
    | succ fuel =>
      have hcloses : skipSpaces (membersBehind gap chars [] ++ (gap' ++ '\x7d' :: rest)) =
          '\x7d' :: rest :=
        skipSpaces_gap hgap' _
      rw [membersAhead_member hgap hv (by omega) (ends_membersBehind hgap' [] rest), membersAfter,
        hcloses]
      rfl
  | cons m ms ih =>
    obtain ⟨k', v'⟩ := m
    cases fuel with
    | zero => omega
    | succ fuel =>
      have hv' : ReadFrom v' (chars v') := hms (k', v') (.head ms)
      have hms' : ∀ m ∈ ms, ReadFrom m.2 (chars m.2) := fun m hmem => hms m (.tail (k', v') hmem)
      have hbehind : membersBehind gap chars ((k', v') :: ms) =
          ',' :: (memberChars gap chars (k', v') ++ membersBehind gap chars ms) := rfl
      have hmember : (memberChars gap chars (k', v')).length =
          gap.length + ((quoted k').length + ((chars v').length + 1)) := by
        rw [memberChars, List.length_append, List.length_append, List.length_cons]
      rw [hbehind, List.length_cons, List.length_append, hmember] at hfuel
      rw [membersAhead_member hgap hv (by omega) (ends_membersBehind hgap' ((k', v') :: ms) rest),
        membersAfter, hbehind, List.cons_append, List.append_assoc]
      show Option.map _ (membersAhead fuel _) = _
      rw [ih hms' k' hv' fuel (by omega)]
      rfl

/-- What follows an opening brace is read as members. -/
theorem valueAhead_members (hgap : IsGap gap) (fuel : Nat) (m : String × Json) (cs : List Char) :
    valueAhead (fuel + 1) ('\x7b' :: (memberChars gap chars m ++ cs)) =
      (membersAhead fuel (memberChars gap chars m ++ cs)).map
        fun (ms, rest) => (objectOf ms, rest) := by
  have hopened : ∀ cs, skipSpaces ('\x7b' :: cs) = '\x7b' :: cs := fun _ => rfl
  have hquote : skipSpaces (memberChars gap chars m ++ cs) =
      '"' :: (m.1.toList.flatMap escapedChar ++ '"' :: ':' :: (chars m.2 ++ cs)) := by
    rw [memberChars, List.append_assoc, skipSpaces_gap hgap, quoted]
    simp only [List.cons_append, List.append_assoc, List.nil_append]
    rfl
  rw [valueAhead, hopened, ← membersAhead_skipSpaces, hquote]
  split
  case h_4 rest heq =>
    obtain rfl := (List.cons.inj heq).2
    rw [hquote]
    rfl
  all_goals simp_all

/-- An object is read if the values of its members are, whatever spaces stand before its end. -/
theorem readFrom_object (chars : Json → List Char) (hgap : IsGap gap) (hgap' : IsGap gap')
    {m : String × Json} {ms : List (String × Json)}
    (h : ∀ m' ∈ m :: ms, ReadFrom m'.2 (chars m'.2)) :
    ReadFrom (.object (m :: ms))
      ('\x7b' ::
        (memberChars gap chars m ++ (membersBehind gap chars ms ++ (gap' ++ ['\x7d'])))) := by
  intro fuel rest hfuel _
  obtain ⟨k, v⟩ := m
  have hv : ReadFrom v (chars v) := h (k, v) (.head ms)
  have hms : ∀ m ∈ ms, ReadFrom m.2 (chars m.2) := fun m hmem => h m (.tail (k, v) hmem)
  simp only [memberChars, List.length_cons, List.length_append] at hfuel
  cases fuel with
  | zero => omega
  | succ fuel =>
    have hmembers := membersAhead_members hgap hgap' hms k hv fuel rest (by omega)
    simp only [List.cons_append, List.append_assoc, List.nil_append]
    rw [valueAhead_members hgap, hmembers, Option.map_some]
    dsimp only
    rw [objectOf_membersRead]

end Members

/-! ### Plain values -/

theorem readFrom_array_nil : ReadFrom (.array []) ['[', ']'] := by
  intro fuel rest hfuel _
  cases fuel with
  | zero => omega
  | succ fuel => rfl

theorem readFrom_object_nil : ReadFrom (.object []) ['\x7b', '\x7d'] := by
  intro fuel rest hfuel _
  cases fuel with
  | zero => omega
  | succ fuel => rfl

theorem IsPlain.readFrom_compactChars {v : Json} (h : IsPlain v) : ReadFrom v v.compactChars := by
  induction h with
  | null => exact readFrom_null
  | bool b => exact readFrom_bool b
  | integer n => exact readFrom_integer n
  | string s => exact readFrom_string s
  | @array vs _ ih =>
    cases vs with
    | nil => exact readFrom_array_nil
    | cons v vs =>
      rw [compactChars, compactItems_eq]
      exact readFrom_array compactChars isGap_nil ih
  | @object ms _ ih =>
    cases ms with
    | nil => exact readFrom_object_nil
    | cons m ms =>
      have hread := readFrom_object compactChars isGap_nil isGap_nil ih
      rw [← compactMembers_eq, memberChars] at hread
      simp only [List.cons_append, List.append_assoc, List.nil_append] at hread
      rw [compactChars]
      exact hread

theorem IsPlain.readFrom_indentedChars {v : Json} (h : IsPlain v) (level : Nat) :
    ReadFrom v (v.indentedChars level) := by
  induction h generalizing level with
  | null => exact readFrom_null
  | bool b => exact readFrom_bool b
  | integer n => exact readFrom_integer n
  | string s => exact readFrom_string s
  | @array vs _ ih =>
    cases vs with
    | nil => exact readFrom_array_nil
    | cons v vs =>
      have hitems : ∀ w ∈ v :: vs,
          ReadFrom w (newline (level + 1) ++ indentedChars (level + 1) w) :=
        fun w hmem => (ih w hmem (level + 1)).behind (isGap_newline _)
      have hread := readFrom_array _ (isGap_newline level) hitems
      rw [← indentedItems_eq, List.append_assoc] at hread
      rw [indentedChars]
      exact hread
  | @object ms _ ih =>
    cases ms with
    | nil => exact readFrom_object_nil
    | cons m ms =>
      have hspace : IsGap [' '] := by
        intro c hc
        rw [List.mem_singleton.mp hc]
        rfl
      have hmembers : ∀ m' ∈ m :: ms, ReadFrom m'.2 (' ' :: indentedChars (level + 1) m'.2) :=
        fun m' hmem => (ih m' hmem (level + 1)).behind hspace
      have hread := readFrom_object (fun v => ' ' :: indentedChars (level + 1) v)
        (isGap_newline (level + 1)) (isGap_newline level) hmembers
      rw [← indentedMembers_eq, memberChars] at hread
      simp only [List.cons_append, List.append_assoc] at hread
      rw [indentedChars]
      exact hread

/-- What a value is read from denotes it. -/
theorem ReadFrom.parse {v : Json} {cs : List Char} (h : ReadFrom v cs) :
    parse (String.ofList cs) = some v := by
  have hread := h (2 * cs.length + 2) [] (by omega) ends_nil
  rw [List.append_nil] at hread
  rw [Json.parse, String.toList_ofList, hread, Option.bind_some]
  rfl

/-- **A plain value is read back from its text without spaces.** -/
theorem parse_compact {v : Json} (h : IsPlain v) : parse v.compact = some v :=
  h.readFrom_compactChars.parse

/-- **A plain value is read back from its indented text.** -/
theorem parse_indented {v : Json} (h : IsPlain v) : parse v.indented = some v :=
  (h.readFrom_indentedChars 0).parse

end Json

end ClusterNet
