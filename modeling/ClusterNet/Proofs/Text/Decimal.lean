import ClusterNet.Text.Decimal
import Mathlib.Data.Nat.Digits.Defs

/-!
# Decimal digits read back

A number that was written in decimal digits is read as itself. The reader goes through the digits
from the front and knows the value of those behind it, so the law is one about every value that it
may start from.

## Main results

* `Text.number?_toDigits` — the digits of a number stand for it
* `Text.boundedDecimal?_toString` — so does its text, if the number is below the bound
-/

namespace ClusterNet

namespace Text

theorem isDigit_iff (c : Char) : isDigit c = true ↔ 48 ≤ c.toNat ∧ c.toNat ≤ 57 := by
  rw [isDigit, Bool.and_eq_true, decide_eq_true_eq, decide_eq_true_eq]

/-- The decimal digits of a number are digits. -/
theorem isDigit_of_mem_toDigits {n : Nat} {c : Char} (h : c ∈ Nat.toDigits 10 n) :
    isDigit c = true := by
  have hdigit : c.isDigit = true := Nat.isDigit_of_mem_toDigits (by decide) (by decide) h
  rw [Char.isDigit, Bool.and_eq_true, decide_eq_true_eq, decide_eq_true_eq] at hdigit
  exact (isDigit_iff c).mpr hdigit

/-- No number but zero starts with a zero. -/
theorem toDigits_ne_zero_cons {n : Nat} (hn : n ≠ 0) (cs : List Char) :
    Nat.toDigits 10 n ≠ '0' :: cs := by
  induction n using Nat.strong_induction_on generalizing cs with
  | _ n ih =>
    rw [Nat.toDigits_eq_if (by decide)]
    split
    · next hlt =>
      have hdigit : ∀ m < 10, m ≠ 0 → Nat.digitChar m ≠ '0' := by decide
      intro h
      exact hdigit n hlt hn (List.cons.inj h).1
    · next hle =>
      intro h
      cases hdigits : Nat.toDigits 10 (n / 10) with
      | nil => exact absurd hdigits Nat.toDigits_ne_nil
      | cons c ds =>
        rw [hdigits, List.cons_append] at h
        rw [(List.cons.inj h).1] at hdigits
        exact ih (n / 10) (by omega) (by omega) ds hdigits

theorem digitValue?_of_isDigit {c : Char} (h : isDigit c = true) :
    digitValue? 10 c = some (c.toNat - 48) := by
  obtain ⟨hlow, hhigh⟩ := (isDigit_iff c).mp h
  have hvalue : c.toNat - 48 < 10 := by omega
  simp only [digitValue?, hlow, hhigh, decide_true, Bool.and_self, if_true]
  rw [Option.filter_some, if_pos (decide_eq_true hvalue)]

/-- Reading goes on from the value of the digits before. -/
theorem numberFrom?_of_isDigit {cs : List Char} (h : ∀ c ∈ cs, isDigit c = true) (value : Nat) :
    numberFrom? 10 value cs = some (Nat.ofDigitChars 10 cs value) := by
  induction cs generalizing value with
  | nil => rw [numberFrom?, Nat.ofDigitChars_nil]
  | cons c cs ih =>
    have hrest : ∀ c' ∈ cs, isDigit c' = true := fun c' hmem => h c' (.tail c hmem)
    rw [numberFrom?, digitValue?_of_isDigit (h c (.head cs)), Option.bind_some, ih hrest,
      Nat.ofDigitChars_cons, Nat.mul_comm]
    rfl

theorem numberFrom?_toDigits (n : Nat) : numberFrom? 10 0 (Nat.toDigits 10 n) = some n := by
  rw [numberFrom?_of_isDigit fun c => isDigit_of_mem_toDigits, Nat.ofDigitChars_ten_toDigits]

/-- **The decimal digits of a number stand for it.** -/
theorem number?_toDigits (n : Nat) : number? 10 (Nat.toDigits 10 n) = some n := by
  have hne : (Nat.toDigits 10 n).isEmpty = false :=
    List.isEmpty_eq_false_iff.mpr Nat.toDigits_ne_nil
  rw [number?, hne, if_neg Bool.false_ne_true, numberFrom?_toDigits]

/-- **The text of a number is read as the number**, if that is below the bound. -/
theorem boundedDecimal?_toString {bound n : Nat} (h : n < bound) :
    boundedDecimal? bound (toString n).toList = some n := by
  have hdigits : (toString n).toList = Nat.toDigits 10 n := Nat.toList_repr
  have hsign : ∀ digits, Nat.toDigits 10 n ≠ '+' :: digits := by
    intro digits hplus
    have hdigit : isDigit '+' = true := isDigit_of_mem_toDigits (n := n) (by
      rw [hplus]
      exact .head digits)
    exact absurd hdigit (by decide)
  rw [hdigits, boundedDecimal?, number?_toDigits, Option.filter_some, if_pos (decide_eq_true h)]
  exact hsign

end Text

end ClusterNet
