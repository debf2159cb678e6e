/-!
# Durations

A span of time in whole nanoseconds.

## Main definitions

* `Duration` — the spans, with `Duration.ofMillis` and `Duration.ofSeconds`;
* `Duration.text` — a span in the largest unit that gives a whole part.
-/

namespace ClusterNet

/-- A span of time. -/
structure Duration where
  /-- Its length in nanoseconds. -/
  nanoseconds : Nat
deriving DecidableEq, Repr, Inhabited

namespace Duration

/-- No time at all. -/
def zero : Duration := ⟨0⟩

/-- A span of whole milliseconds. -/
def ofMillis (n : Nat) : Duration := ⟨n * 1000000⟩

/-- A span of whole seconds. -/
def ofSeconds (n : Nat) : Duration := ⟨n * 1000000000⟩

/-- The whole milliseconds of a span. -/
def millis (d : Duration) : Nat := d.nanoseconds / 1000000

/-- One span after another. -/
def add (a b : Duration) : Duration := ⟨a.nanoseconds + b.nanoseconds⟩

/-- What is left of `a` after `b`, nothing if `b` is at least as long. -/
def sub (a b : Duration) : Duration := ⟨a.nanoseconds - b.nanoseconds⟩

/-- The shorter of two spans. -/
def min (a b : Duration) : Duration := ⟨Nat.min a.nanoseconds b.nanoseconds⟩

/-- Twice the span. -/
def double (d : Duration) : Duration := ⟨d.nanoseconds * 2⟩

@[simp] theorem nanoseconds_add (a b : Duration) :
    (a.add b).nanoseconds = a.nanoseconds + b.nanoseconds := rfl

@[simp] theorem nanoseconds_sub (a b : Duration) :
    (a.sub b).nanoseconds = a.nanoseconds - b.nanoseconds := rfl

/-! ### Text -/

/-- The decimal digits of a number, at least `width` of them. -/
def padded (width n : Nat) : List Char :=
  let digits := Nat.toDigits 10 n
  List.replicate (width - digits.length) '0' ++ digits

/-- A number of units given as a whole part and a fraction of `width` digits, without the
fraction's trailing zeros. -/
def unitText (whole fraction width : Nat) (unit : String) : String :=
  let digits := ((padded width fraction).reverse.dropWhile (· == '0')).reverse
  let point := if digits.isEmpty then [] else '.' :: digits
  String.ofList (Nat.toDigits 10 whole ++ point) ++ unit

/-- The span in the largest unit of `s`, `ms`, `µs` and `ns` that gives a whole part. -/
def text (d : Duration) : String :=
  let n := d.nanoseconds
  if 1000000000 ≤ n then unitText (n / 1000000000) (n % 1000000000) 9 "s"
  else if 1000000 ≤ n then unitText (n / 1000000) (n % 1000000) 6 "ms"
  else if 1000 ≤ n then unitText (n / 1000) (n % 1000) 3 "µs"
  else unitText n 0 0 "ns"

end Duration

end ClusterNet
