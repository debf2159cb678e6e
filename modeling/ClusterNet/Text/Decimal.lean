/-!
# Digits

Reading a number from the digits of a radix, and the hexadecimal digits of a number.

## Main definitions

* `Text.digitValue?` — the value of a digit in a radix up to sixteen;
* `Text.number?` — the number a non-empty list of digits stands for;
* `Text.decimal?` — a text of decimal digits as a number;
* `Text.hexDigit`, `Text.hex` — lower-case hexadecimal digits;
* `Text.numberedId` — an id made of a number.
-/

namespace ClusterNet

namespace Text

/-- The value of a digit, if it is a digit of the radix. Letters count in both cases. -/
def digitValue? (radix : Nat) (c : Char) : Option Nat :=
  let n := c.toNat
  let value :=
    if 48 ≤ n && n ≤ 57 then some (n - 48)
    else if 97 ≤ n && n ≤ 102 then some (n - 87)
    else if 65 ≤ n && n ≤ 70 then some (n - 55)
    else none
  value.filter (· < radix)

/-- The number that digits stand for, after `value` has been read before them. -/
def numberFrom? (radix : Nat) : (value : Nat) → List Char → Option Nat
  | value, [] => some value
  | value, c :: cs => (digitValue? radix c).bind fun d => numberFrom? radix (value * radix + d) cs

/-- The number that a non-empty list of digits stands for. -/
def number? (radix : Nat) (digits : List Char) : Option Nat :=
  if digits.isEmpty then none else numberFrom? radix 0 digits

/-- The number written in the decimal digits of a text. -/
def decimal? (s : String) : Option Nat :=
  number? 10 s.toList

/-- Whether the character is a decimal digit. -/
def isDigit (c : Char) : Bool :=
  48 ≤ c.toNat && c.toNat ≤ 57

/-- The integer written in a text: decimal digits behind at most one sign. -/
def integer? (s : String) : Option Int :=
  match s.toList with
  | '-' :: digits => (number? 10 digits).map fun n => -(n : Int)
  | '+' :: digits => (number? 10 digits).map fun n => (n : Int)
  | digits => (number? 10 digits).map fun n => (n : Int)

/-- A natural number below a bound, written in decimal digits behind at most one plus sign. -/
def boundedDecimal? (bound : Nat) (cs : List Char) : Option Nat :=
  (match cs with
    | '+' :: digits => number? 10 digits
    | digits => number? 10 digits).filter (· < bound)

/-- The lower-case hexadecimal digit of a value below sixteen. -/
def hexDigit (value : Nat) : Char :=
  if value < 10 then Char.ofNat (48 + value) else Char.ofNat (87 + value)

/-- The last `count` hexadecimal digits of a number, in front of `rest`. -/
def hexPadded : (count : Nat) → Nat → List Char → List Char
  | 0, _, rest => rest
  | count + 1, n, rest => hexPadded count (n / 16) (hexDigit (n % 16) :: rest)

/-- The number of hexadecimal digits a number is written with. -/
def hexLength (n : Nat) : Nat :=
  if n < 16 then 1 else hexLength (n / 16) + 1

/-- A number in as few hexadecimal digits as it takes. -/
def hex (n : Nat) : List Char :=
  hexPadded (hexLength n) n []

/-- An id that holds a number, counted from one, in the form of ids that are drawn at random. -/
def numberedId (n : Nat) : String :=
  "00000000-0000-4000-8000-" ++ String.ofList (hexPadded 12 (n + 1) [])

end Text

end ClusterNet
