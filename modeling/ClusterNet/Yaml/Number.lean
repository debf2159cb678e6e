import ClusterNet.PowerOfTwo
import ClusterNet.Text.Decimal

/-!
# Numbers and words in plain scalars

What a scalar without quotes stands for where no kind of value is asked for.

## Main definitions

* `Yaml.isNullWord`, `Yaml.truthValue?` — the words for nothing and for truth values;
* `Yaml.natural?`, `Yaml.negative?` — integers in four radices;
* `Yaml.isDecimalNumber` — numbers with a fraction or an exponent.

Digits behind a leading zero are a text and not a number.
-/

namespace ClusterNet

namespace Yaml

/-- Whether a text is a word for a missing value. -/
def isNullWord (s : String) : Bool := ["null", "Null", "NULL", "~"].contains s

/-- The truth value that a text is a word for. -/
def truthValue? (s : String) : Option Bool :=
  if ["true", "True", "TRUE"].contains s then some true
  else if ["false", "False", "FALSE"].contains s then some false
  else none

/-- The characters behind a sign, if there is one. -/
def behindSign : List Char → List Char
  | '+' :: cs | '-' :: cs => cs
  | cs => cs

/-- Whether digits stand behind a leading zero. -/
def hasLeadingZero (cs : List Char) : Bool :=
  match behindSign cs with
  | '0' :: c :: cs => (c :: cs).all Text.isDigit
  | _ => false

/-- The number that is written with a prefix for its radix. -/
def withRadix? : List Char → Option Nat
  | '0' :: 'x' :: digits => Text.number? 16 digits
  | '0' :: 'o' :: digits => Text.number? 8 digits
  | '0' :: 'b' :: digits => Text.number? 2 digits
  | _ => none

/-- The natural number that a text stands for. A plus sign may stand before it. -/
def natural? (cs : List Char) : Option Nat :=
  let digits := match cs with
    | '+' :: digits => digits
    | digits => digits
  match withRadix? digits with
  | some n => some n
  | none => if hasLeadingZero cs then none else Text.number? 10 digits

/-- The magnitude of the number that a text with a minus sign stands for. -/
def negative? : List Char → Option Nat
  | '-' :: digits =>
    match withRadix? digits with
    | some n => some n
    | none => if hasLeadingZero digits then none else Text.number? 10 digits
  | _ => none

/-! ### Numbers with a fraction or an exponent -/

/-- A decimal number: the digits of its mantissa and the power of ten that they count. -/
structure Decimal where
  /-- The digits as a number. -/
  digits : Nat
  /-- The power of ten. -/
  exponent : Int
deriving Repr, Inhabited

/-- The exponent in a text, if the text is empty or is one. -/
def exponent? : List Char → Option Int
  | [] => some 0
  | e :: cs =>
    if e == 'e' || e == 'E' then
      (Text.number? 10 (behindSign cs)).map fun n => if cs.head? == some '-' then -(n : Int) else n
    else none

/-- The decimal number that a text without a sign stands for. -/
def decimal? (cs : List Char) : Option Decimal :=
  let whole := cs.takeWhile Text.isDigit
  let rest := cs.dropWhile Text.isDigit
  let (fraction, rest) := match rest with
    | '.' :: rest => (rest.takeWhile Text.isDigit, rest.dropWhile Text.isDigit)
    | rest => ([], rest)
  (Text.number? 10 (whole ++ fraction)).bind fun digits =>
    (exponent? rest).map fun e => { digits, exponent := e - fraction.length }

/-- The least number that is rounded to infinity in binary floating point of 64 bits. -/
def floatLimit : Nat := powerOfTwo 1024 - powerOfTwo 970

/-- The number of decimal digits of `floatLimit`. -/
def floatLimitDigits : Nat := 309

/-- Whether the number has a value in binary floating point of 64 bits. -/
def Decimal.isFinite (d : Decimal) : Bool :=
  let length := (Nat.toDigits 10 d.digits).length
  if d.digits = 0 then true
  else if length + d.exponent < floatLimitDigits then true
  else if floatLimitDigits < length + d.exponent then false
  else
    match d.exponent with
    | .ofNat e => d.digits * Nat.pow 10 e < floatLimit
    | .negSucc e => d.digits < floatLimit * Nat.pow 10 (e + 1)

/-- Whether a text is a number with or without a fraction and an exponent, or a word for a number
that is infinite or none. -/
def isDecimalNumber (s : String) : Bool :=
  let unsigned := match s.toList with
    | '+' :: cs => if ['+', '-'].contains (cs.headD ' ') then [] else cs
    | cs => cs
  let magnitude := match unsigned with
    | '-' :: cs => cs
    | cs => cs
  [".inf", ".Inf", ".INF"].contains (String.ofList unsigned) ||
    ["-.inf", "-.Inf", "-.INF", ".nan", ".NaN", ".NAN"].contains s ||
    (decimal? magnitude).any Decimal.isFinite

end Yaml

end ClusterNet
