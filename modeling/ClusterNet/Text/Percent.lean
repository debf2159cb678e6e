import ClusterNet.Text.Base64

/-!
# Percent encoding

A byte that may not stand in an address for itself is written as `%` and two upper-case
hexadecimal digits.

## Main definitions

* `Text.percentEncoded` — a text with every byte written so that a class does not admit;
* `Text.formEncoded` — a text as part of a form, where a blank is written as `+`;
* `Text.form` — the pairs of a form, joined by `=` and `&`.
-/

namespace ClusterNet

namespace Text

/-- The upper-case hexadecimal digit of a value below sixteen. -/
def upperHexDigit (value : Nat) : Char :=
  if value < 10 then Char.ofNat (48 + value) else Char.ofNat (55 + value)

/-- A byte by its two digits. -/
def percentByte (b : UInt8) : List Char :=
  ['%', upperHexDigit (b.toNat / 16), upperHexDigit (b.toNat % 16)]

/-- A byte as itself if it is an ASCII character of the class, and by its digits otherwise. -/
def percentEncodedByte (isPlain : Char → Bool) (b : UInt8) : List Char :=
  if b.toNat < 128 && isPlain (Char.ofNat b.toNat) then [Char.ofNat b.toNat] else percentByte b

/-- A text in which only ASCII characters of a class stand for themselves. -/
def percentEncoded (isPlain : Char → Bool) (s : String) : List Char :=
  (bytes s).flatMap (percentEncodedByte isPlain)

/-- The characters that stand for themselves in a form. -/
def isFormPlain (c : Char) : Bool := c.isAlphanum || "*-._".toList.contains c

/-- A byte in a form. -/
def formEncodedByte (b : UInt8) : List Char :=
  if b.toNat = 32 then ['+'] else percentEncodedByte isFormPlain b

/-- A text in a form. -/
def formEncoded (s : String) : List Char := (bytes s).flatMap formEncodedByte

/-- The pairs of a form. -/
def form (fields : List (String × String)) : String :=
  String.ofList (['&'].intercalate (fields.map fun (name, value) =>
    formEncoded name ++ ['='] ++ formEncoded value))

end Text

end ClusterNet
