/-!
# Bytes in letters

The bytes of a text, and base64: three bytes are written as four letters of six bits each, and
what is missing of the last three is marked by `=`.

## Main definitions

* `Text.bytes` — the UTF-8 bytes of a text;
* `Text.base64` — bytes in base64;
* `Text.isBase64` — whether letters are such a form.
-/

namespace ClusterNet

namespace Text

/-- The UTF-8 bytes of a text. -/
def bytes (s : String) : List UInt8 := s.toList.flatMap String.utf8EncodeChar

/-- The letter for a value below 64. -/
def base64Digit (value : Nat) : Char :=
  if value < 26 then Char.ofNat (65 + value)
  else if value < 52 then Char.ofNat (97 + (value - 26))
  else if value < 62 then Char.ofNat (48 + (value - 52))
  else if value = 62 then '+'
  else '/'

/-- The four letters for 24 bits. -/
def base64Letters (value : Nat) : List Char :=
  [base64Digit (value / 262144), base64Digit (value / 4096 % 64), base64Digit (value / 64 % 64),
    base64Digit (value % 64)]

/-- Bytes in base64. -/
def base64 : List UInt8 → List Char
  | [] => []
  | [a] => (base64Letters (a.toNat * 65536)).take 2 ++ ['=', '=']
  | [a, b] => (base64Letters (a.toNat * 65536 + b.toNat * 256)).take 3 ++ ['=']
  | a :: b :: c :: rest =>
    base64Letters (a.toNat * 65536 + b.toNat * 256 + c.toNat) ++ base64 rest

/-- Whether the character is one of the 64 letters. -/
def isBase64Digit (c : Char) : Bool := c.isAlphanum || c == '+' || c == '/'

/-- Whether the letters are in groups of four, with at most two marks and only at the end. -/
def isBase64 (cs : List Char) : Bool :=
  let marks := cs.reverse.takeWhile (· == '=')
  marks.length ≤ 2 && cs.length % 4 == 0 && (cs.take (cs.length - marks.length)).all isBase64Digit

end Text

end ClusterNet
