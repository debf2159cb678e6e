import ClusterNet.Json
import ClusterNet.Text.Decimal

/-!
# Reading JSON

## Main definitions

* `Json.parse` — the value that a text denotes, if it is well-formed JSON;
* `Json.textBody`, `Json.numberChars` — the readers of texts and numbers.

A reader takes the characters that lie ahead and yields what it read and what it left. Values
within values are followed as deep as the text has characters, which is as deep as they can go.
-/

namespace ClusterNet

namespace Json

/-- Whether the character may stand between the parts of a value. -/
def isSpace (c : Char) : Bool :=
  c == ' ' || c == '\n' || c == '\t' || c == '\r'

/-- What follows the spaces ahead. -/
def skipSpaces (cs : List Char) : List Char := cs.dropWhile isSpace

/-! ### Texts -/

/-- A part of a text: a character, or a number given by an escape. -/
inductive Piece where
  /-- A character that stands for itself. -/
  | char (c : Char)
  /-- A number that is a character, or half of a surrogate pair. -/
  | unit (n : Nat)
deriving DecidableEq, Repr

/-- The character that a backslash and a letter stand for. -/
def escapeOf? : Char → Option Char
  | '"' => some '"'
  | '\\' => some '\\'
  | '/' => some '/'
  | 'b' => some '\x08'
  | 'f' => some '\x0c'
  | 'n' => some '\n'
  | 'r' => some '\r'
  | 't' => some '\t'
  | _ => none

/-- The parts of a text up to its closing quote, and what follows the quote. -/
def textBody : List Char → Option (List Piece × List Char)
  | [] => none
  | '"' :: rest => some ([], rest)
  | '\\' :: 'u' :: a :: b :: c :: d :: rest =>
    (Text.number? 16 [a, b, c, d]).bind fun n =>
      (textBody rest).map fun (ps, rest) => (.unit n :: ps, rest)
  | '\\' :: c :: rest =>
    (escapeOf? c).bind fun c => (textBody rest).map fun (ps, rest) => (.char c :: ps, rest)
  | c :: rest =>
    if c.toNat < 0x20 || c == '\\' then none
    else (textBody rest).map fun (ps, rest) => (.char c :: ps, rest)

/-- The characters that the parts stand for: two halves of a surrogate pair make one. -/
def assemble : List Piece → Option (List Char)
  | [] => some []
  | .char c :: ps => (assemble ps).map (c :: ·)
  | .unit h :: .unit l :: ps =>
    if 0xd800 ≤ h && h ≤ 0xdbff then
      if 0xdc00 ≤ l && l ≤ 0xdfff then
        (assemble ps).map (Char.ofNat (0x10000 + (h - 0xd800) * 0x400 + (l - 0xdc00)) :: ·)
      else none
    else if 0xdc00 ≤ h && h ≤ 0xdfff then none
    else (assemble (.unit l :: ps)).map (Char.ofNat h :: ·)
  | .unit n :: ps =>
    if 0xd800 ≤ n && n ≤ 0xdfff then none else (assemble ps).map (Char.ofNat n :: ·)

/-! ### Numbers -/

/-- The digits ahead, at least one, and what follows them. -/
def digitsAhead (cs : List Char) : Option (List Char × List Char) :=
  let digits := cs.takeWhile Text.isDigit
  if digits.isEmpty then none else some (digits, cs.dropWhile Text.isDigit)

/-- The whole part of a number: a single zero, or digits that do not start with zero. -/
def wholePart (cs : List Char) : Option (List Char × List Char) :=
  match cs with
  | '0' :: rest => some (['0'], rest)
  | cs => digitsAhead cs

/-- The fraction ahead, if there is one. -/
def fractionPart (cs : List Char) : Option (List Char × List Char) :=
  match cs with
  | '.' :: rest => (digitsAhead rest).map fun (ds, rest) => ('.' :: ds, rest)
  | cs => some ([], cs)

/-- The exponent ahead, if there is one. -/
def exponentPart (cs : List Char) : Option (List Char × List Char) :=
  match cs with
  | [] => some ([], [])
  | e :: rest =>
    if e == 'e' || e == 'E' then
      match rest with
      | s :: rest' =>
        if s == '+' || s == '-' then
          (digitsAhead rest').map fun (ds, rest) => (e :: s :: ds, rest)
        else (digitsAhead rest).map fun (ds, rest) => (e :: ds, rest)
      | [] => none
    else some ([], e :: rest)

/-- The value of a number that is written with these parts. -/
def numberValue (isNegative : Bool) (whole tail : List Char) : Json :=
  let signed := if isNegative then '-' :: whole else whole
  if tail.isEmpty && !(isNegative && whole == ['0']) then
    let n := (Text.numberFrom? 10 0 whole).getD 0
    .integer (if isNegative then -(n : Int) else n)
  else .decimal (String.ofList (signed ++ tail))

/-- The number ahead. -/
def numberChars (cs : List Char) : Option (Json × List Char) :=
  let (isNegative, cs) := match cs with
    | '-' :: rest => (true, rest)
    | cs => (false, cs)
  (wholePart cs).bind fun (whole, cs) =>
    (fractionPart cs).bind fun (fraction, cs) =>
      (exponentPart cs).map fun (exponent, cs) =>
        (numberValue isNegative whole (fraction ++ exponent), cs)

/-! ### Values -/

/-- What follows the given characters, if they lie ahead. -/
def word (w : List Char) (cs : List Char) : Option (List Char) :=
  match w, cs with
  | [], cs => some cs
  | a :: w, c :: cs => if a = c then word w cs else none
  | _ :: _, [] => none

/-- An object of the given members, unless a name cannot be read. -/
def objectOf (members : List (Option (List Char) × Json)) : Json :=
  match members.mapM fun (k, v) => k.map fun k => (String.ofList k, v) with
  | some members => .object members
  | none => .unreadable

mutual

/-- The value ahead. -/
def valueAhead : (fuel : Nat) → List Char → Option (Json × List Char)
  | 0, _ => none
  | fuel + 1, cs =>
    match skipSpaces cs with
    | [] => none
    | '"' :: rest =>
      (textBody rest).map fun (ps, rest) =>
        (match assemble ps with
          | some s => .string (String.ofList s)
          | none => .unreadable, rest)
    | '[' :: rest =>
      match skipSpaces rest with
      | ']' :: rest => some (.array [], rest)
      | rest => (itemsAhead fuel rest).map fun (vs, rest) => (.array vs, rest)
    | '\x7b' :: rest =>
      match skipSpaces rest with
      | '\x7d' :: rest => some (.object [], rest)
      | rest => (membersAhead fuel rest).map fun (ms, rest) => (objectOf ms, rest)
    | 'n' :: rest => (word "ull".toList rest).map fun rest => (.null, rest)
    | 't' :: rest => (word "rue".toList rest).map fun rest => (.bool true, rest)
    | 'f' :: rest => (word "alse".toList rest).map fun rest => (.bool false, rest)
    | cs => numberChars cs

/-- The items of an array up to its closing bracket; at least one. -/
def itemsAhead : (fuel : Nat) → List Char → Option (List Json × List Char)
  | 0, _ => none
  | fuel + 1, cs =>
    (valueAhead fuel cs).bind fun (v, rest) =>
      match skipSpaces rest with
      | ',' :: rest => (itemsAhead fuel rest).map fun (vs, rest) => (v :: vs, rest)
      | ']' :: rest => some ([v], rest)
      | _ => none

/-- The members of an object up to its closing brace; at least one. -/
def membersAhead : (fuel : Nat) → List Char → Option (List (Option (List Char) × Json) × List Char)
  | 0, _ => none
  | fuel + 1, cs =>
    match skipSpaces cs with
    | '"' :: rest =>
      (textBody rest).bind fun (ps, rest) =>
        match skipSpaces rest with
        | ':' :: rest =>
          (valueAhead fuel rest).bind fun (v, rest) =>
            match skipSpaces rest with
            | ',' :: rest =>
              (membersAhead fuel rest).map fun (ms, rest) => ((assemble ps, v) :: ms, rest)
            | '\x7d' :: rest => some ([(assemble ps, v)], rest)
            | _ => none
        | _ => none
    | _ => none

end

/-- The value that a text denotes. -/
def parse (s : String) : Option Json :=
  let cs := s.toList
  (valueAhead (2 * cs.length + 2) cs).bind fun (v, rest) =>
    if (skipSpaces rest).isEmpty then some v else none

end Json

end ClusterNet
