import ClusterNet.Text.Decimal
import ClusterNet.Yaml.Cursor
import ClusterNet.Yaml.Token

/-!
# Names in a YAML text

The readers of anchors, tags and directives.

## Main definitions

* `Cursor.name?` — the name of an anchor;
* `Cursor.tag?` — a tag as a handle and a suffix;
* `Cursor.directive?` — a line that goes for the whole document.
-/

namespace ClusterNet

namespace Yaml

namespace Cursor

/-! ### Anchors -/

/-- Whether the character may follow the name of an anchor at once. -/
def endsName (c : Char) : Bool := ['?', ':', ',', ']', '\x7d', '%', '@', '\x60'].contains c

/-- The name ahead, behind its mark. -/
def name? (c : Cursor) : Option (String × Cursor) :=
  let (name, c) := (c.forward 1).span isWord
  if name.isEmpty || !(isGapAhead c.rest || c.isAtAny endsName) then none
  else some (String.ofList name, c)

/-! ### Tags -/

/-- Whether the character may stand in a tag. -/
def isTagChar (c : Char) : Bool :=
  isWord c || [';', '/', '?', ':', '@', '&', '=', '+', '$', '.', '!', '~', '*', '\'', '(', ')',
    '%'].contains c

/-- Whether the character may stand in a tag between angle brackets. -/
def isVerbatimChar (c : Char) : Bool := isTagChar c || [',', '[', ']'].contains c

/-- The number of octets of a character by the first of them. -/
def octetCount (first : Nat) : Nat :=
  if first < 0x80 then 1
  else if 0xc0 ≤ first && first < 0xe0 then 2
  else if 0xe0 ≤ first && first < 0xf0 then 3
  else if 0xf0 ≤ first && first < 0xf8 then 4
  else 0

/-- The octet ahead, as a percent sign and two digits. -/
def octet? : List Char → Option (Nat × List Char)
  | '%' :: a :: b :: rest => (Text.number? 16 [a, b]).map fun n => (n, rest)
  | _ => none

/-- Octets that continue a character, added to the bits before them. -/
def octetsFrom? : (count : Nat) → (bits : Nat) → List Char → Option (Nat × List Char)
  | 0, bits, cs => some (bits, cs)
  | count + 1, bits, cs =>
    (octet? cs).bind fun (n, cs) =>
      if n / 64 = 2 then octetsFrom? count (bits * 64 + n % 64) cs else none

/-- The character ahead, as octets. -/
def escapedChar? (cs : List Char) : Option (Char × List Char) :=
  (octet? cs).bind fun (first, cs) =>
    let first' := match octetCount first with
      | 2 => first % 32
      | 3 => first % 16
      | 4 => first % 8
      | _ => first
    match octetCount first with
    | 0 => none
    | count + 1 => (octetsFrom? count first' cs).map fun (n, cs) => (Char.ofNat n, cs)

/-- The characters of a tag that lie ahead, decoded, and what follows them. -/
def tagChars? (p : Char → Bool) : (fuel : Nat) → List Char → Option (List Char × List Char)
  | 0, _ => none
  | _ + 1, [] => some ([], [])
  | fuel + 1, c :: rest =>
    if !p c then some ([], c :: rest)
    else if c == '%' then
      (escapedChar? (c :: rest)).bind fun (x, rest) =>
        (tagChars? p fuel rest).map fun (xs, rest) => (x :: xs, rest)
    else (tagChars? p fuel rest).map fun (xs, rest) => (c :: xs, rest)

/-- The characters of a tag that lie ahead, and the place behind them. -/
def tagText? (p : Char → Bool) (c : Cursor) : Option (List Char × Cursor) :=
  (tagChars? p (c.rest.length + 1) c.rest).map fun (text, rest) =>
    (text, c.forward (c.rest.length - rest.length))

/-- A handle ahead: an exclamation mark and, if it follows a word, a second one. -/
def handleAhead? (c : Cursor) : Option (List Char × Cursor) :=
  if c.isAt '!' then
    let (word, c) := (c.forward 1).span isWord
    if c.isAt '!' then some ('!' :: word ++ ['!'], c.forward 1) else some ('!' :: word, c)
  else none

/-- A tag between angle brackets, behind its exclamation mark. -/
def verbatimTag? (c : Cursor) : Option ((List Char × List Char) × Cursor) :=
  (tagText? isVerbatimChar (c.forward 2)).bind fun (text, c) =>
    if text.isEmpty || !c.isAt '>' then none else some (([], text), c.forward 1)

/-- A tag of a handle and a suffix. What looks like a handle, but lacks its second exclamation
mark, belongs to the suffix. -/
def shorthandTag? (c : Cursor) : Option ((List Char × List Char) × Cursor) :=
  (handleAhead? c).bind fun (handle, c) =>
    (tagText? isTagChar c).bind fun (text, c) =>
      if 2 ≤ handle.length && handle.getLast? == some '!' then
        if text.isEmpty then none else some ((handle, text), c)
      else
        let suffix := handle.drop 1 ++ text
        some (if suffix.isEmpty then ([], ['!']) else (['!'], suffix), c)

/-- The tag ahead, as its handle and its suffix. -/
def tag? (inFlow : Bool) (c : Cursor) : Option (Token × Cursor) :=
  (if c.rest[1]? == some '<' then verbatimTag? c else shorthandTag? c).bind
    fun ((handle, suffix), c) =>
      if isGapAhead c.rest || (inFlow && c.isAt ',') then
        some (.tag (String.ofList handle) (String.ofList suffix), c)
      else none

/-! ### Directives -/

/-- The number ahead, of at most nine digits. -/
def versionNumber? (c : Cursor) : Option (Nat × Cursor) :=
  let (digits, c) := c.span Text.isDigit
  if 9 < digits.length then none else (Text.number? 10 digits).map fun n => (n, c)

/-- The version ahead: two numbers around a point. -/
def version? (c : Cursor) : Option (Token × Cursor) :=
  (versionNumber? (c.skipWhile isSpace)).bind fun (major, c) =>
    if c.isAt '.' then
      (versionNumber? (c.forward 1)).map fun (minor, c) => (.version major minor, c)
    else none

/-- The handle ahead and what it stands for. -/
def handle? (c : Cursor) : Option (Token × Cursor) :=
  (handleAhead? (c.skipWhile isSpace)).bind fun (name, c) =>
    if (name != ['!'] && (name.length < 2 || name.getLast? != some '!')) || !c.isAtAny isSpace then
      none
    else
      (tagText? isVerbatimChar (c.skipWhile isSpace)).bind fun (text, c) =>
        if text.isEmpty || !isGapAhead c.rest then none
        else some (.handle (String.ofList name) (String.ofList text), c)

/-- The directive ahead, to the end of its line. -/
def directive? (c : Cursor) : Option (Token × Cursor) :=
  let (name, c) := (c.forward 1).span isWord
  let token :=
    if !isGapAhead c.rest then none
    else if name == "YAML".toList then version? c
    else if name == "TAG".toList then handle? c
    else none
  token.bind fun (token, c) => c.restOfLine?.map fun c => (token, c)

end Cursor

end Yaml

end ClusterNet
