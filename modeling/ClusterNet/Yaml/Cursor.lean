/-!
# Places in a YAML text

## Main definitions

* `Yaml.isBreak`, `Yaml.isSpace`, `Yaml.isWord`, `Yaml.isAllowed` — classes of characters;
* `Yaml.Cursor` — a place in a text, with what lies ahead;
* `Yaml.Fold`, `Yaml.Cursor.gap?` — the spaces and line breaks between two parts of a scalar, and
  what they are folded into.

A line ends with a line feed, a carriage return, both in this order, a next-line character, or a
line or paragraph separator. All but the last two count as a line feed.
-/

namespace ClusterNet

namespace Yaml

/-! ### Characters -/

/-- Whether the character ends a line. -/
def isBreak (c : Char) : Bool :=
  c == '\n' || c == '\r' || c == '\u0085' || c == '\u2028' || c == '\u2029'

/-- Whether the character is a space or a tab. -/
def isSpace (c : Char) : Bool := c == ' ' || c == '\t'

/-- Whether the character may stand in the name of an anchor. -/
def isWord (c : Char) : Bool :=
  let n := c.toNat
  (48 ≤ n && n ≤ 57) || (65 ≤ n && n ≤ 90) || (97 ≤ n && n ≤ 122) || c == '_' || c == '-'

/-- Whether the character may stand in a YAML text. -/
def isAllowed (c : Char) : Bool :=
  let n := c.toNat
  n == 9 || n == 10 || n == 13 || (0x20 ≤ n && n ≤ 0x7e) || n == 0x85 ||
    (0xa0 ≤ n && n ≤ 0xd7ff) || (0xe000 ≤ n && n ≤ 0xfffd) || 0x10000 ≤ n

/-- Whether a space, a line break or the end lies ahead. -/
def isGapAhead : List Char → Bool
  | [] => true
  | c :: _ => isSpace c || isBreak c

/-- The line break ahead, as it counts, and the number of its characters. -/
def breakAhead? : List Char → Option (List Char × Nat)
  | '\r' :: '\n' :: _ => some (['\n'], 2)
  | c :: _ =>
    if c == '\u2028' || c == '\u2029' then some ([c], 1)
    else if isBreak c then some (['\n'], 1)
    else none
  | [] => none

/-! ### Cursors -/

/-- A place in a text. -/
structure Cursor where
  /-- What lies ahead. -/
  rest : List Char
  /-- The number of characters that lie behind. -/
  index : Nat := 0
  /-- The number of lines that lie behind. -/
  line : Nat := 0
  /-- The number of characters behind it in its line. -/
  column : Nat := 0
deriving Repr, Inhabited

namespace Cursor

/-- Whether nothing lies ahead. -/
def isAtEnd (c : Cursor) : Bool := c.rest.isEmpty

/-- Whether the next character is the given one. -/
def isAt (c : Cursor) (x : Char) : Bool := c.rest.head? == some x

/-- Whether the next character is one of a class. -/
def isAtAny (c : Cursor) (p : Char → Bool) : Bool := c.rest.head?.any p

/-- Whether a space, a line break or the end follows the next `n` characters. -/
def isGapBehind (c : Cursor) (n : Nat) : Bool := isGapAhead (c.rest.drop n)

/-- The place behind the next `n` characters of the line. -/
def forward (c : Cursor) (n : Nat) : Cursor where
  rest := c.rest.drop n
  index := c.index + n
  line := c.line
  column := c.column + n

/-- The place behind the characters of a class. -/
def skipWhile (c : Cursor) (p : Char → Bool) : Cursor := c.forward (c.rest.takeWhile p).length

/-- The characters of a class that lie ahead, and the place behind them. -/
def span (c : Cursor) (p : Char → Bool) : List Char × Cursor :=
  (c.rest.takeWhile p, c.skipWhile p)

/-- The line break ahead, and the start of the next line. -/
def nextLine? (c : Cursor) : Option (List Char × Cursor) :=
  (breakAhead? c.rest).map fun (b, n) =>
    (b, { rest := c.rest.drop n, index := c.index + n, line := c.line + 1, column := 0 })

/-- The end of a comment, if one starts here. -/
def skipComment (c : Cursor) : Cursor :=
  if c.isAt '#' then c.skipWhile fun x => !isBreak x else c

/-- The end of the line, if nothing but spaces and a comment lies before it. -/
def restOfLine? (c : Cursor) : Option Cursor :=
  let c := (c.skipWhile isSpace).skipComment
  if c.isAtEnd then some c else c.nextLine?.map Prod.snd

/-- Whether the three given characters start the line and stand alone. -/
def isAtMarker (c : Cursor) (mark : Char) : Bool :=
  c.column == 0 && [mark, mark, mark].isPrefixOf c.rest && c.isGapBehind 3

/-- Whether the line starts or ends a document. -/
def isAtDocumentMark (c : Cursor) : Bool := c.isAtMarker '-' || c.isAtMarker '.'

end Cursor

/-! ### Folding -/

/-- The spaces and line breaks between two parts of a scalar. -/
structure Fold where
  /-- The spaces before the first line break. -/
  spaces : List Char := []
  /-- The line breaks. -/
  breaks : List (List Char) := []
deriving Repr, Inhabited

/-- What line breaks are folded into: a single one is a space, of several the first one is
dropped, unless it is a separator. -/
def foldBreaks : List (List Char) → List Char
  | [['\n']] => [' ']
  | ['\n'] :: breaks => breaks.flatten
  | breaks => breaks.flatten

/-- What a gap is folded into: spaces stay if no line break follows them. -/
def Fold.text (f : Fold) : List Char :=
  if f.breaks.isEmpty then f.spaces else foldBreaks f.breaks

/-- The gap ahead, added to what was read of it, and the place behind it. A line must not be
indented by tabs up to the margin. -/
def Cursor.gap? (margin : Nat) : (fuel : Nat) → Fold → Cursor → Option (Fold × Cursor)
  | 0, _, _ => none
  | fuel + 1, f, c =>
    match c.nextLine? with
    | some (b, c) => gap? margin fuel { f with breaks := f.breaks ++ [b] } c
    | none =>
      match c.rest with
      | [] => some (f, c)
      | x :: _ =>
        if isSpace x then
          if f.breaks.isEmpty then
            gap? margin fuel { f with spaces := f.spaces ++ [x] } (c.forward 1)
          else if x == '\t' && c.column < margin then none
          else gap? margin fuel f (c.forward 1)
        else some (f, c)

end Yaml

end ClusterNet
