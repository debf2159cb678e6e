import ClusterNet.Text.Decimal
import ClusterNet.Yaml.Cursor
import ClusterNet.Yaml.Token

/-!
# Scalars in a YAML text

The readers of the three forms of scalars. Each takes a place in a text and yields the text of the
scalar and the place behind it.

## Main definitions

* `Cursor.plain?` — a scalar without marks;
* `Cursor.quoted?` — a scalar between quotes;
* `Cursor.block?` — a scalar as a block.
-/

namespace ClusterNet

namespace Yaml

namespace Cursor

/-! ### Plain scalars -/

/-- Whether the character ends a plain scalar between brackets or braces. -/
def isFlowMark (c : Char) : Bool := [',', '[', ']', '\x7b', '\x7d'].contains c

/-- The part of a plain scalar that lies ahead, up to a gap or the scalar's end. -/
def plainPart? (inFlow : Bool) : List Char → Option (List Char)
  | [] => some []
  | c :: rest =>
    if isSpace c || isBreak c then some []
    else if c == ':' && inFlow && rest.head?.any (fun n => isFlowMark n || n == '?') then none
    else if c == ':' && isGapAhead rest then some []
    else if inFlow && isFlowMark c then some []
    else (plainPart? inFlow rest).map (c :: ·)

/-- What was read of a plain scalar. -/
structure Plain where
  /-- Its text. -/
  text : List Char := []
  /-- The gap behind it, which is dropped at its end. -/
  gap : Fold := {}
deriving Repr, Inhabited

/-- The rest of a plain scalar. -/
def plainFrom? (inFlow : Bool) (margin : Nat) : (fuel : Nat) → Plain → Cursor →
    Option (Plain × Cursor)
  | 0, _, _ => none
  | fuel + 1, p, c =>
    if c.isAtDocumentMark || c.isAt '#' then some (p, c)
    else
      (plainPart? inFlow c.rest).bind fun part =>
        if part.isEmpty then some (p, c)
        else
          let p := { text := p.text ++ p.gap.text ++ part : Plain }
          let c := c.forward part.length
          if c.isAtAny fun x => isSpace x || isBreak x then
            (c.gap? margin (c.rest.length + 1) {}).bind fun (gap, c) =>
              if !inFlow && c.column < margin then some ({ p with gap }, c)
              else plainFrom? inFlow margin fuel { p with gap } c
          else some (p, c)

/-- The plain scalar ahead, whether a line break lies behind it, and the place behind both. -/
def plain? (inFlow : Bool) (margin : Nat) (c : Cursor) : Option (String × Bool × Cursor) :=
  (plainFrom? inFlow margin (c.rest.length + 1) {} c).map fun (p, c) =>
    (String.ofList p.text, !p.gap.breaks.isEmpty, c)

/-! ### Quoted scalars -/

/-- The character that a backslash and a character stand for. -/
def escapeOf? : Char → Option Char
  | '0' => some '\x00'
  | 'a' => some '\x07'
  | 'b' => some '\x08'
  | 't' | '\t' => some '\t'
  | 'n' => some '\n'
  | 'v' => some '\x0b'
  | 'f' => some '\x0c'
  | 'r' => some '\r'
  | 'e' => some '\x1b'
  | ' ' => some ' '
  | '"' => some '"'
  | '/' => some '/'
  | '\\' => some '\\'
  | 'N' => some '\u0085'
  | '_' => some '\u00a0'
  | 'L' => some '\u2028'
  | 'P' => some '\u2029'
  | _ => none

/-- The number of digits that give a character behind a backslash and a letter. -/
def escapeDigits? : Char → Option Nat
  | 'x' => some 2
  | 'u' => some 4
  | 'U' => some 8
  | _ => none

/-- The character that is given by so many digits. -/
def codePoint? (count : Nat) (cs : List Char) : Option Char :=
  if cs.length < count then none
  else
    (Text.number? 16 (cs.take count)).bind fun n =>
      if h : n.isValidChar then some (Char.ofNatAux n h) else none

/-- A part of a quoted scalar: its characters, what follows it, and whether it ends with a
backslash before a line break. -/
structure QuotedPart where
  /-- The characters. -/
  text : List Char := []
  /-- What follows. -/
  rest : List Char
  /-- Whether the line break that follows does not count. -/
  isJoined : Bool := false
deriving Repr, Inhabited

/-- A part with a character before it. -/
def QuotedPart.cons (c : Char) (p : QuotedPart) : QuotedPart := { p with text := c :: p.text }

/-- The part of a quoted scalar that lies ahead, up to a gap, the closing quote or the end. -/
def quotedPart? (isSingle : Bool) : (fuel : Nat) → List Char → Option QuotedPart
  | 0, _ => none
  | _ + 1, [] => some { rest := [] }
  | fuel + 1, c :: rest =>
    if isSpace c || isBreak c then some { rest := c :: rest }
    else if isSingle then
      if c == '\'' then
        match rest with
        | '\'' :: rest => (quotedPart? isSingle fuel rest).map (.cons '\'')
        | rest => some { rest := c :: rest }
      else (quotedPart? isSingle fuel rest).map (.cons c)
    else if c == '"' then some { rest := c :: rest }
    else if c == '\\' then
      match rest with
      | [] => none
      | e :: rest =>
        if isBreak e then some { rest := e :: rest, isJoined := true }
        else
          match escapeDigits? e with
          | some count =>
            (codePoint? count rest).bind fun x =>
              (quotedPart? isSingle fuel (rest.drop count)).map (.cons x)
          | none =>
            (escapeOf? e).bind fun x => (quotedPart? isSingle fuel rest).map (.cons x)
    else (quotedPart? isSingle fuel rest).map (.cons c)

/-- The rest of a quoted scalar, behind its opening quote. -/
def quotedFrom? (isSingle : Bool) : (fuel : Nat) → List Char → Cursor → Option (String × Cursor)
  | 0, _, _ => none
  | fuel + 1, text, c =>
    if c.isAtDocumentMark || c.isAtEnd then none
    else
      (quotedPart? isSingle (c.rest.length + 1) c.rest).bind fun part =>
        let c := c.forward (c.rest.length - part.rest.length)
        let text := text ++ part.text
        if c.isAt (if isSingle then '\'' else '"') then
          some (String.ofList text, c.forward 1)
        else
          let (start, c) := match part.isJoined, c.nextLine? with
            | true, some (_, c) => ({ breaks := [[]] : Fold }, c)
            | _, _ => ({}, c)
          if part.isJoined && c.isAt '"' then some (String.ofList text, c.forward 1)
          else
            (c.gap? 0 (c.rest.length + 1) start).bind fun (gap, c) =>
              quotedFrom? isSingle fuel (text ++ gap.text) c

/-- The quoted scalar whose opening quote lies ahead. -/
def quoted? (isSingle : Bool) (c : Cursor) : Option (String × Cursor) :=
  quotedFrom? isSingle (c.rest.length + 1) [] (c.forward 1)

/-! ### Blocks -/

/-- What becomes of the line breaks at the end of a block. -/
inductive Chomping where
  /-- All go. -/
  | strip
  /-- One stays. -/
  | clip
  /-- All stay. -/
  | keep
deriving DecidableEq, Repr, Inhabited

/-- The head of a block: what becomes of its last line breaks, and its indentation, if given. -/
structure BlockHead where
  /-- What becomes of the last line breaks. -/
  chomping : Chomping := .clip
  /-- The indentation, zero if it is not given. -/
  increment : Nat := 0
deriving Repr, Inhabited

/-- The chomping that a sign stands for. -/
def chompingOf? : Char → Option Chomping
  | '+' => some .keep
  | '-' => some .strip
  | _ => none

/-- The digit ahead; it must not be zero. A missing digit counts as zero. -/
def incrementAhead? (c : Cursor) : Option (Nat × Cursor) :=
  match c.rest with
  | x :: _ =>
    if Text.isDigit x then
      if x == '0' then none else some (x.toNat - 48, c.forward 1)
    else some (0, c)
  | [] => some (0, c)

/-- The sign ahead, if there is one. -/
def chompingAhead (c : Cursor) : Option Chomping × Cursor :=
  match c.rest.head?.bind chompingOf? with
  | some s => (some s, c.forward 1)
  | none => (none, c)

/-- The head of a block, and the place behind it: a sign and a digit in any order. -/
def blockHead? (c : Cursor) : Option (BlockHead × Cursor) :=
  match chompingAhead c with
  | (some chomping, c) => (incrementAhead? c).map fun (increment, c) => (⟨chomping, increment⟩, c)
  | (none, c) =>
    (incrementAhead? c).map fun (increment, c) =>
      if increment = 0 then ({}, c)
      else
        let (chomping, c) := chompingAhead c
        (⟨chomping.getD .clip, increment⟩, c)

/-- The blank lines ahead, the greatest column that was met in them, and the place behind them.
With an indentation of zero, which stands for an unknown one, all spaces are skipped. -/
def blankLines? (indent : Nat) : (fuel : Nat) → List (List Char) → (widest : Nat) → Cursor →
    Option (List (List Char) × Nat × Cursor)
  | 0, _, _, _ => none
  | fuel + 1, breaks, widest, c =>
    let spaces := (c.rest.takeWhile (· == ' ')).length
    let c := c.forward (if indent = 0 then spaces else min spaces (indent - c.column))
    let widest := max widest c.column
    if (indent = 0 || c.column < indent) && c.isAt '\t' then none
    else
      match c.nextLine? with
      | some (b, c) => blankLines? indent fuel (breaks ++ [b]) widest c
      | none => some (breaks, widest, c)

/-- What was read of a block. -/
structure Block where
  /-- Its text. -/
  text : List Char := []
  /-- The line break behind its last line. -/
  lineBreak : List Char := []
  /-- The blank lines behind that. -/
  blankLines : List (List Char) := []
  /-- Whether the last line starts with a space. -/
  isIndented : Bool := false
deriving Repr, Inhabited

/-- The rest of a block of a known indentation. -/
def blockFrom? (isLiteral : Bool) (indent : Nat) : (fuel : Nat) → Block → Cursor →
    Option (Block × Cursor)
  | 0, _, _ => none
  | fuel + 1, b, c =>
    if c.column != indent || c.isAtEnd then some (b, c)
    else
      let startsWithSpace := c.isAtAny isSpace
      let isFolded := !isLiteral && b.lineBreak == ['\n'] && !b.isIndented && !startsWithSpace
      let joint :=
        if isFolded then if b.blankLines.flatten.isEmpty then [' '] else [] else b.lineBreak
      let (line, c) := c.span fun x => !isBreak x
      let (lineBreak, c) := (c.nextLine?).getD ([], c)
      (blankLines? indent (c.rest.length + 1) [] 0 c).bind fun (blankLines, _, c) =>
        blockFrom? isLiteral indent fuel
          { text := b.text ++ joint ++ b.blankLines.flatten ++ line
            lineBreak, blankLines, isIndented := startsWithSpace } c

/-- The text of a block with its last line breaks as they are to be. -/
def Block.chomped (b : Block) : Chomping → List Char
  | .strip => b.text
  | .clip => b.text ++ b.lineBreak
  | .keep => b.text ++ b.lineBreak ++ b.blankLines.flatten

/-- The block whose sign lies ahead. -/
def block? (isLiteral : Bool) (margin : Nat) (c : Cursor) : Option (String × Cursor) :=
  (blockHead? (c.forward 1)).bind fun (head, c) =>
    c.restOfLine?.bind fun c =>
      let given := if head.increment = 0 then 0 else margin - 1 + head.increment
      (blankLines? given (c.rest.length + 1) [] 0 c).bind fun (blankLines, widest, c) =>
        let indent := if given = 0 then max (max widest margin) 1 else given
        (blockFrom? isLiteral indent (c.rest.length + 1) { blankLines } c).map fun (b, c) =>
          (String.ofList (b.chomped head.chomping), c)

end Cursor

end Yaml

end ClusterNet
