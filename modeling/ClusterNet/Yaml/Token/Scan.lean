import ClusterNet.Yaml.Token.Name
import ClusterNet.Yaml.Token.Scalar

/-!
# From a YAML text to its tokens

## Main definitions

* `Yaml.SimpleKey` — a place that turns out to be a key if a colon follows;
* `Yaml.Scanner` — what is known at a place in the text;
* `Token.scan?` — the tokens of a text.

## Margins

The margin is the least column at which what belongs to the innermost block may stand: one more
than the column at which the block itself stands, and zero outside of all blocks. A block is
opened by an item or a key at or behind the margin, and closed by what stands before it. There are
no margins between brackets and braces.
-/

namespace ClusterNet

namespace Yaml

/-- A place that turns out to be a key if a colon follows in its line. -/
structure SimpleKey where
  /-- The number of tokens before it. -/
  number : Nat
  /-- Whether nothing but a key makes sense there. -/
  isRequired : Bool
  /-- The place. -/
  index : Nat
  /-- The line of the place. -/
  line : Nat
  /-- The column of the place. -/
  column : Nat
deriving Repr, Inhabited

/-- The greatest distance between the start of a key and its colon. -/
def keyLimit : Nat := 1024

/-- What is known at a place in a text. -/
structure Scanner where
  /-- The place. -/
  cursor : Cursor
  /-- The tokens so far. -/
  tokens : Array Token := #[]
  /-- The margin. -/
  margin : Nat := 0
  /-- The margins of the blocks around the innermost one. -/
  margins : List Nat := []
  /-- The possible key between the innermost brackets, and those around them. -/
  keys : List (Option SimpleKey) := [none]
  /-- Whether a key may start here. -/
  isKeyAllowed : Bool := true
deriving Repr, Inhabited

namespace Scanner

/-- Whether the place is between brackets or braces. -/
def inFlow (s : Scanner) : Bool := 2 ≤ s.keys.length

/-- The scanner with a further token. -/
def push (s : Scanner) (t : Token) : Scanner := { s with tokens := s.tokens.push t }

/-- The scanner with a further token and at a further place. -/
def pushAt (s : Scanner) (t : Token) (c : Cursor) : Scanner := { s.push t with cursor := c }

/-- The scanner behind a token of so many characters. -/
def pushMark (s : Scanner) (t : Token) (length : Nat) : Scanner :=
  s.pushAt t (s.cursor.forward length)

/-! ### Gaps -/

/-- The scanner at the next token. A new line may start with a key, but not between brackets. Tabs
do not count as spaces where a key may start. -/
def atNextToken? : (fuel : Nat) → Scanner → Option Scanner
  | 0, _ => none
  | fuel + 1, s =>
    let c := if s.cursor.index = 0 && s.cursor.isAt '\ufeff' then s.cursor.forward 1 else s.cursor
    let mayBeTab := s.inFlow || !s.isKeyAllowed
    let c := (c.skipWhile fun x => x == ' ' || (mayBeTab && x == '\t')).skipComment
    match c.nextLine? with
    | some (_, c) =>
      atNextToken? fuel { s with cursor := c, isKeyAllowed := !s.inFlow || s.isKeyAllowed }
    | none => some { s with cursor := c }

/-! ### Keys -/

/-- Whether the key can no longer be one. -/
def isStale (c : Cursor) (k : SimpleKey) : Bool :=
  k.line < c.line || k.index + keyLimit < c.index

/-- The possible keys that are still possible at a place, unless a required one is not. -/
def freshKeys? (c : Cursor) (keys : List (Option SimpleKey)) : Option (List (Option SimpleKey)) :=
  keys.mapM fun
    | some k => if isStale c k then if k.isRequired then none else some none else some (some k)
    | none => some none

/-- The scanner without the keys that can no longer be one. -/
def withFreshKeys? (s : Scanner) : Option Scanner :=
  (freshKeys? s.cursor s.keys).map fun keys => { s with keys }

/-- The scanner with another possible key between the innermost brackets. The one before must not
be required. -/
def replaceKey? (s : Scanner) (key : Option SimpleKey) : Option Scanner :=
  match s.keys with
  | some k :: keys => if k.isRequired then none else some { s with keys := key :: keys }
  | _ :: keys => some { s with keys := key :: keys }
  | [] => none

/-- The scanner without a possible key between the innermost brackets. -/
def dropKey? (s : Scanner) : Option Scanner := s.replaceKey? none

/-- The scanner with this place as a possible key, if one may start here. -/
def saveKey? (s : Scanner) : Option Scanner :=
  if s.isKeyAllowed then
    let c := s.cursor
    s.replaceKey? (some {
      number := s.tokens.size, isRequired := !s.inFlow && s.margin == c.column + 1
      index := c.index, line := c.line, column := c.column })
  else some s

/-! ### Blocks -/

/-- The scanner with a block opened at a column, if it is not inside of one already; its token is
put behind the given number of tokens. -/
def openBlock (s : Scanner) (column number : Nat) (t : Token) : Scanner :=
  if !s.inFlow && s.margin ≤ column then
    { s with
      margins := s.margin :: s.margins, margin := column + 1
      tokens := s.tokens.insertIdxIfInBounds number t }
  else s

/-- The margin, the margins around it and the tokens when all blocks beyond `limit` are closed. -/
def closed (limit : Nat) : (margin : Nat) → (margins : List Nat) → Array Token →
    Nat × List Nat × Array Token
  | margin, [], tokens => (margin, [], tokens)
  | margin, m :: ms, tokens =>
    if limit < margin then closed limit m ms (tokens.push .blockEnd)
    else (margin, m :: ms, tokens)

/-- The scanner with all blocks closed that reach beyond `limit`. -/
def closeBlocks (s : Scanner) (limit : Nat) : Scanner :=
  if s.inFlow then s
  else
    let (margin, margins, tokens) := closed limit s.margin s.margins s.tokens
    { s with margin, margins, tokens }

/-! ### Tokens -/

/-- The scanner with everything closed that a document mark or a directive closes. -/
def closeDocument? (s : Scanner) : Option Scanner :=
  (s.closeBlocks 0).dropKey?.map fun s => { s with isKeyAllowed := false }

/-- A mark between documents. -/
def documentMark? (s : Scanner) (t : Token) : Option Scanner :=
  s.closeDocument?.map fun s => s.pushMark t 3

/-- An opening bracket or brace. -/
def openFlow? (s : Scanner) (t : Token) : Option Scanner :=
  s.saveKey?.map fun s =>
    { s with keys := none :: s.keys, isKeyAllowed := true }.pushMark t 1

/-- A closing bracket or brace. -/
def closeFlow? (s : Scanner) (t : Token) : Option Scanner :=
  s.dropKey?.map fun s =>
    let keys := if s.inFlow then s.keys.tail else s.keys
    { s with keys, isKeyAllowed := false }.pushMark t 1

/-- A comma. -/
def flowEntry? (s : Scanner) : Option Scanner :=
  s.dropKey?.map fun s => { s with isKeyAllowed := true }.pushMark .flowEntry 1

/-- A dash before an item. -/
def blockEntry? (s : Scanner) : Option Scanner :=
  if !s.inFlow && !s.isKeyAllowed then none
  else
    (s.openBlock s.cursor.column s.tokens.size .blockSequenceStart).dropKey?.map fun s =>
      { s with isKeyAllowed := true }.pushMark .blockEntry 1

/-- A question mark before a key. -/
def key? (s : Scanner) : Option Scanner :=
  if !s.inFlow && !s.isKeyAllowed then none
  else
    (s.openBlock s.cursor.column s.tokens.size .blockMappingStart).dropKey?.map fun s =>
      { s with isKeyAllowed := !s.inFlow }.pushMark .key 1

/-- A colon before a value. If there is a possible key, it is one. -/
def value? (s : Scanner) : Option Scanner :=
  match s.keys with
  | some k :: keys =>
    let s := { s with tokens := s.tokens.insertIdxIfInBounds k.number .key }
    let s := s.openBlock k.column k.number .blockMappingStart
    some ({ s with keys := none :: keys, isKeyAllowed := false }.pushMark .value 1)
  | _ =>
    if !s.inFlow && !s.isKeyAllowed then none
    else
      let s := s.openBlock s.cursor.column s.tokens.size .blockMappingStart
      some ({ s with isKeyAllowed := !s.inFlow }.pushMark .value 1)

/-- A token that may be a key or belong to one. -/
def keyPart? (s : Scanner) (read : Cursor → Option (Token × Cursor)) : Option Scanner :=
  s.saveKey?.bind fun s =>
    (read s.cursor).map fun (t, c) => { s with isKeyAllowed := false }.pushAt t c

/-- A plain scalar. Behind it a key may start if a line break lies between. -/
def plain? (s : Scanner) : Option Scanner :=
  s.saveKey?.bind fun s =>
    (s.cursor.plain? s.inFlow s.margin).map fun (text, isAtNewLine, c) =>
      { s with isKeyAllowed := isAtNewLine }.pushAt (.scalar text .plain) c

/-- A block scalar. -/
def block? (s : Scanner) (isLiteral : Bool) : Option Scanner :=
  s.dropKey?.bind fun s =>
    (s.cursor.block? isLiteral s.margin).map fun (text, c) =>
      { s with isKeyAllowed := true }.pushAt
        (.scalar text (if isLiteral then .literal else .folded)) c

/-- Whether the character cannot start a plain scalar. -/
def isIndicator (c : Char) : Bool :=
  ['-', '?', ':', ',', '[', ']', '\x7b', '\x7d', '#', '&', '*', '!', '|', '>', '\'', '"', '%', '@',
    '\x60'].contains c

/-- Whether a plain scalar starts here. -/
def isAtPlain (s : Scanner) : Bool :=
  match s.cursor.rest with
  | [] => false
  | c :: rest =>
    !(isSpace c || isBreak c || isIndicator c) ||
      (c == '-' && !rest.head?.any isSpace) ||
      (!s.inFlow && (c == '?' || c == ':') && !isGapAhead rest)

/-- A token that starts with a character. -/
def tokenAt? (s : Scanner) (x : Char) : Option Scanner :=
  let isAlone := s.cursor.isGapBehind 1
  match x with
  | '[' => s.openFlow? .flowSequenceStart
  | '\x7b' => s.openFlow? .flowMappingStart
  | ']' => s.closeFlow? .flowSequenceEnd
  | '\x7d' => s.closeFlow? .flowMappingEnd
  | ',' => s.flowEntry?
  | '*' => s.keyPart? fun c => c.name?.map fun (name, c) => (.alias name, c)
  | '&' => s.keyPart? fun c => c.name?.map fun (name, c) => (.anchor name, c)
  | '!' => s.keyPart? fun c => c.tag? s.inFlow
  | '\'' => s.keyPart? fun c => (c.quoted? true).map fun (text, c) => (.scalar text .quoted, c)
  | '"' => s.keyPart? fun c => (c.quoted? false).map fun (text, c) => (.scalar text .quoted, c)
  | _ =>
    if x == '-' && isAlone then s.blockEntry?
    else if x == '?' && (s.inFlow || isAlone) then s.key?
    else if x == ':' && (s.inFlow || isAlone) then s.value?
    else if x == '|' && !s.inFlow then s.block? true
    else if x == '>' && !s.inFlow then s.block? false
    else if s.isAtPlain then s.plain?
    else none

/-- The end of the text. -/
def finish? (s : Scanner) : Option Scanner :=
  s.closeDocument?.map fun s => s.push .streamEnd

/-- All further tokens. -/
def run? : (fuel : Nat) → Scanner → Option Scanner
  | 0, _ => none
  | fuel + 1, s =>
    (s.atNextToken? (s.cursor.rest.length + 1)).bind fun s =>
      s.withFreshKeys?.bind fun s =>
        let c := s.cursor
        let s := s.closeBlocks (c.column + 1)
        match c.rest with
        | [] => s.finish?
        | x :: _ =>
          let next :=
            if c.column = 0 && x == '%' then
              s.closeDocument?.bind fun s => c.directive?.map fun (t, c) => s.pushAt t c
            else if c.isAtMarker '-' then s.documentMark? .documentStart
            else if c.isAtMarker '.' then s.documentMark? .documentEnd
            else s.tokenAt? x
          next.bind (run? fuel)

end Scanner

/-- The tokens of a text, if it is well-formed as far as tokens go. -/
def Token.scan? (s : String) : Option (List Token) :=
  let cs := s.toList
  if cs.all isAllowed then
    (Scanner.run? (cs.length + 1) { cursor := { rest := cs } }).map fun s => s.tokens.toList
  else none

end Yaml

end ClusterNet
