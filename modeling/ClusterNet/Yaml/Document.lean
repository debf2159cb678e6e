import ClusterNet.Yaml.Node
import ClusterNet.Yaml.Token.Scan

/-!
# From tokens to a document

## Main definitions

* `Document.ofTokens?` — the document that tokens make, if they make exactly one;
* `Document.parse?` — the document that a text holds.

Each reader takes the tokens that lie ahead and leaves those that it has no use for.
-/

namespace ClusterNet

namespace Yaml

namespace Document

/-! ### Building -/

/-- What is known while a document is built. -/
structure Building where
  /-- The tokens ahead. -/
  tokens : List Token
  /-- What handles of tags stand for. -/
  handles : List (String × String) := []
  /-- The anchors so far. -/
  anchors : Anchors := {}
  /-- The size so far. -/
  size : Nat := 0
deriving Repr, Inhabited

/-- A part of the building of a document. -/
abbrev Build (α : Type) := StateT Building Option α

/-- The next token. -/
def peek : Build (Option Token) := do return (← get).tokens.head?

/-- Go on behind the next token. -/
def skip : Build Unit := modify fun b => { b with tokens := b.tokens.tail }

/-- Whether the next token is one of those given. -/
def isAhead (ts : List Token) : Build Bool := do
  match ← peek with
  | some t => return ts.contains t
  | none => return false

/-- Count so many parts of the document. -/
def count (n : Nat) : Build Unit := modify fun b => { b with size := b.size + n }

/-- A node that is missing. -/
def missing : Build Node := do
  count 1
  return .empty

/-! ### What stands before a node -/

/-- The anchor and the tag before a node. -/
structure Marks where
  /-- The name of the anchor. -/
  anchor : Option String := none
  /-- The tag as its handle and its suffix. -/
  tag : Option (String × String) := none
deriving Repr, Inhabited

/-- The anchor ahead. -/
def anchorAhead : Build (Option String) := do
  match ← peek with
  | some (.anchor name) => skip; return some name
  | _ => return none

/-- The tag ahead. -/
def tagAhead : Build (Option (String × String)) := do
  match ← peek with
  | some (.tag handle suffix) => skip; return some (handle, suffix)
  | _ => return none

/-- The anchor and the tag ahead, in any order. -/
def marks : Build Marks := do
  match ← anchorAhead with
  | some anchor => return { anchor, tag := ← tagAhead }
  | none =>
    match ← tagAhead with
    | some tag => return { anchor := ← anchorAhead, tag }
    | none => return {}

/-- A tag with its handle replaced by what it stands for. -/
def expanded : Option (String × String) → Build (Option String)
  | none => return none
  | some (handle, suffix) => do
    if handle.isEmpty then return some suffix
    else
      match (← get).handles.lookup handle with
      | some expansion => return some (expansion ++ suffix)
      | none => failure

/-- The place for an anchored node, once its anchor was met. -/
def openAnchor : Option String → Build (Option Nat)
  | none => return none
  | some name => do
    let b ← get
    let (place, anchors) := b.anchors.opened name
    set { b with anchors }
    return some place

/-- The node at its place. -/
def closeAnchor (place : Option Nat) (n : Node) : Build Node := do
  match place with
  | none => return n
  | some place =>
    modify fun b => { b with anchors := b.anchors.closed place n }
    return n

/-- The tag of a scalar that is written out. One that says nothing does not count. -/
def scalarTag : Option String → Option String
  | some "!" => none
  | tag => tag

/-! ### Nodes -/

/-- A node of which only the anchor or the tag is there. -/
def bare (place : Option Nat) (tag : Option String) : Build Node := do
  if place.isNone && tag.isNone then failure
  count 1
  closeAnchor place (.scalar ⟨"", .plain, tag⟩)

mutual

/-- The node ahead. In a block it may itself be a block, and behind a key it may be a list whose
dashes stand at the key's column. -/
def node (inBlock isUnindented : Bool) : (fuel : Nat) → Build Node
  | 0 => failure
  | fuel + 1 => do
    if let some (.alias name) ← peek then
      skip
      count 1
      match (← get).anchors.number? name with
      | some number => return .alias number
      | none => failure
    else
      let marks ← marks
      let tag ← expanded marks.tag
      let place ← openAnchor marks.anchor
      match ← peek with
      | some .blockEntry =>
        if isUnindented then
          count 2
          closeAnchor place (.sequence tag (← unindentedItems fuel))
        else bare place tag
      | some (.scalar text style) =>
        skip
        count 1
        closeAnchor place (.scalar ⟨text, style, scalarTag tag⟩)
      | some .flowSequenceStart =>
        skip
        count 2
        closeAnchor place (.sequence tag (← flowItems true fuel))
      | some .flowMappingStart =>
        skip
        count 2
        closeAnchor place (.mapping tag (← flowPairs true fuel))
      | some .blockSequenceStart =>
        if inBlock then
          skip
          count 2
          closeAnchor place (.sequence tag (← blockItems fuel))
        else bare place tag
      | some .blockMappingStart =>
        if inBlock then
          skip
          count 2
          closeAnchor place (.mapping tag (← blockPairs fuel))
        else bare place tag
      | _ => bare place tag

/-- The items of a list in a block, up to the block's end. -/
def blockItems : (fuel : Nat) → Build (List Node)
  | 0 => failure
  | fuel + 1 => do
    match ← peek with
    | some .blockEntry =>
      skip
      let item ← if ← isAhead [.blockEntry, .blockEnd] then missing else node true false fuel
      return item :: (← blockItems fuel)
    | some .blockEnd => skip; return []
    | _ => failure

/-- The items of a list whose dashes stand at a key's column. -/
def unindentedItems : (fuel : Nat) → Build (List Node)
  | 0 => failure
  | fuel + 1 => do
    match ← peek with
    | some .blockEntry =>
      skip
      let item ← if ← isAhead [.blockEntry, .key, .value, .blockEnd] then missing
        else node true false fuel
      return item :: (← unindentedItems fuel)
    | _ => return []

/-- The key or the value ahead in a block, or nothing. -/
def blockPart (fuel : Nat) : Build Node := do
  match fuel with
  | 0 => failure
  | fuel + 1 =>
    if ← isAhead [.key, .value, .blockEnd] then missing else node true true fuel

/-- The pairs of a mapping in a block, up to the block's end. -/
def blockPairs : (fuel : Nat) → Build (List (Node × Node))
  | 0 => failure
  | fuel + 1 => do
    match ← peek with
    | some .key =>
      skip
      let key ← blockPart fuel
      let value ← if ← isAhead [.value] then skip; blockPart fuel else missing
      return (key, value) :: (← blockPairs fuel)
    | some .blockEnd => skip; return []
    | _ => failure

/-- The items of a list between brackets, up to the closing one. -/
def flowItems (isFirst : Bool) : (fuel : Nat) → Build (List Node)
  | 0 => failure
  | fuel + 1 => do
    if ← isAhead [.flowSequenceEnd] then
      skip
      return []
    unless isFirst do
      if ← isAhead [.flowEntry] then skip else failure
    match ← peek with
    | some .flowSequenceEnd => skip; return []
    | some .key =>
      skip
      count 2
      let item ← flowPair fuel
      return item :: (← flowItems false fuel)
    | _ =>
      let item ← node false false fuel
      return item :: (← flowItems false fuel)

/-- A pair that is an item of a list between brackets. -/
def flowPair (fuel : Nat) : Build Node := do
  match fuel with
  | 0 => failure
  | fuel + 1 =>
    let key ← if ← isAhead [.value, .flowEntry, .flowSequenceEnd] then skip; missing
      else node false false fuel
    let value ← if ← isAhead [.value] then
        skip
        if ← isAhead [.flowEntry, .flowSequenceEnd] then missing else node false false fuel
      else missing
    return .mapping none [(key, value)]

/-- The pairs of a mapping between braces, up to the closing one. -/
def flowPairs (isFirst : Bool) : (fuel : Nat) → Build (List (Node × Node))
  | 0 => failure
  | fuel + 1 => do
    if ← isAhead [.flowMappingEnd] then
      skip
      return []
    unless isFirst do
      if ← isAhead [.flowEntry] then skip else failure
    match ← peek with
    | some .flowMappingEnd => skip; return []
    | some .key =>
      skip
      let key ← if ← isAhead [.value, .flowEntry, .flowMappingEnd] then missing
        else node false false fuel
      let value ← if ← isAhead [.value] then
          skip
          if ← isAhead [.flowEntry, .flowMappingEnd] then missing else node false false fuel
        else missing
      return (key, value) :: (← flowPairs false fuel)
    | _ =>
      let key ← node false false fuel
      let value ← missing
      return (key, value) :: (← flowPairs false fuel)

end

/-! ### Documents -/

/-- What handles stand for unless a directive says otherwise. -/
def commonHandles : List (String × String) := [("!", "!"), ("!!", "tag:yaml.org,2002:")]

/-- The directives ahead, after a version was seen or not, added to the handles before them. -/
def directives : (tokens : List Token) → (hasVersion : Bool) → List (String × String) →
    Option (List (String × String) × List Token)
  | .version major minor :: rest, hasVersion, handles =>
    if hasVersion || major != 1 || !(minor == 1 || minor == 2) then none
    else directives rest true handles
  | .handle name expansion :: rest, hasVersion, handles =>
    if (handles.lookup name).isSome then none
    else directives rest hasVersion ((name, expansion) :: handles)
  | tokens, _, handles => some (handles, tokens)

/-- Whether the token starts a document or a directive. -/
def isHead : Token → Bool
  | .version _ _ | .handle _ _ | .documentStart => true
  | _ => false

/-- The root behind a document mark, which may be missing. -/
def rootBehindMark (fuel : Nat) : Build Node := do
  match ← peek with
  | some .documentEnd | some .streamEnd => missing
  | some t => if isHead t then missing else node true false fuel
  | none => failure

/-- The only document that tokens make. -/
def ofTokens? (tokens : List Token) : Option Document := do
  let fuel := 3 * tokens.length + 3
  let head ← tokens.head?
  if head = .streamEnd then none
  let (root, b) ←
    if isHead head then
      match directives tokens false [] with
      | some (handles, .documentStart :: tokens) =>
        (rootBehindMark fuel).run { tokens, handles := handles ++ commonHandles }
      | _ => none
    else (node true false fuel).run { tokens, handles := commonHandles }
  if b.tokens.dropWhile (· == .documentEnd) == [.streamEnd] then
    some { root, anchors := b.anchors, size := b.size }
  else none

/-- The only document that a text holds. -/
def parse? (s : String) : Option Document := (Token.scan? s).bind ofTokens?

end Document

end Yaml

end ClusterNet
