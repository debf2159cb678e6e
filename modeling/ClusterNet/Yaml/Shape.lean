import ClusterNet.Json
import ClusterNet.Yaml.Document
import ClusterNet.Yaml.Number

/-!
# From a document to a value

What a scalar stands for depends on what is asked for: where a text is asked for, every scalar is
one, and where nothing in particular is, a scalar without quotes may be a number or a word for
something else. A shape says what is asked for.

## Main definitions

* `Yaml.Shape` — what is asked for;
* `Shape.read` — a node as the value that is asked for;
* `Document.value?` — a document as the value that is asked for.

## Scope

A member of a record that nobody asks for is not looked at, except in an open record, where it is
read like any other value. Members that stand twice are kept.
-/

namespace ClusterNet

namespace Yaml

/-- What is asked for. -/
inductive Shape where
  /-- A text. -/
  | text
  /-- A text, or nothing. -/
  | optionalText
  /-- A truth value. -/
  | bool
  /-- A natural number. -/
  | natural
  /-- Anything. -/
  | any
  /-- A list. -/
  | list (item : Shape)
  /-- Some members, by their names. -/
  | record (members : List (String × Shape))
  /-- Some members, by their names, and any others. -/
  | openRecord (members : List (String × Shape))
deriving Repr, Inhabited

/-- The greatest depth of lists and mappings within one another. -/
def depthLimit : Nat := 128

/-! ### Scalars -/

/-- A tag of the common kinds. -/
def commonTag (name : String) : Option String := some ("tag:yaml.org,2002:" ++ name)

/-- Whether a scalar may be more than a text: it is plain, or a literal block with the right
tag. -/
def Scalar.isOpen (s : Scalar) (tag : String) : Bool :=
  s.style == .plain || (s.style == .literal && s.tag == commonTag tag)

/-- The truth value that a scalar stands for. -/
def Scalar.bool? (s : Scalar) : Option Bool :=
  if s.isOpen "bool" then truthValue? s.text else none

/-- The natural number that a scalar stands for. -/
def Scalar.natural? (s : Scalar) : Option Nat :=
  if s.isOpen "int" then Yaml.natural? s.text.toList else none

/-- The text that a scalar stands for, where there may be none. -/
def Scalar.optionalText? (s : Scalar) : Option (Option String) :=
  if s.style != .plain then some (some s.text)
  else if s.tag == commonTag "null" then if isNullWord s.text then some none else none
  else if s.tag.isSome then some (some s.text)
  else if s.text.isEmpty || isNullWord s.text then some none
  else some (some s.text)

/-- An integer that was read: it has a value of 64 bits, it is too great for that, or there is
none. -/
inductive IntegerReading where
  /-- A value. -/
  | value (n : Int)
  /-- A number of more than 64, but not more than 128 bits. -/
  | tooWide
  /-- No integer. -/
  | none
deriving DecidableEq, Repr, Inhabited

/-- The integer in a text. -/
def integer (cs : List Char) : IntegerReading :=
  match Yaml.natural? cs with
  | some n => if n < powerOfTwo 64 then .value n else if n < powerOfTwo 128 then .tooWide else .none
  | none =>
    match negative? cs with
    | some n => if n ≤ powerOfTwo 63 then .value (-n) else if n ≤ powerOfTwo 127 then .tooWide else .none
    | none => .none

/-- What a scalar without quotes and tag stands for. -/
def plainValue? (text : String) : Option Json :=
  if text.isEmpty || isNullWord text then some .null
  else
    match truthValue? text with
    | some b => some (.bool b)
    | none =>
      match integer text.toList with
      | .value n => some (.integer n)
      | .tooWide => none
      | .none =>
        if !hasLeadingZero text.toList && isDecimalNumber text then some (.decimal text)
        else some (.string text)

/-- What a scalar with a tag of the common kinds stands for. -/
def taggedValue? (text tag : String) : Option Json :=
  if some tag == commonTag "bool" then (truthValue? text).map .bool
  else if some tag == commonTag "int" then
    match integer text.toList with
    | .value n => some (.integer n)
    | _ => none
  else if some tag == commonTag "float" then
    if isDecimalNumber text then some (.decimal text) else none
  else if some tag == commonTag "null" then if isNullWord text then some .null else none
  else some (.string text)

/-- Whether a tag is one of the text's own. Nothing is known about its values. -/
def isOwnTag (tag : Option String) : Bool := tag.any fun t => t.toList.head? == some '!'

/-- What a scalar stands for. -/
def Scalar.value? (s : Scalar) : Option Json :=
  if isOwnTag s.tag then none
  else
    match s.tag with
    | some tag => taggedValue? s.text tag
    | none => if s.style == .plain then plainValue? s.text else some (.string s.text)

/-- The name in a value that is a key. -/
def nameOf : Json → String
  | .string s => s
  | _ => ""

/-! ### Nodes -/

/-- A part of the reading of a document. It keeps the number of aliases that may still be
followed. -/
abbrev Reading (α : Type) := StateT Nat Option α

/-- What can be read or not. -/
def readable {α : Type} (value : Option α) : Reading α := fun left => value.map fun a => (a, left)

/-- The node that a node stands for. -/
def resolve (anchors : Anchors) : Node → Reading Node
  | .alias number => fun left =>
    match left with
    | 0 => none
    | left + 1 => (anchors.node? number).map fun n => (n, left)
  | n => return n

/-- The name that a node is. -/
def readName (anchors : Anchors) (n : Node) : Reading String := do
  match ← resolve anchors n with
  | .scalar s => return s.text
  | _ => failure

/-- A node as the value that is asked for, at most `depth` lists and mappings deep. -/
def Shape.read (anchors : Anchors) : (depth : Nat) → Shape → Node → Reading Json
  | depth, shape, n => do
    match shape, ← resolve anchors n with
    | .text, .scalar s => return .string s.text
    | .optionalText, .scalar s =>
      return (← readable s.optionalText?).elim .null .string
    | .bool, .scalar s => return .bool (← readable s.bool?)
    | .natural, .scalar s => return .integer (← readable s.natural?)
    | .any, .scalar s => readable s.value?
    | .list item, .sequence _ items =>
      match depth with
      | 0 => failure
      | depth + 1 => return .array (← items.mapM (read anchors depth item))
    | .any, .sequence tag items =>
      match depth with
      | 0 => failure
      | depth + 1 =>
        if isOwnTag tag then failure
        return .array (← items.mapM (read anchors depth .any))
    | .record members, .mapping _ pairs =>
      match depth with
      | 0 => failure
      | depth + 1 =>
        let read' (pair : Node × Node) : Reading (Option (String × Json)) := do
          let name ← readName anchors pair.1
          match members.lookup name with
          | some shape => return some (name, ← read anchors depth shape pair.2)
          | none => return none
        return .object (← pairs.mapM read').reduceOption
    | .openRecord members, .mapping _ pairs =>
      match depth with
      | 0 => failure
      | depth + 1 =>
        let read' (pair : Node × Node) : Reading (String × Json) := do
          let name ← readName anchors pair.1
          return (name, ← read anchors depth ((members.lookup name).getD .any) pair.2)
        return .object (← pairs.mapM read')
    | .any, .mapping tag pairs =>
      match depth with
      | 0 => failure
      | depth + 1 =>
        if isOwnTag tag then failure
        let read' (pair : Node × Node) : Reading (String × Json) := do
          return (nameOf (← read anchors depth .any pair.1), ← read anchors depth .any pair.2)
        return .object (← pairs.mapM read')
    | .list _, n => if n.isEmpty then return .array [] else failure
    | .record _, n | .openRecord _, n => if n.isEmpty then return .object [] else failure
    | _, _ => failure

/-- A document as the value that is asked for. -/
def Document.value? (d : Document) (shape : Shape) : Option Json :=
  ((shape.read d.anchors depthLimit d.root).run d.aliasLimit).map Prod.fst

end Yaml

end ClusterNet
