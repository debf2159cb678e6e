import ClusterNet.Json
import ClusterNet.OrderedMap

/-!
# Codecs

How the values of a type are written as JSON and read back.

## Main definitions

* `Codec` — a way to write and to read the values of a type;
* `Codec.text`, `Codec.bool`, `Codec.int64`, `Codec.list`, `Codec.nullable`, `Codec.map`,
  `Codec.choice` — codecs of the basic types;
* `Field` — a member of an object, with what holds when it is missing;
* `Record` — the members of an object in order, built from fields by `Record.nil`, `Record.field`
  and `Record.iso`.

## Conventions

A record is written as an object and may be read from an object or from an array of its members'
values in order. In an object each known member may stand at most once and unknown ones are
skipped; an array may end early if the members beyond its end may be missing, and it may not go on
behind the last member.
-/

namespace ClusterNet

/-- A way to write the values of a type as JSON and to read them. -/
structure Codec (α : Type) where
  /-- The value that stands for `a`. -/
  encode : α → Json
  /-- What a value stands for. -/
  decode : Json → Option α

namespace Codec

variable {α β : Type}

/-- The value that says nothing. -/
def unit : Codec Unit where
  encode _ := .null
  decode
    | .null => some ()
    | _ => none

/-- Texts. -/
def text : Codec String where
  encode := .string
  decode
    | .string s => some s
    | _ => none

/-- Truth values. -/
def bool : Codec Bool where
  encode := .bool
  decode
    | .bool b => some b
    | _ => none

/-- Integers of 64 bits, with a sign. -/
def int64 : Codec Int64 where
  encode n := .integer n.toInt
  decode
    | .integer n => if Int64.minValue.toInt ≤ n ∧ n ≤ Int64.maxValue.toInt then some (Int64.ofInt n) else none
    | _ => none

/-- Natural numbers below a bound. -/
def natBelow (bound : Nat) : Codec Nat where
  encode n := .integer n
  decode
    | .integer n => if 0 ≤ n ∧ n < bound then some n.toNat else none
    | _ => none

/-- Natural numbers of 64 bits. -/
def uint64 : Codec UInt64 where
  encode n := .integer n.toNat
  decode v := ((natBelow UInt64.size).decode v).map UInt64.ofNat

/-- Lists. -/
def list (c : Codec α) : Codec (List α) where
  encode vs := .array (vs.map c.encode)
  decode
    | .array vs => vs.mapM c.decode
    | _ => none

/-- Values that may be missing, which is written as `null`. -/
def nullable (c : Codec α) : Codec (Option α) where
  encode
    | none => .null
    | some a => c.encode a
  decode
    | .null => some none
    | v => (c.decode v).map some

/-- Maps, written as objects. A later member replaces an earlier one with its name. -/
def map (c : Codec α) : Codec (OrderedMap String α) where
  encode m := .object (m.entries.map fun (k, a) => (k, c.encode a))
  decode
    | .object ms =>
      (ms.mapM fun m : String × Json => (c.decode m.2).map fun a => (m.1, a)).map OrderedMap.ofList
    | _ => none

/-- Some values by their names. A name may also be read from an object that has `null` under it
and nothing else. -/
def choice (name : α → String) (values : List α) : Codec α where
  encode a := .string (name a)
  decode
    | .string s => values.find? fun a => name a == s
    | .object [(s, .null)] => values.find? fun a => name a == s
    | _ => none

/-- Values written as those of another type. -/
def iso (c : Codec α) (make : α → β) (back : β → α) : Codec β where
  encode b := c.encode (back b)
  decode v := (c.decode v).map make

end Codec

/-- A member of an object. -/
structure Field (α : Type) where
  /-- Its name. -/
  name : String
  /-- How its value is written. -/
  codec : Codec α
  /-- Its value in an object that lacks it. -/
  absent : Option α
  /-- Its value in an array that ends before it. -/
  beyond : Option α
  /-- Whether a value is left out when it is written. -/
  isOmitted : α → Bool

namespace Field

variable {α : Type}

/-- A member that must be there. -/
def required (name : String) (codec : Codec α) : Field α where
  name; codec; absent := none; beyond := none; isOmitted := fun _ => false

/-- A member that may be missing in an object, but not in an array. -/
def nullable (name : String) (codec : Codec α) : Field (Option α) where
  name; codec := codec.nullable; absent := some none; beyond := none; isOmitted := fun _ => false

/-- A member that may be missing, and is left out if there is no value. -/
def optional (name : String) (codec : Codec α) : Field (Option α) where
  name; codec := codec.nullable; absent := some none; beyond := some none
  isOmitted := Option.isNone

/-- A member that has a value of its own when it is missing. -/
def defaulted (name : String) (codec : Codec α) (value : α) : Field α where
  name; codec; absent := some value; beyond := some value; isOmitted := fun _ => false

/-- A list that is empty when it is missing. -/
def items (name : String) (codec : Codec α) : Field (List α) :=
  defaulted name codec.list []

/-- A list that is left out when it is empty. -/
def itemsIfAny (name : String) (codec : Codec α) : Field (List α) where
  name; codec := codec.list; absent := some []; beyond := some []; isOmitted := List.isEmpty

/-- The member as it is written, if it is. -/
def members (f : Field α) (a : α) : List (String × Json) :=
  if f.isOmitted a then [] else [(f.name, f.codec.encode a)]

/-- The member's value in an object. -/
def ofMembers (f : Field α) (ms : List (String × Json)) : Option α :=
  match Json.valuesOf f.name ms with
  | [] => f.absent
  | [v] => f.codec.decode v
  | _ => none

/-- The member's value at the head of the values that are left of an array. -/
def ofItems (f : Field α) : List Json → Option (α × List Json)
  | [] => f.beyond.map fun a => (a, [])
  | v :: vs => (f.codec.decode v).map fun a => (a, vs)

end Field

/-- The members of an object in order. -/
structure Record (α : Type) where
  /-- The members as they are written. -/
  members : α → List (String × Json)
  /-- What the members of an object stand for. -/
  ofMembers : List (String × Json) → Option α
  /-- What the first values of an array stand for, and the values behind them. -/
  ofItems : List Json → Option (α × List Json)

namespace Record

variable {α β : Type}

/-- No members. -/
def nil : Record Unit where
  members _ := []
  ofMembers _ := some ()
  ofItems vs := some ((), vs)

/-- One member and those that follow it. -/
def field (f : Field α) (r : Record β) : Record (α × β) where
  members ab := f.members ab.1 ++ r.members ab.2
  ofMembers ms := (f.ofMembers ms).bind fun a => (r.ofMembers ms).map fun b => (a, b)
  ofItems vs :=
    (f.ofItems vs).bind fun (a, vs) => (r.ofItems vs).map fun (b, vs) => ((a, b), vs)

/-- The members of one record and then those of another. -/
def append (r : Record α) (t : Record β) : Record (α × β) where
  members ab := r.members ab.1 ++ t.members ab.2
  ofMembers ms := (r.ofMembers ms).bind fun a => (t.ofMembers ms).map fun b => (a, b)
  ofItems vs :=
    (r.ofItems vs).bind fun (a, vs) => (t.ofItems vs).map fun (b, vs) => ((a, b), vs)

/-- The same members for another type. -/
def iso (r : Record α) (make : α → β) (back : β → α) : Record β where
  members b := r.members (back b)
  ofMembers ms := (r.ofMembers ms).map make
  ofItems vs := (r.ofItems vs).map fun (a, vs) => (make a, vs)

/-- A record as a JSON value. -/
def codec (r : Record α) : Codec α where
  encode a := .object (r.members a)
  decode
    | .object ms => r.ofMembers ms
    | .array vs => (r.ofItems vs).bind fun (a, rest) => if rest.isEmpty then some a else none
    | _ => none

/-- A record that is read from objects only. -/
def objectCodec (r : Record α) : Codec α where
  encode a := .object (r.members a)
  decode
    | .object ms => r.ofMembers ms
    | _ => none

end Record

end ClusterNet
