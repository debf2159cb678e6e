import ClusterNet.Json
import ClusterNet.Text.Decimal
import ClusterNet.Text.Order

/-!
# Looking into JSON values

## Main definitions

* `Json.at?` and its kin — the members of an object by their names;
* `Json.updated` — an object with some of its members replaced;
* `Json.sorted` — a value whose objects list their members in order;
* `Json.float?` — a number in floating point.
-/

namespace ClusterNet

namespace Json

/-! ### Parts -/

/-- The members of an object. Other values have none. -/
def members : Json → List (String × Json)
  | object members => members
  | _ => []

/-- The items of an array. Other values have none. -/
def items : Json → List Json
  | array items => items
  | _ => []

/-- A text. -/
def text? : Json → Option String
  | string s => some s
  | _ => none

/-- A truth value. -/
def bool? : Json → Option Bool
  | bool b => some b
  | _ => none

/-- An integer. -/
def integer? : Json → Option Int
  | integer n => some n
  | _ => none

/-- A member of an object, unless it is missing or null. -/
def at? (v : Json) (name : String) : Option Json :=
  match v.member? name with
  | some null => none
  | member => member

/-- A member that is a text. -/
def textAt? (v : Json) (name : String) : Option String := (v.at? name).bind text?

/-- A member that is a truth value. -/
def boolAt? (v : Json) (name : String) : Option Bool := (v.at? name).bind bool?

/-- A member that is an integer. -/
def integerAt? (v : Json) (name : String) : Option Int := (v.at? name).bind integer?

/-- A member that is a natural number. -/
def naturalAt? (v : Json) (name : String) : Option Nat := (v.integerAt? name).map Int.toNat

/-- The items of a member that is an array. -/
def itemsAt (v : Json) (name : String) : List Json := ((v.at? name).getD null).items

/-! ### Changes -/

/-- An object with some of its members replaced by those of another one. -/
def updated (v changes : Json) : Json :=
  object (changes.members.foldl
    (fun ms (c : String × Json) => ms.filter (fun m => m.1 != c.1) ++ [c]) v.members)

mutual

/-- The value with the members of all objects in the order of their names. -/
def sorted : Json → Json
  | .array vs => .array (sortedItems vs)
  | .object ms => .object ((sortedMembers ms).mergeSort fun a b => !Text.isBefore b.1 a.1)
  | v => v

/-- Values with the members of all objects in order. -/
def sortedItems : List Json → List Json
  | [] => []
  | v :: vs => sorted v :: sortedItems vs

/-- Members with the members of all objects within them in order. -/
def sortedMembers : List (String × Json) → List (String × Json)
  | [] => []
  | (k, v) :: ms => (k, sorted v) :: sortedMembers ms

end

/-! ### Numbers -/

/-- A number that is written with a fraction or an exponent, in floating point. -/
def floatOfText (s : String) : Float :=
  let (isNegative, cs) := match s.toList with
    | '-' :: cs => (true, cs)
    | cs => (false, cs)
  let isExponent (c : Char) : Bool := c == 'e' || c == 'E'
  let mantissa := cs.takeWhile fun c => !isExponent c
  let exponent := (cs.dropWhile fun c => !isExponent c).drop 1
  let whole := mantissa.takeWhile (· != '.')
  let fraction := (mantissa.dropWhile (· != '.')).drop 1
  let digits := (Text.number? 10 (whole ++ fraction)).getD 0
  let shift := (Text.integer? (String.ofList exponent)).getD 0 - (fraction.length : Int)
  let x := Float.ofScientific digits (shift < 0) shift.natAbs
  if isNegative then -x else x

/-- A number in floating point. -/
def float? : Json → Option Float
  | integer n => some (Float.ofInt n)
  | decimal s => some (floatOfText s)
  | _ => none

/-- A member that is a number, in floating point. -/
def floatAt? (v : Json) (name : String) : Option Float := (v.at? name).bind float?

end Json

end ClusterNet
