/-!
# JSON values

## Main definitions

* `Json` — a JSON value; the members of an object are kept in the order in which they are written;
* `Json.member?` — the value of a member.

## Unreadable texts

A text may spell half of a surrogate pair, which is no character. Such a text is well-formed
JSON, and it can be skipped, but nothing can be read from it: it becomes `Json.unreadable`, and so
does an object with such a name.
-/

namespace ClusterNet

/-- A JSON value. -/
inductive Json where
  /-- The value `null`. -/
  | null
  /-- A truth value. -/
  | bool (value : Bool)
  /-- A number written without fraction and exponent, and not as `-0`. -/
  | integer (value : Int)
  /-- Any other number, as it is written. -/
  | decimal (text : String)
  /-- A text. -/
  | string (value : String)
  /-- A list of values. -/
  | array (items : List Json)
  /-- A list of named values. -/
  | object (members : List (String × Json))
  /-- A text or an object with a name that spells half of a surrogate pair. -/
  | unreadable
deriving Repr, Inhabited

namespace Json

/-- The values of all members with a name. -/
def valuesOf (name : String) (members : List (String × Json)) : List Json :=
  members.filterMap fun (k, v) => if k = name then some v else none

/-- The value of the last member with a name, if there is one. -/
def member? (name : String) : Json → Option Json
  | object members => (valuesOf name members).getLast?
  | _ => none

mutual

/-- Whether two values are written alike, up to spacing and spelling. -/
def same : Json → Json → Bool
  | .null, .null => true
  | .bool a, .bool b => a == b
  | .integer a, .integer b => a == b
  | .decimal a, .decimal b => a == b
  | .string a, .string b => a == b
  | .array as, .array bs => sameItems as bs
  | .object as, .object bs => sameMembers as bs
  | _, _ => false

/-- Whether two lists of values agree one by one. -/
def sameItems : List Json → List Json → Bool
  | [], [] => true
  | a :: as, b :: bs => same a b && sameItems as bs
  | _, _ => false

/-- Whether two lists of members agree one by one. -/
def sameMembers : List (String × Json) → List (String × Json) → Bool
  | [], [] => true
  | (k, a) :: as, (l, b) :: bs => k == l && same a b && sameMembers as bs
  | _, _ => false

end

end Json

end ClusterNet
