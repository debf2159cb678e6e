import ClusterNet.Network.Address

/-!
# Reading addresses

Readers for the written forms of addresses. A reader takes the characters that lie ahead and
yields what it read and what it left, or nothing.

## Main definitions

* `Network.number` — a number of a radix with at most so many digits, below a bound;
* `Network.dottedAddress` — four decimal numbers with points between them;
* `Network.groupedAddress` — hexadecimal groups, with at most one `::` for a run of zero groups
  and possibly a dotted address in place of the last two groups.
-/

namespace ClusterNet

namespace Network

/-- Read one given character. -/
def character (c : Char) : List Char → Option (List Char)
  | [] => none
  | d :: rest => if d = c then some rest else none

/-- Read a number: all digits that lie ahead, at least one and at most `maxDigits` of them, with
a value below `bound`. -/
def number (radix maxDigits bound : Nat) (cs : List Char) : Option (Nat × List Char) :=
  let isDigit := fun c => (Text.digitValue? radix c).isSome
  let digits := cs.takeWhile isDigit
  if digits.length ≤ maxDigits then
    ((Text.number? radix digits).filter (· < bound)).map fun n => (n, cs.dropWhile isDigit)
  else none

/-- Read one of the four numbers of a dotted address. -/
def octet (cs : List Char) : Option (Nat × List Char) := number 10 3 256 cs

/-- Read `count` numbers, each behind a point, going on from a value. -/
def octetsAfter : (count value : Nat) → List Char → Option (Nat × List Char)
  | 0, value, cs => some (value, cs)
  | count + 1, value, cs =>
    (character '.' cs).bind fun cs => (octet cs).bind fun (o, cs) =>
      octetsAfter count (value * 256 + o) cs

/-- Read a dotted address as a number. -/
def dottedAddress (cs : List Char) : Option (Nat × List Char) :=
  (octet cs).bind fun (o, cs) => octetsAfter 3 o cs

/-- Leave a colon behind, unless nothing stands before it. -/
def separator (isFirst : Bool) (cs : List Char) : Option (List Char) :=
  if isFirst then some cs else character ':' cs

/-- Groups read so far, whether they end in a dotted address, and what is left. -/
abbrev Groups := List Nat × Bool × List Char

/-- Read up to `limit` groups, as many as lie ahead. A dotted address counts as two groups and
ends them. -/
def groupsAhead : (limit : Nat) → (isFirst : Bool) → List Char → Groups
  | 0, _, cs => ([], false, cs)
  | limit + 1, isFirst, cs =>
    let afterSeparator := separator isFirst cs
    match (if 0 < limit then afterSeparator.bind dottedAddress else none) with
    | some (n, rest) => ([n / 0x10000, n % 0x10000], true, rest)
    | none =>
      match afterSeparator.bind (number 16 4 0x10000) with
      | none => ([], false, cs)
      | some (g, rest) =>
        let (gs, isDotted, rest) := groupsAhead limit false rest
        (g :: gs, isDotted, rest)

/-- The number that groups stand for. -/
def ofGroups (gs : List Nat) : Nat :=
  gs.foldl (fun n g => n * 0x10000 + g) 0

/-- Read an address in groups as a number. Groups before `::` may not end in a dotted address. -/
def groupedAddress (cs : List Char) : Option (Nat × List Char) :=
  let (head, isDotted, rest) := groupsAhead 8 true cs
  if head.length = 8 then some (ofGroups head, rest)
  else if isDotted then none
  else
    (character ':' rest).bind fun rest => (character ':' rest).map fun rest =>
      let (tail, _, rest) := groupsAhead (8 - head.length) true rest
      (ofGroups (head ++ List.replicate (8 - head.length - tail.length) 0 ++ tail), rest)

end Network

end ClusterNet
