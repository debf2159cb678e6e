import ClusterNet.PowerOfTwo
import ClusterNet.Text.Decimal

/-!
# Internet addresses

An address is a number below the power of two that its family's width gives.

## Main definitions

* `Network.Family` — the two families, with the width of their addresses in bits and their number;
* `Network.Address` — the addresses, in the order of their families and numbers;
* `Network.Address.text` — an address as it is shown: four decimal numbers, or hexadecimal groups
  with the first longest run of zero groups left out.
-/

namespace ClusterNet

namespace Network

/-- The two families of internet addresses. -/
inductive Family where
  /-- Addresses of 32 bits. -/
  | v4
  /-- Addresses of 128 bits. -/
  | v6
deriving DecidableEq, Repr

/-- The number of bits in an address. -/
def Family.width : Family → Nat
  | .v4 => 32
  | .v6 => 128

/-- The number of addresses of a family. -/
def Family.size (f : Family) : Nat := powerOfTwo f.width

theorem Family.size_pos (f : Family) : 0 < f.size := powerOfTwo_pos f.width

/-- An internet address as a number. -/
structure Address where
  /-- The family it belongs to. -/
  family : Family
  /-- The number it stands for. -/
  value : Nat
  /-- The number fits the family's width. -/
  value_lt : value < family.size
deriving DecidableEq, Repr

namespace Address

/-- The address of a family whose number is `value`, taken modulo the size of the family. -/
def ofNat (family : Family) (value : Nat) : Address :=
  ⟨family, value % family.size, Nat.mod_lt _ family.size_pos⟩

@[simp] theorem family_ofNat (family : Family) (value : Nat) :
    (ofNat family value).family = family := rfl

theorem value_ofNat {family : Family} {value : Nat} (h : value < family.size) :
    (ofNat family value).value = value :=
  Nat.mod_eq_of_lt h

/-! ### Order -/

/-- The addresses of the first family come before those of the second, and those of one family in
the order of their numbers. -/
instance : LT Address where
  lt a b := a.family.width < b.family.width ∨ a.family = b.family ∧ a.value < b.value

instance : LE Address where
  le a b := a.family.width < b.family.width ∨ a.family = b.family ∧ a.value ≤ b.value

instance (a b : Address) : Decidable (a < b) := inferInstanceAs (Decidable (_ ∨ _))

instance (a b : Address) : Decidable (a ≤ b) := inferInstanceAs (Decidable (_ ∨ _))

/-! ### Text -/

/-- The last `count` parts of `bits` bits each, the highest first, in front of `rest`. -/
def partsFrom (bits : Nat) : (count : Nat) → Nat → List Nat → List Nat
  | 0, _, rest => rest
  | count + 1, n, rest =>
    partsFrom bits count (n / powerOfTwo bits) (n % powerOfTwo bits :: rest)

/-- A number as four decimal numbers with points between them. -/
def dotted (n : Nat) : List Char :=
  ['.'].intercalate ((partsFrom 8 4 n []).map (Nat.toDigits 10))

/-- The eight groups of a number of 128 bits. -/
def groups (n : Nat) : List Nat := partsFrom 16 8 n []

/-- The number of zero groups that a list starts with. -/
def zeroRun (gs : List Nat) : Nat := (gs.takeWhile (· == 0)).length

/-- The first longest run of zero groups, as its position and length. -/
def longestZeroRun : (position : Nat) → List Nat → Nat × Nat
  | _, [] => (0, 0)
  | position, g :: gs =>
    let later := longestZeroRun (position + 1) gs
    let here := zeroRun (g :: gs)
    if later.2 ≤ here ∧ 0 < here then (position, here) else later

/-- Hexadecimal groups with colons between them. -/
def colonSeparated (gs : List Nat) : List Char :=
  [':'].intercalate (gs.map Text.hex)

/-- Groups with a run of at least two zero groups, the first of the longest ones, left out. -/
def compressed (gs : List Nat) : List Char :=
  let (start, length) := longestZeroRun 0 gs
  if 1 < length then
    colonSeparated (gs.take start) ++ [':', ':'] ++ colonSeparated (gs.drop (start + length))
  else colonSeparated gs

/-- The address as it is shown. An address of the second family that stands for one of the first
is shown with that one's decimal numbers. -/
def text (a : Address) : String :=
  String.ofList <|
    match a.family with
    | .v4 => dotted a.value
    | .v6 =>
      if a.value / Family.v4.size = 0xffff then
        "::ffff:".toList ++ dotted (a.value % Family.v4.size)
      else compressed (groups a.value)

end Address

end Network

end ClusterNet
