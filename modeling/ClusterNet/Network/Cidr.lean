import ClusterNet.Network.Address.Reading
import ClusterNet.Text.Blank

/-!
# Networks

A network is the block of addresses that share their leading bits. It is written as its first
address, a slash and the number of leading bits.

## Main definitions

* `Network.Cidr` — the networks; their first address has no bit set behind the leading ones;
* `Network.Cidr.parse` — the network that a text denotes, whatever host bits the text has;
* `Network.Cidr.address` — the address at an index, counted from either end.
-/

namespace ClusterNet

namespace Network

/-- A block of addresses that share their first `length` bits. -/
structure Cidr where
  /-- The first address. -/
  base : Address
  /-- The number of bits that the addresses share. -/
  length : Nat
  /-- No more bits are shared than there are. -/
  length_le : length ≤ base.family.width
  /-- The first address has no other bits set. -/
  aligned : base.value % powerOfTwo (base.family.width - length) = 0
deriving DecidableEq, Repr

/-- Why an operation on networks failed. -/
inductive CidrError where
  /-- The text does not denote a network. -/
  | invalid (text : String)
  /-- The network has no address at the index. -/
  | outOfRange (index : Int) (network : String)
  /-- The network has no room for addresses that DHCP hands out. -/
  | tooSmall (network : String)
deriving DecidableEq, Repr

/-- The wording of an error. -/
def CidrError.message : CidrError → String
  | .invalid text => s!"invalid CIDR '{text}': invalid IP address syntax"
  | .outOfRange index network => s!"index {index} is out of range for {network}"
  | .tooSmall network => s!"{network} is too small for a DHCP range"

namespace Cidr

/-- The number of bits in which the network's addresses differ. -/
def hostBits (n : Cidr) : Nat := n.base.family.width - n.length

/-- The number of addresses in the network. -/
def size (n : Cidr) : Nat := powerOfTwo n.hostBits

/-- The network as its first address and the number of leading bits. -/
def text (n : Cidr) : String := s!"{n.base.text}/{n.length}"

/-- The number without its last `bits` bits. -/
def withoutLow (bits value : Nat) : Nat := value - value % powerOfTwo bits

theorem withoutLow_mod (bits value : Nat) : withoutLow bits value % powerOfTwo bits = 0 := by
  have h := Nat.div_add_mod value (powerOfTwo bits)
  have : withoutLow bits value = powerOfTwo bits * (value / powerOfTwo bits) := by
    unfold withoutLow
    omega
  rw [this, Nat.mul_mod_right]

/-- The network of the addresses whose first `length` bits are those of `a`. -/
def around (a : Address) (length : Nat) (h : length ≤ a.family.width) : Cidr where
  base := ⟨a.family, withoutLow (a.family.width - length) a.value,
    Nat.lt_of_le_of_lt (Nat.sub_le _ _) a.value_lt⟩
  length := length
  length_le := h
  aligned := withoutLow_mod _ _

/-! ### Reading -/

/-- Read a slash and a number of leading bits, with nothing behind it, and give the network of
that many bits around the address with number `value`. -/
def behindAddress (family : Family) (maxDigits : Nat) (read : Nat × List Char) : Option Cidr :=
  (character '/' read.2).bind fun cs =>
    (number 10 maxDigits (family.width + 1) cs).bind fun (length, rest) =>
      if h : rest = [] ∧ read.1 < family.size ∧ length ≤ family.width then
        some (around ⟨family, read.1, h.2.1⟩ length h.2.2)
      else none

/-- The network that the characters denote. -/
def ofChars? (cs : List Char) : Option Cidr :=
  ((dottedAddress cs).bind (behindAddress .v4 2)).or
    ((groupedAddress cs).bind (behindAddress .v6 3))

/-- The network that a text denotes. Blanks around it and the host bits of its address do not
matter. -/
def parse (s : String) : Except CidrError Cidr :=
  match ofChars? (Text.trimList s.toList) with
  | some n => .ok n
  | none => .error (.invalid s)

/-! ### Addresses -/

/-- The number of addresses that can be told apart by an index: all of them, or one less than
2¹²⁷ in a network too large for that. -/
def indexable (n : Cidr) : Nat :=
  if 127 ≤ n.hostBits then powerOfTwo 127 - 1 else n.size

/-- The address `index` places behind the network's first one, or, for a negative index, as many
places before the end of its indexable addresses. -/
def address (n : Cidr) (index : Int) : Except CidrError Address :=
  let offset := if index < 0 then n.indexable + index else index
  if 0 ≤ offset ∧ offset < n.indexable then
    .ok (Address.ofNat n.base.family (n.base.value + offset.toNat))
  else .error (.outOfRange index n.text)

end Cidr

end Network

end ClusterNet
