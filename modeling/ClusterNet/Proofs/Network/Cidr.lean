import ClusterNet.Network.Cidr
import Mathlib.Tactic.Ring

/-!
# Addresses by their index

An index counts the addresses of a network from the first one, or, if it is negative, from the end.
Indices are integers of 128 bits with a sign, and so is the number of addresses that they are
compared with. Two sizes do not fit: that of a network with 127 bits for its hosts, and that of the
network of everything. Both are taken to be the greatest integer that fits.

So the address at an index is the one that it should be, *except in these two networks*, and there
except for the indices from zero on that are below that greatest integer.

## Main definitions

* `Cidr.IsIndex` — the integers that can be an index
* `Cidr.Gives` — the place of the address at an index
* `Cidr.ExactAt` — whether the address at an index is the one that it should be

## Main results

* `Cidr.gives_iff`, `Cidr.address_eq_error_iff` — what the address at an index is, in places
* `Cidr.exactAt_iff` — where it is the one that it should be, and what it is elsewhere
-/

namespace ClusterNet

namespace Network

namespace Cidr

/-- The integers that can be an index: those of 128 bits with a sign. -/
def IsIndex (index : Int) : Prop := -powerOfTwo 127 ≤ index ∧ index < powerOfTwo 127

instance (index : Int) : Decidable (IsIndex index) := inferInstanceAs (Decidable (_ ∧ _))

/-- Whether the address at an index is so many places behind the first one. -/
def Gives (n : Cidr) (index places : Int) : Prop :=
  ∃ a, n.address index = .ok a ∧ a.family = n.base.family ∧ (a.value : Int) = n.base.value + places

/-- Whether the address at an index is the one that it should be: the indices from zero on count
from the first address and the negative ones from the end, so that `-1` is the last address of the
network, and there is none at any other index. -/
structure ExactAt (n : Cidr) (index : Int) : Prop where
  /-- From the first address on. -/
  forward : 0 ≤ index → index < n.size → n.Gives index index
  /-- Back from the end. -/
  backward : -n.size ≤ index → index < 0 → n.Gives index (n.size + index)
  /-- Out of range. -/
  outside : index < -n.size ∨ n.size ≤ index → n.address index = .error (.outOfRange index n.text)

variable (n : Cidr)

/-! ### Sizes -/

/-- The addresses of a family make up as many networks of one size as there are leading bits. -/
theorem family_size_eq : n.base.family.size = powerOfTwo n.length * n.size := by
  have hwidth : n.length + n.hostBits = n.base.family.width := Nat.add_sub_of_le n.length_le
  rw [Family.size, ← hwidth, powerOfTwo_add, size]

/-- No address of a network lies beyond those of its family. -/
theorem value_add_lt {places : Nat} (h : places < n.size) :
    n.base.value + places < n.base.family.size := by
  obtain ⟨block, hblock⟩ : n.size ∣ n.base.value := Nat.dvd_of_mod_eq_zero n.aligned
  have hlt : n.size * block < n.size * powerOfTwo n.length := by
    rw [← hblock, Nat.mul_comm, ← n.family_size_eq]
    exact n.base.value_lt
  have hnext : block + 1 ≤ powerOfTwo n.length := Nat.lt_of_mul_lt_mul_left hlt
  calc n.base.value + places < n.size * block + n.size := by omega
    _ = n.size * (block + 1) := by ring
    _ ≤ n.size * powerOfTwo n.length := Nat.mul_le_mul_left _ hnext
    _ = n.base.family.size := by rw [n.family_size_eq, Nat.mul_comm]

theorem size_pos : 0 < n.size := powerOfTwo_pos n.hostBits

/-- A network is small enough for all of its indices, or it has one of the two greatest sizes. -/
theorem indexable_cases :
    (n.hostBits < 127 ∧ n.indexable = n.size) ∨
      (127 ≤ n.hostBits ∧ n.indexable = powerOfTwo 127 - 1 ∧
        (n.size = powerOfTwo 127 ∨ n.size = 2 * powerOfTwo 127)) := by
  have hle : n.hostBits ≤ 128 := by
    have hwidth : n.base.family.width ≤ 128 := by cases n.base.family <;> decide
    exact (Nat.sub_le _ _).trans hwidth
  rw [indexable]
  split
  · next hlarge =>
    refine .inr ⟨hlarge, rfl, ?_⟩
    have hbits : n.hostBits = 127 ∨ n.hostBits = 128 := by omega
    rcases hbits with hbits | hbits
    · exact .inl (congrArg powerOfTwo hbits)
    · refine .inr ?_
      rw [size, hbits, powerOfTwo_succ, Nat.mul_comm]
  · next hsmall => exact .inl ⟨Nat.lt_of_not_le hsmall, rfl⟩

theorem indexable_le_size : n.indexable ≤ n.size := by
  rcases n.indexable_cases with ⟨-, h⟩ | ⟨-, h, hsize⟩ <;> omega

/-! ### Places -/

/-- The place that an index stands for. -/
def place (index : Int) : Int := if index < 0 then n.indexable + index else index

theorem address_eq (index : Int) : n.address index =
    if 0 ≤ n.place index ∧ n.place index < n.indexable then
      .ok (Address.ofNat n.base.family (n.base.value + (n.place index).toNat))
    else .error (.outOfRange index n.text) := rfl

/-- **The address at an index** lies at the place that the index stands for, if that is one of the
indexable places. -/
theorem gives_iff {index places : Int} :
    n.Gives index places ↔ places = n.place index ∧ 0 ≤ places ∧ places < n.indexable := by
  rw [Gives, address_eq]
  split
  · next hplace =>
    have hlt : (n.place index).toNat < n.size := by
      have := n.indexable_le_size
      omega
    have hvalue := Address.value_ofNat (n.value_add_lt hlt)
    constructor
    · rintro ⟨a, ha, -, hplaces⟩
      rw [← Except.ok.inj ha, hvalue] at hplaces
      omega
    · rintro ⟨rfl, -, -⟩
      refine ⟨_, rfl, rfl, ?_⟩
      rw [hvalue]
      omega
  · next hplace =>
    constructor
    · rintro ⟨a, ha, -⟩
      cases ha
    · rintro ⟨rfl, hrange⟩
      exact absurd hrange hplace

theorem address_eq_error_iff {index : Int} : n.address index = .error (.outOfRange index n.text) ↔
    n.place index < 0 ∨ n.indexable ≤ n.place index := by
  rw [address_eq]
  split
  · next hplace =>
    constructor
    · intro h
      cases h
    · omega
  · next hplace => exact ⟨fun _ => by omega, fun _ => rfl⟩

/-- **Where the address at an index is the one that it should be.** It is so at every index of a
network with fewer than 127 bits for its hosts. In the larger networks it is so only from zero on
and below the greatest integer of 128 bits. There is no address at that integer nor at the least
one, and at every other negative index it is the address that lies so many places before the one
whose place is the greatest integer. -/
theorem exactAt_iff {index : Int} (hindex : IsIndex index) :
    (n.ExactAt index ↔ n.hostBits < 127 ∨ (0 ≤ index ∧ index < powerOfTwo 127 - 1)) ∧
      (¬ n.ExactAt index →
        (index = -powerOfTwo 127 ∨ index = powerOfTwo 127 - 1 →
          n.address index = .error (.outOfRange index n.text)) ∧
        (-powerOfTwo 127 < index → index < 0 →
          n.Gives index (powerOfTwo 127 - 1 + index))) := by
  obtain ⟨hleast, hgreatest⟩ := hindex
  have hpos := powerOfTwo_pos 127
  have hsize := n.size_pos
  have hplace : n.place index = if index < 0 then n.indexable + index else index := rfl
  have hexact : n.ExactAt index ↔
      n.hostBits < 127 ∨ (0 ≤ index ∧ index < powerOfTwo 127 - 1) := by
    rcases n.indexable_cases with ⟨hbits, hall⟩ | ⟨hbits, hall, hlarge⟩
    · refine ⟨fun _ => .inl hbits, fun _ => ⟨fun _ _ => ?_, fun _ _ => ?_, fun _ => ?_⟩⟩
      · rw [gives_iff]
        omega
      · rw [gives_iff]
        omega
      · rw [address_eq_error_iff]
        omega
    · constructor
      · rintro ⟨hforward, hbackward, -⟩
        simp only [gives_iff] at hforward hbackward
        omega
      · intro h
        refine ⟨fun _ _ => ?_, fun _ _ => ?_, fun _ => ?_⟩
        · rw [gives_iff]
          omega
        · omega
        · omega
  refine ⟨hexact, fun hnot => ?_⟩
  rw [hexact] at hnot
  rcases n.indexable_cases with ⟨hbits, -⟩ | ⟨hbits, hall, hlarge⟩
  · exact absurd (.inl hbits) hnot
  · refine ⟨fun _ => ?_, fun _ _ => ?_⟩
    · rw [address_eq_error_iff]
      omega
    · rw [gives_iff]
      omega

/-- The last address of a network of workers. -/
theorem exactAt_iff_workers : ∃ n, parse "10.0.96.0/20" = .ok n ∧ IsIndex (-1) ∧
    n.hostBits < 127 ∧ n.ExactAt (-1) := by
  have hindex : IsIndex (-1) := by decide
  obtain ⟨n, hparse⟩ : ∃ n, parse "10.0.96.0/20" = .ok n := ⟨_, rfl⟩
  have hbits : n.hostBits < 127 := by
    cases hparse
    decide
  exact ⟨n, hparse, hindex, hbits, (n.exactAt_iff hindex).1.mpr (.inl hbits)⟩

/-- The network of everything ends in the middle of its addresses if they are counted from the
end. -/
theorem not_exactAt_everything : ∃ n, parse "::/0" = .ok n ∧ IsIndex (-1) ∧
    n.address (-1) = .ok (Address.ofNat .v6 (powerOfTwo 127 - 2)) ∧ ¬ n.ExactAt (-1) := by
  have hindex : IsIndex (-1) := by decide
  obtain ⟨n, hparse⟩ : ∃ n, parse "::/0" = .ok n := ⟨_, rfl⟩
  have hsize : n.size = powerOfTwo 128 ∧ n.place (-1) = powerOfTwo 127 - 2 ∧
      n.address (-1) = .ok (Address.ofNat .v6 (powerOfTwo 127 - 2)) := by
    cases hparse
    decide
  obtain ⟨hsize, hplace, haddress⟩ := hsize
  refine ⟨n, hparse, hindex, haddress, fun h => ?_⟩
  have hlast := h.backward (by rw [hsize]; decide) (by decide)
  rw [gives_iff, hsize, hplace] at hlast
  exact absurd hlast.1 (by decide)

end Cidr

end Network

end ClusterNet
