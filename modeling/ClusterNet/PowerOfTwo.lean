/-!
# Powers of two

The number of values of so many bits.

## Main definitions

* `powerOfTwo` — the powers.

## Main results

`powerOfTwo_succ` and `powerOfTwo_add` say how they grow, and `powerOfTwo_pos` that none is zero.
-/

namespace ClusterNet

/-- The number of values of `bits` bits. -/
def powerOfTwo (bits : Nat) : Nat := Nat.pow 2 bits

@[simp] theorem powerOfTwo_zero : powerOfTwo 0 = 1 := rfl

theorem powerOfTwo_succ (bits : Nat) : powerOfTwo (bits + 1) = powerOfTwo bits * 2 := rfl

theorem powerOfTwo_pos (bits : Nat) : 0 < powerOfTwo bits := by
  induction bits with
  | zero => exact Nat.one_pos
  | succ bits ih => rw [powerOfTwo_succ]; omega

theorem powerOfTwo_add (m n : Nat) : powerOfTwo (m + n) = powerOfTwo m * powerOfTwo n := by
  induction n with
  | zero => rw [Nat.add_zero, powerOfTwo_zero, Nat.mul_one]
  | succ n ih => rw [← Nat.add_assoc, powerOfTwo_succ, powerOfTwo_succ, ih, Nat.mul_assoc]

end ClusterNet
