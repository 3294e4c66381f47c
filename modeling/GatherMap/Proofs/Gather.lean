import GatherMap.Gather
import Mathlib

/-!
# Packed indices stay inside the lookup table

The gather of a mask with `k` bits ends with `&&& lowBits w k`, so every packed index is below
`2 ^ k`, the number of lookup-table entries: a lookup can only fault when the table is shorter
than that. The gather of the all-ones mask of a width is the identity on raw forms of that width,
which is why the mask search can start from it: it separates any set of distinct keys.
-/

namespace GatherMap.Proofs.Gather

open GatherMap

/-- `x` is a raw form of width `w`: it is below `2 ^ w.bits`. -/
def Fits (w : Width) (x : UInt64) : Prop := x.toNat < 2 ^ w.bits

instance (w : Width) (x : UInt64) : Decidable (Fits w x) := inferInstanceAs (Decidable (_ < _))

theorem bits_le (w : Width) : w.bits ≤ 64 := by cases w <;> decide

theorem allOnes_toNat (w : Width) : w.allOnes.toNat = 2 ^ w.bits - 1 := by
  cases w <;> rfl

theorem truncate_of_fits {w : Width} {x : UInt64} (h : Fits w x) : w.truncate x = x := by
  apply UInt64.toNat_inj.mp
  rw [Width.truncate, UInt64.toNat_and, allOnes_toNat, Nat.and_two_pow_sub_one_eq_mod]
  exact Nat.mod_eq_of_lt h

/-- A one shifted by less than the word size is a power of two. -/
theorem toNat_one_shiftLeft {b : Nat} (hb : b < 64) :
    ((1 : UInt64) <<< b.toUInt64).toNat = 2 ^ b := by
  have hb' : b.toUInt64.toNat % 64 = b := by simp; omega
  rw [UInt64.toNat_shiftLeft, hb', UInt64.toNat_one, Nat.one_shiftLeft]
  exact Nat.mod_eq_of_lt (Nat.pow_lt_pow_right (by decide) hb)

theorem lowBits_toNat_lt (w : Width) (count : Nat) :
    (Gather.lowBits w count).toNat < 2 ^ count := by
  unfold Gather.lowBits
  split
  · rw [allOnes_toNat]
    have hle : 2 ^ w.bits ≤ 2 ^ count := Nat.pow_le_pow_right (by decide) ‹_›
    have hpos : 0 < 2 ^ w.bits := Nat.two_pow_pos _
    omega
  · have hc : count < 64 := by have := bits_le w; omega
    have hp : 2 ^ count < 2 ^ 64 := Nat.pow_lt_pow_right (by decide) hc
    rw [UInt64.toNat_ofNat', Nat.pow_eq, Nat.mod_eq_of_lt (by omega)]
    have hpos : 0 < 2 ^ count := Nat.two_pow_pos count
    omega

theorem apply_toNat_le (g : Gather) (raw : UInt64) :
    (g.apply raw).toNat ≤ g.finalMask.toNat := by
  rw [Gather.apply, UInt64.toNat_and]
  exact Nat.and_le_right

/-- **Every packed index addresses the table**: it is below `2 ^ weight`. -/
theorem apply_lt_two_pow_weight (w : Width) (mask raw : UInt64) :
    ((Gather.new w mask).apply raw).toNat < 2 ^ (Gather.new w mask).weight :=
  Nat.lt_of_le_of_lt (apply_toNat_le _ raw) (lowBits_toNat_lt w _)

theorem outputLen?_eq_some {g : Gather} {n : Nat} (h : g.outputLen? = some n) :
    n = 2 ^ g.weight := by
  unfold Gather.outputLen? at h
  split at h
  · rw [← Option.some.inj h, Nat.pow_eq]
  · cases h

theorem new_allOnes (w : Width) :
    Gather.new w w.allOnes =
      { width := w, mask := w.allOnes, coefficient := 1, finalMask := w.allOnes,
        gapBits := 0 } := by
  cases w <;> decide

/-- The all-ones mask keeps every bit of the width. -/
theorem apply_allOnes (w : Width) (raw : UInt64) :
    (Gather.new w w.allOnes).apply raw = w.truncate raw := by
  have h0 : (0 : Nat).toUInt64 = 0 := rfl
  rw [new_allOnes, Gather.apply]
  simp only [UInt64.mul_one, Width.truncate, h0, UInt64.shiftRight_zero, UInt64.and_assoc,
    UInt64.and_self]

theorem apply_allOnes_of_fits {w : Width} {raw : UInt64} (h : Fits w raw) :
    (Gather.new w w.allOnes).apply raw = raw := by
  rw [apply_allOnes, truncate_of_fits h]

end GatherMap.Proofs.Gather
