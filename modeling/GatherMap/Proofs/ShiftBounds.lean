import GatherMap.Proofs.Multiplier

/-!
# The arithmetic of a gather stays inside the word

`Gather.new` works on unsigned words of the key width: it computes `gapBits` as
`bits - weight - leadingZeros`, and the coefficient scan shifts a one by `dst - src` at the start
of every run of the mask, where `dst` is the destination of the next mask bit. `apply` then
shifts by `gapBits`. None of these wraps or shifts a word out:

* `weight_add_leadingZeros_le`: the weight and the leading zeros of a mask of the width fill at
  most the width, so `gapBits` is computed without wrapping;
* `scanState_eq`: the loop invariant of the scan, the destination before bit `src` is `gapBits`
  plus the mask bits below `src`;
* `runShift_eq`: at a mask bit `src`, so at the start of each run, `dst - src` is `gapBits` less
  the clear bits below `src`, hence at most `gapBits`, which is below the width
  (`gapBits_lt_bits`);
* `dst_le_bits`: the destination never passes the width.

With `apply_lt_two_pow_weight` and `apply_allOnes_of_fits` this gives `gather_stays_in_width`.
-/

namespace GatherMap.Proofs.ShiftBounds

open GatherMap MaskSearch Proofs.Gather Proofs.Multiplier

variable {w : Width} {mask : UInt64}

/-- The state of the coefficient scan before bit `n`: the multiplier so far, the destination of
the next mask bit, and whether bit `n - 1` is a mask bit. -/
def scanState (mask : UInt64) (gap n : Nat) : UInt64 × Nat × Bool :=
  (List.range n).foldl (Gather.coefficientStep mask) (0, gap, false)

theorem packCoefficient_eq_scanState (w : Width) (mask : UInt64) (gap : Nat) :
    Gather.packCoefficient w mask gap = (scanState mask gap w.bits).1 := rfl

/-- **The loop invariant of the scan**: before bit `n` the destination is `gap` plus the mask
bits below `n`, and the scan is inside a run exactly when bit `n - 1` is a mask bit. -/
theorem scanState_eq {gap n : Nat} (hgap : gap < 64) (hn : n ≤ 64) :
    (scanState mask gap n).2 = (gap + weightBelow mask.toNat n, prevBit mask.toNat n) := by
  obtain ⟨c, hfold, -⟩ := foldl_coefficientStep mask hgap hn
  rw [scanState, hfold]

theorem popCount_le_bitLength (mask : UInt64) : popCount mask ≤ bitLength mask := by
  rw [popCount_eq_weightBelow_size, bitLength_eq_size]
  exact weightBelow_le _ _

theorem bitLength_le_bits (hfit : Fits w mask) : bitLength mask ≤ w.bits := by
  rw [bitLength_eq_size]
  exact size_le_bits hfit

/-- `bits - weight - leadingZeros` does not wrap: the mask bits lie below the top one. -/
theorem weight_add_leadingZeros_le (hfit : Fits w mask) :
    popCount mask + (w.bits - bitLength mask) ≤ w.bits := by
  have hweight := popCount_le_bitLength mask
  have hlength := bitLength_le_bits hfit
  omega

theorem eight_le_bits (w : Width) : 8 ≤ w.bits := by cases w <;> decide

/-- **The shift of `apply` is below the width**: a mask with a set bit has its `gapBits` clear
bits below the top one, and the empty mask has none. -/
theorem gapBits_lt_bits (hfit : Fits w mask) : (Gather.new w mask).gapBits < w.bits := by
  have hsum := gapBits_add_popCount hfit
  have hsize := size_le_bits hfit
  have hbits := eight_le_bits w
  rw [popCount_eq_weightBelow_size] at hsum
  rcases Nat.eq_zero_or_pos mask.toNat.size with hzero | hpos
  · omega
  · have := weightBelow_size_pos hpos
    omega

section Scan

variable (hfit : Fits w mask)
include hfit

theorem scanState_gapBits_eq {n : Nat} (hn : n ≤ w.bits) :
    (scanState mask (Gather.new w mask).gapBits n).2.1 =
      (Gather.new w mask).gapBits + weightBelow mask.toNat n := by
  rw [scanState_eq (gapBits_lt hfit) (Nat.le_trans hn (bits_le w))]

/-- **The destination never passes the width**: it ends at the size of the mask. -/
theorem dst_le_bits {n : Nat} (hn : n ≤ w.bits) :
    (scanState mask (Gather.new w mask).gapBits n).2.1 ≤ w.bits := by
  have hsum := gapBits_add_popCount hfit
  have hsize := size_le_bits hfit
  have hmono : weightBelow mask.toNat n ≤ popCount mask := by
    rw [popCount_eq_weightBelow]
    exact weightBelow_mono _ (Nat.le_trans hn (bits_le w))
  rw [scanState_gapBits_eq hfit hn]
  omega

/-- **The shift at a mask bit**: `dst - src` does not wrap, it is `gapBits` less the clear bits
below `src`, and so it is below the width. -/
theorem runShift_eq {src : Nat} (hset : mask.toNat.testBit src = true) :
    src ≤ (scanState mask (Gather.new w mask).gapBits src).2.1 ∧
      (scanState mask (Gather.new w mask).gapBits src).2.1 - src + zerosBelow mask.toNat src =
        (Gather.new w mask).gapBits ∧
      (scanState mask (Gather.new w mask).gapBits src).2.1 - src < w.bits := by
  have hsrc := lt_bits_of_testBit hfit hset
  have hzeros := zerosBelow_le_gapBits hfit hset
  have hweight := weightBelow_le mask.toNat src
  have hgap := gapBits_lt_bits hfit
  rw [scanState_gapBits_eq hfit hsrc.le]
  unfold zerosBelow at hzeros ⊢
  omega

end Scan

/-- What building a gather for a mask of the width keeps inside the word. -/
structure StaysInWidth (w : Width) (mask : UInt64) : Prop where
  /-- The leading zeros are counted inside the width. -/
  bitLength_le : bitLength mask ≤ w.bits
  /-- `bits - weight - leadingZeros` does not wrap. -/
  weight_add_leadingZeros_le : popCount mask + (w.bits - bitLength mask) ≤ w.bits
  /-- The destination of the scan stays within the width. -/
  dst_le : ∀ n ≤ w.bits, (scanState mask (Gather.new w mask).gapBits n).2.1 ≤ w.bits
  /-- At every mask bit the shift `dst - src` does not wrap, is `gapBits` less the clear bits
  below `src`, and is below the width. -/
  runShift : ∀ src < w.bits, testBit mask src = true →
    src ≤ (scanState mask (Gather.new w mask).gapBits src).2.1 ∧
      (scanState mask (Gather.new w mask).gapBits src).2.1 - src + zerosBelow mask.toNat src =
        (Gather.new w mask).gapBits ∧
      (scanState mask (Gather.new w mask).gapBits src).2.1 - src < w.bits
  /-- `apply` shifts by less than the width. -/
  gapBits_lt : (Gather.new w mask).gapBits < w.bits
  /-- Every packed index addresses one of the `2 ^ weight` table entries. -/
  apply_lt : ∀ raw, ((Gather.new w mask).apply raw).toNat < 2 ^ popCount mask

/-- **Building and applying a gather never wraps a word or shifts one out.** For a mask of the
width, `bits - weight - leadingZeros` does not wrap; the coefficient scan keeps its destination
within the width and shifts by `dst - src` only where that does not wrap and is `gapBits` less the
clear bits below `src`, below the width; `apply` shifts by less than the width and gives an index
below `2 ^ weight`. The gather of the all-ones mask is the identity on raw forms of the width. -/
theorem gather_stays_in_width (w : Width) (mask : UInt64) (hfit : Fits w mask) :
    StaysInWidth w mask ∧ ∀ raw, Fits w raw → (Gather.new w w.allOnes).apply raw = raw := by
  refine ⟨⟨bitLength_le_bits hfit, weight_add_leadingZeros_le hfit,
    fun _ hn => dst_le_bits hfit hn, fun src hsrc hset => ?_, gapBits_lt_bits hfit,
    apply_lt_two_pow_weight w mask⟩, fun _ hraw => apply_allOnes_of_fits hraw⟩
  rw [testBit_eq_testBit_toNat mask (Nat.lt_of_lt_of_le hsrc (bits_le w))] at hset
  exact runShift_eq hfit hset

/-- The two runs `0b1010` of a byte. -/
theorem two_runs_stay_in_width :
    Fits .w8 0b1010 ∧ (StaysInWidth .w8 0b1010 ∧
      ∀ raw, Fits .w8 raw → (Gather.new .w8 Width.w8.allOnes).apply raw = raw) :=
  ⟨by decide, gather_stays_in_width .w8 0b1010 (by decide)⟩

end GatherMap.Proofs.ShiftBounds
