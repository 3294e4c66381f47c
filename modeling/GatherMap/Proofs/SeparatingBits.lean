import GatherMap.Proofs.Rebuild

/-!
# How phase one decides each bit

Phase one of the mask search walks the bits of the width from the top down, starting from all
ones, and clears a bit when the keys stay separated without it. When it reaches bit `b`, the bits
above `b` are already final and every bit below `b` is still set, so the mask it tests is the
final mask with bit `b` cleared and all lower bits set.

* `separatingStep_testBit_of_ne`: a step touches no bit but its own;
* `separatingMask_testBit_iff`: a bit of the phase-one mask is set exactly when clearing it from
  the mask tested at that moment makes two keys share a packed index;
* `separating_bits_needed_when_decided`: the phase-one mask separates distinct keys of the
  width, and each of its bits was needed when it was decided;
* `separatingMask_not_locally_minimal`: the phase-one mask need not be a local minimum. Packing
  is no exact bit compaction, so a bit kept because of a carry can become removable once lower
  bits are cleared.
-/

namespace GatherMap.Proofs.SeparatingBits

open GatherMap MaskSearch Proofs.Gather Proofs.Runs Proofs.Search Proofs.MaskChoice Proofs.Rebuild

variable {w : Width} {raws : Array UInt64}

/-- The keys get pairwise distinct packed indices under `mask`. -/
def Apart (w : Width) (raws : Array UInt64) (mask : UInt64) : Prop :=
  (raws.toList.map (Gather.new w mask).apply).Nodup

instance (w : Width) (raws : Array UInt64) (mask : UInt64) : Decidable (Apart w raws mask) :=
  inferInstanceAs (Decidable (List.Nodup _))

/-- The mask phase one tests at bit `b`: the final mask with every bit below and at `b` set. -/
def pending (w : Width) (mask : UInt64) (b : Nat) : UInt64 := mask ||| Gather.lowBits w (b + 1)

/-! ### Bits of a word -/

theorem eq_of_testBit {x y : UInt64} (h : ∀ i < 64, testBit x i = testBit y i) : x = y := by
  apply UInt64.toBitVec_inj.mp
  apply BitVec.eq_of_getLsbD_eq
  intro i hi
  rw [← testBit_eq_getLsbD _ hi, ← testBit_eq_getLsbD _ hi]
  exact h i hi

theorem testBit_or (a b : UInt64) {i : Nat} (hi : i < 64) :
    testBit (a ||| b) i = (testBit a i || testBit b i) := by
  rw [testBit_eq_getLsbD _ hi, testBit_eq_getLsbD _ hi, testBit_eq_getLsbD _ hi,
    UInt64.toBitVec_or, BitVec.getLsbD_or]

/-- The low ones of the width are the bits below the count. -/
theorem testBit_lowBits {count i : Nat} (hcount : count ≤ w.bits) (hi : i < 64) :
    testBit (Gather.lowBits w count) i = decide (i < count) := by
  unfold Gather.lowBits
  split
  · rename_i hge
    rw [testBit_allOnes w hi]
    have : count = w.bits := by omega
    subst this
    rfl
  · rw [testBit_eq_getLsbD _ hi, UInt64.toBitVec_ofNat', BitVec.getLsbD_ofNat, Nat.pow_eq,
      Nat.testBit_two_pow_sub_one]
    simp [hi]

/-! ### One step -/

/-- A step of phase one touches no bit but its own. -/
theorem separatingStep_testBit_of_ne (mask : UInt64) {b i : Nat} (hb : b < 64) (hi : i < 64)
    (hne : i ≠ b) : testBit (separatingStep w raws mask b) i = testBit mask i := by
  rw [separatingStep_eq]
  split
  · rw [testBit_clearBit mask hb hi]
    simp [hne]
  · rfl

/-- A step clears its bit exactly when the keys stay apart without it. -/
theorem separatingStep_testBit_self (mask : UInt64) {b : Nat} (hb : b < 64) :
    testBit (separatingStep w raws mask b) b = true ↔
      testBit mask b = true ∧ ¬ Apart w raws (clearBit mask b) := by
  rw [separatingStep_eq]
  split
  · rename_i hapart
    rw [testBit_clearBit mask hb hb]
    simp [Apart, hapart]
  · rename_i hclose
    simp [Apart, hclose]

/-! ### A run of steps -/

/-- Phase one over the bits below `n`, the highest first. -/
def decideBelow (w : Width) (raws : Array UInt64) (n : Nat) (mask : UInt64) : UInt64 :=
  (List.range n).reverse.foldl (separatingStep w raws) mask

theorem decideBelow_succ (n : Nat) (mask : UInt64) :
    decideBelow w raws (n + 1) mask = decideBelow w raws n (separatingStep w raws mask n) := by
  simp [decideBelow, List.range_succ]

theorem separatingMask_eq_decideBelow (w : Width) (raws : Array UInt64) :
    separatingMask w raws = decideBelow w raws w.bits w.allOnes := rfl

/-- The bits at and above `n` come out of the steps below `n` unchanged. -/
theorem decideBelow_testBit_of_le {n i : Nat} (mask : UInt64) (hn : n ≤ i) (hi : i < 64) :
    testBit (decideBelow w raws n mask) i = testBit mask i := by
  induction n generalizing mask with
  | zero => rfl
  | succ n ih =>
    rw [decideBelow_succ, ih _ (by omega), separatingStep_testBit_of_ne mask (by omega) hi (by omega)]

/-- **Each bit is decided against the pending mask**: run from a mask with every bit below `n`
set, phase one leaves bit `b < n` set exactly when clearing it from the final mask with all bits
up to `b` set brings two keys together. -/
theorem decideBelow_testBit_iff {n : Nat} (hn : n ≤ w.bits) (mask : UInt64)
    (hlow : ∀ i < n, testBit mask i = true) {b : Nat} (hb : b < n) :
    testBit (decideBelow w raws n mask) b = true ↔
      ¬ Apart w raws (clearBit (pending w (decideBelow w raws n mask) b) b) := by
  induction n generalizing mask with
  | zero => omega
  | succ n ih =>
    have h64 : n < 64 := by have := bits_le w; omega
    set mask' := separatingStep w raws mask n
    have hlow' : ∀ i < n, testBit mask' i = true := fun i hi => by
      rw [separatingStep_testBit_of_ne mask h64 (by omega) (by omega)]
      exact hlow i (by omega)
    rw [decideBelow_succ]
    rcases Nat.lt_succ_iff_lt_or_eq.mp hb with hb | rfl
    · exact ih (by omega) mask' hlow' hb
    · have hpending : clearBit (pending w (decideBelow w raws b mask') b) b = clearBit mask b := by
        apply eq_of_testBit
        intro i hi
        rw [testBit_clearBit _ h64 hi, testBit_clearBit _ h64 hi, pending, testBit_or _ _ hi,
          testBit_lowBits (by omega) hi]
        rcases Nat.lt_trichotomy i b with hib | rfl | hib
        · simp [hib.le, hlow i (by omega)]
        · simp
        · rw [decideBelow_testBit_of_le mask' (by omega) hi,
            separatingStep_testBit_of_ne mask h64 hi (by omega)]
          simp [Nat.not_lt.mpr (Nat.succ_le_of_lt hib)]
      rw [hpending, decideBelow_testBit_of_le mask' le_rfl h64, separatingStep_testBit_self mask h64,
        hlow b (by omega)]
      simp

/-- **A bit of the phase-one mask is set exactly when it was needed when decided**: clearing it
from the phase-one mask with every lower bit set makes two keys share a packed index. -/
theorem separatingMask_testBit_iff (w : Width) (raws : Array UInt64) {b : Nat} (hb : b < w.bits) :
    testBit (separatingMask w raws) b = true ↔
      ¬ Apart w raws (clearBit (pending w (separatingMask w raws) b) b) := by
  have h64 := bits_le w
  exact decideBelow_testBit_iff le_rfl _ (fun i hi => by rw [testBit_allOnes w (by omega)]; simpa)
    hb

/-! ### The phase-one mask -/

/-- **The phase-one mask separates distinct keys of the width, and each of its bits was needed
when it was decided.** A bit `b` of it is set exactly when, under the phase-one mask with bit `b`
cleared and every bit below `b` set, two keys share a packed index. -/
theorem separating_bits_needed_when_decided (w : Width) (raws : Array UInt64)
    (hfit : ∀ raw ∈ raws, Fits w raw) (hnodup : raws.toList.Nodup) :
    Apart w raws (separatingMask w raws) ∧
      ∀ b < w.bits, testBit (separatingMask w raws) b = true ↔
        ¬ Apart w raws (clearBit (pending w (separatingMask w raws) b) b) :=
  ⟨(countDuplicates_packedSorted_eq_zero_iff w raws _).mp (separatingMask_separates hfit hnodup),
    fun _ hb => separatingMask_testBit_iff w raws hb⟩

theorem separating_bits_needed_when_decided_u8 :
    (∀ raw ∈ (#[0, 3, 8] : Array UInt64), Fits .w8 raw) ∧ (#[0, 3, 8] : Array UInt64).toList.Nodup ∧
      Apart .w8 #[0, 3, 8] (separatingMask .w8 #[0, 3, 8]) ∧
      ∀ b < Width.w8.bits, testBit (separatingMask .w8 #[0, 3, 8]) b = true ↔
        ¬ Apart .w8 #[0, 3, 8] (clearBit (pending .w8 (separatingMask .w8 #[0, 3, 8]) b) b) := by
  have hfit : ∀ raw ∈ (#[0, 3, 8] : Array UInt64), Fits .w8 raw := by
    simp [Fits, Width.bits]
  have hnodup : (#[0, 3, 8] : Array UInt64).toList.Nodup := by decide
  exact ⟨hfit, hnodup, separating_bits_needed_when_decided .w8 #[0, 3, 8] hfit hnodup⟩

/-- **The phase-one mask need not be a local minimum.** For the one-byte keys `0, 3, 8` it is
`0b1101`: bit 2 was kept because under `0b1011` the keys `3` and `8` both pack to `4`, a carry of
the multiplication. Under the final mask without bit 2, `0b1001`, the keys stay apart. -/
theorem separatingMask_not_locally_minimal :
    separatingMask .w8 #[0, 3, 8] = 0b1101 ∧ testBit 0b1101 2 = true ∧
      Apart .w8 #[0, 3, 8] (clearBit 0b1101 2) := by
  refine ⟨?_, by decide, by decide⟩
  rw [separatingMask, funext₂ (separatingStep_eq .w8 #[0, 3, 8])]
  decide +kernel

end GatherMap.Proofs.SeparatingBits
