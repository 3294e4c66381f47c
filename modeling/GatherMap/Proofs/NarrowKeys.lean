import GatherMap.Proofs.SeparatingBits
import GatherMap.Proofs.Retry
import GatherMap.Proofs.RemovalChain
import GatherMap.Proofs.Carries

/-!
# Keys of few bits get masks of few bits

Phase one of the mask search starts from all ones and walks down from the top bit. While the
mask is still the low run of the bits below the current one, clearing the current bit leaves a
shorter low run, and the gather of a low run keeps the low bits of a key exactly. Keys below
`2 ^ s` therefore stay apart until the walk reaches bit `s`:

* `apply_lowBits`: the gather of the low `n` bits keeps a key's low `n` bits;
* `decideBelow_lowBits`: from the low run of `n ≥ s` bits, phase one comes down to the low run of
  `s` bits before it decides anything;
* `popCount_searchMask_le_of_lt_two_pow`: so the searched mask has at most `s` bits;
* `buildPerfect_eq_ok_of_lt_two_pow`: and a build of distinct keys below `2 ^ s`, with room for
  `s` index bits, assembles a keyset.
-/

namespace GatherMap.Proofs.NarrowKeys

open GatherMap MaskSearch Proofs.Gather Proofs.Multiplier Proofs.Carries Proofs.MaskChoice
  Proofs.SeparatingBits Proofs.RemovalChain Proofs.Retry Proofs.PerfectBuild Proofs.OffsetWidth
  Proofs.Rebuild

variable {w : Width} {raws : Array UInt64}

/-! ### The gather of a low run -/

/-- Extracting under the low run of `n` bits keeps the bits below `n` that the scan reached. -/
theorem extractBelow_lowRun (x n k : Nat) :
    extractBelow x (2 ^ n - 1) k = x % 2 ^ min n k := by
  induction k with
  | zero => simp [extractBelow, Nat.mod_one]
  | succ k ih =>
    rw [extractBelow, ih, Nat.testBit_two_pow_sub_one]
    by_cases hk : k < n
    · have hweight : weightBelow (2 ^ n - 1) k = k := by
        have h := weightBelow_add_of_set (m := 2 ^ n - 1) (a := 0) (l := k)
          fun i hi => by rw [Nat.testBit_two_pow_sub_one]; simp; omega
        simpa using h
      rw [Nat.min_eq_right hk.le, Nat.min_eq_right (by omega), hweight, Nat.mod_pow_succ,
        Nat.testBit_eq_decide_div_mod_eq]
      rcases Nat.mod_two_eq_zero_or_one (x / 2 ^ k) with hbit | hbit <;> simp [hk, hbit]
    · rw [Nat.min_eq_left (by omega), Nat.min_eq_left (by omega)]
      simp [hk]

theorem runBits_zero (n : Nat) : runBits 0 n = 2 ^ n - 1 := by simp [runBits]

theorem lowBits_eq_ofNat {n : Nat} (hn : n ≤ w.bits) :
    Gather.lowBits w n = UInt64.ofNat (runBits 0 n) := by
  rw [runBits_zero, Gather.lowBits]
  split
  · have : n = w.bits := by omega
    rw [Width.allOnes, this, Nat.pow_eq]
  · rw [Nat.pow_eq]

/-- **The gather of a low run keeps the low bits**: under the low `n` bits of the width, a key
packs to its value modulo `2 ^ n`. -/
theorem apply_lowBits {n : Nat} (hn : n ≤ w.bits) (raw : UInt64) :
    ((Gather.new w (Gather.lowBits w n)).apply raw).toNat = raw.toNat % 2 ^ n := by
  have h64 : n ≤ 64 := Nat.le_trans hn (bits_le w)
  have hmask : (UInt64.ofNat (runBits 0 n)).toNat = 2 ^ n - 1 := by
    have hlt : 2 ^ n - 1 < 2 ^ 64 := by
      have := Nat.pow_le_pow_right (n := 2) (by decide) h64
      omega
    rw [runBits_zero, UInt64.toNat_ofNat', Nat.mod_eq_of_lt hlt]
  rw [lowBits_eq_ofNat hn, apply_run_eq_pext (by omega), pext_toNat, hmask, extractBelow_lowRun,
    Nat.min_eq_left h64]

/-- Keys below `2 ^ n` stay apart under the low `n` bits. -/
theorem apart_lowBits {n : Nat} (hn : n ≤ w.bits) (hlt : ∀ raw ∈ raws, raw.toNat < 2 ^ n)
    (hnodup : raws.toList.Nodup) : Apart w raws (Gather.lowBits w n) := by
  have hid : raws.toList.map (Gather.new w (Gather.lowBits w n)).apply = raws.toList.map id := by
    apply List.map_congr_left
    intro raw hraw
    apply UInt64.toNat_inj.mp
    rw [apply_lowBits hn, Nat.mod_eq_of_lt (hlt raw (by simpa using hraw)), id]
  unfold Apart
  rw [hid, List.map_id]
  exact hnodup

/-! ### Phase one over a low run -/

/-- Clearing the top bit of a low run leaves the low run one bit shorter. -/
theorem clearBit_lowBits {n : Nat} (hn : n < w.bits) :
    clearBit (Gather.lowBits w (n + 1)) n = Gather.lowBits w n := by
  have h64 : n < 64 := Nat.lt_of_lt_of_le hn (bits_le w)
  apply eq_of_testBit
  intro i hi
  rw [testBit_clearBit _ h64 hi, testBit_lowBits (by omega) hi, testBit_lowBits (by omega) hi]
  rcases Nat.lt_trichotomy i n with hin | rfl | hin
  · simp [Nat.ne_of_lt hin, hin, Nat.lt_succ_of_lt hin]
  · simp
  · simp [Nat.not_lt.mpr hin.le, Nat.not_lt.mpr hin]

/-- **From a low run of `n ≥ s` bits, phase one comes down to the low run of `s` bits**: each bit
from the top down to `s` is cleared, since the keys below `2 ^ s` stay apart under every
shorter low run that still holds them. -/
theorem decideBelow_lowBits {s : Nat} (hlt : ∀ raw ∈ raws, raw.toNat < 2 ^ s)
    (hnodup : raws.toList.Nodup) :
    ∀ k, s + k ≤ w.bits →
      decideBelow w raws (s + k) (Gather.lowBits w (s + k)) =
        decideBelow w raws s (Gather.lowBits w s)
  | 0, _ => rfl
  | k + 1, hk => by
    have hkeep : ∀ raw ∈ raws, raw.toNat < 2 ^ (s + k) := fun raw hraw =>
      Nat.lt_of_lt_of_le (hlt raw hraw) (Nat.pow_le_pow_right (by decide) (by omega))
    have hstep : separatingStep w raws (Gather.lowBits w (s + k + 1)) (s + k) =
        Gather.lowBits w (s + k) := by
      rw [separatingStep_eq, clearBit_lowBits (by omega)]
      exact if_pos (apart_lowBits (by omega) hkeep hnodup)
    rw [← Nat.add_assoc, decideBelow_succ, hstep]
    exact decideBelow_lowBits hlt hnodup k (by omega)

/-- The steps of phase one only clear bits. -/
theorem decideBelow_submask (n : Nat) (mask : UInt64) :
    Submask (decideBelow w raws n mask) mask := by
  induction n generalizing mask with
  | zero => exact Submask.refl mask
  | succ n ih =>
    rw [decideBelow_succ]
    exact (ih _).trans (separatingStep_submask w raws mask n)

theorem popCount_lowBits {n : Nat} (hn : n ≤ w.bits) : popCount (Gather.lowBits w n) = n := by
  have h64 : n ≤ 64 := Nat.le_trans hn (bits_le w)
  have hset := weightBelow_add_of_set (m := 2 ^ n - 1) (a := 0) (l := n)
    fun i hi => by rw [Nat.testBit_two_pow_sub_one]; simp; omega
  have hclear := weightBelow_add_of_clear (m := 2 ^ n - 1) (a := n) (l := 64 - n)
    fun i hi => by rw [Nat.testBit_two_pow_sub_one]; simp
  rw [popCount_eq_weightBelow, lowBits_toNat hn, ← Nat.add_sub_cancel' h64, hclear]
  simpa using hset

/-- **The searched mask of keys below `2 ^ s` has at most `s` bits**: phase one ends inside the
low run of `s` bits, and phase two only clears bits. -/
theorem popCount_searchMask_le_of_lt_two_pow {s : Nat} (hs : s ≤ w.bits)
    (hlt : ∀ raw ∈ raws, raw.toNat < 2 ^ s) (hnodup : raws.toList.Nodup) (maxDepth minWeight : Nat) :
    popCount (searchMask w raws maxDepth minWeight).mask ≤ s := by
  have hstart : separatingMask w raws = decideBelow w raws s (Gather.lowBits w s) := by
    have hall : w.allOnes = Gather.lowBits w w.bits := by rw [Gather.lowBits, if_pos le_rfl]
    rw [separatingMask_eq_decideBelow, hall, ← Nat.add_sub_cancel' hs]
    exact decideBelow_lowBits hlt hnodup _ (by omega)
  have hsep : Submask (separatingMask w raws) (Gather.lowBits w s) := by
    rw [hstart]
    exact decideBelow_submask s _
  rw [searchMask_mask]
  calc popCount _ ≤ popCount (separatingMask w raws) :=
        Submask.popCount_le (narrowLoop_submask _ _ _ (separatingMask_submask w raws))
    _ ≤ popCount (Gather.lowBits w s) := Submask.popCount_le hsep
    _ = s := popCount_lowBits hs

/-- **Distinct keys below `2 ^ s` build**, with room for `s < 64` index bits and a width for the
key count: the search cannot pass the limit, and the table has an index of fewer than 64 bits. -/
theorem buildPerfect_eq_ok_of_lt_two_pow {b : Builder} {t : KeyType} {s : Nat} {W : OffsetWidth}
    (hs : s ≤ t.width.bits) (hs64 : s < 64) (hlimit : s ≤ b.maxMaskWeight)
    (hlt : ∀ raw ∈ raws, raw.toNat < 2 ^ s) (hnodup : raws.toList.Nodup) (hpos : 0 < b.maxDepth)
    (hwidth : b.widthFor raws.size = .ok W) :
    ∃ ks, (b.buildPerfect t raws).value = .ok ks := by
  have hweight := popCount_searchMask_le_of_lt_two_pow hs hlt hnodup b.maxDepth b.minMaskWeight
  have hbuild := buildPerfect_withLimit (t := t) (L := b.maxMaskWeight) hpos
    ((duplicate?_eq_none_iff raws).mpr hnodup) hwidth (by omega)
  obtain ⟨ks, hks, -⟩ := assemble_of_weight_lt (t := t)
    (g := Gather.new t.width (searchMask t.width raws b.maxDepth b.minMaskWeight).mask)
    (holds_of_widthFor hwidth)
    (show popCount (searchMask t.width raws b.maxDepth b.minMaskWeight).mask < 64 by omega)
    (searchMask t.width raws b.maxDepth b.minMaskWeight).longest
  exact ⟨ks, hbuild.trans hks⟩

end GatherMap.Proofs.NarrowKeys
