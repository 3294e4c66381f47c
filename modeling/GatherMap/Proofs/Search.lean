import GatherMap.MaskSearch
import GatherMap.Proofs.Gather
import GatherMap.Proofs.Runs

/-!
# The mask search keeps every bucket within the depth

`searchMask` starts from the all-ones mask, under which raw forms of the key width keep their
value, and afterwards only moves to masks whose longest bucket it has just measured. What it
returns is therefore exact:

* `separatingMask_separates`: phase one ends with a mask under which distinct keys of the width
  get distinct packed indices;
* `narrowLoop_measured`: phase two keeps its pair of mask and longest bucket exact, and the
  bucket within `maxDepth`;
* `searchMask_measured`: the search reports the longest bucket of the mask it returns, and that
  bucket holds at most `maxDepth` keys.
-/

namespace GatherMap.Proofs.Search

open GatherMap MaskSearch Proofs.Gather Proofs.Runs

variable {w : Width} {raws : Array UInt64} {maxDepth : Nat}

/-- Under `mask`, the keys `raws` have pairwise distinct packed indices. -/
def Separates (w : Width) (raws : Array UInt64) (mask : UInt64) : Prop :=
  countDuplicates (packedSorted w raws mask) = 0

/-- `longest` is the longest bucket of `raws` under `mask`, and holds at most `maxDepth` keys. -/
def Measured (w : Width) (raws : Array UInt64) (maxDepth : Nat) (mask : UInt64)
    (longest : Nat) : Prop :=
  longest = longestBucket (Gather.new w mask) raws.toList ∧ longest ≤ maxDepth

/-! ### Phase one -/

/-- The all-ones gather separates distinct keys of the width: it is the identity on raw forms. -/
theorem separates_allOnes (hfit : ∀ raw ∈ raws, Fits w raw) (hnodup : raws.toList.Nodup) :
    Separates w raws w.allOnes := by
  have hid : raws.toList.map (Gather.new w w.allOnes).apply = raws.toList.map id :=
    List.map_congr_left fun raw hraw => apply_allOnes_of_fits (hfit raw (by simpa using hraw))
  unfold Separates
  rw [countDuplicates_packedSorted_eq_zero_iff, hid, List.map_id]
  exact hnodup

theorem separatingStep_separates {mask : UInt64} (h : Separates w raws mask) (bit : Nat) :
    Separates w raws (separatingStep w raws mask bit) := by
  unfold separatingStep
  dsimp only
  split_ifs with hzero
  · exact beq_iff_eq.mp hzero
  · exact h

theorem foldl_separatingStep_separates (bits : List Nat) {mask : UInt64}
    (h : Separates w raws mask) : Separates w raws (bits.foldl (separatingStep w raws) mask) := by
  induction bits generalizing mask with
  | nil => exact h
  | cons bit bits ih => exact ih (separatingStep_separates h bit)

/-- **Phase one separates distinct keys of the width.** -/
theorem separatingMask_separates (hfit : ∀ raw ∈ raws, Fits w raw) (hnodup : raws.toList.Nodup) :
    Separates w raws (separatingMask w raws) :=
  foldl_separatingStep_separates _ (separates_allOnes hfit hnodup)

/-- A separating mask leaves one key per bucket, and no bucket at all for no keys. -/
theorem longestBucket_of_separates {mask : UInt64} (h : Separates w raws mask) :
    longestBucket (Gather.new w mask) raws.toList = if raws.isEmpty then 0 else 1 := by
  have hnodup : (raws.toList.map (Gather.new w mask).apply).Nodup :=
    (countDuplicates_packedSorted_eq_zero_iff w raws mask).mp h
  unfold longestBucket
  split
  · rename_i hempty
    have hnil : raws.toList = [] := by simpa using hempty
    rw [hnil, List.map_nil, maxCount_nil]
  · rename_i hne
    have hne' : raws.toList.map (Gather.new w mask).apply ≠ [] := by simpa using hne
    have hle := maxCount_le_one_of_nodup hnodup
    have hge := one_le_maxCount hne'
    omega

/-! ### Phase two -/

/-- **Phase two keeps its mask and longest bucket exact and within the depth.** Each round
either stops with the pair it has, or moves to the cheapest removal after measuring it. -/
theorem narrowLoop_measured (minWeight fuel : Nat) (events : List BuildEvent) {mask : UInt64}
    {longest : Nat} (h : Measured w raws maxDepth mask longest) :
    Measured w raws maxDepth (narrowLoop w raws maxDepth minWeight fuel mask longest events).1
      (narrowLoop w raws maxDepth minWeight fuel mask longest events).2.1 := by
  induction fuel generalizing mask longest events with
  | zero => exact h
  | succ fuel ih =>
    rw [narrowLoop]
    dsimp only
    split_ifs with hgo hdeep
    · exact h
    · exact ih _ ⟨longestRun_packedSorted w raws _, by omega⟩
    · exact h

/-- **The search reports the longest bucket of the mask it returns, within `maxDepth`.** -/
theorem searchMask_measured (minWeight : Nat) (hfit : ∀ raw ∈ raws, Fits w raw)
    (hnodup : raws.toList.Nodup) (hdepth : 0 < maxDepth) :
    Measured w raws maxDepth (searchMask w raws maxDepth minWeight).mask
      (searchMask w raws maxDepth minWeight).longest := by
  have hstart : Measured w raws maxDepth (separatingMask w raws) (if raws.isEmpty then 0 else 1) :=
    ⟨(longestBucket_of_separates (separatingMask_separates hfit hnodup)).symm, by split <;> omega⟩
  have hrun := narrowLoop_measured minWeight (w.bits + 1)
    [BuildEvent.collisionFree (separatingMask w raws) raws.size (popCount (separatingMask w raws))]
    hstart
  unfold searchMask
  dsimp only
  rcases hloop : narrowLoop w raws maxDepth minWeight (w.bits + 1) (separatingMask w raws)
    (if raws.isEmpty then 0 else 1)
    [BuildEvent.collisionFree (separatingMask w raws) raws.size (popCount (separatingMask w raws))]
    with ⟨mask, longest, events⟩
  rw [hloop] at hrun
  exact hrun

end GatherMap.Proofs.Search
