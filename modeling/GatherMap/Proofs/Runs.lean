import GatherMap.MaskSearch
import Mathlib

/-!
# Runs of equal packed indices

The mask search and `PerfectKeyset.withMask` judge a mask by the sorted list of the keys' packed
indices: `longestRun` is the length of its longest run of equal values and `countDuplicates` the
number of values equal to the one before. On a sorted list a run holds every copy of its value,
so

* `longestRun_eq_maxCount`: the longest run is the largest number of copies of one value,
  `maxCount`;
* `countDuplicates_eq_zero_iff`: there are no duplicates exactly when the values are distinct.

For packed indices this reads: the longest run of `packedSorted` is `longestBucket`, the most keys
that share one packed index (`longestRun_packedSorted`).
-/

namespace GatherMap.Proofs.Runs

open GatherMap MaskSearch

/-! ### The largest number of copies of one value -/

/-- The most times one value occurs in `l` (`0` for the empty list). -/
def maxCount (l : List UInt64) : Nat := l.toFinset.sup fun x => l.count x

/-- The most keys of `raws` that share one packed index under `g`. -/
def longestBucket (g : Gather) (raws : List UInt64) : Nat := maxCount (raws.map g.apply)

theorem count_le_maxCount {l : List UInt64} {x : UInt64} (h : x ∈ l) :
    l.count x ≤ maxCount l := by
  have hmem : x ∈ l.toFinset := List.mem_toFinset.mpr h
  exact @Finset.le_sup Nat UInt64 _ _ l.toFinset (fun x => l.count x) x hmem

theorem maxCount_le_iff {l : List UInt64} {d : Nat} :
    maxCount l ≤ d ↔ ∀ x ∈ l, l.count x ≤ d := by
  simp [maxCount, Finset.sup_le_iff]

theorem exists_count_eq_maxCount {l : List UInt64} (h : l ≠ []) :
    ∃ x ∈ l, l.count x = maxCount l := by
  obtain ⟨x, hx, heq⟩ := Finset.exists_mem_eq_sup l.toFinset
    (List.toFinset_nonempty_iff l |>.mpr h) fun x => l.count x
  exact ⟨x, List.mem_toFinset.mp hx, heq.symm⟩

@[simp] theorem maxCount_nil : maxCount [] = 0 := rfl

theorem maxCount_eq_of_perm {l l' : List UInt64} (h : l.Perm l') : maxCount l = maxCount l' := by
  unfold maxCount
  rw [List.toFinset_eq_of_perm l l' h]
  exact Finset.sup_congr rfl fun x _ => h.count_eq x

/-- Appending `x` can only raise the largest count to the new count of `x`. -/
theorem maxCount_append_singleton (l : List UInt64) (x : UInt64) :
    maxCount (l ++ [x]) = max (maxCount l) ((l ++ [x]).count x) := by
  have hcount : ∀ y, y ≠ x → (l ++ [x]).count y = l.count y := by
    intro y hy
    simp [List.count_append, Ne.symm hy]
  apply le_antisymm
  · refine maxCount_le_iff.mpr fun y hy => ?_
    by_cases hyx : y = x
    · subst hyx
      exact le_max_right _ _
    · rw [hcount y hyx]
      have hy' : y ∈ l := by simpa [hyx] using hy
      exact le_max_of_le_left (count_le_maxCount hy')
  · refine max_le (maxCount_le_iff.mpr fun y hy => ?_) (count_le_maxCount (by simp))
    calc l.count y ≤ (l ++ [x]).count y := (List.sublist_append_left l [x]).count_le y
      _ ≤ maxCount (l ++ [x]) := count_le_maxCount (List.mem_append_left _ hy)

theorem maxCount_le_one_of_nodup {l : List UInt64} (h : l.Nodup) : maxCount l ≤ 1 :=
  maxCount_le_iff.mpr fun x _ => List.nodup_iff_count_le_one.mp h x

theorem one_le_maxCount {l : List UInt64} (h : l ≠ []) : 1 ≤ maxCount l := by
  obtain ⟨x, hx⟩ := List.exists_mem_of_ne_nil l h
  exact Nat.lt_of_lt_of_le (List.count_pos_iff.mpr hx) (count_le_maxCount hx)

/-! ### Sorted lists -/

/-- In a sorted list a value that is not the last one is absent before a larger last element:
appending `x` after a list whose last element differs from it adds a new value. -/
theorem notMem_of_getLast?_ne {l : List UInt64} {x : UInt64}
    (h : (l ++ [x]).Pairwise (· ≤ ·)) (hx : l.getLast? ≠ some x) : x ∉ l := by
  intro hmem
  have hle : ∀ a ∈ l, a ≤ x := fun a ha =>
    (List.pairwise_append.mp h).2.2 a ha x (List.mem_singleton_self x)
  obtain ⟨z, hz⟩ := Option.ne_none_iff_exists'.mp (List.getLast?_eq_none_iff.not.mpr
    (List.ne_nil_of_mem hmem))
  have hsplit : l.dropLast ++ [z] = l := List.dropLast_append_getLast? z hz
  have hsorted : (l.dropLast ++ [z]).Pairwise (· ≤ ·) := by
    rw [hsplit]
    exact (List.pairwise_append.mp h).1
  have hxz : x ≤ z := by
    rw [← hsplit, List.mem_append, List.mem_singleton] at hmem
    rcases hmem with hmem | rfl
    · exact (List.pairwise_append.mp hsorted).2.2 x hmem z (List.mem_singleton_self z)
    · exact UInt64.le_refl x
  have hzx : z ≤ x := hle z (List.mem_of_getLast? hz)
  exact hx (hz.trans (congrArg some (UInt64.le_antisymm hzx hxz)))

/-- The step of `longestRun`: the last value, the length of its run and the longest run yet. -/
def runStep (acc : Option UInt64 × Nat × Nat) (x : UInt64) : Option UInt64 × Nat × Nat :=
  let current := if acc.1 == some x then acc.2.1 + 1 else 1
  (some x, current, max acc.2.2 current)

/-- The step of `countDuplicates`: the last value and the number of duplicates yet. -/
def dupStep (acc : Option UInt64 × Nat) (x : UInt64) : Option UInt64 × Nat :=
  (some x, if acc.1 == some x then acc.2 + 1 else acc.2)

theorem longestRun_eq_foldl (arr : Array UInt64) :
    longestRun arr = (arr.toList.foldl runStep (none, 0, 0)).2.2 := by
  rw [Array.foldl_toList]
  rfl

theorem countDuplicates_eq_foldl (arr : Array UInt64) :
    countDuplicates arr = (arr.toList.foldl dupStep (none, 0)).2 := by
  rw [Array.foldl_toList]
  rfl

/-- On a sorted list the current run is every copy of the last value, and the longest run is the
largest count. -/
theorem foldl_runStep {l : List UInt64} (h : l.Pairwise (· ≤ ·)) :
    l.foldl runStep (none, 0, 0) =
      (l.getLast?, l.getLast?.elim 0 (fun x => l.count x), maxCount l) := by
  induction l using List.reverseRecOn with
  | nil => rfl
  | append_singleton l x ih =>
    rw [List.foldl_append, ih (List.pairwise_append.mp h).1, List.foldl_cons, List.foldl_nil,
      List.getLast?_concat, maxCount_append_singleton]
    have hcount : (l ++ [x]).count x = l.count x + 1 := by simp [List.count_append]
    by_cases hx : l.getLast? = some x
    · simp [runStep, hx, hcount]
    · have hnew : l.count x = 0 := List.count_eq_zero.mpr (notMem_of_getLast?_ne h hx)
      simp [runStep, hx, hcount, hnew]

/-- On a sorted list the duplicate count stays `0` exactly as long as the values are distinct. -/
theorem foldl_dupStep {l : List UInt64} (h : l.Pairwise (· ≤ ·)) :
    (l.foldl dupStep (none, 0)).1 = l.getLast? ∧ ((l.foldl dupStep (none, 0)).2 = 0 ↔ l.Nodup) := by
  induction l using List.reverseRecOn with
  | nil => exact ⟨rfl, by simp⟩
  | append_singleton l x ih =>
    obtain ⟨hlast, hzero⟩ := ih (List.pairwise_append.mp h).1
    rw [List.foldl_append, List.foldl_cons, List.foldl_nil, List.getLast?_concat]
    refine ⟨rfl, ?_⟩
    rw [List.nodup_append]
    by_cases hx : l.getLast? = some x
    · have hmem : x ∈ l := List.mem_of_getLast? hx
      simp only [dupStep, hlast, hx, beq_self_eq_true, if_true]
      constructor
      · intro hc
        omega
      · rintro ⟨-, -, hdisj⟩
        exact absurd rfl (hdisj x hmem x (List.mem_singleton_self x))
    · have hnew : x ∉ l := notMem_of_getLast?_ne h hx
      have hne : (l.getLast? == some x) = false := by simpa using hx
      simp only [dupStep, hlast, hne, Bool.false_eq_true, if_false, hzero]
      constructor
      · intro hn
        refine ⟨hn, List.nodup_singleton x, fun a ha b hb => ?_⟩
        rw [List.mem_singleton] at hb
        subst hb
        exact fun hab => hnew (hab ▸ ha)
      · exact fun hn => hn.1

/-- **The longest run of a sorted list is its largest count.** -/
theorem longestRun_eq_maxCount {arr : Array UInt64} (h : arr.toList.Pairwise (· ≤ ·)) :
    longestRun arr = maxCount arr.toList := by
  rw [longestRun_eq_foldl, foldl_runStep h]

/-- **A sorted list has no duplicates exactly when its values are distinct.** -/
theorem countDuplicates_eq_zero_iff {arr : Array UInt64} (h : arr.toList.Pairwise (· ≤ ·)) :
    countDuplicates arr = 0 ↔ arr.toList.Nodup := by
  rw [countDuplicates_eq_foldl]
  exact (foldl_dupStep h).2

/-! ### Packed indices -/

theorem pairwise_le_mergeSort (l : List UInt64) :
    (l.mergeSort fun a b => decide (a ≤ b)).Pairwise (· ≤ ·) := by
  have hsorted := List.pairwise_mergeSort (fun a b c (hab : decide (a ≤ b)) (hbc : decide (b ≤ c)) =>
      decide_eq_true (UInt64.le_trans (of_decide_eq_true hab) (of_decide_eq_true hbc)))
    (fun a b => by simpa using UInt64.le_total a b) l
  exact hsorted.imp fun hab => of_decide_eq_true hab

theorem packedSorted_toList (w : Width) (raws : Array UInt64) (mask : UInt64) :
    (packedSorted w raws mask).toList =
      (raws.toList.map (Gather.new w mask).apply).mergeSort fun a b => decide (a ≤ b) := by
  rw [packedSorted, Array.toList_mergeSort, Array.toList_map]

theorem packedSorted_perm (w : Width) (raws : Array UInt64) (mask : UInt64) :
    (packedSorted w raws mask).toList.Perm (raws.toList.map (Gather.new w mask).apply) := by
  rw [packedSorted_toList]
  exact List.mergeSort_perm _ _

theorem packedSorted_sorted (w : Width) (raws : Array UInt64) (mask : UInt64) :
    (packedSorted w raws mask).toList.Pairwise (· ≤ ·) := by
  rw [packedSorted_toList]
  exact pairwise_le_mergeSort _

/-- **The longest run of the sorted packed indices is the longest bucket.** -/
theorem longestRun_packedSorted (w : Width) (raws : Array UInt64) (mask : UInt64) :
    longestRun (packedSorted w raws mask) = longestBucket (Gather.new w mask) raws.toList := by
  rw [longestRun_eq_maxCount (packedSorted_sorted w raws mask), longestBucket]
  exact maxCount_eq_of_perm (packedSorted_perm w raws mask)

/-- **A mask leaves no duplicates exactly when it separates the keys.** -/
theorem countDuplicates_packedSorted_eq_zero_iff (w : Width) (raws : Array UInt64)
    (mask : UInt64) :
    countDuplicates (packedSorted w raws mask) = 0 ↔
      (raws.toList.map (Gather.new w mask).apply).Nodup := by
  rw [countDuplicates_eq_zero_iff (packedSorted_sorted w raws mask)]
  exact (packedSorted_perm w raws mask).nodup_iff

end GatherMap.Proofs.Runs
