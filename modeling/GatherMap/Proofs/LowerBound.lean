import GatherMap.Proofs.Ordered
import Mathlib.Data.Nat.Size

/-!
# The branchless lower bound reads a fixed number of slots

`OrderedKeyset.lowerBound` halves its range at every step, whatever the comparisons answer: a
probe below the key moves the base past the lower half, any other probe keeps it, and the length
always becomes `len / 2`. So the search is oblivious to the data in its shape:

* `length_probes`: it reads exactly `Nat.size len` slots, the bit length of the range;
* `probes_bound`: every slot it reads lies in the range, even when `less` is no order at all;
* `lowerBound_congr`: the slots of `probes` are all it reads;
* `lowerBound_eq_findIdx`: on keys partitioned by `less · key` it answers the partition point,
  the first slot whose key is not below the probe, which is what the textbook midpoint search
  answers on sorted keys (`lowerBound_eq_midpointSearch`).
-/

namespace GatherMap.Proofs.LowerBound

open GatherMap OrderedKeyset Proofs.Ordered Proofs.Duplicates

variable {keys : Array UInt64} {less : UInt64 → UInt64 → Bool} {key : UInt64}

/-- The slots the lower-bound search reads, in the order it reads them: one at `base + len / 2`
for every halving of the range. -/
def probes (keys : Array UInt64) (less : UInt64 → UInt64 → Bool) (key : UInt64)
    (base len : Nat) : List Nat :=
  if len = 0 then []
  else
    let half := len / 2
    let base' := if less (keys[base + half]?.getD 0) key then base + (len - half) else base
    (base + half) :: probes keys less key base' half
termination_by len
decreasing_by omega

/-- `p` holds of the keys up to some slot and of none after it: a key for which `p` holds has
`p` hold of every key before it. -/
def Partitioned (keys : Array UInt64) (p : UInt64 → Bool) : Prop :=
  ∀ i j (hi : i < keys.size) (hj : j < keys.size), i ≤ j → p keys[j] = true → p keys[i] = true

/-- The textbook lower-bound search over `[lo, hi)`: probe the midpoint and keep the half that
holds the first key not below `key`. -/
def midpointSearch (keys : Array UInt64) (less : UInt64 → UInt64 → Bool) (key : UInt64)
    (lo hi : Nat) : Nat :=
  if lo < hi then
    let mid := (lo + hi) / 2
    if less (keys[mid]?.getD 0) key then midpointSearch keys less key (mid + 1) hi
    else midpointSearch keys less key lo mid
  else lo
termination_by hi - lo

/-! ### The shape of the search -/

/-- A nonzero number has one bit more than its half. -/
theorem size_eq_size_half_add_one {n : Nat} (hn : n ≠ 0) : n.size = (n / 2).size + 1 := by
  have hbit : (Nat.bit n.bodd n.div2).size = n.div2.size.succ :=
    Nat.size_bit (by rwa [Nat.bit_bodd_div2])
  rwa [Nat.bit_bodd_div2, Nat.div2_val] at hbit

/-- **The search reads as many slots as the range length has bits**, whatever the keys and the
comparisons. -/
theorem length_probes (keys : Array UInt64) (less : UInt64 → UInt64 → Bool) (key : UInt64)
    (base len : Nat) : (probes keys less key base len).length = len.size := by
  fun_induction probes keys less key base len with
  | case1 base => rfl
  | case2 base len hne half base' ih =>
    rw [List.length_cons, ih, size_eq_size_half_add_one hne]

/-- **Every slot the search reads lies in its range.** Both ways of halving keep the new range
inside the old one, so this needs nothing of `less`. -/
theorem probes_bound (keys : Array UInt64) (less : UInt64 → UInt64 → Bool) (key : UInt64)
    (base len : Nat) : ∀ i ∈ probes keys less key base len, base ≤ i ∧ i < base + len := by
  fun_induction probes keys less key base len with
  | case1 base => simp
  | case2 base len hne half base' ih =>
    have hbase : base ≤ base' ∧ base' + half ≤ base + len := by
      simp only [base']
      split <;> omega
    intro i hi
    rcases List.mem_cons.mp hi with rfl | hi
    · omega
    · have := ih i hi
      omega

theorem lowerBound_bound (keys : Array UInt64) (less : UInt64 → UInt64 → Bool) (key : UInt64)
    (base len : Nat) : base ≤ lowerBound keys less key base len ∧
      lowerBound keys less key base len ≤ base + len := by
  fun_induction lowerBound keys less key base len with
  | case1 base => omega
  | case2 base len hne half base' ih =>
    have hbase : base ≤ base' ∧ base' + half ≤ base + len := by
      simp only [base']
      split <;> omega
    omega

theorem probes_zero (keys : Array UInt64) (less : UInt64 → UInt64 → Bool) (key : UInt64)
    (base : Nat) : probes keys less key base 0 = [] := by
  rw [probes, if_pos rfl]

/-- One halving: the probe at `base + len / 2`, then the probes of the half the search keeps. -/
theorem probes_of_ne_zero (keys : Array UInt64) (less : UInt64 → UInt64 → Bool) (key : UInt64)
    (base : Nat) {len : Nat} (hne : len ≠ 0) :
    probes keys less key base len = (base + len / 2) :: probes keys less key
      (if less (keys[base + len / 2]?.getD 0) key then base + (len - len / 2) else base)
      (len / 2) := by
  rw [probes, if_neg hne]

theorem lowerBound_zero (keys : Array UInt64) (less : UInt64 → UInt64 → Bool) (key : UInt64)
    (base : Nat) : lowerBound keys less key base 0 = base := by
  rw [lowerBound, if_pos rfl]

theorem lowerBound_of_ne_zero (keys : Array UInt64) (less : UInt64 → UInt64 → Bool)
    (key : UInt64) (base : Nat) {len : Nat} (hne : len ≠ 0) :
    lowerBound keys less key base len = lowerBound keys less key
      (if less (keys[base + len / 2]?.getD 0) key then base + (len - len / 2) else base)
      (len / 2) := by
  rw [lowerBound, if_neg hne]

/-- **The search reads nothing but its probes**: keys that agree on them give the same answer
and the same probes. -/
theorem lowerBound_congr {keys' : Array UInt64} (base len : Nat)
    (hagree : ∀ i ∈ probes keys less key base len, keys'[i]? = keys[i]?) :
    lowerBound keys' less key base len = lowerBound keys less key base len ∧
      probes keys' less key base len = probes keys less key base len := by
  induction len using Nat.strong_induction_on generalizing base with
  | _ len ih =>
    by_cases hne : len = 0
    · subst hne
      rw [lowerBound_zero, lowerBound_zero, probes_zero, probes_zero]
      exact ⟨rfl, rfl⟩
    · rw [probes_of_ne_zero _ _ _ _ hne] at hagree
      have hread : keys'[base + len / 2]? = keys[base + len / 2]? := hagree _ List.mem_cons_self
      obtain ⟨hlb, hpr⟩ :=
        ih (len / 2) (by omega) _ fun i hi => hagree i (List.mem_cons_of_mem _ hi)
      rw [lowerBound_of_ne_zero _ _ _ _ hne, lowerBound_of_ne_zero _ _ _ _ hne,
        probes_of_ne_zero _ _ _ _ hne, probes_of_ne_zero keys _ _ _ hne, hread]
      exact ⟨hlb, by rw [hpr]⟩

/-! ### The partition point -/

/-- A split point within the keys is the first slot whose key fails `p`. -/
theorem eq_findIdx_of_splitsAt {p : UInt64 → Bool} {n : Nat} (hsplit : SplitsAt keys p n)
    (hn : n ≤ keys.size) : n = keys.toList.findIdx fun e => !p e := by
  obtain ⟨hbelow, habove⟩ := hsplit
  rcases Nat.lt_or_eq_of_le hn with hlt | rfl
  · refine ((List.findIdx_eq (by simpa using hlt)).mpr ⟨?_, fun j hj => ?_⟩).symm
    · simpa using habove n (Nat.le_refl n) hlt
    · simpa using hbelow j hj (by omega)
  · refine (List.findIdx_eq_length.mpr fun e he => ?_).symm
    obtain ⟨j, hj, rfl⟩ := List.mem_iff_getElem.mp he
    simpa using hbelow j (by simpa using hj) (by simpa using hj)

/-- **On partitioned keys the search answers the partition point.** -/
theorem lowerBound_eq_findIdx (hpart : Partitioned keys (less · key)) :
    lowerBound keys less key 0 keys.size = keys.toList.findIdx fun e => !less e key := by
  have hsplit := lowerBound_splitsAt key hpart 0 keys.size (by omega)
    (fun j hj _ => absurd hj (Nat.not_lt_zero j)) (fun j hj hjs => absurd hjs (by omega))
  exact eq_findIdx_of_splitsAt hsplit (by simpa using (lowerBound_bound keys less key 0 _).2)

/-- The midpoint search keeps the split point between `lo` and `hi`. -/
theorem midpointSearch_splitsAt (hpart : Partitioned keys (less · key)) (lo hi : Nat)
    (hlohi : lo ≤ hi) (hsize : hi ≤ keys.size)
    (hlow : ∀ j < lo, ∀ (hjs : j < keys.size), less keys[j] key = true)
    (hhigh : ∀ j, hi ≤ j → ∀ (hjs : j < keys.size), less keys[j] key = false) :
    SplitsAt keys (less · key) (midpointSearch keys less key lo hi) ∧
      midpointSearch keys less key lo hi ≤ keys.size := by
  fun_induction midpointSearch keys less key lo hi with
  | case1 lo hi hlt mid hless ih =>
    have hmid : mid < keys.size := by omega
    rw [Array.getElem?_eq_getElem hmid, Option.getD_some] at hless
    refine ih (by omega) hsize (fun j hj hjs => ?_) hhigh
    by_cases hjl : j < lo
    · exact hlow j hjl hjs
    · exact hpart j mid hjs hmid (by omega) hless
  | case2 lo hi hlt mid hless ih =>
    have hmid : mid < keys.size := by omega
    rw [Array.getElem?_eq_getElem hmid, Option.getD_some] at hless
    refine ih (by omega) (by omega) hlow (fun j hj hjs => ?_)
    by_cases hjh : hi ≤ j
    · exact hhigh j hjh hjs
    · cases hj' : less keys[j] key
      · rfl
      · exact absurd (hpart mid j hmid hjs (by omega) hj') (by simp [hless])
  | case3 lo hi hge =>
    exact ⟨⟨hlow, fun j hj hjs => hhigh j (by omega) hjs⟩, by omega⟩

/-- Keys sorted by a strict weak order are partitioned by `less · key` for every `key`. -/
theorem partitioned_of_sorted (hless : StrictWeakOrder less)
    (hsorted : keys.toList.Pairwise fun a b => less b a = false) (key : UInt64) :
    Partitioned keys (less · key) := by
  intro i j hi hj hij hlt
  change less keys[j] key = true at hlt
  change less keys[i] key = true
  rcases Nat.lt_or_eq_of_le hij with hij | rfl
  · have hle : less keys[j] keys[i] = false := by
      have h := List.pairwise_iff_getElem.mp hsorted i j (by simpa using hi) (by simpa using hj) hij
      simpa using h
    cases hki : less keys[i] key
    · rw [hless.not_trans hki hle] at hlt
      cases hlt
    · rfl
  · exact hlt

/-- **On sorted keys the search answers what the textbook midpoint search answers.** -/
theorem lowerBound_eq_midpointSearch (hless : StrictWeakOrder less)
    (hsorted : keys.toList.Pairwise fun a b => less b a = false) :
    lowerBound keys less key 0 keys.size = midpointSearch keys less key 0 keys.size := by
  have hpart := partitioned_of_sorted hless hsorted key
  obtain ⟨hsplit, hle⟩ := midpointSearch_splitsAt hpart 0 keys.size (Nat.zero_le _) (Nat.le_refl _)
    (fun j hj _ => absurd hj (Nat.not_lt_zero j)) (fun j hj hjs => absurd hjs (by omega))
  rw [lowerBound_eq_findIdx hpart, eq_findIdx_of_splitsAt hsplit hle]

/-- **The branchless lower bound.** On any keys and for any `less`, even one that is no order,
the search reads exactly `Nat.size keys.size` slots, all of them in range, and answers a slot
from `0` to the key count; on keys partitioned by `less · key` it answers the partition point,
and on keys sorted by a strict weak order it agrees with the textbook midpoint search. -/
theorem lower_bound_probes_and_partition_point (keys : Array UInt64)
    (less : UInt64 → UInt64 → Bool) (key : UInt64) :
    (probes keys less key 0 keys.size).length = keys.size.size ∧
    (∀ i ∈ probes keys less key 0 keys.size, i < keys.size) ∧
    (∀ keys' : Array UInt64, (∀ i ∈ probes keys less key 0 keys.size, keys'[i]? = keys[i]?) →
      lowerBound keys' less key 0 keys.size = lowerBound keys less key 0 keys.size) ∧
    lowerBound keys less key 0 keys.size ≤ keys.size ∧
    (Partitioned keys (less · key) →
      lowerBound keys less key 0 keys.size = keys.toList.findIdx fun e => !less e key) ∧
    (StrictWeakOrder less → keys.toList.Pairwise (fun a b => less b a = false) →
      lowerBound keys less key 0 keys.size = midpointSearch keys less key 0 keys.size) := by
  refine ⟨length_probes keys less key 0 _, fun i hi => ?_, fun keys' hagree => ?_,
    by simpa using (lowerBound_bound keys less key 0 _).2, lowerBound_eq_findIdx,
    lowerBound_eq_midpointSearch⟩
  · simpa using (probes_bound keys less key 0 _ i hi).2
  · exact (lowerBound_congr 0 keys.size hagree).1

end GatherMap.Proofs.LowerBound
