import GatherMap.OrderedKeyset
import GatherMap.Proofs.Duplicates
import GatherMap.Proofs.Gather

/-!
# Ordered keysets answer every probe

An ordered keyset sorts its keys by a strict weak order `less` and finds a probe by a branchless
lower-bound search. Whatever the order, as long as no two keys are equivalent:

* `lowerBound_splitsAt`: on keys split by `less · key` (those less than the key first), the lower
  bound is the split point;
* `search_sound`, `search_getElem`: a search answers the key count or a slot holding the probe,
  and finds every stored key at its own slot, so it is `idxOf` (`search_answers`);
* `sortKeys_perm`, `sortKeys_sorted`: sorting keeps the keys and orders them strictly;
* `ordered_keysets_answer`: sorting fails exactly when two keys are equivalent, and otherwise
  every probe is answered with its slot, also a probe equivalent to a stored key.
-/

namespace GatherMap.Proofs.Ordered

open GatherMap OrderedKeyset Proofs.Duplicates Proofs.Gather

variable {keys : Array UInt64} {less : UInt64 → UInt64 → Bool}

/-- `n` splits `keys` for `p`: `p` holds of the keys before slot `n` and of none from `n` on. -/
def SplitsAt (keys : Array UInt64) (p : UInt64 → Bool) (n : Nat) : Prop :=
  (∀ j < n, ∀ (hjs : j < keys.size), p keys[j] = true) ∧
    ∀ j, n ≤ j → ∀ (hjs : j < keys.size), p keys[j] = false

/-! ### The lower bound -/

/-- **The lower bound is the split point.** The search keeps the split point `p` between `base`
and `base + len`: a probe below `key` at slot `base + len / 2` puts `p` past that slot, and the new
range `[base + len - len / 2, base + len)` still holds it. -/
theorem lowerBound_splitsAt (key : UInt64)
    (hmono : ∀ i j (hi : i < keys.size) (hj : j < keys.size), i ≤ j →
      less keys[j] key = true → less keys[i] key = true)
    (base len : Nat) (hsize : base + len ≤ keys.size)
    (hlow : ∀ j < base, ∀ (hjs : j < keys.size), less keys[j] key = true)
    (hhigh : ∀ j, base + len ≤ j → ∀ (hjs : j < keys.size), less keys[j] key = false) :
    SplitsAt keys (less · key) (lowerBound keys less key base len) := by
  fun_induction lowerBound keys less key base len with
  | case1 base =>
    exact ⟨hlow, fun j hj hjs => hhigh j (by omega) hjs⟩
  | case2 base len hne half base' ih =>
    have hmid : base + half < keys.size := by omega
    have hprobe : keys[base + half]?.getD 0 = keys[base + half] := by
      rw [Array.getElem?_eq_getElem hmid, Option.getD_some]
    by_cases hlt : less keys[base + half] key = true
    · have hbase : base' = base + (len - half) := by
        simp only [base', hprobe, hlt, dite_true]
      rw [hbase] at ih ⊢
      refine ih (by omega) (fun j hj hjs => ?_) (fun j hj hjs => hhigh j (by omega) hjs)
      by_cases hjb : j < base
      · exact hlow j hjb hjs
      · exact hmono j (base + half) hjs hmid (by omega) hlt
    · have hbase : base' = base := by
        simp only [base', hprobe, hlt, dite_false, Bool.false_eq_true]
      rw [hbase] at ih ⊢
      refine ih (by omega) hlow (fun j hj hjs => ?_)
      by_cases hjl : base + len ≤ j
      · exact hhigh j hjl hjs
      · cases hj' : less keys[j] key
        · rfl
        · exact absurd (hmono (base + half) j hmid hjs (by omega) hj') hlt

/-! ### Searching -/

/-- **A search claims nothing false**: it answers the key count or a slot holding the probe. -/
theorem search_sound (keys : Array UInt64) (less : UInt64 → UInt64 → Bool) (raw : UInt64) :
    Slots.Sound keys.toList raw (search keys less raw) := by
  unfold search
  dsimp only
  split
  · rename_i hfound
    have hget : keys[lowerBound keys less raw 0 keys.size]? = some raw := by simpa using hfound
    obtain ⟨hlt, heq⟩ := Array.getElem?_eq_some_iff.mp hget
    exact Or.inr ⟨by simpa using hlt, by simpa using heq⟩
  · exact Or.inl (by simp)

theorem less_getElem (hsorted : keys.toList.Pairwise fun a b => less a b = true) {i j : Nat}
    (hi : i < keys.size) (hj : j < keys.size) (hij : i < j) : less keys[i] keys[j] = true := by
  have h := List.pairwise_iff_getElem.mp hsorted i j (by simpa using hi) (by simpa using hj) hij
  simpa using h

section Sorted

variable (hless : StrictWeakOrder less) (hsorted : keys.toList.Pairwise fun a b => less a b = true)
include hless hsorted

/-- In strictly sorted keys a stored key is found at its own slot. The keys below `keys[i]` are
exactly those before slot `i`. -/
theorem search_getElem {i : Nat} (hi : i < keys.size) : search keys less keys[i] = i := by
  have hmono : ∀ a b (ha : a < keys.size) (hb : b < keys.size), a ≤ b →
      less keys[b] keys[i] = true → less keys[a] keys[i] = true := by
    intro a b ha hb hab hlt
    rcases Nat.lt_or_eq_of_le hab with hab | rfl
    · exact hless.trans (less_getElem hsorted ha hb hab) hlt
    · exact hlt
  obtain ⟨hbelow, habove⟩ := lowerBound_splitsAt keys[i] hmono 0 keys.size (by omega)
    (fun j hj _ => absurd hj (Nat.not_lt_zero j)) (fun j hj hjs => absurd hjs (by omega))
  have hpos : lowerBound keys less keys[i] 0 keys.size = i := by
    apply Nat.le_antisymm
    · by_contra hgt
      have hself : less keys[i] keys[i] = true := hbelow i (by omega) hi
      rw [hless.irrefl] at hself
      cases hself
    · by_contra hlt
      have hlb : lowerBound keys less keys[i] 0 keys.size < i := by omega
      have hnot : less keys[lowerBound keys less keys[i] 0 keys.size] keys[i] = false :=
        habove _ (Nat.le_refl _) (by omega)
      rw [less_getElem hsorted (by omega) hi hlb] at hnot
      cases hnot
  unfold search
  simp [hpos]

/-- **A search in strictly sorted keys is `idxOf`.** -/
theorem search_answers : Slots.Answers keys.toList (search keys less) :=
  Slots.answers_of_sound (search_sound keys less) fun i hi => by
    simpa using search_getElem hless hsorted (by simpa using hi)

end Sorted

/-! ### Sorting -/

theorem sortKeys_eq_error {raws : Array UInt64} {e : BuildError}
    (h : sortKeys less raws = .error e) :
    ∃ a b, findDuplicate? raws less = some (a, b) ∧ e = .duplicateKey a b := by
  unfold sortKeys at h
  split at h
  · rename_i a b hdup
    exact ⟨a, b, hdup, (Except.error.inj h).symm⟩
  · cases h

theorem sortKeys_eq_ok {raws : Array UInt64} {sorted : Array UInt64}
    (h : sortKeys less raws = .ok sorted) :
    findDuplicate? raws less = none ∧ sorted = ((sortPositions raws less).map (·.1)).toArray := by
  unfold sortKeys at h
  split at h
  · cases h
  · rename_i hdup
    exact ⟨hdup, (Except.ok.inj h).symm⟩

theorem sortKeys_perm {raws sorted : Array UInt64} (h : sortKeys less raws = .ok sorted) :
    sorted.toList.Perm raws.toList := by
  obtain ⟨-, rfl⟩ := sortKeys_eq_ok h
  have hperm : ((sortPositions raws less).map (·.1)).Perm (raws.toList.zipIdx.map (·.1)) :=
    (sortPositions_perm raws).map _
  simpa [List.zipIdx_map_fst] using hperm

/-- **Sorting without equivalent keys orders them strictly.** Positions sorted stably are never
out of order, and two of them are never equivalent, so each key is below every later one. -/
theorem sortKeys_sorted (hless : StrictWeakOrder less) {raws sorted : Array UInt64}
    (h : sortKeys less raws = .ok sorted) :
    sorted.toList.Pairwise fun a b => less a b = true := by
  obtain ⟨hnone, rfl⟩ := sortKeys_eq_ok h
  have hdistinct := (findDuplicate?_eq_none_iff hless raws).mp hnone
  have hstrict : (sortPositions raws less).Pairwise fun a b => less a.1 b.1 = true := by
    refine ((sortPositions_sorted hless raws).and (sortPositions_nodup raws)).imp_of_mem ?_
    intro a b ha hb ⟨hnot, hne⟩
    obtain ⟨i, hi, rfl⟩ := (mem_sortPositions raws).mp ha
    obtain ⟨j, hj, rfl⟩ := (mem_sortPositions raws).mp hb
    have hij : i ≠ j := fun hij => hne (by subst hij; rfl)
    have hneq : ¬Equivalent less raws[i] raws[j] := by
      rcases Nat.lt_or_gt_of_ne hij with hlt | hlt
      · exact hdistinct i j hi hj hlt
      · exact fun heq => hdistinct j i hj hi hlt ⟨heq.2, heq.1⟩
    cases hab : less raws[i] raws[j]
    · exact absurd ⟨hab, hnot⟩ hneq
    · rfl
  simpa [List.pairwise_map] using hstrict

/-- Sorting fails exactly when the duplicate search finds a pair. -/
theorem exists_sortKeys_eq_error_iff (raws : Array UInt64) :
    (∃ e, sortKeys less raws = .error e) ↔ findDuplicate? raws less ≠ none := by
  constructor
  · rintro ⟨e, h⟩
    obtain ⟨a, b, hdup, -⟩ := sortKeys_eq_error h
    rw [hdup]
    exact Option.some_ne_none _
  · intro hfound
    cases hdup : findDuplicate? raws less with
    | none => exact absurd hdup hfound
    | some pair =>
      refine ⟨.duplicateKey pair.1 pair.2, ?_⟩
      rw [sortKeys, hdup]

/-! ### The natural order -/

/-- Raw forms of a key type's width decode to distinct integers. A raw form keeps its value or loses
`2 ^ bits`, which makes it negative. -/
theorem intOfRaw_injective {t : KeyType} {a b : UInt64} (ha : Fits t.width a)
    (hb : Fits t.width b) (h : t.intOfRaw a = t.intOfRaw b) : a = b := by
  apply UInt64.toNat_inj.mp
  have hpow : Int.pow 2 t.width.bits = ((2 ^ t.width.bits : Nat) : Int) := by
    rw [Int.natCast_pow]
    rfl
  unfold Fits at ha hb
  unfold KeyType.intOfRaw at h
  dsimp only at h
  split_ifs at h <;> omega

/-- **Keys of a type's width are equivalent in its natural order only when equal.** -/
theorem equivalent_naturalLess_iff {t : KeyType} {a b : UInt64} (ha : Fits t.width a)
    (hb : Fits t.width b) : Equivalent (KeyOrder.naturalLess t) a b ↔ a = b := by
  by_cases hs : t.isSigned = true
  · simp only [Equivalent, KeyOrder.naturalLess, hs, if_true, decide_eq_false_iff_not, Int.not_lt]
    constructor
    · intro hle
      exact intOfRaw_injective ha hb (Int.le_antisymm hle.2 hle.1)
    · rintro rfl
      exact ⟨Int.le_refl _, Int.le_refl _⟩
  · have hless : KeyOrder.naturalLess t = fun a b => decide (a < b) := by
      funext a b
      simp [KeyOrder.naturalLess, hs]
    rw [hless]
    exact equivalent_ltRaw_iff

/-- Sorting raw forms of a type's width in its natural order fails exactly on equal keys. -/
theorem exists_sortKeys_naturalLess_eq_error_iff {t : KeyType} {raws : Array UInt64}
    (hfit : ∀ raw ∈ raws, Fits t.width raw) :
    (∃ e, sortKeys (KeyOrder.naturalLess t) raws = .error e) ↔ ¬raws.toList.Nodup := by
  rw [exists_sortKeys_eq_error_iff, Ne,
    findDuplicate?_eq_none_iff_nodup (naturalLess_strictWeakOrder t)
      fun i j hi hj => equivalent_naturalLess_iff (hfit _ (Array.getElem_mem hi))
        (hfit _ (Array.getElem_mem hj))]

/-! ### Keysets sorted by any strict weak order -/

/-- **Ordered keysets answer every probe, whatever the strict weak order.** Sorting fails exactly
when two keys are equivalent, and then with `duplicateKey` at the positions of two equivalent
keys; otherwise it holds the keys strictly increasing, and a search answers every probe with its
slot or the key count, also a probe equivalent to a stored key without being equal to it. -/
theorem ordered_keysets_answer (less : UInt64 → UInt64 → Bool) (hless : StrictWeakOrder less)
    (raws : Array UInt64) :
    ((∃ e, sortKeys less raws = .error e) ↔
      ∃ i j, ∃ (hi : i < raws.size) (hj : j < raws.size),
        i < j ∧ Equivalent less raws[i] raws[j]) ∧
    (∀ e, sortKeys less raws = .error e →
      ∃ a b, ∃ (ha : a < raws.size) (hb : b < raws.size),
        e = .duplicateKey a b ∧ a < b ∧ Equivalent less raws[a] raws[b]) ∧
    ∀ sorted, sortKeys less raws = .ok sorted →
      sorted.toList.Perm raws.toList ∧ sorted.toList.Pairwise (fun a b => less a b = true) ∧
        ∀ raw, search sorted less raw = sorted.toList.idxOf raw := by
  refine ⟨?_, fun e h => ?_, fun sorted h => ?_⟩
  · rw [exists_sortKeys_eq_error_iff, Ne, findDuplicate?_eq_none_iff hless]
    simp only [not_forall, not_not, exists_prop]
  · obtain ⟨a, b, hdup, rfl⟩ := sortKeys_eq_error h
    obtain ⟨ha, hb, hab, heq⟩ := findDuplicate?_eq_some hless hdup
    exact ⟨a, b, ha, hb, rfl, hab, heq⟩
  · have hsorted := sortKeys_sorted hless h
    exact ⟨sortKeys_perm h, hsorted, search_answers hless hsorted⟩

theorem ordered_keysets_answer_popcount :
    StrictWeakOrder (KeyOrder.less .u8 .popcount) ∧
    (((∃ e, sortKeys (KeyOrder.less .u8 .popcount) #[7, 1, 6] = .error e) ↔
      ∃ i j, ∃ (hi : i < (#[7, 1, 6] : Array UInt64).size)
        (hj : j < (#[7, 1, 6] : Array UInt64).size),
        i < j ∧ Equivalent (KeyOrder.less .u8 .popcount) (#[7, 1, 6] : Array UInt64)[i]
          (#[7, 1, 6] : Array UInt64)[j]) ∧
    (∀ e, sortKeys (KeyOrder.less .u8 .popcount) #[7, 1, 6] = .error e →
      ∃ a b, ∃ (ha : a < (#[7, 1, 6] : Array UInt64).size)
        (hb : b < (#[7, 1, 6] : Array UInt64).size),
        e = .duplicateKey a b ∧ a < b ∧ Equivalent (KeyOrder.less .u8 .popcount)
          (#[7, 1, 6] : Array UInt64)[a] (#[7, 1, 6] : Array UInt64)[b]) ∧
    ∀ sorted, sortKeys (KeyOrder.less .u8 .popcount) #[7, 1, 6] = .ok sorted →
      sorted.toList.Perm [7, 1, 6] ∧
        sorted.toList.Pairwise (fun a b => KeyOrder.less .u8 .popcount a b = true) ∧
        ∀ raw, search sorted (KeyOrder.less .u8 .popcount) raw = sorted.toList.idxOf raw) :=
  ⟨KeyOrder.strictWeakOrder .u8 .popcount,
    ordered_keysets_answer _ (KeyOrder.strictWeakOrder .u8 .popcount) #[7, 1, 6]⟩

end GatherMap.Proofs.Ordered
