import GatherMap.OrderedKeyset
import GatherMap.Proofs.Slots

/-!
# Finding equivalent keys

An ordering is given as a "less than" test, and its contract is that of a strict weak order
(`StrictWeakOrder`): keys that neither is less than the other are *equivalent*, and the keys fall
into equivalence classes ordered one after the other. Every order a keyset can be sorted by meets
it (`KeyOrder.strictWeakOrder`).

`findDuplicate?` sorts the input positions stably by their keys and reports the first adjacent
pair that is not strictly increasing. Under a strict weak order:

* `findDuplicate?_eq_none_iff`: it reports nothing exactly when no two positions hold equivalent
  keys;
* `findDuplicate?_eq_some`: what it reports is two positions, the first smaller, whose keys are
  equivalent.
-/

namespace GatherMap.Proofs.Duplicates

open GatherMap

variable {α β : Type}

/-! ### Strict weak orders -/

/-- The contract of an ordering given as a "less than" test. -/
structure StrictWeakOrder (less : α → α → Bool) : Prop where
  irrefl : ∀ a, less a a = false
  trans : ∀ {a b c}, less a b = true → less b c = true → less a c = true
  /-- Not being less is transitive too: equivalent keys compare alike with every other key. -/
  not_trans : ∀ {a b c}, less b a = false → less c b = false → less c a = false

/-- Neither key is less than the other. -/
def Equivalent (less : α → α → Bool) (a b : α) : Prop := less a b = false ∧ less b a = false

variable {less : α → α → Bool}

theorem StrictWeakOrder.asymm (h : StrictWeakOrder less) {a b : α} (hab : less a b = true) :
    less b a = false := by
  cases hba : less b a
  · rfl
  · have := h.irrefl a
    rw [h.trans hab hba] at this
    cases this

/-- A test that compares images in a linear order is a strict weak order. -/
theorem StrictWeakOrder.of_lt [LinearOrder β] (f : α → β) (h : ∀ a b, less a b = decide (f a < f b)) :
    StrictWeakOrder less where
  irrefl a := by simp [h]
  trans hab hbc := by
    simp only [h, decide_eq_true_eq] at hab hbc ⊢
    exact lt_trans hab hbc
  not_trans hba hcb := by
    simp only [h, decide_eq_false_iff_not, not_lt] at hba hcb ⊢
    exact le_trans hba hcb

/-- The reverse of a strict weak order is one. -/
theorem StrictWeakOrder.swap (h : StrictWeakOrder less) : StrictWeakOrder fun a b => less b a where
  irrefl a := h.irrefl a
  trans hab hbc := h.trans hbc hab
  not_trans hba hcb := h.not_trans hcb hba

theorem naturalLess_strictWeakOrder (t : KeyType) : StrictWeakOrder (KeyOrder.naturalLess t) := by
  by_cases hs : t.isSigned
  · exact StrictWeakOrder.of_lt t.intOfRaw fun a b => by simp [KeyOrder.naturalLess, hs]
  · exact StrictWeakOrder.of_lt UInt64.toNat fun a b => by
      simp [KeyOrder.naturalLess, hs, UInt64.lt_iff_toNat_lt]

/-- **Every order a keyset can be sorted by is a strict weak order.** -/
theorem KeyOrder.strictWeakOrder (t : KeyType) (order : KeyOrder) :
    StrictWeakOrder (order.less t) := by
  cases order with
  | natural => exact naturalLess_strictWeakOrder t
  | reverse => exact (naturalLess_strictWeakOrder t).swap
  | raw =>
    exact StrictWeakOrder.of_lt UInt64.toNat fun a b => by
      simp [KeyOrder.less, UInt64.lt_iff_toNat_lt]
  | popcount => exact StrictWeakOrder.of_lt popCount fun a b => by simp [KeyOrder.less]
  | quotient d =>
    exact StrictWeakOrder.of_lt (fun a : UInt64 => a.toNat / d) fun a b => by
      simp [KeyOrder.less]
  | remainder d =>
    exact StrictWeakOrder.of_lt (fun a : UInt64 => a.toNat % d) fun a b => by
      simp [KeyOrder.less]

/-- Raw forms compared as unsigned integers: equivalence is equality. -/
theorem ltRaw_strictWeakOrder : StrictWeakOrder fun a b : UInt64 => decide (a < b) :=
  StrictWeakOrder.of_lt UInt64.toNat fun a b => by simp [UInt64.lt_iff_toNat_lt]

theorem equivalent_ltRaw_iff {a b : UInt64} : Equivalent (fun a b => decide (a < b)) a b ↔ a = b := by
  simp only [Equivalent, decide_eq_false_iff_not, UInt64.not_lt]
  exact ⟨fun h => UInt64.le_antisymm h.2 h.1, fun h => h ▸ ⟨UInt64.le_refl a, UInt64.le_refl a⟩⟩

/-! ### Sorting positions -/

theorem sortPositions_perm (keys : Array α) :
    (sortPositions keys less).Perm keys.toList.zipIdx :=
  List.mergeSort_perm _ _

theorem sortPositions_nodup (keys : Array α) : (sortPositions keys less).Nodup :=
  (sortPositions_perm keys).nodup_iff.mpr (List.nodup_zipIdx_map_snd keys.toList).of_map

theorem mem_sortPositions (keys : Array α) {e : α × Nat} :
    e ∈ sortPositions keys less ↔ ∃ i, ∃ hi : i < keys.size, e = (keys[i], i) := by
  rw [(sortPositions_perm keys).mem_iff, List.mem_zipIdx_iff_getElem?]
  constructor
  · intro h
    obtain ⟨hi, hget⟩ := List.getElem?_eq_some_iff.mp h
    exact ⟨e.2, by simpa using hi, by ext <;> simp [← hget]⟩
  · rintro ⟨i, hi, rfl⟩
    simp [hi]

section Sorting

variable (hless : StrictWeakOrder less)
include hless

/-- The order `sortPositions` sorts by, "not after", is transitive. -/
theorem StrictWeakOrder.positionLe_trans (a b c : α × Nat) (hab : (!less b.1 a.1) = true)
    (hbc : (!less c.1 b.1) = true) : (!less c.1 a.1) = true := by
  simp only [Bool.not_eq_eq_eq_not, Bool.not_true] at hab hbc ⊢
  exact hless.not_trans hab hbc

/-- The order `sortPositions` sorts by, "not after", is total. -/
theorem StrictWeakOrder.positionLe_total (a b : α × Nat) :
    ((!less b.1 a.1) || (!less a.1 b.1)) = true := by
  cases hab : less a.1 b.1
  · simp
  · simp [hless.asymm hab]

/-- Sorted positions: a later key is never less than an earlier one. -/
theorem sortPositions_sorted (keys : Array α) :
    (sortPositions keys less).Pairwise fun a b => less b.1 a.1 = false := by
  have hsorted := List.pairwise_mergeSort hless.positionLe_trans hless.positionLe_total
    keys.toList.zipIdx
  exact hsorted.imp fun hab => by simpa using hab

/-- **Stability**: of two positions with equivalent keys, the smaller comes first. -/
theorem sortPositions_stable {keys : Array α} {i j : Nat} (hi : i < keys.size) (hj : j < keys.size)
    (hij : i < j) (heq : Equivalent less keys[i] keys[j]) :
    [(keys[i], i), (keys[j], j)].Sublist (sortPositions keys less) := by
  have hsub : [(keys[i], i), (keys[j], j)].Sublist keys.toList.zipIdx := by
    rw [← List.take_append_drop j keys.toList.zipIdx]
    show ([(keys[i], i)] ++ [(keys[j], j)]).Sublist _
    refine List.Sublist.append ?_ ?_
    · refine List.singleton_sublist.mpr (List.mem_iff_getElem.mpr ⟨i, by simp; omega, ?_⟩)
      simp
    · refine List.singleton_sublist.mpr (List.mem_iff_getElem.mpr ⟨0, by simp; omega, ?_⟩)
      simp
  exact List.pair_sublist_mergeSort hless.positionLe_trans hless.positionLe_total
    (by simpa using heq.2) hsub

end Sorting

/-! ### The first adjacent pair -/

theorem firstAdjacent?_eq_none_iff (p : β → β → Bool) :
    ∀ l : List β, firstAdjacent? p l = none ↔ ∀ i (hi : i + 1 < l.length), p l[i] l[i + 1] = false
  | [] => by simp [firstAdjacent?]
  | [a] => by simp [firstAdjacent?]
  | a :: b :: rest => by
    unfold firstAdjacent?
    by_cases hab : p a b = true
    · simp only [hab, if_true, reduceCtorEq, false_iff, not_forall]
      exact ⟨0, by simp, by simp [hab]⟩
    · rw [if_neg hab, firstAdjacent?_eq_none_iff p (b :: rest)]
      constructor
      · intro h i hi
        cases i with
        | zero => simpa using hab
        | succ i => exact h i (by simp at hi ⊢; omega)
      · intro h i hi
        exact h (i + 1) (by simp at hi ⊢; omega)

theorem firstAdjacent?_eq_some (p : β → β → Bool) :
    ∀ (l : List β) {a b : β}, firstAdjacent? p l = some (a, b) →
      ∃ i, ∃ hi : i + 1 < l.length, l[i] = a ∧ l[i + 1] = b ∧ p a b = true
  | [], _, _, h => by simp [firstAdjacent?] at h
  | [_], _, _, h => by simp [firstAdjacent?] at h
  | c :: d :: rest, a, b, h => by
    unfold firstAdjacent? at h
    by_cases hcd : p c d = true
    · rw [if_pos hcd, Option.some.injEq, Prod.mk.injEq] at h
      obtain ⟨rfl, rfl⟩ := h
      exact ⟨0, by simp, rfl, rfl, hcd⟩
    · rw [if_neg hcd] at h
      obtain ⟨i, hi, hia, hib, hp⟩ := firstAdjacent?_eq_some p (d :: rest) h
      exact ⟨i + 1, by simp at hi ⊢; omega, by simpa using hia, by simpa using hib, hp⟩

/-- In a list without repetition, a pair that is a sublist keeps the order of its positions. -/
theorem lt_of_pair_sublist [DecidableEq β] {l : List β} (hl : l.Nodup) {i j : Nat}
    (hi : i < l.length) (hj : j < l.length) (hsub : [l[i], l[j]].Sublist l) : i < j := by
  have hord : l.Pairwise fun u v => l.idxOf u < l.idxOf v := by
    refine List.pairwise_iff_getElem.mpr fun u v hu hv huv => ?_
    rw [hl.idxOf_getElem u hu, hl.idxOf_getElem v hv]
    exact huv
  have hpair := (List.pairwise_cons.mp (hord.sublist hsub)).1 l[j] (List.mem_singleton_self _)
  rwa [hl.idxOf_getElem i hi, hl.idxOf_getElem j hj] at hpair

/-! ### Duplicates -/

section Found

variable (hless : StrictWeakOrder less)
include hless

omit hless in
theorem findDuplicate?_eq_firstAdjacent? (keys : Array α) :
    findDuplicate? keys less =
      (firstAdjacent? (fun a b => !less a.1 b.1) (sortPositions keys less)).map
        fun (a, b) => (a.2, b.2) := rfl

/-- **What `findDuplicate?` reports are two positions, in order, of equivalent keys.** The pair is
adjacent in the sorted positions, so neither key is less than the other, and stability keeps the
smaller position first. -/
theorem findDuplicate?_eq_some {keys : Array α} {x y : Nat}
    (h : findDuplicate? keys less = some (x, y)) :
    ∃ hx : x < keys.size, ∃ hy : y < keys.size, x < y ∧ Equivalent less keys[x] keys[y] := by
  rw [findDuplicate?_eq_firstAdjacent?, Option.map_eq_some_iff] at h
  obtain ⟨⟨a, b⟩, hfound, hxy⟩ := h
  simp only [Prod.mk.injEq] at hxy
  obtain ⟨rfl, rfl⟩ := hxy
  obtain ⟨k, hk, hka, hkb, hnot⟩ := firstAdjacent?_eq_some _ (sortPositions keys less) hfound
  have hba : less b.1 a.1 = false := by
    have := List.pairwise_iff_getElem.mp (sortPositions_sorted hless keys) k (k + 1) (by omega) hk
      (by omega)
    rwa [hka, hkb] at this
  have hab : less a.1 b.1 = false := by simpa using hnot
  obtain ⟨x, hx, rfl⟩ := (mem_sortPositions keys).mp (hka ▸ List.getElem_mem (by omega))
  obtain ⟨y, hy, rfl⟩ := (mem_sortPositions keys).mp (hkb ▸ List.getElem_mem hk)
  refine ⟨hx, hy, ?_, hab, hba⟩
  have hne : x ≠ y := by
    rintro rfl
    have := (sortPositions_nodup keys).getElem_inj_iff.mp (hka.trans hkb.symm)
    omega
  rcases Nat.lt_or_gt_of_ne hne with hlt | hgt
  · exact hlt
  · classical
    have hsub := sortPositions_stable hless hy hx hgt ⟨hba, hab⟩
    rw [← hka, ← hkb] at hsub
    have := lt_of_pair_sublist (sortPositions_nodup keys) (by omega) (by omega) hsub
    omega

/-- **`findDuplicate?` finds nothing exactly when no two positions hold equivalent keys.** When
every adjacent pair of sorted positions is strictly increasing, all pairs are. -/
theorem findDuplicate?_eq_none_iff (keys : Array α) :
    findDuplicate? keys less = none ↔
      ∀ i j (hi : i < keys.size) (hj : j < keys.size), i < j → ¬Equivalent less keys[i] keys[j] := by
  constructor
  · intro hnone i j hi hj hij heq
    rw [findDuplicate?_eq_firstAdjacent?, Option.map_eq_none_iff,
      firstAdjacent?_eq_none_iff] at hnone
    have hchain : ∀ k (hk : k + 1 < (sortPositions keys less).length),
        less (sortPositions keys less)[k].1 (sortPositions keys less)[k + 1].1 = true := by
      intro k hk
      simpa using hnone k hk
    have htrans : Trans (fun a b : α × Nat => less a.1 b.1 = true)
        (fun a b : α × Nat => less a.1 b.1 = true) (fun a b : α × Nat => less a.1 b.1 = true) :=
      ⟨hless.trans⟩
    have hpair : (sortPositions keys less).Pairwise fun a b => less a.1 b.1 = true :=
      List.isChain_iff_pairwise.mp (List.isChain_iff_getElem.mpr hchain)
    obtain ⟨u, hu, hui⟩ := List.mem_iff_getElem.mp ((mem_sortPositions keys).mpr ⟨i, hi, rfl⟩)
    obtain ⟨v, hv, hvj⟩ := List.mem_iff_getElem.mp ((mem_sortPositions keys).mpr ⟨j, hj, rfl⟩)
    rcases Nat.lt_trichotomy u v with huv | rfl | hvu
    · have := List.pairwise_iff_getElem.mp hpair u v hu hv huv
      rw [hui, hvj] at this
      rw [heq.1] at this
      cases this
    · have := hui.symm.trans hvj
      simp only [Prod.mk.injEq] at this
      omega
    · have := List.pairwise_iff_getElem.mp hpair v u hv hu hvu
      rw [hui, hvj] at this
      rw [heq.2] at this
      cases this
  · intro hnot
    cases hfound : findDuplicate? keys less with
    | none => rfl
    | some pair =>
      obtain ⟨hx, hy, hxy, heq⟩ := findDuplicate?_eq_some hless hfound
      exact absurd heq (hnot _ _ hx hy hxy)

/-- Where equivalent keys are equal keys, `findDuplicate?` finds nothing exactly when the keys
are pairwise distinct. -/
theorem findDuplicate?_eq_none_iff_nodup {keys : Array α}
    (hequiv : ∀ i j (hi : i < keys.size) (hj : j < keys.size),
      Equivalent less keys[i] keys[j] ↔ keys[i] = keys[j]) :
    findDuplicate? keys less = none ↔ keys.toList.Nodup := by
  rw [findDuplicate?_eq_none_iff hless, List.Nodup, List.pairwise_iff_getElem]
  simp only [Array.length_toList, Array.getElem_toList]
  constructor
  · intro h i j hi hj hij heq
    exact h i j hi hj hij ((hequiv i j hi hj).mpr heq)
  · intro h i j hi hj hij hequ
    exact h i j hi hj hij ((hequiv i j hi hj).mp hequ)

end Found

end GatherMap.Proofs.Duplicates
