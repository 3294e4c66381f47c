import GatherMap.Placement
import GatherMap.Proofs.Runs

/-!
# Placed keys lie within reach of their bucket start

`Placement.place` sorts the keys stably by packed index and rotates the first full bucket to the
end; `Placement.bucketStarts` records, for every packed index, the first slot holding it. A lookup
scans `depth` slots from that start. This module shows that the scan always reaches the key:

* `place_perm`: placing only reorders the keys;
* `place_contiguous`: every bucket occupies consecutive slots, because the rotation cuts the
  sorted keys at a bucket boundary (`endOfFullBucket_boundary`);
* `bucketStarts_getElem?`: the table entry of a packed index is the first slot of its bucket;
  `bucketStarts_getElem?_bucketStart` reads it off at a placed key's own index;
* `within_bucket`: in a contiguous layout, a key's slot is less than its bucket's start plus the
  bucket's size, hence less than the start plus any depth that bounds every bucket.
-/

namespace GatherMap.Proofs.Placement

open GatherMap Placement

variable {α β : Type}

/-! ### Contiguous buckets -/

/-- The keys of one bucket occupy consecutive slots: a slot between two slots of one bucket is in
that bucket too. -/
def Contiguous (f : α → β) (l : List α) : Prop :=
  ∀ i j k (hij : i ≤ j) (hjk : j ≤ k) (hk : k < l.length), f l[i] = f l[k] → f l[j] = f l[k]

theorem contiguous_of_sorted {f : α → UInt64} {l : List α}
    (h : l.Pairwise fun a b => f a ≤ f b) : Contiguous f l := by
  intro i j k hij hjk hk heq
  have hmono : ∀ a b (hab : a ≤ b) (hb : b < l.length), f l[a] ≤ f l[b] := by
    intro a b hab hb
    rcases Nat.lt_or_eq_of_le hab with hlt | rfl
    · exact List.pairwise_iff_getElem.mp h a b (by omega) hb hlt
    · exact UInt64.le_refl _
  have h1 := hmono i j hij (by omega)
  have h2 := hmono j k hjk hk
  exact UInt64.le_antisymm h2 (heq ▸ h1)

/-- Two contiguous layouts without a shared bucket stay contiguous side by side. -/
theorem Contiguous.append {f : α → β} {A B : List α} (hA : Contiguous f A) (hB : Contiguous f B)
    (hdisj : ∀ a ∈ A, ∀ b ∈ B, f a ≠ f b) : Contiguous f (A ++ B) := by
  intro i j k hij hjk hk heq
  have hk' : k < A.length + B.length := by rw [← List.length_append]; exact hk
  by_cases hkA : k < A.length
  · have ei : (A ++ B)[i] = A[i] := List.getElem_append_left (by omega)
    have ej : (A ++ B)[j] = A[j] := List.getElem_append_left (by omega)
    have ek : (A ++ B)[k] = A[k] := List.getElem_append_left hkA
    rw [ei, ek] at heq
    rw [ej, ek]
    exact hA i j k hij hjk hkA heq
  · have ek : (A ++ B)[k] = B[k - A.length] := List.getElem_append_right (by omega)
    by_cases hiA : i < A.length
    · have ei : (A ++ B)[i] = A[i] := List.getElem_append_left hiA
      rw [ei, ek] at heq
      exact absurd heq (hdisj _ (List.getElem_mem _) _ (List.getElem_mem _))
    · have ei : (A ++ B)[i] = B[i - A.length] := List.getElem_append_right (by omega)
      have ej : (A ++ B)[j] = B[j - A.length] := List.getElem_append_right (by omega)
      rw [ei, ek] at heq
      rw [ej, ek]
      exact hB (i - A.length) (j - A.length) (k - A.length) (by omega) (by omega) (by omega) heq

/-! ### The rotation point -/

/-- The scan of `endOfFullBucket` stops at a bucket boundary or at the end. Its result, read from
the position of the scan, is that position plus the length of the rest, or that position plus
some `k + 1` where the `k`-th and `k + 1`-th values of `previous :: rest` differ. -/
theorem go_boundary (depth : Nat) :
    ∀ (rest : List UInt64) (previous : UInt64) (run position : Nat),
      endOfFullBucket.go depth previous run position rest = position + rest.length ∨
        ∃ k, ∃ hk : k + 1 < (previous :: rest).length,
          endOfFullBucket.go depth previous run position rest = position + k ∧
            (previous :: rest)[k] ≠ (previous :: rest)[k + 1]
  | [], previous, run, position => Or.inl rfl
  | current :: rest, previous, run, position => by
    unfold endOfFullBucket.go
    by_cases hcur : current = previous
    · rw [if_pos (by simp [hcur])]
      rcases go_boundary depth rest current (run + 1) (position + 1) with h | ⟨k, hk, h, hne⟩
      · exact Or.inl (by rw [h, List.length_cons]; omega)
      · refine Or.inr ⟨k + 1, by simp at hk ⊢; omega, by rw [h]; omega, ?_⟩
        simpa using hne
    · rw [if_neg (by simpa using hcur)]
      split
      · exact Or.inr ⟨0, by simp, by omega, by simpa using Ne.symm hcur⟩
      · rcases go_boundary depth rest current 1 (position + 1) with h | ⟨k, hk, h, hne⟩
        · exact Or.inl (by rw [h, List.length_cons]; omega)
        · refine Or.inr ⟨k + 1, by simp at hk ⊢; omega, by rw [h]; omega, ?_⟩
          simpa using hne

/-- **The rotation point is a bucket boundary**: it is at most the length, and when it falls
between two slots, their packed indices differ. -/
theorem endOfFullBucket_boundary (packed : List UInt64) (depth : Nat) :
    endOfFullBucket packed depth ≤ packed.length ∧
      ∀ k (hk : k + 1 < packed.length), endOfFullBucket packed depth = k + 1 →
        packed[k] ≠ packed[k + 1] := by
  cases packed with
  | nil => exact ⟨by simp [endOfFullBucket], fun k hk => by simp at hk⟩
  | cons first rest =>
    simp only [endOfFullBucket]
    rcases go_boundary depth rest first 1 1 with h | ⟨k, hk, h, hne⟩
    · refine ⟨by rw [h, List.length_cons]; omega, fun k' hk' he => ?_⟩
      rw [h] at he
      rw [List.length_cons] at hk'
      omega
    · refine ⟨by rw [h]; simp at hk ⊢; omega, fun k' hk' he => ?_⟩
      have hkk : k' = k := by omega
      subst hkk
      exact hne

/-! ### The placed layout -/

/-- The keys sorted stably by packed index. -/
theorem sorted_place (g : Gather) (raws : List UInt64) :
    (raws.mergeSort fun a b => decide (g.apply a ≤ g.apply b)).Pairwise
      fun a b => g.apply a ≤ g.apply b := by
  have hsorted := List.pairwise_mergeSort
    (fun a b c (hab : decide (g.apply a ≤ g.apply b)) (hbc : decide (g.apply b ≤ g.apply c)) =>
      decide_eq_true (UInt64.le_trans (of_decide_eq_true hab) (of_decide_eq_true hbc)))
    (fun a b => by simpa using UInt64.le_total (g.apply a) (g.apply b)) raws
  exact hsorted.imp fun hab => of_decide_eq_true hab

theorem rotate_perm (xs : List α) (n : Nat) : (rotate xs n).Perm xs := by
  unfold rotate
  calc (xs.drop n ++ xs.take n).Perm (xs.take n ++ xs.drop n) := List.perm_append_comm
    _ = xs := List.take_append_drop n xs

/-- **Placing only reorders the keys.** -/
theorem place_perm (g : Gather) (raws : List UInt64) (depth : Nat) :
    (place g raws depth).Perm raws :=
  (rotate_perm _ _).trans (List.mergeSort_perm _ _)

theorem length_place (g : Gather) (raws : List UInt64) (depth : Nat) :
    (place g raws depth).length = raws.length :=
  (place_perm g raws depth).length_eq

/-- **Every bucket of the placed keys occupies consecutive slots.** A key after the cut and a key
before it never share a bucket, since the keys on both sides of the cut would share it too. -/
theorem place_contiguous (g : Gather) (raws : List UInt64) (depth : Nat) :
    Contiguous g.apply (place g raws depth) := by
  set sorted := raws.mergeSort fun a b => decide (g.apply a ≤ g.apply b) with hsorted_def
  set e := endOfFullBucket (sorted.map g.apply) depth with he_def
  have hsorted : sorted.Pairwise fun a b => g.apply a ≤ g.apply b := sorted_place g raws
  have hall : Contiguous g.apply sorted := contiguous_of_sorted hsorted
  obtain ⟨hle, hcut⟩ := endOfFullBucket_boundary (sorted.map g.apply) depth
  rw [← he_def, List.length_map] at hle
  rw [← he_def] at hcut
  show Contiguous g.apply (rotate sorted e)
  refine Contiguous.append (contiguous_of_sorted (hsorted.sublist (List.drop_sublist _ _)))
    (contiguous_of_sorted (hsorted.sublist (List.take_sublist _ _))) ?_
  intro a ha b hb hab
  obtain ⟨x, hx, rfl⟩ := List.mem_iff_getElem.mp ha
  obtain ⟨y, hy, rfl⟩ := List.mem_iff_getElem.mp hb
  rw [List.length_drop] at hx
  rw [List.length_take] at hy
  rw [List.getElem_drop, List.getElem_take] at hab
  have hlast := hall y (e - 1) (e + x) (by omega) (by omega) (by omega) hab.symm
  have hfirst := hall y e (e + x) (by omega) (by omega) (by omega) hab.symm
  have hcut' := hcut (e - 1) (by simp; omega) (by omega)
  simp only [List.getElem_map, show e - 1 + 1 = e by omega] at hcut'
  exact hcut' (hlast.trans hfirst.symm)

/-! ### Bucket starts -/

/-- The fold that writes bucket starts: later writes of one packed index win, so from the right,
the first pair of the list with that index gives the entry. -/
theorem foldr_set_getElem? (h : UInt64 → Nat) :
    ∀ (L : List (UInt64 × Nat)) (A : Array Nat) (p : Nat), p < A.size →
      (L.foldr (fun e starts => starts.set! (h e.1) e.2) A)[p]? =
        match L.find? (fun e => h e.1 == p) with
        | some e => some e.2
        | none => A[p]?
  | [], A, p, _ => rfl
  | e :: L, A, p, hp => by
    have hsize : (L.foldr (fun e starts => starts.set! (h e.1) e.2) A).size = A.size := by
      clear hp foldr_set_getElem?
      induction L with
      | nil => rfl
      | cons e' L ih => simpa using ih
    rw [List.foldr_cons, Array.set!_eq_setIfInBounds, Array.getElem?_setIfInBounds, hsize,
      List.find?_cons]
    by_cases he : h e.1 = p
    · simp [he, hp]
    · have hne : (h e.1 == p) = false := by simpa using he
      simp only [he, if_false, hne]
      exact foldr_set_getElem? h L A p hp

theorem size_bucketStarts (g : Gather) (slots : Array UInt64) (tableLen : Nat) :
    (bucketStarts g slots tableLen).size = tableLen := by
  unfold bucketStarts
  rw [List.foldl_reverse]
  generalize slots.toList.zipIdx = L
  induction L with
  | nil => simp
  | cons e L ih => simpa using ih

/-- **The entry of a packed index is the first slot of its bucket.** -/
theorem bucketStarts_getElem? (g : Gather) (slots : Array UInt64) {tableLen j : Nat}
    (hj : j < slots.size) (hp : (g.apply slots[j]).toNat < tableLen)
    (hfirst : ∀ i (hi : i < j), g.apply slots[i] ≠ g.apply slots[j]) :
    (bucketStarts g slots tableLen)[(g.apply slots[j]).toNat]? = some j := by
  unfold bucketStarts
  rw [List.foldl_reverse]
  have hfind : slots.toList.zipIdx.find? (fun e => (g.apply e.1).toNat == (g.apply slots[j]).toNat)
      = some (slots[j], j) := by
    refine List.find?_eq_some_iff_getElem.mpr ⟨by simp, j, by simpa using hj, by simp, ?_⟩
    intro i hi
    simpa [List.getElem_zipIdx, UInt64.toNat_inj] using hfirst i hi
  have := foldr_set_getElem? (fun raw => (g.apply raw).toNat) slots.toList.zipIdx
    (Array.replicate tableLen 0) (g.apply slots[j]).toNat (by simpa using hp)
  rw [hfind] at this
  exact this

/-! ### Reach of the scan -/

/-- The first slot of the bucket of slot `i`. -/
def bucketStart (f : α → β) [DecidableEq β] (l : List α) (i : Nat) (hi : i < l.length) : Nat :=
  l.findIdx fun a => f a == f l[i]

theorem bucketStart_le (f : α → β) [DecidableEq β] {l : List α} {i : Nat} (hi : i < l.length) :
    bucketStart f l i hi ≤ i := by
  unfold bucketStart
  by_contra hlt
  have hnot := List.not_of_lt_findIdx (show i < l.findIdx fun a => f a == f l[i] by omega)
  simp at hnot

/-- The start of a slot's bucket holds the slot's packed index, and no slot before it does. -/
theorem bucketStart_first (f : α → β) [DecidableEq β] {l : List α} {i : Nat}
    (hi : i < l.length) :
    ∃ hs : bucketStart f l i hi < l.length, f l[bucketStart f l i hi] = f l[i] ∧
      ∀ j (hj : j < bucketStart f l i hi), f l[j] ≠ f l[i] := by
  have hle := bucketStart_le f hi
  have hs : bucketStart f l i hi < l.length := by omega
  refine ⟨hs, ?_, fun j hj => ?_⟩
  · have hfound := @List.findIdx_getElem _ (fun a => f a == f l[i]) l hs
    simp only [beq_iff_eq] at hfound
    exact hfound
  · have hnot := @List.not_of_lt_findIdx _ (fun a => f a == f l[i]) l j hj
    simpa using hnot

/-- **In a contiguous layout a key is less than its bucket's size past the bucket's start.** -/
theorem within_bucket {f : α → β} [DecidableEq β] {l : List α} (hc : Contiguous f l) {i : Nat}
    (hi : i < l.length) :
    bucketStart f l i hi ≤ i ∧ i < bucketStart f l i hi + (l.map f).count (f l[i]) := by
  have hsi := bucketStart_le f hi
  obtain ⟨hsl, hsf, -⟩ := bucketStart_first f hi
  set s := bucketStart f l i hi with hs_def
  have hrun : ∀ x ∈ ((l.drop s).take (i + 1 - s)).map f, x = f l[i] := by
    intro x hx
    obtain ⟨y, hy, rfl⟩ := List.mem_iff_getElem.mp hx
    simp only [List.length_map, List.length_take, List.length_drop] at hy
    simp only [List.getElem_map, List.getElem_take, List.getElem_drop]
    exact hc s (s + y) i (by omega) (by omega) hi hsf
  have hsub : (((l.drop s).take (i + 1 - s)).map f).Sublist (l.map f) :=
    ((List.take_sublist _ _).trans (List.drop_sublist _ _)).map f
  have hcount := hsub.count_le (f l[i])
  rw [List.count_eq_length.mpr (fun x hx => (hrun x hx).symm ▸ rfl)] at hcount
  simp only [List.length_map, List.length_take, List.length_drop] at hcount
  exact ⟨hsi, by omega⟩

/-- **The table entry of a placed key's packed index is the start of the key's bucket.** -/
theorem bucketStarts_getElem?_bucketStart (g : Gather) {slots : Array UInt64} {tableLen i : Nat}
    (hi : i < slots.toList.length) (hp : (g.apply slots.toList[i]).toNat < tableLen) :
    (bucketStarts g slots tableLen)[(g.apply slots.toList[i]).toNat]? =
      some (bucketStart g.apply slots.toList i hi) := by
  obtain ⟨hs, hsame, hbefore⟩ := bucketStart_first g.apply hi
  have hs' : bucketStart g.apply slots.toList i hi < slots.size := by simpa using hs
  have hsame' : g.apply slots[bucketStart g.apply slots.toList i hi] = g.apply slots.toList[i] := by
    simpa using hsame
  have hentry := bucketStarts_getElem? g slots hs' (by rw [hsame']; exact hp)
    (fun j hj => by simpa [hsame'] using hbefore j hj)
  rw [hsame'] at hentry
  exact hentry

end GatherMap.Proofs.Placement
