import GatherMap.Proofs.PerfectBuild

/-!
# The layout of an assembled keyset

`PerfectKeyset.assemble` sorts the keys stably by packed index, rotates them left at the end of
the first bucket that holds `longest` keys, and records the first slot of every bucket. With
`longest` the longest bucket, as both builders pass it, the layout is the following:

* `filter_mergeSort`: sorting keeps the keys of every bucket in input order;
* `endOfFullBucket_eq_countP`: the rotation point is the end of the first longest bucket;
* `place_split`: the placed keys are the buckets after that one, then the buckets up to it;
* `drop_place_full`: the last `longest` slots hold exactly that bucket;
* `bucketStarts_add_le`: every table entry leaves `longest` slots before the end of the keys;
* `assembled_layout_ends_with_full_bucket`: all of it for the keyset `assemble` returns.
-/

namespace GatherMap.Proofs.Layout

open GatherMap PerfectKeyset Placement Proofs.Gather Proofs.Runs Proofs.Placement
  Proofs.PerfectBuild

/-- `sorted` is `raws` sorted stably by packed index: ordered by packed index, with the keys of
each bucket in the order `raws` has them. -/
def StableSorted (g : Gather) (raws sorted : List UInt64) : Prop :=
  sorted.Pairwise (fun a b => g.apply a ≤ g.apply b) ∧
    ∀ q, sorted.filter (g.apply · == q) = raws.filter (g.apply · == q)

/-- The end of the first bucket of at least `depth` keys among sorted packed indices: the number
of indices up to the first value that occurs `depth` times or more, or all of them if none
does. -/
def fullBucketEnd (packed : List UInt64) (depth : Nat) : Nat :=
  match packed.find? (fun v => decide (depth ≤ packed.count v)) with
  | some p => packed.countP (· ≤ p)
  | none => packed.length

variable {g : Gather}

/-! ### Sorting stably -/

/-- **Sorting keeps the keys of every bucket in input order.** The keys of one bucket compare
both ways, so they stay a sublist of the sorted keys, and there are as many of them. -/
theorem filter_mergeSort (g : Gather) (raws : List UInt64) (q : UInt64) :
    (raws.mergeSort fun a b => decide (g.apply a ≤ g.apply b)).filter (g.apply · == q) =
      raws.filter (g.apply · == q) := by
  have hpair : (raws.filter (g.apply · == q)).Pairwise
      fun a b => decide (g.apply a ≤ g.apply b) := by
    rw [List.pairwise_filter]
    refine List.pairwise_of_forall fun a b ha hb => ?_
    rw [beq_iff_eq] at ha hb
    simp [ha, hb]
  have hsub := List.sublist_mergeSort
    (fun a b c (hab : decide (g.apply a ≤ g.apply b)) (hbc : decide (g.apply b ≤ g.apply c)) =>
      decide_eq_true (UInt64.le_trans (of_decide_eq_true hab) (of_decide_eq_true hbc)))
    (fun a b => by simpa using UInt64.le_total (g.apply a) (g.apply b)) hpair
    List.filter_sublist
  have hsub' := hsub.filter (g.apply · == q)
  rw [List.filter_filter, List.filter_congr (fun x _ => Bool.and_self _)] at hsub'
  refine (hsub'.eq_of_length ?_).symm
  exact (((List.mergeSort_perm raws _).filter _).length_eq).symm

theorem stableSorted_mergeSort (g : Gather) (raws : List UInt64) :
    StableSorted g raws (raws.mergeSort fun a b => decide (g.apply a ≤ g.apply b)) :=
  ⟨sorted_place g raws, filter_mergeSort g raws⟩

/-- Keys sorted by packed index split at a test that holds of every smaller packed index
wherever it holds: the keys that pass come first. -/
theorem filter_append_filter_not {S : List UInt64}
    (hS : S.Pairwise fun a b => g.apply a ≤ g.apply b) {P : UInt64 → Bool}
    (hP : ∀ a b, g.apply a ≤ g.apply b → P b = true → P a = true) :
    S.filter P ++ S.filter (fun x => !P x) = S := by
  induction S with
  | nil => rfl
  | cons a S ih =>
    have hrest := ih (List.pairwise_cons.mp hS).2
    cases ha : P a
    · have hnone : S.filter P = [] := List.filter_eq_nil_iff.mpr fun b hb hPb => by
        have := hP a b ((List.pairwise_cons.mp hS).1 b hb) hPb
        rw [ha] at this
        cases this
      have hall : S.filter (fun x => !P x) = S := by
        rw [hnone, List.nil_append] at hrest
        exact hrest
      rw [List.filter_cons_of_neg (by simp [ha]), List.filter_cons_of_pos (by simp [ha]), hnone,
        hall, List.nil_append]
    · rw [List.filter_cons_of_pos ha, List.filter_cons_of_neg (by simp [ha]), List.cons_append,
        hrest]

/-! ### The rotation point -/

/-- A run of `run` copies of `v` before larger indices ends the first full bucket if it is full,
and is skipped otherwise. -/
theorem fullBucketEnd_replicate_append {v : UInt64} {run : Nat} (hrun : 0 < run)
    {rest : List UInt64} (hrest : ∀ u ∈ rest, v < u) (depth : Nat) :
    fullBucketEnd (List.replicate run v ++ rest) depth =
      if depth ≤ run then run else run + fullBucketEnd rest depth := by
  have hcount : rest.count v = 0 :=
    List.count_eq_zero.mpr fun hv => UInt64.lt_irrefl v (hrest v hv)
  have hv : (List.replicate run v ++ rest).count v = run := by
    rw [List.count_append, List.count_replicate_self, hcount, Nat.add_zero]
  have hbelow : (List.replicate run v).countP (· ≤ v) = run := by
    rw [List.countP_replicate]
    simp
  by_cases hfull : depth ≤ run
  · have hfirst : (List.replicate run v ++ rest).find?
        (fun u => decide (depth ≤ (List.replicate run v ++ rest).count u)) = some v := by
      rw [List.find?_append, List.find?_replicate_of_length_pos hrun, hv]
      simp [hfull]
    have hnone : rest.countP (· ≤ v) = 0 :=
      List.countP_eq_zero.mpr fun u hu => by simpa using hrest u hu
    rw [if_pos hfull, fullBucketEnd, hfirst]
    dsimp only
    rw [List.countP_append, hbelow, hnone, Nat.add_zero]
  · have hsame : rest.find? (fun u => decide (depth ≤ (List.replicate run v ++ rest).count u)) =
        rest.find? (fun u => decide (depth ≤ rest.count u)) := by
      refine List.find?_congr fun u hu => ?_
      have hne : v ≠ u := UInt64.ne_of_lt (hrest u hu)
      rw [List.count_append, List.count_replicate, beq_false_of_ne hne]
      simp
    have hskip : (List.replicate run v ++ rest).find?
        (fun u => decide (depth ≤ (List.replicate run v ++ rest).count u)) =
          rest.find? (fun u => decide (depth ≤ rest.count u)) := by
      rw [List.find?_append, List.find?_replicate_of_length_pos hrun, hv, hsame]
      simp [hfull]
    rw [if_neg hfull, fullBucketEnd, fullBucketEnd, hskip]
    cases hfind : rest.find? (fun u => decide (depth ≤ rest.count u)) with
    | some p =>
      have hle : ∀ u ∈ List.replicate run v, decide (u ≤ p) = true := by
        intro u hu
        rw [List.eq_of_mem_replicate hu]
        exact decide_eq_true (UInt64.le_of_lt (hrest p (List.mem_of_find?_eq_some hfind)))
      dsimp only
      rw [List.countP_append, List.countP_eq_length.mpr hle, List.length_replicate]
    | none =>
      dsimp only
      rw [List.length_append, List.length_replicate]

/-- The scan of `endOfFullBucket` holds its run as `run` copies of `previous` before `rest`. -/
theorem go_eq (depth : Nat) :
    ∀ (rest : List UInt64) (previous : UInt64) (run position : Nat),
      (previous :: rest).Pairwise (· ≤ ·) → 0 < run → run ≤ position →
      endOfFullBucket.go depth previous run position rest =
        position - run + fullBucketEnd (List.replicate run previous ++ rest) depth
  | [], previous, run, position, _, hrun, hpos => by
    rw [endOfFullBucket.go, List.append_nil,
      ← List.append_nil (List.replicate run previous),
      fullBucketEnd_replicate_append hrun (by simp)]
    have hnil : fullBucketEnd [] depth = 0 := rfl
    split <;> omega
  | current :: rest, previous, run, position, hsorted, hrun, hpos => by
    rw [endOfFullBucket.go]
    by_cases hsame : current = previous
    · subst hsame
      rw [if_pos (beq_self_eq_true current),
        go_eq depth rest current (run + 1) (position + 1) (List.pairwise_cons.mp hsorted).2
          (by omega) (by omega),
        List.replicate_succ', List.append_assoc, List.singleton_append]
      omega
    · have hlt : ∀ u ∈ current :: rest, previous < u := by
        intro u hu
        have hle := (List.pairwise_cons.mp hsorted).1 u hu
        rcases List.mem_cons.mp hu with rfl | hu'
        · exact UInt64.lt_of_le_of_ne hle (Ne.symm hsame)
        · exact UInt64.lt_of_lt_of_le
            (UInt64.lt_of_le_of_ne ((List.pairwise_cons.mp hsorted).1 _ List.mem_cons_self)
              (Ne.symm hsame))
            ((List.pairwise_cons.mp (List.pairwise_cons.mp hsorted).2).1 u hu')
      rw [if_neg (by simpa using hsame), fullBucketEnd_replicate_append hrun hlt]
      by_cases hfull : depth ≤ run
      · rw [if_pos hfull, if_pos hfull]
        omega
      · rw [if_neg hfull, if_neg hfull,
          go_eq depth rest current 1 (position + 1) (List.pairwise_cons.mp hsorted).2 (by omega)
            (by omega)]
        simp only [List.replicate_one, List.singleton_append]
        omega

/-- **The rotation point is the end of the first full bucket.** -/
theorem endOfFullBucket_eq_fullBucketEnd {packed : List UInt64}
    (hsorted : packed.Pairwise (· ≤ ·)) (depth : Nat) :
    endOfFullBucket packed depth = fullBucketEnd packed depth := by
  cases packed with
  | nil => rfl
  | cons first rest =>
    rw [endOfFullBucket, go_eq depth rest first 1 1 hsorted (by omega) (by omega),
      List.replicate_one, List.singleton_append]
    omega

/-- Among sorted packed indices, the search for a full bucket of `maxCount` keys finds the first
bucket of that many keys: every smaller value occurs fewer times. Some value reaches the largest
count, so the search cannot fail. -/
theorem find?_maxCount {packed : List UInt64} (hsorted : packed.Pairwise (· ≤ ·))
    (hne : packed ≠ []) :
    ∃ p, packed.find? (fun v => decide (maxCount packed ≤ packed.count v)) = some p ∧
      packed.count p = maxCount packed ∧ ∀ q < p, packed.count q < maxCount packed := by
  obtain ⟨x, hx, hxmax⟩ := exists_count_eq_maxCount hne
  cases hfind : packed.find? (fun v => decide (maxCount packed ≤ packed.count v)) with
  | none =>
    have hnot := List.find?_eq_none.mp hfind x hx
    simp [hxmax] at hnot
  | some p =>
    obtain ⟨hp, before, after, hsplit, hbefore⟩ := List.find?_eq_some_iff_append.mp hfind
    have hpmem : p ∈ packed := List.mem_of_find?_eq_some hfind
    refine ⟨p, rfl, Nat.le_antisymm (count_le_maxCount hpmem) (of_decide_eq_true hp),
      fun q hq => ?_⟩
    by_cases hqmem : q ∈ packed
    · have hafter : ∀ y ∈ p :: after, p ≤ y := by
        rw [hsplit] at hsorted
        have htail := (List.pairwise_append.mp hsorted).2.1
        intro y hy
        rcases List.mem_cons.mp hy with rfl | hy
        · exact UInt64.le_refl y
        · exact (List.pairwise_cons.mp htail).1 y hy
      have hqbefore : q ∈ before := by
        rw [hsplit] at hqmem
        rcases List.mem_append.mp hqmem with hq' | hq'
        · exact hq'
        · exact absurd (hafter q hq') (UInt64.not_le.mpr hq)
      simpa using hbefore q hqbefore
    · rw [List.count_eq_zero.mpr hqmem]
      exact one_le_maxCount hne

/-! ### The placed keys -/

theorem rotate_append {α : Type} (front back : List α) :
    rotate (front ++ back) front.length = back ++ front := by
  simp [rotate]

theorem le_index_monotone (p : UInt64) :
    ∀ a b, g.apply a ≤ g.apply b → decide (g.apply b ≤ p) = true → decide (g.apply a ≤ p) = true :=
  fun _ _ hab hb => decide_eq_true (UInt64.le_trans hab (of_decide_eq_true hb))

/-- Rotating keys sorted by packed index at the end of the buckets up to `p` puts the later
buckets first. -/
theorem rotate_countP {S : List UInt64} (hS : S.Pairwise fun a b => g.apply a ≤ g.apply b)
    (p : UInt64) :
    rotate S (S.countP (g.apply · ≤ p)) =
      S.filter (fun x => !decide (g.apply x ≤ p)) ++ S.filter (g.apply · ≤ p) := by
  have hsplit := filter_append_filter_not hS (le_index_monotone p)
  have hrot := rotate_append (S.filter (g.apply · ≤ p)) (S.filter fun x => !decide (g.apply x ≤ p))
  rw [hsplit] at hrot
  rw [List.countP_eq_length_filter, hrot]

/-- **The placed keys are the buckets after the first longest one, then the buckets up to it**,
each set sorted stably. -/
theorem place_split (g : Gather) {raws : List UInt64} (hne : raws ≠ []) :
    ∃ p, (raws.map g.apply).count p = longestBucket g raws ∧
      (∀ q < p, (raws.map g.apply).count q < longestBucket g raws) ∧
      place g raws (longestBucket g raws) = rotate
        (raws.mergeSort fun a b => decide (g.apply a ≤ g.apply b))
        ((raws.mergeSort fun a b => decide (g.apply a ≤ g.apply b)).countP (g.apply · ≤ p)) := by
  set S := raws.mergeSort fun a b => decide (g.apply a ≤ g.apply b) with hS_def
  have hperm : (S.map g.apply).Perm (raws.map g.apply) := (List.mergeSort_perm _ _).map _
  have hpacked : (S.map g.apply).Pairwise (· ≤ ·) := List.pairwise_map.mpr (sorted_place g raws)
  have hmax : maxCount (S.map g.apply) = longestBucket g raws := maxCount_eq_of_perm hperm
  have hne' : S.map g.apply ≠ [] := by
    rw [Ne, List.map_eq_nil_iff, ← List.length_eq_zero_iff, List.length_mergeSort,
      List.length_eq_zero_iff]
    exact hne
  obtain ⟨p, hfind, hcount, hbelow⟩ := find?_maxCount hpacked hne'
  refine ⟨p, ?_, fun q hq => ?_, ?_⟩
  · rw [← hperm.count_eq, hcount, hmax]
  · rw [← hperm.count_eq, ← hmax]
    exact hbelow q hq
  · rw [place, ← hS_def, ← hmax, endOfFullBucket_eq_fullBucketEnd hpacked, fullBucketEnd, hfind]
    dsimp only
    rw [List.countP_map]
    rfl

section Placed

variable (g : Gather) (raws : List UInt64)

/-- **The last `longest` slots hold exactly the first longest bucket**, in input order. -/
theorem drop_place_full {p : UInt64} (hcount : (raws.map g.apply).count p = longestBucket g raws) :
    (rotate (raws.mergeSort fun a b => decide (g.apply a ≤ g.apply b))
        ((raws.mergeSort fun a b => decide (g.apply a ≤ g.apply b)).countP (g.apply · ≤ p))).drop
      (raws.length - longestBucket g raws) = raws.filter (g.apply · == p) := by
  set S := raws.mergeSort fun a b => decide (g.apply a ≤ g.apply b) with hS_def
  have hS : S.Pairwise fun a b => g.apply a ≤ g.apply b := sorted_place g raws
  rw [rotate_countP hS p]
  have hupto : (S.filter (g.apply · ≤ p)).Pairwise fun a b => g.apply a ≤ g.apply b :=
    hS.filter _
  have hsplit : (S.filter (g.apply · ≤ p)).filter (fun x => decide (g.apply x < p)) ++
      (S.filter (g.apply · ≤ p)).filter (fun x => !decide (g.apply x < p)) =
        S.filter (g.apply · ≤ p) :=
    filter_append_filter_not hupto
      fun _ _ hab hb => decide_eq_true (UInt64.lt_of_le_of_lt hab (of_decide_eq_true hb))
  have hlast : (S.filter (g.apply · ≤ p)).filter (fun x => !decide (g.apply x < p)) =
      S.filter (g.apply · == p) := by
    rw [List.filter_filter]
    refine List.filter_congr fun x _ => ?_
    by_cases hx : g.apply x = p
    · simp [hx]
    · have hne : (g.apply x == p) = false := beq_false_of_ne hx
      rw [hne, Bool.and_eq_false_iff]
      by_cases hlt : g.apply x < p
      · exact Or.inl (by simp [hlt])
      · exact Or.inr (by simpa using UInt64.lt_of_le_of_ne (UInt64.not_lt.mp hlt) (Ne.symm hx))
  have hcountS : (S.filter (g.apply · == p)).length = longestBucket g raws := by
    rw [← hcount, ← ((List.mergeSort_perm raws _).map g.apply).count_eq, List.count,
      List.countP_map, List.countP_eq_length_filter]
    rfl
  have hall := filter_append_filter_not hS (le_index_monotone p)
  have hlen : S.length = raws.length := List.length_mergeSort raws
  have hlens := congrArg List.length hall
  have hlens' := congrArg List.length hsplit
  rw [List.length_append] at hlens hlens'
  rw [hlast, hcountS] at hlens'
  rw [← hsplit, hlast, ← List.append_assoc, ← filter_mergeSort g raws p, ← hS_def]
  refine List.drop_left' ?_
  rw [List.length_append]
  omega

/-- **Every bucket of the placed keys keeps its keys in input order.** The rotation cuts at a
bucket boundary, so each bucket lies on one side of it. -/
theorem filter_place (p q : UInt64) :
    (rotate (raws.mergeSort fun a b => decide (g.apply a ≤ g.apply b))
        ((raws.mergeSort fun a b => decide (g.apply a ≤ g.apply b)).countP (g.apply · ≤ p))).filter
      (g.apply · == q) = raws.filter (g.apply · == q) := by
  set S := raws.mergeSort fun a b => decide (g.apply a ≤ g.apply b) with hS_def
  rw [rotate_countP (sorted_place g raws) p, List.filter_append, List.filter_filter,
    List.filter_filter, ← filter_mergeSort g raws q, ← hS_def]
  by_cases hqp : q ≤ p
  · have hnone : S.filter (fun x => (g.apply x == q) && !decide (g.apply x ≤ p)) = [] :=
      List.filter_eq_nil_iff.mpr fun x _ hx => by
        simp only [Bool.and_eq_true, beq_iff_eq, Bool.not_eq_true', decide_eq_false_iff_not] at hx
        exact hx.2 (hx.1 ▸ hqp)
    rw [hnone, List.nil_append]
    refine List.filter_congr fun x _ => ?_
    by_cases hx : g.apply x = q
    · simp [hx, hqp]
    · simp [hx]
  · have hnone : S.filter (fun x => (g.apply x == q) && decide (g.apply x ≤ p)) = [] :=
      List.filter_eq_nil_iff.mpr fun x _ hx => by
        simp only [Bool.and_eq_true, beq_iff_eq, decide_eq_true_eq] at hx
        exact hqp (hx.1 ▸ hx.2)
    rw [hnone, List.append_nil]
    refine List.filter_congr fun x _ => ?_
    by_cases hx : g.apply x = q
    · simp [hx, hqp]
    · simp [hx]

end Placed

/-- Placing keys through their longest bucket keeps every bucket in input order. -/
theorem filter_place_longest (g : Gather) (raws : List UInt64) (q : UInt64) :
    (place g raws (longestBucket g raws)).filter (g.apply · == q) =
      raws.filter (g.apply · == q) := by
  by_cases hne : raws = []
  · subst hne
    rw [(place_perm g [] _).eq_nil]
  · obtain ⟨p, -, -, hplace⟩ := place_split g hne
    rw [hplace]
    exact filter_place g raws p q

theorem longestBucket_le_length (g : Gather) (raws : List UInt64) :
    longestBucket g raws ≤ raws.length :=
  maxCount_le_iff.mpr fun x _ => by
    simpa using (List.count_le_length : (raws.map g.apply).count x ≤ (raws.map g.apply).length)

/-- The last `longest` placed keys all lie in one bucket. -/
theorem place_tail (g : Gather) (raws : List UInt64) :
    ∃ p, ∀ i (hi : i < (place g raws (longestBucket g raws)).length),
      (place g raws (longestBucket g raws)).length - longestBucket g raws ≤ i →
        g.apply (place g raws (longestBucket g raws))[i] = p := by
  by_cases hne : raws = []
  · subst hne
    refine ⟨0, fun i hi _ => ?_⟩
    rw [length_place] at hi
    exact absurd hi (Nat.not_lt_zero i)
  · obtain ⟨p, hcount, -, hplace⟩ := place_split g hne
    refine ⟨p, fun i hi hle => ?_⟩
    have hdrop := drop_place_full g raws hcount
    rw [← hplace] at hdrop
    have hmem : (place g raws (longestBucket g raws))[i] ∈ raws.filter (g.apply · == p) := by
      rw [← hdrop, length_place] at *
      rw [List.mem_iff_getElem]
      refine ⟨i - (raws.length - longestBucket g raws), by simp; omega, ?_⟩
      rw [List.getElem_drop]
      congr 1
      omega
    simpa using (List.mem_filter.mp hmem).2

theorem place_pos (g : Gather) (raws : List UInt64) :
    place g raws (longestBucket g raws) ≠ [] → 0 < longestBucket g raws := by
  intro hne
  have hne' : raws.map g.apply ≠ [] := by
    intro hnil
    apply hne
    rw [List.map_eq_nil_iff] at hnil
    subst hnil
    exact (place_perm g [] _).eq_nil
  exact one_le_maxCount hne'

/-! ### The lookup table -/

/-- Every entry of the bucket starts is `0` or the first slot of a bucket. -/
theorem mem_bucketStarts (g : Gather) (slots : Array UInt64) (tableLen : Nat) {x : Nat}
    (hx : x ∈ bucketStarts g slots tableLen) :
    x = 0 ∨ ∃ (j : Nat) (hj : j < slots.size), x = j ∧
      ∀ i (hi : i < j), g.apply slots[i] ≠ g.apply slots[j] := by
  obtain ⟨m, hm, hxm⟩ := Array.getElem_of_mem hx
  have hm' : m < tableLen := by rwa [size_bucketStarts] at hm
  have hfold : bucketStarts g slots tableLen = slots.toList.zipIdx.foldr
      (fun e starts => starts.set! ((g.apply e.1).toNat) e.2) (Array.replicate tableLen 0) := by
    unfold bucketStarts
    rw [List.foldl_reverse]
  have hentry := foldr_set_getElem? (fun raw => (g.apply raw).toNat) slots.toList.zipIdx
    (Array.replicate tableLen 0) m (by simpa using hm')
  rw [← hfold, Array.getElem?_eq_getElem hm, hxm] at hentry
  cases hfind : slots.toList.zipIdx.find? (fun e => (g.apply e.1).toNat == m) with
  | none =>
    rw [hfind] at hentry
    left
    simpa [hm'] using hentry
  | some e =>
    rw [hfind] at hentry
    obtain ⟨hpe, j, hj, hje, hbefore⟩ := List.find?_eq_some_iff_getElem.mp hfind
    have hj' : j < slots.size := by simpa using hj
    have he : e = (slots[j], j) := by
      rw [← hje, List.getElem_zipIdx]
      simp
    subst he
    right
    refine ⟨j, hj', Option.some.inj hentry, fun i hi hsame => ?_⟩
    have hnot := hbefore i hi
    simp only [List.getElem_zipIdx, Nat.zero_add, Array.getElem_toList] at hnot
    simp only [beq_iff_eq] at hpe
    rw [hsame, hpe] at hnot
    simp at hnot

/-- **Every table entry leaves room for a full scan.** An empty bucket's entry is `0`; a
bucket's first slot is the first of the last `depth` slots if the longest bucket lies there, and
comes before them otherwise. -/
theorem bucketStarts_add_le {g : Gather} {keys : List UInt64} {p : UInt64} {d : Nat}
    (hd : d ≤ keys.length) (hpos : keys ≠ [] → 0 < d)
    (htail : ∀ i (hi : i < keys.length), keys.length - d ≤ i → g.apply keys[i] = p)
    (tableLen : Nat) : ∀ x ∈ bucketStarts g keys.toArray tableLen, x + d ≤ keys.length := by
  intro x hx
  rcases mem_bucketStarts g _ tableLen hx with rfl | ⟨j, hj, hxj, hfirst⟩
  · omega
  · rw [hxj]
    simp only [List.size_toArray] at hj
    simp only [List.getElem_toArray] at hfirst
    by_cases hp : g.apply keys[j] = p
    · have hd0 : 0 < d := hpos (List.ne_nil_of_length_pos (by omega))
      by_contra hlate
      exact hfirst (keys.length - d) (by omega)
        (by rw [htail _ (by omega) (Nat.le_refl _), hp])
    · have hearly : j < keys.length - d := by
        by_contra hge
        exact hp (htail j hj (by omega))
      omega

/-! ### The assembled keyset -/

/-- **The layout of an assembled keyset.** Assembled with the longest bucket of its mask as the
depth, a keyset

* keeps every bucket in consecutive slots, and its table entry is the first of them;
* holds the keys sorted stably by packed index and rotated left at the end of the first bucket
  of `depth` keys, the one of least packed index, so that its last `depth` slots hold exactly
  that bucket, and every bucket holds its keys in input order;
* has no table entry, not even the `0` of a packed index without keys, from which a scan of
  `depth` slots would run past the last key. -/
theorem assembled_layout_ends_with_full_bucket (t : KeyType) (raws : Array UInt64)
    (mask : UInt64) (width : OffsetWidth) (ks : PerfectKeyset)
    (h : assemble t raws (Gather.new t.width mask)
      (longestBucket (Gather.new t.width mask) raws.toList) width = .ok ks) :
    ks.gather = Gather.new t.width mask ∧
    Contiguous ks.gather.apply ks.keys.toList ∧
    (∀ i (hi : i < ks.keys.size), ks.lookup.offsets[(ks.gather.apply ks.keys[i]).toNat]? =
      some (ks.keys.toList.findIdx (ks.gather.apply · == ks.gather.apply ks.keys[i]))) ∧
    ks.depth = longestBucket ks.gather raws.toList ∧
    (∀ q, ks.keys.toList.filter (ks.gather.apply · == q) =
      raws.toList.filter (ks.gather.apply · == q)) ∧
    (raws.size ≠ 0 → ∃ p, (raws.toList.map ks.gather.apply).count p = ks.depth ∧
      (∀ q < p, (raws.toList.map ks.gather.apply).count q < ks.depth) ∧
      (∃ sorted, StableSorted ks.gather raws.toList sorted ∧
        ks.keys.toList = rotate sorted (sorted.countP (ks.gather.apply · ≤ p))) ∧
      ks.keys.toList.drop (ks.keys.size - ks.depth) = raws.toList.filter (ks.gather.apply · == p)) ∧
    ∀ start ∈ ks.lookup.offsets, start + ks.depth ≤ ks.keys.size := by
  obtain ⟨tableLen, hlen, -, hkeys, hlookup, hgather, hdepth⟩ := assemble_eq_ok h
  set g := Gather.new t.width mask with hg
  have hkeys' : ks.keys.toList = place g raws.toList (longestBucket g raws.toList) := by
    rw [hkeys, List.toList_toArray]
  have hsize : ks.keys.size = raws.size := by
    rw [← Array.length_toList, hkeys', length_place, Array.length_toList]
  have hcover : ∀ raw, (g.apply raw).toNat < tableLen := by
    intro raw
    rw [outputLen?_eq_some hlen]
    exact apply_lt_two_pow_weight t.width mask raw
  rw [hgather, hdepth]
  refine ⟨rfl, hkeys' ▸ place_contiguous _ _ _, fun i hi => ?_, rfl,
    fun q => hkeys' ▸ filter_place_longest g _ q, fun hne => ?_, ?_⟩
  · have hi' : i < ks.keys.toList.length := by simpa using hi
    have hentry := bucketStarts_getElem?_bucketStart g hi' (hcover _)
    rw [hlookup]
    simpa [bucketStart] using hentry
  · have hne' : raws.toList ≠ [] := by simpa [← Array.length_toList] using hne
    obtain ⟨p, hcount, hbelow, hplace⟩ := place_split g hne'
    refine ⟨p, hcount, hbelow, ⟨_, stableSorted_mergeSort g raws.toList, hkeys'.trans hplace⟩, ?_⟩
    rw [hkeys', hplace, hsize, ← Array.length_toList]
    exact drop_place_full g raws.toList hcount
  · rw [hlookup]
    dsimp only
    rw [hkeys, List.size_toArray]
    obtain ⟨p, htail⟩ := place_tail g raws.toList
    have hd : longestBucket g raws.toList ≤
        (place g raws.toList (longestBucket g raws.toList)).length := by
      rw [length_place]
      exact longestBucket_le_length g _
    exact bucketStarts_add_le hd (place_pos g raws.toList) htail tableLen

/-- Five one-byte keys under the mask `1`: three keys pack to bucket `0` and two to bucket `1`,
so the full bucket `0` is rotated to the end and the table starts bucket `1` at slot `0`. -/
theorem assembled_layout_ends_with_full_bucket_u8 :
    let ks : PerfectKeyset := ⟨.u8, #[1, 3, 2, 4, 6], ⟨.u8, #[2, 0]⟩, Gather.new .w8 1, 3⟩
    assemble .u8 #[1, 3, 2, 4, 6] (Gather.new KeyType.u8.width 1)
        (longestBucket (Gather.new KeyType.u8.width 1) [1, 3, 2, 4, 6]) .u8 = .ok ks ∧
      ks.gather = Gather.new KeyType.u8.width 1 ∧
      Contiguous ks.gather.apply ks.keys.toList ∧
      (∀ i (hi : i < ks.keys.size), ks.lookup.offsets[(ks.gather.apply ks.keys[i]).toNat]? =
        some (ks.keys.toList.findIdx (ks.gather.apply · == ks.gather.apply ks.keys[i]))) ∧
      ks.depth = longestBucket ks.gather [1, 3, 2, 4, 6] ∧
      (∀ q, ks.keys.toList.filter (ks.gather.apply · == q) =
        [1, 3, 2, 4, 6].filter (ks.gather.apply · == q)) ∧
      ((#[1, 3, 2, 4, 6] : Array UInt64).size ≠ 0 → ∃ p,
        ([1, 3, 2, 4, 6].map ks.gather.apply).count p = ks.depth ∧
        (∀ q < p, ([1, 3, 2, 4, 6].map ks.gather.apply).count q < ks.depth) ∧
        (∃ sorted, StableSorted ks.gather [1, 3, 2, 4, 6] sorted ∧
          ks.keys.toList = rotate sorted (sorted.countP (ks.gather.apply · ≤ p))) ∧
        ks.keys.toList.drop (ks.keys.size - ks.depth) =
          [1, 3, 2, 4, 6].filter (ks.gather.apply · == p)) ∧
      ∀ start ∈ ks.lookup.offsets, start + ks.depth ≤ ks.keys.size := by
  intro ks
  have hsort : ([1, 3, 2, 4, 6] : List UInt64).mergeSort
      (fun a b => decide ((Gather.new KeyType.u8.width 1).apply a ≤
        (Gather.new KeyType.u8.width 1).apply b)) = [2, 4, 6, 1, 3] := by
    simp +decide [List.mergeSort]
  have hlongest : longestBucket (Gather.new KeyType.u8.width 1) [1, 3, 2, 4, 6] = 3 := by decide
  have h : assemble .u8 #[1, 3, 2, 4, 6] (Gather.new KeyType.u8.width 1)
      (longestBucket (Gather.new KeyType.u8.width 1) [1, 3, 2, 4, 6]) .u8 = .ok ks := by
    rw [hlongest]
    simp only [assemble, Placement.place, hsort]
    decide
  exact ⟨h, assembled_layout_ends_with_full_bucket .u8 #[1, 3, 2, 4, 6] 1 .u8 ks h⟩

end GatherMap.Proofs.Layout
