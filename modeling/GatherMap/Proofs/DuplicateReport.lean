import GatherMap.Proofs.EntryErrors

/-!
# Which pair of equal keys a failed build reports

Both kinds of keyset refuse keys that their order cannot tell apart, and name two input
positions. The pair named is always the same: the first two positions of the least class of
equivalent keys that has two members (`FirstEquivalentPair`). For raw forms compared as unsigned
integers equivalent keys are equal keys, so the perfect-hash builders name the first two positions
of the smallest raw form that occurs twice.

`findDuplicate?` sorts the positions stably by their keys and takes the first adjacent pair
that is not strictly increasing. Everything before that pair increases strictly, so its first
key opens its class and every earlier class has one member; stability puts the smallest positions
of a class first.

* `firstAdjacent?_eq_some_first`: the pair found comes after pairs that all fail the test;
* `findDuplicate?_firstEquivalentPair`: what `findDuplicate?` reports is the first pair of the
  least class with two members;
* `FirstEquivalentPair.unique`, `findDuplicate?_eq_some_iff`: there is only one such pair, and
  `findDuplicate?` reports it whenever it exists;
* `duplicate_errors_name_first_pair_of_least_class`: every builder that checks for duplicates
  reports `duplicateKey` exactly when two keys are equivalent under its order, with that pair.
-/

namespace GatherMap.Proofs.DuplicateReport

open GatherMap Proofs.Duplicates Proofs.PerfectBuild Proofs.MapBuild Proofs.EntryErrors

variable {α : Type}

/-! ### The reported pair -/

/-- Two positions of `keys` hold equivalent keys. -/
def HasEquivalentPair (less : α → α → Bool) (keys : Array α) : Prop :=
  ∃ i j, ∃ (hi : i < keys.size) (hj : j < keys.size), i < j ∧ Equivalent less keys[i] keys[j]

/-- `x` and `y` are the first two positions of the least class of equivalent keys that has two
members: their keys are equivalent, every other key of the class stands after `y`, and no key
of an equivalent pair is below their class. -/
structure FirstEquivalentPair (less : α → α → Bool) (keys : Array α) (x y : Nat) : Prop where
  lt : x < y
  lt_size : y < keys.size
  equivalent : Equivalent less keys[x] keys[y]
  first : ∀ z (hz : z < keys.size), Equivalent less keys[z] keys[x] → z = x ∨ y ≤ z
  least : ∀ i j (hi : i < keys.size) (hj : j < keys.size), i < j →
    Equivalent less keys[i] keys[j] → less keys[i] keys[x] = false

theorem FirstEquivalentPair.lt_size_left {less : α → α → Bool} {keys : Array α} {x y : Nat}
    (h : FirstEquivalentPair less keys x y) : x < keys.size :=
  Nat.lt_trans h.lt h.lt_size

/-- A build that reports pairs of positions (`reports x y`) does so as it should: it reports one
exactly when two keys are equivalent, and then the first pair of the least class. -/
structure ReportsFirstPair (less : α → α → Bool) (keys : Array α) (reports : Nat → Nat → Prop) :
    Prop where
  exists_iff : (∃ x y, reports x y) ↔ HasEquivalentPair less keys
  first_pair : ∀ x y, reports x y → FirstEquivalentPair less keys x y

/-! ### Equivalent keys -/

section Order

variable {less : α → α → Bool} (hless : StrictWeakOrder less)
include hless

theorem Equivalent.trans' {a b c : α} (hab : Equivalent less a b) (hbc : Equivalent less b c) :
    Equivalent less a c :=
  ⟨hless.not_trans hbc.1 hab.1, hless.not_trans hab.2 hbc.2⟩

/-- Equivalent keys are below the same keys. -/
theorem less_of_equivalent {a b c : α} (hab : Equivalent less a b) (h : less a c = true) :
    less b c = true := by
  cases hbc : less b c
  · have := hless.not_trans hbc hab.1
    rw [h] at this
    cases this
  · rfl

end Order

/-! ### The first adjacent pair -/

/-- The pair `firstAdjacent?` finds is at some index `k`, and every adjacent pair before it fails
the test. -/
theorem firstAdjacent?_eq_some_first {β : Type} (p : β → β → Bool) :
    ∀ (l : List β) {a b : β}, firstAdjacent? p l = some (a, b) →
      ∃ k, ∃ hk : k < l.length, ∃ hnext : k + 1 < l.length, l[k] = a ∧ l[k + 1] = b ∧
        ∀ i (hi : i < k), p l[i] l[i + 1] = false
  | [], _, _, h => by simp [firstAdjacent?] at h
  | [_], _, _, h => by simp [firstAdjacent?] at h
  | c :: d :: rest, a, b, h => by
    unfold firstAdjacent? at h
    by_cases hcd : p c d = true
    · rw [if_pos hcd, Option.some.injEq, Prod.mk.injEq] at h
      obtain ⟨rfl, rfl⟩ := h
      exact ⟨0, by simp, by simp, rfl, rfl, fun i hi => absurd hi (Nat.not_lt_zero i)⟩
    · rw [if_neg hcd] at h
      obtain ⟨k, hk0, hk, hka, hkb, hbefore⟩ := firstAdjacent?_eq_some_first p (d :: rest) h
      refine ⟨k + 1, by simp at hk ⊢; omega, by simp at hk ⊢; omega, by simpa using hka,
        by simpa using hkb, fun i hi => ?_⟩
      cases i with
      | zero => simpa using hcd
      | succ i => simpa using hbefore i (by omega)

/-! ### What `findDuplicate?` reports -/

section Found

variable {less : α → α → Bool} (hless : StrictWeakOrder less)
include hless

/-- Positions that each step strictly up are strictly increasing up to the last step. -/
theorem less_of_chain {L : List (α × Nat)} {k : Nat}
    (hchain : ∀ i, i < k → ∀ (hL : i + 1 < L.length), less L[i].1 L[i + 1].1 = true) :
    ∀ u v (hv : v < L.length) (huv : u < v), v ≤ k → less L[u].1 L[v].1 = true := by
  intro u v hv huv hvk
  induction v, huv using Nat.le_induction with
  | base => exact hchain u (by omega) hv
  | succ v huv ih =>
    exact hless.trans (ih (by omega) (by omega)) (hchain v (by omega) hv)

omit hless in
theorem exists_getElem_sortPositions (keys : Array α) {z : Nat} (hz : z < keys.size) :
    ∃ u, ∃ hu : u < (sortPositions keys less).length,
      (sortPositions keys less)[u] = (keys[z], z) :=
  List.mem_iff_getElem.mp ((mem_sortPositions keys).mpr ⟨z, hz, rfl⟩)

omit hless in
/-- The pair `findDuplicate?` reports sits at some index `k` of the sorted positions, after keys
that increase strictly. -/
theorem findDuplicate?_eq_some_at {keys : Array α} {x y : Nat}
    (h : findDuplicate? keys less = some (x, y)) (hx : x < keys.size) (hy : y < keys.size) :
    ∃ k, ∃ hk : k + 1 < (sortPositions keys less).length,
      (sortPositions keys less)[k] = (keys[x], x) ∧
      (sortPositions keys less)[k + 1] = (keys[y], y) ∧
      ∀ i, i < k → ∀ (hL : i + 1 < (sortPositions keys less).length),
        less (sortPositions keys less)[i].1 (sortPositions keys less)[i + 1].1 = true := by
  rw [findDuplicate?_eq_firstAdjacent?, Option.map_eq_some_iff] at h
  obtain ⟨⟨a, b⟩, hfound, hpair⟩ := h
  simp only [Prod.mk.injEq] at hpair
  obtain ⟨k, hk0, hk, hka, hkb, hbefore⟩ := firstAdjacent?_eq_some_first _ _ hfound
  obtain ⟨i, hi, rfl⟩ := (mem_sortPositions keys).mp (hka ▸ List.getElem_mem (by omega))
  obtain ⟨j, hj, rfl⟩ := (mem_sortPositions keys).mp (hkb ▸ List.getElem_mem hk)
  obtain ⟨rfl, rfl⟩ := hpair
  exact ⟨k, hk, hka, hkb, fun i hi _ => by simpa using hbefore i hi⟩

/-- **`findDuplicate?` reports the first pair of the least class with two members.** Before the pair
the sorted keys increase strictly, and from the pair on none is below the key at `x`. So a key of
the class of `x` sits at the pair or after it, where stability orders its positions, and two
equivalent keys below that class would both come before the pair. -/
theorem findDuplicate?_firstEquivalentPair {keys : Array α} {x y : Nat}
    (h : findDuplicate? keys less = some (x, y)) : FirstEquivalentPair less keys x y := by
  obtain ⟨hx, hy, hxy, heq⟩ := findDuplicate?_eq_some hless h
  obtain ⟨k, hk, hka, hkb, hchain⟩ := findDuplicate?_eq_some_at h hx hy
  have hnodup : (sortPositions keys less).Nodup := sortPositions_nodup keys
  have hkx : (sortPositions keys less)[k].1 = keys[x] := by rw [hka]
  have hprefix := less_of_chain hless hchain
  have hnotBelow : ∀ u (hu : u < (sortPositions keys less).length), k ≤ u →
      less (sortPositions keys less)[u].1 keys[x] = false := by
    intro u hu hku
    rcases Nat.lt_or_eq_of_le hku with hlt | rfl
    · have := List.pairwise_iff_getElem.mp (sortPositions_sorted hless keys) k u (by omega) hu hlt
      rwa [hkx] at this
    · rw [hkx]
      exact hless.irrefl keys[x]
  have hbefore : ∀ u (hu : u < (sortPositions keys less).length),
      less (sortPositions keys less)[u].1 keys[x] = true → u < k := fun u hu hbelow =>
    Nat.lt_of_not_le fun hku => by
      rw [hnotBelow u hu hku] at hbelow
      cases hbelow
  refine ⟨hxy, hy, heq, fun z hz hzx => ?_, fun i j hi hj hij hequiv => ?_⟩
  · obtain ⟨u, hu, hLu⟩ := exists_getElem_sortPositions keys hz
    rcases Nat.lt_trichotomy u k with huk | rfl | hku
    · have := hprefix u k (by omega) huk le_rfl
      rw [hLu, hka] at this
      rw [hzx.1] at this
      cases this
    · have := hLu.symm.trans hka
      simp only [Prod.mk.injEq] at this
      exact Or.inl this.2
    · refine Or.inr (Nat.le_of_not_lt fun hzy => ?_)
      have hsub := sortPositions_stable hless hz hy hzy (Equivalent.trans' hless hzx heq)
      rw [← hLu, ← hkb] at hsub
      classical
      have := lt_of_pair_sublist hnodup hu hk hsub
      omega
  · cases hix : less keys[i] keys[x] with
    | false => rfl
    | true =>
      have hjx : less keys[j] keys[x] = true := less_of_equivalent hless hequiv hix
      obtain ⟨u, hu, hLu⟩ := exists_getElem_sortPositions keys hi
      obtain ⟨v, hv, hLv⟩ := exists_getElem_sortPositions keys hj
      have huk : u < k := hbefore u hu (by rw [hLu]; exact hix)
      have hvk : v < k := hbefore v hv (by rw [hLv]; exact hjx)
      rcases Nat.lt_trichotomy u v with huv | rfl | hvu
      · have := hprefix u v hv huv (by omega)
        rw [hLu, hLv, hequiv.1] at this
        cases this
      · have := hLu.symm.trans hLv
        simp only [Prod.mk.injEq] at this
        omega
      · have := hprefix v u hu hvu (by omega)
        rw [hLu, hLv, hequiv.2] at this
        cases this

omit hless in
/-- There is only one first pair of the least class. Neither pair's class is below the other's, so
the two classes are one. -/
theorem FirstEquivalentPair.unique {keys : Array α} {x y x' y' : Nat}
    (h : FirstEquivalentPair less keys x y) (h' : FirstEquivalentPair less keys x' y') :
    x = x' ∧ y = y' := by
  have hx : x < keys.size := h.lt_size_left
  have hx' : x' < keys.size := h'.lt_size_left
  have hsame : Equivalent less keys[x] keys[x'] :=
    ⟨h'.least x y hx h.lt_size h.lt h.equivalent, h.least x' y' hx' h'.lt_size h'.lt h'.equivalent⟩
  have hxx : x = x' := by
    rcases h.first x' hx' ⟨hsame.2, hsame.1⟩ with heq | hyx
    · exact heq.symm
    · rcases h'.first x hx hsame with heq | hyx'
      · exact heq
      · have := h.lt
        have := h'.lt
        omega
  subst hxx
  refine ⟨rfl, Nat.le_antisymm ?_ ?_⟩
  · rcases h.first y' h'.lt_size ⟨h'.equivalent.2, h'.equivalent.1⟩ with heq | hle
    · exact absurd heq (Nat.ne_of_gt h'.lt)
    · exact hle
  · rcases h'.first y h.lt_size ⟨h.equivalent.2, h.equivalent.1⟩ with heq | hle
    · exact absurd heq (Nat.ne_of_gt h.lt)
    · exact hle

theorem hasEquivalentPair_iff (keys : Array α) :
    HasEquivalentPair less keys ↔ findDuplicate? keys less ≠ none := by
  rw [Ne, findDuplicate?_eq_none_iff hless]
  constructor
  · rintro ⟨i, j, hi, hj, hij, hequiv⟩ hnone
    exact hnone i j hi hj hij hequiv
  · intro hsome
    by_contra hnone
    exact hsome fun i j hi hj hij hequiv => hnone ⟨i, j, hi, hj, hij, hequiv⟩

/-- **`findDuplicate?` reports a pair exactly when it is the first pair of the least class.** -/
theorem findDuplicate?_eq_some_iff {keys : Array α} {x y : Nat} :
    findDuplicate? keys less = some (x, y) ↔ FirstEquivalentPair less keys x y := by
  refine ⟨findDuplicate?_firstEquivalentPair hless, fun h => ?_⟩
  have hfound : findDuplicate? keys less ≠ none :=
    (hasEquivalentPair_iff hless keys).mp
      ⟨x, y, h.lt_size_left, h.lt_size, h.lt, h.equivalent⟩
  obtain ⟨⟨x', y'⟩, hsome⟩ := Option.ne_none_iff_exists'.mp hfound
  obtain ⟨rfl, rfl⟩ := h.unique (findDuplicate?_firstEquivalentPair hless hsome)
  exact hsome

/-- A build whose reported pairs are those of `findDuplicate?` reports the first pair of the
least class, exactly when there are equivalent keys. -/
theorem reportsFirstPair_of_iff {keys : Array α} {reports : Nat → Nat → Prop}
    (h : ∀ x y, reports x y ↔ findDuplicate? keys less = some (x, y)) :
    ReportsFirstPair less keys reports where
  exists_iff := by
    rw [hasEquivalentPair_iff hless, Option.ne_none_iff_exists']
    simp only [h, Prod.exists]
  first_pair x y hxy := findDuplicate?_firstEquivalentPair hless ((h x y).mp hxy)

end Found

/-- Raw forms compared as unsigned integers: two positions hold equivalent raw forms exactly when
two raw forms are equal. -/
theorem hasEquivalentPair_ltRaw_iff (raws : Array UInt64) :
    HasEquivalentPair (fun a b => decide (a < b)) raws ↔ ¬raws.toList.Nodup := by
  rw [hasEquivalentPair_iff ltRaw_strictWeakOrder, Ne,
    findDuplicate?_eq_none_iff_nodup ltRaw_strictWeakOrder fun _ _ _ _ => equivalent_ltRaw_iff]

/-- Raw forms compared as unsigned integers: the first pair of the least class is the first two
positions of the smallest raw form that occurs twice. -/
theorem firstEquivalentPair_ltRaw_iff {raws : Array UInt64} {x y : Nat} :
    FirstEquivalentPair (fun a b => decide (a < b)) raws x y ↔
      ∃ (hxy : x < y) (hy : y < raws.size), raws[x] = raws[y] ∧
        (∀ z (hz : z < raws.size), raws[z] = raws[x] → z = x ∨ y ≤ z) ∧
        ∀ i j (hi : i < raws.size) (hj : j < raws.size), i < j → raws[i] = raws[j] →
          raws[x] ≤ raws[i] := by
  constructor
  · intro h
    refine ⟨h.lt, h.lt_size, equivalent_ltRaw_iff.mp h.equivalent,
      fun z hz hzx => h.first z hz (equivalent_ltRaw_iff.mpr hzx),
      fun i j hi hj hij heq => ?_⟩
    have := h.least i j hi hj hij (equivalent_ltRaw_iff.mpr heq)
    simpa using this
  · rintro ⟨hxy, hy, heq, hfirst, hleast⟩
    refine ⟨hxy, hy, equivalent_ltRaw_iff.mpr heq,
      fun z hz hzx => hfirst z hz (equivalent_ltRaw_iff.mp hzx), fun i j hi hj hij hequiv => ?_⟩
    simpa using hleast i j hi hj hij (equivalent_ltRaw_iff.mp hequiv)

/-! ### The builders -/

section Builders

variable {b : Builder} {t : KeyType} {raws : Array UInt64} {x y : Nat}

/-- With a positive depth the builder reports the pair of the raw-form duplicate check. -/
theorem buildPerfect_eq_duplicateKey_iff (hd : 0 < b.maxDepth) :
    (b.buildPerfect t raws).value = .error (.duplicateKey x y) ↔
      PerfectKeyset.duplicate? raws = some (x, y) := by
  constructor
  · intro h
    rcases buildPerfect_eq_error h with ⟨hzero, -⟩ | ⟨-, x', y', hdup, he⟩ | ⟨-, -, hsize⟩
    · omega
    · cases he
      exact hdup
    · rcases hsize with ⟨_, _, he⟩ | ⟨_, _, he⟩ <;> cases he
  · exact buildPerfect_of_duplicate? t hd

/-- With a positive depth, building with a mask reports the pair of the raw-form duplicate
check: nothing checked after it reports `duplicateKey`. -/
theorem withMask_eq_duplicateKey_iff {mask : UInt64} {d : Nat} (hd : 0 < d) :
    PerfectKeyset.withMask t raws mask d = .error (.duplicateKey x y) ↔
      PerfectKeyset.duplicate? raws = some (x, y) := by
  unfold PerfectKeyset.withMask
  rw [if_neg (by omega)]
  cases hdup : PerfectKeyset.duplicate? raws with
  | some pair =>
    obtain ⟨a, b⟩ := pair
    simp
  | none =>
    simp only [reduceCtorEq, iff_false]
    split
    · simp
    · split
      · simp
      · intro h
        rcases assemble_eq_error h with ⟨_, _, he⟩ | ⟨_, _, he⟩ <;> cases he

/-- Sorting by any order reports the pair of the duplicate check. -/
theorem sortKeys_eq_duplicateKey_iff (less : UInt64 → UInt64 → Bool) :
    OrderedKeyset.sortKeys less raws = .error (.duplicateKey x y) ↔
      findDuplicate? raws less = some (x, y) := by
  rw [OrderedKeyset.sortKeys]
  cases findDuplicate? raws less with
  | some pair =>
    obtain ⟨a, b⟩ := pair
    simp
  | none => simp

theorem ofKeys_eq_duplicateKey_iff (order : KeyOrder) :
    OrderedKeyset.ofKeys t order raws = .error (.duplicateKey x y) ↔
      findDuplicate? raws (order.less t) = some (x, y) := by
  rw [OrderedKeyset.ofKeys, map_eq_error_iff]
  exact sortKeys_eq_duplicateKey_iff (order.less t)

theorem buildKeyset_eq_error_iff_ofKeys (order : KeyOrder) (hsmall : raws.size ≤ b.orderedThreshold)
    {e : BuildError} :
    (b.buildKeyset t order raws).value = .error e ↔ OrderedKeyset.ofKeys t order raws = .error e := by
  unfold Builder.buildKeyset
  rw [if_pos hsmall]
  exact map_eq_error_iff

theorem buildKeyset_eq_error_iff_buildPerfect (order : KeyOrder)
    (hlarge : b.orderedThreshold < raws.size) {e : BuildError} :
    (b.buildKeyset t order raws).value = .error e ↔ (b.buildPerfect t raws).value = .error e := by
  unfold Builder.buildKeyset
  rw [if_neg (by omega)]
  exact map_eq_error_iff

/-- A map reports equal keys exactly as its keyset does: scattering the entries over a keyset
never reports them. -/
theorem buildMap_eq_duplicateKey_iff {entries : List (UInt64 × α)} :
    (b.buildMap t entries).value = .ok (.error (.duplicateKey x y)) ↔
      (b.buildKeyset t .natural (entries.map (·.1)).toArray).value =
        .error (.duplicateKey x y) := by
  refine ⟨fun h => ?_, buildMap_of_keyset_error⟩
  cases hk : (b.buildKeyset t .natural (entries.map (·.1)).toArray).value with
  | error e =>
    rw [buildMap_of_keyset_error hk] at h
    cases h
    rfl
  | ok ks =>
    have hmap : (b.buildMap t entries).value = Map.ofEntries ks entries := by
      simp only [Builder.buildMap, hk]
    rw [hmap] at h
    rcases ofEntries_error_cases h with ⟨_, he⟩ | ⟨_, he⟩ | ⟨_, he⟩ <;> cases he

end Builders

/-- **Every build that checks for equal keys names the first pair of the least class.** On the
perfect-hash path (the builder with a positive `maxDepth`, a given mask with a positive depth,
and keysets and maps of more than `orderedThreshold` keys) raw forms are compared as unsigned
integers, so `duplicateKey` is reported exactly when two raw forms are equal, and names the first
two positions of the smallest raw form that occurs twice (`hasEquivalentPair_ltRaw_iff`,
`firstEquivalentPair_ltRaw_iff`). On the ordered path (sorting by any strict weak order, among
them the orders a keyset is built with, and keysets and maps of at most `orderedThreshold` keys)
it is reported exactly when two keys are equivalent under the order, and names the first two
positions of the least class with two members. Either way
the first position is below the second, and the second below the number of keys. -/
theorem duplicate_errors_name_first_pair_of_least_class (b : Builder) (t : KeyType)
    (order : KeyOrder) (raws : Array UInt64) (mask : UInt64) (d : Nat)
    (entries : List (UInt64 × α)) :
    (0 < b.maxDepth → ReportsFirstPair (fun a b => decide (a < b)) raws
      fun x y => (b.buildPerfect t raws).value = .error (.duplicateKey x y)) ∧
    (0 < d → ReportsFirstPair (fun a b => decide (a < b)) raws
      fun x y => PerfectKeyset.withMask t raws mask d = .error (.duplicateKey x y)) ∧
    (0 < b.maxDepth → b.orderedThreshold < raws.size →
      ReportsFirstPair (fun a b => decide (a < b)) raws
        fun x y => (b.buildKeyset t order raws).value = .error (.duplicateKey x y)) ∧
    (∀ less : UInt64 → UInt64 → Bool, StrictWeakOrder less → ReportsFirstPair less raws
      fun x y => OrderedKeyset.sortKeys less raws = .error (.duplicateKey x y)) ∧
    ReportsFirstPair (order.less t) raws
      (fun x y => OrderedKeyset.ofKeys t order raws = .error (.duplicateKey x y)) ∧
    (raws.size ≤ b.orderedThreshold → ReportsFirstPair (order.less t) raws
      fun x y => (b.buildKeyset t order raws).value = .error (.duplicateKey x y)) ∧
    (0 < b.maxDepth → b.orderedThreshold < entries.length →
      ReportsFirstPair (fun a b => decide (a < b)) (entries.map (·.1)).toArray
        fun x y => (b.buildMap t entries).value = .ok (.error (.duplicateKey x y))) ∧
    (entries.length ≤ b.orderedThreshold →
      ReportsFirstPair (KeyOrder.natural.less t) (entries.map (·.1)).toArray
        fun x y => (b.buildMap t entries).value = .ok (.error (.duplicateKey x y))) := by
  have hraw := ltRaw_strictWeakOrder
  have horder := KeyOrder.strictWeakOrder t order
  have hkeys : (entries.map (·.1)).toArray.size = entries.length := by simp
  refine ⟨fun hd => reportsFirstPair_of_iff hraw fun x y => buildPerfect_eq_duplicateKey_iff hd,
    fun hd => reportsFirstPair_of_iff hraw fun x y => withMask_eq_duplicateKey_iff hd,
    fun hd hlarge => reportsFirstPair_of_iff hraw fun x y => ?_,
    fun less hless => reportsFirstPair_of_iff hless fun x y => sortKeys_eq_duplicateKey_iff less,
    reportsFirstPair_of_iff horder fun x y => ofKeys_eq_duplicateKey_iff order,
    fun hsmall => reportsFirstPair_of_iff horder fun x y => ?_,
    fun hd hlarge => reportsFirstPair_of_iff hraw fun x y => ?_,
    fun hsmall => reportsFirstPair_of_iff (KeyOrder.strictWeakOrder t .natural) fun x y => ?_⟩
  · rw [buildKeyset_eq_error_iff_buildPerfect order hlarge]
    exact buildPerfect_eq_duplicateKey_iff hd
  · rw [buildKeyset_eq_error_iff_ofKeys order hsmall]
    exact ofKeys_eq_duplicateKey_iff order
  · rw [buildMap_eq_duplicateKey_iff, buildKeyset_eq_error_iff_buildPerfect .natural (hkeys ▸ hlarge)]
    exact buildPerfect_eq_duplicateKey_iff hd
  · rw [buildMap_eq_duplicateKey_iff, buildKeyset_eq_error_iff_ofKeys .natural (hkeys ▸ hsmall)]
    exact ofKeys_eq_duplicateKey_iff .natural

end GatherMap.Proofs.DuplicateReport
