import GatherMap.Map
import GatherMap.Proofs.PerfectLookup
import GatherMap.Proofs.Ordered

/-!
# Lookups in keysets assembled from arbitrary parts

Generated code assembles keysets from stored parts without any check: the keys may repeat or be
out of order, the lookup table may be short or point anywhere, and the depth may be zero. A
lookup in such a keyset can go wrong in one way only, and never answers wrongly:

* `find_eq_error_iff`: a perfect-hash lookup faults exactly when the packed index of the probe is
  past the end of the lookup table, and the fault names the table's length and that index;
* `findIndexed_eq`: the binary search of an ordered keyset reads its keys by index and never past
  their end, whatever their order: it keeps `base + len` within the keys;
* `keyset_find_sound`: an answer is the key count or a slot that holds the probe;
* `get?_sound`, `getKeyValue?_sound`, `contains_sound`: a map with one value per key over such a
  keyset reads only the value of a slot that holds the probe; `view_eq_ok_iff`: a view of a
  keyset and values exists exactly when they have one value per key.
-/

namespace GatherMap.Proofs.RawParts

open GatherMap Proofs.Slots Proofs.PerfectLookup

variable {α : Type}

/-- A sound answer in the words of slots: at most the key count, and a slot holds the probe. -/
theorem sound_iff {keys : Array UInt64} {raw : UInt64} {r : Nat} :
    Sound keys.toList raw r ↔ r ≤ keys.size ∧ ∀ h : r < keys.size, keys[r] = raw := by
  simp only [Sound, Array.length_toList, Array.getElem_toList]
  constructor
  · rintro (rfl | ⟨h, hget⟩)
    · exact ⟨Nat.le_refl _, fun h => absurd h (Nat.lt_irrefl _)⟩
    · exact ⟨Nat.le_of_lt h, fun _ => hget⟩
  · rintro ⟨hle, hget⟩
    rcases Nat.lt_or_eq_of_le hle with hlt | heq
    · exact Or.inr ⟨hlt, hget hlt⟩
    · exact Or.inl heq

/-! ### Perfect-hash keysets -/

/-- A table read faults exactly past the table's end. -/
theorem get_eq_error_iff {lt : LookupTable} {index : Nat} {f : Fault} :
    lt.get index = .error f ↔ lt.size ≤ index ∧ f = .indexOutOfBounds lt.size index := by
  unfold LookupTable.get
  split
  · rename_i offset hget
    have hlt : index < lt.offsets.size := (Array.getElem?_eq_some_iff.mp hget).1
    simp only [reduceCtorEq, false_iff, not_and]
    intro hle
    exact absurd hlt (by unfold LookupTable.size at hle; omega)
  · rename_i hnone
    have hle : lt.offsets.size ≤ index := Array.getElem?_eq_none_iff.mp hnone
    simp only [Except.error.injEq]
    exact ⟨fun h => ⟨hle, h.symm⟩, fun h => h.2.symm⟩

/-- **A perfect-hash lookup faults exactly when the packed index is past the table.** -/
theorem find_eq_error_iff {ks : PerfectKeyset} {raw : UInt64} {f : Fault} :
    ks.find raw = .error f ↔
      ks.lookup.size ≤ (ks.gather.apply raw).toNat ∧
        f = .indexOutOfBounds ks.lookup.size (ks.gather.apply raw).toNat := by
  rw [← get_eq_error_iff]
  cases hget : ks.lookup.get (ks.gather.apply raw).toNat with
  | error e => rw [find_eq_error_of_get hget]
  | ok start =>
    rw [find_eq_of_get hget]
    simp only [reduceCtorEq]

theorem perfect_find_sound {ks : PerfectKeyset} {raw : UInt64} {r : Nat}
    (h : ks.find raw = .ok r) : Sound ks.keys.toList raw r := by
  cases hget : ks.lookup.get (ks.gather.apply raw).toNat with
  | error e =>
    rw [find_eq_error_of_get hget] at h
    cases h
  | ok start =>
    rw [find_eq_of_get hget, Except.ok.injEq] at h
    exact h ▸ scanBucket_sound ks.keys start ks.depth raw

/-! ### Ordered keysets -/

/-- The lower-bound search with its reads of `keys[base + half]` done by checked indexing: a read
past the end of the keys is a fault. -/
def lowerBoundIndexed (keys : Array UInt64) (less : UInt64 → UInt64 → Bool) (key : UInt64)
    (base len : Nat) : Except Fault Nat :=
  if len = 0 then .ok base
  else
    let half := len / 2
    match keys[base + half]? with
    | none => .error (.indexOutOfBounds keys.size (base + half))
    | some probe =>
      lowerBoundIndexed keys less key (if less probe key then base + (len - half) else base) half
termination_by len
decreasing_by all_goals omega

/-- `OrderedKeyset.find` with the search's reads done by indexing. -/
def findIndexed (ks : OrderedKeyset) (raw : UInt64) : Except Fault Nat := do
  let position ← lowerBoundIndexed ks.keys (ks.order.less ks.keyType) raw 0 ks.keys.size
  pure (if ks.keys[position]? == some raw then position else ks.keys.size)

/-- **The search never reads past the keys.** Every read is at `base + len / 2`, below
`base + len`, and both ways of halving keep `base + len` within the keys. -/
theorem lowerBoundIndexed_eq (keys : Array UInt64) (less : UInt64 → UInt64 → Bool)
    (key : UInt64) (base len : Nat) (hsize : base + len ≤ keys.size) :
    lowerBoundIndexed keys less key base len =
      .ok (OrderedKeyset.lowerBound keys less key base len) := by
  fun_induction OrderedKeyset.lowerBound keys less key base len with
  | case1 base =>
    rw [lowerBoundIndexed, if_pos rfl]
  | case2 base len hne half base' ih =>
    have hmid : base + len / 2 < keys.size := by omega
    have hread : keys[base + len / 2]? = some keys[base + len / 2] :=
      Array.getElem?_eq_getElem hmid
    have hbase :
        base' = if less keys[base + len / 2] key then base + (len - len / 2) else base := by
      simp only [base', half, hread, Option.getD_some, dite_eq_ite]
    rw [lowerBoundIndexed, if_neg hne]
    simp only [hread]
    rw [← hbase]
    apply ih
    rw [hbase]
    split <;> omega

/-- **An ordered lookup never faults**: it answers what `find` answers. -/
theorem findIndexed_eq (ks : OrderedKeyset) (raw : UInt64) :
    findIndexed ks raw = .ok (ks.find raw) := by
  unfold findIndexed
  rw [lowerBoundIndexed_eq _ _ _ 0 ks.keys.size (by omega)]
  rfl

theorem ordered_find_sound (ks : OrderedKeyset) (raw : UInt64) :
    Sound ks.keys.toList raw (ks.find raw) :=
  Ordered.search_sound ks.keys _ raw

/-- **A lookup answers the key count or a slot that holds the probe**, in a keyset of either
kind. -/
theorem keyset_find_sound {ks : Keyset} {raw : UInt64} {r : Nat} (h : ks.find raw = .ok r) :
    Sound ks.keys.toList raw r := by
  cases ks with
  | ordered o =>
    cases h
    exact ordered_find_sound o raw
  | perfect p => exact perfect_find_sound h

/-! ### Maps over such keysets -/

/-- The map has one value per key of its keyset. -/
def OneValuePerKey (m : Map α) : Prop := m.values.size = m.keyset.size

section Reads

variable {m : Map α} {raw : UInt64} {r : Nat}

theorem get?_eq_of_find (h : m.find raw = .ok r) : m.get? raw = .ok m.values[r]? := by
  rw [Map.get?, h]
  rfl

theorem contains_eq_of_find (h : m.find raw = .ok r) :
    m.contains raw = .ok (r != m.keyset.size) := by
  rw [Map.contains, Keyset.contains, ← Map.find, h]
  rfl

theorem find_eq_ok_of_get? {o : Option α} (h : m.get? raw = .ok o) :
    ∃ r, m.find raw = .ok r ∧ m.values[r]? = o := by
  cases hfind : m.find raw with
  | error f =>
    rw [Map.get?, hfind] at h
    cases h
  | ok r =>
    rw [get?_eq_of_find hfind, Except.ok.injEq] at h
    exact ⟨r, rfl, h⟩

/-- **A map with one value per key reads only the value of a slot holding the probe.** -/
theorem get?_sound (hm : OneValuePerKey m) {v : α} (h : m.get? raw = .ok (some v)) :
    ∃ i, ∃ (hk : i < m.keyset.keys.size) (hv : i < m.values.size),
      m.keyset.keys[i] = raw ∧ m.values[i] = v := by
  obtain ⟨r, hfind, hval⟩ := find_eq_ok_of_get? h
  obtain ⟨hv, rfl⟩ := Array.getElem?_eq_some_iff.mp hval
  have hk : r < m.keyset.keys.size := by
    unfold OneValuePerKey Keyset.size at hm
    omega
  obtain ⟨-, hget⟩ := sound_iff.mp (keyset_find_sound hfind)
  exact ⟨r, hk, hv, hget hk, rfl⟩

theorem getKeyValue?_sound (hm : OneValuePerKey m) {k : UInt64} {v : α}
    (h : m.getKeyValue? raw = .ok (some (k, v))) :
    k = raw ∧ ∃ i, ∃ (hk : i < m.keyset.keys.size) (hv : i < m.values.size),
      m.keyset.keys[i] = raw ∧ m.values[i] = v := by
  cases hget : m.get? raw with
  | error f =>
    rw [Map.getKeyValue?, hget] at h
    cases h
  | ok o =>
    rw [Map.getKeyValue?, hget] at h
    cases o with
    | none => cases h
    | some v' =>
      simp only [Except.map, Option.map_some, Except.ok.injEq, Option.some.injEq,
        Prod.mk.injEq] at h
      obtain ⟨rfl, rfl⟩ := h
      exact ⟨rfl, get?_sound hm hget⟩

/-- A probe that a keyset reports present is stored. -/
theorem contains_sound (h : m.contains raw = .ok true) : raw ∈ m.keyset.keys.toList := by
  cases hfind : m.find raw with
  | error f =>
    rw [Map.contains, Keyset.contains, ← Map.find, hfind] at h
    cases h
  | ok r =>
    rw [contains_eq_of_find hfind, Except.ok.injEq, bne_iff_ne] at h
    obtain ⟨hle, hget⟩ := sound_iff.mp (keyset_find_sound hfind)
    have hlt : r < m.keyset.keys.size := by
      unfold Keyset.size at h
      omega
    rw [Array.mem_toList_iff, ← hget hlt]
    exact Array.getElem_mem hlt

end Reads

/-- A view of a keyset and values exists exactly when they have one value per key, and it is the
map of the two. -/
theorem view_eq_ok_iff {ks : Keyset} {values : Array α} {s : Map α} :
    Map.view ks values = .ok s ↔ s = { keyset := ks, values } ∧ OneValuePerKey s := by
  unfold Map.view OneValuePerKey
  split
  · rename_i hsize
    constructor
    · rintro ⟨⟩
      exact ⟨rfl, hsize.symm⟩
    · rintro ⟨rfl, -⟩
      rfl
  · rename_i hsize
    simp only [reduceCtorEq, false_iff, not_and]
    rintro rfl hsize'
    exact hsize hsize'.symm

/-- **Keysets assembled from arbitrary parts fault only past their table, and never answer
wrongly.** A perfect-hash lookup faults exactly when the probe's packed index is past the end of
the lookup table, with the fault that names the table's length and the index; an ordered lookup
never faults, its search reading only slots within the keys. An answer is at most the key count,
and below it, a slot that holds the probe. So a view of a keyset and values exists exactly for
one value per key, and a map with one value per key over any keyset reads a value, a key with a
value or a presence only from a slot that holds the probe. -/
theorem raw_parts_answer_soundly :
    (∀ (ks : PerfectKeyset) (raw : UInt64) (f : Fault), ks.find raw = .error f ↔
      ks.lookup.size ≤ (ks.gather.apply raw).toNat ∧
        f = .indexOutOfBounds ks.lookup.size (ks.gather.apply raw).toNat) ∧
    (∀ (ks : PerfectKeyset) (raw : UInt64) (r : Nat), ks.find raw = .ok r →
      r ≤ ks.size ∧ ∀ h : r < ks.size, ks.keys[r] = raw) ∧
    (∀ (ks : OrderedKeyset) (raw : UInt64), findIndexed ks raw = .ok (ks.find raw) ∧
      ks.find raw ≤ ks.size ∧ ∀ h : ks.find raw < ks.size, ks.keys[ks.find raw] = raw) ∧
    (∀ (ks : Keyset) (values : Array α) (s : Map α),
      Map.view ks values = .ok s ↔ s = { keyset := ks, values } ∧ OneValuePerKey s) ∧
    ∀ m : Map α, OneValuePerKey m → ∀ raw : UInt64,
      (∀ v, m.get? raw = .ok (some v) → ∃ i, ∃ (hk : i < m.keyset.keys.size)
        (hv : i < m.values.size), m.keyset.keys[i] = raw ∧ m.values[i] = v) ∧
      (∀ k v, m.getKeyValue? raw = .ok (some (k, v)) → k = raw ∧ ∃ i,
        ∃ (hk : i < m.keyset.keys.size) (hv : i < m.values.size),
          m.keyset.keys[i] = raw ∧ m.values[i] = v) ∧
      (m.contains raw = .ok true → raw ∈ m.keyset.keys.toList) := by
  refine ⟨fun _ _ _ => find_eq_error_iff, fun _ _ _ h => sound_iff.mp (perfect_find_sound h),
    fun ks raw => ⟨findIndexed_eq ks raw, sound_iff.mp (ordered_find_sound ks raw)⟩,
    fun _ _ _ => view_eq_ok_iff, fun m hm raw => ?_⟩
  exact ⟨fun _ => get?_sound hm, fun _ _ => getKeyValue?_sound hm, contains_sound⟩

end GatherMap.Proofs.RawParts
