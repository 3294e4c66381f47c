import GatherMap.Proofs.Validation
import GatherMap.Proofs.RawParts

/-!
# Maps hold one value per key, and read by slot

A map counts its values for its length, while presence and lookups go through its keyset. The two
agree because every way of making a map, over any keyset, gives it one value per key
(`OneValuePerKey`):

* `ofEntries_eq_ok`: scattering keeps one slot per key, and collecting keeps one value per slot;
* `ofSlots_eq_ok`, `withDefault_oneValuePerKey`, `validate_oneValuePerKey`: the other
  constructors check or build the count;
* `buildMap_oneValuePerKey`: so does building a map from entries.

With one value per key the reads of a map are all read off one slot (`ReadsBySlot`): a lookup
never answers past the length, the probe is present exactly when its slot is a slot of the map,
`get?`, `getKeyValue?` and `value` give the value there, the entries pair each key with its value,
and the map is its own view (`readsBySlot_of_oneValuePerKey`).
-/

namespace GatherMap.Proofs.MapRead

open GatherMap Map Proofs.RawParts Proofs.MapBuild

variable {α : Type}

theorem bind_eq_ok_iff {ε β γ : Type} {x : Except ε β} {f : β → Except ε γ} {c : γ} :
    x.bind f = .ok c ↔ ∃ b, x = .ok b ∧ f b = .ok c := by
  cases x <;> simp [Except.bind]

/-! ### Constructors -/

/-- Scattering writes into the slots it is given and never resizes them. -/
theorem scatter_size {ks : Keyset} :
    ∀ (entries : List (UInt64 × α)) (index : Nat) (slots filled : Array (Option α)),
      scatter ks entries index slots = .ok (.ok filled) → filled.size = slots.size
  | [], _, slots, filled, h => by
    cases h
    rfl
  | (raw, v) :: rest, index, slots, filled, h => by
    rw [scatter] at h
    split at h
    · cases h
    · split at h
      · split at h
        · cases h
        · have hrest := scatter_size rest (index + 1) _ filled h
          simpa using hrest
      · cases h

/-- Collecting filled slots gives one value per slot. -/
theorem collectSlots_length :
    ∀ (slots : List (Option α)) (slot : Nat) (values : List α),
      collectSlots slots slot = .ok values → values.length = slots.length
  | [], _, values, h => by
    cases h
    rfl
  | some v :: rest, slot, values, h => by
    rw [collectSlots] at h
    obtain ⟨tail, htail, rfl⟩ := map_eq_ok_iff.mp h
    simp [collectSlots_length rest (slot + 1) tail htail]
  | none :: _, _, _, h => by
    rw [collectSlots] at h
    cases h

/-- **A map scattered from entries has one value per key of its keyset.** -/
theorem ofEntries_eq_ok {ks : Keyset} {entries : List (UInt64 × α)} {m : Map α}
    (h : ofEntries ks entries = .ok (.ok m)) : m.keyset = ks ∧ OneValuePerKey m := by
  unfold ofEntries at h
  obtain ⟨scattered, hscatter, hbind⟩ := map_eq_ok_iff.mp h
  obtain ⟨filled, rfl, hcollect⟩ := bind_eq_ok_iff.mp hbind
  obtain ⟨values, hvalues, rfl⟩ := map_eq_ok_iff.mp hcollect
  have hsize : filled.size = ks.size := by
    rw [scatter_size entries 0 _ filled hscatter, Array.size_replicate]
  have hlen := collectSlots_length _ 0 values hvalues
  refine ⟨rfl, ?_⟩
  show values.toArray.size = ks.size
  rw [List.size_toArray, hlen, Array.length_toList, hsize]

theorem ofSlots_eq_ok {ks : Keyset} {values : Array α} {m : Map α}
    (h : ofSlots ks values = .ok m) : m.keyset = ks ∧ m.values = values ∧ OneValuePerKey m := by
  unfold ofSlots at h
  split at h
  · rename_i hsize
    cases h
    exact ⟨rfl, rfl, hsize⟩
  · cases h

theorem withDefault_oneValuePerKey (ks : Keyset) (v : α) : OneValuePerKey (withDefault ks v) :=
  Array.size_replicate

theorem validate_oneValuePerKey {ks : Keyset} {values : Array α} {m : Map α}
    (h : Map.validate ks values = .ok m) : OneValuePerKey m := by
  obtain ⟨rfl, hsize⟩ := Validation.map_validate_eq_ok h
  exact hsize

/-- Building a map scatters the entries over the keyset built from their keys. -/
theorem buildMap_oneValuePerKey {b : Builder} {t : KeyType} {entries : List (UInt64 × α)}
    {m : Map α} (h : (b.buildMap t entries).value = .ok (.ok m)) : OneValuePerKey m := by
  unfold Builder.buildMap at h
  dsimp only at h
  split at h
  · cases h
  · exact (ofEntries_eq_ok h).2

/-! ### Reads -/

/-- The reads of a map are read off the slot its keyset answers: with `find raw = .ok r`, `r` is
at most the map's length, the probe is present exactly when `r` is below it, and then `get?`,
`getKeyValue?` and `value` give the value at `r`, while an absent probe gets nothing from them and
`keyNotFound` from `value`. The entries pair the key and the value of every slot, and the map is
its own view. -/
structure ReadsBySlot (m : Map α) : Prop where
  find_le : ∀ raw r, m.find raw = .ok r → r ≤ m.size
  contains_eq : ∀ raw r, m.find raw = .ok r → m.contains raw = .ok (decide (r < m.size))
  get?_eq : ∀ raw r, m.find raw = .ok r →
    m.get? raw = .ok (if h : r < m.size then some m.values[r] else none)
  getKeyValue?_eq : ∀ raw r, m.find raw = .ok r →
    m.getKeyValue? raw = .ok (if h : r < m.size then some (raw, m.values[r]) else none)
  value_eq : ∀ raw r, m.find raw = .ok r →
    m.value raw = if h : r < m.size then .ok m.values[r] else .error .keyNotFound
  length_entries : m.entries.length = m.size
  getElem?_entries : ∀ i (hk : i < m.keyset.keys.size) (hv : i < m.values.size),
    m.entries[i]? = some (m.keyset.keys[i], m.values[i])
  asSpan_eq : m.asSpan = .ok m

section Reads

variable {m : Map α} {raw : UInt64} {r : Nat}

theorem get?_eq (h : m.find raw = .ok r) :
    m.get? raw = .ok (if h : r < m.size then some m.values[r] else none) := by
  rw [get?_eq_of_find h]
  split
  · rename_i hlt
    rw [Array.getElem?_eq_getElem hlt]
  · rename_i hge
    rw [Array.getElem?_eq_none (by unfold Map.size at hge; omega)]

theorem getKeyValue?_eq (h : m.find raw = .ok r) :
    m.getKeyValue? raw = .ok (if h : r < m.size then some (raw, m.values[r]) else none) := by
  rw [Map.getKeyValue?, get?_eq h]
  split <;> rfl

theorem value_eq (h : m.find raw = .ok r) :
    m.value raw = if h : r < m.size then .ok m.values[r] else .error .keyNotFound := by
  rw [Map.value, get?_eq h]
  split <;> rfl

theorem getElem?_entries {i : Nat} (hk : i < m.keyset.keys.size) (hv : i < m.values.size) :
    m.entries[i]? = some (m.keyset.keys[i], m.values[i]) := by
  rw [Map.entries, List.getElem?_zip_eq_some]
  simp [hk, hv]

variable (hm : OneValuePerKey m)
include hm

theorem find_le_size (h : m.find raw = .ok r) : r ≤ m.size := by
  have hle := (sound_iff.mp (keyset_find_sound h)).1
  unfold OneValuePerKey Keyset.size at hm
  unfold Map.size
  omega

/-- A map contains a probe exactly when its answer is a slot, below the key count. -/
theorem contains_eq (h : m.find raw = .ok r) : m.contains raw = .ok (decide (r < m.size)) := by
  have hle := find_le_size hm h
  rw [contains_eq_of_find h, ← hm]
  unfold Map.size at hle ⊢
  by_cases hlt : r < m.values.size
  · have hne : r ≠ m.values.size := by omega
    simp [hlt, hne]
  · have heq : r = m.values.size := by omega
    simp [heq]

/-- **Every map with one value per key reads by slot.** -/
theorem readsBySlot_of_oneValuePerKey : ReadsBySlot m where
  find_le _ _ := find_le_size hm
  contains_eq _ _ := contains_eq hm
  get?_eq _ _ := get?_eq
  getKeyValue?_eq _ _ := getKeyValue?_eq
  value_eq _ _ := value_eq
  length_entries := by
    unfold OneValuePerKey Keyset.size at hm
    simp [Map.entries, Map.size, hm]
  getElem?_entries _ := getElem?_entries
  asSpan_eq := view_eq_ok_iff.mpr ⟨rfl, hm⟩

end Reads

/-- Presence, a value and the slot are three spellings of one fact. -/
theorem ReadsBySlot.get?_isSome_iff {m : Map α} (hr : ReadsBySlot m) {raw : UInt64} {r : Nat}
    (h : m.find raw = .ok r) :
    ((∃ v, m.get? raw = .ok (some v)) ↔ m.contains raw = .ok true) ∧
      (m.contains raw = .ok true ↔ r < m.size) := by
  rw [hr.get?_eq raw r h, hr.contains_eq raw r h]
  by_cases hlt : r < m.size <;> simp [hlt]

/-- **Maps hold one value per key, and read by slot.** Every constructor, over any keyset, gives a
map as many values as its keyset has keys: scattering entries, taking values in slot order, a
default value, building from entries, and loading checked parts. Over a map with one value per
key, for every probe whose lookup answers `r`: the probe has a value exactly when it is present,
exactly when `r` is below the map's length, and `get?`, `getKeyValue?` and `value` read slot `r`,
`value` failing with `keyNotFound` ("key not found") exactly when the probe is absent; the
entries pair every slot's key and value once, and the map's view is the map itself. -/
theorem maps_read_by_slot :
    (∀ (ks : Keyset) (entries : List (UInt64 × α)) (m : Map α),
      ofEntries ks entries = .ok (.ok m) → m.keyset = ks ∧ OneValuePerKey m) ∧
    (∀ (ks : Keyset) (values : Array α) (m : Map α),
      ofSlots ks values = .ok m → m.keyset = ks ∧ m.values = values ∧ OneValuePerKey m) ∧
    (∀ (ks : Keyset) (v : α), OneValuePerKey (withDefault ks v)) ∧
    (∀ (b : Builder) (t : KeyType) (entries : List (UInt64 × α)) (m : Map α),
      (b.buildMap t entries).value = .ok (.ok m) → OneValuePerKey m) ∧
    (∀ (ks : Keyset) (values : Array α) (m : Map α),
      Map.validate ks values = .ok m → OneValuePerKey m) ∧
    (∀ m : Map α, OneValuePerKey m → ReadsBySlot m ∧ ∀ raw r, m.find raw = .ok r →
      ((∃ v, m.get? raw = .ok (some v)) ↔ m.contains raw = .ok true) ∧
      (m.contains raw = .ok true ↔ r < m.size) ∧
      (m.value raw = .error .keyNotFound ↔ m.contains raw = .ok false)) ∧
    Fault.keyNotFound.message = "key not found" := by
  refine ⟨fun _ _ _ => ofEntries_eq_ok, fun _ _ _ => ofSlots_eq_ok, withDefault_oneValuePerKey,
    fun _ _ _ _ => buildMap_oneValuePerKey, fun _ _ _ => validate_oneValuePerKey,
    fun m hm => ?_, rfl⟩
  have hr := readsBySlot_of_oneValuePerKey hm
  refine ⟨hr, fun raw r h => ⟨(hr.get?_isSome_iff h).1, (hr.get?_isSome_iff h).2, ?_⟩⟩
  rw [hr.value_eq raw r h, hr.contains_eq raw r h]
  by_cases hlt : r < m.size <;> simp [hlt]

end GatherMap.Proofs.MapRead
