import GatherMap.Proofs.MapBuild

/-!
# Which error a map built from entries reports

`Map.ofEntries` scatters the entries, in input order, into the slots of a keyset, then collects
the slots in slot order. The first entry that cannot be placed ends the scatter: its key has no
slot (`unknownKey`), or an earlier entry took its slot (`duplicateValue`). After a scatter without
such an entry, the first slot that received nothing gives `missingValue`. This holds over every
keyset, also one assembled from parts never checked, as long as finding the entries' keys does
not fault:

* `Scattered`: what the slots hold after the first `k` entries;
* `scatter_drop_step`, `scatter_drop_clash`: the next entry is placed, or ends the scatter with
  its error;
* `collectSlots_eq_missingValue`: collecting reports the first empty slot;
* `ofEntries_reports_first_clash`: the error of the first clashing entry, else that of the first
  slot no entry reaches, else a map with every entry's value at its key's slot, the entries
  then in bijection with the slots.
-/

namespace GatherMap.Proofs.EntryErrors

open GatherMap Map Proofs

variable {α : Type}

/-! ### Clashing entries and missing slots -/

/-- Entry `i` cannot be placed after the entries before it: its key's slot is not below the key
count `n`, or an earlier entry's key has the same slot. -/
def Clashes (n : Nat) (slot : Nat → Nat) (i : Nat) : Prop :=
  n ≤ slot i ∨ ∃ j < i, slot j = slot i

/-- An entry that does not clash has a slot of the keyset. -/
theorem slot_lt_of_not_clashes {n : Nat} {slot : Nat → Nat} {i : Nat} (h : ¬Clashes n slot i) :
    slot i < n := by
  unfold Clashes at h
  omega

/-- An entry that does not clash has a slot that no earlier entry has. -/
theorem slot_ne_of_not_clashes {n : Nat} {slot : Nat → Nat} {i : Nat} (h : ¬Clashes n slot i) :
    ∀ j < i, slot j ≠ slot i :=
  fun j hj heq => h (Or.inr ⟨j, hj, heq⟩)

/-- Entry `i` is the first of `m` entries that clashes. -/
def FirstClash (n : Nat) (slot : Nat → Nat) (m i : Nat) : Prop :=
  i < m ∧ Clashes n slot i ∧ ∀ j < i, ¬Clashes n slot j

/-- Slot `s` is the first of `n` slots that none of `m` entries reaches. -/
def FirstMissing (n : Nat) (slot : Nat → Nat) (m s : Nat) : Prop :=
  s < n ∧ (∀ i < m, slot i ≠ s) ∧ ∀ s' < s, ∃ i < m, slot i = s'

/-- The slots after the first `k` entries: `n` of them, slot `s` holding the value of the first of
these entries whose key has slot `s`, if any. -/
def Scattered (n : Nat) (slot : Nat → Nat) (entries : List (UInt64 × α)) (k : Nat)
    (slots : Array (Option α)) : Prop :=
  slots.size = n ∧
    ∀ s < n, slots[s]? = some (((entries.take k).zipIdx.find? (slot ·.2 == s)).map (·.1.2))

/-! ### One entry -/

section Step

variable {ks : Keyset} {e : UInt64 × α} {rest : List (UInt64 × α)} {index s : Nat}
  {slots : Array (Option α)}

theorem scatter_cons_unknown (hs : ks.find e.1 = .ok s) (hn : ks.size ≤ s) :
    scatter ks (e :: rest) index slots = .ok (.error (.unknownKey index)) := by
  obtain ⟨raw, v⟩ := e
  simp only [scatter, hs, if_neg (Nat.not_lt.mpr hn)]

theorem scatter_cons_taken {u : α} (hs : ks.find e.1 = .ok s) (hn : s < ks.size)
    (htaken : slots[s]? = some (some u)) :
    scatter ks (e :: rest) index slots = .ok (.error (.duplicateValue index)) := by
  obtain ⟨raw, v⟩ := e
  simp only [scatter, hs, if_pos hn, htaken]

theorem scatter_cons_free (hs : ks.find e.1 = .ok s) (hn : s < ks.size)
    (hfree : slots[s]? = some none) :
    scatter ks (e :: rest) index slots = scatter ks rest (index + 1) (slots.set! s (some e.2)) := by
  obtain ⟨raw, v⟩ := e
  simp only [scatter, hs, if_pos hn, hfree]

end Step

/-! ### What the slots hold -/

section Slots

variable {n : Nat} {slot : Nat → Nat} {entries : List (UInt64 × α)} {k : Nat}
  {slots : Array (Option α)}

theorem lt_of_mem_zipIdx_take {x : (UInt64 × α) × Nat} (hx : x ∈ (entries.take k).zipIdx) :
    x.2 < k ∧ ∃ h : x.2 < entries.length, entries[x.2] = x.1 := by
  rw [List.mem_zipIdx_iff_getElem?, List.getElem?_take] at hx
  split at hx
  · rename_i hlt
    obtain ⟨h, hget⟩ := List.getElem?_eq_some_iff.mp hx
    exact ⟨hlt, h, hget⟩
  · cases hx

theorem zipIdx_take_succ (hk : k < entries.length) :
    (entries.take (k + 1)).zipIdx = (entries.take k).zipIdx ++ [(entries[k], k)] := by
  rw [List.take_add_one, List.getElem?_eq_getElem hk, Option.toList_some, List.zipIdx_append,
    List.length_take_of_le (Nat.le_of_lt hk), Nat.zero_add]
  rfl

/-- No entry among the first `k` reaches slot `s` when none of their keys has that slot. -/
theorem find?_zipIdx_take_eq_none (hnone : ∀ j < k, slot j ≠ s) :
    (entries.take k).zipIdx.find? (slot ·.2 == s) = none := by
  rw [List.find?_eq_none]
  intro x hx
  simpa using hnone x.2 (lt_of_mem_zipIdx_take hx).1

/-- A slot that none of the first `k` entries reaches is empty. -/
theorem Scattered.empty (hsc : Scattered n slot entries k slots) {s : Nat} (hs : s < n)
    (hnone : ∀ j < k, slot j ≠ s) : slots[s]? = some none := by
  rw [hsc.2 s hs, find?_zipIdx_take_eq_none hnone]
  rfl

/-- Nothing is placed before the first entry. -/
theorem scattered_zero : Scattered n slot entries 0 (Array.replicate n none) :=
  ⟨Array.size_replicate, fun s hs => by simp [hs]⟩

/-- **Placing an entry** that does not clash: its slot is still empty, and afterwards holds its
value. -/
theorem Scattered.place (hsc : Scattered n slot entries k slots) (hk : k < entries.length)
    (hfree : ¬Clashes n slot k) :
    slots[slot k]? = some none ∧
      Scattered n slot entries (k + 1) (slots.set! (slot k) (some entries[k].2)) := by
  obtain ⟨hsize, hslots⟩ := hsc
  have hlt : slot k < n := slot_lt_of_not_clashes hfree
  have hnew : ∀ j < k, slot j ≠ slot k := slot_ne_of_not_clashes hfree
  have hempty : slots[slot k]? = some none := Scattered.empty ⟨hsize, hslots⟩ hlt hnew
  refine ⟨hempty, by simp [hsize], fun s hs => ?_⟩
  rw [Array.set!_eq_setIfInBounds, Array.getElem?_setIfInBounds, zipIdx_take_succ hk,
    List.find?_append]
  by_cases hks : slot k = s
  · subst hks
    simp [hsize, hlt, find?_zipIdx_take_eq_none hnew]
  · simp [hks, hslots s hs]

/-- A slot that an earlier entry reached is taken. -/
theorem Scattered.taken (hsc : Scattered n slot entries k slots) (hk : k ≤ entries.length)
    {s : Nat} (hs : s < n) (hreached : ∃ j < k, slot j = s) : ∃ u, slots[s]? = some (some u) := by
  obtain ⟨j, hj, hslot⟩ := hreached
  have hmem : (entries[j], j) ∈ (entries.take k).zipIdx := by
    rw [List.mem_zipIdx_iff_getElem?, List.getElem?_take, if_pos hj,
      List.getElem?_eq_getElem (by omega)]
  cases hfind : (entries.take k).zipIdx.find? (slot ·.2 == s) with
  | none =>
    have := List.find?_eq_none.mp hfind _ hmem
    simp [hslot] at this
  | some x => exact ⟨x.1.2, by rw [hsc.2 s hs, hfind]; rfl⟩

end Slots

/-! ### Scattering -/

section Scatter

variable {ks : Keyset} {entries : List (UInt64 × α)} {slot : Nat → Nat}
  (hfind : ∀ i (hi : i < entries.length), ks.find entries[i].1 = .ok (slot i))
include hfind

/-- An entry that does not clash is placed, and the scatter goes on with the next one. -/
theorem scatter_drop_step {k : Nat} {slots : Array (Option α)}
    (hsc : Scattered ks.size slot entries k slots) (hk : k < entries.length)
    (hfree : ¬Clashes ks.size slot k) :
    scatter ks (entries.drop k) k slots =
        scatter ks (entries.drop (k + 1)) (k + 1) (slots.set! (slot k) (some entries[k].2)) ∧
      Scattered ks.size slot entries (k + 1) (slots.set! (slot k) (some entries[k].2)) := by
  obtain ⟨hempty, hnext⟩ := hsc.place hk hfree
  rw [List.drop_eq_getElem_cons hk]
  exact ⟨scatter_cons_free (hfind k hk) (slot_lt_of_not_clashes hfree) hempty, hnext⟩

/-- **A clashing entry ends the scatter** with `unknownKey` if its key has no slot, else with
`duplicateValue`. -/
theorem scatter_drop_clash {k : Nat} {slots : Array (Option α)}
    (hsc : Scattered ks.size slot entries k slots) (hk : k < entries.length)
    (hclash : Clashes ks.size slot k) :
    scatter ks (entries.drop k) k slots =
      .ok (.error (if ks.size ≤ slot k then .unknownKey k else .duplicateValue k)) := by
  rw [List.drop_eq_getElem_cons hk]
  by_cases hn : ks.size ≤ slot k
  · rw [if_pos hn]
    exact scatter_cons_unknown (hfind k hk) hn
  · rw [if_neg hn]
    obtain ⟨u, hu⟩ := hsc.taken (Nat.le_of_lt hk) (by omega) (hclash.resolve_left hn)
    exact scatter_cons_taken (hfind k hk) (by omega) hu

/-- Without a clash from entry `k` on, the scatter places all the remaining entries. -/
theorem scatter_drop_of_clashFree :
    ∀ j k (slots : Array (Option α)), k + j = entries.length →
      Scattered ks.size slot entries k slots →
      (∀ i, k ≤ i → i < entries.length → ¬Clashes ks.size slot i) →
      ∃ filled, scatter ks (entries.drop k) k slots = .ok (.ok filled) ∧
        Scattered ks.size slot entries entries.length filled
  | 0, k, slots, hj, hsc, _ => by
    refine ⟨slots, ?_, by rw [← hj, Nat.add_zero]; exact hsc⟩
    rw [List.drop_of_length_le (by omega)]
    rfl
  | j + 1, k, slots, hj, hsc, hfree => by
    obtain ⟨hstep, hnext⟩ := scatter_drop_step hfind hsc (by omega) (hfree k le_rfl (by omega))
    rw [hstep]
    exact scatter_drop_of_clashFree j (k + 1) _ (by omega) hnext
      fun i (hi : k + 1 ≤ i) hm => hfree i (by omega) hm

/-- Up to the first clashing entry the scatter places every entry, and that entry ends it. -/
theorem scatter_drop_of_firstClash {i : Nat} (hi : FirstClash ks.size slot entries.length i) :
    ∀ j k (slots : Array (Option α)), k + j = i → Scattered ks.size slot entries k slots →
      scatter ks (entries.drop k) k slots =
        .ok (.error (if ks.size ≤ slot i then .unknownKey i else .duplicateValue i))
  | 0, k, slots, hj, hsc => by
    rw [Nat.add_zero] at hj
    subst hj
    exact scatter_drop_clash hfind hsc hi.1 hi.2.1
  | j + 1, k, slots, hj, hsc => by
    have hlt : i < entries.length := hi.1
    obtain ⟨hstep, hnext⟩ := scatter_drop_step hfind hsc (by omega) (hi.2.2 k (by omega))
    rw [hstep]
    exact scatter_drop_of_firstClash hi j (k + 1) _ (by omega) hnext

end Scatter

/-! ### Collecting -/

theorem getElem_toList_of_getElem? {xs : Array α} {s : Nat} {x : α} (h : xs[s]? = some x)
    {hs : s < xs.toList.length} : xs.toList[s] = x := by
  rw [Array.getElem_toList]
  exact (Array.getElem?_eq_some_iff.mp h).2

/-- **Collecting reports the first empty slot.** -/
theorem collectSlots_eq_missingValue :
    ∀ (l : List (Option α)) (start p : Nat) (hp : p < l.length), l[p] = none →
      (∀ j (hj : j < p), l[j] ≠ none) → collectSlots l start = .error (.missingValue (start + p))
  | [], _, _, hp, _, _ => absurd hp (Nat.not_lt_zero _)
  | x :: rest, start, 0, _, hnone, _ => by
    simp only [List.getElem_cons_zero] at hnone
    subst hnone
    rfl
  | x :: rest, start, p + 1, hp, hnone, hbefore => by
    obtain ⟨v, rfl⟩ := Option.ne_none_iff_exists'.mp (hbefore 0 (Nat.zero_lt_succ p))
    have hrest := collectSlots_eq_missingValue rest (start + 1) p (by simpa using hp)
      (by simpa using hnone) fun j hj => by simpa using hbefore (j + 1) (by omega)
    rw [collectSlots, hrest, Nat.add_right_comm, Nat.add_assoc]
    rfl

/-! ### The errors of a map built from entries -/

/-- The scatter fails only with `unknownKey` or `duplicateValue`. -/
theorem scatter_error_cases (ks : Keyset) :
    ∀ (entries : List (UInt64 × α)) (index : Nat) (slots : Array (Option α)) {e : BuildError},
      scatter ks entries index slots = .ok (.error e) →
        (∃ i, e = .unknownKey i) ∨ ∃ i, e = .duplicateValue i
  | [], _, _, _, h => by simp [scatter] at h
  | (raw, v) :: rest, index, slots, e, h => by
    unfold scatter at h
    split at h
    · cases h
    · split at h
      · split at h
        · cases h
          exact Or.inr ⟨index, rfl⟩
        · exact scatter_error_cases ks rest _ _ h
      · cases h
        exact Or.inl ⟨index, rfl⟩

/-- Collecting fails only with `missingValue`. -/
theorem collectSlots_error_cases :
    ∀ (l : List (Option α)) (start : Nat) {e : BuildError}, collectSlots l start = .error e →
      ∃ s, e = .missingValue s
  | [], _, _, h => by cases h
  | none :: _, start, _, h => ⟨start, (Except.error.inj h).symm⟩
  | some v :: rest, start, e, h => by
    rw [collectSlots] at h
    cases hrest : collectSlots rest (start + 1) with
    | error e' =>
      rw [hrest] at h
      cases h
      exact collectSlots_error_cases rest (start + 1) hrest
    | ok values =>
      rw [hrest] at h
      cases h

/-- **A map built from entries fails only with an error of its entries**: `unknownKey`,
`duplicateValue` or `missingValue`, whatever the keyset. -/
theorem ofEntries_error_cases {ks : Keyset} {entries : List (UInt64 × α)} {e : BuildError}
    (h : ofEntries ks entries = .ok (.error e)) :
    (∃ i, e = .unknownKey i) ∨ (∃ i, e = .duplicateValue i) ∨ ∃ s, e = .missingValue s := by
  unfold ofEntries at h
  obtain ⟨scattered, hscatter, hbind⟩ := MapBuild.map_eq_ok_iff.mp h
  cases scattered with
  | error e' =>
    cases hbind
    rcases scatter_error_cases ks entries 0 _ hscatter with hunknown | hduplicate
    · exact Or.inl hunknown
    · exact Or.inr (Or.inl hduplicate)
  | ok slots =>
    have hcollect : collectSlots slots.toList 0 = .error e := by
      cases hc : collectSlots slots.toList 0 with
      | error e' =>
        simp only [Except.bind, hc, Except.map] at hbind
        cases hbind
        rfl
      | ok values => simp [Except.bind, hc, Except.map] at hbind
    exact Or.inr (Or.inr (collectSlots_error_cases _ _ hcollect))

/-! ### The map -/

section Map

variable {ks : Keyset} {entries : List (UInt64 × α)} {slot : Nat → Nat}

/-- The first entry whose key has slot `s` is entry `i` when the entries before it have other
slots. -/
theorem find?_zipIdx_slot {i : Nat} (hi : i < entries.length) (hfirst : ∀ j < i, slot j ≠ slot i) :
    entries.zipIdx.find? (slot ·.2 == slot i) = some (entries[i], i) := by
  rw [List.find?_eq_some_iff_getElem]
  refine ⟨by simp, i, by simpa using hi, by simp [List.getElem_zipIdx], fun j hj => ?_⟩
  simpa [List.getElem_zipIdx] using hfirst j hj

/-- A scatter that placed every entry: a slot holds a value exactly when some entry reaches it,
and the slot of entry `i` holds its value. -/
theorem Scattered.getElem?_slot (hsc : Scattered ks.size slot entries entries.length slots)
    (hfree : ∀ i < entries.length, ¬Clashes ks.size slot i) {i : Nat} (hi : i < entries.length) :
    slots[slot i]? = some (some entries[i].2) := by
  rw [hsc.2 _ (slot_lt_of_not_clashes (hfree i hi)), List.take_length,
    find?_zipIdx_slot hi (slot_ne_of_not_clashes (hfree i hi))]
  rfl

/-- **The first clashing entry names the error.** -/
theorem ofEntries_of_firstClash
    (hfind : ∀ i (hi : i < entries.length), ks.find entries[i].1 = .ok (slot i)) {i : Nat}
    (hi : FirstClash ks.size slot entries.length i) :
    ofEntries ks entries =
      .ok (.error (if ks.size ≤ slot i then .unknownKey i else .duplicateValue i)) := by
  have hscatter := scatter_drop_of_firstClash hfind hi i 0 _ (Nat.zero_add i) scattered_zero
  rw [List.drop_zero] at hscatter
  simp [ofEntries, hscatter, Except.map, Except.bind]

/-- Without a clash, the scatter places every entry. -/
theorem scatter_of_clashFree
    (hfind : ∀ i (hi : i < entries.length), ks.find entries[i].1 = .ok (slot i))
    (hfree : ∀ i < entries.length, ¬Clashes ks.size slot i) :
    ∃ filled, scatter ks entries 0 (Array.replicate ks.size none) = .ok (.ok filled) ∧
      Scattered ks.size slot entries entries.length filled := by
  have hrun := scatter_drop_of_clashFree hfind entries.length 0 _ (Nat.zero_add _) scattered_zero
    fun i _ hi => hfree i hi
  rwa [List.drop_zero] at hrun

/-- **Without a clash, the first slot no entry reaches names the error.** -/
theorem ofEntries_of_firstMissing
    (hfind : ∀ i (hi : i < entries.length), ks.find entries[i].1 = .ok (slot i))
    (hfree : ∀ i < entries.length, ¬Clashes ks.size slot i) {s : Nat}
    (hs : FirstMissing ks.size slot entries.length s) :
    ofEntries ks entries = .ok (.error (.missingValue s)) := by
  obtain ⟨filled, hscatter, hsc⟩ := scatter_of_clashFree hfind hfree
  obtain ⟨hlt, hmissed, hbefore⟩ := hs
  have hs : s < filled.toList.length := by rw [Array.length_toList, hsc.1]; exact hlt
  have hempty : filled.toList[s] = none := getElem_toList_of_getElem? (hsc.empty hlt hmissed)
  have hfilled : ∀ j (hj : j < s), filled.toList[j] ≠ none := by
    intro j hj
    obtain ⟨u, hu⟩ := hsc.taken le_rfl (by omega) (hbefore j hj)
    rw [getElem_toList_of_getElem? hu]
    exact Option.some_ne_none u
  have hcollect := collectSlots_eq_missingValue filled.toList 0 s hs hempty hfilled
  rw [Nat.zero_add] at hcollect
  simp [ofEntries, hscatter, hcollect, Except.map, Except.bind]

/-- **Without a clash and with every slot reached, every value lands at its key's slot.** -/
theorem ofEntries_of_everySlot
    (hfind : ∀ i (hi : i < entries.length), ks.find entries[i].1 = .ok (slot i))
    (hfree : ∀ i < entries.length, ¬Clashes ks.size slot i)
    (hall : ∀ s < ks.size, ∃ i < entries.length, slot i = s) :
    ∃ m, ofEntries ks entries = .ok (.ok m) ∧ m.keyset = ks ∧ m.values.size = ks.size ∧
      ∀ i (hi : i < entries.length), m.values[slot i]? = some entries[i].2 := by
  obtain ⟨filled, hscatter, hsc⟩ := scatter_of_clashFree hfind hfree
  have hfull : ∀ x ∈ filled.toList, x ≠ none := by
    intro x hx
    obtain ⟨s, hs, rfl⟩ := List.getElem_of_mem hx
    have hs' : s < ks.size := by simpa [hsc.1] using hs
    obtain ⟨u, hu⟩ := hsc.taken le_rfl hs' (hall s hs')
    rw [getElem_toList_of_getElem? hu]
    exact Option.some_ne_none u
  obtain ⟨values, hcollect, hvalues⟩ := MapBuild.collectSlots_of_ne_none filled.toList 0 hfull
  refine ⟨{ keyset := ks, values := values.toArray }, ?_, rfl, ?_, fun i hi => ?_⟩
  · simp [ofEntries, hscatter, hcollect, Except.map, Except.bind]
  · have hlen := congrArg List.length hvalues
    simp only [Array.length_toList, List.length_map, hsc.1] at hlen
    simp [hlen]
  · have hslot := hsc.getElem?_slot hfree hi
    rw [← Array.getElem?_toList, hvalues, List.getElem?_map] at hslot
    simpa using hslot

/-- Without a clash and with every slot reached, the entries take the slots one to one. Of two
entries with one slot, the later one would clash. -/
theorem bijOn_slot (hfree : ∀ i < entries.length, ¬Clashes ks.size slot i)
    (hall : ∀ s < ks.size, ∃ i < entries.length, slot i = s) :
    Set.BijOn slot (Set.Iio entries.length) (Set.Iio ks.size) := by
  refine ⟨fun i hi => slot_lt_of_not_clashes (hfree i hi), fun i hi j hj heq => ?_, fun s hs => ?_⟩
  · simp only [Set.mem_Iio] at hi hj
    rcases Nat.lt_trichotomy i j with hij | rfl | hji
    · exact absurd heq (slot_ne_of_not_clashes (hfree j hj) i hij)
    · rfl
    · exact absurd heq.symm (slot_ne_of_not_clashes (hfree i hi) j hji)
  · obtain ⟨i, hi, rfl⟩ := hall s hs
    exact ⟨i, hi, rfl⟩

/-- Entries in bijection with the slots are as many as the keys. -/
theorem length_eq_of_bijOn (h : Set.BijOn slot (Set.Iio entries.length) (Set.Iio ks.size)) :
    entries.length = ks.size := by
  have hcard : (Finset.range entries.length).card = (Finset.range ks.size).card :=
    Finset.card_nbij slot (by simpa using h.mapsTo) (by simpa using h.injOn) (by simpa using h.surjOn)
  simpa using hcard

/-- **The error of the first clash, else of the first missing slot, else every value at its
key's slot.** Over any keyset whose `find` answers the key of entry `i` with `slot i`, without a
fault:

* if entry `i` is the first that clashes (its key's slot is not below the key count, or an
  earlier entry's key has the same slot), the map fails with `unknownKey i` for a key without a
  slot and `duplicateValue i` otherwise;
* if no entry clashes and `s` is the first slot that no entry's key reaches, it fails with
  `missingValue s`;
* if no entry clashes and every slot is reached, the entries' keys take the slots one to one,
  there are as many entries as keys, and the map over the keyset holds the value of every entry
  at its key's slot. -/
theorem ofEntries_reports_first_clash (ks : Keyset) (entries : List (UInt64 × α))
    (slot : Nat → Nat) (hfind : ∀ i (hi : i < entries.length), ks.find entries[i].1 = .ok (slot i)) :
    (∀ i, FirstClash ks.size slot entries.length i → ofEntries ks entries =
      .ok (.error (if ks.size ≤ slot i then .unknownKey i else .duplicateValue i))) ∧
    ((∀ i < entries.length, ¬Clashes ks.size slot i) → ∀ s,
      FirstMissing ks.size slot entries.length s →
        ofEntries ks entries = .ok (.error (.missingValue s))) ∧
    ((∀ i < entries.length, ¬Clashes ks.size slot i) →
      (∀ s < ks.size, ∃ i < entries.length, slot i = s) →
      Set.BijOn slot (Set.Iio entries.length) (Set.Iio ks.size) ∧ entries.length = ks.size ∧
      ∃ m, ofEntries ks entries = .ok (.ok m) ∧ m.keyset = ks ∧ m.values.size = ks.size ∧
        ∀ i (hi : i < entries.length), m.values[slot i]? = some entries[i].2) := by
  refine ⟨fun i hi => ofEntries_of_firstClash hfind hi,
    fun hfree s hs => ofEntries_of_firstMissing hfind hfree hs, fun hfree hall => ?_⟩
  have hbij := bijOn_slot hfree hall
  exact ⟨hbij, length_eq_of_bijOn hbij, ofEntries_of_everySlot hfind hfree hall⟩

/-- The keys `1, 2, 3` of type `u16` in their natural order, and the entries `(1, 'a')` and
`(4, 'b')`: the key `4` has no slot, so entry `1` is the first that clashes. -/
theorem ofEntries_reports_first_clash_u16 :
    let ks : Keyset := .ordered ⟨.u16, .natural, #[1, 2, 3]⟩
    let entries : List (UInt64 × Char) := [(1, 'a'), (4, 'b')]
    let slot : Nat → Nat := fun i => if i = 0 then 0 else 3
    (∀ i (hi : i < entries.length), ks.find entries[i].1 = .ok (slot i)) ∧
    (∀ i, FirstClash ks.size slot entries.length i → ofEntries ks entries =
      .ok (.error (if ks.size ≤ slot i then .unknownKey i else .duplicateValue i))) ∧
    ((∀ i < entries.length, ¬Clashes ks.size slot i) → ∀ s,
      FirstMissing ks.size slot entries.length s →
        ofEntries ks entries = .ok (.error (.missingValue s))) ∧
    ((∀ i < entries.length, ¬Clashes ks.size slot i) →
      (∀ s < ks.size, ∃ i < entries.length, slot i = s) →
      Set.BijOn slot (Set.Iio entries.length) (Set.Iio ks.size) ∧ entries.length = ks.size ∧
      ∃ m, ofEntries ks entries = .ok (.ok m) ∧ m.keyset = ks ∧ m.values.size = ks.size ∧
        ∀ i (hi : i < entries.length), m.values[slot i]? = some entries[i].2) := by
  intro ks entries slot
  have hfind : ∀ i (hi : i < entries.length), ks.find entries[i].1 = .ok (slot i) := by
    intro i hi
    match i, hi with
    | 0, _ | 1, _ =>
      simp [ks, entries, slot, Keyset.find, OrderedKeyset.find, OrderedKeyset.search,
        OrderedKeyset.lowerBound, KeyOrder.less, KeyOrder.naturalLess, KeyType.isSigned]
  exact ⟨hfind, ofEntries_reports_first_clash ks entries slot hfind⟩

end Map

end GatherMap.Proofs.EntryErrors
