import GatherMap.Map
import GatherMap.Proofs.PerfectBuild
import GatherMap.Proofs.Ordered

/-!
# Built maps answer every probe

A map is built from entries in two steps: a keyset over the entries' keys, ordered for few keys
and perfect-hash for many, then the entries' values scattered to their keys' slots. Once the
keyset holds the keys and answers every probe with its slot, scattering cannot go wrong: every
entry's key has a slot, no slot is reached twice, and no slot stays empty.

* `scatter_eq_ok`: scattering entries with distinct keys fills each key's slot with its value;
* `mapOf_of_getElem?`: values laid out by their keys make the map give every key its entry's
  value (`MapOf`);
* `ofEntries_eq_ok`: the map scattered over such a keyset is laid out so;
* `buildKeyset_eq_ok`, `buildKeyset_eq_error_of_le`, `buildKeyset_eq_error_of_lt`: what
  building the keyset returns;
* `buildMap_error_cases`, `buildMap_error_iff_of_le`, `buildMap_zeroDepth_iff`,
  `buildMap_duplicateKey_iff`: when and how building a map fails;
* `built_maps_answer`: building a map fails only on equal keys, a zero depth or a table that
  does not fit, never faults, and a built map gives every entry's key its value and every other
  probe nothing.
-/

namespace GatherMap.Proofs.MapBuild

open GatherMap Map OrderedKeyset Proofs.Gather Proofs.Duplicates Proofs.PerfectLookup
  Proofs.PerfectBuild Proofs.Ordered

variable {α : Type}

/-- Every probe of the keyset gets its slot, or the key count, without a fault. -/
def KeysetAnswers (ks : Keyset) : Prop :=
  ∀ raw, ks.find raw = .ok (ks.keys.toList.idxOf raw)

/-- What a map built from `entries` promises: one value per entry, the entries in slot order are
the entries given, and every probe gets, without a fault, its entry's value or nothing. -/
structure MapOf (m : Map α) (entries : List (UInt64 × α)) : Prop where
  size_eq : m.size = entries.length
  perm : m.entries.Perm entries
  find_eq : ∀ raw, m.find raw = .ok (m.keyset.keys.toList.idxOf raw)
  find_eq_size_iff : ∀ raw, m.find raw = .ok m.size ↔ raw ∉ entries.map (·.1)
  get?_getElem : ∀ i (hi : i < entries.length), m.get? entries[i].1 = .ok (some entries[i].2)
  get?_of_not_mem : ∀ raw, raw ∉ entries.map (·.1) → m.get? raw = .ok none

/-! ### Results of a step -/

theorem map_eq_ok_iff {ε β γ : Type} {f : β → γ} {x : Except ε β} {c : γ} :
    x.map f = .ok c ↔ ∃ b, x = .ok b ∧ f b = c := by
  cases x <;> simp [Except.map]

theorem map_eq_error_iff {ε β γ : Type} {f : β → γ} {x : Except ε β} {e : ε} :
    x.map f = .error e ↔ x = .error e := by
  cases x <;> simp [Except.map]

/-! ### Entries with distinct keys -/

theorem lookup_of_mem {entries : List (UInt64 × α)} (hnodup : (entries.map (·.1)).Nodup)
    {k : UInt64} {v : α} (h : (k, v) ∈ entries) : entries.lookup k = some v := by
  induction entries with
  | nil => cases h
  | cons e rest ih =>
    obtain ⟨k', v'⟩ := e
    simp only [List.map_cons, List.nodup_cons] at hnodup
    rcases List.mem_cons.mp h with heq | hmem
    · cases heq
      simp
    · have hne : (k == k') = false := by
        simpa using fun heq : k = k' => hnodup.1 (heq ▸ List.mem_map_of_mem hmem)
      simp [List.lookup_cons, hne, ih hnodup.2 hmem]

theorem lookup_eq_none_of_not_mem {entries : List (UInt64 × α)} {k : UInt64}
    (h : k ∉ entries.map (·.1)) : entries.lookup k = none := by
  rw [List.lookup_eq_none_iff]
  intro p hp
  have hne : k ≠ p.1 := fun heq => h (heq ▸ List.mem_map_of_mem hp)
  simpa using hne

/-- **Scattering entries with distinct keys fills each key's slot with its value.** Every slot
holds the value of its key among the entries scattered so far, so the next entry's slot is
still empty. -/
theorem scatter_eq_ok {ks : Keyset} (hks : KeysetAnswers ks) (hkeys : ks.keys.toList.Nodup) :
    ∀ (rest done : List (UInt64 × α)) (index : Nat) (slots : Array (Option α)),
      ((done ++ rest).map (·.1)).Nodup → (∀ e ∈ rest, e.1 ∈ ks.keys.toList) →
      slots.size = ks.size →
      (∀ s (hs : s < ks.keys.size), slots[s]? = some (done.lookup ks.keys[s])) →
      ∃ filled, scatter ks rest index slots = .ok (.ok filled) ∧ filled.size = ks.size ∧
        ∀ s (hs : s < ks.keys.size), filled[s]? = some ((done ++ rest).lookup ks.keys[s])
  | [], done, _, slots, _, _, hsize, hslots => ⟨slots, rfl, hsize, by simpa using hslots⟩
  | (raw, v) :: rest, done, index, slots, hnodup, hmem, hsize, hslots => by
    have hraw : raw ∈ ks.keys.toList := hmem (raw, v) List.mem_cons_self
    have hslot : ks.keys.toList.idxOf raw < ks.keys.size := by
      simpa using List.idxOf_lt_length_of_mem hraw
    have hkey : ks.keys[ks.keys.toList.idxOf raw] = raw := by
      have hget : ks.keys.toList[ks.keys.toList.idxOf raw] = raw := List.getElem_idxOf _
      simpa only [Array.getElem_toList] using hget
    have hnew : done.lookup raw = none := by
      apply lookup_eq_none_of_not_mem
      have hdisj := (List.nodup_append.mp (by simpa using hnodup)).2.2
      exact fun hin => hdisj raw hin raw List.mem_cons_self rfl
    have hempty : slots[ks.keys.toList.idxOf raw]? = some none := by
      rw [hslots _ hslot, hkey, hnew]
    have hstep : scatter ks ((raw, v) :: rest) index slots =
        scatter ks rest (index + 1) (slots.set! (ks.keys.toList.idxOf raw) (some v)) := by
      rw [scatter, hks raw]
      simp only [Keyset.size, hslot, if_true, hempty]
    have hnext : ∀ s (hs : s < ks.keys.size),
        (slots.set! (ks.keys.toList.idxOf raw) (some v))[s]? =
          some ((done ++ [(raw, v)]).lookup ks.keys[s]) := by
      intro s hs
      rw [Array.set!_eq_setIfInBounds, Array.getElem?_setIfInBounds, List.lookup_append]
      by_cases hs' : ks.keys.toList.idxOf raw = s
      · subst hs'
        simp [hkey, hnew, hsize, Keyset.size, hs]
      · have hne : ks.keys[s] ≠ raw := fun heq => by
          have hidx := List.Nodup.idxOf_getElem hkeys s (by simpa using hs)
          simp only [Array.getElem_toList] at hidx
          exact hs' (heq ▸ hidx)
        have hbeq : (ks.keys[s] == raw) = false := beq_false_of_ne hne
        simp [hs', hslots s hs, List.lookup_cons, hbeq]
    obtain ⟨filled, hscatter, hfsize, hfilled⟩ := scatter_eq_ok hks hkeys rest
      (done ++ [(raw, v)]) (index + 1) (slots.set! (ks.keys.toList.idxOf raw) (some v))
      (by simpa using hnodup) (fun e he => hmem e (List.mem_cons_of_mem _ he))
      (by simpa using hsize) hnext
    refine ⟨filled, hstep ▸ hscatter, hfsize, fun s hs => ?_⟩
    simpa using hfilled s hs

/-- Collecting slots that are all filled gives their values. -/
theorem collectSlots_of_ne_none :
    ∀ (slots : List (Option α)) (slot : Nat), (∀ x ∈ slots, x ≠ none) →
      ∃ values, collectSlots slots slot = .ok values ∧ slots = values.map some
  | [], _, _ => ⟨[], rfl, rfl⟩
  | none :: _, _, hfilled => absurd rfl (hfilled none List.mem_cons_self)
  | some v :: rest, slot, hfilled => by
    obtain ⟨values, hcollect, rfl⟩ := collectSlots_of_ne_none rest (slot + 1)
      fun x hx => hfilled x (List.mem_cons_of_mem _ hx)
    refine ⟨v :: values, ?_, rfl⟩
    rw [collectSlots, hcollect]
    rfl

theorem mem_of_lookup_eq_some {entries : List (UInt64 × α)} {k : UInt64} {v : α}
    (h : entries.lookup k = some v) : (k, v) ∈ entries := by
  obtain ⟨l₁, l₂, rfl, -⟩ := List.lookup_eq_some_iff.mp h
  simp

/-- Over a keyset that answers every probe, a probe reads the value at its slot, which is past
the values when the probe is absent. -/
theorem get?_eq_of_keysetAnswers {ks : Keyset} {values : Array α} (hks : KeysetAnswers ks)
    (raw : UInt64) :
    ({ keyset := ks, values } : Map α).get? raw = .ok values[ks.keys.toList.idxOf raw]? := by
  simp only [Map.get?, Map.find, hks raw, Except.map]

/-- Values laid out by the keys: when slot `s` holds the value of the key stored at `s`, the map
over a keyset that answers every probe and holds the entries' keys is `MapOf` the entries. -/
theorem mapOf_of_getElem? {ks : Keyset} {entries : List (UInt64 × α)} {values : List α}
    (hks : KeysetAnswers ks) (hperm : ks.keys.toList.Perm (entries.map (·.1)))
    (hnodup : (entries.map (·.1)).Nodup) (hlen : values.length = ks.keys.size)
    (hval : ∀ s : Nat, values[s]? = ks.keys.toList[s]?.bind fun k => entries.lookup k) :
    MapOf { keyset := ks, values := values.toArray } entries := by
  have hkeys : ks.keys.toList.Nodup := hperm.nodup_iff.mpr hnodup
  have hget : ∀ raw, get? { keyset := ks, values := values.toArray } raw =
      .ok (entries.lookup raw) := by
    intro raw
    rw [get?_eq_of_keysetAnswers hks, List.getElem?_toArray, hval]
    by_cases hin : raw ∈ ks.keys.toList
    · rw [List.getElem?_eq_getElem (List.idxOf_lt_length_of_mem hin), List.getElem_idxOf,
        Option.bind_some]
    · rw [List.getElem?_eq_none (by rw [List.idxOf_eq_length hin]), Option.bind_none,
        lookup_eq_none_of_not_mem fun h => hin (hperm.mem_iff.mpr h)]
  have hzip : (ks.keys.toList.zip values).Nodup := by
    apply List.Nodup.of_map Prod.fst
    rw [List.map_fst_zip (by simp [hlen])]
    exact hkeys
  have hpairs : (ks.keys.toList.zip values).Perm entries := by
    refine (List.perm_ext_iff_of_nodup hzip (hnodup.of_map _)).mpr fun ⟨k, v⟩ => ?_
    constructor
    · intro hkv
      obtain ⟨s, hs⟩ := List.mem_iff_getElem?.mp hkv
      obtain ⟨hk, hv⟩ := List.getElem?_zip_eq_some.mp hs
      rw [hval, hk, Option.bind_some] at hv
      exact mem_of_lookup_eq_some hv
    · intro hkv
      have hin : k ∈ ks.keys.toList := hperm.mem_iff.mpr (List.mem_map_of_mem hkv)
      have hidx := List.idxOf_lt_length_of_mem hin
      have hk : ks.keys.toList[ks.keys.toList.idxOf k]? = some k := by
        rw [List.getElem?_eq_getElem hidx, List.getElem_idxOf]
      refine List.mem_iff_getElem?.mpr ⟨_, List.getElem?_zip_eq_some.mpr ⟨hk, ?_⟩⟩
      rw [hval, hk, Option.bind_some]
      exact lookup_of_mem hnodup hkv
  refine ⟨?_, ?_, hks, fun raw => ?_, fun i hi => ?_, fun raw hraw => ?_⟩
  · show values.toArray.size = entries.length
    rw [List.size_toArray, hlen, ← Array.length_toList, hperm.length_eq, List.length_map]
  · show (ks.keys.toList.zip values.toArray.toList).Perm entries
    rw [List.toList_toArray]
    exact hpairs
  · show ks.find raw = .ok values.toArray.size ↔ _
    rw [hks raw, List.size_toArray, hlen, ← Array.length_toList, Except.ok.injEq,
      List.idxOf_eq_length_iff]
    exact not_congr hperm.mem_iff
  · rw [hget]
    exact congrArg _ (lookup_of_mem hnodup (List.getElem_mem hi))
  · rw [hget, lookup_eq_none_of_not_mem hraw]

/-- **The map over a keyset of the entries' keys gives every key its entry's value.** -/
theorem ofEntries_eq_ok {ks : Keyset} {entries : List (UInt64 × α)} (hks : KeysetAnswers ks)
    (hperm : ks.keys.toList.Perm (entries.map (·.1))) (hnodup : (entries.map (·.1)).Nodup) :
    ∃ m, ofEntries ks entries = .ok (.ok m) ∧ m.keyset = ks ∧ MapOf m entries := by
  have hkeys : ks.keys.toList.Nodup := hperm.nodup_iff.mpr hnodup
  have hmem : ∀ e ∈ entries, e.1 ∈ ks.keys.toList := fun e he =>
    hperm.mem_iff.mpr (List.mem_map_of_mem he)
  obtain ⟨filled, hscatter, hsize, hfilled⟩ := scatter_eq_ok hks hkeys entries [] 0
    (Array.replicate ks.size none) (by simpa using hnodup) hmem (by simp)
    (fun s hs => by simp [Keyset.size, hs])
  have hsome : ∀ s (hs : s < ks.keys.size), (entries.lookup ks.keys[s]).isSome := by
    intro s hs
    have hin : ks.keys[s] ∈ ks.keys.toList := by simp
    obtain ⟨p, hp, hkey⟩ := List.mem_map.mp (hperm.mem_iff.mp hin)
    exact List.lookup_isSome_iff.mpr ⟨p, hp, by simp [hkey]⟩
  have hfull : ∀ x ∈ filled.toList, x ≠ none := by
    intro x hx
    obtain ⟨s, hs, rfl⟩ := List.getElem_of_mem hx
    have hs' : s < ks.keys.size := by simpa [hsize, Keyset.size] using hs
    have hslot := hfilled s hs'
    rw [List.nil_append, Array.getElem?_eq_getElem (by simpa using hs)] at hslot
    simp only [Array.getElem_toList, Option.some.injEq] at hslot ⊢
    rw [hslot]
    exact Option.isSome_iff_ne_none.mp (hsome s hs')
  obtain ⟨values, hcollect, hvalues⟩ := collectSlots_of_ne_none filled.toList 0 hfull
  have hlen : values.length = ks.keys.size := by
    have := congrArg List.length hvalues
    simp only [Array.length_toList, List.length_map, hsize, Keyset.size] at this
    omega
  have hval : ∀ s : Nat, values[s]? = ks.keys.toList[s]?.bind fun k => entries.lookup k := by
    intro s
    by_cases hs : s < ks.keys.size
    · have hslot := hfilled s hs
      rw [List.nil_append, ← Array.getElem?_toList, hvalues, List.getElem?_map] at hslot
      have hkey : ks.keys.toList[s]? = some ks.keys[s] := by simp [hs]
      rw [hkey, Option.bind_some]
      obtain ⟨w, hw⟩ := Option.isSome_iff_exists.mp (hsome s hs)
      rw [hw] at hslot ⊢
      cases hv : values[s]? with
      | none => simp [hv] at hslot
      | some u => simpa [hv] using hslot
    · have hvalues_le : values.length ≤ s := by omega
      have hkeys_le : ks.keys.toList.length ≤ s := by
        rw [Array.length_toList]
        omega
      rw [List.getElem?_eq_none hvalues_le, List.getElem?_eq_none hkeys_le]
      rfl
  refine ⟨{ keyset := ks, values := values.toArray }, ?_, rfl,
    mapOf_of_getElem? hks hperm hnodup hlen hval⟩
  rw [ofEntries, hscatter]
  simp [Except.map, Except.bind, hcollect]

/-! ### Keysets over the entries' keys -/

/-- **A keyset built in the natural order holds the distinct keys and answers every probe.** It
is ordered exactly when there are few keys. -/
theorem buildKeyset_eq_ok {b : Builder} {t : KeyType} {raws : Array UInt64}
    (hfit : ∀ raw ∈ raws, Fits t.width raw) {ks : Keyset}
    (h : (b.buildKeyset t .natural raws).value = .ok ks) :
    raws.toList.Nodup ∧ ks.keys.toList.Perm raws.toList ∧ KeysetAnswers ks ∧
      ((∃ o, ks = .ordered o) ↔ raws.size ≤ b.orderedThreshold) := by
  unfold Builder.buildKeyset at h
  split at h
  · rename_i hsmall
    obtain ⟨o, hkeys, rfl⟩ := map_eq_ok_iff.mp h
    unfold OrderedKeyset.ofKeys at hkeys
    obtain ⟨sorted, hsort, rfl⟩ := map_eq_ok_iff.mp hkeys
    replace hsort : sortKeys (KeyOrder.naturalLess t) raws = .ok sorted := hsort
    have hsorted := sortKeys_sorted (naturalLess_strictWeakOrder t) hsort
    have hnodup : raws.toList.Nodup := by
      by_contra hdup
      obtain ⟨e, he⟩ := (exists_sortKeys_naturalLess_eq_error_iff hfit).mpr hdup
      rw [hsort] at he
      cases he
    refine ⟨hnodup, sortKeys_perm hsort, fun raw => ?_, fun _ => hsmall, fun _ => ⟨_, rfl⟩⟩
    exact congrArg Except.ok (search_answers (naturalLess_strictWeakOrder t) hsorted raw)
  · rename_i hlarge
    obtain ⟨p, hbuild, rfl⟩ := map_eq_ok_iff.mp h
    obtain ⟨-, -, hbuilt⟩ := buildPerfect_builtFrom hfit hbuild
    obtain ⟨-, hnodup, -⟩ := buildPerfect_eq_ok hbuild
    refine ⟨hnodup, hbuilt.perm, hbuilt.answers, fun ⟨o, ho⟩ => ?_, fun hle => absurd hle hlarge⟩
    cases ho

theorem buildKeyset_eq_error_of_le {b : Builder} {t : KeyType} {raws : Array UInt64}
    (hsmall : raws.size ≤ b.orderedThreshold) {e : BuildError} :
    (b.buildKeyset t .natural raws).value = .error e ↔
      sortKeys (KeyOrder.naturalLess t) raws = .error e := by
  unfold Builder.buildKeyset
  rw [if_pos hsmall]
  simp only [map_eq_error_iff, OrderedKeyset.ofKeys]
  rfl

theorem buildKeyset_eq_error_of_lt {b : Builder} {t : KeyType} {raws : Array UInt64}
    (hlarge : b.orderedThreshold < raws.size) {e : BuildError} :
    (b.buildKeyset t .natural raws).value = .error e ↔ (b.buildPerfect t raws).value = .error e := by
  unfold Builder.buildKeyset
  rw [if_neg (by omega)]
  exact map_eq_error_iff

/-! ### Maps -/

/-- The keys of entries whose keys are raw forms of a width are raw forms of it. -/
theorem fits_keys_of_entries {w : Width} {entries : List (UInt64 × α)}
    (hfit : ∀ e ∈ entries, Fits w e.1) : ∀ raw ∈ (entries.map (·.1)).toArray, Fits w raw := by
  intro raw hraw
  obtain ⟨v, hv⟩ : ∃ v, (raw, v) ∈ entries := by simpa using hraw
  exact hfit (raw, v) hv

section Build

variable {b : Builder} {t : KeyType} {entries : List (UInt64 × α)}

theorem buildMap_of_keyset_error {e : BuildError}
    (h : (b.buildKeyset t .natural (entries.map (·.1)).toArray).value = .error e) :
    (b.buildMap t entries).value = .ok (.error e) := by
  simp only [Builder.buildMap, h]

theorem buildMap_of_keyset_ok (hfit : ∀ raw ∈ (entries.map (·.1)).toArray, Fits t.width raw)
    {ks : Keyset} (h : (b.buildKeyset t .natural (entries.map (·.1)).toArray).value = .ok ks) :
    ∃ m, (b.buildMap t entries).value = .ok (.ok m) ∧ m.keyset = ks ∧ MapOf m entries := by
  obtain ⟨hnodup, hperm, hks, -⟩ := buildKeyset_eq_ok hfit h
  obtain ⟨m, hm, hkeyset, hmap⟩ :=
    ofEntries_eq_ok hks (by simpa using hperm) (by simpa using hnodup)
  refine ⟨m, ?_, hkeyset, hmap⟩
  simp only [Builder.buildMap, h]
  exact hm

/-- A map fails to build exactly when its keyset does, with the keyset's error. -/
theorem buildMap_eq_error_iff (hfit : ∀ raw ∈ (entries.map (·.1)).toArray, Fits t.width raw)
    {e : BuildError} :
    (b.buildMap t entries).value = .ok (.error e) ↔
      (b.buildKeyset t .natural (entries.map (·.1)).toArray).value = .error e := by
  constructor
  · intro h
    cases hk : (b.buildKeyset t .natural (entries.map (·.1)).toArray).value with
    | error e' =>
      rw [buildMap_of_keyset_error hk] at h
      cases h
      rfl
    | ok ks =>
      obtain ⟨m, hm, -⟩ := buildMap_of_keyset_ok hfit hk
      rw [hm] at h
      cases h
  · exact buildMap_of_keyset_error

/-- Building a map never faults: the keyset's error passes through, and a keyset gives a map. -/
theorem buildMap_ok (hfit : ∀ raw ∈ (entries.map (·.1)).toArray, Fits t.width raw) :
    ∃ r, (b.buildMap t entries).value = .ok r := by
  cases hk : (b.buildKeyset t .natural (entries.map (·.1)).toArray).value with
  | error e => exact ⟨_, buildMap_of_keyset_error hk⟩
  | ok ks =>
    obtain ⟨m, hm, -⟩ := buildMap_of_keyset_ok hfit hk
    exact ⟨_, hm⟩

/-- A map fails to build only with `duplicateKey`, or, over more than `orderedThreshold` entries,
with `zeroDepth` or a table that does not fit. -/
theorem buildMap_error_cases (hfit : ∀ raw ∈ (entries.map (·.1)).toArray, Fits t.width raw)
    {e : BuildError} (h : (b.buildMap t entries).value = .ok (.error e)) :
    (∃ x y, e = .duplicateKey x y) ∨
      (b.orderedThreshold < entries.length ∧ (e = .zeroDepth ∨ IsSizeError e)) := by
  rw [buildMap_eq_error_iff hfit] at h
  by_cases hsmall : entries.length ≤ b.orderedThreshold
  · obtain ⟨x, y, -, rfl⟩ :=
      sortKeys_eq_error ((buildKeyset_eq_error_of_le (by simpa using hsmall)).mp h)
    exact Or.inl ⟨x, y, rfl⟩
  · have hlarge : b.orderedThreshold < entries.length := by omega
    rcases buildPerfect_eq_error ((buildKeyset_eq_error_of_lt (by simpa using hlarge)).mp h) with
      ⟨-, rfl⟩ | ⟨-, x, y, -, rfl⟩ | ⟨-, -, hsz⟩
    · exact Or.inr ⟨hlarge, Or.inl rfl⟩
    · exact Or.inl ⟨x, y, rfl⟩
    · exact Or.inr ⟨hlarge, Or.inr hsz⟩

/-- Over at most `orderedThreshold` entries, a map fails to build exactly when two keys are
equal. -/
theorem buildMap_error_iff_of_le (hfit : ∀ raw ∈ (entries.map (·.1)).toArray, Fits t.width raw)
    (hsmall : entries.length ≤ b.orderedThreshold) :
    (∃ e, (b.buildMap t entries).value = .ok (.error e)) ↔ ¬(entries.map (·.1)).Nodup := by
  have hkeys : (entries.map (·.1)).toArray.size ≤ b.orderedThreshold := by simpa using hsmall
  simp only [buildMap_eq_error_iff hfit, buildKeyset_eq_error_of_le hkeys]
  rw [exists_sortKeys_naturalLess_eq_error_iff hfit, List.toList_toArray]

/-- Over more than `orderedThreshold` entries, a map fails with `zeroDepth` exactly when
`maxDepth` is zero. -/
theorem buildMap_zeroDepth_iff (hfit : ∀ raw ∈ (entries.map (·.1)).toArray, Fits t.width raw)
    (hlarge : b.orderedThreshold < entries.length) :
    (b.buildMap t entries).value = .ok (.error .zeroDepth) ↔ b.maxDepth = 0 := by
  rw [buildMap_eq_error_iff hfit, buildKeyset_eq_error_of_lt (by simpa using hlarge)]
  constructor
  · intro h
    rcases buildPerfect_eq_error h with ⟨hzero, -⟩ | ⟨-, x, y, -, hne⟩ | ⟨-, -, hsz⟩
    · exact hzero
    · cases hne
    · rcases hsz with ⟨_, _, hne⟩ | ⟨_, _, hne⟩ <;> cases hne
  · exact buildPerfect_of_maxDepth_eq_zero t _

/-- Over more than `orderedThreshold` entries and with a positive `maxDepth`, a map fails with
`duplicateKey` exactly when two keys are equal. -/
theorem buildMap_duplicateKey_iff (hfit : ∀ raw ∈ (entries.map (·.1)).toArray, Fits t.width raw)
    (hlarge : b.orderedThreshold < entries.length) (hdepth : 0 < b.maxDepth) :
    (∃ x y, (b.buildMap t entries).value = .ok (.error (.duplicateKey x y))) ↔
      ¬(entries.map (·.1)).Nodup := by
  have hkeys : b.orderedThreshold < (entries.map (·.1)).toArray.size := by simpa using hlarge
  simp only [buildMap_eq_error_iff hfit, buildKeyset_eq_error_of_lt hkeys]
  constructor
  · rintro ⟨x, y, h⟩ hnodup
    have hnone := (duplicate?_eq_none_iff _).mpr (by simpa using hnodup)
    rcases buildPerfect_eq_error h with ⟨hzero, -⟩ | ⟨-, x', y', hdup, -⟩ | ⟨-, -, hsz⟩
    · omega
    · rw [hnone] at hdup
      cases hdup
    · rcases hsz with ⟨_, _, hne⟩ | ⟨_, _, hne⟩ <;> cases hne
  · intro hdup
    cases hd : PerfectKeyset.duplicate? (entries.map (·.1)).toArray with
    | none => exact absurd (by simpa using (duplicate?_eq_none_iff _).mp hd) hdup
    | some pair => exact ⟨pair.1, pair.2, buildPerfect_of_duplicate? t hdepth hd⟩

/-- A built map is ordered exactly over few entries, and gives every entry's key its value. -/
theorem buildMap_eq_ok (hfit : ∀ raw ∈ (entries.map (·.1)).toArray, Fits t.width raw)
    {m : Map α} (h : (b.buildMap t entries).value = .ok (.ok m)) :
    ((∃ o, m.keyset = .ordered o) ↔ entries.length ≤ b.orderedThreshold) ∧ MapOf m entries := by
  cases hk : (b.buildKeyset t .natural (entries.map (·.1)).toArray).value with
  | error e =>
    rw [buildMap_of_keyset_error hk] at h
    cases h
  | ok ks =>
    obtain ⟨m', hm', hkeyset, hmap⟩ := buildMap_of_keyset_ok hfit hk
    rw [hm'] at h
    cases h
    obtain ⟨-, -, -, hordered⟩ := buildKeyset_eq_ok hfit hk
    rw [hkeyset, hordered, List.size_toArray, List.length_map]
    exact ⟨Iff.rfl, hmap⟩

/-- **Built maps answer every probe.** Building a map from entries whose keys are raw forms of
the key type never faults and fails only with `duplicateKey`, or, for a perfect-hash keyset, with
`zeroDepth` or a table that does not fit. With at most `orderedThreshold` entries it fails
exactly when two keys are equal; with more it fails with `zeroDepth` exactly when `maxDepth` is
zero, and otherwise with `duplicateKey` exactly when two keys are equal. A built map is ordered
exactly for few entries, and `MapOf`: it holds the entries in slot order, gives every entry's key
its value and every other probe nothing, and finds the key count exactly for the other probes. -/
theorem built_maps_answer (b : Builder) (t : KeyType) (entries : List (UInt64 × α))
    (hfit : ∀ e ∈ entries, Fits t.width e.1) :
    (∃ r, (b.buildMap t entries).value = .ok r) ∧
    (∀ e, (b.buildMap t entries).value = .ok (.error e) →
      (∃ x y, e = .duplicateKey x y) ∨
        (b.orderedThreshold < entries.length ∧ (e = .zeroDepth ∨ IsSizeError e))) ∧
    (entries.length ≤ b.orderedThreshold →
      ((∃ e, (b.buildMap t entries).value = .ok (.error e)) ↔ ¬(entries.map (·.1)).Nodup)) ∧
    (b.orderedThreshold < entries.length →
      ((b.buildMap t entries).value = .ok (.error .zeroDepth) ↔ b.maxDepth = 0) ∧
      (0 < b.maxDepth →
        ((∃ x y, (b.buildMap t entries).value = .ok (.error (.duplicateKey x y))) ↔
          ¬(entries.map (·.1)).Nodup))) ∧
    ∀ m, (b.buildMap t entries).value = .ok (.ok m) →
      ((∃ o, m.keyset = .ordered o) ↔ entries.length ≤ b.orderedThreshold) ∧ MapOf m entries := by
  have hkeys : ∀ raw ∈ (entries.map (·.1)).toArray, Fits t.width raw := by
    intro raw hraw
    obtain ⟨v, hv⟩ : ∃ v, (raw, v) ∈ entries := by simpa using hraw
    exact hfit (raw, v) hv
  exact ⟨buildMap_ok hkeys, fun _ => buildMap_error_cases hkeys, buildMap_error_iff_of_le hkeys,
    fun hlarge => ⟨buildMap_zeroDepth_iff hkeys hlarge, buildMap_duplicateKey_iff hkeys hlarge⟩,
    fun _ => buildMap_eq_ok hkeys⟩

end Build

theorem built_maps_answer_u8 :
    (∀ e ∈ ([(1, 10), (2, 20), (3, 30)] : List (UInt64 × Nat)), Fits KeyType.u8.width e.1) ∧
    ((∃ r, (Builder.default.buildMap .u8 [((1 : UInt64), (10 : Nat)), (2, 20), (3, 30)]).value =
        .ok r) ∧
      (∀ e, (Builder.default.buildMap .u8 [((1 : UInt64), (10 : Nat)), (2, 20), (3, 30)]).value =
          .ok (.error e) →
        (∃ x y, e = .duplicateKey x y) ∨
          (Builder.default.orderedThreshold < 3 ∧ (e = .zeroDepth ∨ IsSizeError e))) ∧
      (3 ≤ Builder.default.orderedThreshold →
        ((∃ e, (Builder.default.buildMap .u8 [((1 : UInt64), (10 : Nat)), (2, 20), (3, 30)]).value =
            .ok (.error e)) ↔
          ¬(([(1, 10), (2, 20), (3, 30)] : List (UInt64 × Nat)).map (·.1)).Nodup)) ∧
      (Builder.default.orderedThreshold < 3 →
        ((Builder.default.buildMap .u8 [((1 : UInt64), (10 : Nat)), (2, 20), (3, 30)]).value =
            .ok (.error .zeroDepth) ↔ Builder.default.maxDepth = 0) ∧
        (0 < Builder.default.maxDepth →
          ((∃ x y, (Builder.default.buildMap .u8
              [((1 : UInt64), (10 : Nat)), (2, 20), (3, 30)]).value =
                .ok (.error (.duplicateKey x y))) ↔
            ¬(([(1, 10), (2, 20), (3, 30)] : List (UInt64 × Nat)).map (·.1)).Nodup))) ∧
      ∀ m, (Builder.default.buildMap .u8 [((1 : UInt64), (10 : Nat)), (2, 20), (3, 30)]).value =
          .ok (.ok m) →
        ((∃ o, m.keyset = .ordered o) ↔ 3 ≤ Builder.default.orderedThreshold) ∧
          MapOf m [(1, 10), (2, 20), (3, 30)]) := by
  have hfit : ∀ e ∈ ([(1, 10), (2, 20), (3, 30)] : List (UInt64 × Nat)),
      Fits KeyType.u8.width e.1 := by
    simp [Fits, KeyType.width, Width.bits]
  exact ⟨hfit, built_maps_answer Builder.default .u8 [(1, 10), (2, 20), (3, 30)] hfit⟩

end GatherMap.Proofs.MapBuild
