import GatherMap.Proofs.MapBuild

/-!
# The order of the input keys does not matter

The builders read their keys in input order, but the order only reaches them through sorts: the
mask search judges a mask by the sorted packed indices, and placement sorts the keys stably by
packed index. Two inputs that hold the same distinct keys in different orders therefore give the
same result, except that keys of one bucket keep their input order:

* `packedSorted_eq_of_perm`: the sorted packed indices are the same, so `searchMask_eq_of_perm`:
  the mask search returns the same mask, longest bucket and events;
* `place_map_eq_of_perm`: placing gives the same packed index at every slot, so the lookup
  table is the same (`bucketStarts_eq_of_map_eq`) and `assemble_agree` relates the two keysets by
  `SameLayout`;
* `buildPerfect_agree`, `sortKeys_eq_of_perm`, `buildKeyset_agree`: the builders agree, and
  `find_oneBucket`: the two keysets answer every probe with slots of one bucket;
* `buildMap_agree`: the maps built from two orders of the same entries answer alike.
-/

namespace GatherMap.Proofs.InputOrder

open GatherMap MaskSearch Placement Proofs.Gather Proofs.Runs Proofs.Placement
  OrderedKeyset Proofs.Duplicates Proofs.PerfectLookup Proofs.PerfectBuild Proofs.Ordered
  Proofs.MapBuild

variable {α : Type}

/-- Two results agree: the same error, or values related by `r`. -/
def Agree {ε β : Type} (r : β → β → Prop) : Except ε β → Except ε β → Prop
  | .error e, .error e' => e = e'
  | .ok a, .ok a' => r a a'
  | _, _ => False

/-- Mapping both results keeps them agreeing, when the map takes related values to related
values. -/
theorem Agree.map {ε β γ : Type} {r : β → β → Prop} {s : γ → γ → Prop} {f : β → γ}
    (hf : ∀ a a', r a a' → s (f a) (f a')) :
    ∀ {x y : Except ε β}, Agree r x y → Agree s (x.map f) (y.map f)
  | .error _, .error _, h => h
  | .ok a, .ok a', h => hf a a' h
  | .ok _, .error _, h => h.elim
  | .error _, .ok _, h => h.elim

/-! ### The mask search -/

section Search

variable {w : Width} {raws raws' : Array UInt64} (h : raws.toList.Perm raws'.toList)
include h

/-- **The sorted packed indices do not depend on the input order**: both are the sorted
permutation of the same multiset. -/
theorem packedSorted_eq_of_perm (mask : UInt64) :
    packedSorted w raws mask = packedSorted w raws' mask := by
  apply Array.ext'
  refine List.Perm.eq_of_pairwise (fun a b _ _ hab hba => UInt64.le_antisymm hab hba)
    (packedSorted_sorted w raws mask) (packedSorted_sorted w raws' mask) ?_
  exact (packedSorted_perm w raws mask).trans
    ((h.map _).trans (packedSorted_perm w raws' mask).symm)

theorem separatingMask_eq_of_perm : separatingMask w raws = separatingMask w raws' := by
  have hstep : separatingStep w raws = separatingStep w raws' := by
    funext mask bit
    simp only [separatingStep, packedSorted_eq_of_perm h]
  rw [separatingMask, separatingMask, hstep]

theorem cheapestRemoval_eq_of_perm (mask : UInt64) :
    cheapestRemoval w raws mask = cheapestRemoval w raws' mask := by
  simp only [cheapestRemoval, packedSorted_eq_of_perm h]

theorem narrowLoop_eq_of_perm (maxDepth minWeight fuel : Nat) (mask : UInt64) (longest : Nat)
    (events : List BuildEvent) :
    narrowLoop w raws maxDepth minWeight fuel mask longest events =
      narrowLoop w raws' maxDepth minWeight fuel mask longest events := by
  induction fuel generalizing mask longest events with
  | zero => rfl
  | succ fuel ih =>
    simp only [narrowLoop, cheapestRemoval_eq_of_perm h, packedSorted_eq_of_perm h, ih]

/-- **The mask search does not depend on the input order.** -/
theorem searchMask_eq_of_perm (maxDepth minWeight : Nat) :
    searchMask w raws maxDepth minWeight = searchMask w raws' maxDepth minWeight := by
  have hsize : raws.size = raws'.size := by simpa using h.length_eq
  have hempty : raws.isEmpty = raws'.isEmpty := by simp [Array.isEmpty, hsize]
  simp only [searchMask, separatingMask_eq_of_perm h, narrowLoop_eq_of_perm h, hsize, hempty]

end Search

/-! ### Placement -/

theorem rotate_map {β : Type} (f : α → β) (xs : List α) (n : Nat) :
    (rotate xs n).map f = rotate (xs.map f) n := by
  simp [rotate]

/-- **Placing two orders of the same keys gives the same packed index at every slot**: the keys
sorted by packed index have the same packed indices, so the rotation point is the same too. -/
theorem place_map_eq_of_perm (g : Gather) {raws raws' : List UInt64} (h : raws.Perm raws')
    (depth : Nat) : (place g raws depth).map g.apply = (place g raws' depth).map g.apply := by
  have hsorted : (raws.mergeSort fun a b => decide (g.apply a ≤ g.apply b)).map g.apply =
      (raws'.mergeSort fun a b => decide (g.apply a ≤ g.apply b)).map g.apply := by
    refine List.Perm.eq_of_pairwise (fun a b _ _ hab hba => UInt64.le_antisymm hab hba)
      (List.pairwise_map.mpr (sorted_place g raws)) (List.pairwise_map.mpr (sorted_place g raws'))
      ?_
    exact ((List.mergeSort_perm _ _).map _).trans
      ((h.map _).trans ((List.mergeSort_perm _ _).map _).symm)
  simp only [place, rotate_map, hsorted]

/-- The bucket starts read the slots only through their packed indices. -/
theorem bucketStarts_eq_of_map_eq (g : Gather) {slots slots' : Array UInt64} (tableLen : Nat)
    (h : slots.toList.map g.apply = slots'.toList.map g.apply) :
    bucketStarts g slots tableLen = bucketStarts g slots' tableLen := by
  have hfold : ∀ s : Array UInt64, bucketStarts g s tableLen =
      ((s.toList.map g.apply).zipIdx.reverse).foldl
        (fun starts q => starts.set! q.1.toNat q.2) (Array.replicate tableLen 0) := by
    intro s
    rw [bucketStarts, List.zipIdx_map, ← List.map_reverse, List.foldl_map]
    rfl
  rw [hfold, hfold, h]

/-! ### Perfect-hash keysets -/

/-- Two perfect-hash keysets lay out the same keys alike: the same key type, gather, depth and
lookup table, and keys that differ only by their order inside each bucket. -/
structure SameLayout (ks ks' : PerfectKeyset) : Prop where
  keyType_eq : ks'.keyType = ks.keyType
  gather_eq : ks'.gather = ks.gather
  depth_eq : ks'.depth = ks.depth
  lookup_eq : ks'.lookup = ks.lookup
  perm : ks'.keys.toList.Perm ks.keys.toList
  packed_eq : ks'.keys.toList.map ks.gather.apply = ks.keys.toList.map ks.gather.apply

/-- **Assembling two orders of the same keys agrees up to the order inside buckets.** -/
theorem assemble_agree (t : KeyType) {raws raws' : Array UInt64}
    (h : raws.toList.Perm raws'.toList) (g : Gather) (longest : Nat) (width : OffsetWidth) :
    Agree SameLayout (PerfectKeyset.assemble t raws g longest width)
      (PerfectKeyset.assemble t raws' g longest width) := by
  have hpacked := place_map_eq_of_perm g h longest
  have hstarts : ∀ tableLen, bucketStarts g (place g raws.toList longest).toArray tableLen =
      bucketStarts g (place g raws'.toList longest).toArray tableLen := fun tableLen =>
    bucketStarts_eq_of_map_eq g tableLen (by simpa using hpacked)
  unfold PerfectKeyset.assemble
  split
  · rfl
  · rename_i tableLen _
    dsimp only
    rw [← hstarts tableLen]
    cases LookupTable.narrow (bucketStarts g (place g raws.toList longest).toArray tableLen)
        width with
    | error e => rfl
    | ok lookup =>
      refine ⟨rfl, rfl, rfl, rfl, ?_, ?_⟩
      · simpa using (place_perm g raws'.toList longest).trans
          (h.symm.trans (place_perm g raws.toList longest).symm)
      · simpa using hpacked.symm

/-- **Building a perfect-hash keyset from two orders of the same distinct keys agrees** up to
the order inside buckets: the same error, or keysets with the same layout. -/
theorem buildPerfect_agree (b : Builder) (t : KeyType) {raws raws' : Array UInt64}
    (h : raws.toList.Perm raws'.toList) (hnodup : raws.toList.Nodup) :
    Agree SameLayout (b.buildPerfect t raws).value (b.buildPerfect t raws').value := by
  have hdup : PerfectKeyset.duplicate? raws = none := (duplicate?_eq_none_iff raws).mpr hnodup
  have hdup' : PerfectKeyset.duplicate? raws' = none :=
    (duplicate?_eq_none_iff raws').mpr (h.nodup_iff.mp hnodup)
  have hsize : raws.size = raws'.size := by simpa using h.length_eq
  unfold Builder.buildPerfect
  split
  · rfl
  · rw [hdup, hdup', hsize, searchMask_eq_of_perm h]
    dsimp only
    split
    · rfl
    · split
      · rfl
      · exact assemble_agree t h _ _ _

/-! ### Sorted keysets -/

/-- Sorting succeeds exactly when no two keys are equivalent, whatever their order. -/
theorem sortKeys_ok_iff_pairwise {less : UInt64 → UInt64 → Bool} (hless : StrictWeakOrder less)
    (raws : Array UInt64) :
    (∃ s, sortKeys less raws = .ok s) ↔
      raws.toList.Pairwise fun a b => ¬Equivalent less a b := by
  have hok : (∃ s, sortKeys less raws = .ok s) ↔ ¬∃ e, sortKeys less raws = .error e := by
    cases sortKeys less raws <;> simp
  rw [hok, exists_sortKeys_eq_error_iff, not_not, findDuplicate?_eq_none_iff hless,
    List.pairwise_iff_getElem]
  simp

/-- **Sorting two orders of the same keys succeeds on both or on neither, and gives the same
keys**, under every strict weak order. -/
theorem sortKeys_eq_of_perm {less : UInt64 → UInt64 → Bool} (hless : StrictWeakOrder less)
    {raws raws' : Array UInt64} (h : raws.toList.Perm raws'.toList) :
    ((∃ s, sortKeys less raws = .ok s) ↔ ∃ s, sortKeys less raws' = .ok s) ∧
      ∀ s s', sortKeys less raws = .ok s → sortKeys less raws' = .ok s' → s = s' := by
  refine ⟨?_, fun s s' hs hs' => ?_⟩
  · rw [sortKeys_ok_iff_pairwise hless, sortKeys_ok_iff_pairwise hless]
    exact h.pairwise_iff fun hab => fun heq => hab ⟨heq.2, heq.1⟩
  · apply Array.ext'
    refine List.Perm.eq_of_pairwise (fun a b _ _ hab hba => ?_) (sortKeys_sorted hless hs)
      (sortKeys_sorted hless hs') ((sortKeys_perm hs).trans (h.trans (sortKeys_perm hs').symm))
    rw [hless.asymm hab] at hba
    cases hba

/-! ### Keysets the builder picks -/

/-- Two keysets lay out the same keys alike: equal ordered keysets, or perfect-hash keysets
with the same layout. -/
def KeysetLayout : Keyset → Keyset → Prop
  | .ordered a, .ordered a' => a' = a
  | .perfect a, .perfect a' => SameLayout a a'
  | _, _ => False

/-- **The builder picks the same kind of keyset for two orders of the same distinct keys, and
lays them out alike.** -/
theorem buildKeyset_agree (b : Builder) (t : KeyType) {raws raws' : Array UInt64}
    (h : raws.toList.Perm raws'.toList) (hnodup : raws.toList.Nodup)
    (hfit : ∀ raw ∈ raws, Fits t.width raw) :
    Agree KeysetLayout (b.buildKeyset t .natural raws).value
      (b.buildKeyset t .natural raws').value := by
  have hsize : raws.size = raws'.size := by simpa using h.length_eq
  unfold Builder.buildKeyset
  rw [← hsize]
  split
  · have hok : ∀ r : Array UInt64, r.toList.Perm raws.toList →
        ∃ s, sortKeys (KeyOrder.naturalLess t) r = .ok s := by
      intro r hr
      have hfit' : ∀ raw ∈ r, Fits t.width raw := fun raw hraw =>
        hfit raw (Array.mem_toList_iff.mp (hr.mem_iff.mp (Array.mem_toList_iff.mpr hraw)))
      cases hs : sortKeys (KeyOrder.naturalLess t) r with
      | ok s => exact ⟨s, rfl⟩
      | error e =>
        exact absurd (hr.nodup_iff.mpr hnodup)
          ((exists_sortKeys_naturalLess_eq_error_iff hfit').mp ⟨e, hs⟩)
    obtain ⟨s, hs⟩ := hok raws List.Perm.rfl
    obtain ⟨s', hs'⟩ := hok raws' h.symm
    have heq := (sortKeys_eq_of_perm (naturalLess_strictWeakOrder t) h).2 s s' hs hs'
    have hnatural : KeyOrder.less t .natural = KeyOrder.naturalLess t := by
      funext a b
      rfl
    simp only [OrderedKeyset.ofKeys]
    rw [hnatural, hs, hs', heq]
    rfl
  · show Agree KeysetLayout ((b.buildPerfect t raws).value.map .perfect)
      ((b.buildPerfect t raws').value.map .perfect)
    have hwrap : ∀ a a', SameLayout a a' → KeysetLayout (.perfect a) (.perfect a') :=
      fun _ _ hlayout => hlayout
    exact (buildPerfect_agree b t h hnodup).map hwrap

/-- Slots `i` of `ks` and `i'` of `ks'` hold keys of one bucket: the same slot, or, in a
perfect-hash keyset, two slots of `ks` whose keys share a packed index. -/
def OneBucket (ks : Keyset) (i i' : Nat) : Prop :=
  i = i' ∨ ∃ p, ks = .perfect p ∧ ∃ (hi : i < p.keys.size) (hi' : i' < p.keys.size),
    p.gather.apply p.keys[i] = p.gather.apply p.keys[i']

/-- In two perfect-hash keysets with the same layout, a probe's first slots hold keys of one
bucket: both hold the probe, whose packed index is the same at both slots, or neither does and
both are the key count. -/
theorem SameLayout.idxOf_oneBucket {p p' : PerfectKeyset} (hlayout : SameLayout p p')
    (raw : UInt64) :
    OneBucket (.perfect p) (p.keys.toList.idxOf raw) (p'.keys.toList.idxOf raw) := by
  have hlen : p'.keys.toList.length = p.keys.toList.length := hlayout.perm.length_eq
  have hsize : p'.keys.size = p.keys.size := by simpa using hlen
  by_cases hmem : raw ∈ p.keys.toList
  · have hmem' : raw ∈ p'.keys.toList := hlayout.perm.mem_iff.mpr hmem
    have hi := List.idxOf_lt_length_of_mem hmem
    have hi' := List.idxOf_lt_length_of_mem hmem'
    have hget := List.getElem_idxOf hi
    have hget' := List.getElem_idxOf hi'
    have hslot := congrArg (·[p'.keys.toList.idxOf raw]?) hlayout.packed_eq
    simp only [List.getElem?_map, List.getElem?_eq_getElem hi',
      List.getElem?_eq_getElem (hlen ▸ hi'), Option.map_some, Option.some.injEq] at hslot
    refine Or.inr ⟨p, rfl, by simpa using hi, by rw [← hsize]; simpa using hi', ?_⟩
    simp only [← Array.getElem_toList, hget]
    rw [← hslot, hget']
  · have hmem' : raw ∉ p'.keys.toList := fun h => hmem (hlayout.perm.mem_iff.mp h)
    left
    rw [List.idxOf_eq_length hmem, List.idxOf_eq_length hmem', hlen]

/-- **Keysets laid out alike that answer every probe answer it with slots of one bucket.** -/
theorem find_oneBucket {ks ks' : Keyset} (hlayout : KeysetLayout ks ks')
    (hks : KeysetAnswers ks) (hks' : KeysetAnswers ks') (raw : UInt64) :
    ∃ i i', ks.find raw = .ok i ∧ ks'.find raw = .ok i' ∧ OneBucket ks i i' := by
  refine ⟨_, _, hks raw, hks' raw, ?_⟩
  cases ks with
  | ordered a =>
    cases ks' with
    | ordered a' =>
      cases hlayout
      exact Or.inl rfl
    | perfect _ => cases hlayout
  | perfect p =>
    cases ks' with
    | ordered _ => cases hlayout
    | perfect p' => exact hlayout.idxOf_oneBucket raw

/-! ### Maps -/

/-- A map built from entries with distinct keys gives each probe what the entries give it. -/
theorem get?_eq_lookup {m : Map α} {entries : List (UInt64 × α)} (hmap : MapOf m entries)
    (hnodup : (entries.map (·.1)).Nodup) (raw : UInt64) :
    m.get? raw = .ok (entries.lookup raw) := by
  by_cases hmem : raw ∈ entries.map (·.1)
  · obtain ⟨⟨k, v⟩, hkv, rfl⟩ := List.mem_map.mp hmem
    obtain ⟨i, hi, hentry⟩ := List.getElem_of_mem hkv
    have hget := hmap.get?_getElem i hi
    rw [hentry] at hget
    rw [hget, lookup_of_mem hnodup hkv]
  · rw [hmap.get?_of_not_mem raw hmem, lookup_eq_none_of_not_mem hmem]

/-- Two orders of entries with distinct keys look up every key alike. -/
theorem lookup_eq_of_perm {entries entries' : List (UInt64 × α)} (h : entries.Perm entries')
    (hnodup : (entries.map (·.1)).Nodup) (raw : UInt64) :
    entries.lookup raw = entries'.lookup raw := by
  have hnodup' : (entries'.map (·.1)).Nodup := (h.map _).nodup_iff.mp hnodup
  cases hl : entries.lookup raw with
  | some v => rw [lookup_of_mem hnodup' (h.mem_iff.mp (mem_of_lookup_eq_some hl))]
  | none =>
    cases hl' : entries'.lookup raw with
    | none => rfl
    | some v =>
      have hfound := lookup_of_mem hnodup (h.mem_iff.mpr (mem_of_lookup_eq_some hl'))
      rw [hl] at hfound
      cases hfound

/-- **Building maps from two orders of the same entries agrees**: the same error, or maps whose
keysets are laid out alike and that give every probe the same value. -/
theorem buildMap_agree (b : Builder) (t : KeyType) {entries entries' : List (UInt64 × α)}
    (h : entries.Perm entries') (hnodup : (entries.map (·.1)).Nodup)
    (hfit : ∀ e ∈ entries, Fits t.width e.1) :
    ∃ r r', (b.buildMap t entries).value = .ok r ∧ (b.buildMap t entries').value = .ok r' ∧
      Agree (fun m m' => KeysetLayout m.keyset m'.keyset ∧ ∀ raw, m.get? raw = m'.get? raw)
        r r' := by
  have hnodup' : (entries'.map (·.1)).Nodup := (h.map _).nodup_iff.mp hnodup
  have hfit' : ∀ e ∈ entries', Fits t.width e.1 := fun e he => hfit e (h.mem_iff.mpr he)
  have hagree : Agree KeysetLayout (b.buildKeyset t .natural (entries.map (·.1)).toArray).value
      (b.buildKeyset t .natural (entries'.map (·.1)).toArray).value :=
    buildKeyset_agree b t (by simpa using h.map (·.1)) (by simpa using hnodup)
      (fits_keys_of_entries hfit)
  cases hk : (b.buildKeyset t .natural (entries.map (·.1)).toArray).value with
  | error e =>
    cases hk' : (b.buildKeyset t .natural (entries'.map (·.1)).toArray).value with
    | error e' =>
      rw [hk, hk'] at hagree
      exact ⟨_, _, buildMap_of_keyset_error hk, buildMap_of_keyset_error hk', hagree⟩
    | ok ks' =>
      rw [hk, hk'] at hagree
      cases hagree
  | ok ks =>
    cases hk' : (b.buildKeyset t .natural (entries'.map (·.1)).toArray).value with
    | error e' =>
      rw [hk, hk'] at hagree
      cases hagree
    | ok ks' =>
      rw [hk, hk'] at hagree
      obtain ⟨m, hm, rfl, hmap⟩ := buildMap_of_keyset_ok (fits_keys_of_entries hfit) hk
      obtain ⟨m', hm', rfl, hmap'⟩ := buildMap_of_keyset_ok (fits_keys_of_entries hfit') hk'
      refine ⟨_, _, hm, hm', hagree, fun raw => ?_⟩
      rw [get?_eq_lookup hmap hnodup, get?_eq_lookup hmap' hnodup', lookup_eq_of_perm h hnodup]

/-! ### Both orders -/

/-- **The order of distinct input keys does not matter.** For two orders of the same keys with
distinct raw forms, of the key type's width: the mask search returns the same mask, longest bucket
and events; building a perfect-hash keyset fails on both with the same error, or gives keysets
with the same key type, gather (so the same mask), depth and lookup table (so the same offset
width) whose keys differ only by their order inside each bucket; sorting by any strict weak order
succeeds on both or on neither, with the same keys; the keyset the builder picks fails alike or
is laid out alike, and answers every probe with slots of one bucket; and maps built from two
orders of the same entries fail alike, or have keysets laid out alike and give every probe the
same value. -/
theorem input_order_irrelevant (b : Builder) (t : KeyType) (raws raws' : Array UInt64)
    (h : raws.toList.Perm raws'.toList) (hnodup : raws.toList.Nodup)
    (hfit : ∀ raw ∈ raws, Fits t.width raw) :
    (∀ (w : Width) (maxDepth minWeight : Nat),
      searchMask w raws maxDepth minWeight = searchMask w raws' maxDepth minWeight) ∧
    Agree SameLayout (b.buildPerfect t raws).value (b.buildPerfect t raws').value ∧
    (∀ less : UInt64 → UInt64 → Bool, StrictWeakOrder less →
      ((∃ s, sortKeys less raws = .ok s) ↔ ∃ s, sortKeys less raws' = .ok s) ∧
      ∀ s s', sortKeys less raws = .ok s → sortKeys less raws' = .ok s' → s = s') ∧
    Agree KeysetLayout (b.buildKeyset t .natural raws).value
      (b.buildKeyset t .natural raws').value ∧
    (∀ ks ks', (b.buildKeyset t .natural raws).value = .ok ks →
      (b.buildKeyset t .natural raws').value = .ok ks' →
      ∀ raw, ∃ i i', ks.find raw = .ok i ∧ ks'.find raw = .ok i' ∧ OneBucket ks i i') ∧
    ∀ {α : Type} (entries entries' : List (UInt64 × α)), entries.Perm entries' →
      (entries.map (·.1)).Nodup → (∀ e ∈ entries, Fits t.width e.1) →
      ∃ r r', (b.buildMap t entries).value = .ok r ∧ (b.buildMap t entries').value = .ok r' ∧
        Agree (fun m m' => KeysetLayout m.keyset m'.keyset ∧ ∀ raw, m.get? raw = m'.get? raw)
          r r' := by
  have hfit' : ∀ raw ∈ raws', Fits t.width raw := fun raw hraw =>
    hfit raw (Array.mem_toList_iff.mp (h.mem_iff.mpr (Array.mem_toList_iff.mpr hraw)))
  refine ⟨fun _ _ _ => searchMask_eq_of_perm h _ _, buildPerfect_agree b t h hnodup,
    fun _ hless => sortKeys_eq_of_perm hless h, buildKeyset_agree b t h hnodup hfit,
    fun ks ks' hks hks' raw => ?_,
    fun _ _ hperm hkeys hentries => buildMap_agree b t hperm hkeys hentries⟩
  have hlayout := buildKeyset_agree b t h hnodup hfit
  rw [hks, hks'] at hlayout
  exact find_oneBucket hlayout (buildKeyset_eq_ok hfit hks).2.2.1
    (buildKeyset_eq_ok hfit' hks').2.2.1 raw

theorem input_order_irrelevant_u8 :
    (#[3, 5, 6, 9, 200] : Array UInt64).toList.Perm (#[200, 9, 6, 5, 3] : Array UInt64).toList ∧
    (#[3, 5, 6, 9, 200] : Array UInt64).toList.Nodup ∧
    (∀ raw ∈ (#[3, 5, 6, 9, 200] : Array UInt64), Fits KeyType.u8.width raw) ∧
    ((∀ (w : Width) (maxDepth minWeight : Nat),
      searchMask w #[3, 5, 6, 9, 200] maxDepth minWeight =
        searchMask w #[200, 9, 6, 5, 3] maxDepth minWeight) ∧
    Agree SameLayout (Builder.default.buildPerfect .u8 #[3, 5, 6, 9, 200]).value
      (Builder.default.buildPerfect .u8 #[200, 9, 6, 5, 3]).value ∧
    (∀ less : UInt64 → UInt64 → Bool, StrictWeakOrder less →
      ((∃ s, sortKeys less #[3, 5, 6, 9, 200] = .ok s) ↔
        ∃ s, sortKeys less #[200, 9, 6, 5, 3] = .ok s) ∧
      ∀ s s', sortKeys less #[3, 5, 6, 9, 200] = .ok s →
        sortKeys less #[200, 9, 6, 5, 3] = .ok s' → s = s') ∧
    Agree KeysetLayout (Builder.default.buildKeyset .u8 .natural #[3, 5, 6, 9, 200]).value
      (Builder.default.buildKeyset .u8 .natural #[200, 9, 6, 5, 3]).value ∧
    (∀ ks ks', (Builder.default.buildKeyset .u8 .natural #[3, 5, 6, 9, 200]).value = .ok ks →
      (Builder.default.buildKeyset .u8 .natural #[200, 9, 6, 5, 3]).value = .ok ks' →
      ∀ raw, ∃ i i', ks.find raw = .ok i ∧ ks'.find raw = .ok i' ∧ OneBucket ks i i') ∧
    ∀ {α : Type} (entries entries' : List (UInt64 × α)), entries.Perm entries' →
      (entries.map (·.1)).Nodup → (∀ e ∈ entries, Fits KeyType.u8.width e.1) →
      ∃ r r', (Builder.default.buildMap .u8 entries).value = .ok r ∧
        (Builder.default.buildMap .u8 entries').value = .ok r' ∧
        Agree (fun m m' => KeysetLayout m.keyset m'.keyset ∧ ∀ raw, m.get? raw = m'.get? raw)
          r r') := by
  have hperm : (#[3, 5, 6, 9, 200] : Array UInt64).toList.Perm
      (#[200, 9, 6, 5, 3] : Array UInt64).toList := by decide
  have hnodup : (#[3, 5, 6, 9, 200] : Array UInt64).toList.Nodup := by decide
  have hfit : ∀ raw ∈ (#[3, 5, 6, 9, 200] : Array UInt64), Fits KeyType.u8.width raw := by
    simp [Fits, KeyType.width, Width.bits]
  exact ⟨hperm, hnodup, hfit,
    input_order_irrelevant Builder.default .u8 _ _ hperm hnodup hfit⟩

end GatherMap.Proofs.InputOrder
