import GatherMap.Proofs.MapRead

/-!
# Built keysets and maps load back unchanged

Stored keysets and maps are checked when they are loaded (`Keyset.reload`, `Map.reload`), by
checks written apart from the builders. Every structure the builders make passes them, so storing
and loading it gives it back:

* `perfect_validate_eq_ok_iff`, `ordered_validate_eq_ok_iff`: what loading checks, as
  `PerfectChecks` (one offset per packed index, offsets into the keys, a positive depth for a
  non-empty keyset, each key found at its slot) and `Adjacent` (each key before the next);
* `bucketStarts_lt`: every bucket start is a slot or `0`, also for packed indices without keys;
* `assemble_checks`, `assemble_reload`: an assembled keyset passes every check, so it loads back
  unchanged, with its gather rebuilt from its mask;
* `built_structures_reload`: perfect-hash keysets built either way, sorted keysets, the keysets
  the builder picks and the maps over any keyset that loads back, load back unchanged.
-/

namespace GatherMap.Proofs.Reload

open GatherMap Proofs.Gather Proofs.Runs Proofs.Placement Proofs.Duplicates
  Proofs.PerfectLookup Proofs.PerfectBuild Proofs.Ordered Proofs.Validation Proofs.Search
  Proofs.MapBuild Proofs.RawParts Proofs.MapRead

variable {α : Type}

/-! ### What loading checks -/

/-- The checks of a perfect-hash keyset: one offset per packed index, every offset below the key
count (below one for no keys), a positive depth when there are keys, and each key found at its own
slot. -/
structure PerfectChecks (ks : PerfectKeyset) : Prop where
  lookupLength : ks.gather.outputLen? = some ks.lookup.size
  offset_lt : ∀ o ∈ ks.lookup.offsets, o < max ks.size 1
  depth_pos : 0 < ks.size → 0 < ks.depth
  findsSelf : ∀ i (hi : i < ks.keys.size), ks.find ks.keys[i] = .ok i

/-- The check of an ordered keyset: each key is less than the next in its order. -/
def Adjacent (ks : OrderedKeyset) : Prop :=
  ∀ i (hi : i + 1 < ks.keys.size), ks.order.less ks.keyType ks.keys[i] ks.keys[i + 1] = true

/-- A hit of a search over an indexed list is the element at its index, and passes the test. -/
theorem find?_zipIdx_eq_some {β : Type} {l : List β} {p : β × Nat → Bool} {x : β} {i : Nat}
    (h : l.zipIdx.find? p = some (x, i)) : ∃ hi : i < l.length, l[i] = x ∧ p (x, i) = true := by
  have hget : l[i]? = some x := List.mem_zipIdx_iff_getElem?.mp (List.mem_of_find?_eq_some h)
  obtain ⟨hi, hx⟩ := List.getElem?_eq_some_iff.mp hget
  exact ⟨hi, hx, List.find?_some h⟩

/-- **A perfect-hash keyset passes its check exactly when it meets `PerfectChecks`.** -/
theorem perfect_validate_eq_ok_iff {ks ks' : PerfectKeyset} :
    ks.validate = .ok ks' ↔ ks' = ks ∧ PerfectChecks ks := by
  constructor
  · intro h
    obtain ⟨rfl, hlen, hoff, hdepth, hself⟩ := perfect_validate_eq_ok h
    exact ⟨rfl, hlen, hoff, hdepth, hself⟩
  · rintro ⟨heq, hc⟩
    rw [heq]
    have hlen : (ks.gather.outputLen? != some ks.lookup.size) = false := by
      simp [hc.lookupLength]
    have hoff : ks.lookup.offsets.any (· ≥ max ks.size 1) = false := by
      refine Array.any_eq_false'.mpr fun o ho => ?_
      simpa only [ge_iff_le, decide_eq_true_eq, not_le] using hc.offset_lt o ho
    have hdepth : (decide (ks.size > 0) && ks.depth == 0) = false := by
      by_cases hpos : 0 < ks.size
      · have := hc.depth_pos hpos
        simp [Nat.pos_iff_ne_zero.mp this]
      · simp [hpos]
    unfold PerfectKeyset.validate
    simp only [hlen, hoff, hdepth, Bool.false_eq_true, if_false]
    split
    · rename_i raw slot hfound
      obtain ⟨hslot, hraw, hpred⟩ := find?_zipIdx_eq_some hfound
      have hslot' : slot < ks.keys.size := by simpa using hslot
      subst hraw
      simp [hc.findsSelf slot hslot'] at hpred
    · rfl

/-- **An ordered keyset passes its check exactly when each key is before the next.** -/
theorem ordered_validate_eq_ok_iff {ks ks' : OrderedKeyset} :
    ks.validate = .ok ks' ↔ ks' = ks ∧ Adjacent ks := by
  constructor
  · intro h
    obtain ⟨heq, hadj⟩ := ordered_validate_eq_ok h
    exact ⟨heq, fun i hnext => hadj i (by omega) hnext⟩
  · rintro ⟨heq, hadj⟩
    rw [heq]
    unfold OrderedKeyset.validate
    dsimp only
    split
    · rename_i pair index hfound
      obtain ⟨hi, rfl, hpred⟩ := find?_zipIdx_eq_some hfound
      have hnext : index + 1 < ks.keys.size := by simp at hi; omega
      simp only [List.getElem_zip, List.getElem_tail, Array.getElem_toList,
        hadj index hnext] at hpred
      cases hpred
    · rfl

/-- Loading rebuilds the gather from the mask: a keyset whose gather is already the rebuilt one
loads as its check says. -/
theorem reload_eq_validate {ks : PerfectKeyset}
    (h : ks.gather = Gather.new ks.keyType.width ks.mask) : ks.reload = ks.validate := by
  unfold PerfectKeyset.reload PerfectKeyset.load
  rw [← h]

/-! ### Assembled keysets -/

/-- **Every bucket start is a slot, or `0`.** The table starts at `0` and each write stores a
slot. -/
theorem bucketStarts_lt (g : Gather) (slots : Array UInt64) (tableLen : Nat) :
    ∀ o ∈ Placement.bucketStarts g slots tableLen, o < max slots.size 1 := by
  unfold Placement.bucketStarts
  have hslots : ∀ e ∈ slots.toList.zipIdx.reverse, e.2 < slots.size := by
    intro ⟨raw, slot⟩ he
    have hget := List.mem_zipIdx_iff_getElem?.mp (List.mem_reverse.mp he)
    simpa using (List.getElem?_eq_some_iff.mp hget).1
  have hinit : ∀ o ∈ Array.replicate tableLen 0, o < max slots.size 1 := by
    intro o ho
    rw [(Array.mem_replicate.mp ho).2]
    omega
  generalize slots.toList.zipIdx.reverse = L at hslots
  generalize Array.replicate tableLen 0 = A at hinit
  induction L generalizing A with
  | nil => exact hinit
  | cons e L ih =>
    obtain ⟨raw, slot⟩ := e
    refine ih (fun e' he' => hslots e' (List.mem_cons_of_mem _ he')) _ fun o ho => ?_
    have ho' : o ∈ A.setIfInBounds (g.apply raw).toNat slot := by
      rw [← Array.set!_eq_setIfInBounds]
      exact ho
    rcases Array.mem_or_eq_of_mem_setIfInBounds ho' with ho' | rfl
    · exact hinit o ho'
    · have := hslots (raw, o) List.mem_cons_self
      omega

/-- **An assembled keyset meets every check of loading**, when its depth is the longest bucket of
distinct keys. -/
theorem assemble_checks {t : KeyType} {raws : Array UInt64} {w : Width} {mask : UInt64}
    {longest : Nat} {width : OffsetWidth} {ks : PerfectKeyset} (hnodup : raws.toList.Nodup)
    (hlong : longestBucket (Gather.new w mask) raws.toList = longest)
    (h : PerfectKeyset.assemble t raws (Gather.new w mask) longest width = .ok ks) :
    PerfectChecks ks := by
  obtain ⟨tableLen, hlen, -, -, hlookup, hgather, -⟩ := assemble_eq_ok h
  obtain ⟨-, hbuilt⟩ := assemble_builtFrom hnodup hlong h
  have hkeys : ks.keys.toList.Nodup := hbuilt.perm.nodup_iff.mpr hnodup
  refine ⟨?_, ?_, fun hpos => ?_, fun i hi => ?_⟩
  · rw [hgather, hlen, hlookup]
    show some tableLen = some (Placement.bucketStarts _ _ _).size
    rw [size_bucketStarts]
  · rw [hlookup]
    exact bucketStarts_lt _ ks.keys tableLen
  · have hsize : ks.keys.size = raws.size := by simpa using hbuilt.perm.length_eq
    have hne : raws.toList ≠ [] := by
      intro hnil
      have hzero : raws.size = 0 := by simpa using congrArg List.length hnil
      unfold PerfectKeyset.size at hpos
      omega
    rw [hbuilt.depth_eq, longestBucket]
    exact one_le_maxCount (by simpa using hne)
  · have hidx := hkeys.idxOf_getElem i (by simpa using hi)
    simp only [Array.getElem_toList] at hidx
    rw [hbuilt.answers, hidx]

/-- **An assembled keyset passes every check and loads back unchanged**, its gather rebuilt from
its mask. -/
theorem assemble_reload {t : KeyType} {raws : Array UInt64} {mask : UInt64} {longest : Nat}
    {width : OffsetWidth} {ks : PerfectKeyset} (hnodup : raws.toList.Nodup)
    (hlong : longestBucket (Gather.new t.width mask) raws.toList = longest)
    (h : PerfectKeyset.assemble t raws (Gather.new t.width mask) longest width = .ok ks) :
    PerfectChecks ks ∧ ks.validate = .ok ks ∧ ks.reload = .ok ks := by
  obtain ⟨-, -, htype, -, -, hgather, -⟩ := assemble_eq_ok h
  have hchecks := assemble_checks hnodup hlong h
  have hvalid : ks.validate = .ok ks := perfect_validate_eq_ok_iff.mpr ⟨rfl, hchecks⟩
  have hmask : ks.mask = mask := by
    rw [PerfectKeyset.mask, hgather]
    rfl
  refine ⟨hchecks, hvalid, ?_⟩
  rw [reload_eq_validate (by rw [hgather, htype, hmask]), hvalid]

theorem withMask_reload {t : KeyType} {raws : Array UInt64} {mask : UInt64} {d : Nat}
    {ks : PerfectKeyset} (h : PerfectKeyset.withMask t raws mask d = .ok ks) :
    PerfectChecks ks ∧ ks.validate = .ok ks ∧ ks.reload = .ok ks := by
  obtain ⟨hnodup, -, width, hassemble⟩ := withMask_eq_ok h
  exact assemble_reload hnodup rfl hassemble

/-- A keyset the builder returns passes the checks of a reload, which keeps it: the searched mask
reports its own longest bucket. -/
theorem buildPerfect_reload {b : Builder} {t : KeyType} {raws : Array UInt64}
    (hfit : ∀ raw ∈ raws, Fits t.width raw) {ks : PerfectKeyset}
    (h : (b.buildPerfect t raws).value = .ok ks) :
    PerfectChecks ks ∧ ks.validate = .ok ks ∧ ks.reload = .ok ks := by
  obtain ⟨hdepth, hnodup, width, hassemble⟩ := buildPerfect_eq_ok h
  obtain ⟨hexact, -⟩ := searchMask_measured b.minMaskWeight hfit hnodup hdepth
  exact assemble_reload hnodup hexact.symm hassemble

/-! ### Sorted keysets -/

/-- **Sorted keysets pass their check**, in every order. -/
theorem ofKeys_reload {t : KeyType} {order : KeyOrder} {raws : Array UInt64} {ks : OrderedKeyset}
    (h : OrderedKeyset.ofKeys t order raws = .ok ks) : Adjacent ks ∧ ks.validate = .ok ks := by
  obtain ⟨sorted, hsort, rfl⟩ := map_eq_ok_iff.mp h
  have hsorted := sortKeys_sorted (KeyOrder.strictWeakOrder t order) hsort
  have hadj : Adjacent { keyType := t, order, keys := sorted } := fun i hi =>
    less_getElem hsorted (Nat.lt_of_succ_lt hi) hi (Nat.lt_succ_self i)
  exact ⟨hadj, ordered_validate_eq_ok_iff.mpr ⟨rfl, hadj⟩⟩

/-- A keyset the builder picks loads back unchanged. -/
theorem buildKeyset_reload {b : Builder} {t : KeyType} {order : KeyOrder} {raws : Array UInt64}
    (hfit : ∀ raw ∈ raws, Fits t.width raw) {ks : Keyset}
    (h : (b.buildKeyset t order raws).value = .ok ks) : ks.reload = .ok ks := by
  unfold Builder.buildKeyset at h
  split at h
  · obtain ⟨o, ho, rfl⟩ := map_eq_ok_iff.mp h
    rw [Keyset.reload, (ofKeys_reload ho).2]
    rfl
  · obtain ⟨p, hp, rfl⟩ := map_eq_ok_iff.mp h
    rw [Keyset.reload, (buildPerfect_reload hfit hp).2.2]
    rfl

/-! ### Maps -/

/-- **A map with one value per key over a keyset that loads back unchanged loads back
unchanged.** -/
theorem map_reload {m : Map α} (hks : m.keyset.reload = .ok m.keyset) (hm : OneValuePerKey m) :
    m.reload = .ok m := by
  unfold Map.reload
  rw [hks]
  show Map.validate m.keyset m.values = .ok m
  rw [Map.validate, if_pos hm.symm]

/-- **Built keysets and maps load back unchanged.** A perfect-hash keyset that the builder
returns for raw forms of the key type, or that building with a mask returns, meets every check
of loading (one offset per packed index, offsets into the keys, a positive depth when there are
keys, each key found at its slot), and storing and loading it gives it back, its gather rebuilt
from its mask. A sorted keyset has each key before the next and passes its check; a keyset the
builder picks loads back. A map made from entries, from values in slot order or with a default
value over a keyset that loads back, and a map built from entries, load back unchanged: same
keyset, same values, so the same answers to every probe. -/
theorem built_structures_reload :
    (∀ (b : Builder) (t : KeyType) (raws : Array UInt64) (ks : PerfectKeyset),
      (∀ raw ∈ raws, Fits t.width raw) → (b.buildPerfect t raws).value = .ok ks →
        PerfectChecks ks ∧ ks.validate = .ok ks ∧ ks.reload = .ok ks) ∧
    (∀ (t : KeyType) (raws : Array UInt64) (mask : UInt64) (d : Nat) (ks : PerfectKeyset),
      PerfectKeyset.withMask t raws mask d = .ok ks →
        PerfectChecks ks ∧ ks.validate = .ok ks ∧ ks.reload = .ok ks) ∧
    (∀ (t : KeyType) (order : KeyOrder) (raws : Array UInt64) (ks : OrderedKeyset),
      OrderedKeyset.ofKeys t order raws = .ok ks → Adjacent ks ∧ ks.validate = .ok ks) ∧
    (∀ (b : Builder) (t : KeyType) (order : KeyOrder) (raws : Array UInt64) (ks : Keyset),
      (∀ raw ∈ raws, Fits t.width raw) → (b.buildKeyset t order raws).value = .ok ks →
        ks.reload = .ok ks) ∧
    (∀ (ks : Keyset) (entries : List (UInt64 × α)) (m : Map α), ks.reload = .ok ks →
      Map.ofEntries ks entries = .ok (.ok m) → OneValuePerKey m ∧ m.reload = .ok m) ∧
    (∀ (ks : Keyset) (values : Array α) (m : Map α), ks.reload = .ok ks →
      Map.ofSlots ks values = .ok m → OneValuePerKey m ∧ m.reload = .ok m) ∧
    (∀ (ks : Keyset) (v : α), ks.reload = .ok ks →
      (Map.withDefault ks v).reload = .ok (Map.withDefault ks v)) ∧
    ∀ (b : Builder) (t : KeyType) (entries : List (UInt64 × α)) (m : Map α),
      (∀ e ∈ entries, Fits t.width e.1) → (b.buildMap t entries).value = .ok (.ok m) →
        OneValuePerKey m ∧ m.reload = .ok m := by
  refine ⟨fun _ _ _ _ hfit h => buildPerfect_reload hfit h, fun _ _ _ _ _ h => withMask_reload h,
    fun _ _ _ _ h => ofKeys_reload h, fun _ _ _ _ _ hfit h => buildKeyset_reload hfit h,
    fun ks _ m hks h => ?_, fun ks _ m hks h => ?_, fun ks v hks => ?_,
    fun b t entries m hfit h => ?_⟩
  · obtain ⟨rfl, hm⟩ := ofEntries_eq_ok h
    exact ⟨hm, map_reload hks hm⟩
  · obtain ⟨rfl, -, hm⟩ := ofSlots_eq_ok h
    exact ⟨hm, map_reload hks hm⟩
  · exact map_reload hks (withDefault_oneValuePerKey ks v)
  · unfold Builder.buildMap at h
    dsimp only at h
    split at h
    · cases h
    · rename_i ks hks
      obtain ⟨rfl, hm⟩ := ofEntries_eq_ok h
      exact ⟨hm, map_reload (buildKeyset_reload (fits_keys_of_entries hfit) hks) hm⟩

end GatherMap.Proofs.Reload
