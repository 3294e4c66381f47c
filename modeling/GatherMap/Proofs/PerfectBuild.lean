import GatherMap.Builder
import GatherMap.Proofs.PerfectLookup
import GatherMap.Proofs.Placement
import GatherMap.Proofs.Duplicates
import GatherMap.Proofs.Search

/-!
# Built perfect-hash keysets answer every probe

A perfect-hash keyset is assembled from a gather and a bucket length: the keys are placed so that
every bucket occupies consecutive slots, and the lookup table stores the first slot of each
bucket. A lookup that scans `depth` slots from there reaches every key of the bucket as soon as
`depth` bounds the bucket sizes. Both ways of building, with a given mask (`withMask`) and with a
searched one (`Builder.buildPerfect`), take the longest bucket as the depth.

* `assemble_builtFrom`: an assembled keyset holds the keys, has the longest bucket as its depth
  and answers every probe (`BuiltFrom`);
* `withMask_eq_depthExceeded_iff`: building with a mask fails with `depthExceeded` exactly when a
  bucket is longer than the depth asked for;
* `perfect_keysets_answer`: keysets built either way from distinct raw forms keep every promise of
  `BuiltFrom`, within the depth asked for.
-/

namespace GatherMap.Proofs.PerfectBuild

open GatherMap PerfectKeyset Placement Proofs.Gather Proofs.Runs Proofs.Placement
  Proofs.Duplicates Proofs.Search Proofs.PerfectLookup

/-- What a perfect-hash keyset built from the raw forms `raws` promises: it holds them in some
order, its depth is the longest bucket of its gather, every probe gets its slot without a fault,
and no lookup reads more than `depth` keys. -/
structure BuiltFrom (ks : PerfectKeyset) (raws : List UInt64) : Prop where
  perm : ks.keys.toList.Perm raws
  depth_eq : ks.depth = longestBucket ks.gather raws
  answers : Answers ks
  readsWindow : ∀ raw, ReadsWindow ks raw

/-- The errors of a table that does not fit: too many keys for the offsets, or too many index
bits. -/
def IsSizeError (e : BuildError) : Prop :=
  (∃ len width, e = .offsetOverflow len width) ∨ ∃ weight limit, e = .tableTooLarge weight limit

/-! ### Assembly -/

theorem narrow_eq_ok {offsets : Array Nat} {width : OffsetWidth} {lt : LookupTable}
    (h : LookupTable.narrow offsets width = .ok lt) : lt = { width, offsets } := by
  unfold LookupTable.narrow at h
  split at h
  · cases h
  · exact (Except.ok.inj h).symm

/-- Assembling either fails or stores the placed keys and their bucket starts unchanged. -/
theorem assemble_eq_ok {t : KeyType} {raws : Array UInt64} {g : Gather} {longest : Nat}
    {width : OffsetWidth} {ks : PerfectKeyset} (h : assemble t raws g longest width = .ok ks) :
    ∃ tableLen, g.outputLen? = some tableLen ∧ ks.keyType = t ∧
      ks.keys = (place g raws.toList longest).toArray ∧
      ks.lookup = ⟨width, bucketStarts g ks.keys tableLen⟩ ∧ ks.gather = g ∧ ks.depth = longest := by
  unfold assemble at h
  split at h
  · cases h
  · rename_i tableLen hlen
    dsimp only at h
    cases hn : LookupTable.narrow
        (bucketStarts g (place g raws.toList longest).toArray tableLen) width with
    | error e =>
      rw [hn] at h
      cases h
    | ok lt =>
      rw [hn, narrow_eq_ok hn] at h
      cases h
      exact ⟨tableLen, hlen, rfl, rfl, rfl, rfl, rfl⟩

theorem narrow_eq_error {offsets : Array Nat} {width : OffsetWidth} {e : BuildError}
    (h : LookupTable.narrow offsets width = .error e) : ∃ len bits, e = .offsetOverflow len bits := by
  unfold LookupTable.narrow at h
  split at h
  · exact ⟨_, _, (Except.error.inj h).symm⟩
  · cases h

/-- Assembling fails only on a table that does not fit. -/
theorem assemble_eq_error {t : KeyType} {raws : Array UInt64} {g : Gather} {longest : Nat}
    {width : OffsetWidth} {e : BuildError} (h : assemble t raws g longest width = .error e) :
    IsSizeError e := by
  unfold assemble at h
  split at h
  · exact Or.inr ⟨_, _, (Except.error.inj h).symm⟩
  · dsimp only at h
    cases hn : LookupTable.narrow
        (bucketStarts g (place g raws.toList longest).toArray _) width with
    | error e' =>
      rw [hn] at h
      cases h
      exact Or.inl (narrow_eq_error hn)
    | ok lt =>
      rw [hn] at h
      cases h

/-- **An assembled keyset answers every probe** when its depth is the longest bucket. The table has
an entry for every packed index, no bucket holds more than `depth` keys, and the scan for each key
starts at its bucket's start, so finds it at its own slot. -/
theorem assemble_builtFrom {t : KeyType} {raws : Array UInt64} {w : Width} {mask : UInt64}
    {longest : Nat} {width : OffsetWidth} {ks : PerfectKeyset} (hnodup : raws.toList.Nodup)
    (hlong : longestBucket (Gather.new w mask) raws.toList = longest)
    (h : assemble t raws (Gather.new w mask) longest width = .ok ks) :
    ks.gather = Gather.new w mask ∧ BuiltFrom ks raws.toList := by
  obtain ⟨tableLen, hlen, -, hkeys, hlookup, hgather, hdepth⟩ := assemble_eq_ok h
  have hperm : ks.keys.toList.Perm raws.toList := by
    rw [hkeys, List.toList_toArray]
    exact place_perm _ _ _
  have hcontig : Contiguous (Gather.new w mask).apply ks.keys.toList := by
    rw [hkeys, List.toList_toArray]
    exact place_contiguous _ _ _
  have hnodup' : ks.keys.toList.Nodup := hperm.nodup_iff.mpr hnodup
  have hcover : ∀ raw, ((Gather.new w mask).apply raw).toNat < tableLen := by
    intro raw
    rw [outputLen?_eq_some hlen]
    exact apply_lt_two_pow_weight w mask raw
  have htable : ∀ raw, (ks.gather.apply raw).toNat < ks.lookup.size := by
    intro raw
    rw [hgather, hlookup]
    show _ < (bucketStarts _ _ _).size
    rw [size_bucketStarts]
    exact hcover raw
  have hbucket : ∀ i (hi : i < ks.keys.toList.length),
      (ks.keys.toList.map (Gather.new w mask).apply).count
        ((Gather.new w mask).apply ks.keys.toList[i]) ≤ ks.depth := by
    intro i hi
    rw [hdepth, ← hlong, longestBucket, ← maxCount_eq_of_perm (hperm.map _)]
    exact count_le_maxCount (List.mem_map_of_mem (List.getElem_mem hi))
  have hself : ∀ i (hi : i < ks.keys.size), ks.find ks.keys[i] = .ok i := by
    intro i hi
    have hi' : i < ks.keys.toList.length := by simpa using hi
    obtain ⟨hstart, hend⟩ := within_bucket hcontig hi'
    have hentry := bucketStarts_getElem?_bucketStart (Gather.new w mask) hi' (hcover _)
    have hget : ks.lookup.get (ks.gather.apply ks.keys[i]).toNat =
        .ok (bucketStart (Gather.new w mask).apply ks.keys.toList i hi') := by
      rw [hlookup, hgather]
      exact get_eq_ok_of_getElem? (by simpa using hentry)
    have hscan := scanBucket_getElem hnodup' hi (by simpa using hstart)
      (Nat.lt_of_lt_of_le (by simpa using hend) (Nat.add_le_add_left (hbucket i hi') _))
    rw [find_eq_of_get hget, hscan]
  obtain ⟨-, hanswers⟩ := answers_of_find_self htable hself
  refine ⟨hgather, ⟨hperm, ?_, hanswers, find_readsWindow ks⟩⟩
  rw [hdepth, hgather, hlong]

/-! ### Building with a given mask -/

theorem duplicate?_eq_none_iff (raws : Array UInt64) :
    duplicate? raws = none ↔ raws.toList.Nodup :=
  findDuplicate?_eq_none_iff_nodup ltRaw_strictWeakOrder fun _ _ _ _ => equivalent_ltRaw_iff

theorem withMask_eq_ok {t : KeyType} {raws : Array UInt64} {mask : UInt64} {d : Nat}
    {ks : PerfectKeyset} (h : withMask t raws mask d = .ok ks) :
    raws.toList.Nodup ∧ longestBucket (Gather.new t.width mask) raws.toList ≤ d ∧
      ∃ width, assemble t raws (Gather.new t.width mask)
        (longestBucket (Gather.new t.width mask) raws.toList) width = .ok ks := by
  unfold withMask at h
  split at h
  · cases h
  · split at h
    · cases h
    · rename_i hdup
      dsimp only at h
      rw [longestRun_packedSorted] at h
      split at h
      · cases h
      · rename_i hfits
        split at h
        · cases h
        · rename_i width _
          exact ⟨(duplicate?_eq_none_iff raws).mp hdup, by omega, width, h⟩

/-- **Building with a mask fails with `depthExceeded` exactly when a bucket is too long.** -/
theorem withMask_eq_depthExceeded_iff {t : KeyType} {raws : Array UInt64} {mask : UInt64}
    {d : Nat} (hd : 0 < d) (hnodup : raws.toList.Nodup) (l e : Nat) :
    withMask t raws mask d = .error (.depthExceeded l e) ↔
      d < longestBucket (Gather.new t.width mask) raws.toList ∧
        l = longestBucket (Gather.new t.width mask) raws.toList ∧ e = d := by
  have hdup : duplicate? raws = none := (duplicate?_eq_none_iff raws).mpr hnodup
  unfold withMask
  rw [if_neg (by omega), hdup]
  dsimp only
  rw [longestRun_packedSorted]
  split
  · rename_i hdeep
    simp only [Except.error.injEq, BuildError.depthExceeded.injEq]
    constructor
    · rintro ⟨rfl, rfl⟩
      exact ⟨hdeep, rfl, rfl⟩
    · rintro ⟨-, rfl, rfl⟩
      exact ⟨rfl, rfl⟩
  · rename_i hfits
    constructor
    · intro h
      split at h
      · cases h
      · rcases assemble_eq_error h with ⟨_, _, hsize⟩ | ⟨_, _, hsize⟩ <;> cases hsize
    · rintro ⟨hlt, -, -⟩
      omega

/-- **A keyset built with a mask keeps every promise of `BuiltFrom`, within the depth.** -/
theorem withMask_builtFrom {t : KeyType} {raws : Array UInt64} {mask : UInt64} {d : Nat}
    {ks : PerfectKeyset} (h : withMask t raws mask d = .ok ks) :
    ks.gather = Gather.new t.width mask ∧ ks.depth ≤ d ∧ BuiltFrom ks raws.toList := by
  obtain ⟨hnodup, hle, width, hassemble⟩ := withMask_eq_ok h
  obtain ⟨hgather, hbuilt⟩ := assemble_builtFrom hnodup rfl hassemble
  refine ⟨hgather, ?_, hbuilt⟩
  rw [hbuilt.depth_eq, hgather]
  exact hle

/-! ### Building with a searched mask -/

theorem widthFor_eq_error {b : Builder} {len : Nat} {e : BuildError}
    (h : b.widthFor len = .error e) : ∃ len' bits, e = .offsetOverflow len' bits := by
  unfold Builder.widthFor at h
  split at h
  · split at h
    · cases h
    · exact ⟨_, _, (Except.error.inj h).symm⟩
  · split at h
    · cases h
    · exact ⟨_, _, (Except.error.inj h).symm⟩

theorem buildPerfect_eq_ok {b : Builder} {t : KeyType} {raws : Array UInt64}
    {ks : PerfectKeyset} (h : (b.buildPerfect t raws).value = .ok ks) :
    0 < b.maxDepth ∧ raws.toList.Nodup ∧ ∃ width, assemble t raws
      (Gather.new t.width (searchMask t.width raws b.maxDepth b.minMaskWeight).mask)
      (searchMask t.width raws b.maxDepth b.minMaskWeight).longest width = .ok ks := by
  unfold Builder.buildPerfect at h
  split at h
  · cases h
  · rename_i hpos
    split at h
    · cases h
    · rename_i hdup
      split at h
      · cases h
      · rename_i width _
        dsimp only at h
        split at h
        · cases h
        · exact ⟨by omega, (duplicate?_eq_none_iff raws).mp hdup, width, h⟩

/-- Building fails, in order, on a zero depth, on the first pair of equal keys, or on a table
that does not fit. -/
theorem buildPerfect_eq_error {b : Builder} {t : KeyType} {raws : Array UInt64}
    {e : BuildError} (h : (b.buildPerfect t raws).value = .error e) :
    (b.maxDepth = 0 ∧ e = .zeroDepth) ∨
      (0 < b.maxDepth ∧ ∃ x y, duplicate? raws = some (x, y) ∧ e = .duplicateKey x y) ∨
      (0 < b.maxDepth ∧ duplicate? raws = none ∧ IsSizeError e) := by
  unfold Builder.buildPerfect at h
  split at h
  · rename_i hzero
    exact Or.inl ⟨hzero, (Except.error.inj h).symm⟩
  · rename_i hpos
    split at h
    · rename_i x y hdup
      exact Or.inr (Or.inl ⟨by omega, x, y, hdup, (Except.error.inj h).symm⟩)
    · rename_i hdup
      refine Or.inr (Or.inr ⟨by omega, hdup, ?_⟩)
      split at h
      · rename_i e' hwidth
        cases h
        exact Or.inl (widthFor_eq_error hwidth)
      · dsimp only at h
        split at h
        · exact Or.inr ⟨_, _, (Except.error.inj h).symm⟩
        · exact assemble_eq_error h

theorem buildPerfect_of_maxDepth_eq_zero {b : Builder} (t : KeyType) (raws : Array UInt64)
    (h : b.maxDepth = 0) : (b.buildPerfect t raws).value = .error .zeroDepth := by
  rw [Builder.buildPerfect, if_pos h]

theorem buildPerfect_of_duplicate? {b : Builder} (t : KeyType) {raws : Array UInt64}
    {x y : Nat} (hdepth : 0 < b.maxDepth) (hdup : duplicate? raws = some (x, y)) :
    (b.buildPerfect t raws).value = .error (.duplicateKey x y) := by
  rw [Builder.buildPerfect, if_neg (by omega), hdup]

/-- **A keyset the builder returns keeps every promise of `BuiltFrom`, within its depth.** -/
theorem buildPerfect_builtFrom {b : Builder} {t : KeyType} {raws : Array UInt64}
    (hfit : ∀ raw ∈ raws, Fits t.width raw) {ks : PerfectKeyset}
    (h : (b.buildPerfect t raws).value = .ok ks) :
    ks.gather = Gather.new t.width ks.mask ∧ ks.depth ≤ b.maxDepth ∧ BuiltFrom ks raws.toList := by
  obtain ⟨hdepth, hnodup, width, hassemble⟩ := buildPerfect_eq_ok h
  obtain ⟨hexact, hle⟩ := searchMask_measured b.minMaskWeight hfit hnodup hdepth
  obtain ⟨hgather, hbuilt⟩ := assemble_builtFrom hnodup hexact.symm hassemble
  refine ⟨?_, ?_, hbuilt⟩
  · rw [PerfectKeyset.mask, hgather]
    rfl
  · rw [hbuilt.depth_eq, hgather, ← hexact]
    exact hle

/-! ### Both ways of building -/

/-- **Perfect-hash keysets built from distinct raw forms answer every probe.** A keyset that the
builder returns, or that building with any mask and a positive depth returns, holds the keys in
some order and has the longest bucket of its mask as its depth, within the depth asked for; every
lookup answers without a fault the slot of its key, or the key count, after comparing at most
`depth` keys. Building with a mask fails with `depthExceeded` exactly when some bucket is longer
than the depth. -/
theorem perfect_keysets_answer (b : Builder) (t : KeyType) (raws : Array UInt64)
    (hfit : ∀ raw ∈ raws, Fits t.width raw) (hnodup : raws.toList.Nodup) :
    (0 < b.maxDepth → ∀ ks, (b.buildPerfect t raws).value = .ok ks →
      ks.gather = Gather.new t.width ks.mask ∧ ks.depth ≤ b.maxDepth ∧
        BuiltFrom ks raws.toList) ∧
    ∀ mask d, 0 < d →
      (∀ ks, withMask t raws mask d = .ok ks →
        ks.gather = Gather.new t.width mask ∧ ks.depth ≤ d ∧ BuiltFrom ks raws.toList) ∧
      ∀ l e, withMask t raws mask d = .error (.depthExceeded l e) ↔
        d < longestBucket (Gather.new t.width mask) raws.toList ∧
          l = longestBucket (Gather.new t.width mask) raws.toList ∧ e = d := by
  refine ⟨fun _ ks h => buildPerfect_builtFrom hfit h, fun mask d hd => ?_⟩
  exact ⟨fun ks h => withMask_builtFrom h, withMask_eq_depthExceeded_iff hd hnodup⟩

theorem perfect_keysets_answer_u8 :
    (∀ raw ∈ (#[3, 5, 6, 9, 200] : Array UInt64), Fits KeyType.u8.width raw) ∧
      (#[3, 5, 6, 9, 200] : Array UInt64).toList.Nodup ∧
      ((0 < Builder.default.maxDepth → ∀ ks,
          (Builder.default.buildPerfect .u8 #[3, 5, 6, 9, 200]).value = .ok ks →
          ks.gather = Gather.new KeyType.u8.width ks.mask ∧ ks.depth ≤ Builder.default.maxDepth ∧
            BuiltFrom ks [3, 5, 6, 9, 200]) ∧
        ∀ mask d, 0 < d →
          (∀ ks, withMask .u8 #[3, 5, 6, 9, 200] mask d = .ok ks →
            ks.gather = Gather.new KeyType.u8.width mask ∧ ks.depth ≤ d ∧
              BuiltFrom ks [3, 5, 6, 9, 200]) ∧
          ∀ l e, withMask .u8 #[3, 5, 6, 9, 200] mask d = .error (.depthExceeded l e) ↔
            d < longestBucket (Gather.new KeyType.u8.width mask) [3, 5, 6, 9, 200] ∧
              l = longestBucket (Gather.new KeyType.u8.width mask) [3, 5, 6, 9, 200] ∧ e = d) := by
  have hfit : ∀ raw ∈ (#[3, 5, 6, 9, 200] : Array UInt64), Fits KeyType.u8.width raw := by
    simp [Fits, KeyType.width, Width.bits]
  have hnodup : (#[3, 5, 6, 9, 200] : Array UInt64).toList.Nodup := by simp
  exact ⟨hfit, hnodup, perfect_keysets_answer Builder.default .u8 #[3, 5, 6, 9, 200] hfit hnodup⟩

end GatherMap.Proofs.PerfectBuild
