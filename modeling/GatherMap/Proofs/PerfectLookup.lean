import GatherMap.PerfectKeyset
import GatherMap.Proofs.Slots

/-!
# Lookups in a perfect-hash keyset

`PerfectKeyset.find` reads one lookup-table entry, the start of the probe's bucket, and compares
the probe with the `depth` stored keys from there. This module says what such a lookup does for
any keyset, built or not:

* `find_readsWindow`: a lookup compares the probe with at most `depth` stored keys; the keys
  outside that window can change without changing the answer;
* `scanBucket_sound`: a scan answers the key count or a slot that holds the probe;
* `scanBucket_getElem`: among distinct keys, a scan whose window covers a key's slot finds it;
* `answers_of_find_self`: a keyset whose table has an entry for every packed index and that finds
  each key at its own slot holds distinct keys and answers every probe with its slot (`Answers`).
-/

namespace GatherMap.Proofs.PerfectLookup

open GatherMap PerfectKeyset

/-- Every probe gets, without a fault, the slot that holds it, or the key count. -/
def Answers (ks : PerfectKeyset) : Prop :=
  ∀ raw, ks.find raw = .ok (ks.keys.toList.idxOf raw)

/-- The lookup of `raw` reads at most `depth` stored keys: there is a window of `depth` slots
outside which the keys can be replaced without changing the answer. -/
def ReadsWindow (ks : PerfectKeyset) (raw : UInt64) : Prop :=
  ∃ start, ∀ keys' : Array UInt64, keys'.size = ks.keys.size →
    (∀ j, start ≤ j → j < start + ks.depth → keys'[j]? = ks.keys[j]?) →
      { ks with keys := keys' }.find raw = ks.find raw

/-! ### The lookup table -/

theorem get_eq_ok_of_getElem? {lt : LookupTable} {i offset : Nat}
    (h : lt.offsets[i]? = some offset) : lt.get i = .ok offset := by
  rw [LookupTable.get, h]

theorem get_eq_ok {lt : LookupTable} {i : Nat} (h : i < lt.offsets.size) :
    lt.get i = .ok lt.offsets[i] :=
  get_eq_ok_of_getElem? (Array.getElem?_eq_getElem h)

theorem find_eq_of_get {ks : PerfectKeyset} {raw : UInt64} {start : Nat}
    (h : ks.lookup.get (ks.gather.apply raw).toNat = .ok start) :
    ks.find raw = .ok (scanBucket ks.keys start ks.depth raw) := by
  rw [find, h]
  rfl

theorem find_eq_error_of_get {ks : PerfectKeyset} {raw : UInt64} {e : Fault}
    (h : ks.lookup.get (ks.gather.apply raw).toNat = .error e) : ks.find raw = .error e := by
  rw [find, h]
  rfl

/-! ### Scanning a bucket -/

/-- **A scan claims nothing false**: it answers the key count or a slot holding the probe. -/
theorem scanBucket_sound (keys : Array UInt64) (start depth : Nat) (raw : UInt64) :
    Slots.Sound keys.toList raw (scanBucket keys start depth raw) := by
  unfold scanBucket
  split
  · rename_i offset hfind
    obtain ⟨hlt, hmatch, -⟩ := Array.findIdx?_eq_some_iff_getElem.mp hfind
    have hslot : start + offset < keys.size := by
      rw [Array.size_extract] at hlt
      omega
    refine Or.inr ⟨by simpa using hslot, ?_⟩
    simpa using hmatch
  · exact Or.inl (by simp)

/-- A scan whose window covers the slot of a key finds it there, when the keys are distinct. -/
theorem scanBucket_getElem {keys : Array UInt64} (hnodup : keys.toList.Nodup)
    {start depth i : Nat} (hi : i < keys.size) (hstart : start ≤ i) (hend : i < start + depth) :
    scanBucket keys start depth keys[i] = i := by
  have hinj : ∀ j (hj : j < keys.size), keys[j] = keys[i] → j = i := by
    intro j hj heq
    have heq' : keys.toList[j] = keys.toList[i] := by simpa using heq
    exact (List.getElem_inj hnodup).mp heq'
  have hfind : (keys.extract start (start + depth)).findIdx? (· == keys[i]) = some (i - start) := by
    refine Array.findIdx?_eq_some_iff_getElem.mpr ⟨?_, ?_, ?_⟩
    · rw [Array.size_extract]
      omega
    · simp [Nat.add_sub_cancel' hstart]
    · intro j hj
      have hne : start + j ≠ i := by omega
      simp only [Array.getElem_extract, beq_iff_eq]
      exact fun heq => hne (hinj _ _ heq)
  rw [scanBucket, hfind]
  show start + (i - start) = i
  omega

theorem scanBucket_congr {keys keys' : Array UInt64} {start depth : Nat} (raw : UInt64)
    (hsize : keys'.size = keys.size)
    (hwin : ∀ j, start ≤ j → j < start + depth → keys'[j]? = keys[j]?) :
    scanBucket keys' start depth raw = scanBucket keys start depth raw := by
  have hext : keys'.extract start (start + depth) = keys.extract start (start + depth) := by
    apply Array.ext
    · simp [hsize]
    · intro k hk hk'
      rw [Array.size_extract] at hk hk'
      have hslot := hwin (start + k) (by omega) (by omega)
      rw [Array.getElem?_eq_getElem (by omega), Array.getElem?_eq_getElem (by omega)] at hslot
      simpa using hslot
  rw [scanBucket, scanBucket, hext, hsize]

/-! ### Lookups -/

/-- Replacing the keys of a keyset changes only what its scans read. -/
theorem find_withKeys (ks : PerfectKeyset) (keys' : Array UInt64) (raw : UInt64) :
    { ks with keys := keys' }.find raw =
      ks.lookup.get (ks.gather.apply raw).toNat >>= fun start =>
        pure (scanBucket keys' start ks.depth raw) := rfl

/-- **A lookup reads at most `depth` stored keys.** -/
theorem find_readsWindow (ks : PerfectKeyset) (raw : UInt64) : ReadsWindow ks raw := by
  cases hget : ks.lookup.get (ks.gather.apply raw).toNat with
  | error e =>
    refine ⟨0, fun keys' _ _ => ?_⟩
    rw [find_withKeys, hget, find_eq_error_of_get hget]
    rfl
  | ok start =>
    refine ⟨start, fun keys' hsize hwin => ?_⟩
    rw [find_withKeys, hget, find_eq_of_get hget, ← scanBucket_congr raw hsize hwin]
    rfl

/-- **A keyset whose table has an entry for every packed index and that finds each key at its
own slot holds distinct keys and answers every probe.** -/
theorem answers_of_find_self {ks : PerfectKeyset}
    (htable : ∀ raw, (ks.gather.apply raw).toNat < ks.lookup.size)
    (hself : ∀ i (hi : i < ks.keys.size), ks.find ks.keys[i] = .ok i) :
    ks.keys.toList.Nodup ∧ Answers ks := by
  have hok : ∀ raw, ∃ start, ks.find raw = .ok (scanBucket ks.keys start ks.depth raw) :=
    fun raw => ⟨_, find_eq_of_get (get_eq_ok (htable raw))⟩
  choose start hstart using hok
  let slot raw := scanBucket ks.keys (start raw) ks.depth raw
  have hslot : ∀ i (hi : i < ks.keys.toList.length), slot ks.keys.toList[i] = i := by
    intro i hi
    have hfound := hself i (by simpa using hi)
    rw [hstart] at hfound
    simpa using hfound
  have hanswers : Slots.Answers ks.keys.toList slot :=
    Slots.answers_of_sound (fun raw => scanBucket_sound ks.keys (start raw) ks.depth raw) hslot
  refine ⟨Slots.nodup_of_self hslot, fun raw => ?_⟩
  exact (hstart raw).trans (congrArg Except.ok (hanswers raw))

end GatherMap.Proofs.PerfectLookup
