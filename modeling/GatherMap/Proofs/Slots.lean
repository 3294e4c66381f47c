import Mathlib

/-!
# Slots that answer every probe

A keyset answers a probe with a slot: the position of the probe among the stored keys, or the
key count when it is absent. For a list of keys this answer is `List.idxOf`. Both kinds of keyset
get there the same way, from two local facts about their search:

* it is *sound*: it answers the key count, or a slot that holds the probe;
* it finds every stored key at its own slot.

`answers_of_sound` turns the two into "the search is `idxOf`", and `nodup_of_self` shows that
the second alone makes the keys pairwise distinct.
-/

namespace GatherMap.Proofs.Slots

/-- `slot` answers every probe with the position of `keys` holding it, or with the key count
when no position does. -/
def Answers (keys : List UInt64) (slot : UInt64 → Nat) : Prop :=
  ∀ raw, slot raw = keys.idxOf raw

/-- The answer `r` to the probe `raw` claims nothing false: it is the key count, or a slot that
holds `raw`. -/
def Sound (keys : List UInt64) (raw : UInt64) (r : Nat) : Prop :=
  r = keys.length ∨ ∃ h : r < keys.length, keys[r] = raw

variable {keys : List UInt64} {slot : UInt64 → Nat}

/-- **A search that finds every key at its own slot sees pairwise distinct keys.** -/
theorem nodup_of_self (hself : ∀ i (hi : i < keys.length), slot keys[i] = i) : keys.Nodup := by
  refine List.pairwise_iff_getElem.mpr fun i j hi hj hij heq => ?_
  have hslot : slot keys[i] = slot keys[j] := congrArg slot heq
  rw [hself i hi, hself j hj] at hslot
  omega

/-- **A sound search that finds every key at its own slot is `idxOf`.** -/
theorem answers_of_sound (hsound : ∀ raw, Sound keys raw (slot raw))
    (hself : ∀ i (hi : i < keys.length), slot keys[i] = i) : Answers keys slot := by
  intro raw
  by_cases hmem : raw ∈ keys
  · have hlt : keys.idxOf raw < keys.length := List.idxOf_lt_length_of_mem hmem
    have hget : keys[keys.idxOf raw] = raw := List.getElem_idxOf hlt
    calc slot raw = slot keys[keys.idxOf raw] := by rw [hget]
      _ = keys.idxOf raw := hself _ hlt
  · rw [List.idxOf_eq_length hmem]
    rcases hsound raw with h | ⟨h, hget⟩
    · exact h
    · exact absurd (hget ▸ List.getElem_mem h) hmem

theorem Answers.lt_length_iff (h : Answers keys slot) (raw : UInt64) :
    slot raw < keys.length ↔ raw ∈ keys := by
  rw [h raw]
  exact List.idxOf_lt_length_iff

theorem Answers.eq_length_iff (h : Answers keys slot) (raw : UInt64) :
    slot raw = keys.length ↔ raw ∉ keys := by
  rw [h raw]
  exact List.idxOf_eq_length_iff

theorem Answers.getElem_slot (h : Answers keys slot) {raw : UInt64} (hlt : slot raw < keys.length) :
    keys[slot raw] = raw := by
  simp only [h raw]
  exact List.getElem_idxOf _

end GatherMap.Proofs.Slots
