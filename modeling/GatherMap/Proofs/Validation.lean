import GatherMap.Proofs.MapBuild

/-!
# Validated keysets and maps answer every probe

Stored parts are checked when they are loaded, and each check is local: the lookup table has one
offset per packed index and every offset points into the keys, a non-empty keyset has a positive
depth, each key is found at its own slot, each ordered key is after the one before it, and a map
has one value per key. None of them mentions a probe, yet together they make every lookup exact:

* `perfect_validate_answers`: a perfect-hash keyset whose gather is rebuilt from its mask and
  that passes its check holds distinct keys and answers every probe, without a fault, with its
  slot or the key count;
* `ordered_validate_answers`: an ordered keyset that passes its check, in any of the orders,
  holds distinct keys and answers every probe the same way;
* `map_validate_answers`: a map whose keyset is accepted so and that has one value per key gives
  each stored key the value at its slot and every other raw key nothing;
* `validated_keysets_answer`: the three together.
-/

namespace GatherMap.Proofs.Validation

open GatherMap Proofs.Gather Proofs.Duplicates Proofs.PerfectLookup Proofs.Ordered
  Proofs.MapBuild

variable {α : Type}

/-! ### Perfect-hash keysets -/

/-- What a perfect-hash keyset that passes its check satisfies: the check returns it unchanged,
its table has an offset per packed index and each points into the keys, a non-empty keyset has a
positive depth, and each key is found at its own slot. -/
theorem perfect_validate_eq_ok {ks ks' : PerfectKeyset} (h : ks.validate = .ok ks') :
    ks' = ks ∧ ks.gather.outputLen? = some ks.lookup.size ∧
      (∀ o ∈ ks.lookup.offsets, o < max ks.size 1) ∧ (0 < ks.size → 0 < ks.depth) ∧
      ∀ i (hi : i < ks.keys.size), ks.find ks.keys[i] = .ok i := by
  unfold PerfectKeyset.validate at h
  split_ifs at h with hlen hoff hdepth
  dsimp only at h
  split at h
  · cases h
  · rename_i hnone
    cases h
    refine ⟨rfl, by simpa using hlen, fun o ho => ?_, fun hpos => ?_, fun i hi => ?_⟩
    · by_contra hge
      exact hoff (Array.any_eq_true'.mpr ⟨o, ho, by simp only [decide_eq_true_eq]; omega⟩)
    · simp at hdepth
      omega
    · have hmem : (ks.keys[i], i) ∈ ks.keys.toList.zipIdx :=
        List.mem_zipIdx_iff_getElem?.mpr (by simp)
      have hfound := List.find?_eq_none.mp hnone _ hmem
      cases hf : ks.find ks.keys[i] with
      | ok found => simpa [hf] using hfound
      | error e => simp [hf] at hfound

/-- **A perfect-hash keyset whose gather is rebuilt from its mask and that passes its check holds
distinct keys and answers every probe.** The table check is what rules out a fault: the rebuilt
gather packs every probe below `2 ^ weight`, the table's length. -/
theorem perfect_validate_answers {ks ks' : PerfectKeyset}
    (hgather : ks.gather = Gather.new ks.keyType.width ks.mask) (h : ks.validate = .ok ks') :
    ks' = ks ∧ ks.keys.toList.Nodup ∧ Answers ks := by
  obtain ⟨hks, hlen, -, -, hself⟩ := perfect_validate_eq_ok h
  have htable : ∀ raw, (ks.gather.apply raw).toNat < ks.lookup.size := by
    intro raw
    rw [outputLen?_eq_some hlen, hgather]
    exact apply_lt_two_pow_weight _ _ raw
  exact ⟨hks, answers_of_find_self htable hself⟩

/-! ### Ordered keysets -/

/-- An ordered keyset that passes its check is returned unchanged, and each key is less than the
next one in its order. -/
theorem ordered_validate_eq_ok {ks ks' : OrderedKeyset} (h : ks.validate = .ok ks') :
    ks' = ks ∧ ∀ i (hi : i < ks.keys.size) (hnext : i + 1 < ks.keys.size),
      ks.order.less ks.keyType ks.keys[i] ks.keys[i + 1] = true := by
  unfold OrderedKeyset.validate at h
  dsimp only at h
  split at h
  · cases h
  · rename_i hnone
    cases h
    refine ⟨rfl, fun i hi hnext => ?_⟩
    have hmem : ((ks.keys[i], ks.keys[i + 1]), i) ∈
        (ks.keys.toList.zip ks.keys.toList.tail).zipIdx :=
      List.mem_zipIdx_iff_getElem?.mpr (by simp [List.getElem?_zip_eq_some])
    simpa using List.find?_eq_none.mp hnone _ hmem

/-- Keys each less than the next in a strict weak order are sorted strictly. -/
theorem pairwise_of_adjacent {less : UInt64 → UInt64 → Bool} (hless : StrictWeakOrder less)
    {keys : Array UInt64} (hadj : ∀ i (hi : i + 1 < keys.size), less keys[i] keys[i + 1] = true) :
    keys.toList.Pairwise fun a b => less a b = true := by
  have htrans : Trans (fun a b => less a b = true) (fun a b => less a b = true)
      (fun a b => less a b = true) := ⟨hless.trans⟩
  apply List.isChain_iff_pairwise.mp
  exact List.isChain_iff_getElem.mpr fun i hi => by simpa using hadj i (by simpa using hi)

/-- **An ordered keyset that passes its check holds distinct keys and answers every probe**, in
every order: the check leaves the keys strictly sorted, and a strict order repeats no key. -/
theorem ordered_validate_answers {ks ks' : OrderedKeyset} (h : ks.validate = .ok ks') :
    ks' = ks ∧ ks.keys.toList.Nodup ∧ ∀ raw, ks.find raw = ks.keys.toList.idxOf raw := by
  obtain ⟨hks, hadj⟩ := ordered_validate_eq_ok h
  have hless := KeyOrder.strictWeakOrder ks.keyType ks.order
  have hsorted := pairwise_of_adjacent hless fun i hnext => hadj i (by omega) hnext
  refine ⟨hks, hsorted.imp fun {a b} hab heq => ?_, search_answers hless hsorted⟩
  subst heq
  rw [hless.irrefl] at hab
  cases hab

example : OrderedKeyset.validate ⟨.i8, .natural, #[0xFE, 0xFF, 0, 3]⟩ =
    .ok ⟨.i8, .natural, #[0xFE, 0xFF, 0, 3]⟩ := by
  rfl

/-! ### Maps -/

/-- A keyset as loading accepts it: a perfect-hash keyset whose gather is rebuilt from its mask
and that passes its check, or an ordered keyset that passes its check. -/
def Accepted : Keyset → Prop
  | .perfect ks => ks.gather = Gather.new ks.keyType.width ks.mask ∧ ∃ ks', ks.validate = .ok ks'
  | .ordered ks => ∃ ks', ks.validate = .ok ks'

theorem accepted_answers {ks : Keyset} (h : Accepted ks) :
    ks.keys.toList.Nodup ∧ KeysetAnswers ks := by
  cases ks with
  | perfect ks =>
    obtain ⟨hgather, ks', hvalid⟩ := h
    obtain ⟨-, hnodup, hanswers⟩ := perfect_validate_answers hgather hvalid
    exact ⟨hnodup, hanswers⟩
  | ordered ks =>
    obtain ⟨ks', hvalid⟩ := h
    obtain ⟨-, hnodup, hfind⟩ := ordered_validate_answers hvalid
    exact ⟨hnodup, fun raw => congrArg Except.ok (hfind raw)⟩

theorem map_validate_eq_ok {ks : Keyset} {values : Array α} {m : Map α}
    (h : Map.validate ks values = .ok m) : m = { keyset := ks, values } ∧ values.size = ks.size := by
  unfold Map.validate at h
  split_ifs at h with hsize
  cases h
  exact ⟨rfl, hsize.symm⟩

section Answering

variable {ks : Keyset} {values : Array α} (hks : KeysetAnswers ks)
include hks

/-- Over distinct keys that the keyset answers, a stored key reads the value at its slot. -/
theorem get?_getElem_keys (hnodup : ks.keys.toList.Nodup) {i : Nat} (hk : i < ks.keys.size)
    (hv : i < values.size) :
    ({ keyset := ks, values } : Map α).get? ks.keys[i] = .ok (some values[i]) := by
  have hidx : ks.keys.toList.idxOf ks.keys[i] = i := by
    exact hnodup.idxOf_getElem i (by simpa using hk)
  rw [get?_eq_of_keysetAnswers hks, hidx, Array.getElem?_eq_getElem hv]

/-- With one value per key, a raw key that is not stored reads nothing. -/
theorem get?_of_not_mem (hsize : values.size = ks.size) {raw : UInt64}
    (hraw : raw ∉ ks.keys.toList) : ({ keyset := ks, values } : Map α).get? raw = .ok none := by
  have hlen : values.size ≤ ks.keys.toList.idxOf raw := by
    rw [List.idxOf_eq_length hraw, Array.length_toList, hsize, Keyset.size]
  rw [get?_eq_of_keysetAnswers hks, Array.getElem?_eq_none hlen]

end Answering

/-- **A map over an accepted keyset with one value per key answers every probe**: each stored
key gets the value at its slot, and every other raw key gets nothing. -/
theorem map_validate_answers {ks : Keyset} {values : Array α} {m : Map α} (hks : Accepted ks)
    (h : Map.validate ks values = .ok m) :
    m.keyset = ks ∧ m.values = values ∧ values.size = ks.size ∧
      (∀ i (hk : i < ks.keys.size) (hv : i < values.size),
        m.get? ks.keys[i] = .ok (some values[i])) ∧
      ∀ raw, raw ∉ ks.keys.toList → m.get? raw = .ok none := by
  obtain ⟨rfl, hsize⟩ := map_validate_eq_ok h
  obtain ⟨hnodup, hanswers⟩ := accepted_answers hks
  exact ⟨rfl, rfl, hsize, fun i hk hv => get?_getElem_keys hanswers hnodup hk hv,
    fun raw hraw => get?_of_not_mem hanswers hsize hraw⟩

/-- **Validated keysets and maps answer every probe.** A perfect-hash keyset whose gather is
rebuilt from its mask, and an ordered keyset in any order, that pass their checks hold distinct
keys and give every probe, without a fault, its slot or the key count; a map over such a keyset
that passes its check gives each stored key its value and every other raw key nothing. -/
theorem validated_keysets_answer :
    (∀ ks ks' : PerfectKeyset, ks.gather = Gather.new ks.keyType.width ks.mask →
      ks.validate = .ok ks' → ks' = ks ∧ ks.keys.toList.Nodup ∧ Answers ks) ∧
    (∀ ks ks' : OrderedKeyset, ks.validate = .ok ks' →
      ks' = ks ∧ ks.keys.toList.Nodup ∧ ∀ raw, ks.find raw = ks.keys.toList.idxOf raw) ∧
    ∀ {α : Type} (ks : Keyset) (values : Array α) (m : Map α), Accepted ks →
      Map.validate ks values = .ok m →
        m.keyset = ks ∧ m.values = values ∧ values.size = ks.size ∧
        (∀ i (hk : i < ks.keys.size) (hv : i < values.size),
          m.get? ks.keys[i] = .ok (some values[i])) ∧
        ∀ raw, raw ∉ ks.keys.toList → m.get? raw = .ok none :=
  ⟨fun _ _ => perfect_validate_answers, fun _ _ => ordered_validate_answers,
    fun _ _ _ => map_validate_answers⟩

end GatherMap.Proofs.Validation
