import GatherMap.Proofs.OffsetWidth
import GatherMap.Proofs.Rebuild

/-!
# Retrying a build that found its table too large

The builder refuses a lookup table of more than `2 ^ maxMaskWeight` entries with `tableTooLarge`,
reporting the weight of the mask its search ended with. The search does not read the limit, so
a retry with a limit of at least that weight runs the same search and assembles the same
keyset. A table of `2 ^ 64` entries has no 64-bit index, though: a 64-bit key set whose mask
keeps all 64 bits is refused again by assembly, with the limit `63`.

* `buildPerfect_eq_tableTooLarge`: a build fails so only after its other checks pass, and reports
  the weight of the searched mask, at most the key width (`popCount_searchMask_le`);
* `buildPerfect_withLimit`: under every limit that the searched mask's weight keeps, the build
  assembles the same keys;
* `separatingMask_of_units`: keys holding `0` and every one-bit key need every bit of the width;
* `retry_at_reported_weight`: retrying at the reported weight or above builds one keyset when
  the weight is below `64`, and fails again when it is `64`;
* `full_mask_retry_refused`: 65 keys of 64 bits whose mask keeps every bit.
-/

namespace GatherMap.Proofs.Retry

open GatherMap PerfectKeyset MaskSearch Proofs.Gather Proofs.PerfectBuild Proofs.MaskChoice
  Proofs.Rebuild Proofs.OffsetWidth

/-- The builder with another table weight limit. -/
abbrev withLimit (b : Builder) (L : Nat) : Builder := { b with maxMaskWeight := L }

/-! ### The searched mask -/

/-- The searched mask keeps no bit outside the width. -/
theorem searchMask_submask (w : Width) (raws : Array UInt64) (maxDepth minWeight : Nat) :
    Submask (searchMask w raws maxDepth minWeight).mask w.allOnes := by
  rw [searchMask_mask]
  exact (narrowLoop_submask _ _ _ (separatingMask_submask w raws)).trans
    (separatingMask_submask w raws)

theorem popCount_searchMask_le (w : Width) (raws : Array UInt64) (maxDepth minWeight : Nat) :
    popCount (searchMask w raws maxDepth minWeight).mask ≤ w.bits :=
  popCount_le_bits (searchMask_submask w raws maxDepth minWeight)

/-- With buckets of one key, the search ends with the mask of phase one. -/
theorem searchMask_of_maxDepth_le_one {w : Width} {raws : Array UInt64} {maxDepth : Nat}
    (minWeight : Nat) (hdepth : maxDepth ≤ 1) :
    (searchMask w raws maxDepth minWeight).mask = separatingMask w raws := by
  rw [searchMask_mask]
  exact narrowLoop_of_maxDepth_le_one _ _ _ _ hdepth

/-! ### Failing for the table -/

/-- **A build fails for the table only after its other checks**, and reports the weight of the
searched mask. -/
theorem buildPerfect_eq_tableTooLarge {b : Builder} {t : KeyType} {raws : Array UInt64}
    {weight limit : Nat} (h : (b.buildPerfect t raws).value = .error (.tableTooLarge weight limit)) :
    0 < b.maxDepth ∧ duplicate? raws = none ∧ (∃ W, b.widthFor raws.size = .ok W) ∧
      weight = popCount (searchMask t.width raws b.maxDepth b.minMaskWeight).mask := by
  unfold Builder.buildPerfect at h
  split at h
  · cases h
  · rename_i hpos
    split at h
    · cases h
    · rename_i hdup
      split at h
      · rename_i e hwidth
        obtain ⟨_, _, rfl⟩ := widthFor_eq_error hwidth
        cases h
      · rename_i W hwidth
        dsimp only at h
        split at h
        · cases h
          exact ⟨by omega, hdup, ⟨W, hwidth⟩, rfl⟩
        · obtain ⟨-, he⟩ := assemble_eq_error_of_holds (holds_of_widthFor hwidth) h
          cases he
          exact ⟨by omega, hdup, ⟨W, hwidth⟩, rfl⟩

/-- **The limit only gates the searched mask**: under every limit its weight keeps, the build
assembles the keys with that mask at the width chosen for the key count. -/
theorem buildPerfect_withLimit {b : Builder} {t : KeyType} {raws : Array UInt64} {W : OffsetWidth}
    (hpos : 0 < b.maxDepth) (hdup : duplicate? raws = none) (hwidth : b.widthFor raws.size = .ok W)
    {L : Nat} (hL : popCount (searchMask t.width raws b.maxDepth b.minMaskWeight).mask ≤ L) :
    ((withLimit b L).buildPerfect t raws).value =
      assemble t raws (Gather.new t.width (searchMask t.width raws b.maxDepth b.minMaskWeight).mask)
        (searchMask t.width raws b.maxDepth b.minMaskWeight).longest W := by
  have hwidth' : (withLimit b L).widthFor raws.size = .ok W := hwidth
  rw [Builder.buildPerfect, if_neg (Nat.pos_iff_ne_zero.mp hpos), hdup]
  dsimp only
  rw [hwidth']
  dsimp only
  rw [if_neg (Nat.not_lt.mpr hL)]

/-- A gather of fewer than 64 bits is assembled at a width that holds the key count. -/
theorem assemble_of_weight_lt {t : KeyType} {raws : Array UInt64} {g : Gather} {W : OffsetWidth}
    (hW : Holds W raws.size) (hg : g.weight < 64) (longest : Nat) :
    ∃ ks, assemble t raws g longest W = .ok ks ∧ ks.gather = g := by
  have hlen : g.outputLen? = some (Nat.pow 2 g.weight) := by
    rw [Gather.outputLen?, if_pos hg]
  rw [assemble, hlen]
  dsimp only
  rw [narrow_bucketStarts g raws longest _ hW]
  exact ⟨_, rfl, rfl⟩

/-- A gather of 64 bits has no table with a 64-bit index. -/
theorem assemble_of_weight_eq {t : KeyType} {raws : Array UInt64} {g : Gather} {W : OffsetWidth}
    (hg : g.weight = 64) (longest : Nat) :
    assemble t raws g longest W = .error (.tableTooLarge 64 63) := by
  have hlen : g.outputLen? = none := (outputLen?_eq_none_iff g).mpr (by omega)
  rw [assemble, hlen, hg]

/-! ### Keys that need every bit -/

theorem apply_eq_of_and_eq (g : Gather) {x y : UInt64} (h : x &&& g.mask = y &&& g.mask) :
    g.apply x = g.apply y := by
  unfold Gather.apply
  rw [h]

theorem one_shiftLeft_and_clearBit (m : UInt64) (b : Nat) :
    ((1 : UInt64) <<< b.toUInt64) &&& clearBit m b = 0 := by
  rw [clearBit, UInt64.and_comm m, ← UInt64.and_assoc, UInt64.and_not_self, UInt64.zero_and]

theorem one_shiftLeft_ne_zero {b : Nat} (hb : b < 64) : (1 : UInt64) <<< b.toUInt64 ≠ 0 := by
  intro h
  have htoNat := congrArg UInt64.toNat h
  rw [toNat_one_shiftLeft hb] at htoNat
  exact (Nat.two_pow_pos b).ne' htoNat

/-- **Keys `0` and `2 ^ b` need bit `b`**: without it they share a packed index, so phase one
keeps the bit. -/
theorem separatingStep_of_units {w : Width} {raws : Array UInt64} (hzero : 0 ∈ raws.toList)
    {b : Nat} (hb : b < 64) (hunit : (1 : UInt64) <<< b.toUInt64 ∈ raws.toList) (mask : UInt64) :
    separatingStep w raws mask b = mask := by
  rw [separatingStep_eq, if_neg]
  intro hnodup
  have hsame : (Gather.new w (clearBit mask b)).apply 0 =
      (Gather.new w (clearBit mask b)).apply ((1 : UInt64) <<< b.toUInt64) :=
    apply_eq_of_and_eq _ (by rw [UInt64.zero_and]; exact (one_shiftLeft_and_clearBit mask b).symm)
  exact one_shiftLeft_ne_zero hb
    (List.inj_on_of_nodup_map hnodup hunit hzero hsame.symm)

/-- **A key set with `0` and every one-bit key of the width needs every bit** of the width. -/
theorem separatingMask_of_units {w : Width} {raws : Array UInt64} (hzero : 0 ∈ raws.toList)
    (hunit : ∀ b < w.bits, (1 : UInt64) <<< b.toUInt64 ∈ raws.toList) :
    separatingMask w raws = w.allOnes := by
  have hfold : ∀ (bits : List Nat), (∀ b ∈ bits, b < w.bits) → ∀ mask,
      bits.foldl (separatingStep w raws) mask = mask := by
    intro bits
    induction bits with
    | nil => intros; rfl
    | cons b bits ih =>
      intro hbits mask
      have hb := hbits b List.mem_cons_self
      rw [List.foldl_cons, separatingStep_of_units hzero (by have := bits_le w; omega) (hunit b hb),
        ih fun b' hb' => hbits b' (List.mem_cons_of_mem _ hb')]
  exact hfold _ (fun b hb => by simpa using hb) _

/-- With buckets of one key, a build whose phase-one mask is over the limit fails for the
table, with that mask's weight. -/
theorem buildPerfect_of_over_limit {b : Builder} {t : KeyType} {raws : Array UInt64}
    {W : OffsetWidth} (hdepth : b.maxDepth = 1) (hdup : duplicate? raws = none)
    (hwidth : b.widthFor raws.size = .ok W)
    (hover : b.maxMaskWeight < popCount (separatingMask t.width raws)) :
    (b.buildPerfect t raws).value =
      .error (.tableTooLarge (popCount (separatingMask t.width raws)) b.maxMaskWeight) := by
  have hmask : (searchMask t.width raws b.maxDepth b.minMaskWeight).mask =
      separatingMask t.width raws :=
    searchMask_of_maxDepth_le_one b.minMaskWeight (Nat.le_of_eq hdepth)
  rw [Builder.buildPerfect, if_neg (by omega), hdup]
  dsimp only
  rw [hwidth]
  dsimp only
  rw [hmask, if_pos hover]

/-! ### Retrying -/

/-- **Retrying at the reported weight.** When building fails with `tableTooLarge weight limit`,
the weight is at most the key width. Below `64` bits, retrying with any limit of at least the
weight builds one and the same keyset, whose mask has exactly that weight. A 64-bit key set whose
mask keeps all `64` bits is refused again under every such limit, with the limit `63` of a 64-bit
table index. -/
theorem retry_at_reported_weight (b : Builder) (t : KeyType) (raws : Array UInt64)
    {weight limit : Nat} (hfail : (b.buildPerfect t raws).value = .error (.tableTooLarge weight limit)) :
    weight ≤ t.width.bits ∧
      (weight < 64 → ∃ ks, popCount ks.mask = weight ∧
        ∀ L, weight ≤ L → ((withLimit b L).buildPerfect t raws).value = .ok ks) ∧
      (weight = 64 → ∀ L, 64 ≤ L →
        ((withLimit b L).buildPerfect t raws).value = .error (.tableTooLarge 64 63)) := by
  obtain ⟨hpos, hdup, ⟨W, hwidth⟩, rfl⟩ := buildPerfect_eq_tableTooLarge hfail
  set mask := (searchMask t.width raws b.maxDepth b.minMaskWeight).mask
  have hweight : (Gather.new t.width mask).weight = popCount mask := rfl
  refine ⟨popCount_searchMask_le _ _ _ _, fun hlt => ?_, fun heq L hL => ?_⟩
  · obtain ⟨ks, hks, hgather⟩ :=
      assemble_of_weight_lt (t := t) (holds_of_widthFor hwidth) (hweight ▸ hlt)
        (searchMask t.width raws b.maxDepth b.minMaskWeight).longest
    refine ⟨ks, by rw [PerfectKeyset.mask, hgather]; rfl, fun L hL => ?_⟩
    rw [buildPerfect_withLimit hpos hdup hwidth hL, hks]
  · rw [buildPerfect_withLimit hpos hdup hwidth (heq ▸ hL), assemble_of_weight_eq (hweight ▸ heq)]

theorem retry_at_reported_weight_u8 :
    let b : Builder := { maxDepth := 1, maxMaskWeight := 4 }
    (b.buildPerfect .u8 #[1, 2, 4, 8, 16, 32, 64, 128, 0]).value = .error (.tableTooLarge 8 4) ∧
      8 ≤ KeyType.u8.width.bits ∧
      (8 < 64 → ∃ ks, popCount ks.mask = 8 ∧ ∀ L, 8 ≤ L →
        ((withLimit b L).buildPerfect .u8 #[1, 2, 4, 8, 16, 32, 64, 128, 0]).value = .ok ks) ∧
      (8 = 64 → ∀ L, 64 ≤ L → ((withLimit b L).buildPerfect .u8
        #[1, 2, 4, 8, 16, 32, 64, 128, 0]).value = .error (.tableTooLarge 64 63)) := by
  intro b
  have hsep : separatingMask KeyType.u8.width #[1, 2, 4, 8, 16, 32, 64, 128, 0] = Width.w8.allOnes :=
    separatingMask_of_units (by decide) (by decide)
  have hfail : (b.buildPerfect .u8 #[1, 2, 4, 8, 16, 32, 64, 128, 0]).value =
      .error (.tableTooLarge 8 4) := by
    rw [buildPerfect_of_over_limit rfl ((duplicate?_eq_none_iff _).mpr (by decide)) rfl
      (by rw [hsep]; decide), hsep]
    rfl
  exact ⟨hfail, retry_at_reported_weight b .u8 _ hfail⟩

/-- **A 64-bit key set whose mask keeps every bit is refused on retry.** The keys `2 ^ i` for
every `i < 64` and `0` need every bit to stay apart, so with buckets of one key the table needs
all 64 index bits: the builder reports the weight `64` against its limit `24`, and a retry with
the limit `64` is refused again by assembly, with the limit `63`. -/
theorem full_mask_retry_refused :
    let raws : Array UInt64 :=
      ((List.range 64).map fun i => (1 : UInt64) <<< i.toUInt64).toArray.push 0
    let b : Builder := { maxDepth := 1 }
    (b.buildPerfect .u64 raws).value = .error (.tableTooLarge 64 24) ∧
      ((withLimit b 64).buildPerfect .u64 raws).value = .error (.tableTooLarge 64 63) := by
  intro raws b
  have hlist : raws.toList = (List.range 64).map (fun i => (1 : UInt64) <<< i.toUInt64) ++ [0] := by
    simp [raws]
  have hnodup : ((List.range 64).map (fun i : Nat => (1 : UInt64) <<< i.toUInt64) ++ [0]).Nodup := by
    decide +kernel
  have hdup : duplicate? raws = none := (duplicate?_eq_none_iff raws).mpr (hlist ▸ hnodup)
  have hsep : separatingMask KeyType.u64.width raws = Width.w64.allOnes := by
    refine separatingMask_of_units (by simp [hlist]) fun i hi => ?_
    rw [hlist]
    exact List.mem_append_left _ (List.mem_map.mpr ⟨i, List.mem_range.mpr hi, rfl⟩)
  have hweight : popCount Width.w64.allOnes = 64 := by decide
  have hwidth : b.widthFor raws.size = .ok .u8 := rfl
  have hmask : (searchMask KeyType.u64.width raws b.maxDepth b.minMaskWeight).mask =
      Width.w64.allOnes := by
    rw [searchMask_of_maxDepth_le_one _ le_rfl, hsep]
  refine ⟨?_, ?_⟩
  · have hover : b.maxMaskWeight < popCount (separatingMask KeyType.u64.width raws) := by
      rw [hsep, hweight]
      decide
    rw [buildPerfect_of_over_limit rfl hdup hwidth hover, hsep, hweight]
  · have hfull : (Gather.new KeyType.u64.width Width.w64.allOnes).weight = 64 := hweight
    rw [buildPerfect_withLimit Nat.one_pos hdup hwidth (by rw [hmask, hweight]), hmask,
      assemble_of_weight_eq hfull]

end GatherMap.Proofs.Retry
