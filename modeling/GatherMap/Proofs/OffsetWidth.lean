import GatherMap.Proofs.Reload

/-!
# Offset widths follow the key count

A perfect-hash keyset stores its bucket starts at a fixed offset width. Building decides the
width from the key count alone, before the mask search: the forced width if it holds the count,
else the narrowest one that does. Storing the starts at that width (`LookupTable.narrow`) checks
every offset again, but that second check never fails, since every bucket start is a slot.

* `forLen?_eq_some_iff`: `OffsetWidth.forLen?` gives the narrowest width that holds a count;
* `narrow_bucketStarts`: the bucket starts of placed keys are stored at every width that holds
  the key count;
* `buildPerfect_eq_offsetOverflow_iff`, `withMask_eq_offsetOverflow_iff`: building fails for
  the offsets exactly when the count does not fit the chosen width;
* `offsets_overflow_only_by_key_count`: both ways of building, with the width of the keysets
  they return and the bound on every stored offset.
-/

namespace GatherMap.Proofs.OffsetWidth

open GatherMap PerfectKeyset Placement Proofs.Runs Proofs.Placement Proofs.PerfectBuild
  Proofs.Reload

/-- The width holds slot numbers up to `n`: its largest value is at least `n`. -/
def Holds (W : OffsetWidth) (n : Nat) : Prop := n ≤ 2 ^ W.bits - 1

/-- `W` is the narrowest width that holds slot numbers up to `n`. -/
def NarrowestFor (n : Nat) (W : OffsetWidth) : Prop :=
  Holds W n ∧ ∀ W', Holds W' n → W.bits ≤ W'.bits

/-! ### Choosing a width -/

theorem forall_offsetWidth {P : OffsetWidth → Prop} : (∀ W, P W) ↔ P .u8 ∧ P .u16 ∧ P .u32 :=
  ⟨fun h => ⟨h _, h _, h _⟩, fun ⟨h8, h16, h32⟩ W => by cases W <;> assumption⟩

/-- **The width for a count is the narrowest one that holds it.** -/
theorem forLen?_eq_some_iff {n : Nat} {W : OffsetWidth} :
    OffsetWidth.forLen? n = some W ↔ NarrowestFor n W := by
  simp only [OffsetWidth.forLen?, NarrowestFor, Holds, forall_offsetWidth, Nat.pow_eq]
  cases W <;> split_ifs <;> simp [OffsetWidth.bits] <;> omega

/-- The widest width holds every count that some width holds. -/
theorem holds_u32_of_holds {W : OffsetWidth} {n : Nat} (h : Holds W n) : Holds .u32 n := by
  cases W <;> simp_all [Holds, OffsetWidth.bits] <;> omega

theorem forLen?_eq_none_iff {n : Nat} : OffsetWidth.forLen? n = none ↔ ¬ Holds .u32 n := by
  simp only [OffsetWidth.forLen?, Holds, Nat.pow_eq, OffsetWidth.bits]
  split_ifs <;> simp <;> omega

theorem fits_iff {W : OffsetWidth} {n : Nat} : W.fits n = true ↔ Holds W n := by
  simp only [OffsetWidth.fits, OffsetWidth.forLen?, Holds, Nat.pow_eq]
  cases W <;> split_ifs <;> simp [OffsetWidth.bits] <;> omega

theorem widthFor_eq_ok {b : Builder} {n : Nat} {W : OffsetWidth} (h : b.widthFor n = .ok W) :
    b.offsetWidth = some W ∨ (b.offsetWidth = none ∧ NarrowestFor n W) := by
  unfold Builder.widthFor at h
  split at h
  · rename_i W' hforced
    split at h
    · cases h
      exact Or.inl hforced
    · cases h
  · rename_i hnone
    split at h
    · rename_i hfor
      cases h
      exact Or.inr ⟨hnone, forLen?_eq_some_iff.mp hfor⟩
    · cases h

theorem holds_of_widthFor {b : Builder} {n : Nat} {W : OffsetWidth} (h : b.widthFor n = .ok W) :
    Holds W n := by
  rcases widthFor_eq_ok h with hforced | ⟨-, hW, -⟩
  · unfold Builder.widthFor at h
    rw [hforced] at h
    dsimp only at h
    split at h
    · rename_i hfits
      cases h
      exact fits_iff.mp hfits
    · cases h
  · exact hW

/-- The width choice fails exactly when the forced width, or without one the widest, does not
hold the count; it names the count and that width's bits. -/
theorem widthFor_eq_offsetOverflow_iff {b : Builder} {n l bits : Nat} :
    b.widthFor n = .error (.offsetOverflow l bits) ↔ l = n ∧
      ((∃ W, b.offsetWidth = some W ∧ ¬ Holds W n ∧ bits = W.bits) ∨
        (b.offsetWidth = none ∧ ¬ Holds .u32 n ∧ bits = 32)) := by
  unfold Builder.widthFor
  cases hforced : b.offsetWidth with
  | some W =>
    have hfits := (fits_iff (W := W) (n := n)).not
    by_cases hW : Holds W n
    · simp [(fits_iff (W := W) (n := n)).mpr hW, hW]
    · simp only [Bool.not_eq_true] at hfits
      simp [hfits.mpr hW, hW, eq_comm]
  | none =>
    dsimp only
    split
    · rename_i W hfor
      simp [holds_u32_of_holds (forLen?_eq_some_iff.mp hfor).1]
    · rename_i hfor
      simp [forLen?_eq_none_iff.mp hfor, eq_comm]

/-! ### Storing the bucket starts -/

theorem narrow_of_lt {offsets : Array Nat} {W : OffsetWidth}
    (h : ∀ o ∈ offsets, o < 2 ^ W.bits) : LookupTable.narrow offsets W = .ok ⟨W, offsets⟩ := by
  have hnone : offsets.find? (fun o => decide (o ≥ Nat.pow 2 W.bits)) = none := by
    rw [Array.find?_eq_none]
    intro o ho
    simpa [Nat.pow_eq] using h o ho
  rw [LookupTable.narrow, hnone]

/-- Every bucket start of placed keys is a slot, or `0`, so it is below every bound that holds
the key count. -/
theorem bucketStarts_place_lt (g : Gather) (raws : Array UInt64) (longest tableLen : Nat) :
    ∀ o ∈ bucketStarts g (place g raws.toList longest).toArray tableLen, o < max raws.size 1 := by
  intro o ho
  have := bucketStarts_lt g _ tableLen o ho
  simpa [length_place] using this

theorem lt_two_pow_of_holds {W : OffsetWidth} {n o : Nat} (hW : Holds W n) (ho : o < max n 1) :
    o < 2 ^ W.bits := by
  have hpos : 0 < 2 ^ W.bits := Nat.two_pow_pos _
  unfold Holds at hW
  omega

/-- **Storing the bucket starts never overflows a width that holds the key count.** -/
theorem narrow_bucketStarts (g : Gather) (raws : Array UInt64) (longest tableLen : Nat)
    {W : OffsetWidth} (hW : Holds W raws.size) :
    LookupTable.narrow (bucketStarts g (place g raws.toList longest).toArray tableLen) W =
      .ok ⟨W, bucketStarts g (place g raws.toList longest).toArray tableLen⟩ :=
  narrow_of_lt fun o ho => lt_two_pow_of_holds hW (bucketStarts_place_lt g raws longest tableLen o ho)

theorem outputLen?_eq_none_iff (g : Gather) : g.outputLen? = none ↔ 64 ≤ g.weight := by
  unfold Gather.outputLen?
  split <;> simp <;> omega

/-- At a width that holds the key count, assembling can only find the table too large: a gather
of all 64 bits. -/
theorem assemble_eq_error_of_holds {t : KeyType} {raws : Array UInt64} {g : Gather}
    {longest : Nat} {W : OffsetWidth} {e : BuildError} (hW : Holds W raws.size)
    (h : assemble t raws g longest W = .error e) : 64 ≤ g.weight ∧ e = .tableTooLarge g.weight 63 := by
  unfold assemble at h
  split at h
  · rename_i hnone
    exact ⟨(outputLen?_eq_none_iff g).mp hnone, (Except.error.inj h).symm⟩
  · dsimp only at h
    rw [narrow_bucketStarts g raws longest _ hW] at h
    cases h

/-- The offsets of an assembled keyset are below the key count (below one when there is none)
and fit its width. -/
theorem assemble_offsets {t : KeyType} {raws : Array UInt64} {g : Gather} {longest : Nat}
    {W : OffsetWidth} {ks : PerfectKeyset} (hW : Holds W raws.size)
    (h : assemble t raws g longest W = .ok ks) :
    ks.lookup.width = W ∧ ∀ o ∈ ks.lookup.offsets, o < max raws.size 1 ∧ o < 2 ^ W.bits := by
  obtain ⟨tableLen, -, -, hkeys, hlookup, -, -⟩ := assemble_eq_ok h
  rw [hlookup, hkeys]
  refine ⟨rfl, fun o ho => ?_⟩
  have hlt := bucketStarts_place_lt g raws longest tableLen o ho
  exact ⟨hlt, lt_two_pow_of_holds hW hlt⟩

/-! ### Building with a searched mask -/

theorem buildPerfect_eq_ok_width {b : Builder} {t : KeyType} {raws : Array UInt64}
    {ks : PerfectKeyset} (h : (b.buildPerfect t raws).value = .ok ks) :
    ∃ W, b.widthFor raws.size = .ok W ∧ assemble t raws
      (Gather.new t.width (searchMask t.width raws b.maxDepth b.minMaskWeight).mask)
      (searchMask t.width raws b.maxDepth b.minMaskWeight).longest W = .ok ks := by
  unfold Builder.buildPerfect at h
  split at h
  · cases h
  · split at h
    · cases h
    · split at h
      · cases h
      · rename_i W hW
        dsimp only at h
        split at h
        · cases h
        · exact ⟨W, hW, h⟩

/-- **The builder fails for the offsets exactly when its width choice does**, once the depth is
positive and the keys are distinct. -/
theorem buildPerfect_eq_offsetOverflow_iff {b : Builder} {t : KeyType} {raws : Array UInt64}
    (hdepth : 0 < b.maxDepth) (hnodup : raws.toList.Nodup) {l bits : Nat} :
    (b.buildPerfect t raws).value = .error (.offsetOverflow l bits) ↔
      b.widthFor raws.size = .error (.offsetOverflow l bits) := by
  rw [Builder.buildPerfect, if_neg (by omega), (duplicate?_eq_none_iff raws).mpr hnodup]
  dsimp only
  cases hwidth : b.widthFor raws.size with
  | error e => simp
  | ok W =>
    simp only [reduceCtorEq, iff_false]
    split
    · simp
    · intro h
      obtain ⟨-, he⟩ := assemble_eq_error_of_holds (holds_of_widthFor hwidth) h
      cases he

/-! ### Building with a given mask -/

theorem withMask_eq_ok_width {t : KeyType} {raws : Array UInt64} {mask : UInt64} {d : Nat}
    {ks : PerfectKeyset} (h : withMask t raws mask d = .ok ks) :
    ∃ W, OffsetWidth.forLen? raws.size = some W ∧ ∃ longest,
      assemble t raws (Gather.new t.width mask) longest W = .ok ks := by
  unfold withMask at h
  split at h
  · cases h
  · split at h
    · cases h
    · dsimp only at h
      split at h
      · cases h
      · split at h
        · cases h
        · rename_i W hW
          exact ⟨W, hW, _, h⟩

/-- **Building with a mask fails for the offsets exactly when no width holds the key count**,
after its checks of the depth and the buckets. -/
theorem withMask_eq_offsetOverflow_iff {t : KeyType} {raws : Array UInt64} {mask : UInt64}
    {d : Nat} (hnodup : raws.toList.Nodup) {l bits : Nat} :
    withMask t raws mask d = .error (.offsetOverflow l bits) ↔
      0 < d ∧ longestBucket (Gather.new t.width mask) raws.toList ≤ d ∧
        ¬ Holds .u32 raws.size ∧ l = raws.size ∧ bits = 32 := by
  unfold withMask
  by_cases hd : d = 0
  · simp [hd]
  rw [if_neg hd, (duplicate?_eq_none_iff raws).mpr hnodup]
  dsimp only
  rw [longestRun_packedSorted]
  split
  · rename_i hdeep
    simp only [Except.error.injEq, reduceCtorEq, false_iff]
    rintro ⟨-, hle, -⟩
    omega
  · rename_i hshallow
    split
    · rename_i hfor
      simp only [Except.error.injEq, BuildError.offsetOverflow.injEq]
      have hnot := forLen?_eq_none_iff.mp hfor
      constructor
      · rintro ⟨rfl, rfl⟩
        exact ⟨by omega, by omega, hnot, rfl, rfl⟩
      · rintro ⟨-, -, -, rfl, rfl⟩
        exact ⟨rfl, rfl⟩
    · rename_i W hfor
      have hW := (forLen?_eq_some_iff.mp hfor).1
      refine ⟨fun h => ?_, fun h => absurd (holds_u32_of_holds hW) h.2.2.1⟩
      obtain ⟨-, he⟩ := assemble_eq_error_of_holds hW h
      cases he

/-! ### Both ways of building -/

/-- How the offsets of keysets built from `raws` follow the key count `n`: the builder fails for
them exactly when a forced width's largest value, or without a forced width the 32-bit one, is
below `n`, naming `n` and that width's bits; a keyset it returns has the forced width or else
the narrowest one that holds `n`. Building with a mask fails for them only when `n` exceeds the
32-bit offsets, after its own checks, and uses the narrowest width. Every stored offset is below
`max n 1` and fits its width, because the bucket starts of placed keys are stored without
overflow at every width that holds `n`. -/
structure WidthFollowsCount (b : Builder) (t : KeyType) (raws : Array UInt64) : Prop where
  build_overflow_iff : ∀ l bits,
    (b.buildPerfect t raws).value = .error (.offsetOverflow l bits) ↔ l = raws.size ∧
      ((∃ W, b.offsetWidth = some W ∧ 2 ^ W.bits - 1 < raws.size ∧ bits = W.bits) ∨
        (b.offsetWidth = none ∧ 2 ^ 32 - 1 < raws.size ∧ bits = 32))
  build_ok : ∀ ks, (b.buildPerfect t raws).value = .ok ks →
    (b.offsetWidth = some ks.lookup.width ∨
      (b.offsetWidth = none ∧ NarrowestFor raws.size ks.lookup.width)) ∧
    ∀ o ∈ ks.lookup.offsets, o < max raws.size 1 ∧ o < 2 ^ ks.lookup.width.bits
  withMask_overflow_iff : ∀ mask d l bits,
    withMask t raws mask d = .error (.offsetOverflow l bits) ↔
      0 < d ∧ longestBucket (Gather.new t.width mask) raws.toList ≤ d ∧
        2 ^ 32 - 1 < raws.size ∧ l = raws.size ∧ bits = 32
  withMask_ok : ∀ mask d ks, withMask t raws mask d = .ok ks →
    NarrowestFor raws.size ks.lookup.width ∧
      ∀ o ∈ ks.lookup.offsets, o < max raws.size 1 ∧ o < 2 ^ ks.lookup.width.bits
  narrow_ok : ∀ g longest tableLen W, Holds W raws.size →
    LookupTable.narrow (bucketStarts g (place g raws.toList longest).toArray tableLen) W =
      .ok ⟨W, bucketStarts g (place g raws.toList longest).toArray tableLen⟩

/-- **Offsets overflow only by the key count**, for distinct raw forms and a positive depth. -/
theorem offsets_overflow_only_by_key_count (b : Builder) (t : KeyType) (raws : Array UInt64)
    (hdepth : 0 < b.maxDepth) (hnodup : raws.toList.Nodup) : WidthFollowsCount b t raws where
  build_overflow_iff l bits := by
    rw [buildPerfect_eq_offsetOverflow_iff hdepth hnodup, widthFor_eq_offsetOverflow_iff]
    simp only [Holds, not_le, OffsetWidth.bits]
  build_ok ks h := by
    obtain ⟨W, hwidth, hassemble⟩ := buildPerfect_eq_ok_width h
    obtain ⟨rfl, hoffsets⟩ := assemble_offsets (holds_of_widthFor hwidth) hassemble
    exact ⟨widthFor_eq_ok hwidth, hoffsets⟩
  withMask_overflow_iff mask d l bits := by
    rw [withMask_eq_offsetOverflow_iff hnodup]
    simp only [Holds, not_le, OffsetWidth.bits]
  withMask_ok mask d ks h := by
    obtain ⟨W, hfor, _, hassemble⟩ := withMask_eq_ok_width h
    have hnarrow := forLen?_eq_some_iff.mp hfor
    obtain ⟨rfl, hoffsets⟩ := assemble_offsets hnarrow.1 hassemble
    exact ⟨hnarrow, hoffsets⟩
  narrow_ok g longest tableLen W hW := narrow_bucketStarts g raws longest tableLen hW

theorem offsets_overflow_only_by_key_count_u8 :
    0 < Builder.default.maxDepth ∧ (#[1, 2, 3] : Array UInt64).toList.Nodup ∧
      WidthFollowsCount Builder.default .u8 #[1, 2, 3] :=
  ⟨by decide, by decide,
    offsets_overflow_only_by_key_count Builder.default .u8 #[1, 2, 3] (by decide) (by decide)⟩

end GatherMap.Proofs.OffsetWidth
