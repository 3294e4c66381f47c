import GatherMap.Proofs.Layout
import GatherMap.Proofs.MaskChoice

/-!
# Rebuilding a keyset from its mask and depth

A built keyset is stored with its mask and its depth, and `PerfectKeyset.withMask` builds a
keyset from keys, a mask and a depth. Given the mask and the depth of a keyset that the builder
returned with offsets at the narrowest width, it returns that same keyset again, from the keys
it was built from and from the keyset's own keys in slot order alike, as soon as there is one
key. An empty keyset has depth `0`, which `withMask` refuses.

* `eq_of_sorted_of_filter_eq`: keys sorted by packed index are determined by their buckets;
* `place_place`: placing placed keys again through the same longest bucket changes nothing;
* `withMask_eq_assemble`: once its checks pass, `withMask` assembles the keys through their
  longest bucket at the narrowest width;
* `rebuilding_reproduces_nonempty_keysets`: a built keyset is rebuilt exactly, and the empty one
  is refused (`empty_keyset_refused_on_rebuild`).
-/

namespace GatherMap.Proofs.Rebuild

open GatherMap PerfectKeyset Placement MaskSearch Proofs.Gather Proofs.Runs Proofs.Placement
  Proofs.PerfectBuild Proofs.Search Proofs.Layout Proofs.MaskChoice

variable {g : Gather}

/-! ### Placing twice -/

theorem mem_of_filter_eq {A B : List UInt64}
    (hfilter : ∀ q, A.filter (g.apply · == q) = B.filter (g.apply · == q)) {x : UInt64}
    (hx : x ∈ A) : x ∈ B := by
  have hxA : x ∈ A.filter (g.apply · == g.apply x) :=
    List.mem_filter.mpr ⟨hx, beq_self_eq_true _⟩
  rw [hfilter] at hxA
  exact (List.mem_filter.mp hxA).1

/-- **Keys sorted by packed index are determined by their buckets**: two such lists that hold the
same keys in the same order in every bucket are equal. Each head is in the other list, where nothing
comes before the head's bucket, so both heads open one bucket, whose order makes them equal. -/
theorem eq_of_sorted_of_filter_eq {A B : List UInt64}
    (hA : A.Pairwise fun a b => g.apply a ≤ g.apply b)
    (hB : B.Pairwise fun a b => g.apply a ≤ g.apply b)
    (hfilter : ∀ q, A.filter (g.apply · == q) = B.filter (g.apply · == q)) : A = B := by
  induction A generalizing B with
  | nil =>
    cases B with
    | nil => rfl
    | cons b B =>
      have hb := mem_of_filter_eq (fun q => (hfilter q).symm) (List.mem_cons_self : b ∈ b :: B)
      simp at hb
  | cons a A ih =>
    cases B with
    | nil =>
      have ha := mem_of_filter_eq hfilter (List.mem_cons_self : a ∈ a :: A)
      simp at ha
    | cons b B =>
      have hab : g.apply a ≤ g.apply b := by
        rcases List.mem_cons.mp (mem_of_filter_eq (fun q => (hfilter q).symm)
          (List.mem_cons_self : b ∈ b :: B)) with rfl | hb
        · exact UInt64.le_refl _
        · exact List.rel_of_pairwise_cons hA hb
      have hba : g.apply b ≤ g.apply a := by
        rcases List.mem_cons.mp (mem_of_filter_eq hfilter (List.mem_cons_self : a ∈ a :: A))
          with rfl | ha
        · exact UInt64.le_refl _
        · exact List.rel_of_pairwise_cons hB ha
      have hsame : g.apply b = g.apply a := UInt64.le_antisymm hba hab
      have hhead := hfilter (g.apply a)
      rw [List.filter_cons_of_pos (by simp), List.filter_cons_of_pos (by simp [hsame])] at hhead
      obtain ⟨rfl, htail⟩ := List.cons.inj hhead
      refine congrArg (a :: ·) (ih hA.of_cons hB.of_cons fun q => ?_)
      by_cases hq : g.apply a = q
      · subst hq
        exact htail
      · have hrest := hfilter q
        rwa [List.filter_cons_of_neg (by simpa using hq),
          List.filter_cons_of_neg (by simpa using hq)] at hrest

/-- A stable sort by packed index is the only one. -/
theorem StableSorted.unique {raws A B : List UInt64} (hA : StableSorted g raws A)
    (hB : StableSorted g raws B) : A = B :=
  eq_of_sorted_of_filter_eq hA.1 hB.1 fun q => (hA.2 q).trans (hB.2 q).symm

/-- **Placing placed keys again changes nothing**, through the same longest bucket. The rotation
kept every bucket in input order, so sorting the placed keys gives back the sorted keys, and the
rotation point is found again. -/
theorem place_place (g : Gather) (raws : List UInt64) :
    place g (place g raws (longestBucket g raws)) (longestBucket g raws) =
      place g raws (longestBucket g raws) := by
  have hresort : StableSorted g raws ((place g raws (longestBucket g raws)).mergeSort
      fun a b => decide (g.apply a ≤ g.apply b)) :=
    ⟨sorted_place g _, fun q => by rw [filter_mergeSort, filter_place_longest]⟩
  have hsorted := StableSorted.unique hresort (stableSorted_mergeSort g raws)
  rw [place, hsorted]
  rfl

theorem assemble_place (t : KeyType) (raws : Array UInt64) (g : Gather) (width : OffsetWidth) :
    assemble t (place g raws.toList (longestBucket g raws.toList)).toArray g
        (longestBucket g raws.toList) width =
      assemble t raws g (longestBucket g raws.toList) width := by
  simp only [assemble, place_place]

/-! ### Building with a mask -/

/-- **Once its checks pass, `withMask` assembles the keys through their longest bucket** at the
narrowest offset width. -/
theorem withMask_eq_assemble {t : KeyType} {raws : Array UInt64} {mask : UInt64} {d : Nat}
    {width : OffsetWidth} (hd : 0 < d) (hnodup : raws.toList.Nodup)
    (hlong : longestBucket (Gather.new t.width mask) raws.toList ≤ d)
    (hwidth : OffsetWidth.forLen? raws.size = some width) :
    withMask t raws mask d = assemble t raws (Gather.new t.width mask)
      (longestBucket (Gather.new t.width mask) raws.toList) width := by
  rw [withMask, if_neg (by omega), (duplicate?_eq_none_iff raws).mpr hnodup]
  dsimp only
  rw [longestRun_packedSorted, if_neg (by omega), hwidth]

theorem forLen?_of_widthFor {b : Builder} {len : Nat} {width : OffsetWidth}
    (hwidth : b.offsetWidth = none) (h : b.widthFor len = .ok width) :
    OffsetWidth.forLen? len = some width := by
  unfold Builder.widthFor at h
  rw [hwidth] at h
  dsimp only at h
  split at h
  · rename_i w hw
    cases h
    exact hw
  · cases h

/-- Without a fixed offset width the builder assembles the keys at the narrowest width. -/
theorem buildPerfect_eq_ok_narrowest {b : Builder} {t : KeyType} {raws : Array UInt64}
    {ks : PerfectKeyset} (hwidth : b.offsetWidth = none)
    (h : (b.buildPerfect t raws).value = .ok ks) :
    ∃ width, OffsetWidth.forLen? raws.size = some width ∧ assemble t raws
      (Gather.new t.width (searchMask t.width raws b.maxDepth b.minMaskWeight).mask)
      (searchMask t.width raws b.maxDepth b.minMaskWeight).longest width = .ok ks := by
  unfold Builder.buildPerfect at h
  split at h
  · cases h
  · split at h
    · cases h
    · split at h
      · cases h
      · rename_i width hfor
        dsimp only at h
        split at h
        · cases h
        · exact ⟨width, forLen?_of_widthFor hwidth hfor, h⟩

/-! ### Builds that keep the mask of phase one -/

/-- Phase one's step keeps a bit clear exactly when the packed indices stay distinct. -/
theorem separatingStep_eq (w : Width) (raws : Array UInt64) (mask : UInt64) (bit : Nat) :
    separatingStep w raws mask bit =
      if (raws.toList.map (Gather.new w (clearBit mask bit)).apply).Nodup then clearBit mask bit
      else mask := by
  rw [separatingStep]
  simp only [beq_iff_eq, countDuplicates_packedSorted_eq_zero_iff]

/-- A mask of phase one with at most `minWeight` bits is where the search stops. -/
theorem searchMask_of_narrow (maxDepth : Nat) {w : Width} {raws : Array UInt64} {minWeight : Nat}
    (hnarrow : popCount (separatingMask w raws) ≤ minWeight) :
    (searchMask w raws maxDepth minWeight).mask = separatingMask w raws ∧
      (searchMask w raws maxDepth minWeight).longest = if raws.isEmpty then 0 else 1 := by
  rcases narrowLoop_succ w raws maxDepth minWeight w.bits (separatingMask w raws)
    (if raws.isEmpty then 0 else 1)
    [.collisionFree (separatingMask w raws) raws.size (popCount (separatingMask w raws))] with
    ⟨-, hmask, hlong⟩ | ⟨-, hweight, -⟩
  · exact ⟨hmask, hlong⟩
  · omega

/-- **A builder keeps a narrow mask of phase one**: where that mask has at most `minMaskWeight`
bits, the keys are assembled with it, in buckets of one key. -/
theorem buildPerfect_of_narrow {b : Builder} {t : KeyType} {raws : Array UInt64}
    {width : OffsetWidth} (hpos : 0 < b.maxDepth) (hnodup : raws.toList.Nodup)
    (hwidth : b.widthFor raws.size = .ok width)
    (hnarrow : popCount (separatingMask t.width raws) ≤ b.minMaskWeight)
    (hweight : popCount (separatingMask t.width raws) ≤ b.maxMaskWeight) :
    (b.buildPerfect t raws).value = assemble t raws
      (Gather.new t.width (separatingMask t.width raws)) (if raws.isEmpty then 0 else 1) width := by
  obtain ⟨hmask, hlong⟩ := searchMask_of_narrow b.maxDepth hnarrow
  rw [Builder.buildPerfect, if_neg (by omega), (duplicate?_eq_none_iff raws).mpr hnodup]
  dsimp only
  rw [hwidth]
  dsimp only
  rw [hmask, hlong, if_neg (by omega)]

/-! ### Rebuilding -/

/-- **A built keyset is rebuilt exactly from its mask and depth, unless it is empty.** For keys
of a type, and a builder without a fixed offset width, `withMask` given the mask and the depth
of the keyset the builder returned gives back that keyset (its keys in the same slots, its lookup
table and offset width, its mask and its depth), from the keys it was built from and from its own
keys in slot order. An empty keyset has depth `0`, and both calls fail with `zeroDepth`. -/
theorem rebuilding_reproduces_nonempty_keysets (b : Builder) (t : KeyType) (raws : Array UInt64)
    (hfit : ∀ raw ∈ raws, Fits t.width raw) (hwidth : b.offsetWidth = none) {ks : PerfectKeyset}
    (hbuilt : (b.buildPerfect t raws).value = .ok ks) :
    withMask t raws ks.mask ks.depth =
        (if raws.size = 0 then .error .zeroDepth else .ok ks) ∧
      withMask t ks.keys ks.mask ks.depth =
        (if raws.size = 0 then .error .zeroDepth else .ok ks) := by
  obtain ⟨hpos, hnodup, -⟩ := buildPerfect_eq_ok hbuilt
  obtain ⟨width, hfor, hassemble⟩ := buildPerfect_eq_ok_narrowest hwidth hbuilt
  obtain ⟨hexact, -⟩ := searchMask_measured b.minMaskWeight hfit hnodup hpos
  set choice := searchMask t.width raws b.maxDepth b.minMaskWeight
  set g := Gather.new t.width choice.mask
  obtain ⟨-, -, -, hkeys, -, hgather, hdepth⟩ := assemble_eq_ok hassemble
  have hmask : ks.mask = choice.mask := by
    rw [PerfectKeyset.mask, hgather]
    rfl
  rw [hmask, hdepth, hexact]
  split
  · rename_i hempty
    have hzero : longestBucket g raws.toList = 0 :=
      (longestBucket_eq_zero_iff g _).mpr (by simpa using hempty)
    rw [hzero]
    exact ⟨by rw [withMask, if_pos rfl], by rw [withMask, if_pos rfl]⟩
  · rename_i hne
    have hlong : 0 < longestBucket g raws.toList :=
      Nat.pos_of_ne_zero fun hzero => hne (by simpa using (longestBucket_eq_zero_iff g _).mp hzero)
    have hperm : ks.keys.toList.Perm raws.toList := by
      rw [hkeys, List.toList_toArray]
      exact place_perm g _ _
    have hbucket : longestBucket g ks.keys.toList = longestBucket g raws.toList :=
      maxCount_eq_of_perm (hperm.map g.apply)
    have hsize : ks.keys.size = raws.size := by
      simpa using hperm.length_eq
    refine ⟨?_, ?_⟩
    · rw [withMask_eq_assemble hlong hnodup le_rfl hfor, ← hexact]
      exact hassemble
    · have hfor' : OffsetWidth.forLen? ks.keys.size = some width := by
        rw [hsize]
        exact hfor
      rw [withMask_eq_assemble hlong (hperm.nodup_iff.mpr hnodup) hbucket.le hfor', hbucket, hkeys,
        hexact, assemble_place, ← hexact]
      exact hassemble

/-- Three one-byte keys in buckets of one: the builder rotates the first bucket to the end, and
both rebuilds give the same keyset. -/
theorem rebuilding_reproduces_nonempty_keysets_u8 :
    let ks : PerfectKeyset := ⟨.u8, #[2, 3, 1], ⟨.u8, #[0, 2, 0, 1]⟩, Gather.new .w8 3, 1⟩
    (∀ raw ∈ (#[1, 2, 3] : Array UInt64), Fits KeyType.u8.width raw) ∧
      Builder.default.offsetWidth = none ∧
      (Builder.default.buildPerfect .u8 #[1, 2, 3]).value = .ok ks ∧
      withMask .u8 #[1, 2, 3] ks.mask ks.depth =
        (if (#[1, 2, 3] : Array UInt64).size = 0 then .error .zeroDepth else .ok ks) ∧
      withMask .u8 ks.keys ks.mask ks.depth =
        (if (#[1, 2, 3] : Array UInt64).size = 0 then .error .zeroDepth else .ok ks) := by
  intro ks
  have hfit : ∀ raw ∈ (#[1, 2, 3] : Array UInt64), Fits KeyType.u8.width raw := by
    simp [Fits, KeyType.width, Width.bits]
  have hsep : separatingMask KeyType.u8.width #[1, 2, 3] = 3 := by
    rw [separatingMask, funext₂ (separatingStep_eq KeyType.u8.width #[1, 2, 3])]
    decide +kernel
  have hsort : ([1, 2, 3] : List UInt64).mergeSort
      (fun a b => decide ((Gather.new KeyType.u8.width 3).apply a ≤
        (Gather.new KeyType.u8.width 3).apply b)) = [1, 2, 3] := by
    simp +decide [List.mergeSort]
  have hbuilt : (Builder.default.buildPerfect .u8 #[1, 2, 3]).value = .ok ks := by
    rw [buildPerfect_of_narrow (by decide) (by decide)
      (show Builder.default.widthFor (#[1, 2, 3] : Array UInt64).size = .ok .u8 from rfl)
      (by rw [hsep]; decide) (by rw [hsep]; decide), hsep]
    simp only [assemble, Placement.place, hsort]
    decide
  exact ⟨hfit, rfl, hbuilt,
    rebuilding_reproduces_nonempty_keysets Builder.default .u8 #[1, 2, 3] hfit rfl hbuilt⟩

/-- **The empty keyset is not rebuilt**: it is built with depth `0`, and `withMask` refuses that
depth whatever the keys. -/
theorem empty_keyset_refused_on_rebuild :
    let ks : PerfectKeyset := ⟨.u8, #[], ⟨.u8, #[0]⟩, Gather.new .w8 0, 0⟩
    (Builder.default.buildPerfect .u8 #[]).value = .ok ks ∧
      withMask .u8 #[] ks.mask ks.depth = .error .zeroDepth ∧
      withMask .u8 ks.keys ks.mask ks.depth = .error .zeroDepth := by
  intro ks
  have hsep : separatingMask KeyType.u8.width #[] = 0 := by
    rw [separatingMask, funext₂ (separatingStep_eq KeyType.u8.width #[])]
    decide +kernel
  have hbuilt : (Builder.default.buildPerfect .u8 #[]).value = .ok ks := by
    rw [buildPerfect_of_narrow (by decide) (by decide)
      (show Builder.default.widthFor (#[] : Array UInt64).size = .ok .u8 from rfl)
      (by rw [hsep]; decide) (by rw [hsep]; decide), hsep]
    simp only [assemble, Placement.place, List.mergeSort_nil]
    decide
  exact ⟨hbuilt, rfl, rfl⟩

end GatherMap.Proofs.Rebuild
