import GatherMap.Proofs.Search

/-!
# What the mask search returns

`searchMask` first clears bits from the top of the all-ones mask while the keys stay separated,
then narrows that mask one cleared bit at a time. This module follows both phases bit by bit:

* `popCount_clearBit`: clearing a set bit lowers the weight by exactly one;
* `separatingMask_submask`: phase one only clears bits of the width's all-ones mask;
* `cheapestRemoval_clears`: the cheapest removal clears one set bit of the width;
* `narrowLoop_succ`: a round of phase two stops where the search's own test says so, or narrows;
* `narrowLoop_stops`: with more rounds than the mask has bits, phase two always ends by its test,
  never by running out of rounds;
* `mask_search_narrows_within_depth`: the search separates the keys after phase one, returns a
  submask of that mask no lighter than the weight floor allows, and reports the exact longest
  bucket of its mask, within the depth.
-/

namespace GatherMap.Proofs.MaskChoice

open GatherMap MaskSearch Proofs.Gather Proofs.Runs Proofs.Search

/-! ### Bits of a word -/

/-- The set bits of a word, lowest first. -/
def setBits (x : UInt64) : List Nat := (List.range 64).filter (testBit x)

/-- `a` keeps no bit that `b` clears. -/
def Submask (a b : UInt64) : Prop := a &&& b = a

theorem testBit_eq_getLsbD (x : UInt64) {i : Nat} (hi : i < 64) :
    testBit x i = x.toBitVec.getLsbD i := by
  unfold testBit
  have hi' : i.toUInt64.toNat = i := by simp; omega
  have hlow : ((x >>> i.toUInt64) &&& 1).toNat = x.toNat / 2 ^ i % 2 := by
    rw [UInt64.toNat_and, UInt64.toNat_shiftRight, hi', Nat.mod_eq_of_lt hi, UInt64.toNat_one,
      Nat.and_one_is_mod, Nat.shiftRight_eq_div_pow]
  rw [BitVec.getLsbD, UInt64.toNat_toBitVec, Nat.testBit_eq_decide_div_mod_eq, ← hlow,
    Bool.eq_iff_iff, beq_iff_eq, decide_eq_true_iff, ← UInt64.toNat_inj, UInt64.toNat_one]

theorem testBit_and (a b : UInt64) {i : Nat} (hi : i < 64) :
    testBit (a &&& b) i = (testBit a i && testBit b i) := by
  rw [testBit_eq_getLsbD _ hi, testBit_eq_getLsbD _ hi, testBit_eq_getLsbD _ hi,
    UInt64.toBitVec_and, BitVec.getLsbD_and]

/-- Clearing bit `b` keeps every other bit. -/
theorem testBit_clearBit (m : UInt64) {b i : Nat} (hb : b < 64) (hi : i < 64) :
    testBit (clearBit m b) i = (testBit m i && i != b) := by
  unfold clearBit
  rw [testBit_and _ _ hi, testBit_eq_getLsbD _ hi, testBit_eq_getLsbD _ hi]
  have hone : ((1 : UInt64) <<< b.toUInt64).toBitVec.getLsbD i = decide (i = b) := by
    have hb' : b % 64 = b := Nat.mod_eq_of_lt hb
    simp only [UInt64.toBitVec_shiftLeft]
    simp [hb', hi]
    rw [Bool.eq_iff_iff]
    simp only [Bool.and_eq_true, Bool.not_eq_true', decide_eq_false_iff_not, decide_eq_true_eq]
    omega
  simp only [UInt64.toBitVec_not, BitVec.getLsbD_not, hone, bne, beq_eq_decide]
  simp [hi]

/-- The fold of `popCount` counts the bits that `testBit` reads. -/
theorem popCount_eq_length_setBits (x : UInt64) : popCount x = (setBits x).length := by
  have hfold : ∀ (l : List Nat) (n : Nat),
      l.foldl (fun n i => if (x >>> i.toUInt64) &&& 1 == 1 then n + 1 else n) n =
        n + l.countP (testBit x) := by
    intro l
    induction l with
    | nil => simp
    | cons a l ih =>
      intro n
      rw [List.foldl_cons, ih, List.countP_cons]
      unfold testBit
      split <;> simp_all
      omega
  rw [popCount, hfold, Nat.zero_add, setBits, List.countP_eq_length_filter]

theorem mem_setBits {x : UInt64} {i : Nat} : i ∈ setBits x ↔ i < 64 ∧ testBit x i = true := by
  simp [setBits]

theorem setBits_clearBit (m : UInt64) {b : Nat} (hb : b < 64) :
    setBits (clearBit m b) = (setBits m).erase b := by
  rw [setBits, setBits, List.Nodup.erase_eq_filter (List.nodup_range.filter _), List.filter_filter]
  apply List.filter_congr
  intro i hi
  rw [testBit_clearBit m hb (List.mem_range.mp hi), Bool.and_comm]

/-- **Clearing a set bit lowers the weight by exactly one.** -/
theorem popCount_clearBit {m : UInt64} {b : Nat} (hb : b < 64) (hset : testBit m b = true) :
    popCount (clearBit m b) + 1 = popCount m := by
  have hmem : b ∈ setBits m := mem_setBits.mpr ⟨hb, hset⟩
  rw [popCount_eq_length_setBits, popCount_eq_length_setBits, setBits_clearBit m hb,
    List.length_erase_of_mem hmem]
  have hpos : 0 < (setBits m).length := List.length_pos_of_mem hmem
  omega

theorem Submask.refl (a : UInt64) : Submask a a := UInt64.and_self

theorem Submask.trans {a b c : UInt64} (hab : Submask a b) (hbc : Submask b c) : Submask a c := by
  unfold Submask at *
  rw [← hab, UInt64.and_assoc, hbc]

theorem clearBit_submask (m : UInt64) (b : Nat) : Submask (clearBit m b) m := by
  unfold Submask clearBit
  rw [UInt64.and_assoc, UInt64.and_comm _ m, ← UInt64.and_assoc, UInt64.and_self]

theorem Submask.testBit {a b : UInt64} (h : Submask a b) {i : Nat} (hi : i < 64)
    (ha : MaskSearch.testBit a i = true) : MaskSearch.testBit b i = true := by
  rw [← h, testBit_and _ _ hi] at ha
  exact (Bool.and_eq_true_iff.mp ha).2

theorem testBit_allOnes (w : Width) {i : Nat} (hi : i < 64) :
    testBit w.allOnes i = decide (i < w.bits) := by
  rw [testBit_eq_getLsbD _ hi, Width.allOnes, UInt64.toBitVec_ofNat', BitVec.getLsbD_ofNat,
    Nat.pow_eq, Nat.testBit_two_pow_sub_one]
  simp [hi]

/-- The set bits of a mask of the width are below the width. -/
theorem lt_bits_of_mem_setBits {w : Width} {m : UInt64} (hm : Submask m w.allOnes) {i : Nat}
    (hi : i ∈ setBits m) : i < w.bits := by
  obtain ⟨hi64, hset⟩ := mem_setBits.mp hi
  have hall := hm.testBit hi64 hset
  rw [testBit_allOnes w hi64] at hall
  exact of_decide_eq_true hall

/-- A mask of the width has at most the width's number of bits. -/
theorem popCount_le_bits {w : Width} {m : UInt64} (hm : Submask m w.allOnes) :
    popCount m ≤ w.bits := by
  have hsub : (setBits m).Subperm (List.range w.bits) :=
    (List.nodup_range.filter _).subperm fun i hi =>
      List.mem_range.mpr (lt_bits_of_mem_setBits hm hi)
  rw [popCount_eq_length_setBits]
  simpa using hsub.length_le

/-- A mask of the width with some weight has a set bit below the width. -/
theorem exists_testBit_of_popCount_pos {w : Width} {m : UInt64} (hm : Submask m w.allOnes)
    (hpos : 0 < popCount m) : ∃ b < w.bits, testBit m b = true := by
  rw [popCount_eq_length_setBits] at hpos
  obtain ⟨b, hb⟩ := List.exists_mem_of_length_pos hpos
  exact ⟨b, lt_bits_of_mem_setBits hm hb, (mem_setBits.mp hb).2⟩

/-! ### Phase one -/

theorem separatingStep_submask (w : Width) (raws : Array UInt64) (mask : UInt64) (bit : Nat) :
    Submask (separatingStep w raws mask bit) mask := by
  unfold separatingStep
  dsimp only
  split
  · exact clearBit_submask mask bit
  · exact Submask.refl mask

/-- **Phase one only clears bits of the width's all-ones mask.** -/
theorem separatingMask_submask (w : Width) (raws : Array UInt64) :
    Submask (separatingMask w raws) w.allOnes := by
  have hfold : ∀ (bits : List Nat) (mask : UInt64),
      Submask (bits.foldl (separatingStep w raws) mask) mask := by
    intro bits
    induction bits with
    | nil => exact Submask.refl
    | cons bit bits ih =>
      intro mask
      exact (ih _).trans (separatingStep_submask w raws mask bit)
  exact hfold _ _

/-! ### The cheapest removal -/

/-- The step of `cheapestRemoval` over bit `bit`: the best removal so far and its duplicates. -/
def removalStep (w : Width) (raws : Array UInt64) (mask : UInt64) (best : UInt64 × Option Nat)
    (bit : Nat) : UInt64 × Option Nat :=
  if testBit mask bit then
    let candidate := clearBit mask bit
    let duplicates := countDuplicates (packedSorted w raws candidate)
    match best.2 with
    | some d => if duplicates < d then (candidate, some duplicates) else best
    | none => (candidate, some duplicates)
  else best

theorem cheapestRemoval_eq_foldl (w : Width) (raws : Array UInt64) (mask : UInt64) :
    cheapestRemoval w raws mask =
      ((List.range w.bits).foldl (removalStep w raws mask) (mask, none)).1 := rfl

/-- What the removal scan holds: nothing yet and the mask itself, or some removal, which is
the mask with one of its set bits below the width cleared. -/
def RemovalHeld (w : Width) (mask : UInt64) (best : UInt64 × Option Nat) : Prop :=
  (best.2 = none ∧ best.1 = mask) ∨
    (best.2.isSome ∧ ∃ b < w.bits, testBit mask b = true ∧ best.1 = clearBit mask b)

theorem removalStep_held {w : Width} (raws : Array UInt64) {mask : UInt64}
    {best : UInt64 × Option Nat} (h : RemovalHeld w mask best) {bit : Nat} (hbit : bit < w.bits) :
    RemovalHeld w mask (removalStep w raws mask best bit) ∧
      (testBit mask bit = true ∨ best.2.isSome → (removalStep w raws mask best bit).2.isSome) := by
  unfold removalStep
  by_cases hset : testBit mask bit = true
  · have hcand : RemovalHeld w mask (clearBit mask bit,
        some (countDuplicates (packedSorted w raws (clearBit mask bit)))) :=
      Or.inr ⟨rfl, bit, hbit, hset, rfl⟩
    rw [if_pos hset]
    dsimp only
    split
    · rename_i d hd
      have hsome : best.2.isSome := by rw [hd]; rfl
      split
      · exact ⟨hcand, fun _ => rfl⟩
      · exact ⟨h, fun _ => hsome⟩
    · exact ⟨hcand, fun _ => rfl⟩
  · rw [if_neg hset]
    exact ⟨h, fun h' => h'.resolve_left hset⟩

theorem foldl_removalStep_held {w : Width} (raws : Array UInt64) {mask : UInt64} :
    ∀ (bits : List Nat) (best : UInt64 × Option Nat), (∀ bit ∈ bits, bit < w.bits) →
      RemovalHeld w mask best →
      RemovalHeld w mask (bits.foldl (removalStep w raws mask) best) ∧
        ((∃ bit ∈ bits, testBit mask bit = true) ∨ best.2.isSome →
          (bits.foldl (removalStep w raws mask) best).2.isSome)
  | [], best, _, h => ⟨h, fun h' => h'.resolve_left (by simp)⟩
  | bit :: bits, best, hbits, h => by
    obtain ⟨hstep, hsome⟩ := removalStep_held raws h (hbits bit List.mem_cons_self)
    obtain ⟨hrest, hsome'⟩ := foldl_removalStep_held raws bits _
      (fun b hb => hbits b (List.mem_cons_of_mem _ hb)) hstep
    refine ⟨hrest, fun hfound => hsome' ?_⟩
    rcases hfound with ⟨b, hb, hset⟩ | hbest
    · rcases List.mem_cons.mp hb with rfl | hb
      · exact Or.inr (hsome (Or.inl hset))
      · exact Or.inl ⟨b, hb, hset⟩
    · exact Or.inr (hsome (Or.inr hbest))

/-- **The cheapest removal clears one set bit of the width**, when the mask has one. -/
theorem cheapestRemoval_clears {w : Width} (raws : Array UInt64) {mask : UInt64}
    (hset : ∃ b < w.bits, testBit mask b = true) :
    ∃ b < w.bits, testBit mask b = true ∧ cheapestRemoval w raws mask = clearBit mask b := by
  obtain ⟨b, hb, hbset⟩ := hset
  obtain ⟨hheld, hsome⟩ := foldl_removalStep_held raws (List.range w.bits) (mask, none)
    (fun bit hbit => List.mem_range.mp hbit) (Or.inl ⟨rfl, rfl⟩)
  rw [cheapestRemoval_eq_foldl]
  rcases hheld with ⟨hnone, -⟩ | ⟨-, hfound⟩
  · have := hsome (Or.inl ⟨b, List.mem_range.mpr hb, hbset⟩)
    rw [hnone] at this
    cases this
  · exact hfound

/-- The cheapest removal of a mask of the width with some weight drops exactly one of its
bits. -/
theorem cheapestRemoval_narrows {w : Width} (raws : Array UInt64) {mask : UInt64}
    (hm : Submask mask w.allOnes) (hpos : 0 < popCount mask) :
    Submask (cheapestRemoval w raws mask) mask ∧
      popCount (cheapestRemoval w raws mask) + 1 = popCount mask := by
  obtain ⟨b, hb, hset, heq⟩ := cheapestRemoval_clears raws (exists_testBit_of_popCount_pos hm hpos)
  rw [heq]
  exact ⟨clearBit_submask mask b,
    popCount_clearBit (Nat.lt_of_lt_of_le hb (bits_le w)) hset⟩

/-! ### Phase two -/

section Narrowing

variable {w : Width} {raws : Array UInt64} {maxDepth minWeight : Nat}

/-- Phase two stops at `mask`: narrowing is not asked for, or the cheapest removal would make
a bucket longer than `maxDepth`. -/
def Stops (w : Width) (raws : Array UInt64) (maxDepth minWeight : Nat) (mask : UInt64) : Prop :=
  ¬(1 < maxDepth ∧ minWeight < popCount mask) ∨
    maxDepth < longestRun (packedSorted w raws (cheapestRemoval w raws mask))

/-- **One round of phase two** stops where `Stops` says, with its mask and longest bucket, or
narrows to the cheapest removal, whose longest bucket is within the depth. -/
theorem narrowLoop_succ (w : Width) (raws : Array UInt64) (maxDepth minWeight fuel : Nat)
    (mask : UInt64) (longest : Nat) (events : List BuildEvent) :
    (Stops w raws maxDepth minWeight mask ∧
      (narrowLoop w raws maxDepth minWeight (fuel + 1) mask longest events).1 = mask ∧
      (narrowLoop w raws maxDepth minWeight (fuel + 1) mask longest events).2.1 = longest) ∨
    (1 < maxDepth ∧ minWeight < popCount mask ∧
      longestRun (packedSorted w raws (cheapestRemoval w raws mask)) ≤ maxDepth ∧
      ∃ events', narrowLoop w raws maxDepth minWeight (fuel + 1) mask longest events =
        narrowLoop w raws maxDepth minWeight fuel (cheapestRemoval w raws mask)
          (longestRun (packedSorted w raws (cheapestRemoval w raws mask))) events') := by
  rw [narrowLoop]
  dsimp only
  by_cases hgo : 1 < maxDepth ∧ minWeight < popCount mask
  · have hgo' : (decide (maxDepth > 1) && decide (popCount mask > minWeight)) = true := by
      simpa using hgo
    rw [if_pos hgo']
    by_cases hdeep : maxDepth < longestRun (packedSorted w raws (cheapestRemoval w raws mask))
    · rw [if_pos hdeep]
      exact Or.inl ⟨Or.inr hdeep, rfl, rfl⟩
    · rw [if_neg hdeep]
      exact Or.inr ⟨hgo.1, hgo.2, by omega, _, rfl⟩
  · have hgo' : (decide (maxDepth > 1) && decide (popCount mask > minWeight)) = false := by
      simpa using hgo
    rw [if_neg (by simp [hgo'])]
    exact Or.inl ⟨Or.inl hgo, rfl, rfl⟩

/-- **Phase two ends by its own test.** Every narrowing clears one bit of a mask of the width,
so with more rounds than the mask has bits the last round is always one where `Stops` holds. -/
theorem narrowLoop_stops (fuel : Nat) {mask : UInt64} (longest : Nat) (events : List BuildEvent)
    (hm : Submask mask w.allOnes) (hfuel : popCount mask < fuel) :
    Stops w raws maxDepth minWeight
      (narrowLoop w raws maxDepth minWeight fuel mask longest events).1 := by
  induction fuel generalizing mask longest events with
  | zero => omega
  | succ fuel ih =>
    rcases narrowLoop_succ w raws maxDepth minWeight fuel mask longest events with
      ⟨hstop, hmask, -⟩ | ⟨-, hweight, -, events', hround⟩
    · rw [hmask]
      exact hstop
    · obtain ⟨hsub, hcount⟩ := cheapestRemoval_narrows raws hm (by omega)
      rw [hround]
      exact ih _ _ (hsub.trans hm) (by omega)

/-- **Phase two only clears bits.** -/
theorem narrowLoop_submask (fuel : Nat) {mask : UInt64} (longest : Nat) (events : List BuildEvent)
    (hm : Submask mask w.allOnes) :
    Submask (narrowLoop w raws maxDepth minWeight fuel mask longest events).1 mask := by
  induction fuel generalizing mask longest events with
  | zero => exact Submask.refl mask
  | succ fuel ih =>
    rcases narrowLoop_succ w raws maxDepth minWeight fuel mask longest events with
      ⟨-, hmask, -⟩ | ⟨-, hweight, -, events', hround⟩
    · rw [hmask]
      exact Submask.refl mask
    · obtain ⟨hsub, -⟩ := cheapestRemoval_narrows raws hm (by omega)
      rw [hround]
      exact (ih _ _ (hsub.trans hm)).trans hsub

/-- **Phase two never goes below the weight floor**, unless it starts below it. A narrowing
happens only above the floor and drops one bit, so it lands on the floor at worst. -/
theorem narrowLoop_weight (fuel : Nat) {mask : UInt64} (longest : Nat) (events : List BuildEvent)
    (hm : Submask mask w.allOnes) :
    min minWeight (popCount mask) ≤
      popCount (narrowLoop w raws maxDepth minWeight fuel mask longest events).1 := by
  induction fuel generalizing mask longest events with
  | zero => exact Nat.min_le_right _ _
  | succ fuel ih =>
    rcases narrowLoop_succ w raws maxDepth minWeight fuel mask longest events with
      ⟨-, hmask, -⟩ | ⟨-, hweight, -, events', hround⟩
    · rw [hmask]
      exact Nat.min_le_right _ _
    · obtain ⟨hsub, hcount⟩ := cheapestRemoval_narrows raws hm (by omega)
      rw [hround]
      have hrest := ih (longestRun (packedSorted w raws (cheapestRemoval w raws mask))) events'
        (hsub.trans hm)
      omega

/-- With buckets of one key only, phase two does not start. -/
theorem narrowLoop_of_maxDepth_le_one (fuel : Nat) (mask : UInt64) (longest : Nat)
    (events : List BuildEvent) (hdepth : maxDepth ≤ 1) :
    (narrowLoop w raws maxDepth minWeight fuel mask longest events).1 = mask := by
  cases fuel with
  | zero => rfl
  | succ fuel =>
    rcases narrowLoop_succ w raws maxDepth minWeight fuel mask longest events with
      ⟨-, hmask, -⟩ | ⟨hgo, -⟩
    · exact hmask
    · omega

end Narrowing

/-! ### The search -/

theorem searchMask_mask (w : Width) (raws : Array UInt64) (maxDepth minWeight : Nat) :
    (searchMask w raws maxDepth minWeight).mask =
      (narrowLoop w raws maxDepth minWeight (w.bits + 1) (separatingMask w raws)
        (if raws.isEmpty then 0 else 1)
        [.collisionFree (separatingMask w raws) raws.size (popCount (separatingMask w raws))]).1 :=
  rfl

/-- No bucket at all exactly when there are no keys. -/
theorem longestBucket_eq_zero_iff (g : Gather) (raws : List UInt64) :
    longestBucket g raws = 0 ↔ raws = [] := by
  unfold longestBucket
  constructor
  · intro hzero
    by_contra hne
    have := one_le_maxCount (show raws.map g.apply ≠ [] by simpa using hne)
    omega
  · rintro rfl
    rfl

/-- **The mask search.** For distinct raw forms of the width and a positive depth, phase one
ends with a mask `first` under which every key has its own packed index. The search then ends by
its own test, never by running out of rounds, with a submask of `first` that equals it when
buckets may hold one key only, and that keeps at least the weight floor's bits unless `first`
has fewer. The longest bucket it reports is the exact largest number of keys sharing a packed
index under its mask, zero exactly for no keys, and at most `maxDepth`. -/
theorem mask_search_narrows_within_depth (w : Width) (raws : Array UInt64)
    (maxDepth minWeight : Nat) (hfit : ∀ raw ∈ raws, Fits w raw) (hnodup : raws.toList.Nodup)
    (hdepth : 0 < maxDepth) :
    (raws.toList.map (Gather.new w (separatingMask w raws)).apply).Nodup ∧
    Stops w raws maxDepth minWeight (searchMask w raws maxDepth minWeight).mask ∧
    Submask (searchMask w raws maxDepth minWeight).mask (separatingMask w raws) ∧
    (maxDepth = 1 → (searchMask w raws maxDepth minWeight).mask = separatingMask w raws) ∧
    min minWeight (popCount (separatingMask w raws)) ≤
      popCount (searchMask w raws maxDepth minWeight).mask ∧
    (searchMask w raws maxDepth minWeight).longest =
      longestBucket (Gather.new w (searchMask w raws maxDepth minWeight).mask) raws.toList ∧
    ((searchMask w raws maxDepth minWeight).longest = 0 ↔ raws = #[]) ∧
    (searchMask w raws maxDepth minWeight).longest ≤ maxDepth := by
  have hfirst := separatingMask_submask w raws
  obtain ⟨hexact, hle⟩ := searchMask_measured minWeight hfit hnodup hdepth
  have hmask := searchMask_mask w raws maxDepth minWeight
  have hsep : (raws.toList.map (Gather.new w (separatingMask w raws)).apply).Nodup :=
    (countDuplicates_packedSorted_eq_zero_iff w raws _).mp
      (separatingMask_separates hfit hnodup)
  refine ⟨hsep, ?_, ?_, fun h1 => ?_, ?_, hexact, ?_, hle⟩
  · rw [hmask]
    exact narrowLoop_stops _ _ _ hfirst (Nat.lt_succ_of_le (popCount_le_bits hfirst))
  · rw [hmask]
    exact narrowLoop_submask _ _ _ hfirst
  · rw [hmask]
    exact narrowLoop_of_maxDepth_le_one _ _ _ _ (by omega)
  · rw [hmask]
    exact narrowLoop_weight _ _ _ hfirst
  · rw [hexact, longestBucket_eq_zero_iff, Array.toList_eq_nil_iff]

theorem mask_search_narrows_within_depth_u8 :
    (∀ raw ∈ (#[3, 5, 6, 9, 200] : Array UInt64), Fits .w8 raw) ∧
    (#[3, 5, 6, 9, 200] : Array UInt64).toList.Nodup ∧ 0 < 2 ∧
    (([3, 5, 6, 9, 200] : List UInt64).map
        (Gather.new .w8 (separatingMask .w8 #[3, 5, 6, 9, 200])).apply).Nodup ∧
    Stops .w8 #[3, 5, 6, 9, 200] 2 1 (searchMask .w8 #[3, 5, 6, 9, 200] 2 1).mask ∧
    Submask (searchMask .w8 #[3, 5, 6, 9, 200] 2 1).mask (separatingMask .w8 #[3, 5, 6, 9, 200]) ∧
    (2 = 1 → (searchMask .w8 #[3, 5, 6, 9, 200] 2 1).mask =
      separatingMask .w8 #[3, 5, 6, 9, 200]) ∧
    min 1 (popCount (separatingMask .w8 #[3, 5, 6, 9, 200])) ≤
      popCount (searchMask .w8 #[3, 5, 6, 9, 200] 2 1).mask ∧
    (searchMask .w8 #[3, 5, 6, 9, 200] 2 1).longest =
      longestBucket (Gather.new .w8 (searchMask .w8 #[3, 5, 6, 9, 200] 2 1).mask)
        [3, 5, 6, 9, 200] ∧
    ((searchMask .w8 #[3, 5, 6, 9, 200] 2 1).longest = 0 ↔
      (#[3, 5, 6, 9, 200] : Array UInt64) = #[]) ∧
    (searchMask .w8 #[3, 5, 6, 9, 200] 2 1).longest ≤ 2 := by
  have hfit : ∀ raw ∈ (#[3, 5, 6, 9, 200] : Array UInt64), Fits .w8 raw := by
    simp [Fits, Width.bits]
  have hnodup : (#[3, 5, 6, 9, 200] : Array UInt64).toList.Nodup := by simp
  exact ⟨hfit, hnodup, by decide,
    mask_search_narrows_within_depth .w8 #[3, 5, 6, 9, 200] 2 1 hfit hnodup (by decide)⟩

end GatherMap.Proofs.MaskChoice
