import GatherMap.Proofs.MaskChoice

/-!
# The gather in numbers

`Gather.new` reads its mask bit by bit: `popCount` counts the mask bits, `bitLength` finds the
top one, and `packCoefficient` scans the bits from the bottom and gives every run of mask bits its
own power of two. This module reads each scan as a statement about the natural number under the
mask:

* `popCount_eq_weightBelow`, `bitLength_eq_size`: the weight counts the mask bits, and the bit
  length is the size of the mask;
* `testBit_coefficient`: the multiplier has one bit for each run of the mask, at the run's shift:
  the run that starts at `j` moves by `gapBits + weightBelow m j - j`;
* `apply_toNat`: the packed index of a key is the window of `weight` bits at `gapBits` of the
  product of the masked key and the multiplier.

It also states what the gather is meant to compute, `pext`: the bit-by-bit extraction that moves
the `k`-th lowest mask bit of the key to bit `k` (`testBit_extractBelow`).
-/

namespace GatherMap.Proofs.Multiplier

open GatherMap MaskSearch Proofs.Gather Proofs.MaskChoice

variable {m x : Nat}

/-! ### Counting the bits of a mask -/

/-- Number of mask bits below position `n`. -/
def weightBelow (m n : Nat) : Nat := Nat.count (fun i => m.testBit i) n

/-- Number of clear bits below position `n`. -/
def zerosBelow (m n : Nat) : Nat := n - weightBelow m n

@[simp] theorem weightBelow_zero (m : Nat) : weightBelow m 0 = 0 := Nat.count_zero _

theorem weightBelow_succ (m n : Nat) :
    weightBelow m (n + 1) = weightBelow m n + if m.testBit n then 1 else 0 :=
  Nat.count_succ _ _

theorem weightBelow_le (m n : Nat) : weightBelow m n ≤ n := Nat.count_le _

theorem weightBelow_mono (m : Nat) {a b : Nat} (h : a ≤ b) : weightBelow m a ≤ weightBelow m b :=
  Nat.count_monotone _ h

/-- Over `k` more positions the weight grows by at most `k`. -/
theorem weightBelow_add_le (m a k : Nat) : weightBelow m (a + k) ≤ weightBelow m a + k := by
  rw [weightBelow, Nat.count_add]
  exact Nat.add_le_add_left (Nat.count_le _) _

/-- The clear bits below a position never decrease. -/
theorem zerosBelow_mono (m : Nat) {a b : Nat} (h : a ≤ b) : zerosBelow m a ≤ zerosBelow m b := by
  obtain ⟨k, rfl⟩ := Nat.exists_eq_add_of_le h
  have hgrow := weightBelow_add_le m a k
  have hle := weightBelow_le m a
  unfold zerosBelow
  omega

/-- Over a stretch of mask bits the weight grows by the stretch's length. -/
theorem weightBelow_add_of_set {a l : Nat} (h : ∀ k < l, m.testBit (a + k) = true) :
    weightBelow m (a + l) = weightBelow m a + l := by
  induction l with
  | zero => rfl
  | succ l ih =>
    rw [← Nat.add_assoc, weightBelow_succ, ih fun k hk => h k (by omega), h l (by omega)]
    rfl

/-- Over a stretch of clear bits the weight stays. -/
theorem weightBelow_add_of_clear {a l : Nat} (h : ∀ k < l, m.testBit (a + k) = false) :
    weightBelow m (a + l) = weightBelow m a := by
  induction l with
  | zero => rfl
  | succ l ih =>
    rw [← Nat.add_assoc, weightBelow_succ, ih fun k hk => h k (by omega), h l (by omega)]
    rfl

/-- Above its size a number has no set bits. -/
theorem testBit_of_size_le {i : Nat} (h : m.size ≤ i) : m.testBit i = false :=
  Nat.testBit_lt_two_pow (Nat.lt_of_lt_of_le (Nat.lt_size_self m) (Nat.pow_le_pow_right (by decide) h))

/-- The top bit of a positive number sits just below its size. -/
theorem testBit_size_sub_one (h : 0 < m.size) : m.testBit (m.size - 1) = true := by
  have hle : 2 ^ (m.size - 1) ≤ m := Nat.lt_size.mp (Nat.sub_lt h Nat.one_pos)
  have hlt : m < 2 ^ (m.size - 1 + 1) := by
    rw [Nat.sub_add_cancel h]
    exact Nat.lt_size_self m
  exact Nat.testBit_of_two_pow_le_and_two_pow_add_one_gt hle hlt

theorem lt_size_of_testBit {i : Nat} (h : m.testBit i = true) : i < m.size := by
  by_contra hle
  rw [testBit_of_size_le (Nat.le_of_not_lt hle)] at h
  cases h

theorem weightBelow_of_size_le {n : Nat} (h : m.size ≤ n) : weightBelow m n = weightBelow m m.size := by
  obtain ⟨k, rfl⟩ := Nat.exists_eq_add_of_le h
  exact weightBelow_add_of_clear fun j _ => testBit_of_size_le (by omega)

/-- A positive number has a mask bit below its size. -/
theorem weightBelow_size_pos (h : 0 < m.size) : 0 < weightBelow m m.size := by
  have hstep := weightBelow_succ m (m.size - 1)
  rw [Nat.sub_add_cancel h, testBit_size_sub_one h, if_pos rfl] at hstep
  omega

/-! ### Runs and their shifts -/

/-- Whether the bit below position `n` is a mask bit; there is none below `0`. -/
def prevBit (m : Nat) : Nat → Bool
  | 0 => false
  | n + 1 => m.testBit n

/-- A run of mask bits starts at position `n`. -/
def startsRun (m n : Nat) : Bool := m.testBit n && !prevBit m n

/-- The shift that moves the mask bit at `i` to bit `gap + weightBelow m i`. -/
def shiftOf (m gap i : Nat) : Nat := gap + weightBelow m i - i

theorem testBit_of_startsRun {j : Nat} (h : startsRun m j = true) : m.testBit j = true := by
  unfold startsRun at h
  exact (Bool.and_eq_true_iff.mp h).1

/-- Every mask bit lies in a run that starts at or below it, with as many clear bits below. -/
theorem exists_startsRun {i : Nat} (h : m.testBit i = true) :
    ∃ j ≤ i, startsRun m j = true ∧ zerosBelow m j = zerosBelow m i := by
  induction i with
  | zero => exact ⟨0, le_rfl, by simp [startsRun, prevBit, h], rfl⟩
  | succ i ih =>
    cases hprev : m.testBit i with
    | false => exact ⟨i + 1, le_rfl, by simp [startsRun, prevBit, h, hprev], rfl⟩
    | true =>
      obtain ⟨j, hj, hstart, hzeros⟩ := ih hprev
      have hw : weightBelow m (i + 1) = weightBelow m i + 1 := by
        rw [weightBelow_succ, hprev]
        rfl
      refine ⟨j, by omega, hstart, ?_⟩
      unfold zerosBelow at hzeros ⊢
      omega

/-- Bits with as many clear bits below them get the same shift. -/
theorem shiftOf_eq_of_zerosBelow_eq (gap : Nat) {i j : Nat} (h : zerosBelow m j = zerosBelow m i) :
    shiftOf m gap j = shiftOf m gap i := by
  have hi := weightBelow_le m i
  have hj := weightBelow_le m j
  unfold zerosBelow at h
  unfold shiftOf
  omega

/-! ### Bit-by-bit extraction -/

/-- Bit-by-bit extraction of the mask bits of `x` below `n`: the `k`-th lowest mask bit goes to
bit `k`. -/
def extractBelow (x m : Nat) : Nat → Nat
  | 0 => 0
  | n + 1 => extractBelow x m n + if m.testBit n && x.testBit n then 2 ^ weightBelow m n else 0

/-- The extraction fits in as many bits as the mask has. -/
theorem extractBelow_lt (x m n : Nat) : extractBelow x m n < 2 ^ weightBelow m n := by
  induction n with
  | zero => simp [extractBelow]
  | succ n ih =>
    rw [extractBelow, weightBelow_succ]
    have hpow : 2 ^ weightBelow m n ≤ 2 ^ (weightBelow m n + 1) :=
      Nat.pow_le_pow_right (by decide) (by omega)
    cases hm : m.testBit n <;> cases hx : x.testBit n <;> simp only [Bool.and_false,
      Bool.and_true, Bool.false_eq_true, if_false, if_true, Nat.add_zero] <;> grind

/-- The mask bits from `k` on land at the weight below `k` or higher. -/
theorem extractBelow_add_of_le (x m : Nat) {k n : Nat} (h : k ≤ n) :
    ∃ r, extractBelow x m n = extractBelow x m k + 2 ^ weightBelow m k * r := by
  obtain ⟨d, rfl⟩ := Nat.exists_eq_add_of_le h
  induction d with
  | zero => exact ⟨0, by simp⟩
  | succ d ih =>
    obtain ⟨r, hr⟩ := ih (by omega)
    obtain ⟨e, he⟩ := Nat.exists_eq_add_of_le (weightBelow_mono m (Nat.le_add_right k d))
    refine ⟨r + if m.testBit (k + d) && x.testBit (k + d) then 2 ^ e else 0, ?_⟩
    rw [← Nat.add_assoc, extractBelow, hr, he, Nat.pow_add]
    split <;> ring

/-- **Bit `k` of the extraction is the `k`-th lowest mask bit**: the mask bit `i` below `n`
goes to bit `weightBelow m i`. -/
theorem testBit_extractBelow {i n : Nat} (hi : m.testBit i = true) (hn : i < n) :
    (extractBelow x m n).testBit (weightBelow m i) = x.testBit i := by
  obtain ⟨r, hr⟩ := extractBelow_add_of_le x m (Nat.succ_le_of_lt hn)
  have hlow := extractBelow_lt x m i
  have hsplit : extractBelow x m n =
      2 ^ weightBelow m i * ((if x.testBit i then 1 else 0) + 2 * r) + extractBelow x m i := by
    rw [hr, extractBelow, weightBelow_succ, hi, if_pos rfl, Nat.pow_succ]
    cases x.testBit i <;> simp <;> ring
  rw [hsplit, Nat.testBit_two_pow_mul_add _ hlow, if_neg (Nat.lt_irrefl _), Nat.sub_self,
    Nat.testBit_zero]
  cases x.testBit i <;> simp [Nat.add_mul_mod_self_left]

/-- **Bit-by-bit `PEXT`**, the extraction a gather is meant to compute: bit `k` of the result is
the `k`-th lowest mask bit of `raw`. -/
def pext (raw mask : UInt64) : UInt64 := UInt64.ofNat (extractBelow raw.toNat mask.toNat 64)

/-! ### The scans of a word -/

theorem testBit_eq_testBit_toNat (x : UInt64) {i : Nat} (hi : i < 64) :
    testBit x i = x.toNat.testBit i := by
  rw [testBit_eq_getLsbD x hi]
  rfl

/-- **The weight counts the mask bits.** -/
theorem popCount_eq_weightBelow (x : UInt64) : popCount x = weightBelow x.toNat 64 := by
  have hfold : ∀ n ≤ 64, (List.range n).foldl
      (fun c i => if (x >>> i.toUInt64) &&& 1 == 1 then c + 1 else c) 0 = weightBelow x.toNat n := by
    intro n hn
    induction n with
    | zero => rfl
    | succ n ih =>
      have hbit : ((x >>> n.toUInt64) &&& 1 == 1) = x.toNat.testBit n :=
        testBit_eq_testBit_toNat x (by omega)
      rw [List.range_succ, List.foldl_append, ih (by omega), weightBelow_succ]
      simp only [List.foldl_cons, List.foldl_nil, hbit]
      split <;> simp_all
  exact hfold 64 le_rfl

/-- Reading bit `n` raises the size below `n + 1` to `n + 1` when the bit is set. -/
theorem size_mod_two_pow_succ (x n : Nat) :
    (x % 2 ^ (n + 1)).size = if x.testBit n then n + 1 else (x % 2 ^ n).size := by
  have hlow : x % 2 ^ n < 2 ^ n := Nat.mod_lt _ (Nat.two_pow_pos n)
  have hsplit : x % 2 ^ (n + 1) = x % 2 ^ n + 2 ^ n * (x / 2 ^ n % 2) := Nat.mod_pow_succ
  rw [Nat.testBit_eq_decide_div_mod_eq]
  rcases Nat.mod_two_eq_zero_or_one (x / 2 ^ n) with hbit | hbit
  · simp [hsplit, hbit]
  · simp only [hbit, decide_true, if_true]
    apply le_antisymm
    · exact Nat.size_le.mpr (Nat.mod_lt _ (Nat.two_pow_pos _))
    · rw [hsplit, hbit]
      exact Nat.lt_size.mpr (by omega)

/-- **The bit length is the size**: the position of the top set bit plus one. -/
theorem bitLength_eq_size (x : UInt64) : bitLength x = x.toNat.size := by
  have hfold : ∀ n ≤ 64, (List.range n).foldl
      (fun c i => if (x >>> i.toUInt64) &&& 1 == 1 then i + 1 else c) 0 = (x.toNat % 2 ^ n).size := by
    intro n hn
    induction n with
    | zero => simp only [List.range_zero, List.foldl_nil, pow_zero, Nat.mod_one, Nat.size_zero]
    | succ n ih =>
      have hbit : ((x >>> n.toUInt64) &&& 1 == 1) = x.toNat.testBit n :=
        testBit_eq_testBit_toNat x (by omega)
      rw [List.range_succ, List.foldl_append, ih (by omega), size_mod_two_pow_succ]
      simp only [List.foldl_cons, List.foldl_nil, hbit]
  rw [bitLength, hfold 64 le_rfl, Nat.mod_eq_of_lt x.toNat_lt]

/-! ### The layout of a gather -/

section Layout

variable {w : Width} {mask : UInt64}

/-- A mask of the width lies below the width's top. -/
theorem size_le_bits (hfit : Fits w mask) : mask.toNat.size ≤ w.bits := Nat.size_le.mpr hfit

/-- The weight counts the mask bits below the size. -/
theorem popCount_eq_weightBelow_size (mask : UInt64) :
    popCount mask = weightBelow mask.toNat mask.toNat.size := by
  rw [popCount_eq_weightBelow, weightBelow_of_size_le (Nat.size_le.mpr mask.toNat_lt)]

/-- **The gap and the weight fill the size**: below the top mask bit, `gapBits` bits are clear
and `weight` bits are set. -/
theorem gapBits_add_popCount (hfit : Fits w mask) :
    (Gather.new w mask).gapBits + popCount mask = mask.toNat.size := by
  have hsize := size_le_bits hfit
  have hweight := weightBelow_le mask.toNat mask.toNat.size
  rw [popCount_eq_weightBelow_size] at *
  simp only [Gather.new, bitLength_eq_size, popCount_eq_weightBelow_size]
  omega

theorem gapBits_lt (hfit : Fits w mask) : (Gather.new w mask).gapBits < 64 := by
  have hsum := gapBits_add_popCount hfit
  have hsize := size_le_bits hfit
  have hbits := bits_le w
  rw [popCount_eq_weightBelow_size] at hsum
  rcases Nat.eq_zero_or_pos mask.toNat.size with hzero | hpos
  · omega
  · have := weightBelow_size_pos hpos
    omega

/-- A mask bit of a mask of the width lies below the width. -/
theorem lt_bits_of_testBit (hfit : Fits w mask) {i : Nat} (hi : mask.toNat.testBit i = true) :
    i < w.bits :=
  Nat.lt_of_lt_of_le (lt_size_of_testBit hi) (size_le_bits hfit)

/-- A mask bit lies below the size, with at most `gapBits` clear bits below it. -/
theorem zerosBelow_le_gapBits (hfit : Fits w mask) {i : Nat} (hi : mask.toNat.testBit i = true) :
    zerosBelow mask.toNat i ≤ (Gather.new w mask).gapBits := by
  have hsum := gapBits_add_popCount hfit
  have hlt := lt_size_of_testBit hi
  have hmono := zerosBelow_mono mask.toNat hlt.le
  have hw := weightBelow_le mask.toNat mask.toNat.size
  rw [popCount_eq_weightBelow_size] at hsum
  unfold zerosBelow at *
  omega

end Layout

/-! ### The multiplier -/

section Coefficient

variable {mask : UInt64}

/-- One step of the coefficient scan at bit `n`: the destination is `gap` plus the mask bits
below `n`, and a run that starts at `n` adds its shift to the multiplier. -/
theorem coefficientStep_eq (mask c : UInt64) (gap : Nat) {n : Nat} (hn : n < 64) :
    Gather.coefficientStep mask (c, gap + weightBelow mask.toNat n, prevBit mask.toNat n) n =
      (if startsRun mask.toNat n then c ||| (1 : UInt64) <<< (shiftOf mask.toNat gap n).toUInt64
        else c, gap + weightBelow mask.toNat (n + 1), prevBit mask.toNat (n + 1)) := by
  have hbit : ((mask >>> n.toUInt64) &&& 1 == 1) = mask.toNat.testBit n :=
    testBit_eq_testBit_toNat mask hn
  have hprev : prevBit mask.toNat (n + 1) = mask.toNat.testBit n := rfl
  unfold Gather.coefficientStep
  simp only [hbit, weightBelow_succ, hprev, startsRun, shiftOf]
  rcases Bool.eq_false_or_eq_true (mask.toNat.testBit n) with hb | hb <;> simp [hb, Nat.add_assoc]

/-- **The scan of the first `n` bits**: the multiplier so far has exactly one bit for each run
that starts below `n`, at the run's shift. -/
theorem foldl_coefficientStep (mask : UInt64) {gap : Nat} (hgap : gap < 64) {n : Nat}
    (hn : n ≤ 64) :
    ∃ c, (List.range n).foldl (Gather.coefficientStep mask) (0, gap, false) =
        (c, gap + weightBelow mask.toNat n, prevBit mask.toNat n) ∧
      ∀ e, c.toNat.testBit e = true ↔
        ∃ j < n, startsRun mask.toNat j = true ∧ e = shiftOf mask.toNat gap j := by
  induction n with
  | zero => exact ⟨0, rfl, by simp⟩
  | succ n ih =>
    obtain ⟨c, hfold, hbits⟩ := ih (by omega)
    have hshift : shiftOf mask.toNat gap n < 64 := by
      have := weightBelow_le mask.toNat n
      unfold shiftOf
      omega
    refine ⟨_, by rw [List.range_succ, List.foldl_append, hfold, List.foldl_cons, List.foldl_nil,
      coefficientStep_eq mask c gap (by omega)], fun e => ?_⟩
    have hnew : ∀ j < n + 1, startsRun mask.toNat j = true ∧ e = shiftOf mask.toNat gap j ↔
        (j < n ∧ startsRun mask.toNat j = true ∧ e = shiftOf mask.toNat gap j) ∨
          (j = n ∧ startsRun mask.toNat n = true ∧ e = shiftOf mask.toNat gap n) := by
      intro j hj
      rcases Nat.lt_succ_iff_lt_or_eq.mp hj with hlt | rfl
      · simp [hlt, Nat.ne_of_lt hlt]
      · simp
    split
    · rename_i hstart
      rw [UInt64.toNat_or, Nat.testBit_or, toNat_one_shiftLeft hshift, Nat.testBit_two_pow,
        Bool.or_eq_true, hbits]
      constructor
      · rintro (⟨j, hj, hj'⟩ | he)
        · exact ⟨j, by omega, hj'⟩
        · exact ⟨n, by omega, hstart, (of_decide_eq_true he).symm⟩
      · rintro ⟨j, hj, hj'⟩
        rcases (hnew j hj).mp hj' with ⟨hlt, hj''⟩ | ⟨-, -, he⟩
        · exact Or.inl ⟨j, hlt, hj''⟩
        · exact Or.inr (decide_eq_true he.symm)
    · rename_i hstart
      rw [hbits]
      constructor
      · rintro ⟨j, hj, hj'⟩
        exact ⟨j, by omega, hj'⟩
      · rintro ⟨j, hj, hj'⟩
        rcases (hnew j hj).mp hj' with ⟨hlt, hj''⟩ | ⟨-, hs, -⟩
        · exact ⟨j, hlt, hj''⟩
        · exact absurd hs hstart

variable {w : Width}

/-- **The multiplier has one bit per run**: the run of the mask that starts at `j` contributes
the bit at its shift, `gapBits + weightBelow m j - j`, and nothing else is set. -/
theorem testBit_coefficient (hfit : Fits w mask) (e : Nat) :
    (Gather.new w mask).coefficient.toNat.testBit e = true ↔
      ∃ j < w.bits, startsRun mask.toNat j = true ∧
        e = shiftOf mask.toNat (Gather.new w mask).gapBits j := by
  obtain ⟨c, hfold, hbits⟩ :=
    foldl_coefficientStep mask (gapBits_lt hfit) (bits_le w)
  have hcoef : (Gather.new w mask).coefficient = c := by
    simp only [Gather.new, Gather.packCoefficient] at hfold ⊢
    rw [hfold]
  rw [hcoef, hbits]

/-- Every mask bit finds the bit of its run's shift in the multiplier. -/
theorem testBit_coefficient_shiftOf (hfit : Fits w mask) {i : Nat}
    (hi : mask.toNat.testBit i = true) :
    (Gather.new w mask).coefficient.toNat.testBit
      (shiftOf mask.toNat (Gather.new w mask).gapBits i) = true := by
  obtain ⟨j, hj, hstart, hzeros⟩ := exists_startsRun hi
  have hlt := lt_bits_of_testBit hfit hi
  exact (testBit_coefficient hfit _).mpr
    ⟨j, by omega, hstart, (shiftOf_eq_of_zerosBelow_eq _ hzeros).symm⟩

end Coefficient

/-! ### The packed index -/

/-- The window of `W` bits at `G` reads the same through a truncation to `B ≥ G + W` bits. -/
theorem window_mod_two_pow {y B G W : Nat} (h : G + W ≤ B) :
    y % 2 ^ B / 2 ^ G % 2 ^ W = y / 2 ^ G % 2 ^ W := by
  apply Nat.eq_of_testBit_eq
  intro i
  simp only [Nat.testBit_mod_two_pow, Nat.testBit_div_two_pow]
  by_cases hi : i < W
  · have hB : i + G < B := by omega
    simp [hi, hB]
  · simp [hi]

theorem lowBits_toNat {w : Width} {count : Nat} (h : count ≤ w.bits) :
    (Gather.lowBits w count).toNat = 2 ^ count - 1 := by
  unfold Gather.lowBits
  split
  · have : count = w.bits := by omega
    rw [allOnes_toNat, this]
  · have hc : count < 64 := by have := bits_le w; omega
    have hp : 2 ^ count < 2 ^ 64 := Nat.pow_lt_pow_right (by decide) hc
    rw [UInt64.toNat_ofNat', Nat.pow_eq, Nat.mod_eq_of_lt (by omega)]

/-- **The packed index in numbers**: for a mask of the width, the gather of `raw` is the window of
`popCount mask` bits at `gapBits` of the masked key times the multiplier. -/
theorem apply_toNat {w : Width} {mask : UInt64} (hfit : Fits w mask) (raw : UInt64) :
    ((Gather.new w mask).apply raw).toNat =
      (raw.toNat &&& mask.toNat) * (Gather.new w mask).coefficient.toNat /
        2 ^ (Gather.new w mask).gapBits % 2 ^ popCount mask := by
  have hsum := gapBits_add_popCount hfit
  have hsize := size_le_bits hfit
  have hgap := gapBits_lt hfit
  have hweight : popCount mask ≤ w.bits := by omega
  have hbits := bits_le w
  have hshift : (Gather.new w mask).gapBits.toUInt64.toNat % 64 = (Gather.new w mask).gapBits := by
    rw [Nat.toUInt64_eq, UInt64.toNat_ofNat', Nat.mod_eq_of_lt (Nat.lt_trans hgap (by decide)),
      Nat.mod_eq_of_lt hgap]
  have hwidth : (Gather.new w mask).width = w := rfl
  have hmask : (Gather.new w mask).mask = mask := rfl
  have hfinal : (Gather.new w mask).finalMask = Gather.lowBits w (popCount mask) := rfl
  simp only [Gather.apply, Width.truncate, UInt64.toNat_and, UInt64.toNat_shiftRight, hshift,
    UInt64.toNat_mul, allOnes_toNat, Nat.and_two_pow_sub_one_eq_mod, Nat.shiftRight_eq_div_pow,
    hwidth, hmask, hfinal, lowBits_toNat hweight]
  rw [Nat.mod_mod_of_dvd _ (Nat.pow_dvd_pow 2 hbits), window_mod_two_pow (by omega)]

end GatherMap.Proofs.Multiplier
