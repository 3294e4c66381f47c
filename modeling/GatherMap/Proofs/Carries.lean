import GatherMap.Proofs.Multiplier

/-!
# Carries of the gather

The product of the masked key and the multiplier holds one copy of the key for each run of the
mask, shifted by that run's shift (`testBit_coefficient`). The copy of a mask bit made by its own
run lands in the window `[gapBits, gapBits + weight)`, at the bit's rank. Its copies made by the
runs below its own land higher, and those made by the runs above it land lower. The gather is the
bit-by-bit `PEXT` when the higher copies clear the window whole and the lower copies add up to
less than `2 ^ gapBits`, so that no carry reaches the window:

* `mul_split`: the product is `2 ^ gapBits * extraction + low + 2 ^ (gapBits + weight) * high`,
  with `low` at most `spillBelow`, the lower copies of all mask bits;
* `apply_eq_pext_of_carryFree`: without carries the gather is the bit-by-bit `PEXT`;
* `apply_eq_pext_of_runsApart`: runs at least `2 * weight` clear bits apart cause no carries;
* `apply_run_eq_pext`: nor does a single run of bits.
-/

namespace GatherMap.Proofs.Carries

open GatherMap Proofs.Gather Proofs.Multiplier

variable {m K gap weight x : Nat}

/-! ### Bits of products -/

/-- A number whose bits below `k` are clear is a multiple of `2 ^ k`. -/
theorem two_pow_dvd_of_testBit {y k : Nat} (h : ∀ q < k, y.testBit q = false) : 2 ^ k ∣ y := by
  apply Nat.dvd_of_mod_eq_zero
  apply Nat.zero_of_testBit_eq_false
  intro q
  rw [Nat.testBit_mod_two_pow]
  by_cases hq : q < k
  · simp [hq, h q hq]
  · simp [hq]

/-- Shifted up by `d`, a number stays below `2 ^ e` when each of its bits lies more than `d`
below `e`. -/
theorem mul_two_pow_lt {y d e : Nat} (h : ∀ p, y.testBit p = true → p + d < e) :
    y * 2 ^ d < 2 ^ e := by
  apply Nat.lt_pow_two_of_testBit
  intro q hq
  rw [Nat.testBit_mul_two_pow]
  cases hy : y.testBit (q - d) with
  | false => simp
  | true =>
    have hlt := h _ hy
    simp only [Bool.and_true, decide_eq_false_iff_not]
    omega

/-- A number with bit `e` set splits into its bits above `e`, the bit itself and its bits
below. -/
theorem split_at_testBit {e : Nat} (h : K.testBit e = true) :
    K = K / 2 ^ (e + 1) * 2 ^ (e + 1) + 2 ^ e + K % 2 ^ e := by
  have hbit : K / 2 ^ e % 2 = 1 := by
    rw [Nat.testBit_eq_decide_div_mod_eq, decide_eq_true_iff] at h
    exact h
  have hlow : K % 2 ^ (e + 1) = K % 2 ^ e + 2 ^ e * (K / 2 ^ e % 2) := Nat.mod_pow_succ
  have hdiv := Nat.div_add_mod' K (2 ^ (e + 1))
  rw [hbit, Nat.mul_one] at hlow
  omega

/-- The window of `W` bits at `G` of `2 ^ G * p + lo + 2 ^ (G + W) * hi` is `p`, when `lo` stays
below `2 ^ G` and `p` below `2 ^ W`. -/
theorem window_eq {G W p lo hi : Nat} (hlo : lo < 2 ^ G) (hp : p < 2 ^ W) :
    (2 ^ G * p + lo + 2 ^ (G + W) * hi) / 2 ^ G % 2 ^ W = p := by
  have hsplit : 2 ^ G * p + lo + 2 ^ (G + W) * hi = lo + 2 ^ G * (p + 2 ^ W * hi) := by
    rw [Nat.pow_add]
    ring
  rw [hsplit, Nat.add_mul_div_left _ _ (Nat.two_pow_pos G), Nat.div_eq_of_lt hlo, Nat.zero_add,
    Nat.add_mul_mod_self_left, Nat.mod_eq_of_lt hp]

/-! ### The product, one mask bit at a time -/

/-- The lower copies of the mask bits below `n`: mask bit `i` meets the bits of the multiplier
below its own run's shift. -/
def spillBelow (m K gap : Nat) : Nat → Nat
  | 0 => 0
  | n + 1 => spillBelow m K gap n + if m.testBit n then 2 ^ n * (K % 2 ^ shiftOf m gap n) else 0

theorem spillBelow_le_succ (m K gap n : Nat) :
    spillBelow m K gap n ≤ spillBelow m K gap (n + 1) :=
  Nat.le_add_right _ _

/-- A mask bit with at most `gap` clear bits below it is moved to `gap` plus its rank. -/
theorem add_shiftOf {i : Nat} (h : zerosBelow m i ≤ gap) :
    i + shiftOf m gap i = gap + weightBelow m i := by
  have hle := weightBelow_le m i
  unfold zerosBelow at h
  unfold shiftOf
  omega

/-- The higher copies of mask bit `i` clear the window when every bit of the multiplier above the
bit's own shift `e` moves it to the window's top or beyond. -/
theorem two_pow_dvd_high {i e : Nat} (h : ∀ p, K.testBit p = true → e < p → gap + weight ≤ i + p) :
    2 ^ (gap + weight) ∣ 2 ^ i * (K / 2 ^ (e + 1) * 2 ^ (e + 1)) := by
  apply two_pow_dvd_of_testBit
  intro q hq
  rw [Nat.testBit_two_pow_mul, Nat.testBit_mul_two_pow, Nat.testBit_div_two_pow]
  cases hK : K.testBit (q - i - (e + 1) + (e + 1)) with
  | false => simp
  | true =>
    have hcopy := h _ hK
    simp only [Bool.and_true, Bool.and_eq_false_iff, decide_eq_false_iff_not]
    omega

section Split

variable (hK : ∀ i, m.testBit i = true → K.testBit (shiftOf m gap i) = true)
  (hzeros : ∀ i, m.testBit i = true → zerosBelow m i ≤ gap)
  (hhigh : ∀ i, m.testBit i = true →
    2 ^ (gap + weight) ∣ 2 ^ i * (K / 2 ^ (shiftOf m gap i + 1) * 2 ^ (shiftOf m gap i + 1)))
include hK hzeros hhigh

/-- **The product, one mask bit at a time.** Let the multiplier have the bit of each mask bit's
shift, and let the higher copies of every mask bit clear the window. Then the bits of `x` below
`n` times the multiplier are the extraction in the window, a low part no larger than the spill,
and a multiple of `2 ^ (gap + weight)`. -/
theorem mul_split (hx : ∀ i, x.testBit i = true → m.testBit i = true) (n : Nat) :
    ∃ lo hi, lo ≤ spillBelow m K gap n ∧
      x % 2 ^ n * K = 2 ^ gap * extractBelow x m n + lo + 2 ^ (gap + weight) * hi := by
  induction n with
  | zero => exact ⟨0, 0, le_rfl, by simp [extractBelow, Nat.mod_one]⟩
  | succ n ih =>
    obtain ⟨lo, hi, hle, heq⟩ := ih
    have hmod : x % 2 ^ (n + 1) = x % 2 ^ n + 2 ^ n * (x / 2 ^ n % 2) := Nat.mod_pow_succ
    cases hxn : x.testBit n with
    | false =>
      have hbit : x / 2 ^ n % 2 = 0 := by
        rw [Nat.testBit_eq_decide_div_mod_eq, decide_eq_false_iff_not] at hxn
        omega
      refine ⟨lo, hi, hle.trans (spillBelow_le_succ m K gap n), ?_⟩
      rw [hmod, hbit, Nat.mul_zero, Nat.add_zero, heq, extractBelow, hxn, Bool.and_false]
      simp
    | true =>
      have hm := hx n hxn
      have hbit : x / 2 ^ n % 2 = 1 := by
        rw [Nat.testBit_eq_decide_div_mod_eq, decide_eq_true_iff] at hxn
        exact hxn
      obtain ⟨c, hc⟩ := hhigh n hm
      have hown : 2 ^ n * 2 ^ shiftOf m gap n = 2 ^ gap * 2 ^ weightBelow m n := by
        rw [← Nat.pow_add, ← Nat.pow_add, add_shiftOf (hzeros n hm)]
      have hprod : 2 ^ n * K = 2 ^ n * (K / 2 ^ (shiftOf m gap n + 1) * 2 ^ (shiftOf m gap n + 1)) +
          2 ^ n * 2 ^ shiftOf m gap n + 2 ^ n * (K % 2 ^ shiftOf m gap n) := by
        conv_lhs => rw [split_at_testBit (hK n hm)]
        ring
      refine ⟨lo + 2 ^ n * (K % 2 ^ shiftOf m gap n), hi + c, ?_, ?_⟩
      · simp only [spillBelow, hm, if_true]
        omega
      · rw [hmod, hbit, Nat.mul_one, Nat.add_mul, heq, hprod, hc, hown]
        simp only [extractBelow, hm, hxn, Bool.and_self, if_true]
        ring

end Split

/-- Shifted up by `d`, the lower copies of every mask bit stay below its own copy: then the spill
below `n`, shifted up by `d`, stays below the copies of all mask bits below `n`. -/
theorem spillBelow_mul_two_pow_le {d : Nat}
    (hzeros : ∀ i, m.testBit i = true → zerosBelow m i ≤ gap)
    (hsmall : ∀ i, m.testBit i = true → K % 2 ^ shiftOf m gap i * 2 ^ d < 2 ^ shiftOf m gap i)
    (n : Nat) : spillBelow m K gap n * 2 ^ d + 2 ^ gap ≤ 2 ^ gap * 2 ^ weightBelow m n := by
  induction n with
  | zero => simp [spillBelow]
  | succ n ih =>
    have hdouble : 2 ^ gap * 2 ^ (weightBelow m n + 1) = 2 * (2 ^ gap * 2 ^ weightBelow m n) := by
      rw [Nat.pow_succ]
      ring
    cases hm : m.testBit n with
    | false => simpa [spillBelow, weightBelow_succ, hm] using ih
    | true =>
      have hcopy : 2 ^ n * (K % 2 ^ shiftOf m gap n) * 2 ^ d < 2 ^ gap * 2 ^ weightBelow m n :=
        calc 2 ^ n * (K % 2 ^ shiftOf m gap n) * 2 ^ d
            = 2 ^ n * (K % 2 ^ shiftOf m gap n * 2 ^ d) := by ring
          _ < 2 ^ n * 2 ^ shiftOf m gap n := Nat.mul_lt_mul_of_pos_left (hsmall n hm) (Nat.two_pow_pos n)
          _ = 2 ^ gap * 2 ^ weightBelow m n := by
            rw [← Nat.pow_add, ← Nat.pow_add, add_shiftOf (hzeros n hm)]
      simp only [spillBelow, weightBelow_succ, hm, if_true, Nat.add_mul, hdouble]
      omega

/-! ### Without carries the gather is exact -/

theorem extractBelow_and_self (x m n : Nat) : extractBelow (x &&& m) m n = extractBelow x m n := by
  induction n with
  | zero => rfl
  | succ n ih =>
    simp only [extractBelow, ih, Nat.testBit_and]
    cases m.testBit n <;> simp

theorem extractBelow_of_size_le {n : Nat} (h : m.size ≤ n) :
    extractBelow x m n = extractBelow x m m.size := by
  obtain ⟨k, rfl⟩ := Nat.exists_eq_add_of_le h
  induction k with
  | zero => rfl
  | succ k ih =>
    rw [← Nat.add_assoc, extractBelow, ih (by omega), testBit_of_size_le (by omega)]
    simp

theorem pext_toNat (raw mask : UInt64) :
    (pext raw mask).toNat = extractBelow raw.toNat mask.toNat 64 := by
  have hlt := extractBelow_lt raw.toNat mask.toNat 64
  have hle : 2 ^ weightBelow mask.toNat 64 ≤ 2 ^ 64 :=
    Nat.pow_le_pow_right (by decide) (weightBelow_le _ _)
  rw [pext, UInt64.toNat_ofNat', Nat.mod_eq_of_lt (by omega)]

/-- The `PEXT` fits in as many bits as the mask has. -/
theorem pext_toNat_lt (raw mask : UInt64) : (pext raw mask).toNat < 2 ^ popCount mask := by
  rw [pext_toNat, popCount_eq_weightBelow]
  exact extractBelow_lt _ _ _

/-- The gather of `mask` at width `w` carries nothing into its window: the higher copies of every
mask bit clear the window whole, and the lower copies of all mask bits add up to less than
`2 ^ gapBits`. -/
structure CarryFree (w : Width) (mask : UInt64) : Prop where
  high : ∀ i, mask.toNat.testBit i = true →
    2 ^ ((Gather.new w mask).gapBits + popCount mask) ∣ 2 ^ i *
      ((Gather.new w mask).coefficient.toNat /
          2 ^ (shiftOf mask.toNat (Gather.new w mask).gapBits i + 1) *
        2 ^ (shiftOf mask.toNat (Gather.new w mask).gapBits i + 1))
  low : spillBelow mask.toNat (Gather.new w mask).coefficient.toNat (Gather.new w mask).gapBits
    w.bits < 2 ^ (Gather.new w mask).gapBits

section Exact

variable {w : Width} {mask : UInt64}

/-- **Without carries the gather is the bit-by-bit `PEXT`.** -/
theorem apply_eq_pext_of_carryFree (hfit : Fits w mask) (h : CarryFree w mask) (raw : UInt64) :
    (Gather.new w mask).apply raw = pext raw mask := by
  have hx : ∀ i, (raw.toNat &&& mask.toNat).testBit i = true → mask.toNat.testBit i = true :=
    fun i hi => by
      rw [Nat.testBit_and] at hi
      exact (Bool.and_eq_true_iff.mp hi).2
  obtain ⟨lo, hi, hle, heq⟩ := mul_split (fun i hi => testBit_coefficient_shiftOf hfit hi)
    (fun i hi => zerosBelow_le_gapBits hfit hi) h.high hx w.bits
  have hsize := size_le_bits hfit
  have hbits := bits_le w
  have hmasked : (raw.toNat &&& mask.toNat) % 2 ^ w.bits = raw.toNat &&& mask.toNat :=
    Nat.mod_eq_of_lt (Nat.lt_of_le_of_lt Nat.and_le_right hfit)
  have hextract : extractBelow (raw.toNat &&& mask.toNat) mask.toNat w.bits =
      extractBelow raw.toNat mask.toNat 64 := by
    rw [extractBelow_and_self, extractBelow_of_size_le hsize,
      extractBelow_of_size_le (by omega : mask.toNat.size ≤ 64)]
  have hp := pext_toNat_lt raw mask
  rw [pext_toNat] at hp
  apply UInt64.toNat_inj.mp
  rw [apply_toNat hfit, pext_toNat, ← hmasked, heq, hextract]
  exact window_eq (Nat.lt_of_le_of_lt hle h.low) hp

/-! ### Runs far apart -/

/-- The runs of mask `m` lie at least `d` clear bits apart: of two mask bits, either no clear bit
lies between them, so that they share a run, or at least `d` clear bits do. -/
def RunsApart (m d : Nat) : Prop :=
  ∀ i j, i < j → m.testBit i = true → m.testBit j = true →
    zerosBelow m i = zerosBelow m j ∨ zerosBelow m i + d ≤ zerosBelow m j

theorem RunsApart.zerosBelow_cases {d i j : Nat} (h : RunsApart m d) (hi : m.testBit i = true)
    (hj : m.testBit j = true) :
    zerosBelow m i = zerosBelow m j ∨ zerosBelow m i + d ≤ zerosBelow m j ∨
      zerosBelow m j + d ≤ zerosBelow m i := by
  rcases Nat.lt_trichotomy i j with hij | rfl | hij
  · rcases h i j hij hi hj with h' | h'
    · exact Or.inl h'
    · exact Or.inr (Or.inl h')
  · exact Or.inl rfl
  · rcases h j i hij hj hi with h' | h'
    · exact Or.inl h'.symm
    · exact Or.inr (Or.inr h')

theorem shiftOf_eq_sub {i : Nat} (h : zerosBelow m i ≤ gap) :
    shiftOf m gap i = gap - zerosBelow m i := by
  have hle := weightBelow_le m i
  unfold zerosBelow at *
  unfold shiftOf
  omega

/-- Under runs `d` apart, each bit of the multiplier lies at a mask bit's own shift or at least
`d` away from it. -/
theorem coefficient_bit_apart {d : Nat} (hfit : Fits w mask) (hruns : RunsApart mask.toNat d)
    {i p : Nat} (hi : mask.toNat.testBit i = true)
    (hp : (Gather.new w mask).coefficient.toNat.testBit p = true) :
    p = shiftOf mask.toNat (Gather.new w mask).gapBits i ∨
      p + d ≤ shiftOf mask.toNat (Gather.new w mask).gapBits i ∨
      shiftOf mask.toNat (Gather.new w mask).gapBits i + d ≤ p := by
  obtain ⟨j, -, hstart, rfl⟩ := (testBit_coefficient hfit p).mp hp
  have hj := testBit_of_startsRun hstart
  have hzi := zerosBelow_le_gapBits hfit hi
  have hzj := zerosBelow_le_gapBits hfit hj
  rw [shiftOf_eq_sub hzi, shiftOf_eq_sub hzj]
  rcases hruns.zerosBelow_cases hj hi with h | h | h <;> omega

/-- Runs at least `2 * weight` clear bits apart cause no carries. A higher copy of a mask bit comes
from a multiplier bit `2 * weight` above the bit's own shift, and a lower copy from one `2 * weight`
below it. -/
theorem carryFree_of_runsApart (hfit : Fits w mask)
    (hruns : RunsApart mask.toNat (2 * popCount mask)) : CarryFree w mask := by
  have hzeros := fun i (hi : mask.toNat.testBit i = true) => zerosBelow_le_gapBits hfit hi
  refine ⟨fun i hi => two_pow_dvd_high fun p hp hlt => ?_, ?_⟩
  · have happart := coefficient_bit_apart hfit hruns hi hp
    have hpos := add_shiftOf (hzeros i hi)
    omega
  · have hsmall : ∀ i, mask.toNat.testBit i = true →
        (Gather.new w mask).coefficient.toNat % 2 ^ shiftOf mask.toNat (Gather.new w mask).gapBits i *
          2 ^ (2 * popCount mask - 1) < 2 ^ shiftOf mask.toNat (Gather.new w mask).gapBits i :=
      fun i hi => mul_two_pow_lt fun p hp => by
        rw [Nat.testBit_mod_two_pow, Bool.and_eq_true, decide_eq_true_iff] at hp
        have happart := coefficient_bit_apart hfit hruns hi hp.2
        omega
    have hbound := spillBelow_mul_two_pow_le hzeros hsmall w.bits
    rw [weightBelow_of_size_le (size_le_bits hfit), ← popCount_eq_weightBelow_size] at hbound
    have hweight : 2 ^ popCount mask ≤ 2 ^ (2 * popCount mask - 1) :=
      Nat.pow_le_pow_right (by decide) (by omega)
    apply Nat.lt_of_mul_lt_mul_right (a := 2 ^ (2 * popCount mask - 1))
    calc _ < 2 ^ (Gather.new w mask).gapBits * 2 ^ popCount mask := by
          have := Nat.two_pow_pos (Gather.new w mask).gapBits
          omega
      _ ≤ 2 ^ (Gather.new w mask).gapBits * 2 ^ (2 * popCount mask - 1) :=
          Nat.mul_le_mul_left _ hweight

/-- **Runs far apart make the gather exact**: when every two runs of a mask of the width lie at
least `2 * weight` clear bits apart, the gather of every key is its bit-by-bit `PEXT`. -/
theorem apply_eq_pext_of_runsApart (hfit : Fits w mask)
    (hruns : RunsApart mask.toNat (2 * popCount mask)) (raw : UInt64) :
    (Gather.new w mask).apply raw = pext raw mask :=
  apply_eq_pext_of_carryFree hfit (carryFree_of_runsApart hfit hruns) raw

end Exact

/-! ### A single run -/

/-- `l` mask bits from position `a` on. -/
def runBits (a l : Nat) : Nat := (2 ^ l - 1) * 2 ^ a

theorem testBit_runBits (a l i : Nat) : (runBits a l).testBit i = decide (a ≤ i ∧ i < a + l) := by
  rw [runBits, Nat.testBit_mul_two_pow, Nat.testBit_two_pow_sub_one]
  by_cases h : a ≤ i
  · simp only [h, decide_true, Bool.true_and, true_and, decide_eq_decide]
    omega
  · simp [h]

theorem runBits_lt (a l : Nat) : runBits a l < 2 ^ (a + l) := by
  have hlt : 2 ^ l - 1 < 2 ^ l := Nat.sub_lt (Nat.two_pow_pos l) Nat.one_pos
  calc runBits a l < 2 ^ l * 2 ^ a := Nat.mul_lt_mul_of_pos_right hlt (Nat.two_pow_pos a)
    _ = 2 ^ (a + l) := by rw [Nat.pow_add, Nat.mul_comm]

/-- Two bits of one run have no clear bit between them. -/
theorem runsApart_runBits (a l d : Nat) : RunsApart (runBits a l) d := by
  intro i j hij hi hj
  left
  rw [testBit_runBits, decide_eq_true_iff] at hi hj
  have hset := weightBelow_add_of_set (m := runBits a l) (a := i) (l := j - i) fun k hk => by
    rw [testBit_runBits, decide_eq_true_iff]
    omega
  rw [Nat.add_sub_cancel' hij.le] at hset
  unfold zerosBelow
  omega

/-- **A single run of bits is gathered exactly**: for the mask of `l` bits from position `a` on,
such as the empty and the full mask of the width, the gather is the bit-by-bit `PEXT`. -/
theorem apply_run_eq_pext {w : Width} {a l : Nat} (hfit : a + l ≤ w.bits) (raw : UInt64) :
    (Gather.new w (UInt64.ofNat (runBits a l))).apply raw = pext raw (UInt64.ofNat (runBits a l)) := by
  have hlt : runBits a l < 2 ^ w.bits :=
    Nat.lt_of_lt_of_le (runBits_lt a l) (Nat.pow_le_pow_right (by decide) hfit)
  have h64 : runBits a l < 2 ^ 64 :=
    Nat.lt_of_lt_of_le hlt (Nat.pow_le_pow_right (by decide) (bits_le w))
  have htoNat : (UInt64.ofNat (runBits a l)).toNat = runBits a l := by
    rw [UInt64.toNat_ofNat', Nat.mod_eq_of_lt h64]
  have hfits : Fits w (UInt64.ofNat (runBits a l)) := by
    rw [Fits, htoNat]
    exact hlt
  apply apply_eq_pext_of_runsApart hfits
  rw [htoNat]
  exact runsApart_runBits a l _

end GatherMap.Proofs.Carries
