import GatherMap.Proofs.Carries

/-!
# Masks of two runs

A mask of two runs, `l0` bits from `s0` on and `l1` bits `g` clear bits above them, gets the
multiplier `2 ^ g + 1`: the upper run stays where it is and the lower run moves up by `g`, next
to it. The lower run's unmoved copy lies below the window and the upper run's moved copy above
it exactly when the gap is at least as long as each run:

* `coefficient_twoRuns`: the multiplier of a two-run mask is `2 ^ g + 1`;
* `carryFree_twoRuns`: with `max l0 l1 ≤ g` no carry reaches the window;
* `apply_two_pow_of_le`: a key of one bit at or above the window keeps both its copies there;
* `apply_top_of_lower_run`, `apply_bottom_of_upper_run`: with a shorter gap, the key holding the
  top bit of the lower run, or the bottom bit of the upper run, shows the carry;
* `twoRuns_exact_iff`: the gather of a two-run mask is exact on every key iff `max l0 l1 ≤ g`;
* `sparse_runs_gather_exactly`: runs far apart gather exactly, and two runs exactly when the gap
  is at least as long as each run.
-/

namespace GatherMap.Proofs.TwoRuns

open GatherMap Proofs.Gather Proofs.Multiplier Proofs.Carries

/-- The mask of `l0` bits from `s0` on and `l1` bits from `s0 + l0 + g` on. -/
def twoRuns (s0 l0 g l1 : Nat) : UInt64 :=
  UInt64.ofNat (runBits s0 l0 + runBits (s0 + l0 + g) l1)

theorem runBits_add_two_pow (a l : Nat) : runBits a l + 2 ^ a = 2 ^ (a + l) := by
  have hpos := Nat.one_le_two_pow (n := l)
  rw [runBits, Nat.sub_one_mul, Nat.sub_add_cancel (Nat.le_mul_of_pos_left _ (by omega)),
    Nat.pow_add, Nat.mul_comm]

theorem runBits_succ (a l : Nat) : runBits a (l + 1) = runBits a l + 2 ^ (a + l) := by
  have h := runBits_add_two_pow a l
  have h' := runBits_add_two_pow a (l + 1)
  rw [← Nat.add_assoc, Nat.pow_succ] at h'
  omega

/-- The multiplier of a two-run mask has two bits, at `g` and at `0`. -/
theorem testBit_two_pow_add_one {g : Nat} (hg : 0 < g) (p : Nat) :
    (2 ^ g + 1).testBit p = decide (p = g ∨ p = 0) := by
  have hone : 2 ^ 0 < 2 ^ g := Nat.pow_lt_pow_right (by decide) hg
  rw [show 2 ^ g + 1 = 2 ^ g * 2 ^ 0 + 2 ^ 0 by simp, Nat.testBit_two_pow_mul_add _ hone]
  split <;> rw [Nat.testBit_two_pow] <;> simp only [decide_eq_decide] <;> omega

theorem toNat_ofNat_two_pow {p : Nat} (hp : p < 64) : (UInt64.ofNat (2 ^ p)).toNat = 2 ^ p := by
  rw [UInt64.toNat_ofNat', Nat.mod_eq_of_lt (Nat.pow_lt_pow_right (by decide) hp)]

/-- A key of one bit, at a mask bit, keeps its bit under the mask. -/
theorem two_pow_and_of_testBit {m p : Nat} (h : m.testBit p = true) : 2 ^ p &&& m = 2 ^ p := by
  apply Nat.eq_of_testBit_eq
  intro i
  rw [Nat.testBit_and, Nat.testBit_two_pow]
  by_cases hpi : p = i
  · subst hpi
    simp [h]
  · simp [hpi]

/-- The extraction of a key of one bit is the bit's rank, if it is a mask bit. -/
theorem extractBelow_two_pow (m p n : Nat) :
    extractBelow (2 ^ p) m n = if p < n ∧ m.testBit p = true then 2 ^ weightBelow m p else 0 := by
  induction n with
  | zero => simp [extractBelow]
  | succ n ih =>
    rw [extractBelow, ih, Nat.testBit_two_pow]
    rcases Nat.lt_trichotomy p n with h | rfl | h
    · simp [h, Nat.ne_of_lt h, show p < n + 1 by omega]
    · cases m.testBit p <;> simp
    · simp [show ¬ p < n by omega, show ¬ p < n + 1 by omega, Nat.ne_of_gt h]

variable {w : Width} {s0 l0 g l1 : Nat}

/-! ### The bits of a two-run mask -/

section Bits

variable (h64 : s0 + l0 + g + l1 ≤ 64)
include h64

theorem twoRuns_toNat :
    (twoRuns s0 l0 g l1).toNat = runBits s0 l0 + runBits (s0 + l0 + g) l1 := by
  have hlow : runBits s0 l0 < 2 ^ (s0 + l0 + g) :=
    Nat.lt_of_lt_of_le (runBits_lt s0 l0) (Nat.pow_le_pow_right (by decide) (by omega))
  have htop := runBits_add_two_pow (s0 + l0 + g) l1
  have hle : 2 ^ (s0 + l0 + g + l1) ≤ 2 ^ 64 := Nat.pow_le_pow_right (by decide) h64
  rw [twoRuns, UInt64.toNat_ofNat', Nat.mod_eq_of_lt (by omega)]

theorem twoRuns_lt : (twoRuns s0 l0 g l1).toNat < 2 ^ (s0 + l0 + g + l1) := by
  have hlow : runBits s0 l0 < 2 ^ (s0 + l0 + g) :=
    Nat.lt_of_lt_of_le (runBits_lt s0 l0) (Nat.pow_le_pow_right (by decide) (by omega))
  have htop := runBits_add_two_pow (s0 + l0 + g) l1
  rw [twoRuns_toNat h64]
  omega

/-- The mask bits of a two-run mask are the bits of its two runs. -/
theorem testBit_twoRuns (i : Nat) :
    (twoRuns s0 l0 g l1).toNat.testBit i =
      decide (s0 ≤ i ∧ i < s0 + l0 ∨ s0 + l0 + g ≤ i ∧ i < s0 + l0 + g + l1) := by
  have hlow : runBits s0 l0 < 2 ^ (s0 + l0 + g) :=
    Nat.lt_of_lt_of_le (runBits_lt s0 l0) (Nat.pow_le_pow_right (by decide) (by omega))
  have hsum : runBits s0 l0 + runBits (s0 + l0 + g) l1 =
      2 ^ (s0 + l0 + g) * (2 ^ l1 - 1) + runBits s0 l0 := by
    rw [runBits, runBits]
    ring
  rw [twoRuns_toNat h64, hsum, Nat.testBit_two_pow_mul_add _ hlow]
  split
  · rw [testBit_runBits]
    simp only [decide_eq_decide]
    omega
  · rw [Nat.testBit_two_pow_sub_one]
    simp only [decide_eq_decide]
    omega

theorem testBit_top_of_lower_run (hl0 : 0 < l0) :
    (twoRuns s0 l0 g l1).toNat.testBit (s0 + l0 - 1) = true := by
  rw [testBit_twoRuns h64, decide_eq_true_iff]
  omega

theorem testBit_bottom_of_upper_run (hl1 : 0 < l1) :
    (twoRuns s0 l0 g l1).toNat.testBit (s0 + l0 + g) = true := by
  rw [testBit_twoRuns h64, decide_eq_true_iff]
  omega

/-- The mask bits below `i` are the bits of each run below `i`. -/
theorem weightBelow_twoRuns (i : Nat) :
    weightBelow (twoRuns s0 l0 g l1).toNat i = min (i - s0) l0 + min (i - (s0 + l0 + g)) l1 := by
  induction i with
  | zero => simp
  | succ i ih =>
    rw [weightBelow_succ, ih, testBit_twoRuns h64]
    split
    · rename_i hbit
      rw [decide_eq_true_iff] at hbit
      omega
    · rename_i hbit
      rw [decide_eq_true_iff] at hbit
      omega

theorem popCount_twoRuns : popCount (twoRuns s0 l0 g l1) = l0 + l1 := by
  rw [popCount_eq_weightBelow, weightBelow_twoRuns h64]
  omega

theorem size_twoRuns (hl1 : 0 < l1) : (twoRuns s0 l0 g l1).toNat.size = s0 + l0 + g + l1 := by
  apply le_antisymm (Nat.size_le.mpr (twoRuns_lt h64))
  have htop : (twoRuns s0 l0 g l1).toNat.testBit (s0 + l0 + g + l1 - 1) = true := by
    rw [testBit_twoRuns h64, decide_eq_true_iff]
    omega
  have := lt_size_of_testBit htop
  omega

/-- The runs start at `s0` and at `s0 + l0 + g`. -/
theorem startsRun_twoRuns (hl0 : 0 < l0) (hg : 0 < g) (hl1 : 0 < l1) (j : Nat) :
    startsRun (twoRuns s0 l0 g l1).toNat j = true ↔ j = s0 ∨ j = s0 + l0 + g := by
  cases j with
  | zero =>
    simp only [startsRun, prevBit, testBit_twoRuns h64, Bool.not_false, Bool.and_true,
      decide_eq_true_iff]
    omega
  | succ j =>
    simp only [startsRun, prevBit, testBit_twoRuns h64, Bool.and_eq_true, Bool.not_eq_true',
      decide_eq_true_iff, decide_eq_false_iff_not]
    omega

end Bits

/-! ### The gather of a two-run mask -/

section Gather

variable (hl0 : 0 < l0) (hg : 0 < g) (hl1 : 0 < l1) (hfit : s0 + l0 + g + l1 ≤ w.bits)
include hl0 hg hl1 hfit

omit hl0 hg hl1 in
theorem fits_twoRuns : Fits w (twoRuns s0 l0 g l1) :=
  Nat.lt_of_lt_of_le (twoRuns_lt (hfit.trans (bits_le w)))
    (Nat.pow_le_pow_right (by decide) hfit)

omit hl0 hg in
/-- The window of a two-run mask starts `g` bits above the lower run. -/
theorem gapBits_twoRuns : (Gather.new w (twoRuns s0 l0 g l1)).gapBits = s0 + g := by
  have h64 := hfit.trans (bits_le w)
  have hsum := gapBits_add_popCount (fits_twoRuns hfit)
  rw [popCount_twoRuns h64, size_twoRuns h64 hl1] at hsum
  omega

omit hl0 hg in
/-- The lower run is moved by `g`, the upper run stays. -/
theorem shiftOf_twoRuns (i : Nat) :
    shiftOf (twoRuns s0 l0 g l1).toNat (Gather.new w (twoRuns s0 l0 g l1)).gapBits i =
      s0 + g + min (i - s0) l0 + min (i - (s0 + l0 + g)) l1 - i := by
  rw [shiftOf, gapBits_twoRuns hl1 hfit, weightBelow_twoRuns (hfit.trans (bits_le w)),
    Nat.add_assoc (s0 + g)]

/-- The multiplier of a two-run mask is `2 ^ g + 1`. -/
theorem coefficient_twoRuns : (Gather.new w (twoRuns s0 l0 g l1)).coefficient.toNat = 2 ^ g + 1 := by
  have h64 := hfit.trans (bits_le w)
  have hshift := shiftOf_twoRuns hl1 hfit
  apply Nat.eq_of_testBit_eq
  intro p
  rw [testBit_two_pow_add_one hg, Bool.eq_iff_iff, testBit_coefficient (fits_twoRuns hfit),
    decide_eq_true_iff]
  constructor
  · rintro ⟨j, -, hstart, rfl⟩
    rw [startsRun_twoRuns h64 hl0 hg hl1] at hstart
    rw [hshift]
    omega
  · rintro (rfl | rfl)
    · exact ⟨s0, by omega, (startsRun_twoRuns h64 hl0 hg hl1 s0).mpr (Or.inl rfl), by rw [hshift]; omega⟩
    · exact ⟨s0 + l0 + g, by omega, (startsRun_twoRuns h64 hl0 hg hl1 _).mpr (Or.inr rfl),
        by rw [hshift]; omega⟩

/-- The lower copies of a two-run mask: one copy of the lower run, unmoved. -/
theorem spillBelow_twoRuns (n : Nat) :
    spillBelow (twoRuns s0 l0 g l1).toNat (Gather.new w (twoRuns s0 l0 g l1)).coefficient.toNat
      (Gather.new w (twoRuns s0 l0 g l1)).gapBits n = runBits s0 (min (n - s0) l0) := by
  have h64 := hfit.trans (bits_le w)
  have hmod : (2 ^ g + 1) % 2 ^ g = 1 := by
    rw [Nat.add_mod, Nat.mod_self, Nat.zero_add, Nat.mod_mod,
      Nat.mod_eq_of_lt (Nat.one_lt_two_pow (by omega))]
  induction n with
  | zero => simp [spillBelow, runBits]
  | succ n ih =>
    rw [spillBelow, ih, coefficient_twoRuns hl0 hg hl1 hfit, testBit_twoRuns h64,
      shiftOf_twoRuns hl1 hfit]
    by_cases hlow : s0 ≤ n ∧ n < s0 + l0
    · have hshift : s0 + g + min (n - s0) l0 + min (n - (s0 + l0 + g)) l1 - n = g := by omega
      rw [if_pos (decide_eq_true (Or.inl hlow)), hshift, hmod, Nat.mul_one,
        show min (n + 1 - s0) l0 = min (n - s0) l0 + 1 by omega, runBits_succ,
        show s0 + min (n - s0) l0 = n by omega]
    · by_cases hhigh : s0 + l0 + g ≤ n ∧ n < s0 + l0 + g + l1
      · have hshift : s0 + g + min (n - s0) l0 + min (n - (s0 + l0 + g)) l1 - n = 0 := by omega
        rw [if_pos (decide_eq_true (Or.inr hhigh)), hshift, Nat.pow_zero, Nat.mod_one,
          Nat.mul_zero, Nat.add_zero, show min (n + 1 - s0) l0 = min (n - s0) l0 by omega]
      · have hclear : ¬ (s0 ≤ n ∧ n < s0 + l0 ∨ s0 + l0 + g ≤ n ∧ n < s0 + l0 + g + l1) := by
          omega
        rw [if_neg (by simpa using hclear), Nat.add_zero,
          show min (n + 1 - s0) l0 = min (n - s0) l0 by omega]

/-- **With a gap at least as long as each run, no carry reaches the window.** -/
theorem carryFree_twoRuns (hmax : max l0 l1 ≤ g) : CarryFree w (twoRuns s0 l0 g l1) := by
  have h64 := hfit.trans (bits_le w)
  refine ⟨fun i hi => two_pow_dvd_high fun p hp hlt => ?_, ?_⟩
  · rw [coefficient_twoRuns hl0 hg hl1 hfit, testBit_two_pow_add_one hg, decide_eq_true_iff] at hp
    rw [shiftOf_twoRuns hl1 hfit] at hlt
    rw [testBit_twoRuns h64, decide_eq_true_iff] at hi
    rw [gapBits_twoRuns hl1 hfit, popCount_twoRuns h64]
    omega
  · rw [spillBelow_twoRuns hl0 hg hl1 hfit, gapBits_twoRuns hl1 hfit,
      show min (w.bits - s0) l0 = l0 by omega]
    exact Nat.lt_of_lt_of_le (runBits_lt s0 l0) (Nat.pow_le_pow_right (by decide) (by omega))

/-- The gather of a key of one bit, at a mask bit. -/
theorem apply_two_pow_toNat {p : Nat} (hp : (twoRuns s0 l0 g l1).toNat.testBit p = true) :
    ((Gather.new w (twoRuns s0 l0 g l1)).apply (UInt64.ofNat (2 ^ p))).toNat =
      2 ^ p * (2 ^ g + 1) / 2 ^ (s0 + g) % 2 ^ (l0 + l1) := by
  have h64 := hfit.trans (bits_le w)
  have hlt : p < 64 := Nat.lt_of_lt_of_le (lt_bits_of_testBit (fits_twoRuns hfit) hp) (bits_le w)
  rw [apply_toNat (fits_twoRuns hfit), toNat_ofNat_two_pow hlt, two_pow_and_of_testBit hp,
    coefficient_twoRuns hl0 hg hl1 hfit, gapBits_twoRuns hl1 hfit, popCount_twoRuns h64]

omit hl0 hg hl1 in
/-- The `PEXT` of a key of one bit, at a mask bit: the bit's rank. -/
theorem pext_two_pow_toNat {p : Nat} (hp : (twoRuns s0 l0 g l1).toNat.testBit p = true) :
    (pext (UInt64.ofNat (2 ^ p)) (twoRuns s0 l0 g l1)).toNat =
      2 ^ (min (p - s0) l0 + min (p - (s0 + l0 + g)) l1) := by
  have hlt : p < 64 := Nat.lt_of_lt_of_le (lt_bits_of_testBit (fits_twoRuns hfit) hp) (bits_le w)
  rw [pext_toNat, toNat_ofNat_two_pow hlt, extractBelow_two_pow, if_pos ⟨hlt, hp⟩,
    weightBelow_twoRuns (hfit.trans (bits_le w))]

/-- A key of one bit at or above the window keeps both of its copies there, shifted down by the
window's start. -/
theorem apply_two_pow_of_le {p : Nat} (hp : (twoRuns s0 l0 g l1).toNat.testBit p = true)
    (hle : s0 + g ≤ p) :
    ((Gather.new w (twoRuns s0 l0 g l1)).apply (UInt64.ofNat (2 ^ p))).toNat =
      (2 ^ (p - (s0 + g) + g) + 2 ^ (p - (s0 + g))) % 2 ^ (l0 + l1) := by
  have hsplit : 2 ^ p * (2 ^ g + 1) =
      2 ^ (s0 + g) * (2 ^ (p - (s0 + g) + g) + 2 ^ (p - (s0 + g))) := by
    rw [Nat.mul_add, Nat.mul_one, Nat.mul_add, ← Nat.pow_add, ← Nat.pow_add, ← Nat.pow_add]
    congr 2 <;> omega
  rw [apply_two_pow_toNat hl0 hg hl1 hfit hp, hsplit,
    Nat.mul_div_cancel_left _ (Nat.two_pow_pos _)]

/-- With a gap shorter than the lower run, the top bit of the lower run carries: its unmoved
copy lands in the window too. -/
theorem apply_top_of_lower_run (hshort : g < l0) :
    ((Gather.new w (twoRuns s0 l0 g l1)).apply (UInt64.ofNat (2 ^ (s0 + l0 - 1)))).toNat =
      2 ^ (l0 - 1) + 2 ^ (l0 - 1 - g) := by
  have hsmall : 2 ^ (l0 - 1 - g) < 2 ^ (l0 - 1) := Nat.pow_lt_pow_right (by decide) (by omega)
  have htop : 2 ^ (l0 - 1) + 2 ^ (l0 - 1) ≤ 2 ^ (l0 + l1) := by
    rw [← Nat.two_mul, ← Nat.pow_succ']
    exact Nat.pow_le_pow_right (by decide) (by omega)
  rw [apply_two_pow_of_le hl0 hg hl1 hfit (testBit_top_of_lower_run (hfit.trans (bits_le w)) hl0)
      (by omega), show s0 + l0 - 1 - (s0 + g) + g = l0 - 1 by omega,
    show s0 + l0 - 1 - (s0 + g) = l0 - 1 - g by omega, Nat.mod_eq_of_lt (by omega)]

/-- With a gap shorter than the upper run, the bottom bit of the upper run carries: its moved
copy lands in the window too. -/
theorem apply_bottom_of_upper_run (hshort : g < l1) :
    ((Gather.new w (twoRuns s0 l0 g l1)).apply (UInt64.ofNat (2 ^ (s0 + l0 + g)))).toNat =
      2 ^ (l0 + g) + 2 ^ l0 := by
  have hsmall : 2 ^ l0 < 2 ^ (l0 + g) := Nat.pow_lt_pow_right (by decide) (by omega)
  have htop : 2 ^ (l0 + g) + 2 ^ (l0 + g) ≤ 2 ^ (l0 + l1) := by
    rw [← Nat.two_mul, ← Nat.pow_succ']
    exact Nat.pow_le_pow_right (by decide) (by omega)
  rw [apply_two_pow_of_le hl0 hg hl1 hfit (testBit_bottom_of_upper_run (hfit.trans (bits_le w)) hl1)
      (by omega), show s0 + l0 + g - (s0 + g) = l0 by omega, Nat.mod_eq_of_lt (by omega)]

/-- **A two-run mask is gathered exactly iff its gap is at least as long as each run.** -/
theorem twoRuns_exact_iff :
    (∀ raw, (Gather.new w (twoRuns s0 l0 g l1)).apply raw = pext raw (twoRuns s0 l0 g l1)) ↔
      max l0 l1 ≤ g := by
  have h64 := hfit.trans (bits_le w)
  constructor
  · intro hexact
    by_contra hlong
    rcases lt_max_iff.mp (Nat.lt_of_not_le hlong) with hshort | hshort
    · have hp : (twoRuns s0 l0 g l1).toNat.testBit (s0 + l0 - 1) = true :=
        testBit_top_of_lower_run h64 hl0
      have heq := congrArg UInt64.toNat (hexact (UInt64.ofNat (2 ^ (s0 + l0 - 1))))
      rw [apply_top_of_lower_run hl0 hg hl1 hfit hshort, pext_two_pow_toNat hfit hp,
        show min (s0 + l0 - 1 - s0) l0 + min (s0 + l0 - 1 - (s0 + l0 + g)) l1 = l0 - 1 by omega]
        at heq
      have hpos := Nat.two_pow_pos (l0 - 1 - g)
      omega
    · have hp : (twoRuns s0 l0 g l1).toNat.testBit (s0 + l0 + g) = true :=
        testBit_bottom_of_upper_run h64 hl1
      have heq := congrArg UInt64.toNat (hexact (UInt64.ofNat (2 ^ (s0 + l0 + g))))
      rw [apply_bottom_of_upper_run hl0 hg hl1 hfit hshort, pext_two_pow_toNat hfit hp,
        show min (s0 + l0 + g - s0) l0 + min (s0 + l0 + g - (s0 + l0 + g)) l1 = l0 by omega]
        at heq
      have hpos := Nat.two_pow_pos (l0 + g)
      omega
  · intro hmax raw
    exact apply_eq_pext_of_carryFree (fits_twoRuns hfit)
      (carryFree_twoRuns hl0 hg hl1 hfit hmax) raw

end Gather

/-! ### Exact gathers -/

/-- **Runs far apart gather exactly.** For every width and every mask of the width whose runs lie
at least `2 * weight` clear bits apart, the gather of every key is its bit-by-bit `PEXT`. A mask
of two runs, `l0` bits and `l1` bits with `g` clear bits between them, is gathered exactly on
every key iff `g ≥ max l0 l1`. -/
theorem sparse_runs_gather_exactly :
    (∀ (w : Width) (mask raw : UInt64), Fits w mask → RunsApart mask.toNat (2 * popCount mask) →
      (Gather.new w mask).apply raw = pext raw mask) ∧
    (∀ (w : Width) (s0 l0 g l1 : Nat), 0 < l0 → 0 < g → 0 < l1 → s0 + l0 + g + l1 ≤ w.bits →
      ((∀ raw, (Gather.new w (twoRuns s0 l0 g l1)).apply raw = pext raw (twoRuns s0 l0 g l1)) ↔
        max l0 l1 ≤ g)) :=
  ⟨fun _ _ raw hfit hruns => apply_eq_pext_of_runsApart hfit hruns raw,
    fun _ _ _ _ _ hl0 hg hl1 hfit => twoRuns_exact_iff hl0 hg hl1 hfit⟩

/-- The byte mask `0xf0`, one run, gathers `0xa5` exactly; and the mask `0b101` of two one-bit
runs one bit apart is gathered exactly on every key. -/
theorem sparse_runs_gather_exactly_u8 :
    Fits .w8 (UInt64.ofNat (runBits 4 4)) ∧
      RunsApart (UInt64.ofNat (runBits 4 4)).toNat (2 * popCount (UInt64.ofNat (runBits 4 4))) ∧
      (Gather.new .w8 (UInt64.ofNat (runBits 4 4))).apply 0xa5 =
        pext 0xa5 (UInt64.ofNat (runBits 4 4)) ∧
      0 < 1 ∧ 0 < 1 ∧ 0 < 1 ∧ 0 + 1 + 1 + 1 ≤ Width.w8.bits ∧
      ((∀ raw, (Gather.new .w8 (twoRuns 0 1 1 1)).apply raw = pext raw (twoRuns 0 1 1 1)) ↔
        max 1 1 ≤ 1) := by
  have hfit : Fits .w8 (UInt64.ofNat (runBits 4 4)) := by decide
  have hruns : RunsApart (UInt64.ofNat (runBits 4 4)).toNat
      (2 * popCount (UInt64.ofNat (runBits 4 4))) := runsApart_runBits 4 4 _
  have hl0 : 0 < 1 := Nat.one_pos
  have hwidth : 0 + 1 + 1 + 1 ≤ Width.w8.bits := by decide
  exact ⟨hfit, hruns, sparse_runs_gather_exactly.1 .w8 _ 0xa5 hfit hruns, hl0, hl0, hl0, hwidth,
    sparse_runs_gather_exactly.2 .w8 0 1 1 1 hl0 hl0 hl0 hwidth⟩

end GatherMap.Proofs.TwoRuns
