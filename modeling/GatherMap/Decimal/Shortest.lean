/-!
# The shortest decimal of a binary floating-point value

A decimal literal names the binary floating-point value nearest to it, a tie going to the value
with an even mantissa. That value is shown as the decimal with the fewest significant digits
that still reads back as the same value, and of two such decimals of one length the nearer one,
the larger on an exact tie.

Everything is exact arithmetic over `Nat` and `Int`:

* `Format.nearest` rounds a positive fraction to the format, or finds that it overflows;
* `Binary.readsBack` is the specification of a good decimal: it lies among the reals that round
  to the value, ends included exactly when the mantissa is even;
* `Binary.shortest` searches grids of 1, 2, … 17 significant digits around the value and takes
  the first grid with a decimal that reads back.
-/

namespace GatherMap.Decimal

/-- A binary floating-point format: its mantissa width with the hidden bit, the exponent of its
least subnormal unit, and the largest exponent of a finite value. -/
structure Format where
  precision : Nat
  minExp : Int
  maxExp : Int
  deriving DecidableEq, Repr, Inhabited

/-- 64-bit binary floating point. -/
def binary64 : Format := ⟨53, -1074, 971⟩

/-- 32-bit binary floating point. -/
def binary32 : Format := ⟨24, -149, 104⟩

/-- A finite non-negative value `m * 2^q` of a format. -/
structure Binary where
  m : Nat
  q : Int
  /-- The gap to the value below is half the gap to the value above. -/
  narrowBelow : Bool
  deriving DecidableEq, Repr, Inhabited

/-- A decimal `digits * 10^exp`. -/
structure Dec where
  digits : Nat
  exp : Int
  deriving DecidableEq, Repr, Inhabited

/-- Compare `a * 10^i` with `n * 2^j`, exactly. -/
def cmpScaled (a : Nat) (i : Int) (n : Nat) (j : Int) : Ordering :=
  compare (a * Nat.pow 10 i.toNat * Nat.pow 2 (-j).toNat)
    (n * Nat.pow 2 j.toNat * Nat.pow 10 (-i).toNat)

/-- The decimal as a fraction: numerator and denominator. -/
def Dec.fraction (d : Dec) : Nat × Nat :=
  if d.exp ≥ 0 then (d.digits * Nat.pow 10 d.exp.toNat, 1)
  else (d.digits, Nat.pow 10 (-d.exp).toNat)

/-- `num / den` rounded to a whole number, a tie to the even one. -/
def roundHalfEven (num den : Nat) : Nat :=
  let q := num / den
  let r := num % den
  if 2 * r > den then q + 1
  else if 2 * r < den then q
  else if q % 2 == 0 then q else q + 1

/-- The power of two of the leading bit of a positive fraction: `2^e ≤ num / den < 2^(e+1)`. -/
def leadingExp (num den : Nat) : Int :=
  let guess : Int := (Nat.log2 num : Int) - Nat.log2 den
  let atGuess := if guess ≥ 0 then num ≥ den * Nat.pow 2 guess.toNat
    else num * Nat.pow 2 (-guess).toNat ≥ den
  if atGuess then guess else guess - 1

/-- The value of the format nearest to the positive fraction `num / den`, or none when it is
too large for the format. -/
def Format.nearest (f : Format) (num den : Nat) : Option Binary :=
  let e := leadingExp num den
  let q0 := max (e - (f.precision - 1 : Nat)) f.minExp
  let m0 := if q0 ≥ 0 then roundHalfEven num (den * Nat.pow 2 q0.toNat)
    else roundHalfEven (num * Nat.pow 2 (-q0).toNat) den
  let (m, q) := if m0 == Nat.pow 2 f.precision then (m0 / 2, q0 + 1) else (m0, q0)
  if q > f.maxExp then none
  else some ⟨m, q, m == Nat.pow 2 (f.precision - 1) && q > f.minExp⟩

/-- Whether `d` lies among the reals that round to `x`: from halfway to the value below to
halfway to the value above, ends included exactly when the mantissa is even. -/
def Binary.readsBack (x : Binary) (d : Dec) : Bool :=
  let lo := if x.narrowBelow then 4 * x.m - 1 else 4 * x.m - 2
  let hi := 4 * x.m + 2
  let incl := x.m % 2 == 0
  let cl := cmpScaled d.digits d.exp lo (x.q - 2)
  let ch := cmpScaled d.digits d.exp hi (x.q - 2)
  (cl == .gt || (incl && cl == .eq)) && (ch == .lt || (incl && ch == .eq))

/-- The least `k` with `x < 10^k`, searched from a guess. -/
def Binary.scaleFrom (x : Binary) : Nat → Int → Int
  | 0, k => k
  | fuel + 1, k =>
    if cmpScaled 1 k x.m x.q != .gt then x.scaleFrom fuel (k + 1)
    else if cmpScaled 1 (k - 1) x.m x.q == .gt then x.scaleFrom fuel (k - 1)
    else k

/-- The least `k` with `x < 10^k`, for a positive `x`. -/
def Binary.scale (x : Binary) : Int :=
  let bits : Int := (Nat.log2 x.m : Int) + x.q
  x.scaleFrom 8 (bits * 30103 / 100000 + 1)

/-- `⌊x / 10^g⌋`. -/
def Binary.floorOn (x : Binary) (g : Int) : Nat :=
  (x.m * Nat.pow 2 x.q.toNat * Nat.pow 10 (-g).toNat) /
    (Nat.pow 2 (-x.q).toNat * Nat.pow 10 g.toNat)

/-- The decimal on the grid `10^g` that reads back as `x`: of the two neighbours of `x` on the
grid, the one that does, the nearer when both do, the larger on a tie. -/
def Binary.onGrid (x : Binary) (g : Int) : Option Dec :=
  let below := x.floorOn g
  let a : Dec := ⟨below, g⟩
  let b : Dec := ⟨below + 1, g⟩
  match x.readsBack a, x.readsBack b with
  | true, true =>
    -- compare twice the value with the sum of the two neighbours
    if cmpScaled (2 * below + 1) g x.m (x.q + 1) == .gt then some a else some b
  | true, false => some a
  | false, true => some b
  | false, false => none

/-- The decimals on grids of `n`, `n + 1`, … digits below the scale `k`, the first that
reads back. -/
def Binary.search (x : Binary) (k : Int) : Nat → Nat → Option Dec
  | 0, _ => none
  | fuel + 1, n =>
    match x.onGrid (k - n) with
    | some d => some d
    | none => x.search k fuel (n + 1)

/-- The exact decimal value of `x`. -/
def Binary.exact (x : Binary) : Dec :=
  if x.q ≥ 0 then ⟨x.m * Nat.pow 2 x.q.toNat, 0⟩ else ⟨x.m * Nat.pow 5 (-x.q).toNat, x.q⟩

/-- The shortest decimal that reads back as `x`. -/
def Binary.shortest (x : Binary) : Dec :=
  if x.m == 0 then ⟨0, 0⟩ else (x.search x.scale 17 1).getD x.exact

end GatherMap.Decimal
