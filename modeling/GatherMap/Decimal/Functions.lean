import GatherMap.Decimal.Float

/-!
# Functions of floating-point values

The functions a program may apply to a floating-point value besides arithmetic:

* `toBits` and `ofBits` go between a value and the bits a format stores it in: a sign bit, an
  exponent field and a mantissa field. The exponent field of a normal value is its power of two
  plus the bias; all zeros stands for zero and the subnormal values, all ones for the infinities
  and not-a-number (stored as the quiet one with a clear sign);
* `floor`, `ceil`, `trunc` and `roundAway` are whole numbers near a value, exact and with the
  value's sign kept on a zero result; `roundEven` breaks ties to the even number;
* `sqrt` is correctly rounded: the root is computed on whole numbers far beyond the format's
  precision, and a root that is not exact is marked so that rounding never takes it for a tie;
* `exp` is computed on a binary number of `workBits` bits (halving the argument until it is
  small, summing the series, then squaring back) and rounded once, which gives the nearest
  value unless the exact one lies within a few units of the last of those bits of a tie.
-/

namespace GatherMap.Decimal

namespace Format

/-- The width of the exponent field of a format. -/
def exponentBits (f : Format) : Nat := Nat.log2 (f.maxExp - f.minExp + 2).toNat + 1

/-- The width of the mantissa field: the precision without its leading bit. -/
def mantissaBits (f : Format) : Nat := f.precision - 1

/-- The exponent field that stands for the infinities and not-a-number. -/
def exponentTop (f : Format) : Nat := Nat.pow 2 f.exponentBits - 1

end Format

/-- The whole-number root of `n`, rounded down, by Newton's method from above. -/
def wholeSqrt (n : Nat) : Nat :=
  let rec go : Nat → Nat → Nat
    | 0, r => r
    | fuel + 1, r =>
      if r == 0 then 0 else
      let next := (r + n / r) / 2
      if next < r then go fuel next else r
  go (Nat.log2 n + 8) (Nat.pow 2 (Nat.log2 n / 2 + 1))

namespace FloatValue

/-- The bits a format stores a value in. -/
def toBits (f : Format) : FloatValue → Nat
  | nan => f.exponentTop * Nat.pow 2 f.mantissaBits + Nat.pow 2 (f.mantissaBits - 1)
  | infinite s =>
    (if s then Nat.pow 2 (f.exponentBits + f.mantissaBits) else 0) +
      f.exponentTop * Nat.pow 2 f.mantissaBits
  | finite s x =>
    let sign := if s then Nat.pow 2 (f.exponentBits + f.mantissaBits) else 0
    if x.m ≥ Nat.pow 2 f.mantissaBits then
      let field := (x.q - f.minExp + 1).toNat
      sign + field * Nat.pow 2 f.mantissaBits + (x.m - Nat.pow 2 f.mantissaBits)
    else sign + x.m

/-- The value a format stores in some bits. -/
def ofBits (f : Format) (n : Nat) : FloatValue :=
  let s := (n / Nat.pow 2 (f.exponentBits + f.mantissaBits)) % 2 == 1
  let field := (n / Nat.pow 2 f.mantissaBits) % Nat.pow 2 f.exponentBits
  let fraction := n % Nat.pow 2 f.mantissaBits
  if field == f.exponentTop then (if fraction == 0 then infinite s else nan)
  else if field == 0 then
    finite s (if fraction == 0 then Binary.zero else ⟨fraction, f.minExp, false⟩)
  else
    finite s ⟨Nat.pow 2 f.mantissaBits + fraction, f.minExp + field - 1,
      fraction == 0 && field > 1⟩

/-- Whether the sign bit is set; not-a-number has it clear. -/
def signBit : FloatValue → Bool
  | nan => false
  | infinite s | finite s _ => s

/-- The magnitude of a value. -/
def abs : FloatValue → FloatValue
  | nan => nan
  | infinite _ => infinite false
  | finite _ x => finite false x

/-- The magnitude of `x` with the sign of `y`. -/
def copySign (x y : FloatValue) : FloatValue :=
  match x.abs with
  | nan => nan
  | v => if y.signBit then v.neg else v

/-- A whole number near a value, given how to round the magnitude's fraction `num / den`
(with the value's sign) to a whole number; the sign stays on a zero result. -/
def wholeBy (f : Format) (whole : Bool → Nat → Nat → Nat) : FloatValue → FloatValue
  | finite s x =>
    let (n, d) := x.fraction
    round f s (whole s n d) 1
  | v => v

/-- The greatest whole number not above a value. -/
def floor (f : Format) : FloatValue → FloatValue :=
  wholeBy f fun s n d => if s then (n + d - 1) / d else n / d

/-- The least whole number not below a value. -/
def ceil (f : Format) : FloatValue → FloatValue :=
  wholeBy f fun s n d => if s then n / d else (n + d - 1) / d

/-- The whole part of a value. -/
def trunc (f : Format) : FloatValue → FloatValue := wholeBy f fun _ n d => n / d

/-- The nearest whole number, a tie going away from zero. -/
def roundAway (f : Format) : FloatValue → FloatValue := wholeBy f fun _ n d => (2 * n + d) / (2 * d)

/-- The nearest whole number, a tie going to the even one. -/
def roundEven (f : Format) : FloatValue → FloatValue := wholeBy f fun _ n d => roundHalfEven n d

/-- The part of a value after its whole part. -/
def fract (f : Format) (v : FloatValue) : FloatValue := sub f v (trunc f v)

/-- A positive fraction rounded to a format when it is known only to lie strictly between
`num / den` and the next multiple of `1 / den` above it, or to be `num / den` up to far less
than a unit in the format's last place (`exact` false). The fraction is moved up by less than
`1 / den` and by at most `2^-257` of itself, which keeps it off every tie. -/
def roundInexact (f : Format) (num den : Nat) (exact : Bool) : FloatValue :=
  if exact then round f false num den
  else
    let scale := Nat.pow 2 (257 - min 256 (Nat.log2 num))
    round f false (scale * num + 1) (scale * den)

/-- The correctly rounded square root; not a number for a value below zero. -/
def sqrt (f : Format) : FloatValue → FloatValue
  | nan => nan
  | infinite s => if s then nan else infinite false
  | finite s x =>
    if x.m == 0 then finite s x
    else if s then nan
    else
      let (n, d) := x.fraction
      -- the root times `2 ^ k`, with `k` large enough for every finite value of the format
      let k := 2 * (f.maxExp - f.minExp).toNat + 2 * f.precision
      let scaled := n * Nat.pow 4 k / d
      let r := wholeSqrt scaled
      roundInexact f r (Nat.pow 2 k) (r * r * d == n * Nat.pow 4 k)

/-- The bits of the binary numbers `exp` works with. -/
def workBits : Nat := 256

/-- A positive binary number `m * 2^e`, kept to `workBits` bits. -/
structure Wide where
  m : Nat
  e : Int
  deriving Inhabited

namespace Wide

/-- The number cut to `workBits` bits, rounded down. -/
def normal (w : Wide) : Wide :=
  let len := Nat.log2 w.m + 1
  if len > workBits then ⟨w.m / Nat.pow 2 (len - workBits), w.e + (len - workBits : Nat)⟩ else w

/-- The product of two numbers. -/
def mul (a b : Wide) : Wide := normal ⟨a.m * b.m, a.e + b.e⟩

/-- The number as a fraction. -/
def fraction (w : Wide) : Nat × Nat :=
  if w.e ≥ 0 then (w.m * Nat.pow 2 w.e.toNat, 1) else (w.m, Nat.pow 2 (-w.e).toNat)

end Wide

/-- `exp (num / den)` for a fraction below `2 ^ -16`, by its series, on `workBits` bits. -/
def expSmall (num den : Nat) : Wide :=
  let scale := Nat.pow 2 workBits
  let x := num * scale / den
  -- the terms `x^i / i!` as numbers of `workBits` fractional bits
  let rec sum : Nat → Nat → Nat → Nat → Nat
    | 0, _, _, acc => acc
    | fuel + 1, i, term, acc =>
      let next := term * x / scale / i
      if next == 0 then acc + term else sum fuel (i + 1) next (acc + term)
  ⟨sum 40 1 scale 0, -(workBits : Int)⟩

/-- `e` raised to a positive fraction `num / den`, on `workBits` bits: the argument is halved
until it is small, and the result squared back. -/
def expPositive (num den : Nat) : Wide :=
  let halvings := Nat.log2 (num / den + 1) + 18
  let small := expSmall num (den * Nat.pow 2 halvings)
  (List.range halvings).foldl (fun w _ => w.mul w) small

/-- `e` raised to a value. -/
def exp (f : Format) : FloatValue → FloatValue
  | nan => nan
  | infinite s => if s then finite false Binary.zero else infinite false
  | finite s x =>
    if x.m == 0 then round f false 1 1
    else
      let (n, d) := x.fraction
      -- far beyond the format's range the result is zero or infinite
      if n / d > 2 * (f.maxExp - f.minExp).toNat then
        if s then finite false Binary.zero else infinite false
      else
        let (a, b) := (expPositive n d).fraction
        if s then roundInexact f b a false else roundInexact f a b false

/-- `x` raised to a whole power by repeated squaring, each product rounded as the processor
does; a negative power is the reciprocal of the positive one. -/
def powi (f : Format) (x : FloatValue) (n : Int) : FloatValue :=
  let rec go : Nat → FloatValue → Nat → FloatValue → FloatValue
    | 0, _, _, acc => acc
    | fuel + 1, base, k, acc =>
      let acc := if k % 2 == 1 then mul f acc base else acc
      if k / 2 == 0 then acc else go fuel (mul f base base) (k / 2) acc
  let positive := go 64 x n.natAbs (round f false 1 1)
  if n < 0 then div f (round f false 1 1) positive else positive

end FloatValue

end GatherMap.Decimal
