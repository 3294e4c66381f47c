import GatherMap.Decimal.Functions

/-!
# Elementary functions of floating-point values

The logarithms, powers, roots and the circular and hyperbolic functions of a value, each the
value of the format nearest to the exact result. They are computed on fixed-point numbers of
`fixBits` fractional bits, far beyond the precision of any format, and the approximation is
rounded once, marked inexact so that it is never taken for a tie:

* `ln` splits its argument into a power of two and a mantissa `m` in `(1/2, 2)`, and sums the
  series of `atanh` at `(m - 1) / (m + 1)`, below `1/3` in magnitude, for `ln m`;
* `π` is Machin's `16 atan (1/5) - 4 atan (1/239)`, to as many bits as the reduction of a large
  argument by `π/2` needs;
* `sin` and `cos` reduce their argument to `[-π/4, π/4]` and sum their series; `tan` divides
  them;
* `atan` halves its argument's angle three times and sums its series; the inverse sine and
  cosine and `atan2` are written with it;
* powers and the hyperbolic functions go through `exp` and `ln`; a whole power, `cbrt` and
  `hypot` are computed exactly before their one rounding.

Near zero, where the value of `sin`, `tan`, `atan`, `sinh`, … is its argument up to far less
than half a unit in the last place, the argument itself is the nearest value and is given back;
this keeps the fixed-point numbers from losing the result's relative precision.
-/

namespace GatherMap.Decimal

/-- The fractional bits of the fixed-point numbers the functions work with. -/
def fixBits : Nat := 320

/-- One in fixed point, as a whole number. -/
def fixUnit : Nat := Nat.pow 2 fixBits

/-- One in fixed point. -/
def fixOne : Int := fixUnit

/-- The whole cube root of `n`, rounded down, by Newton's method from above. -/
def wholeCbrt (n : Nat) : Nat :=
  let rec go : Nat → Nat → Nat
    | 0, r => r
    | fuel + 1, r =>
      if r == 0 then 0 else
      let next := (2 * r + n / (r * r)) / 3
      if next < r then go fuel next else r
  go (Nat.log2 n + 8) (Nat.pow 2 (Nat.log2 n / 3 + 1))

namespace Fixed

/-- The quotient of an integer by a positive whole number, rounded toward zero. -/
def quot (a : Int) (b : Nat) : Int :=
  let q : Int := (a.natAbs / b : Nat)
  if a < 0 then -q else q

/-- The product of two fixed-point numbers, rounded toward zero. -/
def mul (a b : Int) : Int :=
  let p : Int := (a.natAbs * b.natAbs / fixUnit : Nat)
  if (a < 0) != (b < 0) then -p else p

/-- The quotient of two fixed-point numbers, rounded toward zero; zero for a zero divisor. -/
def div (a b : Int) : Int :=
  if b == 0 then 0 else
  let p : Int := (a.natAbs * fixUnit / b.natAbs : Nat)
  if (a < 0) != (b < 0) then -p else p

/-- A fraction in fixed point. -/
def ofFraction (num : Int) (den : Nat) : Int := if den == 0 then 0 else quot (num * fixOne) den

/-- The square root of a non-negative fixed-point number. -/
def sqrt (a : Int) : Int := (wholeSqrt (a.toNat * fixUnit) : Nat)

/-- `atanh z = z + z³/3 + z⁵/5 + …`, for `|z|` at most a half. -/
def atanh (z : Int) : Int :=
  let z2 := mul z z
  let rec go : Nat → Nat → Int → Int → Int
    | 0, _, _, acc => acc
    | fuel + 1, k, power, acc =>
      if power == 0 then acc
      else go fuel (k + 1) (mul power z2) (acc + quot power (2 * k + 1))
  go 600 0 z 0

/-- `ln 2 = 2 atanh (1/3)`. -/
def ln2 : Int := 2 * atanh (ofFraction 1 3)

/-- The natural logarithm of a positive fraction `num / den`: with `e` the difference of the
lengths of `num` and `den`, the fraction is `2^e · m` with `m` in `(1/2, 2)`, and
`ln m = 2 atanh ((m - 1) / (m + 1))`. -/
def lnFraction (num den : Nat) : Int :=
  let e : Int := (Nat.log2 num : Int) - (Nat.log2 den : Int)
  let (a, b) := if e ≥ 0 then (num, den * Nat.pow 2 e.toNat) else (num * Nat.pow 2 (-e).toNat, den)
  2 * atanh (ofFraction ((a : Int) - (b : Int)) (a + b)) + e * ln2

/-- `atan (1/k)` with `bits` fractional bits, by its series. -/
def atanInverse (k bits : Nat) : Int :=
  let rec go : Nat → Nat → Nat → Int → Int
    | 0, _, _, acc => acc
    | fuel + 1, i, term, acc =>
      if term == 0 then acc
      else
        let t : Int := (term / (2 * i + 1) : Nat)
        go fuel (i + 1) (term / (k * k)) (if i % 2 == 0 then acc + t else acc - t)
  go (bits + 8) 0 (Nat.pow 2 bits / k) 0

/-- `π` with `bits` fractional bits, by Machin's formula and sixteen guard bits. -/
def piWith (bits : Nat) : Int :=
  quot (16 * atanInverse 5 (bits + 16) - 4 * atanInverse 239 (bits + 16)) (Nat.pow 2 16)

/-- `π` in fixed point. -/
def pi : Int := piWith fixBits

/-- A non-negative fraction `num / den` reduced by `π/2`: the nearest whole number `q` of
quarter turns in it, and the rest `num / den - q π/2` in fixed point, at most `π/4` in
magnitude. `π` is taken to enough bits that the rest keeps all of `fixBits`. -/
def reduceQuarter (num den : Nat) : Nat × Int :=
  let bits := fixBits + Nat.log2 (num / den + 1) + 64
  let p := piWith bits
  let scaled : Int := (num * Nat.pow 2 bits / den : Nat)
  let q := ((4 * scaled + p) / (2 * p)).toNat
  let rest := scaled - quot ((q : Int) * p) 2
  (q, quot rest (Nat.pow 2 (bits - fixBits)))

/-- `sin r` and `cos r` for a fixed-point `r` at most `π/4` in magnitude, by their series. -/
def sinCos (r : Int) : Int × Int :=
  let r2 := mul r r
  let rec go : Nat → Nat → Int → Int → Int
    | 0, _, _, acc => acc
    | fuel + 1, k, term, acc =>
      if term == 0 then acc
      else go fuel (k + 2) (-(quot (mul term r2) ((k + 1) * (k + 2)))) (acc + term)
  (go 200 1 r 0, go 200 0 fixOne 0)

/-- `sin` and `cos` of a non-negative fraction `num / den`, from those of the rest after the
quarter turns are taken out. -/
def sinCosFraction (num den : Nat) : Int × Int :=
  let (q, r) := reduceQuarter num den
  let (s, c) := sinCos r
  match q % 4 with
  | 0 => (s, c)
  | 1 => (c, -s)
  | 2 => (-s, -c)
  | _ => (-c, s)

/-- `atan v` for a fixed-point `v` at most one in magnitude: the angle is halved three times
(`atan v = 2 atan (v / (1 + √(1 + v²)))`), which leaves an argument below `0.1`, before the
series `v - v³/3 + v⁵/5 - …` is summed. -/
def atanSmall (v : Int) : Int :=
  let halve (w : Int) : Int := div w (fixOne + sqrt (fixOne + mul w w))
  let w := halve (halve (halve v))
  let w2 := mul w w
  let rec go : Nat → Nat → Int → Int → Int
    | 0, _, _, acc => acc
    | fuel + 1, k, power, acc =>
      if power == 0 then acc
      else go fuel (k + 1) (-(mul power w2)) (acc + quot power (2 * k + 1))
  8 * go 400 0 w 0

/-- `atan v` for a fixed-point `v`; beyond one it is `±π/2 - atan (1/v)`. -/
def atan (v : Int) : Int :=
  if v.natAbs > fixUnit then
    let inner := atanSmall (div fixOne v)
    if v < 0 then -(quot pi 2) - inner else quot pi 2 - inner
  else atanSmall v

end Fixed

/-- Whether a magnitude is below `2 ^ -bits`. -/
def Binary.below (x : Binary) (bits : Nat) : Bool :=
  (Nat.log2 x.m : Int) + x.q < -(bits : Int)

/-- Whether a finite magnitude is a whole number, and then whether it is odd. -/
def Binary.parity (x : Binary) : Option Bool :=
  let (n, d) := x.fraction
  if n % d == 0 then some ((n / d) % 2 == 1) else none

namespace FloatValue

/-- The value of format `f` nearest to `num / den`, with a sign, when that fraction is an
approximation of a value that is not exact (`roundInexact`). -/
def roundNear (f : Format) (negative : Bool) (num den : Nat) : FloatValue :=
  let v := roundInexact f num den false
  if negative then v.neg else v

/-- The value of format `f` nearest to a fixed-point approximation. -/
def ofFixed (f : Format) (v : Int) : FloatValue := roundNear f (v < 0) v.natAbs fixUnit

/-- `e` raised to a fixed-point number; far beyond the format's range the value is zero or
infinite. -/
def expOfFixed (f : Format) (t : Int) : FloatValue :=
  if t.natAbs / fixUnit > 2 * (f.maxExp - f.minExp).toNat then
    if t < 0 then finite false Binary.zero else infinite false
  else
    let (a, b) := (expPositive t.natAbs fixUnit).fraction
    if t < 0 then roundInexact f b a false else roundInexact f a b false

/-- The natural logarithm: not a number below zero, minus infinity at zero, and exactly zero
at one. -/
def ln (f : Format) : FloatValue → FloatValue
  | nan => nan
  | infinite s => if s then nan else infinite false
  | finite s x =>
    if x.m == 0 then infinite true
    else if s then nan
    else
      let (n, d) := x.fraction
      if n == d then finite false Binary.zero else ofFixed f (Fixed.lnFraction n d)

/-- The logarithm in base two: exact at the powers of two. -/
def log2 (f : Format) : FloatValue → FloatValue
  | nan => nan
  | infinite s => if s then nan else infinite false
  | finite s x =>
    if x.m == 0 then infinite true
    else if s then nan
    else
      let (n, d) := x.fraction
      if n == Nat.pow 2 (Nat.log2 n) then
        let e : Int := (Nat.log2 n : Int) - (Nat.log2 d : Int)
        round f (e < 0) e.natAbs 1
      else ofFixed f (Fixed.div (Fixed.lnFraction n d) Fixed.ln2)

/-- The logarithm in base ten: exact at the powers of ten. -/
def log10 (f : Format) : FloatValue → FloatValue
  | nan => nan
  | infinite s => if s then nan else infinite false
  | finite s x =>
    if x.m == 0 then infinite true
    else if s then nan
    else
      let (n, d) := x.fraction
      let digits := (toString n).length - 1
      if d == 1 && n == Nat.pow 10 digits then round f false digits 1
      else ofFixed f (Fixed.div (Fixed.lnFraction n d) (Fixed.lnFraction 10 1))

/-- `ln (1 + x)`, given back as `x` near zero. -/
def ln1p (f : Format) : FloatValue → FloatValue
  | nan => nan
  | infinite s => if s then nan else infinite false
  | finite s x =>
    if x.m == 0 || x.below 60 then finite s x
    else
      let (n, d) := x.fraction
      if s then
        if n > d then nan
        else if n == d then infinite true
        else ofFixed f (Fixed.lnFraction (d - n) d)
      else ofFixed f (Fixed.lnFraction (d + n) d)

/-- Two raised to a value: exact at whole numbers. -/
def exp2 (f : Format) : FloatValue → FloatValue
  | nan => nan
  | infinite s => if s then finite false Binary.zero else infinite false
  | finite s x =>
    if x.m == 0 then round f false 1 1
    else
      let (n, d) := x.fraction
      if n / d > 4 * (f.maxExp - f.minExp).toNat then
        if s then finite false Binary.zero else infinite false
      else if n % d == 0 then
        if s then round f false 1 (Nat.pow 2 (n / d)) else round f false (Nat.pow 2 (n / d)) 1
      else
        let t := Fixed.mul (Fixed.ofFraction n d) Fixed.ln2
        expOfFixed f (if s then -t else t)

/-- `e^x - 1`, given back as `x` near zero. -/
def expM1 (f : Format) : FloatValue → FloatValue
  | nan => nan
  | infinite s => if s then round f true 1 1 else infinite false
  | finite s x =>
    if x.m == 0 || x.below 60 then finite s x
    else
      let (n, d) := x.fraction
      if n / d > 2 * (f.maxExp - f.minExp).toNat then
        if s then round f true 1 1 else infinite false
      else
        let (a, b) := (expPositive n d).fraction
        if s then roundNear f true (a - b) a else roundNear f false (a - b) b

/-- `x` raised to the power `y`, with the special values the standard gives: `x⁰` and `1^y`
are one, a negative `x` has no power that is not whole, and the zeros and infinities follow
the sign of an odd whole power. A whole power small enough is computed exactly; any other is
`e^(y ln |x|)`. -/
def powf (f : Format) (x y : FloatValue) : FloatValue :=
  let one := round f false 1 1
  let zero := finite false Binary.zero
  let oddWhole : Bool := match y with
    | finite _ b => b.parity == some true
    | _ => false
  let yNegative := y.signBit
  if y.isZero || x == one then one
  else match x, y with
  | nan, _ | _, nan => nan
  | _, infinite ys =>
    if x.abs == one then one
    else if (compare? x.abs one == some .lt) == ys then infinite false
    else zero
  | infinite xs, _ =>
    let negative := xs && oddWhole
    if yNegative then finite negative Binary.zero else infinite negative
  | finite xs xb, finite _ yb =>
    if xb.m == 0 then
      let negative := xs && oddWhole
      if yNegative then infinite negative else finite negative Binary.zero
    else if xs && yb.parity.isNone then nan
    else
      let negative := xs && oddWhole
      let (n, d) := xb.fraction
      let (yn, yd) := yb.fraction
      let k := yn / yd
      if yn % yd == 0 && k * (Nat.log2 n + Nat.log2 d + 2) ≤ 200000 then
        if yNegative then round f negative (Nat.pow d k) (Nat.pow n k)
        else round f negative (Nat.pow n k) (Nat.pow d k)
      else
        let t := Fixed.quot ((yn : Int) * Fixed.lnFraction n d) yd
        let v := expOfFixed f (if yNegative then -t else t)
        if negative then v.neg else v

/-- The logarithm in a base, as the natural logarithms of the value and of the base divided,
each rounded. -/
def logBase (f : Format) (x base : FloatValue) : FloatValue := div f (ln f x) (ln f base)

/-- The sine: not a number at the infinities, and the argument near zero. -/
def sin (f : Format) : FloatValue → FloatValue
  | nan | infinite _ => nan
  | finite s x =>
    if x.m == 0 || x.below 40 then finite s x
    else
      let (n, d) := x.fraction
      let v := (Fixed.sinCosFraction n d).1
      ofFixed f (if s then -v else v)

/-- The cosine: not a number at the infinities. -/
def cos (f : Format) : FloatValue → FloatValue
  | nan | infinite _ => nan
  | finite _ x =>
    if x.m == 0 then round f false 1 1
    else
      let (n, d) := x.fraction
      ofFixed f (Fixed.sinCosFraction n d).2

/-- The tangent, as the sine over the cosine: not a number at the infinities, and the argument
near zero. -/
def tan (f : Format) : FloatValue → FloatValue
  | nan | infinite _ => nan
  | finite s x =>
    if x.m == 0 || x.below 40 then finite s x
    else
      let (n, d) := x.fraction
      let (sv, cv) := Fixed.sinCosFraction n d
      roundNear f (s != ((sv < 0) != (cv < 0))) sv.natAbs cv.natAbs

/-- The arctangent: `±π/2` at the infinities, and the argument near zero. -/
def atan (f : Format) : FloatValue → FloatValue
  | nan => nan
  | infinite s => ofFixed f (if s then -(Fixed.quot Fixed.pi 2) else Fixed.quot Fixed.pi 2)
  | finite s x =>
    if x.m == 0 || x.below 40 then finite s x
    else
      let (n, d) := x.fraction
      let v := Fixed.atan (Fixed.ofFraction n d)
      ofFixed f (if s then -v else v)

/-- The arcsine of a magnitude `num / den` below one, in fixed point:
`asin v = atan (v / √(1 - v²))`. -/
def asinFraction (num den : Nat) : Int :=
  let root := Fixed.sqrt (Fixed.ofFraction ((den * den - num * num : Nat) : Int) (den * den))
  Fixed.atan (Fixed.div (Fixed.ofFraction num den) root)

/-- The arcsine: not a number beyond one, `±π/2` at one, and the argument near zero. -/
def asin (f : Format) : FloatValue → FloatValue
  | nan | infinite _ => nan
  | finite s x =>
    if x.m == 0 || x.below 40 then finite s x
    else
      let (n, d) := x.fraction
      if n > d then nan
      else
        let v := if n == d then Fixed.quot Fixed.pi 2 else asinFraction n d
        ofFixed f (if s then -v else v)

/-- The arccosine, `π/2` minus the arcsine: not a number beyond one, zero at one and `π` at
minus one. -/
def acos (f : Format) : FloatValue → FloatValue
  | nan | infinite _ => nan
  | finite s x =>
    if x.m == 0 then ofFixed f (Fixed.quot Fixed.pi 2)
    else
      let (n, d) := x.fraction
      if n > d then nan
      else if n == d then (if s then ofFixed f Fixed.pi else finite false Binary.zero)
      else
        let a := asinFraction n d
        ofFixed f (Fixed.quot Fixed.pi 2 - (if s then -a else a))

/-- The angle of the point `(x, y)`, from `-π` to `π`, with the standard's values at the zeros
and infinities; a ratio `y / x` too small for the fixed-point numbers is its own arctangent. -/
def atan2 (f : Format) (y x : FloatValue) : FloatValue :=
  let signed (negative : Bool) (v : Int) : FloatValue := ofFixed f (if negative then -v else v)
  let half := Fixed.quot Fixed.pi 2
  match y, x with
  | nan, _ | _, nan => nan
  | infinite ys, infinite xs =>
    signed ys (if xs then Fixed.quot (3 * Fixed.pi) 4 else Fixed.quot Fixed.pi 4)
  | infinite ys, _ => signed ys half
  | finite ys _, infinite xs => if xs then signed ys Fixed.pi else finite ys Binary.zero
  | finite ys yb, finite xs xb =>
    if yb.m == 0 then (if xs then signed ys Fixed.pi else finite ys Binary.zero)
    else if xb.m == 0 then signed ys half
    else
      let (yn, yd) := yb.fraction
      let (xn, xd) := xb.fraction
      let (num, den) := (yn * xd, yd * xn)
      if !xs && (Nat.log2 num : Int) - (Nat.log2 den : Int) < -60 then round f ys num den
      else
        let a := Fixed.atan (Fixed.ofFraction num den)
        signed ys (if xs then Fixed.pi - a else a)

/-- The hyperbolic sine, `(eˣ - e⁻ˣ) / 2`, and the argument near zero. -/
def sinh (f : Format) : FloatValue → FloatValue
  | nan => nan
  | infinite s => infinite s
  | finite s x =>
    if x.m == 0 || x.below 40 then finite s x
    else
      let (n, d) := x.fraction
      if n / d > 2 * (f.maxExp - f.minExp).toNat then infinite s
      else
        let (a, b) := (expPositive n d).fraction
        roundNear f s (a * a - b * b) (2 * a * b)

/-- The hyperbolic cosine, `(eˣ + e⁻ˣ) / 2`. -/
def cosh (f : Format) : FloatValue → FloatValue
  | nan => nan
  | infinite _ => infinite false
  | finite _ x =>
    if x.m == 0 then round f false 1 1
    else
      let (n, d) := x.fraction
      if n / d > 2 * (f.maxExp - f.minExp).toNat then infinite false
      else
        let (a, b) := (expPositive n d).fraction
        roundNear f false (a * a + b * b) (2 * a * b)

/-- The hyperbolic tangent, `(e²ˣ - 1) / (e²ˣ + 1)`: one in magnitude far from zero, and the
argument near zero. -/
def tanh (f : Format) : FloatValue → FloatValue
  | nan => nan
  | infinite s => round f s 1 1
  | finite s x =>
    if x.m == 0 || x.below 40 then finite s x
    else
      let (n, d) := x.fraction
      if n / d > 64 then round f s 1 1
      else
        let (a, b) := (expPositive n d).fraction
        roundNear f s (a * a - b * b) (a * a + b * b)

/-- The inverse hyperbolic sine, `ln (|x| + √(x² + 1))` with the sign of `x`, and the argument
near zero. -/
def asinh (f : Format) : FloatValue → FloatValue
  | nan => nan
  | infinite s => infinite s
  | finite s x =>
    if x.m == 0 || x.below 40 then finite s x
    else
      let (n, d) := x.fraction
      let root := wholeSqrt ((n * n + d * d) * fixUnit * fixUnit / (d * d))
      let v := Fixed.lnFraction (n * fixUnit / d + root) fixUnit
      ofFixed f (if s then -v else v)

/-- The inverse hyperbolic cosine, `ln (x + √(x² - 1))`: not a number below one, zero at one. -/
def acosh (f : Format) : FloatValue → FloatValue
  | nan => nan
  | infinite s => if s then nan else infinite false
  | finite s x =>
    let (n, d) := x.fraction
    if s || n < d then nan
    else if n == d then finite false Binary.zero
    else
      let root := wholeSqrt ((n * n - d * d) * fixUnit * fixUnit / (d * d))
      ofFixed f (Fixed.lnFraction (n * fixUnit / d + root) fixUnit)

/-- The inverse hyperbolic tangent, `ln ((1 + x) / (1 - x)) / 2`: not a number beyond one,
infinite at one, and the argument near zero. -/
def atanh (f : Format) : FloatValue → FloatValue
  | nan | infinite _ => nan
  | finite s x =>
    if x.m == 0 || x.below 40 then finite s x
    else
      let (n, d) := x.fraction
      if n > d then nan
      else if n == d then infinite s
      else
        let v := Fixed.quot (Fixed.lnFraction (d + n) (d - n)) 2
        ofFixed f (if s then -v else v)

/-- The cube root, correctly rounded: the root is computed on whole numbers far beyond the
format's precision, and one that is not exact is marked so. -/
def cbrt (f : Format) : FloatValue → FloatValue
  | nan => nan
  | infinite s => infinite s
  | finite s x =>
    if x.m == 0 then finite s x
    else
      let (n, d) := x.fraction
      let k := (Nat.log2 d + 2) / 3 + f.precision + 4
      let scaled := n * Nat.pow 2 (3 * k) / d
      let r := wholeCbrt scaled
      if r * r * r == scaled then round f s r (Nat.pow 2 k)
      else roundNear f s r (Nat.pow 2 k)

/-- `√(x² + y²)`, correctly rounded: infinite when either is, even beside not a number. -/
def hypot (f : Format) (x y : FloatValue) : FloatValue :=
  match x, y with
  | infinite _, _ | _, infinite _ => infinite false
  | nan, _ | _, nan => nan
  | finite _ a, finite _ b =>
    let (n1, d1) := a.fraction
    let (n2, d2) := b.fraction
    let total := n1 * n1 * d2 * d2 + n2 * n2 * d1 * d1
    if total == 0 then finite false Binary.zero
    else
      let k := f.precision + 4
      let scaled := total * Nat.pow 4 k
      let r := wholeSqrt scaled
      let den := d1 * d2 * Nat.pow 2 k
      if r * r == scaled then round f false r den else roundNear f false r den

end FloatValue

end GatherMap.Decimal
