import GatherMap.Inline.Constant

/-!
# The inherent methods of the integer types

Every integer type has the same family of methods, `5u8.wrapping_add(255)`,
`i32::MIN.checked_abs()`, `12u16.rotate_left(4)`, … They are `const`, so a constant item may call
them, and they are not trait methods, so calling one on an integer literal whose type is not yet
fixed is ambiguous. A method is described by what it takes besides its receiver and what it
returns, each in terms of the receiver's type (`IntegerSlot`); a few exist only for signed or only
for unsigned types.

The value of a method is computed from the exact integer result, as the variants of an
operation differ only in what they do when that result leaves the type:

* a `checked_` method gives `None`;
* a `wrapping_` method keeps the low bits;
* a `saturating_` method clamps to the type's bounds;
* an `overflowing_` method keeps the low bits and says whether they differ from the exact result;
* the plain method (`pow`, `abs`, `div_euclid`, …) panics, and has no value.

Division by zero panics in every variant but `checked_`. A panic is described by what constant
evaluation reports for it: an operation of the method's body that fails its check ("attempt to
divide `5_u8` by zero", with the operands written as `operandText` writes them), or the
method's own panic ("evaluation panicked: argument of integer logarithm must be positive").
-/

namespace GatherMap.Inline

namespace IntType

/-- The unsigned type of the same width. -/
def unsignedOf (t : IntType) : IntType := { t with signed := false }

/-- The bits of a value of the type, as an unsigned number below `2 ^ bits`. -/
def toBits (t : IntType) (i : Int) : Nat := (i % Int.pow 2 t.bits).toNat

/-- The value of the type whose bits are `n`. -/
def ofBits (t : IntType) (n : Nat) : Int := t.wrap n

end IntType

/-- The type of an argument or of the result of an integer method, in terms of its receiver's
type. -/
inductive IntegerSlot where
  /-- The receiver's own type. -/
  | same
  /-- The unsigned type of the receiver's width. -/
  | unsigned
  /-- The signed type of the receiver's width. -/
  | signed
  | u32
  /-- `Option` of `u32`. -/
  | checkedU32
  | bool
  /-- `Option` of the receiver's type. -/
  | checked
  /-- The receiver's type and whether the operation overflowed. -/
  | overflowing
  /-- An array of the receiver's bytes. -/
  | bytes
  deriving DecidableEq, Repr, Inhabited

/-- The type a slot stands for, given the receiver's type. -/
def IntegerSlot.type (t : IntType) : IntegerSlot → ValueType
  | .same => .int t
  | .unsigned => .int t.unsignedOf
  | .signed => .int { t with signed := true }
  | .u32 => .int .u32
  | .checkedU32 => .named "Option" [.int .u32]
  | .bool => .bool
  | .checked => .named "Option" [.int t]
  | .overflowing => .tuple [.int t, .bool]
  | .bytes => .array (.int .u8) (t.bits / 8)

/-- An inherent method of the integer types: its name, its arguments, its result, and whether
it exists only for signed (`some true`) or only for unsigned (`some false`) types. -/
structure IntegerMethod where
  name : String
  args : List IntegerSlot
  result : IntegerSlot
  only : Option Bool := none
  deriving Repr, Inhabited

/-- Methods named by a prefix for each operation that has the four variants. -/
def variantsOf (operation : String) (args : List IntegerSlot) : List IntegerMethod :=
  [⟨"checked_" ++ operation, args, .checked, none⟩,
   ⟨"wrapping_" ++ operation, args, .same, none⟩,
   ⟨"saturating_" ++ operation, args, .same, none⟩,
   ⟨"overflowing_" ++ operation, args, .overflowing, none⟩]

/-- The inherent methods of the integer types that values may call. -/
def integerMethodTable : List IntegerMethod :=
  variantsOf "add" [.same] ++ variantsOf "sub" [.same] ++ variantsOf "mul" [.same] ++
  variantsOf "pow" [.u32] ++
  [⟨"pow", [.u32], .same, none⟩,
   ⟨"checked_div", [.same], .checked, none⟩, ⟨"wrapping_div", [.same], .same, none⟩,
   ⟨"saturating_div", [.same], .same, none⟩, ⟨"overflowing_div", [.same], .overflowing, none⟩,
   ⟨"checked_rem", [.same], .checked, none⟩, ⟨"wrapping_rem", [.same], .same, none⟩,
   ⟨"overflowing_rem", [.same], .overflowing, none⟩,
   ⟨"div_euclid", [.same], .same, none⟩, ⟨"rem_euclid", [.same], .same, none⟩,
   ⟨"checked_div_euclid", [.same], .checked, none⟩,
   ⟨"checked_rem_euclid", [.same], .checked, none⟩,
   ⟨"checked_neg", [], .checked, none⟩, ⟨"wrapping_neg", [], .same, none⟩,
   ⟨"overflowing_neg", [], .overflowing, none⟩, ⟨"saturating_neg", [], .same, some true⟩,
   ⟨"abs", [], .same, some true⟩, ⟨"checked_abs", [], .checked, some true⟩,
   ⟨"wrapping_abs", [], .same, some true⟩, ⟨"saturating_abs", [], .same, some true⟩,
   ⟨"overflowing_abs", [], .overflowing, some true⟩,
   ⟨"unsigned_abs", [], .unsigned, some true⟩, ⟨"abs_diff", [.same], .unsigned, none⟩,
   ⟨"signum", [], .same, some true⟩, ⟨"is_positive", [], .bool, some true⟩,
   ⟨"is_negative", [], .bool, some true⟩,
   ⟨"is_power_of_two", [], .bool, some false⟩, ⟨"next_power_of_two", [], .same, some false⟩,
   ⟨"checked_next_power_of_two", [], .checked, some false⟩,
   ⟨"checked_shl", [.u32], .checked, none⟩, ⟨"checked_shr", [.u32], .checked, none⟩,
   ⟨"wrapping_shl", [.u32], .same, none⟩, ⟨"wrapping_shr", [.u32], .same, none⟩,
   ⟨"rotate_left", [.u32], .same, none⟩, ⟨"rotate_right", [.u32], .same, none⟩,
   ⟨"count_ones", [], .u32, none⟩, ⟨"count_zeros", [], .u32, none⟩,
   ⟨"leading_zeros", [], .u32, none⟩, ⟨"trailing_zeros", [], .u32, none⟩,
   ⟨"leading_ones", [], .u32, none⟩, ⟨"trailing_ones", [], .u32, none⟩,
   ⟨"ilog2", [], .u32, none⟩, ⟨"ilog10", [], .u32, none⟩, ⟨"ilog", [.same], .u32, none⟩,
   ⟨"checked_ilog2", [], .checkedU32, none⟩, ⟨"checked_ilog10", [], .checkedU32, none⟩,
   ⟨"checked_ilog", [.same], .checkedU32, none⟩,
   ⟨"isqrt", [], .same, none⟩, ⟨"checked_isqrt", [], .checked, some true⟩,
   ⟨"overflowing_shl", [.u32], .overflowing, none⟩,
   ⟨"overflowing_shr", [.u32], .overflowing, none⟩,
   ⟨"cast_unsigned", [], .unsigned, some true⟩, ⟨"cast_signed", [], .signed, some false⟩,
   ⟨"div_ceil", [.same], .same, some false⟩, ⟨"midpoint", [.same], .same, none⟩,
   ⟨"is_multiple_of", [.same], .bool, some false⟩,
   ⟨"next_multiple_of", [.same], .same, some false⟩,
   ⟨"checked_next_multiple_of", [.same], .checked, some false⟩,
   ⟨"swap_bytes", [], .same, none⟩, ⟨"reverse_bits", [], .same, none⟩,
   ⟨"to_be", [], .same, none⟩, ⟨"to_le", [], .same, none⟩,
   ⟨"to_le_bytes", [], .bytes, none⟩, ⟨"to_be_bytes", [], .bytes, none⟩,
   ⟨"to_ne_bytes", [], .bytes, none⟩,
   ⟨"unbounded_shl", [.u32], .same, none⟩, ⟨"unbounded_shr", [.u32], .same, none⟩,
   ⟨"wrapping_div_euclid", [.same], .same, none⟩, ⟨"wrapping_rem_euclid", [.same], .same, none⟩,
   ⟨"overflowing_div_euclid", [.same], .overflowing, none⟩,
   ⟨"overflowing_rem_euclid", [.same], .overflowing, none⟩] ++
  -- an unsigned type adds a signed operand, a signed type adds or subtracts an unsigned one
  ((variantsOf "add_signed" [.signed]).map fun m => { m with only := some false }) ++
  ((variantsOf "add_unsigned" [.unsigned]).map fun m => { m with only := some true }) ++
  ((variantsOf "sub_unsigned" [.unsigned]).map fun m => { m with only := some true })

/-- The method of the integer types of a name. -/
def integerMethod? (name : String) : Option IntegerMethod :=
  integerMethodTable.find? (·.name == name)

/-- The names of the inherent methods of the integer types. -/
def integerMethods : List String := integerMethodTable.map (·.name)

/-! ### Values -/

/-- The number of bits of a natural number: the position of its highest set bit, plus one. -/
def bitLength (n : Nat) : Nat := if n == 0 then 0 else Nat.log2 n + 1

/-- The number of set bits among the lowest `width` bits of `n`. -/
def popCount (width n : Nat) : Nat := ((List.range width).filter (n.testBit ·)).length

/-- The number of clear bits at the low end of the lowest `width` bits of `n`. -/
def trailingClear (width n : Nat) : Nat :=
  ((List.range width).takeWhile fun i => !n.testBit i).length

/-- The lowest `width` bits of `n` in the opposite order. -/
def reverseBits (width n : Nat) : Nat :=
  (List.range width).foldl (fun acc i => if n.testBit i then acc + Nat.pow 2 (width - 1 - i)
    else acc) 0

/-- The bytes of the lowest `width` bits of `n` in the opposite order. -/
def swapBytes (width n : Nat) : Nat :=
  let count := width / 8
  (List.range count).foldl (fun acc i =>
    acc + (n / Nat.pow 2 (8 * i)) % 256 * Nat.pow 2 (8 * (count - 1 - i))) 0

/-- The largest `k` with `base ^ k ≤ n`, for `n ≥ 1` and `base ≥ 2`, within `fuel` steps. -/
def integerLog (base : Nat) : Nat → Nat → Nat → Nat
  | 0, _, k => k
  | fuel + 1, n, k => if n < base then k else integerLog base fuel (n / base) (k + 1)

/-- The bytes of the lowest `width` bits of `n`, lowest first, as `u8` values. -/
def littleEndian (width n : Nat) : List Constant :=
  (List.range (width / 8)).map fun i => .int .u8 ((n / Nat.pow 2 (8 * i)) % 256 : Nat)

/-- The integer square root, by Newton's iteration from above, within `fuel` steps. -/
def integerSqrt (n : Nat) : Nat → Nat → Nat
  | 0, r => r
  | fuel + 1, r =>
    if r == 0 then 0 else
    let next := (r + n / r) / 2
    if next < r then integerSqrt n fuel next else r

/-- Division that rounds toward zero, as integer division does. -/
def truncDiv (x y : Int) : Int := x.tdiv y

/-- The remainder of division that rounds toward zero: it has the sign of the dividend. -/
def truncRem (x y : Int) : Int := x.tmod y

/-- An integer as constant evaluation writes an operand: `T::MIN` and `T::MAX` by name, other
values with their type as a suffix. -/
def operandText (t : IntType) (v : Int) : String :=
  if t.signed && v == t.min then t.name ++ "::MIN"
  else if v == t.max then t.name ++ "::MAX"
  else toString v ++ "_" ++ t.name

/-- What constant evaluation reports for a division by zero, or for a remainder (`quotient`
false). -/
def byZero (t : IntType) (x : Int) (quotient : Bool) : String :=
  if quotient then "attempt to divide \x60" ++ operandText t x ++ "\x60 by zero"
  else "attempt to calculate the remainder of \x60" ++ operandText t x ++
    "\x60 with a divisor of zero"

/-- What constant evaluation reports for `MIN / -1`, or for `MIN % -1` (`quotient` false). -/
def divisionOverflow (t : IntType) (x y : Int) (quotient : Bool) : String :=
  let shown := operandText t x ++ (if quotient then " / " else " % ") ++ operandText t y
  if quotient then "attempt to compute \x60" ++ shown ++ "\x60, which would overflow"
  else "attempt to compute the remainder of \x60" ++ shown ++ "\x60, which would overflow"

/-- The message of a method's own panic. -/
def panicked (message : String) : String := "evaluation panicked: " ++ message

/-- The value of an integer method on a receiver of type `t` and its arguments, all integers;
or what constant evaluation reports when the call panics. -/
def integerMethodValue (t : IntType) (name : String) (x : Int) (args : List Int) :
    Except String Constant :=
  let int (v : Int) : Constant := .int t v
  let checked (v : Int) : Constant := if t.contains v then .some (int v) else .none
  let wrapping (v : Int) : Constant := int (t.wrap v)
  let saturating (v : Int) : Constant := int (max t.min (min t.max v))
  let overflowing (v : Int) : Constant := .tuple [int (t.wrap v), .bool (!t.contains v)]
  let bits := t.toBits x
  let width := t.bits
  let count (n : Nat) : Except String Constant := .ok (.int .u32 n)
  let nonPositive := panicked "argument of integer logarithm must be positive"
  -- division that panics for a zero divisor, in the variants that do
  let dividing (y : Int) (quotient : Bool) (value : Constant) : Except String Constant :=
    if y == 0 then .error (byZero t x quotient) else .ok value
  let euclid (y : Int) (quotient : Bool) (value : Constant) : Except String Constant :=
    if y == 0 then .error (byZero t x quotient)
    else if !t.contains (x / y) then .error (divisionOverflow t x y quotient)
    else .ok value
  let log (b : Nat) : Nat := integerLog b width x.toNat 0
  let nextPower : Int := if x ≤ 1 then 1 else Int.pow 2 (bitLength (x - 1).toNat)
  match name, args with
  | "checked_add", [y] => .ok (checked (x + y))
  | "wrapping_add", [y] => .ok (wrapping (x + y))
  | "saturating_add", [y] => .ok (saturating (x + y))
  | "overflowing_add", [y] => .ok (overflowing (x + y))
  | "checked_sub", [y] => .ok (checked (x - y))
  | "wrapping_sub", [y] => .ok (wrapping (x - y))
  | "saturating_sub", [y] => .ok (saturating (x - y))
  | "overflowing_sub", [y] => .ok (overflowing (x - y))
  | "checked_mul", [y] => .ok (checked (x * y))
  | "wrapping_mul", [y] => .ok (wrapping (x * y))
  | "saturating_mul", [y] => .ok (saturating (x * y))
  | "overflowing_mul", [y] => .ok (overflowing (x * y))
  | "pow", [e] =>
    let v := Int.pow x e.toNat
    if t.contains v then .ok (int v) else .error (panicked "attempt to exponentiate with overflow")
  | "checked_pow", [e] => .ok (checked (Int.pow x e.toNat))
  | "wrapping_pow", [e] => .ok (wrapping (Int.pow x e.toNat))
  | "saturating_pow", [e] => .ok (saturating (Int.pow x e.toNat))
  | "overflowing_pow", [e] => .ok (overflowing (Int.pow x e.toNat))
  | "checked_div", [y] => .ok (if y == 0 then .none else checked (truncDiv x y))
  | "wrapping_div", [y] => dividing y true (wrapping (truncDiv x y))
  | "saturating_div", [y] => dividing y true (saturating (truncDiv x y))
  | "overflowing_div", [y] => dividing y true (overflowing (truncDiv x y))
  | "checked_rem", [y] =>
    .ok (if y == 0 || !t.contains (truncDiv x y) then .none else .some (int (truncRem x y)))
  | "wrapping_rem", [y] => dividing y false (int (truncRem x y))
  | "overflowing_rem", [y] =>
    dividing y false (.tuple [int (truncRem x y), .bool (!t.contains (truncDiv x y))])
  | "div_euclid", [y] => euclid y true (int (x / y))
  | "rem_euclid", [y] => euclid y false (int (x % y))
  | "checked_div_euclid", [y] => .ok (if y == 0 then .none else checked (x / y))
  | "checked_rem_euclid", [y] =>
    .ok (if y == 0 || !t.contains (x / y) then .none else .some (int (x % y)))
  | "div_ceil", [y] =>
    dividing y true (int (truncDiv x y + (if truncRem x y == 0 then 0 else 1)))
  | "checked_neg", [] => .ok (checked (-x))
  | "wrapping_neg", [] => .ok (wrapping (-x))
  | "overflowing_neg", [] => .ok (overflowing (-x))
  | "saturating_neg", [] => .ok (saturating (-x))
  | "abs", [] =>
    if t.contains x.natAbs then .ok (int x.natAbs)
    else .error ("attempt to negate \x60" ++ operandText t x ++ "\x60, which would overflow")
  | "checked_abs", [] => .ok (checked x.natAbs)
  | "wrapping_abs", [] => .ok (wrapping x.natAbs)
  | "saturating_abs", [] => .ok (saturating x.natAbs)
  | "overflowing_abs", [] => .ok (overflowing x.natAbs)
  | "unsigned_abs", [] => .ok (.int t.unsignedOf x.natAbs)
  | "abs_diff", [y] => .ok (.int t.unsignedOf (x - y).natAbs)
  | "signum", [] => .ok (int (if x > 0 then 1 else if x < 0 then -1 else 0))
  | "is_positive", [] => .ok (.bool (x > 0))
  | "is_negative", [] => .ok (.bool (x < 0))
  | "is_power_of_two", [] => .ok (.bool (popCount width bits == 1))
  | "next_power_of_two", [] =>
    if t.contains nextPower then .ok (int nextPower)
    else .error ("attempt to compute \x60" ++ operandText t t.max ++ " + 1_" ++ t.name ++
      "\x60, which would overflow")
  | "checked_next_power_of_two", [] => .ok (checked nextPower)
  | "checked_shl", [n] =>
    .ok (if n ≥ width then .none else .some (int (t.ofBits (bits * Nat.pow 2 n.toNat))))
  | "checked_shr", [n] =>
    .ok (if n ≥ width then .none else .some (int (x / Int.pow 2 n.toNat)))
  | "wrapping_shl", [n] => .ok (int (t.ofBits (bits * Nat.pow 2 (n.toNat % width))))
  | "wrapping_shr", [n] => .ok (int (x / Int.pow 2 (n.toNat % width)))
  | "overflowing_shl", [n] =>
    .ok (.tuple [int (t.ofBits (bits * Nat.pow 2 (n.toNat % width))), .bool (n ≥ width)])
  | "overflowing_shr", [n] => .ok (.tuple [int (x / Int.pow 2 (n.toNat % width)), .bool (n ≥ width)])
  | "rotate_left", [n] =>
    let r := n.toNat % width
    .ok (int (t.ofBits (bits * Nat.pow 2 r + bits / Nat.pow 2 (width - r))))
  | "rotate_right", [n] =>
    let r := (width - n.toNat % width) % width
    .ok (int (t.ofBits (bits * Nat.pow 2 r + bits / Nat.pow 2 (width - r))))
  | "count_ones", [] => count (popCount width bits)
  | "count_zeros", [] => count (width - popCount width bits)
  | "leading_zeros", [] => count (width - bitLength bits)
  | "trailing_zeros", [] => count (trailingClear width bits)
  | "leading_ones", [] => count (width - bitLength (Nat.pow 2 width - 1 - bits))
  | "trailing_ones", [] => count (trailingClear width (Nat.pow 2 width - 1 - bits))
  | "ilog2", [] => if x ≤ 0 then .error nonPositive else count (bitLength x.toNat - 1)
  | "checked_ilog2", [] =>
    .ok (if x ≤ 0 then .none else .some (.int .u32 (bitLength x.toNat - 1)))
  | "ilog10", [] => if x ≤ 0 then .error nonPositive else count (log 10)
  | "checked_ilog10", [] => .ok (if x ≤ 0 then .none else .some (.int .u32 (log 10)))
  | "ilog", [b] =>
    if b < 2 then .error (panicked "base of integer logarithm must be at least 2")
    else if x ≤ 0 then .error nonPositive
    else count (log b.toNat)
  | "checked_ilog", [b] =>
    .ok (if x ≤ 0 || b < 2 then .none else .some (.int .u32 (log b.toNat)))
  | "isqrt", [] =>
    if x < 0 then .error (panicked "argument of integer square root cannot be negative")
    else .ok (int (integerSqrt x.toNat (2 * width) x.toNat))
  | "checked_isqrt", [] =>
    .ok (if x < 0 then .none else .some (int (integerSqrt x.toNat (2 * width) x.toNat)))
  | "swap_bytes", [] | "to_be", [] => .ok (int (t.ofBits (swapBytes width bits)))
  | "reverse_bits", [] => .ok (int (t.ofBits (reverseBits width bits)))
  | "to_le", [] => .ok (int x)
  | "to_le_bytes", [] | "to_ne_bytes", [] => .ok (.array (littleEndian width bits))
  | "to_be_bytes", [] => .ok (.array (littleEndian width bits).reverse)
  | "cast_unsigned", [] => .ok (.int t.unsignedOf (t.toBits x))
  | "cast_signed", [] => .ok (.int { t with signed := true } ({ t with signed := true }.wrap x))
  | "midpoint", [y] =>
    -- the mean rounded down for unsigned types and toward zero for signed ones
    .ok (int (if t.signed then truncDiv (x + y) 2 else (x + y) / 2))
  | "is_multiple_of", [y] => .ok (.bool (if y == 0 then x == 0 else x % y == 0))
  | "next_multiple_of", [y] =>
    if y == 0 then .error (byZero t x false)
    else
      let v := if x % y == 0 then x else x + (y - x % y)
      if t.contains v then .ok (int v)
      else .error ("attempt to compute \x60" ++ operandText t x ++ " + " ++
        operandText t (y - x % y) ++ "\x60, which would overflow")
  | "checked_next_multiple_of", [y] =>
    .ok (if y == 0 then .none else checked (if x % y == 0 then x else x + (y - x % y)))
  | "checked_add_signed", [y] | "checked_add_unsigned", [y] => .ok (checked (x + y))
  | "wrapping_add_signed", [y] | "wrapping_add_unsigned", [y] => .ok (wrapping (x + y))
  | "saturating_add_signed", [y] | "saturating_add_unsigned", [y] => .ok (saturating (x + y))
  | "overflowing_add_signed", [y] | "overflowing_add_unsigned", [y] => .ok (overflowing (x + y))
  | "checked_sub_unsigned", [y] => .ok (checked (x - y))
  | "wrapping_sub_unsigned", [y] => .ok (wrapping (x - y))
  | "saturating_sub_unsigned", [y] => .ok (saturating (x - y))
  | "overflowing_sub_unsigned", [y] => .ok (overflowing (x - y))
  | "unbounded_shl", [n] =>
    .ok (int (if n ≥ width then 0 else t.ofBits (bits * Nat.pow 2 n.toNat)))
  | "unbounded_shr", [n] =>
    .ok (int (if n ≥ width then (if x < 0 then -1 else 0) else x / Int.pow 2 n.toNat))
  | "wrapping_div_euclid", [y] => dividing y true (wrapping (x / y))
  | "wrapping_rem_euclid", [y] => dividing y false (int (if t.contains (x / y) then x % y else 0))
  | "overflowing_div_euclid", [y] => dividing y true (overflowing (x / y))
  | "overflowing_rem_euclid", [y] =>
    dividing y false (.tuple [int (if t.contains (x / y) then x % y else 0),
      .bool (!t.contains (x / y))])
  | "min", [y] => .ok (int (min x y))
  | "max", [y] => .ok (int (max x y))
  | "clamp", [lo, hi] =>
    if lo > hi then .error (panicked "assertion failed: min <= max")
    else .ok (int (max lo (min x hi)))
  | _, _ => .error ""

end GatherMap.Inline
