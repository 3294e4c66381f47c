import GatherMap.Inline.Integer
import GatherMap.Decimal.Elementary
import GatherMap.Text.Alphabetic
import GatherMap.Text.Blank
import GatherMap.Text.Case

/-!
# The methods of characters, strings and floating-point numbers, and library functions

Besides the integer methods (`Integer`), a value may call the inherent methods of `char`
(`'9'.to_digit(10)`), of string slices (`"abc".to_uppercase()`) and of the floating-point types
(`2.0f64.sqrt()`), and some functions the standard library reaches through a type's path
(`u16::from_le_bytes`, `char::from_u32`, `u8::try_from`, `Vec::with_capacity`). A method is
described by what it takes besides its receiver, what it gives and whether a constant may call
it (`ScalarMethod`); a library function by its constructor of `LibraryFn`.

Values follow the library:

* a character's digit in a radix is its decimal digit or its letter, either case, from ten;
  a radix above 36 panics;
* case conversion of strings maps letters of the Latin, Greek and Cyrillic alphabets, with
  `ß` becoming `SS`;
* floating-point methods are exact or correctly rounded (`Decimal.Functions`); `to_degrees` and
  `to_radians` multiply by the rounded ratio of a half turn, as the library does;
* a conversion that cannot hold its value gives the library's error value, shown as the library
  shows it (`TryFromIntError(())`, `ParseIntError { kind: PosOverflow }`).

A panic is reported as constant evaluation reports it, "evaluation panicked: " and the
library's message.
-/

namespace GatherMap.Inline

open Decimal

/-- A method of `char`, of string slices or of a floating-point type: its name, the types of its
arguments, its result type, and whether a constant may call it. -/
structure ScalarMethod where
  name : String
  args : List ValueType
  result : ValueType
  const : Bool
  deriving Repr, Inhabited

/-- The error type of a fallible integer conversion. -/
def tryFromIntError : ValueType := .named "TryFromIntError" []

/-- The error type of parsing an integer. -/
def parseIntError : ValueType := .named "ParseIntError" []

/-! ### Characters -/

/-- The methods of `char` that values may call. -/
def charMethods : List ScalarMethod :=
  let test (name : String) (const : Bool) : ScalarMethod := ⟨name, [], .bool, const⟩
  [⟨"to_digit", [.int .u32], .option (.int .u32), true⟩,
   ⟨"is_digit", [.int .u32], .bool, true⟩,
   ⟨"len_utf8", [], .int .usize, true⟩, ⟨"len_utf16", [], .int .usize, true⟩,
   ⟨"to_ascii_uppercase", [], .char, true⟩, ⟨"to_ascii_lowercase", [], .char, true⟩,
   ⟨"eq_ignore_ascii_case", [.ref .char], .bool, true⟩,
   test "is_ascii" true, test "is_ascii_alphabetic" true, test "is_ascii_digit" true,
   test "is_ascii_alphanumeric" true, test "is_ascii_uppercase" true,
   test "is_ascii_lowercase" true, test "is_ascii_whitespace" true,
   test "is_ascii_punctuation" true, test "is_ascii_hexdigit" true,
   test "is_ascii_graphic" true, test "is_ascii_control" true,
   test "is_lowercase" true, test "is_uppercase" true, test "is_whitespace" true,
   test "is_alphabetic" false, test "is_alphanumeric" false, test "is_numeric" false,
   test "is_control" false]

/-- The method of `char` of a name. -/
def charMethod? (name : String) : Option ScalarMethod := charMethods.find? (·.name == name)

/-- The ASCII methods `u8` shares with `char`: the tests give a `bool`, the case conversions a
byte. -/
def byteMethods : List ScalarMethod :=
  (charMethods.filter fun m => m.name.startsWith "is_ascii" || m.name.startsWith "to_ascii").map
    fun m => match m.result with
      | .char => { m with result := .int .u8 }
      | _ => m

/-- The ASCII method of `u8` of a name. -/
def byteMethod? (name : String) : Option ScalarMethod := byteMethods.find? (·.name == name)

/-- Methods of the traits the prelude brings into scope that every scalar has (`Ord`,
`PartialOrd`, `PartialEq`, `TryInto`, …) and that values here do not use: calling one is no
error, but its result is not known. -/
def preludeTraitMethods : List String :=
  ["cmp", "partial_cmp", "eq", "ne", "lt", "le", "gt", "ge", "try_into", "hash", "fmt",
   "clone_into", "borrow", "borrow_mut", "type_id"]

/-- The message for a method a type does not have. -/
def noMethodMessage (name typeName : String) : String :=
  "no method named \x60" ++ name ++ "\x60 found for type \x60" ++ typeName ++ "\x60 in the current scope"

/-- The value of a digit character in a radix up to 36. -/
def digitValue (c : Char) (radix : Nat) : Option Nat :=
  let n := c.toNat
  let d := if 0x30 ≤ n && n ≤ 0x39 then some (n - 0x30)
    else if 0x61 ≤ n && n ≤ 0x7A then some (n - 0x61 + 10)
    else if 0x41 ≤ n && n ≤ 0x5A then some (n - 0x41 + 10)
    else none
  d.filter (· < radix)

/-- Whether a character is ASCII punctuation. -/
def isAsciiPunctuation (n : Nat) : Bool :=
  (0x21 ≤ n && n ≤ 0x2F) || (0x3A ≤ n && n ≤ 0x40) || (0x5B ≤ n && n ≤ 0x60) ||
    (0x7B ≤ n && n ≤ 0x7E)

/-- The value of a method of `char`, or the panic it reports ("" when the call is not
described). -/
def charMethodValue (c : Char) (name : String) (args : List Constant) : Except String Constant :=
  let n := c.toNat
  let test (b : Bool) : Except String Constant := .ok (.bool b)
  let radixChecked (radix : Int) (k : Nat → Constant) : Except String Constant :=
    if radix < 2 || radix > 36 then
      .error "evaluation panicked: to_digit: invalid radix -- radix must be in the range 2 to 36 inclusive"
    else .ok (k radix.toNat)
  let upper := 0x41 ≤ n && n ≤ 0x5A
  let lower := 0x61 ≤ n && n ≤ 0x7A
  let digit := 0x30 ≤ n && n ≤ 0x39
  match name, args with
  | "to_digit", [.int _ radix] =>
    radixChecked radix fun r => match digitValue c r with
      | some d => .some (.int .u32 d)
      | none => .none
  | "is_digit", [.int _ radix] => radixChecked radix fun r => .bool (digitValue c r).isSome
  | "len_utf8", [] => .ok (.int .usize c.utf8Size)
  | "len_utf16", [] => .ok (.int .usize (if n ≥ 0x10000 then 2 else 1))
  | "to_ascii_uppercase", [] => .ok (.char (if lower then Char.ofNat (n - 0x20) else c))
  | "to_ascii_lowercase", [] => .ok (.char (if upper then Char.ofNat (n + 0x20) else c))
  | "eq_ignore_ascii_case", [.char d] =>
    let fold (x : Char) : Nat := if 0x41 ≤ x.toNat && x.toNat ≤ 0x5A then x.toNat + 0x20 else x.toNat
    test (fold c == fold d)
  | "is_ascii", [] => test (n < 0x80)
  | "is_ascii_alphabetic", [] => test (upper || lower)
  | "is_ascii_digit", [] => test digit
  | "is_ascii_alphanumeric", [] => test (upper || lower || digit)
  | "is_ascii_uppercase", [] => test upper
  | "is_ascii_lowercase", [] => test lower
  | "is_ascii_whitespace", [] => test ([0x20, 0x09, 0x0A, 0x0C, 0x0D].contains n)
  | "is_ascii_punctuation", [] => test (isAsciiPunctuation n)
  | "is_ascii_hexdigit", [] => test (digit || (0x41 ≤ n && n ≤ 0x46) || (0x61 ≤ n && n ≤ 0x66))
  | "is_ascii_graphic", [] => test (0x21 ≤ n && n ≤ 0x7E)
  | "is_ascii_control", [] => test (n < 0x20 || n == 0x7F)
  | "is_lowercase", [] => test (Text.isLowercase c)
  | "is_uppercase", [] => test (Text.isUppercase c)
  | "is_whitespace", [] => test (Text.isWhiteSpace c)
  | "is_alphabetic", [] => test (Text.isAlphabetic c)
  | "is_alphanumeric", [] => test (Text.isAlphanumeric c)
  | "is_numeric", [] => test (Text.isNumeric c)
  | "is_control", [] => test (n < 0x20 || (0x7F ≤ n && n < 0xA0))
  | _, _ => .error ""


/-- The value of an ASCII method of `u8` on a byte: that of the same method of `char` on the
character of the byte, a character result turned back into a byte. -/
def byteMethodValue (b : Nat) (name : String) (args : List Constant) : Except String Constant :=
  (charMethodValue (Char.ofNat b) name args).map fun v =>
    match v with
    | .char c => .int .u8 c.toNat
    | v => v

/-! ### Strings -/

/-- The methods of string slices that values may call; none is constant. -/
def strMethods : List ScalarMethod :=
  let owned (name : String) : ScalarMethod := ⟨name, [], .string, false⟩
  [owned "to_uppercase", owned "to_lowercase", owned "to_ascii_uppercase",
   owned "to_ascii_lowercase",
   ⟨"replace", [.error, .strRef], .string, false⟩,
   ⟨"repeat", [.int .usize], .string, false⟩,
   ⟨"trim", [], .strRef, false⟩, ⟨"trim_start", [], .strRef, false⟩,
   ⟨"trim_end", [], .strRef, false⟩,
   ⟨"starts_with", [.error], .bool, false⟩, ⟨"ends_with", [.error], .bool, false⟩,
   ⟨"contains", [.error], .bool, false⟩]

/-- The method of string slices of a name. -/
def strMethod? (name : String) : Option ScalarMethod := strMethods.find? (·.name == name)

/-- The pieces of a string between the places a pattern is found, left to right without
overlap. -/
def splitOn (s : List Char) (pat : List Char) : List (List Char) :=
  if pat.isEmpty then [s] else
  let rec go : Nat → List Char → List Char → List (List Char)
    | 0, rest, acc => [acc.reverse ++ rest]
    | fuel + 1, rest, acc =>
      if pat.isPrefixOf rest then acc.reverse :: go fuel (rest.drop pat.length) []
      else match rest with
        | [] => [acc.reverse]
        | c :: more => go fuel more (c :: acc)
  go (s.length + 1) s []

/-- The text a pattern argument stands for: a string or a character. -/
def patternText : Constant → Option String
  | .str p => some p
  | .char c => some (String.singleton c)
  | _ => none

/-- The value of a method of string slices ("" as the error when the call is not described). -/
def strMethodValue (s : String) (name : String) (args : List Constant) : Except String Constant :=
  let str (t : String) : Except String Constant := .ok (.str t)
  let cs := s.toList
  let isSpace (c : Char) : Bool := Text.isWhiteSpace c
  match name, args with
  | "to_uppercase", [] => str (Text.upperText s)
  | "to_lowercase", [] => str (Text.lowerText s)
  | "to_ascii_uppercase", [] =>
    str (String.ofList (cs.map fun c => if 0x61 ≤ c.toNat && c.toNat ≤ 0x7A then Char.ofNat (c.toNat - 0x20) else c))
  | "to_ascii_lowercase", [] =>
    str (String.ofList (cs.map fun c => if 0x41 ≤ c.toNat && c.toNat ≤ 0x5A then Char.ofNat (c.toNat + 0x20) else c))
  | "replace", [p, .str replacement] =>
    match patternText p with
    | some pat =>
      if pat.isEmpty then
        -- an empty pattern is found before every character and at the end
        str (String.join (cs.map fun c => replacement ++ String.singleton c) ++ replacement)
      else str (replacement.intercalate ((splitOn cs pat.toList).map String.ofList))
    | none => .error ""
  | "repeat", [.int _ k] =>
    if k * s.utf8ByteSize > 4096 then .error "" else str (String.join (List.replicate k.toNat s))
  | "trim", [] => str (String.ofList ((cs.dropWhile isSpace).reverse.dropWhile isSpace).reverse)
  | "trim_start", [] => str (String.ofList (cs.dropWhile isSpace))
  | "trim_end", [] => str (String.ofList (cs.reverse.dropWhile isSpace).reverse)
  | "starts_with", [p] =>
    match patternText p with
    | some pat => .ok (.bool (pat.toList.isPrefixOf cs))
    | none => .error ""
  | "ends_with", [p] =>
    match patternText p with
    | some pat => .ok (.bool (pat.toList.reverse.isPrefixOf cs.reverse))
    | none => .error ""
  | "contains", [p] =>
    match patternText p with
    | some pat => .ok (.bool ((splitOn cs pat.toList).length > 1 || pat.isEmpty))
    | none => .error ""
  | _, _ => .error ""

/-! ### Floating-point numbers -/

/-- The methods of a floating-point type that values may call, for `f32` when `single`. -/
def floatMethods (single : Bool) : List ScalarMethod :=
  let f := ValueType.float single
  let same (name : String) (const : Bool) : ScalarMethod := ⟨name, [], f, const⟩
  let test (name : String) : ScalarMethod := ⟨name, [], .bool, true⟩
  [same "abs" true, same "signum" true, ⟨"copysign", [f], f, true⟩,
   same "floor" true, same "ceil" true, same "round" true, same "round_ties_even" true,
   same "trunc" true, same "fract" true, same "recip" true, same "to_degrees" true,
   same "to_radians" true, ⟨"min", [f], f, true⟩, ⟨"max", [f], f, true⟩,
   ⟨"clamp", [f, f], f, true⟩,
   same "sqrt" false, same "exp" false, ⟨"powi", [.int .i32], f, false⟩,
   ⟨"mul_add", [f, f], f, false⟩,
   test "is_nan", test "is_infinite", test "is_finite", test "is_normal", test "is_subnormal",
   test "is_sign_positive", test "is_sign_negative",
   ⟨"to_bits", [], .int (if single then .u32 else .u64), true⟩,
   ⟨"powf", [f], f, false⟩, ⟨"log", [f], f, false⟩, ⟨"hypot", [f], f, false⟩,
   ⟨"atan2", [f], f, false⟩, ⟨"div_euclid", [f], f, false⟩, ⟨"rem_euclid", [f], f, false⟩,
   same "ln" false, same "log10" false, same "log2" false, same "exp2" false,
   same "exp_m1" false, same "ln_1p" false, same "cbrt" false, same "sin" false,
   same "cos" false, same "tan" false, same "asin" false, same "acos" false,
   same "atan" false, same "sinh" false, same "cosh" false, same "tanh" false,
   same "asinh" false, same "acosh" false, same "atanh" false]

/-- The method of a floating-point type of a name. -/
def floatMethod? (single : Bool) (name : String) : Option ScalarMethod :=
  (floatMethods single).find? (·.name == name)

/-- The value a floating-point type holds nearest to a decimal text. -/
def floatOfText (single : Bool) (text : String) : FloatValue :=
  match textParts text with
  | some d => FloatValue.ofDec (if single then binary32 else binary64) false d
  | none => .nan

/-- The ratio of a half turn in degrees to one in radians, as the library rounds it. -/
def degreesPerRadian (single : Bool) : FloatValue :=
  let f := if single then binary32 else binary64
  if single then floatOfText true "57.2957795130823208767981548141051703"
  else FloatValue.div f (floatOfText false "180") (floatOfText false "3.14159265358979323846264338327950288")

/-- The ratio of a half turn in radians to one in degrees, as the library rounds it. -/
def radiansPerDegree (single : Bool) : FloatValue :=
  let f := if single then binary32 else binary64
  FloatValue.div f (floatOfText single "3.14159265358979323846264338327950288")
    (floatOfText single "180")

/-- The value of a method of a floating-point type ("" as the error when the call is not
described). -/
def floatMethodValue (single : Bool) (x : FloatValue) (name : String) (args : List Constant) :
    Except String Constant :=
  let f := if single then binary32 else binary64
  let value (v : FloatValue) : Except String Constant := .ok (.float single v)
  let test (b : Bool) : Except String Constant := .ok (.bool b)
  let one := FloatValue.round f false 1 1
  let less (a b : FloatValue) : Bool := FloatValue.compare? a b == some .lt
  let finiteNonZero := match x with
    | .finite _ b => b.m != 0
    | _ => false
  match name, args with
  | "abs", [] => value x.abs
  | "signum", [] => value (if x == .nan then .nan else FloatValue.copySign one x)
  | "copysign", [.float _ y] => value (FloatValue.copySign x y)
  | "floor", [] => value (x.floor f)
  | "ceil", [] => value (x.ceil f)
  | "round", [] => value (x.roundAway f)
  | "round_ties_even", [] => value (x.roundEven f)
  | "trunc", [] => value (x.trunc f)
  | "fract", [] => value (x.fract f)
  | "recip", [] => value (FloatValue.div f one x)
  | "to_degrees", [] => value (FloatValue.mul f x (degreesPerRadian single))
  | "to_radians", [] => value (FloatValue.mul f x (radiansPerDegree single))
  | "min", [.float _ y] =>
    value (if x == .nan then y else if y == .nan then x else if less y x then y else x)
  | "max", [.float _ y] =>
    value (if x == .nan then y else if y == .nan then x else if less x y then y else x)
  | "clamp", [.float _ lo, .float _ hi] =>
    if !(FloatValue.compare? lo hi == some .lt || FloatValue.compare? lo hi == some .eq) then
      .error ("evaluation panicked: min > max, or either was NaN. min = " ++ lo.debugText ++
        ", max = " ++ hi.debugText)
    else value (if less x lo then lo else if less hi x then hi else x)
  | "sqrt", [] => value (x.sqrt f)
  | "exp", [] => value (x.exp f)
  | "exp2", [] => value (x.exp2 f)
  | "exp_m1", [] => value (x.expM1 f)
  | "ln", [] => value (x.ln f)
  | "log2", [] => value (x.log2 f)
  | "log10", [] => value (x.log10 f)
  | "ln_1p", [] => value (x.ln1p f)
  | "log", [.float _ b] => value (FloatValue.logBase f x b)
  | "powf", [.float _ y] => value (FloatValue.powf f x y)
  | "cbrt", [] => value (x.cbrt f)
  | "hypot", [.float _ y] => value (FloatValue.hypot f x y)
  | "sin", [] => value (x.sin f)
  | "cos", [] => value (x.cos f)
  | "tan", [] => value (x.tan f)
  | "asin", [] => value (x.asin f)
  | "acos", [] => value (x.acos f)
  | "atan", [] => value (x.atan f)
  | "atan2", [.float _ other] => value (FloatValue.atan2 f x other)
  | "sinh", [] => value (x.sinh f)
  | "cosh", [] => value (x.cosh f)
  | "tanh", [] => value (x.tanh f)
  -- the inverse hyperbolic functions are written with the others, each step rounded
  | "asinh", [] =>
    let ax := x.abs
    let ix := FloatValue.div f one ax
    let h := FloatValue.hypot f one ix
    let u := FloatValue.add f ax (FloatValue.div f ax (FloatValue.add f h ix))
    value (FloatValue.copySign (u.ln1p f) x)
  | "acosh", [] =>
    if less x one then value .nan
    else
      let below := (FloatValue.sub f x one).sqrt f
      let above := (FloatValue.add f x one).sqrt f
      value ((FloatValue.add f x (FloatValue.mul f below above)).ln f)
  | "atanh", [] =>
    let half := FloatValue.round f false 1 2
    let two := FloatValue.round f false 2 1
    let ratio := FloatValue.div f (FloatValue.mul f two x) (FloatValue.sub f one x)
    value (FloatValue.mul f half (ratio.ln1p f))
  | "div_euclid", [.float _ y] =>
    let q := (FloatValue.div f x y).trunc f
    let zero := FloatValue.round f false 0 1
    if less (FloatValue.rem f x y) zero then
      value (if less zero y then FloatValue.sub f q one else FloatValue.add f q one)
    else value q
  | "rem_euclid", [.float _ y] =>
    let r := FloatValue.rem f x y
    if less r (FloatValue.round f false 0 1) then value (FloatValue.add f r y.abs) else value r
  | "powi", [.int _ k] => value (FloatValue.powi f x k)
  | "mul_add", [.float _ a, .float _ b] =>
    match x, a, b with
    | .finite s1 x1, .finite s2 x2, .finite s3 x3 =>
      let (n1, d1) := FloatValue.signedFraction s1 x1
      let (n2, d2) := FloatValue.signedFraction s2 x2
      let (n3, d3) := FloatValue.signedFraction s3 x3
      let num := n1 * n2 * (d3 : Int) + n3 * ((d1 * d2 : Nat) : Int)
      if num == 0 then value (FloatValue.add f (FloatValue.mul f x a) b)
      else value (FloatValue.round f (num < 0) num.natAbs (d1 * d2 * d3))
    | _, _, _ => value (FloatValue.add f (FloatValue.mul f x a) b)
  | "is_nan", [] => test (x == .nan)
  | "is_infinite", [] => test (x matches .infinite _)
  | "is_finite", [] => test (x matches .finite _ _)
  | "is_normal", [] =>
    test (finiteNonZero && match x with
      | .finite _ b => b.m ≥ Nat.pow 2 f.mantissaBits
      | _ => false)
  | "is_subnormal", [] =>
    test (finiteNonZero && match x with
      | .finite _ b => b.m < Nat.pow 2 f.mantissaBits
      | _ => false)
  | "is_sign_positive", [] => test (!x.signBit)
  | "is_sign_negative", [] => test x.signBit
  | "to_bits", [] => .ok (.int (if single then .u32 else .u64) (x.toBits f))
  | _, _ => .error ""

/-! ### `Option` and `Result` -/

/-- The methods of `Option<t>` that values may call. -/
def optionMethods (t : ValueType) : List ScalarMethod :=
  [⟨"unwrap", [], t, true⟩, ⟨"expect", [.strRef], t, true⟩, ⟨"unwrap_or", [t], t, false⟩,
   ⟨"unwrap_or_default", [], t, false⟩, ⟨"is_some", [], .bool, true⟩,
   ⟨"is_none", [], .bool, true⟩]

/-- The methods of `Result<t, e>` that values may call. -/
def resultMethods (t e : ValueType) : List ScalarMethod :=
  [⟨"unwrap", [], t, false⟩, ⟨"expect", [.strRef], t, false⟩, ⟨"unwrap_or", [t], t, false⟩,
   ⟨"unwrap_or_default", [], t, false⟩, ⟨"is_ok", [], .bool, true⟩,
   ⟨"is_err", [], .bool, true⟩, ⟨"ok", [], .option t, false⟩, ⟨"err", [], .option e, false⟩]

/-- The value of a method of `Option` or `Result`, given the default value of the type it
holds when there is one; the panic of an unwrapped `None` ("" when the call is not described). -/
def variantMethodValue (v : Constant) (name : String) (args : List Constant)
    (default : Option Constant) : Except String Constant :=
  let none' : Except String Constant := .error ""
  match v, name, args with
  | .some x, "unwrap", [] | .some x, "expect", [_] | .some x, "unwrap_or", [_]
  | .some x, "unwrap_or_default", [] => .ok x
  | .ok x, "unwrap", [] | .ok x, "expect", [_] | .ok x, "unwrap_or", [_]
  | .ok x, "unwrap_or_default", [] => .ok x
  | .none, "unwrap", [] =>
    .error "evaluation panicked: called \x60Option::unwrap()\x60 on a \x60None\x60 value"
  | .none, "expect", [.str m] => .error ("evaluation panicked: " ++ m)
  | .none, "unwrap_or", [d] | .err _, "unwrap_or", [d] => .ok d
  | .none, "unwrap_or_default", [] | .err _, "unwrap_or_default", [] =>
    match default with
    | some d => .ok d
    | none => none'
  | .some _, "is_some", [] | .none, "is_none", [] | .ok _, "is_ok", [] | .err _, "is_err", [] =>
    .ok (.bool true)
  | .none, "is_some", [] | .some _, "is_none", [] | .err _, "is_ok", [] | .ok _, "is_err", [] =>
    .ok (.bool false)
  | .ok x, "ok", [] => .ok (.some x)
  | .err _, "ok", [] => .ok .none
  | .err x, "err", [] => .ok (.some x)
  | .ok _, "err", [] => .ok .none
  | _, _, _ => none'

/-! ### Library functions -/

/-- A function of the standard library that a value reaches through a type's path. -/
inductive LibraryFn where
  /-- `T::from_le_bytes`, `T::from_be_bytes` or `T::from_ne_bytes` of an integer type. -/
  | fromBytes (t : IntType) (bigEndian : Bool)
  /-- `T::from_str_radix` of an integer type. -/
  | parseRadix (t : IntType)
  | charFromU32
  | charFromDigit
  /-- `T::default()` of a primitive type. -/
  | defaultOf (t : ValueType)
  /-- `f32::from_bits` (`single`) or `f64::from_bits`. -/
  | floatFromBits (single : Bool)
  /-- `T::try_from` of an integer type. -/
  | tryConvert (target : IntType)
  | vecWithCapacity
  | vecFrom
  | stringWithCapacity
  deriving Repr, Inhabited

/-- The library function an item of a primitive type names. -/
def primitiveFn? (t : ValueType) (item : String) : Option LibraryFn :=
  match t, item with
  | .int it, "from_le_bytes" => some (.fromBytes it false)
  | .int it, "from_ne_bytes" => some (.fromBytes it false)
  | .int it, "from_be_bytes" => some (.fromBytes it true)
  | .int it, "from_str_radix" => some (.parseRadix it)
  | .int it, "try_from" => some (.tryConvert it)
  | .char, "from_u32" => some .charFromU32
  | .char, "from_digit" => some .charFromDigit
  | .float single, "from_bits" => some (.floatFromBits single)
  | .int _, "default" | .float _, "default" | .bool, "default" | .char, "default" =>
    some (.defaultOf t)
  | _, _ => none

/-- The library function an item of a type of the prelude names. -/
def preludeFn? (typeName item : String) : Option LibraryFn :=
  match typeName, item with
  | "Vec", "with_capacity" => some .vecWithCapacity
  | "Vec", "from" => some .vecFrom
  | "String", "with_capacity" => some .stringWithCapacity
  | _, _ => none

/-- The types of the arguments of a library function, where they are fixed. -/
def LibraryFn.params : LibraryFn → List (Option ValueType)
  | .fromBytes t _ => [some (.array (.int .u8) (t.bits / 8))]
  | .parseRadix _ => [some .strRef, some (.int .u32)]
  | .charFromU32 => [some (.int .u32)]
  | .charFromDigit => [some (.int .u32), some (.int .u32)]
  | .defaultOf _ => []
  | .floatFromBits single => [some (.int (if single then .u32 else .u64))]
  | .tryConvert _ | .vecFrom => [none]
  | .vecWithCapacity | .stringWithCapacity => [some (.int .usize)]

/-- Whether a constant may call a library function. -/
def LibraryFn.const : LibraryFn → Bool
  | .fromBytes _ _ | .parseRadix _ | .charFromU32 | .charFromDigit | .floatFromBits _ => true
  | _ => false

/-- The integer bytes stand for, least significant first. -/
def littleEndianValue (bytes : List Nat) : Nat :=
  bytes.foldr (fun b acc => b + 256 * acc) 0

/-- What `from_str_radix` gives for a text in a radix: the value, or the kind of error. -/
def parseInRadix (t : IntType) (text : String) (radix : Nat) : Except String Int :=
  let cs := text.toList
  let (negative, digits) := match cs with
    | '+' :: rest => (false, rest)
    | '-' :: rest => if t.signed then (true, rest) else (false, cs)
    | _ => (false, cs)
  if cs.isEmpty then .error "Empty"
  else if digits.isEmpty then .error "InvalidDigit"
  else
    digits.foldlM (fun acc c =>
      match digitValue c radix with
      | none => .error "InvalidDigit"
      | some d =>
        let next := if negative then acc * (radix : Int) - d else acc * (radix : Int) + d
        if t.contains next then .ok next
        else .error (if negative then "NegOverflow" else "PosOverflow")) 0

/-- The value of a library function, or the panic it reports ("" when the call is not
described). -/
def libraryFnValue (f : LibraryFn) (args : List Constant) : Except String Constant :=
  match f, args with
  | .fromBytes t bigEndian, [.array bytes] =>
    let ns := bytes.filterMap fun b => match b with
      | .int _ v => some v.toNat
      | _ => none
    let ordered := if bigEndian then ns.reverse else ns
    .ok (.int t (t.ofBits (littleEndianValue ordered)))
  | .parseRadix t, [.str text, .int _ radix] =>
    if radix < 2 || radix > 36 then
      .error ("evaluation panicked: from_ascii_radix: radix must lie in the range \x60[2, 36]\x60")
    else match parseInRadix t text radix.toNat with
      | .ok v => .ok (.ok (.int t v))
      | .error kind => .ok (.err (.record ("ParseIntError \x7b kind: " ++ kind ++ " \x7d")))
  | .charFromU32, [.int _ v] =>
    if v < 0 || v > 0x10FFFF || (0xD800 ≤ v && v ≤ 0xDFFF) then .ok .none
    else .ok (.some (.char (Char.ofNat v.toNat)))
  | .charFromDigit, [.int _ num, .int _ radix] =>
    if radix > 36 then .error "evaluation panicked: from_digit: radix is too high (maximum 36)"
    else if num < radix then
      let n := num.toNat
      .ok (.some (.char (Char.ofNat (if n < 10 then 0x30 + n else 0x61 + n - 10))))
    else .ok .none
  | .defaultOf t, [] =>
    match t with
    | .int it => .ok (.int it 0)
    | .float single => .ok (.float single (.finite false Binary.zero))
    | .bool => .ok (.bool false)
    | .char => .ok (.char (Char.ofNat 0))
    | _ => .error ""
  | .floatFromBits single, [.int _ bits] =>
    .ok (.float single (FloatValue.ofBits (if single then binary32 else binary64) bits.toNat))
  | .tryConvert t, [.int _ v] =>
    .ok (if t.contains v then .ok (.int t v) else .err (.record "TryFromIntError(())"))
  | .tryConvert t, [.char c] =>
    .ok (if t.contains c.toNat then .ok (.int t c.toNat) else .err (.record "TryFromCharError(())"))
  | .tryConvert t, [.bool b] => .ok (.ok (.int t (if b then 1 else 0)))
  | .vecWithCapacity, [_] => .ok (.array [])
  | .stringWithCapacity, [_] => .ok (.str "")
  | .vecFrom, [.array xs] => .ok (.array xs)
  | .vecFrom, [.str s] =>
    .ok (.array ((Code.Literal.utf8Bytes s.toList).map fun (b : Nat) => Constant.int .u8 b))
  | _, _ => .error ""

end GatherMap.Inline
