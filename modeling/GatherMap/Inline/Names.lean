import GatherMap.Inline.Constant
import GatherMap.Inline.Primitive

/-!
# What the names in a value stand for

A path in a value names a local binding, a constant, a function, or nothing at all. The names
every program can use are the prelude's (`None`, `Some`, `Ok`, `Err`, `drop`, `String`, `Vec`,
`Box`, `Option`, `Result`), the primitive types with their associated constants (`i32::MAX`,
`f64::NAN`, `char::REPLACEMENT_CHARACTER`, …) and conversions (`u32::from`), and the modules of
the standard library that hold constants and these functions: the older modules named after the
numeric types (`std::u8::MAX`), `f64::consts`, `mem`, `option`, `result`, `string`, `vec` and
`boxed`, under both `std` and `core`.

A name that cannot be found is an error of name resolution, reported at the segment that is
missing, in the compiler's words: "cannot find value `x` in this scope", "cannot find
module or crate `foo` in this scope", "cannot find `x` in `std`". An associated item that a
primitive type lacks is found later, when types are checked.
-/

namespace GatherMap.Inline

open Code

/-- A function that values may call. -/
inductive Builtin where
  | some
  | ok
  | err
  | drop
  | boxNew
  | stringFrom
  | stringNew
  | vecNew
  /-- `T::from` for a primitive type `T`. -/
  | convert (target : ValueType)
  /-- `T::max_value` (`upper`) or `T::min_value` for an integer type `T`: the older spelling of
  its bounds, as constant functions. -/
  | limit (t : IntType) (upper : Bool)
  /-- A function of the standard library reached through a type's path. -/
  | library (f : LibraryFn)
  deriving Repr, Inhabited

/-- What a path in a value stands for. -/
inductive Named where
  /-- A binding of an enclosing block. -/
  | binding (name : String)
  | constant (t : ValueType) (value : Constant)
  | function (f : Builtin)
  | noneValue
  /-- A name that resolution cannot find: the message and the span of the missing segment. -/
  | unresolved (message : String) (span : Span)
  /-- An item that type checking cannot find: the message and the span it is reported over,
  the item's name or the path up to it. -/
  | missingItem (message : String) (first last : Span)
  /-- A name the model does not describe. -/
  | unknown
  deriving Repr, Inhabited

/-- The spans of the segment names of a path, skipping generic arguments. -/
def segmentSpans (tokens : Tokens) : List Span :=
  let step (acc : Nat × List Span) (t : TokenTree) : Nat × List Span :=
    let (depth, spans) := acc
    match t with
    | .punct '<' _ _ => (depth + 1, spans)
    | .punct '>' _ _ => (depth - 1, spans)
    | .ident _ sp => if depth == 0 then (depth, spans ++ [sp]) else acc
    | _ => acc
  (tokens.foldl step (0, [])).2

/-- The format of a floating-point type. -/
def floatFormat (single : Bool) : Decimal.Format :=
  if single then Decimal.binary32 else Decimal.binary64

/-- A floating-point value written in decimal. -/
def decimalValue (single : Bool) (text : String) : Decimal.FloatValue :=
  match Decimal.textParts text with
  | some d => Decimal.FloatValue.ofDec (floatFormat single) false d
  | none => .nan

/-- The mathematical constants of `f32::consts` and `f64::consts`, to more digits than either
type holds. -/
def mathConstants : List (String × String) :=
  [("PI", "3.14159265358979323846264338327950288"),
   ("TAU", "6.28318530717958647692528676655900577"),
   ("E", "2.71828182845904523536028747135266250"),
   ("SQRT_2", "1.41421356237309504880168872420969808"),
   ("FRAC_1_SQRT_2", "0.707106781186547524400844362104849039"),
   ("LN_2", "0.693147180559945309417232121458176568"),
   ("LN_10", "2.30258509299404568401799145468436421"),
   ("LOG2_E", "1.44269504088896340735992468100189214"),
   ("LOG10_E", "0.434294481903251827651128918916605082"),
   ("LOG2_10", "3.32192809488736234787031942948939018"),
   ("LOG10_2", "0.301029995663981195213738894724493027"),
   ("FRAC_PI_2", "1.57079632679489661923132169163975144"),
   ("FRAC_PI_3", "1.04719755119659774615421446109316763"),
   ("FRAC_PI_4", "0.785398163397448309615660845819875721"),
   ("FRAC_PI_6", "0.52359877559829887307710723054658381"),
   ("FRAC_PI_8", "0.39269908169872415480783042290993786"),
   ("FRAC_1_PI", "0.318309886183790671537767526745028724"),
   ("FRAC_2_PI", "0.636619772367581343075535053490057448"),
   ("FRAC_2_SQRT_PI", "1.12837916709551257389615890312154517")]

/-- An associated constant of a floating-point type. -/
def floatConstant (single : Bool) (name : String) : Option (ValueType × Constant) :=
  let f := floatFormat single
  let t := ValueType.float single
  let value (v : Decimal.FloatValue) : Option (ValueType × Constant) := some (t, .float single v)
  let u32 (n : Nat) : Option (ValueType × Constant) := some (.int .u32, .int .u32 n)
  let i32 (n : Int) : Option (ValueType × Constant) := some (.int .i32, .int .i32 n)
  let largest := (Nat.pow 2 f.precision - 1) * Nat.pow 2 f.maxExp.toNat
  let leastNormal := Nat.pow 2 ((-f.minExp).toNat - (f.precision - 1))
  match name with
  | "MAX" => value (.round f false largest 1)
  | "MIN" => value (.round f true largest 1)
  | "MIN_POSITIVE" => value (.round f false 1 leastNormal)
  | "EPSILON" => value (.round f false 1 (Nat.pow 2 (f.precision - 1)))
  | "NAN" => value .nan
  | "INFINITY" => value (.infinite false)
  | "NEG_INFINITY" => value (.infinite true)
  | "RADIX" => u32 2
  | "MANTISSA_DIGITS" => u32 f.precision
  | "DIGITS" => u32 (if single then 6 else 15)
  | "MIN_EXP" => i32 (if single then -125 else -1021)
  | "MAX_EXP" => i32 (if single then 128 else 1024)
  | "MIN_10_EXP" => i32 (if single then -37 else -307)
  | "MAX_10_EXP" => i32 (if single then 38 else 308)
  | _ => none

/-- The version of Unicode that the character functions follow, as a triple of bytes. -/
def unicodeVersion : ValueType × Constant :=
  (.tuple [.int .u8, .int .u8, .int .u8], .tuple [.int .u8 17, .int .u8 0, .int .u8 0])

/-- An associated constant of a primitive type. -/
def primitiveConstant (t : ValueType) (name : String) : Option (ValueType × Constant) :=
  match t with
  | .int it =>
    match name with
    | "MIN" => some (t, .int it it.min)
    | "MAX" => some (t, .int it it.max)
    | "BITS" => some (.int .u32, .int .u32 it.bits)
    | _ => none
  | .float single => floatConstant single name
  | .char =>
    match name with
    | "MIN" => some (.char, .char (Char.ofNat 0))
    | "MAX" => some (.char, .char (Char.ofNat 0x10FFFF))
    | "REPLACEMENT_CHARACTER" => some (.char, .char (Char.ofNat 0xFFFD))
    | "UNICODE_VERSION" => some unicodeVersion
    | _ => none
  | _ => none

/-- The constants of the module of the standard library named after a primitive type: an
integer type's module keeps only its bounds, and the module `char` has no `MIN`. -/
def moduleConstant (t : ValueType) (name : String) : Option (ValueType × Constant) :=
  match t with
  | .int _ => if name == "MIN" || name == "MAX" then primitiveConstant t name else none
  | .char => if name == "MIN" then none else primitiveConstant t name
  | _ => primitiveConstant t name

/-- The word the compiler uses for a kind of type in its messages. -/
def typeKindWord (typeName : String) : String :=
  match typeName with
  | "Option" | "Result" => "enum"
  | "String" | "Vec" | "Box" => "struct"
  | _ => "type"

/-- The message for an associated item that a type lacks. -/
def missingItemMessage (typeName item : String) : String :=
  let kind := if item.front.isUpper then "associated function or constant"
    else "function or associated item"
  "no " ++ kind ++ " named \x60" ++ item ++ "\x60 found for " ++ typeKindWord typeName ++
    " \x60" ++ typeName ++ "\x60 in the current scope"

/-- What `T::item` names for a type `T` of the prelude or a primitive type. -/
def associated (typeName item : String) (itemSpan : Span) : Named :=
  let missing := Named.missingItem (missingItemMessage typeName item) itemSpan itemSpan
  match ValueType.primitive? typeName with
  | some t =>
    if let some f := primitiveFn? t item then .function (.library f) else
    if item == "from" && !(typeName == "str") then .function (.convert t)
    else match t, item with
      | .int it, "max_value" => .function (.limit it true)
      | .int it, "min_value" => .function (.limit it false)
      | _, _ =>
        match primitiveConstant t item with
        | some (ty, v) => .constant ty v
        | none => missing
  | none =>
    if let some f := preludeFn? typeName item then .function (.library f) else
    match typeName, item with
    | "String", "from" => .function .stringFrom
    | "String", "new" | "String", "default" => .function .stringNew
    | "Vec", "new" | "Vec", "default" => .function .vecNew
    | "Box", "new" => .function .boxNew
    | "Option", "Some" => .function .some
    | "Option", "None" => .noneValue
    | "Result", "Ok" => .function .ok
    | "Result", "Err" => .function .err
    | _, _ => missing

/-- Names of types the prelude brings into scope that values can name items of. -/
def preludeTypes : List String := ["String", "Vec", "Box", "Option", "Result"]

/-- What a path under a module of the standard library names, from the module's own path
(`std`, `std::f64`, …) and the segments after it with their spans. -/
def underModule (crate : String) : List String → List (String × Span) → Named
  | _, [] => .unknown
  | path, (name, span) :: rest =>
    let here := "::".intercalate path
    let lastInCrate := path.length == 1
    let notFound : Named :=
      if rest.isEmpty then
        .unresolved ("cannot find value \x60" ++ name ++ "\x60 in " ++
          (if lastInCrate then "crate" else "module") ++ " \x60" ++ here ++ "\x60") span
      else .unresolved ("cannot find \x60" ++ name ++ "\x60 in \x60" ++ path.getLastD crate ++ "\x60")
        span
    let single (n : Named) : Named :=
      match rest with
      | [] => n
      | (next, nextSpan) :: _ =>
        .unresolved ("cannot find \x60" ++ next ++ "\x60 in \x60" ++ name ++ "\x60") nextSpan
    match path with
    | [_] =>
      match ValueType.primitive? name with
      | some t =>
        if name == "str" || name == "bool" then notFound else
        match rest with
        | [(item, itemSpan)] =>
          if name == "char" && item == "from_u32" then .function (.library .charFromU32) else
          if name == "char" && item == "from_digit" then .function (.library .charFromDigit) else
          match moduleConstant t item with
          | some (ty, v) => .constant ty v
          | none => .unresolved ("cannot find value \x60" ++ item ++ "\x60 in module \x60" ++
              here ++ "::" ++ name ++ "\x60") itemSpan
        | (sub, _) :: more =>
          if sub == "consts" && t.isFloating then
            match more with
            | [(c, cSpan)] =>
              match mathConstants.lookup c with
              | some text =>
                let single := name == "f32"
                .constant (.float single) (.float single (decimalValue single text))
              | none => .unresolved ("cannot find value \x60" ++ c ++ "\x60 in module \x60" ++
                  here ++ "::" ++ name ++ "::consts\x60") cSpan
            | _ => .unknown
          else underModule crate (path ++ [name]) rest
        | [] => .unknown
      | none =>
        match name with
        | "primitive" =>
          match rest with
          | [(ty, _), (item, itemSpan)] =>
            if (ValueType.primitive? ty).isSome then associated ty item itemSpan else .unknown
          | _ => .unknown
        | "mem" =>
          match rest with
          | [("drop", _)] => .function .drop
          | [] => .unknown
          | _ => .unknown
        | "option" | "result" | "string" | "vec" | "boxed" =>
          if crate == "core" && (name == "string" || name == "vec" || name == "boxed") then
            notFound
          else
            match rest with
            | [(ty, _), (item, itemSpan)] =>
              let expected := match name with
                | "option" => "Option"
                | "result" => "Result"
                | "string" => "String"
                | "vec" => "Vec"
                | _ => "Box"
              if ty == expected then associated ty item itemSpan else .unknown
            | _ => .unknown
        | _ => notFound
    | _ => single .unknown

/-- The variant of `Option` or `Result` a path in a pattern names, `None`, `Some`, `Ok` or
`Err`, written alone or after its type. -/
def patternVariant? (path : List String) : Option String :=
  match path with
  | [v] => if ["None", "Some", "Ok", "Err"].contains v then some v else none
  | ["Option", v] => if v == "None" || v == "Some" then some v else none
  | ["Result", v] => if v == "Ok" || v == "Err" then some v else none
  | _ => none

/-- The names of the library's root module in the value namespace: its types are not values,
except the unit-like ones. -/
def libraryValueNames : List String := ["Natural", "impl_key"]

/-- What a path names, given the names bound by enclosing blocks; `callee` when it is called. -/
def namePath (bound : List String) (callee : Bool) (leadingColon : Bool)
    (segments : List Segment) (tokens : Tokens) : Named :=
  let leadingColon := leadingColon || (match tokens with
    | .punct ':' _ _ :: _ => true
    | _ => false)
  let spans := segmentSpans tokens
  let named := segments.zipIdx.map fun (s, i) => (s.name, spans.getD i .callSite)
  match named with
  | [] => .unknown
  | [(name, span)] =>
    if leadingColon then
      .unresolved ("cannot find crate \x60" ++ name ++ "\x60 in the list of imported crates") span
    else if bound.contains name then .binding name
    else match name with
      | "None" => .noneValue
      | "Some" => .function .some
      | "Ok" => .function .ok
      | "Err" => .function .err
      | "drop" => .function .drop
      | _ =>
        let what := if !callee then "value"
          else if name.front.isUpper then "function, tuple struct or tuple variant"
          else "function"
        .unresolved ("cannot find " ++ what ++ " \x60" ++ name ++ "\x60 in this scope") span
  | (first, span) :: rest =>
    if first == "std" || first == "core" then underModule first [first] rest
    else if leadingColon && !(first == "pextmap" || first == "oracle_dump") then
      .unresolved ("cannot find \x60" ++ first ++ "\x60 in the list of imported crates") span
    else if (ValueType.primitive? first).isSome || preludeTypes.contains first then
      match rest with
      | [(item, itemSpan)] => associated first item itemSpan
      | (_, nextSpan) :: _ :: _ =>
        -- the segment after a type names no module: it would be an associated type
        .missingItem "ambiguous associated type" span nextSpan
      | [] => .unknown
    else if first == "super" then
      .unresolved "too many leading \x60super\x60 keywords within \x60crate\x60" span
    else if ["pextmap", "oracle_dump", "crate", "self"].contains first then
      -- a crate's root module, or the program's own, which holds no value a program may use
      match rest with
      | [(item, itemSpan)] =>
        let known := if first == "pextmap" then libraryValueNames
          else if first == "oracle_dump" then ["map"] else ["main"]
        if known.contains item then .unknown
        else
          let what := if callee then "function" else "value"
          let place := if first == "crate" then "the crate root"
            else if first == "self" then "module \x60self\x60"
            else "crate \x60" ++ first ++ "\x60"
          .unresolved ("cannot find " ++ what ++ " \x60" ++ item ++ "\x60 in " ++ place) itemSpan
      | _ => .unknown
    else if first.front.isUpper then
      .unresolved ("cannot find type \x60" ++ first ++ "\x60 in this scope") span
    else .unresolved ("cannot find module or crate \x60" ++ first ++ "\x60 in this scope") span

end GatherMap.Inline
