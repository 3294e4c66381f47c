import GatherMap.Inline.Names
import GatherMap.Inline.Integer
import GatherMap.Inline.TypeSyntax
import GatherMap.Code.Grammar.Rules
import GatherMap.Inline.Format
import GatherMap.Code.Scan.Recover

/-!
# Checking the types of values

`check` infers the type of an expression the way the compiler does, from its operands and
from what its context expects:

* an unsuffixed integer literal takes the integer type its context expects, `u8` when a
  character is expected, and an integer variable otherwise; an unsuffixed floating-point
  literal likewise takes an expected floating-point type;
* the elements of an array, the fields of a tuple whose type is expected, the tail of a block
  and the arguments of calls are *coerced*: their type must agree with the one expected, and a
  mismatch is reported at the innermost expression that has the wrong type;
* the operands of arithmetic must have one numeric type; the right operand of a shift may have
  any integer type; comparisons of scalars need one type on both sides;
* a cast checks its operand with the cast's target as a hint, and is itself checked only once
  the open integer and float variables have been settled;
* `-` needs a signed integer or a float, and `!` an integer or `bool`. Negating an integer
  variable is checked once the variable is settled.

Problems are reported with the compiler's messages and spans: "mismatched types" at the
expression, "cannot add `&str` to `&str`" at the operator, "cannot cast `i32` as `bool`" at
the cast. An expression the model does not describe has the error type, which agrees with every
type and hides further problems.
-/

namespace GatherMap.Inline

open Code Grammar

/-- How the context of an expression guides its type. -/
inductive Expect where
  | none
  /-- The context expects a type. -/
  | has (t : ValueType)
  /-- The expression is the operand of a cast to a type. -/
  | castTo (t : ValueType)
  deriving Repr, Inhabited

/-- The name of a macro invocation and the tokens inside its delimiters. -/
def macroParts (ts : Tokens) : Option (String × Tokens) :=
  match ts.reverse with
  | .group _ inner _ :: .punct '!' _ _ :: .ident name _ :: _ => some (name, inner)
  | _ => none

/-- The element expressions of `vec![…]`: a list of elements, or one element and a count. -/
inductive VecItems where
  | list (items : List Expr)
  | repeat (item count : Expr)

/-- The elements of a `vec!` invocation's tokens. -/
def vecItems (inner : Tokens) : Option VecItems :=
  match splitAtSemicolon inner with
  | some (a, b) =>
    match runAll (expr (fuelFor a) true) a, runAll (expr (fuelFor b) true) b with
    | .ok x, .ok n => some (.repeat x n)
    | _, _ => none
  | none =>
    match runAll (exprList (fuelFor inner)) inner with
    | .ok (items, _) => some (.list items)
    | .error _ => none

/-- A `format!` invocation: its format string, the token that writes it, and its arguments
in order, a named one (`name = value`) with its name. -/
structure FormatCall where
  text : String
  literal : TokenTree
  args : List (Option String × Expr)

/-- The format string and the arguments of a `format!` invocation's tokens. -/
def formatArgs (inner : Tokens) : Option FormatCall :=
  let named (x : Expr) : Option String × Expr := match x with
    | .binary "=" (.path false [s] _) value _ => if s.argsEmpty then (some s.name, value) else (none, x)
    | _ => (none, x)
  match inner with
  | (.literal text sp) :: rest =>
    match Literal.classify text with
    | .str s =>
      match rest with
      | [] => some ⟨s, .literal text sp, []⟩
      | .punct ',' _ _ :: args =>
        match runAll (exprList (fuelFor args)) args with
        | .ok (items, _) => some ⟨s, .literal text sp, items.map named⟩
        | .error _ => none
      | _ => none
    | _ => none
  | _ => none

/-- The names a format string's placeholders take from the scope: those that name no argument
of the call. -/
def FormatCall.captured (call : FormatCall) : List String :=
  match formatPieces 0 call.text.toList with
  | some pieces =>
    let names := (references pieces).flatMap fun r =>
      ([some r.value] ++ [r.width, r.precision]).filterMap fun a => match a with
        | some (.name n) => some n
        | _ => none
    names.foldl (fun acc n =>
      if acc.contains n || call.args.any (·.1 == some n) then acc else acc ++ [n]) []
  | none => []

/-- The expressions of a macro's arguments separated by commas, such as those of `concat!`;
where a comma should follow an argument, any other token is an error. -/
def commaArgs : Nat → Parser (List Expr)
  | 0 => exhausted
  | n + 1 => do
    if ← atEnd then return []
    let e ← expr n true
    if ← atEnd then return [e]
    if ← peekPunct "," then
      discard <| punct ","
      return e :: (← commaArgs n)
    errorHere "expected token: \x60,\x60"

/-- The scrutinee, pattern and guard of a `matches!` invocation. -/
def matchesArgs (inner : Tokens) : Option (Expr × Pattern × Option Expr) :=
  let n := fuelFor inner
  let parts : Parser (Expr × Pattern × Option Expr) := do
    let e ← expr n true
    discard <| punct ","
    let (pat, _) ← patMulti n
    let guard ← if ← peekWord "if" then do
        discard <| word "if"
        some <$> expr n true
      else pure none
    discard <| optPunct ","
    return (e, pat, guard)
  match runAll parts inner with
  | .ok r => some r
  | .error _ => none

/-- Macros whose expansion is a string literal. -/
def stringMacros : List String :=
  ["concat", "stringify", "file", "module_path", "env", "include_str"]

/-- Macros the standard library defines, which values may invoke. -/
def knownMacros : List String :=
  ["vec", "format", "line", "column", "panic", "todo", "unimplemented", "unreachable",
   "assert", "assert_eq", "assert_ne", "matches", "cfg", "dbg", "option_env",
   "include_bytes", "compile_error"] ++ stringMacros

/-- The type an integer literal takes from what its context expects. -/
def integerHint (expect : Expect) : Infer (Option ValueType) := do
  match expect with
  | .has t | .castTo t =>
    match ← Infer.follow t with
    | .int it => return some (.int it)
    | .char => return some (.int .u8)
    | _ => return none
  | .none => return none

/-- The type a floating-point literal takes from what its context expects. -/
def floatHint (expect : Expect) : Infer (Option ValueType) := do
  match expect with
  | .has t | .castTo t =>
    match ← Infer.follow t with
    | .float s => return some (.float s)
    | _ => return none
  | .none => return none

/-- The type a context expects, if it expects one. -/
def Expect.known : Expect → Option ValueType
  | has t => Option.some t
  | _ => Option.none

/-- The message for a binary operation the operand types do not support. -/
def binaryMessage (op : String) (l r : ValueType) : String :=
  let ls := "\x60" ++ l.shown ++ "\x60"
  let rs := "\x60" ++ r.shown ++ "\x60"
  match op, l, r with
  | "+", .intVar _, .floatVar _ => "cannot add a float to an integer"
  | "+", .floatVar _, .intVar _ => "cannot add an integer to a float"
  | "+", _, _ => "cannot add " ++ rs ++ " to " ++ ls
  | "-", _, _ => "cannot subtract " ++ rs ++ " from " ++ ls
  | "*", _, _ => "cannot multiply " ++ ls ++ " by " ++ rs
  | "/", _, _ => "cannot divide " ++ ls ++ " by " ++ rs
  | "%", _, _ => "cannot calculate the remainder of " ++ ls ++ " divided by " ++ rs
  | "&", _, _ | "|", _, _ | "^", _, _ | "<<", _, _ | ">>", _, _ =>
    "no implementation for \x60" ++ l.shown ++ " " ++ op ++ " " ++ r.shown ++ "\x60"
  | _, _, _ => "can't compare " ++ ls ++ " with " ++ rs

/-- Arithmetic operators. -/
def arithmeticOps : List String := ["+", "-", "*", "/", "%"]

/-- Bitwise operators. -/
def bitwiseOps : List String := ["&", "|", "^"]

/-- Comparison operators. -/
def comparisonOps : List String := ["==", "!=", "<", ">", "<=", ">="]

/-- The name of a named range type by its bounds. -/
def rangeTypeName (lower upper : Bool) (closed : Bool) : String :=
  match lower, upper, closed with
  | true, true, false => "Range"
  | true, true, true => "RangeInclusive"
  | true, false, _ => "RangeFrom"
  | false, true, false => "RangeTo"
  | false, true, true => "RangeToInclusive"
  | false, false, _ => "RangeFull"

/-- The element type of an indexable type. -/
def elementType? : ValueType → Option ValueType
  | .array t _ | .slice t | .named "Vec" [t] => some t
  | _ => none

/-- The type of a literal in a pattern. -/
def literalPatternType (value : Literal) : Infer ValueType :=
  match value with
  | .int _ _ suffix =>
    match ValueType.primitive? suffix with
    | some t => pure t
    | none => Infer.fresh .integer
  | .char _ => pure .char
  | .str _ => pure .strRef
  | .byte _ => pure (.int .u8)
  | .float suffix =>
    match ValueType.primitive? suffix with
    | some t => pure t
    | none => Infer.fresh .float
  | _ => pure .error

/-- The constant a path in a pattern names, with its type: a constant of a primitive type such
as `u8::MAX`. -/
def patternConstant? (p : Path) : Option (ValueType × Constant) :=
  match namePath [] false p.leadingColon p.segments p.tokens with
  | .constant t c => some (t, c)
  | _ => none

/-- The path of plain names a constructor pattern without fields is written as. -/
def namesPath (names : List String) : Path := ⟨false, names.map fun n => ⟨n, .none⟩, []⟩

/-- The type of a bound of a range pattern: that of its literal, or of the constant its path
names. -/
def rangeBoundType : RangeBound → Infer ValueType
  | .lit v => literalPatternType v
  | .path p => pure (((patternConstant? p).map (·.1)).getD .error)

/-- Bind a pattern's names to the types of the parts of the scrutinee they match, checking the
pattern's literals and constructors against the scrutinee's type. -/
def checkPattern (scrutinee : ValueType) : Pattern → Infer (List (String × ValueType))
  | .wild | .other | .rest => return []
  | .bind name => return [(name, scrutinee)]
  | .bindAt name inner => do
    return (name, scrutinee) :: (← checkPattern scrutinee inner)
  | .slice items => do
    let element ← match ← Infer.follow scrutinee with
      | .array x _ | .slice x => pure x
      | .ref r =>
        match ← Infer.follow r with
        | .array x _ | .slice x => pure (.ref x)
        | _ => Infer.fresh .general
      | _ => Infer.fresh .general
    let bound ← items.attach.mapM fun ⟨p, _⟩ => checkPattern element p
    return bound.flatten
  | .lit value => do
    discard <| Infer.unify (← literalPatternType value) scrutinee
    return []
  | .boolLit _ => do
    discard <| Infer.unify .bool scrutinee
    return []
  | .range lower upper _ => do
    for bound in lower.toList ++ upper.toList do
      discard <| Infer.unify (← rangeBoundType bound) scrutinee
    return []
  | .alt options => do
    let bound ← options.attach.mapM fun ⟨p, _⟩ => checkPattern scrutinee p
    return bound.headD []
  | .tuple items => do
    if items.any (· matches .rest) then
      -- the fields before `..` are the first ones, those after it the last ones
      let fields ← match ← Infer.follow scrutinee with
        | .tuple ts => pure ts
        | _ => pure []
      let before := items.takeWhile fun p => !(p matches .rest)
      let after := (items.dropWhile fun p => !(p matches .rest)).drop 1
      let types := fields.take before.length ++ fields.drop (fields.length - after.length)
      let kept := items.attach.filter fun ⟨p, _⟩ => !(p matches .rest)
      let bound ← (kept.zip types).mapM fun (⟨p, _⟩, t) => checkPattern t p
      return bound.flatten
    let types ← items.mapM fun _ => Infer.fresh .general
    discard <| Infer.unify (.tuple types) scrutinee
    let bound ← (items.attach.zip types).mapM fun (⟨p, _⟩, t) => checkPattern t p
    return bound.flatten
  | .deref inner => do
    let t ← Infer.fresh .general
    discard <| Infer.unify (.ref t) scrutinee
    checkPattern t inner
  | .ctor path fields => do
    let inner ← Infer.fresh .general
    let other ← Infer.fresh .general
    match patternVariant? path, fields with
    | some "None", none =>
      discard <| Infer.unify (.option inner) scrutinee
      return []
    | some "Some", some [p] =>
      discard <| Infer.unify (.option inner) scrutinee
      checkPattern inner p
    | some "Ok", some [p] =>
      discard <| Infer.unify (.named "Result" [inner, other]) scrutinee
      checkPattern inner p
    | some "Err", some [p] =>
      discard <| Infer.unify (.named "Result" [other, inner]) scrutinee
      checkPattern inner p
    | none, none =>
      if let some (t, _) := patternConstant? (namesPath path) then
        discard <| Infer.unify t scrutinee
      return []
    | _, _ => return []

/-- The generic arguments written on a path in a value, as in `None::<i32>` or
`Vec::<u8>::new`: those of the last segment that has any. -/
def pathGenerics (ts : Tokens) : List TypeSyntax :=
  match readType (ts.length + 1) ts with
  | .path _ segments => ((segments.map (·.2)).filter (!·.isEmpty)).getLast?.getD []
  | _ => []

/-- The type a type written in a value stands for: a primitive type, `String`, a generic type
of the prelude, a reference, a tuple or an array; `_` is a new variable, and any other type the
error type. -/
def writtenType : Nat → TypeSyntax → Infer ValueType
  | 0, _ => pure .error
  | fuel + 1, t =>
    match t with
    | .infer => Infer.fresh .general
    | .ref inner => return .ref (← writtenType fuel inner)
    | .tuple items => return .tuple (← items.mapM (writtenType fuel))
    | .array item (some n) => return .array (← writtenType fuel item) n
    | .path false [(name, args)] =>
      match ValueType.primitive? name, args with
      | some p, [] => pure p
      | some _, _ => pure .error
      | none, _ => do
        let resolved ← args.mapM (writtenType fuel)
        match name, resolved with
        | "String", [] => pure .string
        | "Vec", [a] => pure (.named "Vec" [a])
        | "Box", [a] => pure (.named "Box" [a])
        | "Option", [a] => pure (.option a)
        | "Result", [a, b] => pure (.named "Result" [a, b])
        | _, _ => pure .error
    | _ => pure .error

/-- The type a type annotation stands for. -/
def annotatedType (t : Ty) : Infer ValueType :=
  writtenType 16 (readType (t.tokens.length + 1) t.tokens)

/-- The type of a closure or function: its result and its parameters. -/
def callableType (result : ValueType) (params : List ValueType) : ValueType :=
  .named "closure" (result :: params)

/-- The generic arguments of a method call's turbofish (`sum::<i32>`), from the tokens after
the dot: the method's name, the turbofish and the arguments. -/
def methodGenerics (afterDot : Tokens) : List TypeSyntax :=
  match afterDot with
  | .ident name sp :: rest =>
    let turbofish := rest.takeWhile fun t => !(t matches .group .paren _ _)
    if turbofish.isEmpty then [] else pathGenerics (.ident name sp :: turbofish)
  | _ => []

/-- The type of a call of an iterator method, given the receiver's type (followed), the
turbofish's types and the type the context expects: a method that makes an iterator of an
array, a vector or a string (`iter`, `into_iter`, `chars`, `bytes`, `split`, …), or a method of
an iterator (a range is one), which gives another iterator (`rev`, `skip`, `take`, `step_by`)
or consumes it (`count`, `sum`, `max`, `collect`, …). An iterator is `Iter<item>` here. None
when the method is not one of these. A consuming method whose result type nothing gives is
recorded at `nameSpan`, the place to write its generic argument. -/
def iteratorMethodType (top : ValueType) (name : String) (args generics : List ValueType)
    (expected : Option ValueType) (nameSpan : Span) : Infer (Option ValueType) := do
  let iter (x : ValueType) : ValueType := .named "Iter" [x]
  let byRef := top matches .ref _
  let inner ← match top with
    | .ref r => Infer.follow r
    | t => pure t
  let stringLike := inner matches .str || inner matches .named "String" []
  match name, inner with
  | "iter", .array x _ | "iter", .slice x | "iter", .named "Vec" [x] => return some (iter (.ref x))
  | "into_iter", .array x _ | "into_iter", .slice x | "into_iter", .named "Vec" [x] =>
    return some (iter (if byRef then .ref x else x))
  | _, _ =>
  if stringLike then
    match name with
    | "chars" => return some (iter .char)
    | "bytes" => return some (iter (.int .u8))
    | "split" | "split_whitespace" | "lines" | "split_terminator" | "rsplit" =>
      return some (iter .strRef)
    | _ => return none
  let item? : Option ValueType := match top with
    | .named "Iter" [x] | .named "Range" [x] | .named "RangeInclusive" [x]
    | .named "RangeFrom" [x] => some x
    | _ => none
  match item? with
  | none => return none
  | some x =>
    -- the type a consuming method gives: its turbofish's, or the one the context expects;
    -- when neither gives it, the method's name is where an annotation would go
    let chosen : Infer ValueType := match generics with
      | [g] => pure g
      | _ => do
        let v ← match expected with
          | some e => pure e
          | none => Infer.fresh .general
        Infer.site nameSpan nameSpan false [v]
        return v
    match name with
    | "count" | "len" => return some (.int .usize)
    | "sum" | "product" => return some (← chosen)
    | "max" | "min" | "next" | "last" => return some (.option x)
    | "nth" =>
      for a in args do discard <| Infer.unify a (.int .usize)
      return some (.option x)
    | "rev" => return some (iter x)
    | "skip" | "take" | "step_by" =>
      for a in args do discard <| Infer.unify a (.int .usize)
      return some (iter x)
    | "collect" =>
      match ← chosen with
      | .named "Vec" [u] =>
        discard <| Infer.unify u x
        return some (.named "Vec" [x])
      | t => return some t
    | _ => return none

/-- The type of the items a loop gives, by the type of what it iterates over. -/
def iteratedItem (t : ValueType) : Infer ValueType := do
  match ← Infer.follow t with
  | .named "Range" [u] | .named "RangeInclusive" [u] | .named "RangeFrom" [u] => return u
  | .array x _ | .named "Vec" [x] => return x
  | .named "Iter" [x] => return x
  | .ref r =>
    match ← Infer.follow r with
    | .array x _ | .slice x | .named "Vec" [x] => return .ref x
    | _ => return .error
  | _ => return .error

/-- Whether `From<source>` is implemented for `target`: widening conversions of numbers,
`bool` to integers, `char` to wide unsigned integers, `u8` to `char`, and every type from
itself. -/
def converts (source target : ValueType) : Bool :=
  match source, target with
  | .int a, .int b =>
    a == b || (!a.pointerSized && !b.pointerSized &&
      ((a.signed == b.signed && a.bits < b.bits) || (!a.signed && b.signed && a.bits < b.bits))) ||
    (b.pointerSized && a.bits ≤ 16 && (a.signed == b.signed || (!a.signed && b.signed && a.bits < 16)))
  | .bool, .int _ | .bool, .float _ => true
  | .char, .int b => !b.signed && b.bits ≥ 32 && !b.pointerSized
  | .int a, .char => a == .u8
  | .char, .char => true
  | .int a, .float single => !a.pointerSized && (if single then a.bits ≤ 16 else a.bits ≤ 32)
  | .float a, .float b => a == b || (a && !b)
  | .bool, .bool => true
  | _, _ => false

/-- Run a check inside a loop; returns the loop's frame as the check leaves it. -/
def inLoop (frame : LoopFrame) (act : Infer ValueType) : Infer LoopFrame := do
  modify fun s => { s with loops := frame :: s.loops }
  let t ← act
  discard <| Infer.unify t .unit
  let after := (← get).loops.headD frame
  modify fun s => { s with loops := s.loops.drop 1 }
  return after

/-- The operators that assign to a place, with the operator each applies first. -/
def assignmentOps : List (String × String) :=
  [("=", ""), ("+=", "+"), ("-=", "-"), ("*=", "*"), ("/=", "/"), ("%=", "%"), ("&=", "&"),
    ("|=", "|"), ("^=", "^"), ("<<=", "<<"), (">>=", ">>")]

/-- Check an expression with what its context expects, given the types of enclosing
bindings; returns its type. -/
def check : Nat → List (String × ValueType) → Expr → Expect → Infer ValueType
  | 0, _, _, _ => pure .error
  | fuel + 1, env, e, expect => do
    let recur := check fuel env
    let (first, last) := e.extent
    let mismatch (x : Expr) : Infer Unit :=
      let (a, b) := x.extent
      Infer.emit "mismatched types" a b
    -- check `x` and make its type agree with `target`, reporting a mismatch at `x`
    let coerce (x : Expr) (target : ValueType) : Infer ValueType := do
      let t ← check fuel env x (.has target)
      unless ← Infer.unify t target do mismatch x
      return target
    match e with
    | .lit lit ts =>
      -- a number the compiler could not read has no type, and no further error is reported
      if ts.any fun t => match t with
          | .literal text _ => Code.Scan.Recover.malformedNumber text
          | _ => false then
        return .error
      match lit with
      | .int _ _ suffix =>
        if suffix.isEmpty then
          match ← integerHint expect with
          | some t => return t
          | none => Infer.fresh .integer
        else return (ValueType.primitive? suffix).getD .error
      | .float suffix =>
        if suffix.isEmpty then
          match ← floatHint expect with
          | some t => return t
          | none => Infer.fresh .float
        else return (ValueType.primitive? suffix).getD .error
      | .str _ => return .strRef
      | .byteStr bytes => return .ref (.array (.int .u8) bytes.length)
      | .cStr _ => return .ref (.named "CStr" [])
      | .byte _ => return .int .u8
      | .char _ => return .char
      | .verbatim => return .error
    | .bool _ _ => return .bool
    | .paren inner _ => recur inner expect
    | .tuple items _ =>
      let fields ← match expect.known with
        | some t =>
          match ← Infer.follow t with
          | .tuple fs => pure (some fs)
          | _ => pure none
        | none => pure none
      let types ← items.zipIdx.mapM fun (x, i) =>
        match fields.bind (·[i]?) with
        | some f => coerce x f
        | none => recur x .none
      return .tuple types
    | .array items _ =>
      let element ← match expect with
        | .has t | .castTo t =>
          match ← Infer.follow t with
          | .array x _ | .slice x => pure x
          | _ => Infer.fresh (.general)
        | .none => Infer.fresh (.general)
      for x in items do
        discard <| coerce x element
      return .array element items.length
    | .repeated item count _ =>
      let element ← match expect.known with
        | some t =>
          match ← Infer.follow t with
          | .array x _ | .slice x => pure x
          | _ => Infer.fresh (.general)
        | none => Infer.fresh (.general)
      discard <| coerce count (.int .usize)
      discard <| coerce item element
      let n := match count with
        | .lit (.int _ v _) _ => v
        | _ => 0
      return .array element n
    | .neg inner _ =>
      let t ← recur inner expect
      match ← Infer.follow t with
      | .int it =>
        if it.signed then return t
        Infer.emit ("cannot apply unary operator \x60-\x60 to type \x60" ++ it.name ++ "\x60") first last
        return .error
      | .float _ | .floatVar _ | .error => return t
      | .intVar i =>
        -- the obligation is registered once for each variable
        let earlier ← (← get).negations.toList.anyM fun (u, _, _) => do
          match ← Infer.follow u with
          | .intVar j => return j == i
          | _ => return false
        unless earlier do
          modify fun s => { s with negations := s.negations.push (.intVar i, first, last) }
        return t
      | other =>
        let shown := (← Infer.zonk other).shown
        Infer.emit ("cannot apply unary operator \x60-\x60 to type \x60" ++ shown ++ "\x60") first last
        return .error
    | .unary '!' inner _ =>
      let t ← recur inner expect
      match ← Infer.follow t with
      | .int _ | .intVar _ | .bool | .error => return t
      | other =>
        let shown := (← Infer.zonk other).shown
        Infer.emit ("cannot apply unary operator \x60!\x60 to type \x60" ++ shown ++ "\x60") first last
        return .error
    | .unary _ inner _ =>
      let t ← recur inner .none
      match ← Infer.follow t with
      | .ref u | .named "Box" [u] => return u
      | .error => return .error
      | other =>
        let shown := (← Infer.zonk other).shown
        Infer.emit ("type \x60" ++ shown ++ "\x60 cannot be dereferenced") first last
        return .error
    | .reference inner _ =>
      let innerExpect ← match expect.known with
        | some t =>
          match ← Infer.follow t with
          | .ref u => pure (Expect.has u)
          | _ => pure Expect.none
        | none => pure Expect.none
      return .ref (← recur inner innerExpect)
    | .binary op l r _ =>
      let opSpan := (l.tokens.length, r.tokens.length)
      let opTokens := (e.tokens.drop opSpan.1).take (e.tokens.length - opSpan.1 - opSpan.2)
      let (opFirst, opLast) := (firstSpan opTokens, lastSpan opTokens)
      if op == "&&" || op == "||" then
        discard <| coerce l .bool
        discard <| coerce r .bool
        return .bool
      if let some applied := assignmentOps.lookup op then
        -- an assignment: the value agrees with the place, but for a shift's amount
        let lt ← recur l .none
        if applied == "<<" || applied == ">>" then discard <| recur r .none
        else if applied.isEmpty then
          let rt ← check fuel env r (.has lt)
          unless ← Infer.unify lt rt do mismatch r
        else
          let rt ← check fuel env r (.has lt)
          match ← Infer.zonk lt, ← Infer.zonk rt with
          | .named "String" [], _ => pure ()
          | _, _ => discard <| Infer.unify lt rt
        return .unit
      let lt ← recur l .none
      let rt ← recur r .none
      let lf ← Infer.zonk lt
      let rf ← Infer.zonk rt
      if lf.isError || rf.isError then
        return if comparisonOps.contains op then .bool else .error
      let failed : Infer ValueType := do
        Infer.emit (binaryMessage op lf rf) opFirst opLast
        return .error
      -- operands both integral or both floating: the compiler makes their types equal
      let sameKind := (lf.isIntegral && rf.isIntegral) || (lf.isFloating && rf.isFloating)
      if arithmeticOps.contains op then
        if sameKind then
          if ← Infer.unify lt rt then return lt
          else
            mismatch r
            failed
        else
          match lf, rf with
          | .named "String" [], .ref .str => if op == "+" then return lf else failed
          | _, _ => failed
      else if bitwiseOps.contains op then
        if sameKind || (lf matches .bool && rf matches .bool) then
          if ← Infer.unify lt rt then
            if lf.isFloating then failed else return lt
          else
            mismatch r
            failed
        else failed
      else if op == "<<" || op == ">>" then
        if lf.isIntegral && rf.isIntegral then return lt else failed
      else if comparisonOps.contains op then
        if lf.isScalar && rf.isScalar then
          unless ← Infer.unify lt rt do
            mismatch r
            discard failed
          return .bool
        else
          unless ← Infer.unify lt rt do discard failed
          return .bool
      else return .unit
    | .cast inner ty _ =>
      let target ← annotatedType ty
      let t ← recur inner (.castTo target)
      -- a string literal's type is shown with its lifetime
      let rec literalRef : Nat → Expr → Bool
        | 0, _ => false
        | k + 1, x => match x with
          | .lit (.str _) _ | .lit (.byteStr _) _ => true
          | .paren y _ => literalRef k y
          | _ => false
      modify fun s => { s with casts := s.casts.push (t, target, first, last, literalRef 8 inner) }
      return target
    | .path _ segments ts =>
      match namePath (env.map (·.1)) false false segments ts with
      | .binding name => return ((env.lookup name).getD .error)
      | .constant t _ => return t
      | .noneValue =>
        let v ← Infer.fresh .general
        for g in (← (pathGenerics ts).mapM (writtenType 16)).take 1 do
          discard <| Infer.unify v g
        Infer.site first last true [v]
        return .option v
      | .function f =>
        match f with
        | .stringNew => return .fnItem "String::new"
        | _ =>
          let v ← Infer.fresh .general
          Infer.site first last (f matches .some | .ok | .err) [v]
          return .named "fn" [v]
      | .missingItem message a b =>
        Infer.emit message a b
        return .error
      | .unresolved _ _ | .unknown => return .error
    | .call (.path _ segments ts) args _ =>
      let (calleeFirst, calleeLast) := (firstSpan ts, lastSpan ts)
      -- the segment naming the type a function belongs to, where trait bounds are reported
      let spans := segmentSpans ts
      let ownerFirst := spans.getD (spans.length - 2) calleeFirst
      let argsUnchecked : Infer ValueType := do
        for a in args do
          discard <| recur a .none
        return .error
      match namePath (env.map (·.1)) true false segments ts with
      | .function f =>
        let expectedArgs ← match expect.known with
          | some t =>
            match ← Infer.follow t with
            | .named _ xs => pure xs
            | _ => pure []
          | none => pure []
        let generics ← (pathGenerics ts).mapM (writtenType 16)
        let hinted (i : Nat) : Expect := match expectedArgs[i]? with
          | some t => .has t
          | none => .none
        -- an argument whose type the path gives is coerced to it
        let argument (a : Expr) (i : Nat) (hint : Expect) : Infer ValueType :=
          match generics[i]? with
          | some g => coerce a g
          | none => recur a hint
        let parameter (i : Nat) : Infer ValueType := do
          let v ← Infer.fresh .general
          if let some g := generics[i]? then discard <| Infer.unify v g
          return v
        let site (variant : Bool) (args : List ValueType) : Infer Unit :=
          Infer.site calleeFirst calleeLast variant args
        match f, args with
        | .some, [a] =>
          let t ← argument a 0 (hinted 0)
          site true [t]
          return .option t
        | .ok, [a] =>
          let t ← argument a 0 (hinted 0)
          let e ← parameter 1
          site true [t, e]
          return .named "Result" [t, e]
        | .err, [a] =>
          let t ← argument a 1 (hinted 1)
          let v ← parameter 0
          site true [v, t]
          return .named "Result" [v, t]
        | .drop, [a] =>
          let t ← argument a 0 .none
          site false [t]
          return .unit
        | .boxNew, [a] =>
          let t ← argument a 0 (hinted 0)
          site false [t]
          return .named "Box" [t]
        | .stringFrom, [a] =>
          let t ← Infer.zonk (← recur a .none)
          match t with
          | .ref .str | .named "String" [] | .char | .ref (.named "String" []) | .error =>
            return .string
          | other =>
            Infer.emit ("the trait bound \x60String: From<" ++ other.shown ++
              ">\x60 is not satisfied") ownerFirst ownerFirst
            return .string
        | .stringNew, [] => return .string
        | .vecNew, [] =>
          let v ← parameter 0
          site false [v]
          return .named "Vec" [v]
        | .convert target, [a] =>
          let t ← Infer.zonk (← recur a .none)
          -- a literal whose type is still open takes the one type of its kind the target
          -- converts from; with none the bound fails now, with several it waits for the default
          let kinds : Option (List ValueType) := match t with
            | .intVar _ => some ((IntType.all.map ValueType.int).filter (converts · target))
            | .floatVar _ => some ([ValueType.float true, .float false].filter (converts · target))
            | _ => none
          match kinds with
          | some [] =>
            Infer.emit ("the trait bound \x60" ++ target.shown ++ ": From<" ++ t.shown ++
              ">\x60 is not satisfied") ownerFirst ownerFirst
          | some [only] => discard <| Infer.unify t only
          | _ =>
            modify fun s => { s with casts := s.casts.push (t, .named "from" [target], ownerFirst,
              ownerFirst, false) }
          return target
        | .limit it _, [] => return .int it
        | .library lf, _ =>
          match lf, args with
          | .fromBytes t _, [a] =>
            discard <| coerce a (.array (.int .u8) (t.bits / 8))
            return .int t
          | .parseRadix t, [a, b] =>
            discard <| coerce a .strRef
            discard <| coerce b (.int .u32)
            return .named "Result" [.int t, parseIntError]
          | .charFromU32, [a] =>
            discard <| coerce a (.int .u32)
            return .option .char
          | .charFromDigit, [a, b] =>
            discard <| coerce a (.int .u32)
            discard <| coerce b (.int .u32)
            return .option .char
          | .defaultOf t, [] => return t
          | .floatFromBits single, [a] =>
            discard <| coerce a (.int (if single then .u32 else .u64))
            return .float single
          | .tryConvert t, [a] =>
            let source ← Infer.zonk (← recur a .none)
            let error : Option ValueType := match source with
              | .int s => some (if converts (.int s) (.int t) then .named "Infallible" []
                else tryFromIntError)
              | .intVar _ => some (if converts (.int .i32) (.int t) then .named "Infallible" []
                else tryFromIntError)
              | .char =>
                if converts .char (.int t) then some (.named "Infallible" [])
                else if t == .u8 || t == .u16 then some (.named "TryFromCharError" [])
                else none
              | .bool => some (.named "Infallible" [])
              | .error => some .error
              | _ => none
            match error with
            | some e => return .named "Result" [.int t, e]
            | none =>
              Infer.emit ("the trait bound \x60" ++ t.name ++ ": From<" ++ source.shown ++
                ">\x60 is not satisfied") ownerFirst ownerFirst
              return .error
          | .vecWithCapacity, [a] =>
            discard <| coerce a (.int .usize)
            let v ← parameter 0
            site false [v]
            return .named "Vec" [v]
          | .stringWithCapacity, [a] =>
            discard <| coerce a (.int .usize)
            return .string
          | .vecFrom, [a] =>
            let source ← Infer.zonk (← recur a .none)
            match source with
            | .array x _ | .ref (.array x _) | .ref (.slice x) => return .named "Vec" [x]
            | .ref .str | .named "String" [] => return .named "Vec" [.int .u8]
            | .error => return .error
            | other =>
              let v ← parameter 0
              Infer.emit ("the trait bound \x60Vec<" ++ (← Infer.zonk v).shown ++ ">: From<" ++
                other.shown ++ ">\x60 is not satisfied") ownerFirst ownerFirst
              return .error
          | _, _ => argsUnchecked
        | _, _ => argsUnchecked
      | .missingItem message a b =>
        Infer.emit message a b
        argsUnchecked
      | .binding name =>
        match env.lookup name with
        | some (.named "closure" (r :: ps)) =>
          if ps.length == args.length then
            for (a, p) in args.zip ps do
              discard <| coerce a p
            return r
          argsUnchecked
        | _ => argsUnchecked
      | _ => argsUnchecked
    | .call callee args _ =>
      let ct ← recur callee .none
      match ← Infer.follow ct with
      | .named "closure" (r :: ps) =>
        if ps.length == args.length then
          for (a, p) in args.zip ps do
            discard <| coerce a p
          return r
        for a in args do
          discard <| recur a .none
        return .error
      | _ =>
        for a in args do
          discard <| recur a .none
        return .error
    | .method recv name args ts =>
      let t ← recur recv .none
      let top ← Infer.follow t
      let nameSpan := match ts.drop recv.tokens.length with
        | _ :: .ident _ sp :: _ => sp
        | _ => first
      let argTypes ← args.mapM fun a => recur a .none
      let ambiguous (kind : String) : Infer ValueType := do
        Infer.emit ("can't call method \x60" ++ name ++ "\x60 on ambiguous numeric type \x60\x7b" ++
          kind ++ "\x7d\x60") nameSpan nameSpan
        return .error
      -- a method a scalar type lacks, unless a trait of the prelude gives it
      let missing (typeName : String) : Infer ValueType := do
        unless preludeTraitMethods.contains name do
          Infer.emit (noMethodMessage name typeName) nameSpan nameSpan
        return .error
      -- a method of a scalar type: its arguments agree with the types it takes
      let scalar (m : Option ScalarMethod) : Infer ValueType := do
        match m with
        | some m =>
          for (x, a, want) in args.zip (argTypes.zip m.args) do
            unless want.isError do
              unless ← Infer.unify a want do mismatch x
          return m.result
        | none => return .error
      -- a literal whose type is still open has only the methods of the prelude's traits: any
      -- other is looked for among the methods of every numeric type, which is ambiguous
      match top with
      | .error => return .error
      | .intVar _ =>
        if name == "to_string" then return .string
        else if ["clone", "to_owned", "min", "max", "clamp"].contains name then return t
        else if name == "into" then Infer.fresh (.general)
        else if preludeTraitMethods.contains name then return .error
        else ambiguous "integer"
      | .floatVar _ =>
        if name == "to_string" then return .string
        else if ["clone", "to_owned"].contains name then return t
        else if name == "into" then Infer.fresh (.general)
        else if preludeTraitMethods.contains name then return .error
        else ambiguous "float"
      | _ =>
        match name, argTypes with
        | "to_string", [] => return .string
        | "to_owned", [] =>
          match top with
          | .ref .str => return .string
          | .ref u => return u
          | _ => return t
        | "clone", [] => return t
        | "into", [] =>
          let target ← Infer.fresh (.general)
          modify fun s =>
            { s with casts := s.casts.push (t, .named "into" [target], first, last, false) }
          return target
        | "len", [] => return .int .usize
        | "is_empty", [] => return .bool
        | _, _ =>
          let generics ← (methodGenerics (ts.drop (recv.tokens.length + 1))).mapM (writtenType 16)
          if let some r ← iteratorMethodType top name argTypes generics expect.known nameSpan then return r
          match top with
          | .int it =>
            let takes (slots : List IntegerSlot) : Infer Unit :=
              for (x, a, slot) in args.zip (argTypes.zip slots) do
                unless ← Infer.unify a (slot.type it) do mismatch x
            if ["min", "max", "clamp"].contains name then
              takes (args.map fun _ => .same)
              return t
            match integerMethod? name with
            | some m =>
              if m.only.all (· == it.signed) then
                takes m.args
                return m.result.type it
              else if it.signed && ["div_ceil", "next_multiple_of",
                  "checked_next_multiple_of"].contains name then
                -- the signed forms exist, but only behind a feature gate
                Infer.emit "use of unstable library feature \x60int_roundings\x60" nameSpan nameSpan
                takes m.args
                return m.result.type it
              else
                Infer.emit (noMethodMessage name it.name) nameSpan nameSpan
                return .error
            | none =>
              match byteMethod? name with
              | some m => if it == .u8 then scalar (some m) else missing it.name
              | none => missing it.name
          | .named "Option" [u] => scalar ((optionMethods u).find? (·.name == name))
          | .named "Result" [u, err] => scalar ((resultMethods u err).find? (·.name == name))
          | .char =>
            match charMethod? name with
            | some m => scalar (some m)
            | none => missing "char"
          | .float single =>
            match floatMethod? single name with
            | some m => scalar (some m)
            | none => missing (if single then "f32" else "f64")
          | .ref .str | .str | .named "String" [] | .ref (.named "String" []) =>
            scalar (strMethod? name)
          | _ => return .error
    | .index base index _ =>
      let bt ← recur base .none
      discard <| coerce index (.int .usize)
      let top ← Infer.follow bt
      let inner ← match top with
        | .ref u => Infer.follow u
        | u => pure u
      return (elementType? inner).getD .error
    | .field base name ts =>
      let bt ← Infer.zonk (← recur base .none)
      -- a field is looked up through references; a failed lookup names the type as written
      let inner := match bt with
        | .ref u => u
        | u => u
      let nameSpan := (ts.getLast?.map TokenTree.span).getD .callSite
      match inner, name.toNat? with
      | .tuple items, some i =>
        if i < items.length && toString i == name then return items.getD i .error
        Infer.emit ("no field \x60" ++ name ++ "\x60 on type \x60" ++ bt.shown ++ "\x60") nameSpan
          nameSpan
        return .error
      | _, _ =>
        if bt.isError || bt matches .var _ then return .error
        if bt.isScalar then
          Infer.emit ("\x60" ++ bt.shown ++ "\x60 is a primitive type and therefore doesn\x27t have fields")
            nameSpan nameSpan
        else
          Infer.emit ("no field \x60" ++ name ++ "\x60 on type \x60" ++ bt.shown ++ "\x60") nameSpan
            nameSpan
        return .error
    | .block stmts tail _ =>
      -- the constants and functions of a block are seen in all of it
      let items ← stmts.filterMapM fun (st : Stmt) =>
        match st with
        | .constItem name ty _ _ => do return some (name, ← annotatedType ty)
        | .fnItem name params result _ _ => do
          let ps ← params.mapM fun (_, t) => match t with
            | some t => annotatedType t
            | none => pure .error
          let r ← match result with
            | some t => annotatedType t
            | none => pure .unit
          return some (name, callableType r ps)
        | _ => return none
      let scope := items ++ env
      for st in stmts do
        match st with
        | .constItem _ ty value _ =>
          let want ← annotatedType ty
          let t ← check fuel scope value (.has want)
          unless ← Infer.unify t want do mismatch value
        | .fnItem name params _ body ts =>
          match scope.lookup name with
          | some (.named "closure" (r :: ps)) =>
            let bound ← (params.zip ps).mapM fun ((pat, _), t) => checkPattern t pat
            Infer.bindLocal (firstSpan ts) (callableType r ps) bound.flatten
            -- a function sees the items around it but no local bindings
            let outer := scope.filter fun (n, _) => items.any (·.1 == n)
            let saved := (← get).loops
            modify fun s => { s with loops := [] }
            let t ← check fuel (bound.flatten ++ outer) body (.has r)
            modify fun s => { s with loops := saved }
            unless ← Infer.unify t r do mismatch body
          | _ => pure ()
        | _ => pure ()
      let env' ← stmts.foldlM (fun acc (st : Stmt) =>
          match st with
          | .binding pat ty init ts => do
            let declared ← ty.mapM annotatedType
            let t ← match init, declared with
              | some x, some d =>
                let u ← check fuel acc x (.has d)
                unless ← Infer.unify u d do mismatch x
                pure d
              | some x, none => check fuel acc x .none
              | none, some d => pure d
              | none, none => Infer.fresh .general
            let bound ← checkPattern t pat
            Infer.bindLocal (firstSpan ts) t bound
            return bound ++ acc
          | .expr x _ _ => do
            discard <| check fuel acc x .none
            return acc
          | _ => return acc)
        scope
      match tail with
      | some x =>
        match expect with
        | .has target =>
          let t ← check fuel env' x (.has target)
          unless ← Infer.unify t target do mismatch x
          return target
        | _ => check fuel env' x expect
      | none => return .unit
    | .ifElse cond thenBranch elseBranch _ =>
      -- the names `if let` binds are seen in its first branch
      let bound ← match cond with
        | .letCond pat scrutinee ts =>
          let st ← recur scrutinee .none
          let bound ← checkPattern st pat
          Infer.bindLocal (firstSpan ts) st bound
          pure bound
        | _ =>
          discard <| coerce cond .bool
          pure []
      let t ← check fuel (bound ++ env) thenBranch expect
      match elseBranch with
      | some other =>
        let u ← recur other expect
        unless ← Infer.unify t u do
          let tailOf : Expr → Expr := fun x => match x with
            | .block _ (some y) _ => y
            | y => y
          let (a, b) := (tailOf other).extent
          Infer.emit "\x60if\x60 and \x60else\x60 have incompatible types" a b
        return t
      | none =>
        unless ← Infer.unify t .unit do
          Infer.emit "\x60if\x60 may be missing an \x60else\x60 clause" first last
        return .unit
    | .matchOn scrutinee arms _ =>
      let st ← recur scrutinee .none
      let result ← arms.foldlM (fun (acc : Option ValueType) arm =>
          match arm with
          | .arm pat guard body _ => do
            let bound ← checkPattern st pat
            let armEnv := bound ++ env
            if let some g := guard then
              let gt ← check fuel armEnv g (.has .bool)
              unless ← Infer.unify gt .bool do mismatch g
            let t ← check fuel armEnv body expect
            match acc with
            | none => return some t
            | some prev =>
              unless ← Infer.unify prev t do
                let (a, b) := body.extent
                Infer.emit "\x60match\x60 arms have incompatible types" a b
              return some prev)
        none
      return result.getD .never
    | .range lower upper closed _ =>
      let t ← match lower with
        | some lo => recur lo .none
        | none => Infer.fresh (.general)
      if let some hi := upper then
        if lower.isSome then discard <| coerce hi t
        else
          let u ← recur hi .none
          discard <| Infer.unify t u
      let name := rangeTypeName lower.isSome upper.isSome closed
      return if lower.isNone && upper.isNone then .named name [] else .named name [t]
    | .mac ts =>
      match macroParts ts with
      | some ("vec", inner) =>
        let element ← match expect.known with
          | some t =>
            match ← Infer.follow t with
            | .named "Vec" [x] => pure x
            | _ => Infer.fresh (.general)
          | none => Infer.fresh (.general)
        match vecItems inner with
        | some (.list items) =>
          for x in items do
            discard <| coerce x element
        | some (.repeat item count) =>
          discard <| coerce item element
          discard <| coerce count (.int .usize)
        | none => pure ()
        return .named "Vec" [element]
      | some (name, inner) =>
        if stringMacros.contains name then return .strRef
        else if name == "format" then
          for (_, x) in ((formatArgs inner).map (·.args)).getD [] do
            discard <| recur x .none
          return .string
        else if name == "line" || name == "column" then return .int .u32
        else if ["panic", "todo", "unimplemented", "unreachable"].contains name then
          return .never
        else if name == "matches" then
          if let some (scrutinee, pat, guard) := matchesArgs inner then
            let st ← recur scrutinee .none
            let bound ← checkPattern st pat
            Infer.bindLocal (firstSpan inner) st bound
            if let some g := guard then
              discard <| check fuel (bound ++ env) g (.has .bool)
          return .bool
        else return .error
      | none => return .error
    | .letCond pat scrutinee ts =>
      let st ← recur scrutinee .none
      let bound ← checkPattern st pat
      Infer.bindLocal (firstSpan ts) st bound
      return .bool
    | .loop label body _ =>
      let result ← match expect with
        | .has t => pure t
        | _ => Infer.fresh .general
      let frame ← inLoop { label, result, valued := true } (check fuel env body (.has .unit))
      return if frame.broken then result else .never
    | .whileLoop label cond body _ =>
      let bound ← match cond with
        | .letCond pat scrutinee ts =>
          let st ← recur scrutinee .none
          let bound ← checkPattern st pat
          Infer.bindLocal (firstSpan ts) st bound
          pure bound
        | _ =>
          discard <| coerce cond .bool
          pure []
      discard <| inLoop { label, result := .unit, valued := false }
        (check fuel (bound ++ env) body (.has .unit))
      return .unit
    | .forLoop label pat iterated body ts =>
      let it ← recur iterated .none
      let item ← iteratedItem it
      let bound ← checkPattern item pat
      Infer.bindLocal (firstSpan ts) item bound
      discard <| inLoop { label, result := .unit, valued := false }
        (check fuel (bound ++ env) body (.has .unit))
      return .unit
    | .breakOut label value _ =>
      let frames : List LoopFrame := (← get).loops
      let target := match label with
        | some l => frames.findIdx? fun (f : LoopFrame) => f.label == some l
        | none => if frames.isEmpty then none else some 0
      match target with
      | some i =>
        let frame : LoopFrame := frames.getD i default
        match value with
        | some v =>
          let t ← check fuel env v (.has frame.result)
          unless ← Infer.unify t frame.result do mismatch v
        | none => discard <| Infer.unify frame.result .unit
        modify fun s => { s with loops := s.loops.set i { frame with broken := true } }
      | none =>
        if let some v := value then discard <| recur v .none
      return .never
    | .continueLoop _ _ => return .never
    | .closure params result body ts =>
      let ps ← params.mapM fun (_, t) => match t with
        | some t => annotatedType t
        | none => Infer.fresh .general
      let r ← match result with
        | some t => annotatedType t
        | none => Infer.fresh .general
      let bound ← (params.zip ps).mapM fun ((pat, _), t) => checkPattern t pat
      Infer.bindLocal (firstSpan ts) (callableType r ps) bound.flatten
      let saved := (← get).loops
      modify fun s => { s with loops := [] }
      let t ← check fuel (bound.flatten ++ env) body (.has r)
      modify fun s => { s with loops := saved }
      unless ← Infer.unify t r do mismatch body
      return callableType r ps
    | .other _ => return .error

/-- The message for a cast that types do not allow, if it is not allowed. -/
def castProblem (source target : ValueType) (literal : Bool) : Option String :=
  let s := "\x60" ++ (match source, literal with
    | .ref u, true => "&\x27static " ++ u.shown
    | _, _ => source.shown) ++ "\x60"
  let t := "\x60" ++ target.shown ++ "\x60"
  let numeric (x : ValueType) : Bool := x.isIntegral || x.isFloating
  match source, target with
  | .error, _ | _, .error => none
  | _, .int _ =>
    if numeric source || source matches .bool || source matches .char then none
    else if source matches .ref _ then some ("casting " ++ s ++ " as " ++ t ++ " is invalid")
    else some ("non-primitive cast: " ++ s ++ " as " ++ t)
  | _, .float _ =>
    if numeric source then none
    else if source matches .named _ _ || source matches .tuple _ || source matches .array _ _ then
      some ("non-primitive cast: " ++ s ++ " as " ++ t)
    else some ("casting " ++ s ++ " as " ++ t ++ " is invalid")
  | .int it, .char => if it == .u8 then none
    else some ("only \x60u8\x60 can be cast as \x60char\x60, not " ++ s)
  | .char, .char => none
  | _, .char =>
    if source matches .named _ _ || source matches .tuple _ then
      some ("non-primitive cast: " ++ s ++ " as " ++ t)
    else some ("only \x60u8\x60 can be cast as \x60char\x60, not " ++ s)
  | .bool, .bool => none
  | _, .bool =>
    if numeric source || source matches .char then
      some ("cannot cast " ++ s ++ " as " ++ t)
    else some ("non-primitive cast: " ++ s ++ " as " ++ t)
  | _, _ => some ("non-primitive cast: " ++ s ++ " as " ++ t)

/-- Check what waits for the variables to be settled: negated integer variables, casts and
conversions, in the order they were met. -/
def checkDeferred : Infer Unit := do
  let s ← get
  for (t, first, last) in s.negations do
    match ← Infer.zonk t with
    | .int it =>
      unless it.signed do
        Infer.emit ("the trait bound \x60" ++ it.name ++ ": Neg\x60 is not satisfied") first last
    | _ => pure ()
  for (source, target, first, last, fromLiteral) in s.casts do
    let src ← Infer.zonk source
    match ← Infer.zonk target with
    | .named "from" [t] =>
      unless converts src t || src.isError do
        Infer.emit ("the trait bound \x60" ++ t.shown ++ ": From<" ++ src.shown ++
          ">\x60 is not satisfied") first last
    | .named "into" [t] =>
      let ok := match src, t with
        | .ref .str, .named "String" [] => true
        | _, .var _ => true
        | a, b => converts a b
      unless ok || src.isError do
        Infer.emit ("the trait bound \x60" ++ t.shown ++ ": From<" ++ src.shown ++
          ">\x60 is not satisfied") first last
    | tgt =>
      match castProblem src tgt fromLiteral with
      | some message => Infer.emit message first last
      | none => pure ()

end GatherMap.Inline
