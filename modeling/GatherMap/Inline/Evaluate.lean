import GatherMap.Inline.Typing
import GatherMap.Inline.Format

/-!
# Evaluating values

`eval` computes the value of an expression whose type is settled, the way the compiler folds
constants. Integer arithmetic is checked: a result outside the type, a shift by at least the
width, division by zero and `MIN / -1` are *faults*. A fault is what the analysis of a function
body reports ("this arithmetic operation will overflow", "this operation will panic at
runtime") and what evaluating a constant reports, with the operands written as the compiler
writes them ("attempt to compute `i32::MAX + 1_i32`, which would overflow"). An operation
with a fault, and everything built from it, has no value; the other operands are still
evaluated, so each fault is found.

Literals are taken in their type as the compiled program holds them, cut to the type's width;
an integer literal outside its type, or a floating-point literal too large for its format, is a
*literal lint* at the literal (at the negation, for a negated integer literal).

Floating-point arithmetic rounds every result to the format (`Decimal.FloatValue`); casts from
floating point to integers truncate and saturate, and not a number becomes zero.
-/

namespace GatherMap.Inline

open Code Grammar

/-- A fault found while evaluating: the analysis's message, the constant evaluator's message
and where the operation is. -/
structure Fault where
  lint : String
  message : String
  first : Span
  last : Span
  deriving Repr, Inhabited

/-- What evaluation collects besides values: faults and literal lints, in the order found. -/
structure Findings where
  faults : Array Fault := #[]
  lints : Array Diagnostic := #[]
  deriving Inhabited

/-- A computation of evaluation. -/
abbrev Eval := StateM Findings

/-- The text `concat!` makes of literals separated by commas: strings and characters as they
are, integers in decimal, floating-point literals as written without suffix or underscores,
and `true` and `false`; a literal may be negated. None for anything else. -/
def concatText (inner : Tokens) : Option String :=
  let piece (ts : Tokens) : Option String :=
    let (sign, rest) := match ts with
      | .punct '-' _ _ :: more => ("-", more)
      | _ => ("", ts)
    match rest with
    | [.literal text _] =>
      match Literal.classify text with
      | .str v => if sign.isEmpty then some v else none
      | .char c => if sign.isEmpty then some (String.singleton c) else none
      | .int _ v _ => some (sign ++ toString v)
      | .float suffix =>
        let digits := (text.toList.take (text.length - suffix.length)).filter (· != '_')
        some (sign ++ String.ofList digits)
      | _ => none
    | [.ident "true" _] => if sign.isEmpty then some "true" else none
    | [.ident "false" _] => if sign.isEmpty then some "false" else none
    | _ => none
  let parts := splitCommas inner
  (parts.filter (!·.isEmpty)).foldlM (fun acc ts => (acc ++ ·) <$> piece ts) ""

/-- The type of an expression checked on its own, with open variables settled. -/
def settledType (env : List (String × ValueType)) (e : Expr) (expect : Expect) : ValueType :=
  let act : Infer ValueType := do
    let t ← check (fuelFor e.tokens) env e expect
    Infer.fallBack
    Infer.zonk t
  (act.run {}).1

/-- The common type of two operands checked together, with open variables settled. -/
def operandType (env : List (String × ValueType)) (l r : Expr) : ValueType :=
  let act : Infer ValueType := do
    let lt ← check (fuelFor l.tokens) env l .none
    let rt ← check (fuelFor r.tokens) env r .none
    discard <| Infer.unify lt rt
    Infer.fallBack
    Infer.zonk lt
  (act.run {}).1

/-- The analysis's message for an overflowing arithmetic operation. -/
def overflowLint : String := "this arithmetic operation will overflow"

/-- The analysis's message for an operation that always panics. -/
def panicLint : String := "this operation will panic at runtime"

/-- Record a fault over a span. -/
def Eval.fault (lint message : String) (first last : Span) : Eval Unit :=
  modify fun s => { s with faults := s.faults.push ⟨lint, message, first, last⟩ }

/-- Record a literal lint over a span. -/
def Eval.lint (message : String) (first last : Span) : Eval Unit :=
  modify fun s => { s with lints := s.lints.push ⟨message, first, last⟩ }

/-- Bitwise operations on the two's complement bits of a type. -/
def bitwise (t : IntType) (f : Nat → Nat → Nat) (a b : Int) : Int :=
  let m : Int := Int.pow 2 t.bits
  t.wrap (f (a % m).toNat (b % m).toNat : Nat)

/-- The value of an integer operation in type `t`, or the fault it has. -/
def intOp (t : IntType) (op : String) (a b : Int) (first last : Span) : Eval (Option Int) := do
  let shown := "\x60" ++ operandText t a ++ " " ++ op ++ " " ++ operandText t b ++ "\x60"
  let checked (r : Int) : Eval (Option Int) := do
    if t.contains r then return some r
    Eval.fault overflowLint ("attempt to compute " ++ shown ++ ", which would overflow") first last
    return none
  match op with
  | "+" => checked (a + b)
  | "-" => checked (a - b)
  | "*" => checked (a * b)
  | "/" | "%" =>
    if b == 0 then
      let message := if op == "/" then "attempt to divide \x60" ++ operandText t a ++ "\x60 by zero"
        else "attempt to calculate the remainder of \x60" ++ operandText t a ++
          "\x60 with a divisor of zero"
      Eval.fault panicLint message first last
      return none
    else if t.signed && a == t.min && b == -1 then
      let message := if op == "/" then "attempt to compute " ++ shown ++ ", which would overflow"
        else "attempt to compute the remainder of " ++ shown ++ ", which would overflow"
      Eval.fault panicLint message first last
      return none
    else return some (if op == "/" then a.tdiv b else a.tmod b)
  | "&" => return some (bitwise t (· &&& ·) a b)
  | "|" => return some (bitwise t (· ||| ·) a b)
  | "^" => return some (bitwise t (· ^^^ ·) a b)
  | _ => return none

/-- The value of a shift of `a` in type `t` by `amount` of type `at`, or its fault. -/
def shiftOp (t : IntType) (left : Bool) (a : Int) (amountType : IntType) (amount : Int)
    (first last : Span) : Eval (Option Int) := do
  if amount < 0 || amount ≥ t.bits then
    Eval.fault overflowLint ("attempt to shift " ++ (if left then "left" else "right") ++
      " by \x60" ++ operandText amountType amount ++ "\x60, which would overflow") first last
    return none
  let k := amount.toNat
  if left then return some (t.wrap (a * Int.pow 2 k))
  else return some (a / Int.pow 2 k)

/-- The value of a floating-point operation. -/
def floatOp (single : Bool) (op : String) (a b : Decimal.FloatValue) :
    Option Decimal.FloatValue :=
  let f := floatFormat single
  match op with
  | "+" => some (a.add f b)
  | "-" => some (a.sub f b)
  | "*" => some (a.mul f b)
  | "/" => some (a.div f b)
  | "%" => some (a.rem f b)
  | _ => none

/-- How two values compare, when the program can compare them. -/
def compareConstants : Constant → Constant → Option Ordering
  | .int _ a, .int _ b => some (compare a b)
  | .float _ a, .float _ b => a.compare? b
  | .bool a, .bool b => some (compare a.toNat b.toNat)
  | .char a, .char b => some (compare a.toNat b.toNat)
  | .str a, .str b => some (compare a b)
  | _, _ => none

/-- The result of a comparison operator on how its operands compare. -/
def comparisonHolds (op : String) : Option Ordering → Bool
  | none => op == "!="
  | some o =>
    match op with
    | "==" => o == .eq
    | "!=" => o != .eq
    | "<" => o == .lt
    | ">" => o == .gt
    | "<=" => o != .gt
    | ">=" => o != .lt
    | _ => false

/-- A value converted to a scalar type, as a cast or a lossless conversion does. -/
def convertScalar (v : Constant) (target : ValueType) : Option Constant :=
  match v, target with
  | .int _ i, .int t => some (.int t (t.wrap i))
  | .int _ i, .float s => some (.float s (Decimal.FloatValue.ofInt (floatFormat s) i))
  | .float _ x, .int t => some (.int t (x.toIntWithin t.min t.max))
  | .float _ x, .float s => some (.float s (x.convert (floatFormat s)))
  | .bool b, .int t => some (.int t (if b then 1 else 0))
  | .bool b, .float s => some (.float s (Decimal.FloatValue.ofInt (floatFormat s) (if b then 1 else 0)))
  | .char c, .int t => some (.int t (t.wrap c.toNat))
  | .int _ i, .char => some (.char (Char.ofNat i.toNat))
  | .char c, .char => some (.char c)
  | .bool b, .bool => some (.bool b)
  | .str s, .named "String" [] => some (.str s)
  | .str s, .ref .str => some (.str s)
  | _, _ => none

/-- The value of a floating-point literal's text in a format. -/
def floatLiteral (single : Bool) (text : String) : Option Decimal.FloatValue :=
  let digits := String.ofList (text.toList.filter (· != '_'))
  let body := String.ofList ((digits.toList.takeWhile fun c => c.isDigit || c == '.' ||
    c == 'e' || c == 'E' || c == '+' || c == '-'))
  (Decimal.textParts body).map (Decimal.FloatValue.ofDec (floatFormat single) false)

/-- The literal under parentheses, if the expression is one. -/
def bareLiteral : Expr → Option (Literal × Tokens)
  | .lit l ts => some (l, ts)
  | .paren inner _ =>
    match inner with
    | .lit l ts => some (l, ts)
    | _ => none
  | _ => none

/-- The number a literal bound of a range pattern stands for: an integer, a byte or the code
point of a character. -/
def literalKey? : Literal → Option Int
  | .int neg v _ => some (if neg then -(v : Int) else v)
  | .byte b => some b
  | .char c => some c.toNat
  | _ => none

/-- The number a constant is compared by in a range pattern. -/
def boundKey? : Constant → Option Int
  | .int _ i => some i
  | .char c => some c.toNat
  | _ => none

/-- The number a bound of a range pattern stands for: that of its literal, or of the constant
its path names. -/
def rangeBoundKey? : RangeBound → Option Int
  | .lit v => literalKey? v
  | .path p => (patternConstant? p).bind fun (_, c) => boundKey? c

/-- Whether a constant matches a pattern. -/
def patternMatches : Pattern → Constant → Bool
  | .wild, _ | .bind _, _ => true
  | .lit (.int neg v _), .int _ i => (if neg then -(v : Int) else v) == i
  | .lit (.char c), .char d => c == d
  | .lit (.str s), .str t => s == t
  | .lit (.byte b), .int _ i => (b : Int) == i
  | .boolLit b, .bool c => b == c
  | .range lower upper closed, v =>
    match boundKey? v with
    | some x =>
      let above := match lower.bind rangeBoundKey? with
        | some lo => lo ≤ x
        | none => lower.isNone
      let below := match upper.bind rangeBoundKey? with
        | some hi => if closed then x ≤ hi else x < hi
        | none => upper.isNone
      above && below
    | none => false
  | .alt options, v => options.attach.any fun ⟨p, _⟩ => patternMatches p v
  | .ctor names none, v =>
    match patternConstant? (namesPath names), v with
    | some (_, .bool b), .bool c => b == c
    | some (_, c), _ =>
      match boundKey? c, boundKey? v with
      | some a, some b => a == b
      | _, _ => false
    | none, _ => false
  | _, _ => false

mutual

/-- The names a pattern binds, with their types and values, when it matches a value of type
`t`; `none` when it does not match. A reference is its referent's value here, so `&p` matches
what `p` does. -/
def patternBindings : Pattern → ValueType → Constant →
    Option (List (String × ValueType × Constant))
  | .bind name, t, v => some [(name, t, v)]
  | .bindAt name inner, t, v => (patternBindings inner t v).map ((name, t, v) :: ·)
  | .tuple items, .tuple types, .tuple values => fieldBindings items types values
  | .slice items, t, .array values =>
    let element := match t with
      | .array u _ | .slice u => u
      | .ref (.array u _) | .ref (.slice u) => .ref u
      | _ => .error
    fieldBindings items (values.map fun _ => element) values
  | .deref inner, .ref t, v => patternBindings inner t v
  | .ctor path fields, t, v =>
    match patternVariant? path, fields, t, v with
    | some "None", none, _, .none => some []
    | some "Some", some [p], .named "Option" [u], .some x => patternBindings p u x
    | some "Ok", some [p], .named "Result" [u, _], .ok x => patternBindings p u x
    | some "Err", some [p], .named "Result" [_, u], .err x => patternBindings p u x
    | none, none, _, _ => if patternMatches (.ctor path none) v then some [] else none
    | _, _, _, _ => none
  | .alt options, t, v => firstBindings options t v
  | p, _, v => if patternMatches p v then some [] else none

/-- The names the patterns of a tuple's or an array's fields bind, when each matches its
field. A `..` among the patterns stands for the fields left over by the patterns after it. -/
def fieldBindings : List Pattern → List ValueType → List Constant →
    Option (List (String × ValueType × Constant))
  | [], [], [] => some []
  | .rest :: ps, ts, vs =>
    let skip := vs.length - ps.length
    if vs.length < ps.length then none else fieldBindings ps (ts.drop skip) (vs.drop skip)
  | p :: ps, t :: ts, v :: vs =>
    match patternBindings p t v, fieldBindings ps ts vs with
    | some here, some rest => some (here ++ rest)
    | _, _ => none
  | _, _, _ => none

/-- The names the first of some alternatives that matches binds. -/
def firstBindings : List Pattern → ValueType → Constant →
    Option (List (String × ValueType × Constant))
  | [], _, _ => none
  | p :: ps, t, v =>
    match patternBindings p t v with
    | some bound => some bound
    | none => firstBindings ps t v

end

/-- The value of an arithmetic, bitwise or string operator on two values of type `t`, or none
when it has a fault, which is recorded. -/
def combine (t : ValueType) (op : String) (a b : Constant) (first last : Span) :
    Eval (Option Constant) := do
  match a, b, t with
  | .str x, .str y, .named "String" [] => return if op == "+" then some (.str (x ++ y)) else none
  | .int _ x, .int _ y, .int it => return (← intOp it op x y first last).map (.int it)
  | .float _ x, .float _ y, .float s => return (floatOp s op x y).map (.float s)
  | .bool x, .bool y, .bool =>
    match op with
    | "&" => return some (.bool (x && y))
    | "|" => return some (.bool (x || y))
    | "^" => return some (.bool (x != y))
    | _ => return none
  | _, _, _ => return none

/-- The most times evaluation runs a loop's body before it gives up on knowing the loop's
value. -/
def loopLimit : Nat := 100000

/-- The values a loop over a value takes in turn: the elements of an array, or the integers or
characters of a bounded range. None when there are more than `loopLimit`. -/
def iterationValues : Constant → Option (List Constant)
  | .array xs => some xs
  | .range (some (.int it lo)) (some (.int _ hi)) closed =>
    let top := if closed then hi + 1 else hi
    if top - lo > loopLimit then none
    else some ((List.range (top - lo).toNat).map fun (k : Nat) => Constant.int it (lo + k))
  | .range (some (.char a)) (some (.char b)) closed =>
    let top := if closed then b.toNat + 1 else b.toNat
    if top > a.toNat + loopLimit then none
    else some (((List.range (top - a.toNat)).map fun k => a.toNat + k).filterMap fun n =>
      if n.isValidChar then some (.char (Char.ofNat n)) else none)
  | _ => none

/-- The sum or product of numbers of type `t`; none when it leaves an integer type. A sum of
floats starts from negative zero, the neutral element of addition, so an empty one is `-0.0`. -/
def foldNumbers (t : ValueType) (product : Bool) (xs : List Constant) : Option Constant :=
  match t with
  | .int it =>
    let step (acc : Option Int) (x : Constant) : Option Int :=
      match acc, x with
      | some a, .int _ y =>
        let r := if product then a * y else a + y
        if it.contains r then some r else none
      | _, _ => none
    (xs.foldl step (some (if product then 1 else 0))).map (.int it)
  | .float single =>
    let f := floatFormat single
    let start := if product then Decimal.FloatValue.ofInt f 1
      else (Decimal.FloatValue.ofInt f 0).neg
    let step (acc : Option Decimal.FloatValue) (x : Constant) : Option Decimal.FloatValue :=
      match acc, x with
      | some a, .float _ y => some (if product then a.mul f y else a.add f y)
      | _, _ => none
    (xs.foldl step (some start)).map (.float single)
  | _ => none

/-- The greatest (or, when `least`, the smallest) of some values: of equal ones, the last is
the greatest and the first the smallest. None when two of them do not compare. -/
def extremeOf (least : Bool) : List Constant → Option Constant
  | [] => some .none
  | x :: xs =>
    let step (acc : Option Constant) (y : Constant) : Option Constant :=
      acc.bind fun a =>
        (compareConstants a y).map fun o =>
          if least then (if o == .gt then y else a) else (if o == .gt then a else y)
    (xs.foldl step (some x)).map .some

/-- The pieces of a string split at every place a pattern (a character or a string) matches;
none for an empty pattern string. -/
def splitPieces (s : String) (pattern : Constant) : Option (List Constant) :=
  match pattern with
  | .char c => some ((splitOn s.toList [c]).map fun p => .str (String.ofList p))
  | .str p =>
    if p.isEmpty then none else some ((splitOn s.toList p.toList).map fun q => .str (String.ofList q))
  | _ => none

/-- The words of a string: its longest runs of characters that are not white space. -/
def wordsOf (s : String) : List String :=
  let step (c : Char) (acc : List (List Char)) : List (List Char) :=
    if Text.isWhiteSpace c then (if acc.head? == some [] then acc else [] :: acc)
    else match acc with
      | w :: ws => (c :: w) :: ws
      | [] => [[c]]
  ((s.toList.foldr step [[]]).filter (!·.isEmpty)).map String.ofList

/-- The lines of a string: the pieces between line feeds, without a carriage return before
one, and without an empty last piece. -/
def linesOf (s : String) : List Constant :=
  let pieces := splitOn s.toList ['\n']
  let pieces := if pieces.getLast? == some [] then pieces.dropLast else pieces
  pieces.map fun p => .str (String.ofList (if p.getLast? == some '\r' then p.dropLast else p))

/-- The value of a method that makes an iterator of a string or consumes or changes an
iterator, given the value the receiver iterates over and the arguments; an iterator is the
array of the values it gives, and `t` is the type of the call. None when the method is not one
of these or its value is not known. -/
def iteratorMethodValue (t : ValueType) (name : String) (x : Constant) (args : List Constant) :
    Option Constant :=
  match name, x, args with
  | "chars", .str s, [] => some (.array (s.toList.map .char))
  | "bytes", .str s, [] => some (.array (s.toUTF8.toList.map fun b => .int .u8 b.toNat))
  | "split_whitespace", .str s, [] =>
    some (.array ((wordsOf s).map .str))
  | "lines", .str s, [] => some (.array (linesOf s))
  | "split", .str s, [p] => (splitPieces s p).map .array
  | "take", .range (some (.int it lo)) none _, [.int _ n] =>
    if n > loopLimit then none
    else some (.array ((List.range n.toNat).map fun (k : Nat) => Constant.int it (lo + k)))
  | _, _, _ =>
    (iterationValues x).bind fun xs =>
      match name, args with
      | "sum", [] => foldNumbers t false xs
      | "product", [] => foldNumbers t true xs
      | "count", [] => some (.int .usize xs.length)
      | "max", [] => extremeOf false xs
      | "min", [] => extremeOf true xs
      | "next", [] => some (match xs.head? with | some y => .some y | none => .none)
      | "last", [] => some (match xs.getLast? with | some y => .some y | none => .none)
      | "nth", [.int _ n] => some (match xs[n.toNat]? with | some y => .some y | none => .none)
      | "rev", [] => some (.array xs.reverse)
      | "skip", [.int _ n] => some (.array (xs.drop n.toNat))
      | "take", [.int _ n] => some (.array (xs.take n.toNat))
      | "step_by", [.int _ n] =>
        if n == 0 then none
        else some (.array ((List.range xs.length).filterMap fun k =>
          if k % n.toNat == 0 then xs[k]? else none))
      | "collect", [] =>
        match t with
        | .named "String" [] =>
          some (.str (String.join (xs.filterMap fun y => match y with
            | .char c => some (String.singleton c)
            | .str p => some p
            | _ => none)))
        | _ => some (.array xs)
      | _, _ => none

/-- A step from a value to one of its parts: a field of a tuple, or the element of an array at
an index the expression gives. -/
inductive Step where
  | field (i : Nat)
  | index (e : Expr)

/-- The binding an assignment changes, and the steps from its value to the part it changes. -/
def placeOf : Expr → Option (String × List Step)
  | .path false [s] _ => if s.argsEmpty then some (s.name, []) else none
  | .paren inner _ => placeOf inner
  | .unary '*' inner _ => placeOf inner
  | .field base name _ =>
    match name.toNat?, placeOf base with
    | some i, some (n, steps) => some (n, steps ++ [.field i])
    | _, _ => none
  | .index base i _ => (placeOf base).map fun (n, steps) => (n, steps ++ [.index i])
  | _ => none

/-- A value with the part at some positions replaced. -/
def replaceAt : Constant → List Nat → Constant → Option Constant
  | _, [], new => some new
  | .tuple items, i :: rest, new =>
    match items[i]? with
    | some x => (replaceAt x rest new).map fun y => .tuple (items.set i y)
    | none => none
  | .array items, i :: rest, new =>
    match items[i]? with
    | some x => (replaceAt x rest new).map fun y => .array (items.set i y)
    | none => none
  | _, _, _ => none

/-- Where evaluation leaves the order of a program: a `break` out of a loop with its label and
value, a `continue`, or a point past which nothing can be known, such as a loop that runs
too long. -/
inductive Exit where
  | breakOut (label : Option String) (value : Option Constant)
  | continueLoop (label : Option String)
  | stuck
  deriving Inhabited

/-- A function a block defines, or a closure a binding holds: the patterns of its parameters,
its type and its body. A closure sees the bindings around it; a function sees only items. -/
structure Callable where
  params : List Pattern
  type : ValueType
  body : Expr
  closure : Bool
  deriving Inhabited

/-- The names evaluation has bound: local bindings, newest first, with their types and values
(none when not known); the constants and functions of enclosing blocks; and the loops being
run, with their labels and the types of their values. -/
structure Frame where
  locals : List (String × ValueType × Option Constant) := []
  constants : List (String × ValueType × Option Constant) := []
  functions : List (String × Callable) := []
  loops : List (Option String × ValueType) := []
  deriving Inhabited

namespace Frame

/-- Every name bound. -/
def names (f : Frame) : List String :=
  f.locals.map (·.1) ++ f.constants.map (·.1) ++ f.functions.map (·.1)

/-- The types of the names bound, as checking sees them. -/
def types (f : Frame) : List (String × ValueType) :=
  f.locals.map (fun (n, t, _) => (n, t)) ++ f.constants.map (fun (n, t, _) => (n, t)) ++
    f.functions.map fun (n, c) => (n, c.type)

/-- The value of a name, none when it is not known. -/
def value (f : Frame) (name : String) : Option Constant :=
  match f.locals.find? (·.1 == name) with
  | some (_, _, v) => v
  | none => ((f.constants.find? (·.1 == name)).map (·.2.2)).join

/-- The type of a name. -/
def typeOf (f : Frame) (name : String) : ValueType := (f.types.lookup name).getD .error

/-- The local bindings with the newest of a name given a new value. -/
def setLocal (name : String) (v : Option Constant) :
    List (String × ValueType × Option Constant) → List (String × ValueType × Option Constant)
  | [] => []
  | (n, t, old) :: rest =>
    if n == name then (n, t, v) :: rest else (n, t, old) :: setLocal name v rest

end Frame

/-- A computation of evaluation inside a program: it may leave by an `Exit`, and it keeps the
names it binds. -/
abbrev Run := ExceptT Exit (StateT Frame Eval)

/-- The types of the names each place of an expression binds, as checking found them, by the
span of the place's first token: the type the place matches a pattern against and the names. -/
abbrev LocalTable := List (Span × ValueType × List (String × ValueType))

/-- The outcome of a computation, normal or an exit, as a value. -/
def Run.outcome (act : Run α) : Run (Except Exit α) :=
  tryCatch (Except.ok <$> act) (fun e => pure (.error e))

/-- Run a computation with more local bindings, which it leaves when it ends, normally or not;
the items it defines leave with them, while the values it gives older bindings stay. -/
def Run.scoped (bound : List (String × ValueType × Option Constant)) (act : Run α) : Run α := do
  let saved ← getThe Frame
  modifyThe Frame fun f => { f with locals := bound ++ f.locals }
  let r ← Run.outcome act
  modifyThe Frame fun f =>
    { f with locals := f.locals.drop (f.locals.length - saved.locals.length),
             constants := saved.constants, functions := saved.functions }
  match r with
  | .ok v => return v
  | .error e => throw e

/-- Run a computation inside a loop with a label and the type of its value. -/
def Run.inLoop (label : Option String) (t : ValueType) (act : Run α) : Run α := do
  modifyThe Frame fun f => { f with loops := (label, t) :: f.loops }
  let r ← Run.outcome act
  modifyThe Frame fun f => { f with loops := f.loops.drop 1 }
  match r with
  | .ok v => return v
  | .error e => throw e

/-- Run a computation only for the faults it finds: its bindings and exits are forgotten. -/
def Run.aside (act : Run α) : Run Unit := do
  let saved ← getThe Frame
  discard <| Run.outcome act
  set saved

/-- Bindings with known values. -/
def known (bound : List (String × ValueType × Constant)) :
    List (String × ValueType × Option Constant) :=
  bound.map fun (n, t, v) => (n, t, some v)

/-- Whether an exit leaves the loop with a label, and not one around it. -/
def leaves (loop : Option String) (label : Option String) : Bool :=
  label.isNone || label == loop

/-- Evaluate an expression of the settled type `t`, given the names checking found for its
binding places. With `everywhere`, branches that are not taken are evaluated too, as the
analysis of a function body does. -/
def eval (everywhere : Bool) (table : LocalTable) : Nat → Expr → ValueType →
    Run (Option Constant)
  | 0, _, _ => throw .stuck
  | fuel + 1, e, t => do
    let recur := eval everywhere table fuel
    let types ← (·.types) <$> getThe Frame
    let (first, last) := e.extent
    -- what checking found for the binding place whose first token is at a span
    let place (key : Span) (fallback : ValueType) : ValueType × List (String × ValueType) :=
      match table.find? (·.1 == key) with
      | some (_, ty, names) => (ty, names)
      | none => (fallback, [])
    -- the names a place binds, their values not known
    let unknown (names : List (String × ValueType)) : List (String × ValueType × Option Constant) :=
      names.map fun (n, u) => (n, u, none)
    -- the value of a library call, or the panic constant evaluation reports for it; the
    -- analysis does not look into library functions, so it reports nothing
    let panicking (r : Except String Constant) : Eval (Option Constant) := do
      match r with
      | .ok v => return some v
      | .error "" => return none
      | .error message =>
        Eval.fault "" message first last
        return none
    -- call a function or closure with the arguments' expressions
    let invoke (c : Callable) (args : List Expr) : Run (Option Constant) := do
      match c.type with
      | .named "closure" (r :: ps) =>
        let values ← (args.zip ps).mapM fun (a, p) => recur a p
        match values.mapM id with
        | some given =>
          let bound := (c.params.zip (ps.zip given)).mapM fun (pat, p, v) => patternBindings pat p v
          match bound with
          | some b =>
            let saved ← getThe Frame
            -- the body is a function of its own: the analysis of the caller does not see the
            -- faults of running it, which only a run of the program would meet; evaluating a
            -- constant runs it and meets them
            let found ← getThe Findings
            unless c.closure do modifyThe Frame fun f => { f with locals := [] }
            modifyThe Frame fun f => { f with loops := [] }
            let result ← Run.outcome (Run.scoped (known b.flatten) (recur c.body r))
            modifyThe Frame fun f =>
              { f with locals := if c.closure then f.locals else saved.locals, loops := saved.loops }
            if everywhere then modifyThe Findings fun f => { f with faults := found.faults }
            match result with
            | .ok v => return v
            | .error _ => throw .stuck
          | none => throw .stuck
        | none => return none
      | _ => return none
    match e with
    | .lit lit ts =>
      let (lf, ll) := (firstSpan ts, lastSpan ts)
      match lit with
      | .int neg v _ =>
        let value : Int := if neg then -(v : Int) else v
        match t with
        | .int it =>
          unless it.contains value do
            Eval.lint ("literal out of range for \x60" ++ it.name ++ "\x60") lf ll
          return some (.int it (it.wrap value))
        | .float s =>
          return some (.float s (Decimal.FloatValue.ofInt (floatFormat s) value))
        | _ => return none
      | .float _ =>
        match t, ts.getLast? with
        | .float s, some (.literal text _) =>
          match floatLiteral s text with
          | some x =>
            if x matches .infinite _ then
              Eval.lint ("literal out of range for \x60" ++ (if s then "f32" else "f64") ++ "\x60")
                lf ll
            return some (.float s x)
          | none => return none
        | _, _ => return none
      | .str s => return some (.str s)
      | .byteStr bytes => return some (.array (bytes.map fun (b : Nat) => Constant.int .u8 b))
      | .cStr bytes => return bytes.map .cStr
      | .byte b => return some (.int .u8 b)
      | .char c => return some (.char c)
      | _ => return none
    | .bool b _ => return some (.bool b)
    | .paren inner _ => recur inner t
    | .tuple items _ =>
      match t with
      | .tuple ts =>
        let vs ← (items.zip ts).mapM fun (x, u) => recur x u
        return (vs.mapM id).map .tuple
      | _ => return none
    | .array items _ =>
      match t with
      | .array u _ =>
        let vs ← items.mapM fun x => recur x u
        return (vs.mapM id).map .array
      | _ => return none
    | .repeated item count _ =>
      match t with
      | .array u n =>
        let c ← recur count (.int .usize)
        let v ← recur item u
        match v, c with
        | some x, some _ => return if n ≤ 4096 then some (.array (List.replicate n x)) else none
        | _, _ => return none
      | _ => return none
    | .neg inner _ =>
      match bareLiteral inner, t with
      | some (.int _ v _, _), .int it =>
        -- a negated literal is one constant
        let value := -(v : Int)
        unless it.contains value do
          Eval.lint ("literal out of range for \x60" ++ it.name ++ "\x60") first last
        return some (.int it (it.wrap value))
      | _, _ =>
        match ← recur inner t with
        | some (.int it v) =>
          if it.signed && v == it.min then
            Eval.fault overflowLint ("attempt to negate \x60" ++ operandText it v ++
              "\x60, which would overflow") first last
            return none
          return some (.int it (it.wrap (-v)))
        | some (.float s x) => return some (.float s x.neg)
        | _ => return none
    | .unary '!' inner _ =>
      match ← recur inner t with
      | some (.int it v) => return some (.int it (if it.signed then -v - 1 else it.max - v))
      | some (.bool b) => return some (.bool (!b))
      | _ => return none
    | .unary _ inner _ => recur inner (.ref t)
    | .reference inner _ =>
      match t with
      | .ref u => recur inner u
      | _ => recur inner t
    | .binary op l r _ =>
      match assignmentOps.lookup op with
      | some applied =>
        -- an assignment: the new value of the place, from its old one unless it is plain
        let placeType := settledType types l .none
        let value ← if applied.isEmpty then recur r placeType
          else if applied == "<<" || applied == ">>" then do
            let amountType := settledType types r .none
            let old ← recur l placeType
            let b ← recur r amountType
            match old, b, placeType, amountType with
            | some (.int _ x), some (.int _ y), .int it, .int bt =>
              pure ((← shiftOp it (applied == "<<") x bt y first last).map (.int it))
            | _, _, _, _ => pure none
          else do
            let old ← recur l placeType
            let b ← recur r (if placeType matches .named "String" [] then .strRef else placeType)
            match old, b with
            | some x, some y => combine placeType applied x y first last
            | _, _ => pure none
        match placeOf l with
        | some (name, steps) =>
          let positions ← steps.mapM fun s => match s with
            | .field i => pure (some i)
            | .index x => do
              match ← recur x (.int .usize) with
              | some (.int _ k) => pure (some k.toNat)
              | _ => pure none
          let f ← getThe Frame
          let updated := match f.value name, positions.mapM id, value with
            | some whole, some path, some v => replaceAt whole path v
            | _, some [], v => v
            | _, _, _ => none
          set { f with locals := Frame.setLocal name updated f.locals }
        | none => pure ()
        return some .unit
      | none =>
      if op == "&&" || op == "||" then
        let a ← recur l .bool
        match a with
        | some (.bool x) =>
          if (op == "&&" && !x) || (op == "||" && x) then
            if everywhere then Run.aside (recur r .bool)
            return some (.bool x)
          recur r .bool
        | _ =>
          discard <| recur r .bool
          return none
      else if comparisonOps.contains op then
        let u := operandType types l r
        let a ← recur l u
        let b ← recur r u
        match a, b with
        | some x, some y => return some (.bool (comparisonHolds op (compareConstants x y)))
        | _, _ => return none
      else if op == "<<" || op == ">>" then
        let a ← recur l t
        let amountType := settledType types r .none
        let b ← recur r amountType
        match a, b, t, amountType with
        | some (.int _ x), some (.int _ y), .int it, .int bt =>
          return (← shiftOp it (op == "<<") x bt y first last).map (.int it)
        | _, _, _, _ => return none
      else
        let a ← recur l t
        let b ← recur r (if t matches .named "String" [] then .strRef else t)
        match a, b with
        | some x, some y => combine t op x y first last
        | _, _ => return none
    | .cast inner _ _ =>
      let source := settledType types inner (.castTo t)
      match ← recur inner source with
      | some v => return convertScalar v t
      | none => return none
    | .path _ segments ts =>
      let f ← getThe Frame
      match namePath f.names false false segments ts with
      | .binding name => return f.value name
      | .constant _ v => return some v
      | .noneValue => return some .none
      | _ => return none
    | .call (.path _ segments ts) args _ =>
      let f ← getThe Frame
      match namePath f.names true false segments ts, args with
      | .binding name, _ =>
        match f.functions.lookup name with
        | some c => invoke c args
        | none => return none
      | .function fn, _ =>
        match fn, args, t with
        | .some, [a], .named "Option" [u] => return (← recur a u).map .some
        | .ok, [a], .named "Result" [u, _] => return (← recur a u).map .ok
        | .err, [a], .named "Result" [_, u] => return (← recur a u).map .err
        | .boxNew, [a], .named "Box" [u] => recur a u
        | .drop, [a], _ =>
          discard <| recur a (settledType types a .none)
          return some .unit
        | .stringFrom, [a], _ =>
          match ← recur a (settledType types a .none) with
          | some (.str s) => return some (.str s)
          | some (.char c) => return some (.str (String.singleton c))
          | _ => return none
        | .stringNew, [], _ => return some (.str "")
        | .vecNew, [], _ => return some (.array [])
        | .convert target, [a], _ =>
          match ← recur a (settledType types a .none) with
          | some v => return convertScalar v target
          | none => return none
        | .limit it upper, [], _ => return some (.int it (if upper then it.max else it.min))
        | .library lf, _, _ =>
          let values ← args.zipIdx.mapM fun (a, i) =>
            recur a ((lf.params.getD i none).getD (settledType types a .none))
          match values.mapM id with
          | some given => panicking (libraryFnValue lf given)
          | none => return none
        | _, _, _ => return none
      | _, _ => return none
    | .call callee args _ =>
      match callee with
      | .paren (.closure params _ body cts) _ | .closure params _ body cts =>
        let (ty, _) := place (firstSpan cts) .error
        invoke ⟨params.map (·.1), ty, body, true⟩ args
      | _ => return none
    | .method recv name args _ =>
      let rt := settledType types recv .none
      let v ← recur recv rt
      let argValues ← args.mapM fun a => recur a (settledType types a .none)
      match name, v, argValues with
      | "to_string", some x, [] => return x.plainText?.map .str
      | "to_owned", some x, [] | "clone", some x, [] => return some x
      | "iter", some x, [] | "into_iter", some x, [] => return some x
      | "chars", some x, [] | "bytes", some x, [] | "split_whitespace", some x, []
      | "lines", some x, [] | "sum", some x, [] | "product", some x, [] | "count", some x, []
      | "max", some x, [] | "min", some x, [] | "next", some x, [] | "last", some x, []
      | "rev", some x, [] | "collect", some x, [] =>
        return iteratorMethodValue t name x []
      | "split", some x, [some p] | "nth", some x, [some p] | "skip", some x, [some p]
      | "take", some x, [some p] | "step_by", some x, [some p] =>
        return iteratorMethodValue t name x [p]
      | "into", some x, [] => return convertScalar x t
      | "len", some (.str s), [] => return some (.int .usize s.utf8ByteSize)
      | "len", some (.array xs), [] => return some (.int .usize xs.length)
      | "is_empty", some (.str s), [] => return some (.bool s.isEmpty)
      | "is_empty", some (.array xs), [] => return some (.bool xs.isEmpty)
      | _, some (.int it x), _ =>
        let ints := argValues.filterMap fun a => match a with
          | some (.int _ y) => some y
          | _ => none
        if it == .u8 && (byteMethod? name).isSome then
          match argValues.mapM id with
          | some given => panicking (byteMethodValue x.toNat name given)
          | none => return none
        else if ints.length == argValues.length then panicking (integerMethodValue it name x ints)
        else return none
      | _, some receiver, _ =>
        match argValues.mapM id with
        | some given =>
          match receiver with
          | .char c => panicking (charMethodValue c name given)
          | .str s => panicking (strMethodValue s name given)
          | .float single x => panicking (floatMethodValue single x name given)
          | .some _ | .none | .ok _ | .err _ =>
            let default := match t with
              | .int it => some (Constant.int it 0)
              | .bool => some (Constant.bool false)
              | .str => some (Constant.str "")
              | .named "String" [] => some (Constant.str "")
              | _ => none
            panicking (variantMethodValue receiver name given default)
          | _ => return none
        | none => return none
      | _, _, _ => return none
    | .index base index _ =>
      let bt := settledType types base .none
      let b ← recur base bt
      let i ← recur index (.int .usize)
      match b, i with
      | some (.array xs), some (.int _ k) =>
        match xs[k.toNat]? with
        | some x => return some x
        | none =>
          Eval.fault panicLint ("index out of bounds: the length is " ++ toString xs.length ++
            " but the index is " ++ toString k) first last
          return none
      | _, _ => return none
    | .field base name _ =>
      let bt := settledType types base .none
      match ← recur base bt, name.toNat? with
      | some (.tuple items), some i => return items[i]?
      | _, _ => return none
    | .block stmts tail _ =>
      Run.scoped [] do
        -- the functions and constants of a block are seen in all of it
        for st in stmts do
          match st with
          | .fnItem name params _ body ts =>
            let (ty, _) := place (firstSpan ts) .error
            modifyThe Frame fun f =>
              { f with functions := (name, ⟨params.map (·.1), ty, body, false⟩) :: f.functions }
          | _ => pure ()
        for st in stmts do
          match st with
          | .constItem name ty value _ =>
            let want := ((annotatedType ty).run {}).1
            let saved ← getThe Frame
            modifyThe Frame fun f => { f with locals := [], loops := [] }
            let v ← Run.outcome (recur value want)
            modifyThe Frame fun f => { f with locals := saved.locals, loops := saved.loops }
            let v := match v with
              | .ok v => v
              | .error _ => none
            modifyThe Frame fun f => { f with constants := (name, want, v) :: f.constants }
          | _ => pure ()
        for st in stmts do
          match st with
          | .binding pat _ init ts =>
            let now ← (·.types) <$> getThe Frame
            let fallback := match init with
              | some x => settledType now x .none
              | none => .error
            let (ty, names) := place (firstSpan ts) fallback
            match pat, init with
            | .bind name, some (.closure params _ body cts) =>
              let (cty, _) := place (firstSpan cts) .error
              modifyThe Frame fun f =>
                { f with functions := (name, ⟨params.map (·.1), cty, body, true⟩) :: f.functions }
            | _, some x =>
              let bound := match ← recur x ty with
                | some v => (patternBindings pat ty v).map known
                | none => some (unknown names)
              match bound with
              | some b => modifyThe Frame fun f => { f with locals := b ++ f.locals }
              | none => throw .stuck
            | _, none => modifyThe Frame fun f => { f with locals := unknown names ++ f.locals }
          | .expr x _ _ =>
            discard <| recur x (settledType (← (·.types) <$> getThe Frame) x .none)
          | _ => pure ()
        match tail with
        | some x => recur x t
        | none => return some .unit
    | .ifElse cond thenBranch elseBranch _ =>
      -- whether the condition holds, with the names it binds
      let holds ← match cond with
        | .letCond pat scrutinee ts =>
          let (st, names) := place (firstSpan ts) (settledType types scrutinee .none)
          match ← recur scrutinee st with
          | some v =>
            match patternBindings pat st v with
            | some bound => pure (some (true, known bound))
            | none => pure (some (false, unknown names))
          | none => pure none
        | _ =>
          match ← recur cond .bool with
          | some (.bool c) => pure (some (c, []))
          | _ => pure none
      match holds with
      | some (c, bound) =>
        if everywhere then
          if c then
            if let some x := elseBranch then Run.aside (recur x t)
          else Run.aside (Run.scoped bound (recur thenBranch t))
        if c then Run.scoped bound (recur thenBranch t)
        else
          match elseBranch with
          | some x => recur x t
          | none => return some .unit
      | none =>
        Run.aside (recur thenBranch t)
        if let some x := elseBranch then Run.aside (recur x t)
        return none
    | .letCond pat scrutinee ts =>
      let (st, _) := place (firstSpan ts) (settledType types scrutinee .none)
      match ← recur scrutinee st with
      | some v => return some (.bool (patternBindings pat st v).isSome)
      | none => return none
    | .matchOn scrutinee arms _ =>
      let st := settledType types scrutinee .none
      match ← recur scrutinee st with
      | some v =>
        -- the first arm whose pattern matches and whose guard holds
        let mut chosen : Option (Nat × Expr × List (String × ValueType × Constant)) := none
        for (arm, i) in arms.zipIdx do
          match arm with
          | .arm pat guard body _ =>
            match patternBindings pat st v with
            | some bound =>
              let ok ← match guard with
                | some g => do
                  match ← Run.scoped (known bound) (recur g .bool) with
                  | some (.bool b) => pure b
                  | _ => throw .stuck
                | none => pure true
              if ok then
                chosen := some (i, body, bound)
                break
            | none => pure ()
        if everywhere then
          for (arm, i) in arms.zipIdx do
            match arm with
            | .arm pat _ body _ =>
              if !(chosen.any fun c => c.1 == i) then
                let bound := (patternBindings pat st v).getD []
                Run.aside (Run.scoped (known bound) (recur body t))
        match chosen with
        | some (_, body, bound) => Run.scoped (known bound) (recur body t)
        | none => return none
      | none => return none
    | .loop label body _ =>
      Run.inLoop label t do
        let mut result : Option (Option Constant) := none
        for _ in [0:loopLimit] do
          match ← Run.outcome (recur body .unit) with
          | .ok _ => pure ()
          | .error (.breakOut l v) =>
            if leaves label l then
              result := some v
              break
            else throw (.breakOut l v)
          | .error (.continueLoop l) =>
            unless leaves label l do throw (.continueLoop l)
          | .error .stuck => throw .stuck
        match result with
        | some v => return v
        | none => throw .stuck
    | .whileLoop label cond body _ =>
      Run.inLoop label .unit do
        let mut finished := false
        for _ in [0:loopLimit] do
          let bound ← match cond with
            | .letCond pat scrutinee ts =>
              let (st, _) := place (firstSpan ts) .error
              match ← recur scrutinee st with
              | some v => pure ((patternBindings pat st v).map known)
              | none => throw .stuck
            | _ =>
              match ← recur cond .bool with
              | some (.bool true) => pure (some [])
              | some _ => pure none
              | none => throw .stuck
          match bound with
          | none =>
            finished := true
            break
          | some b =>
            match ← Run.outcome (Run.scoped b (recur body .unit)) with
            | .ok _ => pure ()
            | .error (.breakOut l v) =>
              if leaves label l then
                finished := true
                break
              else throw (.breakOut l v)
            | .error (.continueLoop l) =>
              unless leaves label l do throw (.continueLoop l)
            | .error .stuck => throw .stuck
        if finished then return some .unit else throw .stuck
    | .forLoop label pat iterated body ts =>
      let (item, _) := place (firstSpan ts) .error
      match ← recur iterated (settledType types iterated .none) with
      | some v =>
        match iterationValues v with
        | some items =>
          Run.inLoop label .unit do
            for x in items do
              match patternBindings pat item x with
              | some b =>
                match ← Run.outcome (Run.scoped (known b) (recur body .unit)) with
                | .ok _ => pure ()
                | .error (.breakOut l v) =>
                  if leaves label l then break else throw (.breakOut l v)
                | .error (.continueLoop l) =>
                  unless leaves label l do throw (.continueLoop l)
                | .error .stuck => throw .stuck
              | none => throw .stuck
            return some .unit
        | none => throw .stuck
      | none => throw .stuck
    | .breakOut label value _ =>
      let loops := (← getThe Frame).loops
      let target : Option (Option String × ValueType) := match label with
        | some l => loops.find? fun (n, _) => n == some l
        | none => loops.head?
      let v ← match value with
        | some x => recur x ((target.map fun (_, u) => u).getD .error)
        | none => pure (some .unit)
      throw (.breakOut label v)
    | .continueLoop label _ => throw (.continueLoop label)
    | .range lower upper closed _ =>
      let item := match t with
        | .named _ [u] => u
        | _ => .error
      let lo ← match lower with
        | some x => recur x item
        | none => pure none
      let hi ← match upper with
        | some x => recur x item
        | none => pure none
      if (lower.isSome && lo.isNone) || (upper.isSome && hi.isNone) then return none
      return some (.range lo hi closed)
    | .mac ts =>
      match macroParts ts, t with
      | some ("vec", inner), .named "Vec" [u] =>
        match vecItems inner with
        | some (.list items) =>
          let vs ← items.mapM fun x => recur x u
          return (vs.mapM id).map .array
        | some (.repeat item count) =>
          let v ← recur item u
          let c ← recur count (.int .usize)
          match v, c with
          | some x, some (.int _ n) =>
            return if n ≤ 4096 then some (.array (List.replicate n.toNat x)) else none
          | _, _ => return none
        | none => return none
      | some ("stringify", inner), _ => return some (.str (TokenTree.printedAll inner))
      | some ("concat", inner), _ => return (concatText inner).map .str
      | some ("format", inner), _ =>
        match formatArgs inner with
        | some call =>
          let values ← call.args.mapM fun (n, x) => do
            return (← recur x (settledType types x .none)).map fun v => (n, v)
          let f ← getThe Frame
          let captured := call.captured.filterMap fun n => (f.value n).map fun v => (some n, v)
          match values.mapM id with
          | some given => return (formatText call.text (given ++ captured)).map .str
          | none => return none
        | none => return none
      | some ("matches", inner), _ =>
        match matchesArgs inner with
        | some (scrutinee, pat, guard) =>
          let (st, _) := place (firstSpan inner) (settledType types scrutinee .none)
          match ← recur scrutinee st with
          | some v =>
            match patternBindings pat st v, guard with
            | some bound, some g => Run.scoped (known bound) (recur g .bool)
            | some _, none => return some (.bool true)
            | none, _ => return some (.bool false)
          | none => return none
        | none => return none
      | _, _ => return none
    | _ => return none

/-- The types checking gives the names an expression of type `t` binds, its variables
settled. -/
def localTypes (e : Expr) (t : ValueType) : LocalTable :=
  let act : Infer LocalTable := do
    let u ← check (fuelFor e.tokens) [] e (.has t)
    discard <| Infer.unify u t
    Infer.fallBack
    let s ← get
    let settle (x : ValueType) : ValueType := zonkWith s.bindings (s.bindings.size + 32) x
    return s.locals.toList.map fun (k, ty, names) =>
      (k, settle ty, names.map fun (n, u) => (n, settle u))
  (act.run {}).1

/-- Evaluate an expression of the settled type `t`; none when its value is not known. With
`everywhere`, branches that are not taken are evaluated too, as the analysis of a function
body does. -/
def evaluate (everywhere : Bool) (e : Expr) (t : ValueType) : Eval (Option Constant) := do
  let table := localTypes e t
  match ← ((eval everywhere table (fuelFor e.tokens) e t).run.run {}) with
  | (.ok v, _) => return v
  | (.error _, _) => return none

end GatherMap.Inline
