import GatherMap.Inline.Evaluate

/-!
# Matches that leave values out

A `match` must cover every value of its scrutinee's type, or the program does not compile:
"non-exhaustive patterns: `i32::MIN..=0_i32` and `2_i32..=i32::MAX` not covered". The check
looks at the type only, never at the value matched, and an arm with a guard covers nothing.

* `bool` has two values, `false` and `true`, reported in that order.
* An integer type is a range of numbers; the patterns cover literals and ranges of literals,
  and what is left is a list of gaps in increasing order, each written as a single number or as
  `lo..=hi`, with a number written as the compiler writes a constant (`i32::MIN`, `0_u8`).
  The pointer-sized types have no fixed bounds here: a gap that reaches the top of `usize` is
  written `lo..`, and the gaps of `isize` at its ends `..=hi` and `lo..`.
* `char` is the two ranges of scalar values around the surrogates, its gaps written with
  character literals.
* Strings and floating-point numbers are never covered by literals: `&_` or `_` is left.

At most three gaps are named; more are counted: "`a`, `b`, `c` and 2 more not covered".
A pattern of any other kind is taken to cover everything, so no error is made up for it.
-/

namespace GatherMap.Inline

open Code Grammar

/-- Values of an integer or character type as numbers, in inclusive ranges. -/
abbrev Gaps := List (Int × Int)

/-- The names a pattern binds, with the types of the parts of a value of type `t` they match;
the names of alternatives are those of the first. -/
def patternTypes : Pattern → ValueType → List (String × ValueType)
  | .bind name, t => [(name, t)]
  | .bindAt name inner, t => (name, t) :: patternTypes inner t
  | .slice items, t =>
    let element := match t with
      | .array u _ | .slice u => u
      | .ref (.array u _) | .ref (.slice u) => .ref u
      | _ => .error
    items.attach.flatMap fun ⟨p, _⟩ => patternTypes p element
  | .alt (p :: _), t => patternTypes p t
  | .tuple items, t =>
    let types := match t with
      | .tuple ts => ts
      | _ => []
    items.attach.zipIdx.flatMap fun (⟨p, _⟩, i) => patternTypes p (types.getD i .error)
  | .deref inner, t =>
    patternTypes inner (match t with
      | .ref u => u
      | _ => .error)
  | .ctor path (some [p]), t =>
    patternTypes p (match patternVariant? path, t with
      | some "Some", .named "Option" [u] | some "Ok", .named "Result" [u, _]
      | some "Err", .named "Result" [_, u] => u
      | _, _ => .error)
  | _, _ => []

/-- The names a pattern binds. -/
def patternNames (p : Pattern) : List String := (patternTypes p .error).map (·.1)

/-- Whether a pattern matches every value of its type: a wildcard, a binding, or a tuple or
reference of such patterns. -/
def irrefutable : Pattern → Bool
  | .wild | .bind _ => true
  | .tuple items => items.attach.all fun ⟨p, _⟩ => irrefutable p
  | .deref inner => irrefutable inner
  | .alt options => options.attach.any fun ⟨p, _⟩ => irrefutable p
  | _ => false

/-- Take an inclusive range out of a list of ranges. -/
def removeRange (lo hi : Int) : Gaps → Gaps
  | [] => []
  | (a, b) :: rest =>
    let below := if a < lo then [(a, min b (lo - 1))] else []
    let above := if hi < b then [(max a (hi + 1), b)] else []
    below ++ above ++ removeRange lo hi rest

/-- What a pattern leaves of some ranges of numbers; `none` when the pattern is of a kind the
check does not follow, which is taken to cover everything. -/
def uncoveredBy (p : Pattern) (gaps : Gaps) : Option Gaps :=
  match p with
  | .wild | .bind _ => some []
  | .lit v => (literalKey? v).map fun k => removeRange k k gaps
  | .range lower upper closed =>
    let lo := lower.bind rangeBoundKey?
    let hi := upper.bind rangeBoundKey?
    if (lower.isSome && lo.isNone) || (upper.isSome && hi.isNone) then none else
    let top := match hi with
      | some h => if closed then h else h - 1
      | none => (gaps.map (·.2)).foldl max (gaps.headD (0, 0)).2
    let bottom := lo.getD ((gaps.map (·.1)).foldl min (gaps.headD (0, 0)).1)
    some (removeRange bottom top gaps)
  | .alt options =>
    options.attach.foldlM (fun g ⟨q, _⟩ => uncoveredBy q g) gaps
  | _ => none

/-- How the compiler writes a number of an integer type in a pattern. -/
def boundText (t : IntType) (v : Int) : String := operandText t v

/-- How the compiler writes a gap of an integer type. -/
def integerGapText (t : IntType) (gap : Int × Int) : String :=
  let (lo, hi) := gap
  if t.pointerSized then
    let openTop := hi == t.max
    let openBottom := t.signed && lo == t.min
    if openBottom && openTop then "_"
    else if openTop then boundText t lo ++ ".."
    else if openBottom then "..=" ++ boundText t hi
    else if lo == hi then boundText t lo
    else boundText t lo ++ "..=" ++ boundText t hi
  else if lo == hi then boundText t lo
  else boundText t lo ++ "..=" ++ boundText t hi

/-- How the compiler writes a gap of `char`. -/
def charGapText (gap : Int × Int) : String :=
  let shown (v : Int) : String := Text.quoteChar (Char.ofNat v.toNat)
  if gap.1 == gap.2 then shown gap.1 else shown gap.1 ++ "..=" ++ shown gap.2

/-! ### Constructors and witnesses -/

/-- A constructor of values, as the check splits a type: `false` or `true`; an inclusive range
of integers, or of characters by code point; a variant of `Option` or `Result`; the one
constructor of tuples, of arrays of a length or of references; a literal of a type whose values
cannot be listed (strings and floating-point numbers); or the values of such a type that no
literal names. -/
inductive Ctor where
  | bool (b : Bool)
  | ints (lo hi : Int)
  | variant (name : String)
  | tuple
  | array (length : Nat)
  | ref
  | literal (text : String)
  | unlisted
  deriving DecidableEq, Inhabited

/-- Whether the values of constructor `c` are all values of constructor `d`: a range within a
range, or the same constructor. -/
def Ctor.covers (d c : Ctor) : Bool :=
  match d, c with
  | .ints a b, .ints x y => a ≤ x && y ≤ b
  | _, _ => d == c

/-- The types of the fields of a constructor of a type. -/
def ctorFields (t : ValueType) (c : Ctor) : List ValueType :=
  match c, t with
  | .tuple, .tuple ts => ts
  | .array _, .array u n => List.replicate n u
  | .ref, .ref u => [u]
  | .variant "Some", .named "Option" [u] | .variant "Ok", .named "Result" [u, _]
  | .variant "Err", .named "Result" [_, u] => [u]
  | _, _ => []

/-- A value a match leaves out, as the check builds it: any value, or a constructor of a type
with values for its fields. -/
inductive Witness where
  | wild
  | ctor (c : Ctor) (t : ValueType) (fields : List Witness)
  deriving Inhabited

/-- How the compiler writes a value a match leaves out. -/
def Witness.text : Witness → String
  | .wild => "_"
  | .ctor c t fields =>
    let inner := fields.attach.map fun ⟨w, _⟩ => w.text
    match c, t with
    | .bool b, _ => if b then "true" else "false"
    | .ints lo hi, .int it => integerGapText it (lo, hi)
    | .ints lo hi, _ => charGapText (lo, hi)
    | .variant name, _ => if inner.isEmpty then name else name ++ "(" ++ ", ".intercalate inner ++ ")"
    | .tuple, _ => "(" ++ ", ".intercalate inner ++ (if inner.length == 1 then ",)" else ")")
    | .array _, _ => "[" ++ ", ".intercalate inner ++ "]"
    | .ref, _ => "&" ++ inner.headD "_"
    | .literal _, _ | .unlisted, _ => "_"

/-- How a pattern starts, at a type: it matches anything, it lists alternatives, it is a
constructor with patterns for the constructor's fields, or the check does not follow it. -/
inductive Head where
  | any
  | alts (options : List Pattern)
  | ctor (c : Ctor) (fields : List Pattern)
  | unknown

/-- The least and greatest value of an integer type, or of `char` by code point. -/
def valueBounds : ValueType → Option (Int × Int)
  | .int it => some (it.min, it.max)
  | .char => some (0, 0x10FFFF)
  | _ => none

/-- The patterns for the fields of a tuple or an array of `count` fields: `..` among them
stands for as many wildcards as there are fields left; none when the patterns do not fit. -/
def fieldPatterns (count : Nat) (items : List Pattern) : Option (List Pattern) :=
  if items.any (· matches .rest) then
    let before := items.takeWhile fun p => !(p matches .rest)
    let after := (items.dropWhile fun p => !(p matches .rest)).drop 1
    if before.length + after.length ≤ count then
      some (before ++ List.replicate (count - before.length - after.length) .wild ++ after)
    else none
  else if items.length == count then some items else none

/-- Whether a pattern, matched against a reference, is matched against its referent instead:
a pattern that is neither a binding, a wildcard, a reference pattern nor a string literal. -/
def matchesThroughReference : Pattern → Bool
  | .wild | .bind _ | .bindAt _ _ | .alt _ | .deref _ | .other | .rest => false
  | .lit (.str _) => false
  | _ => true

/-- How a pattern for values of type `t` starts, when `t` is not a reference the pattern
matches through. A string literal matches a reference to a string; `..` in a tuple or an array
stands for as many wildcards as it has fields left. -/
def directHead (t : ValueType) : Pattern → Head
  | .wild | .bind _ => .any
  | .bindAt _ p => directHead t p
  | .alt options => .alts options
  | .boolLit b => .ctor (.bool b) []
  | .lit v =>
    match v, t with
    | .str s, .ref _ => .ctor .ref [.lit (.str s)]
    | .str s, _ => .ctor (.literal s) []
    | .float _, _ => .ctor (.literal "") []
    | _, _ =>
      match literalKey? v with
      | some k => .ctor (.ints k k) []
      | none => .unknown
  | .range lower upper closed =>
    match valueBounds t with
    | some (lo, hi) =>
      let l := lower.bind rangeBoundKey?
      let u := upper.bind rangeBoundKey?
      if (lower.isSome && l.isNone) || (upper.isSome && u.isNone) then .unknown
      else
        let top := match u with
          | some h => if closed then h else h - 1
          | none => hi
        .ctor (.ints (l.getD lo) top) []
    | none => .unknown
  | .tuple items =>
    match t with
    | .tuple ts =>
      match fieldPatterns ts.length items with
      | some fields => .ctor .tuple fields
      | none => .unknown
    | _ => .unknown
  | .slice items =>
    match t with
    | .array _ n =>
      match fieldPatterns n items with
      | some fields => .ctor (.array n) fields
      | none => .unknown
    | _ => .unknown
  | .deref inner => .ctor .ref [inner]
  | .ctor path fields =>
    match patternVariant? path, fields with
    | some "None", none => .ctor (.variant "None") []
    | some v, some [p] => if v == "None" then .unknown else .ctor (.variant v) [p]
    | none, none =>
      -- a constant of a primitive type stands for its value
      match patternConstant? (namesPath path) with
      | some (_, .bool b) => .ctor (.bool b) []
      | some (_, c) =>
        match boundKey? c with
        | some k => .ctor (.ints k k) []
        | none => .unknown
      | none => .unknown
    | _, _ => .unknown
  | _ => .unknown

/-- How a pattern for values of type `t` starts; a pattern that meets a reference without
being a reference pattern (`Some(_)` for an `&Option<u8>`) matches what it points to. -/
def headOf (t : ValueType) (p : Pattern) : Head :=
  let p := match p with
    | .bindAt _ inner => inner
    | _ => p
  match t with
  | .ref _ => if matchesThroughReference p then .ctor .ref [p] else directHead t p
  | _ => directHead t p

/-- The rows of a matrix of patterns, a row whose first pattern lists alternatives written as
one row for each alternative, at most `fuel` levels of alternatives deep. -/
def expandRows (t : ValueType) : Nat → List (List Pattern) → List (List Pattern)
  | 0, rows => rows
  | fuel + 1, rows =>
    rows.flatMap fun row =>
      match row with
      | p :: rest =>
        match headOf t p with
        | .alts options => expandRows t fuel (options.map (· :: rest))
        | _ => [row]
      | [] => [row]

/-- The pieces a list of inclusive ranges cuts the ranges `whole` into: between any two
consecutive bounds of the ranges, the part that lies in `whole` and in one of the ranges, in
increasing order. -/
def coveredPieces (whole : List (Int × Int)) (ranges : List (Int × Int)) : List (Int × Int) :=
  let points := ((ranges.flatMap fun (lo, hi) => [lo, hi + 1]) ++
    (whole.flatMap fun (lo, hi) => [lo, hi + 1])).mergeSort (· ≤ ·)
  let distinct := points.foldr (fun x acc => if acc.head? == some x then acc else x :: acc) []
  let pieces := distinct.zip (distinct.drop 1) |>.map fun (a, b) => (a, b - 1)
  pieces.filter fun (a, b) =>
    whole.any (fun (lo, hi) => lo ≤ a && b ≤ hi) && ranges.any fun (lo, hi) => lo ≤ a && b ≤ hi

/-- The constructors of a type that the first patterns of a matrix show, split into those
present, in the order the check visits them, and those missing, in the order they are reported.
None for a type the check does not follow. -/
def splitColumn (t : ValueType) (seen : List Ctor) : Option (List Ctor × List Ctor) :=
  let byPresence (all : List Ctor) : List Ctor × List Ctor :=
    (all.filter seen.contains, all.filter (!seen.contains ·))
  let ranges := seen.filterMap fun c => match c with
    | .ints lo hi => some (lo, hi)
    | _ => none
  let integers (whole : List (Int × Int)) : List Ctor × List Ctor :=
    ((coveredPieces whole ranges).map fun (a, b) => .ints a b,
      (ranges.foldl (fun g (lo, hi) => removeRange lo hi g) whole).map fun (a, b) => .ints a b)
  match t with
  | .bool => some (byPresence [.bool false, .bool true])
  | .int it => some (integers [(it.min, it.max)])
  | .char => some (integers [(0, 0xD7FF), (0xE000, 0x10FFFF)])
  | .named "Option" [_] => some (byPresence [.variant "None", .variant "Some"])
  | .named "Result" [_, _] => some (byPresence [.variant "Ok", .variant "Err"])
  | .tuple _ => some (byPresence [.tuple])
  | .array _ n => some (byPresence [.array n])
  | .ref _ => some (byPresence [.ref])
  | .str | .float _ => some (seen.foldl (fun acc c => if acc.contains c then acc else acc ++ [c]) [],
    [.unlisted])
  | _ => if seen.isEmpty then some ([], [.unlisted]) else none

/-- The values that rows of patterns leave out, for columns of the given types, each a list of
one value per column. Columns are taken from the first: the constructors the first patterns
show are each followed into the rows that can start with them, and the constructors none shows
are reported one by one, or as a wildcard when no constructor is shown at all (always one by
one for the scrutinee itself unless it is an integer or a character). `top` when the column is
the scrutinee. None when a type or a pattern is of a kind the check does not follow. -/
def witnesses : Nat → Bool → List ValueType → List (List Pattern) → Option (List (List Witness))
  | 0, _, _, _ => none
  | _ + 1, _, [], rows => some (if rows.isEmpty then [[]] else [])
  | fuel + 1, top, t :: ts, rows => do
    let rows := expandRows t 8 rows
    let heads ← rows.mapM fun row =>
      match headOf t (row.headD .wild) with
      | .any => some none
      | .ctor c fields => some (some (c, fields))
      | .alts _ | .unknown => none
    let (present, missing) ← splitColumn t (heads.filterMap (·.map (·.1)))
    let integers := t matches .int _ || t matches .char
    let reportEach := (top && !integers) || !present.isEmpty
    -- the rows that can start with a constructor, their first pattern replaced by its fields
    let specialize (c : Ctor) : List (List Pattern) :=
      (rows.zip heads).filterMap fun (row, h) =>
        match h with
        | none => some (List.replicate (ctorFields t c).length .wild ++ row.drop 1)
        | some (d, fields) => if d.covers c then some (fields ++ row.drop 1) else none
    let fromPresent ← present.mapM fun c => do
      let k := (ctorFields t c).length
      let sub ← witnesses fuel false (ctorFields t c ++ ts) (specialize c)
      return sub.map fun w => Witness.ctor c t (w.take k) :: w.drop k
    let fromMissing ← if missing.isEmpty then pure [] else do
      let rest := (rows.zip heads).filterMap fun (row, h) =>
        if h.isNone then some (row.drop 1) else none
      let sub ← witnesses fuel false ts rest
      if reportEach then
        pure (missing.flatMap fun c =>
          sub.map fun w => Witness.ctor c t ((ctorFields t c).map fun _ => .wild) :: w)
      else pure (sub.map (Witness.wild :: ·))
    return fromPresent.flatten ++ fromMissing

/-- The values of a type a list of arm patterns leaves out, as the compiler writes them; `none`
when every value is covered, or the type or a pattern is of a kind the check does not follow. -/
def missingValues (t : ValueType) (patterns : List Pattern) : Option (List String) :=
  match witnesses 64 true [t] (patterns.map ([·])) with
  | some (w :: ws) => some ((w :: ws).map fun row => (row.headD .wild).text)
  | _ => none

/-- The message for values a match leaves out. -/
def notCoveredMessage (missing : List String) : String :=
  let quoted := missing.map fun m => "\x60" ++ m ++ "\x60"
  let named := match quoted with
    | [one] => one
    | [a, b] => a ++ " and " ++ b
    | [a, b, c] => a ++ ", " ++ b ++ " and " ++ c
    | a :: b :: c :: rest => a ++ ", " ++ b ++ ", " ++ c ++ " and " ++ toString rest.length ++ " more"
    | [] => ""
  "non-exhaustive patterns: " ++ named ++ " not covered"

/-- The errors for matches in an expression that leave values out, outer matches first, given
the types of enclosing bindings. Each is reported at the scrutinee. -/
def nonExhaustive : Nat → List (String × ValueType) → Expr → List Diagnostic
  | 0, _, _ => []
  | fuel + 1, env, e =>
    let within := nonExhaustive fuel env
    match e with
    | .matchOn scrutinee arms _ =>
      let t := settledType env scrutinee .none
      let unguarded := arms.filterMap fun arm =>
        match arm with
        | .arm pat none _ _ => some pat
        | .arm _ (some _) _ _ => none
      let (a, b) := scrutinee.extent
      let here := if arms.isEmpty && !t.isError then
          [⟨"non-exhaustive patterns: type \x60" ++ t.shown ++ "\x60 is non-empty", a, b⟩]
        else match missingValues t unguarded with
        | some missing => [⟨notCoveredMessage missing, a, b⟩]
        | none => []
      here ++ within scrutinee ++ arms.flatMap fun arm =>
        match arm with
        | .arm pat guard body _ =>
          let names := patternTypes pat t
          let inner := nonExhaustive fuel (names ++ env)
          (guard.map inner).getD [] ++ inner body
    | .paren x _ | .reference x _ | .neg x _ | .unary _ x _ | .field x _ _ | .cast x _ _ => within x
    | .tuple xs _ | .array xs _ => xs.flatMap within
    | .call f args _ => within f ++ args.flatMap within
    | .method r _ args _ => within r ++ args.flatMap within
    | .repeated x c _ => within x ++ within c
    | .binary _ l r _ | .index l r _ => within l ++ within r
    | .range lo hi _ _ => (lo.map within).getD [] ++ (hi.map within).getD []
    | .ifElse c a b _ =>
      let bound := match c with
        | .letCond pat x _ => patternTypes pat (settledType env x .none)
        | _ => []
      within c ++ nonExhaustive fuel (bound ++ env) a ++ (b.map within).getD []
    | .letCond _ x _ => within x
    | .loop _ body _ => within body
    | .whileLoop _ c body _ =>
      let bound := match c with
        | .letCond pat x _ => patternTypes pat (settledType env x .none)
        | _ => []
      within c ++ nonExhaustive fuel (bound ++ env) body
    | .forLoop _ pat x body _ =>
      let item := ((do
          let t ← check (fuelFor x.tokens) env x .none
          let u ← iteratedItem t
          Infer.fallBack
          Infer.zonk u : Infer ValueType).run {}).1
      within x ++ nonExhaustive fuel (patternTypes pat item ++ env) body
    | .breakOut _ v _ => (v.map within).getD []
    | .closure params _ body _ =>
      let bound := params.flatMap fun (pat, ty) =>
        patternTypes pat ((ty.map fun t => ((annotatedType t).run {}).1).getD .error)
      nonExhaustive fuel (bound ++ env) body
    | .block stmts tail _ =>
      let (errors, inner) := stmts.foldl (fun (acc : List Diagnostic × List (String × ValueType))
          (s : Stmt) =>
          let (errs, scope) := acc
          match s with
          | .binding pat ty init _ =>
            let found := (init.map (nonExhaustive fuel scope)).getD []
            let t := match ty, init with
              | some d, _ => ((annotatedType d).run {}).1
              | none, some x => settledType scope x .none
              | none, none => .error
            (errs ++ found, patternTypes pat t ++ scope)
          | .expr x _ _ => (errs ++ nonExhaustive fuel scope x, scope)
          | .constItem _ _ value _ => (errs ++ nonExhaustive fuel [] value, scope)
          | .fnItem _ params _ body _ =>
            let bound := params.flatMap fun (pat, ty) =>
              patternTypes pat ((ty.map fun t => ((annotatedType t).run {}).1).getD .error)
            (errs ++ nonExhaustive fuel bound body, scope)
          | .other _ => acc)
        ([], env)
      errors ++ (tail.map (nonExhaustive fuel inner)).getD []
    | _ => []

end GatherMap.Inline
