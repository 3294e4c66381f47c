import GatherMap.Inline.Expand
import GatherMap.Inline.Probes
import GatherMap.Inline.Library
import GatherMap.Inline.Exhaustive
import GatherMap.Code.Scan.Recover

/-!
# A program around an inline map

A program binds an inline map or keyset, then looks keys up in it:

```text
let value = map!{ INPUT };
let probes = [PROBE, …];
```

or binds it to an item, `static VALUE: TYPE = map!{ INPUT };` (or `const`). Compiling the
program goes through the compiler's passes in order, and the first pass that finds problems
ends it, with all the problems that pass found:

1. the macro expands; it reports syntax errors as one error, and its other problems after a
   stray placeholder call that the compiler stops at first;
2. names are resolved: the library path of the generated code, the item's declared type, and
   every name the values use;
3. types are checked (`Typing`): the values share one type, which must agree with the item's
   declared type, and an empty map bound by `let` leaves it open;
4. every `match` must cover its scrutinee's type (`Exhaustive`);
5. an item's values must be computable at compile time: no call of a function that is not
   constant, and no temporary that owns memory;
6. a local map borrows its values, so each must be a constant the compiler can promote: no
   calls, no branches, no division that might fail;
7. the values are evaluated (`Evaluate`): in a function body every overflow and certain panic
   is reported; an item's initializer stops at its first fault;
8. integer and floating-point literals must fit their types.

Then the keys looked up are read, resolved, checked and evaluated the same way, in a second
compilation; all their problems are reported at the call site. When both compile, running the
program shows the map and the slot each key finds.
-/

namespace GatherMap.Inline

open Code Grammar

/-- Where a program binds the macro's value. -/
inductive Binding where
  | local
  | static
  | constant
  deriving DecidableEq, Repr, Inhabited

/-- A program that binds an inline map or keyset and looks keys up in it. -/
structure Program where
  kind : Kind
  binding : Binding
  /-- The type an item declares after the library path, as written. -/
  declared : Option String
  /-- The macro input, as written. -/
  text : String
  /-- The keys looked up, as written. -/
  probes : List String
  deriving Inhabited

/-- What a program that compiles shows: the map with its values' texts, or the keyset, and the
raw keys it looks up. -/
inductive Shown where
  | map (keyType : KeyType) (m : Map String) (probes : List UInt64)
  | keyset (keyType : KeyType) (ks : Keyset) (probes : List UInt64)
  deriving Inhabited

/-- An error of the compiler outside the macro input. -/
def elsewhere (message : String) : Diagnostic := ⟨message, .callSite, .callSite⟩

/-- The error at the placeholder call that follows the macro's reported problems. -/
def strayCall : String :=
  "expected one of \x60.\x60, \x60;\x60, \x60?\x60, \x60\x7d\x60, or an operator, " ++
    "found \x60unimplemented\x60"

/-! ### Places in string literals -/

/-- The index in a string literal's source text of the character at index `k` of its value:
an escape takes several characters of the source, and a backslash before a line break takes
the blanks after it without giving any. -/
def sourceIndex : Nat → List Char → Nat → Nat
  | 0, _, _ => 0
  | fuel + 1, cs, k =>
    match cs, k with
    | _, 0 => 0
    | [], _ => 0
    | '\\' :: '\n' :: rest, _ =>
      let blanks := (rest.takeWhile fun c => c == ' ' || c == '\t' || c == '\n' || c == '\r').length
      2 + blanks + sourceIndex fuel (rest.drop blanks) k
    | '\\' :: 'x' :: rest, k + 1 => 4 + sourceIndex fuel (rest.drop 2) k
    | '\\' :: 'u' :: rest, k + 1 =>
      let body := (rest.takeWhile (· != '\x7d')).length + 1
      2 + body + sourceIndex fuel (rest.drop body) k
    | '\\' :: _ :: rest, k + 1 => 2 + sourceIndex fuel rest k
    | _ :: rest, k + 1 => 1 + sourceIndex fuel rest k

/-- The span of the characters `start` to `start + length` of the value of a string literal
token, within the token. -/
def valueSpan (literal : TokenTree) (start length : Nat) : Span :=
  match literal with
  | .literal text (.range lo _) =>
    let cs := text.toList
    let opening := (cs.takeWhile (· != '"')).length + 1
    let raw := cs.head? == some 'r'
    let body := cs.drop opening
    let index (k : Nat) : Nat := opening + (if raw then k else sourceIndex (cs.length + 1) body k)
    let bytes (n : Nat) : Nat := (String.ofList (cs.take n)).utf8ByteSize
    .range (lo + bytes (index start)) (lo + bytes (index (start + length)))
  | t => t.span

/-- The span of a name a format string takes from the scope: where the first placeholder that
names it writes the name. -/
def captureSpan (call : FormatCall) (name : String) : Span :=
  match formatPieces 0 call.text.toList with
  | some pieces =>
    match (references pieces).find? (fun r => r.value == .name name) with
    | some r => valueSpan call.literal (r.start + 1) name.length
    | none => call.literal.span
  | none => call.literal.span

/-! ### Names -/

/-- Names of types the program can cast to without declaring them. -/
def castableNames : List String := ["String", "Vec", "Box", "Option", "Result"]

/-- The errors for names a value uses that nothing declares, in the order they are written,
given the names bound by enclosing blocks. -/
def unresolvedNames : Nat → List String → Expr → List Diagnostic
  | 0, _, _ => []
  | fuel + 1, bound, e =>
    let within := unresolvedNames fuel bound
    let named (n : Named) : List Diagnostic :=
      match n with
      | .unresolved message span => [⟨message, span, span⟩]
      | _ => []
    match e with
    | .path false segments ts => named (namePath bound false false segments ts)
    | .call (.path false segments ts) args _ =>
      named (namePath bound true false segments ts) ++ args.flatMap within
    | .call callee args _ => within callee ++ args.flatMap within
    | .method receiver _ args _ => within receiver ++ args.flatMap within
    | .paren x _ | .reference x _ | .neg x _ | .unary _ x _ | .field x _ _ => within x
    | .cast x ty _ =>
      let typeErrors := match ty with
        | .path false p ts =>
          match p.segments, ts with
          | [s], .ident _ sp :: _ =>
            if (ValueType.primitive? s.name).isSome || castableNames.contains s.name then []
            else [⟨"cannot find type \x60" ++ s.name ++ "\x60 in this scope", sp, sp⟩]
          | _, _ => []
        | _ => []
      within x ++ typeErrors
    | .tuple xs _ | .array xs _ => xs.flatMap within
    | .repeated x c _ => within x ++ within c
    | .binary _ l r _ | .index l r _ => within l ++ within r
    | .range lo hi _ _ => (lo.map within).getD [] ++ (hi.map within).getD []
    | .block stmts tail _ =>
      -- the constants and functions of a block are seen in all of it
      let items := stmts.filterMap fun (s : Stmt) => match s with
        | .constItem name _ _ _ | .fnItem name _ _ _ _ => some name
        | _ => none
      let (errors, inner) := stmts.foldl (fun (acc : List Diagnostic × List String) (s : Stmt) =>
          let (errs, names) := acc
          match s with
          | .binding pat _ init _ =>
            (errs ++ (init.map (unresolvedNames fuel names)).getD [], patternNames pat ++ names)
          | .expr x _ _ => (errs ++ unresolvedNames fuel names x, names)
          | .constItem _ _ value _ => (errs ++ unresolvedNames fuel (items ++ bound) value, names)
          | .fnItem _ params _ body _ =>
            let own := params.flatMap fun (pat, _) => patternNames pat
            (errs ++ unresolvedNames fuel (own ++ items ++ bound) body, names)
          | .other _ => acc)
        ([], items ++ bound)
      errors ++ (tail.map (unresolvedNames fuel inner)).getD []
    | .ifElse c a b _ =>
      let names := match c with
        | .letCond pat _ _ => patternNames pat
        | _ => []
      within c ++ unresolvedNames fuel (names ++ bound) a ++ (b.map within).getD []
    | .letCond _ x _ => within x
    | .loop _ body _ => within body
    | .whileLoop _ c body _ =>
      let names := match c with
        | .letCond pat _ _ => patternNames pat
        | _ => []
      within c ++ unresolvedNames fuel (names ++ bound) body
    | .forLoop _ pat x body _ => within x ++ unresolvedNames fuel (patternNames pat ++ bound) body
    | .breakOut _ v _ => (v.map within).getD []
    | .closure params _ body _ =>
      unresolvedNames fuel ((params.flatMap fun (pat, _) => patternNames pat) ++ bound) body
    | .matchOn s arms _ =>
      within s ++ arms.flatMap fun arm =>
        match arm with
        | .arm pat guard body _ =>
          let names := patternNames pat ++ bound
          (guard.map (unresolvedNames fuel names)).getD [] ++ unresolvedNames fuel names body
    | .mac ts =>
      match macroParts ts with
      | some (name, inner) =>
        if knownMacros.contains name then
          if name == "vec" then
            match vecItems inner with
            | some (.list items) => items.flatMap within
            | some (.repeat x n) => within x ++ within n
            | none => []
          else if name == "format" then
            match formatArgs inner with
            | some call =>
              call.args.flatMap (fun (_, x) => within x) ++
                (call.captured.filter (!bound.contains ·)).map fun n =>
                  let sp := captureSpan call n
                  ⟨"cannot find value \x60" ++ n ++ "\x60 in this scope", sp, sp⟩
            | none => []
          else if name == "matches" then
            match matchesArgs inner with
            | some (x, pat, guard) =>
              within x ++ (guard.map (unresolvedNames fuel (patternNames pat ++ bound))).getD []
            | none => []
          else []
        else
          let span := (ts.find? fun t => match t with
            | .ident n _ => n == name
            | _ => false).map TokenTree.span
          let sp := span.getD .callSite
          [⟨"cannot find macro \x60" ++ name ++ "\x60 in this scope", sp, sp⟩]
      | none => []
    | _ => []

/-- The errors of expanding `concat!` with some arguments: a byte, byte string or C string
literal cannot be concatenated, each reported where it is; arguments that are not literals
(a numeric literal may be negated) are reported together after them, at the first. -/
def concatProblems (inner : Tokens) : List Diagnostic :=
  match runAll (commaArgs (fuelFor inner)) inner with
  | .error e => [⟨e.message, e.first, e.last⟩]
  | .ok args =>
    let at_ (x : Expr) (message : String) : Diagnostic :=
      let (a, b) := x.extent
      ⟨message, a, b⟩
    let (errors, missing) := args.foldl (fun (acc : List Diagnostic × List Expr) x =>
        let (errs, missing) := acc
        match x with
        | .lit (.byte _) _ | .lit (.byteStr _) _ =>
          (errs ++ [at_ x "cannot concatenate a byte string literal"], missing)
        | .lit (.cStr _) _ => (errs ++ [at_ x "cannot concatenate a C string literal"], missing)
        | .lit _ _ | .bool _ _ | .neg (.lit (.int _ _ _) _) _ | .neg (.lit (.float _) _) _ => acc
        | _ => (errs, missing ++ [x]))
      ([], [])
    errors ++ (missing.head?.map fun x => at_ x "expected a literal").toList

/-- The errors of a `format!` call whose placeholders and arguments do not agree: a
placeholder that takes an argument beyond the last, reported at the placeholders that take the
next argument or at those that name a position; then the arguments no placeholder takes. -/
def formatProblems (call : FormatCall) : List Diagnostic :=
  match formatPieces 0 call.text.toList with
  | none => []
  | some pieces =>
    let refs := references pieces
    let explicit := call.args.length
    let taken (r : Reference) : List ArgRef := [r.value] ++ r.width.toList ++ r.precision.toList
    let positions := refs.flatMap fun r => (taken r).filterMap fun a => match a with
      | .index i => some i
      | _ => none
    let names := refs.flatMap fun r => (taken r).filterMap fun a => match a with
      | .name n => some n
      | _ => none
    let placeholder (r : Reference) : Span := valueSpan call.literal r.start r.length
    let described := match explicit with
      | 0 => "no arguments were given"
      | 1 => "there is 1 argument"
      | n => "there are " ++ toString n ++ " arguments"
    let plural (n : Nat) (word : String) : String :=
      toString n ++ " " ++ word ++ (if n == 1 then "" else "s")
    let invalid := positions.filter (· ≥ explicit)
    let numbered := refs.any fun r =>
      (taken r).any (· matches .index _) && !r.implicit
    let invalidErrors : List Diagnostic :=
      if invalid.isEmpty then []
      else if !numbered then
        let implicit := refs.filter (·.implicit)
        let count := implicit.foldl (fun n r =>
          n + (if r.precision.isSome && r.implicit then 1 else 0) +
            (if r.value matches .index _ then 1 else 0)) 0
        let sp := (implicit.head?.map placeholder).getD call.literal.span
        [⟨plural count "positional argument" ++ " in format string, but " ++ described, sp, sp⟩]
      else
        let indexes := (invalid.mergeSort (· ≤ ·)).eraseDups
        let listed := match indexes.reverse with
          | [] => ""
          | [i] => toString i
          | last :: rest => ", ".intercalate (rest.reverse.map toString) ++ " and " ++ toString last
        let sp := ((refs.find? fun r => (taken r).any fun a => match a with
          | .index i => i ≥ explicit
          | _ => false).map placeholder).getD call.literal.span
        [⟨"invalid reference to positional argument" ++ (if indexes.length == 1 then " " else "s ") ++
          listed ++ " (" ++ described ++ ")", sp, sp⟩]
    let unused := (call.args.zipIdx.filter fun ((n, _), i) =>
      !positions.contains i && !(n.any names.contains)).map (·.1)
    let at_ (x : Expr) (message : String) : Diagnostic :=
      let (a, b) := x.extent
      ⟨message, a, b⟩
    let unusedErrors := match unused with
      | [] => []
      | [(n, x)] => [at_ x (if n.isSome then "named argument never used" else "argument never used")]
      | (_, x) :: _ => [at_ x "multiple unused formatting arguments"]
    invalidErrors ++ unusedErrors

/-- The errors of expanding the `concat!` and `format!` invocations in an expression, in
the order they are written. -/
def expansionErrors : Nat → Expr → List Diagnostic
  | 0, _ => []
  | fuel + 1, e =>
    let here := match e with
      | .mac ts =>
        match macroParts ts with
        | some ("concat", inner) => concatProblems inner
        | some ("format", inner) => ((formatArgs inner).map formatProblems).getD []
        | _ => []
      | _ => []
    here ++ e.children.flatMap (expansionErrors fuel)

/-- Whether a suffix names a numeric type. -/
def numericSuffix (suffix : String) : Bool :=
  (IntType.ofName? suffix).isSome || suffix == "f32" || suffix == "f64"

/-- The errors for literals the compiler cannot read: an unknown suffix, or an integer beyond
128 bits. -/
def literalProblems : Tokens → List Diagnostic
  | [] => []
  | .literal text sp :: rest =>
    let here (message : String) : List Diagnostic := [⟨message, sp, sp⟩]
    let problems :=
      -- a number the compiler could not read was reported as it was read
      if Code.Scan.Recover.malformedNumber text then [] else
      match Literal.classify text with
      | .int _ v suffix =>
        if !suffix.isEmpty && !numericSuffix suffix then
          here ("invalid suffix \x60" ++ suffix ++ "\x60 for number literal")
        else if v ≥ Nat.pow 2 128 then here "integer literal is too large"
        else []
      | .float suffix =>
        if !suffix.isEmpty && suffix != "f32" && suffix != "f64" then
          here ("invalid suffix \x60" ++ suffix ++ "\x60 for float literal")
        else []
      | _ => []
    problems ++ literalProblems rest
  | .group _ inner _ :: rest => literalProblems inner ++ literalProblems rest
  | _ :: rest => literalProblems rest

/-! ### Types -/

/-- Check the values of a map, in slot order, as the elements of one array; then make their
type agree with `declared`, the value type an item declares. Returns the values' type. -/
def checkValues (values : List Expr) (declared : Option ValueType) (keyAgrees : Bool) :
    Infer ValueType := do
  let v ← Infer.fresh (.general)
  let mut diverges := false
  for x in values do
    let t ← check (fuelFor x.tokens) [] x (.has v)
    if t matches .never then diverges := true
    unless ← Infer.unify t v do
      let (a, b) := x.extent
      Infer.emit "mismatched types" a b
  if let some d := declared then
    unless keyAgrees && (← Infer.unify v d) do
      Infer.emit "mismatched types" .callSite .callSite
  -- a value type that only values that never produce one constrain falls back to `()`
  if diverges && (← Infer.zonk v) matches .var _ then
    discard <| Infer.unify v .unit
  Infer.zonk v

/-- What writing a type out in an annotation costs, as the compiler weighs the places where it
could ask for one: nothing for a variable, a little for a scalar, more for each type
constructor with its arguments (arguments left at their defaults not counted), and much more
for the type of a function item. -/
def annotationCost : Nat → ValueType → Nat
  | 0, _ => 0
  | fuel + 1, t =>
    let cost := annotationCost fuel
    match t with
    | .var _ | .intVar _ | .floatVar _ => 0
    | .fnItem _ | .named "fn" _ => 150
    | .named "AnyKeyset" [key, counter] =>
      5 + cost key + (if counter.shown == "Natural" then 0 else cost counter)
    | .named "Vec" (x :: _) | .named "Box" (x :: _) => 5 + cost x
    | .named _ xs | .tuple xs => xs.foldl (fun total x => total + cost x) 5
    | .ref x => 2 + cost x
    | _ => 1

/-- Whether a type mentions a variable, after following bindings. -/
def mentionsVar (bindings : Array (Option ValueType)) (i : Nat) (t : ValueType) : Bool :=
  let rec go : Nat → ValueType → Bool
    | 0, _ => false
    | fuel + 1, u =>
      match followWith bindings bindings.size u with
      | .var j => j == i
      | .tuple xs | .named _ xs => xs.any (go fuel)
      | .array x _ | .slice x | .ref x => go fuel x
      | _ => false
  go (bindings.size + 32) t

/-- Settle the open variables and check what waits for them; then, when nothing else is
wrong (`reported` tells whether an earlier pass found problems), report a type left open.
The report points at the cheapest place to annotate: a path whose generic arguments mention
the variable, or the binding itself, whose message and cost `binding` gives for the settled
type; a path found earlier wins a tie, and the binding, looked at last, wins only when it is
cheaper. -/
def settle (t : ValueType) (reported : Bool) (binding : ValueType → String × Nat) :
    Infer ValueType := do
  let s ← get
  for (u, first, last) in s.negations do
    match ← Infer.zonk u with
    | .int it =>
      unless it.signed do
        Infer.emit ("the trait bound \x60" ++ it.name ++ ": Neg\x60 is not satisfied") first last
    | _ => pure ()
  modify fun s => { s with negations := #[] }
  Infer.fallBack
  checkDeferred
  let s ← get
  let settled ← Infer.zonk t
  if s.errors.isEmpty && !reported then
    match openVar? s.bindings (s.bindings.size + 32) settled with
    | some i =>
      let fuel := s.bindings.size + 32
      let weigh (site : ArgumentSite) : Nat :=
        site.args.foldl (fun total a => total + annotationCost fuel (zonkWith s.bindings fuel a))
          site.base
      let best := s.sites.toList.foldl (fun (acc : Option (ArgumentSite × Nat)) site =>
          if site.args.any (mentionsVar s.bindings i) then
            let c := weigh site
            match acc with
            | some (_, bc) => if c < bc then some (site, c) else acc
            | none => some (site, c)
          else acc)
        none
      let (message, letCost) := binding settled
      match best with
      | some (site, c) =>
        if letCost < c then Infer.emit message .callSite .callSite
        else Infer.emit "type annotations needed" site.first site.last
      | none => Infer.emit message .callSite .callSite
    | none => pure ()
  return settled

/-! ### Items: constant evaluation -/

/-- The type a method's receiver has as `self` for a method taking `&self`: a reference is
looked through when the type behind it has the method. -/
def receiverSelf (t : ValueType) (unsizedOk : Bool) : ValueType :=
  match t with
  | .ref .str => if unsizedOk then .str else t
  | .ref u => u
  | u => u

/-- The calls in an expression of type `t` that a constant cannot make, in the order they run,
given the functions enclosing blocks define and whether each is `const`; `place` is
"statics" or "constants". -/
def nonConstCalls (place : String) : Nat → List (String × Bool) → Expr → ValueType →
    List Diagnostic
  | 0, _, _, _ => []
  | fuel + 1, fns, e, t =>
    let recur := nonConstCalls place fuel fns
    let settled (x : Expr) : ValueType := settledType [] x .none
    let within (x : Expr) : List Diagnostic := recur x (settled x)
    let whole (what : String) : List Diagnostic :=
      let (a, b) := e.extent
      [⟨"cannot call non-const " ++ what ++ " in " ++ place, a, b⟩]
    -- a call of a trait's function that is constant only under a feature of the compiler
    let conditional (what trait : String) : List Diagnostic :=
      let (a, b) := e.extent
      [⟨"cannot call conditionally-const associated function \x60" ++ what ++ "\x60 in " ++ place,
        a, b⟩, ⟨"\x60" ++ trait ++ "\x60 is not yet stable as a const trait", a, b⟩]
    match e with
    | .paren x _ => recur x t
    | .reference x _ =>
      match t with
      | .ref u => recur x u
      | _ => within x
    | .neg x _ | .unary _ x _ => recur x t
    | .tuple xs _ =>
      match t with
      | .tuple ts => (xs.zip ts).flatMap fun (x, u) => recur x u
      | _ => xs.flatMap within
    | .array xs _ =>
      match t with
      | .array u _ => xs.flatMap fun x => recur x u
      | _ => xs.flatMap within
    | .repeated x _ _ =>
      match t with
      | .array u _ => recur x u
      | _ => within x
    | .binary op l r _ =>
      let u := operandType [] l r
      let inner := recur l u ++ recur r u
      let overloaded := !(u.isScalar || u.isError) && op != "&&" && op != "||"
      inner ++ (if overloaded then whole "operator" else [])
    | .cast x _ _ => within x
    | .index b i _ => within b ++ recur i (.int .usize)
    | .field b _ _ => within b
    | .block stmts tail _ =>
      let inner := (stmts.filterMap fun s => match s with
        | .fnItem name _ _ _ _ => some (name, s.isConstFn)
        | _ => none) ++ fns
      let recurInner := nonConstCalls place fuel inner
      stmts.flatMap (fun s => match s with
        | .binding _ _ (some init) _ => recurInner init (settled init)
        | .expr x _ _ => recurInner x (settled x)
        | _ => []) ++ (tail.map (recurInner · t)).getD []
    | .loop _ body _ | .whileLoop _ _ body _ => within body
    | .call (.paren (.closure _ _ _ _) _) args _ | .call (.closure _ _ _ _) args _ =>
      let (a, b) := e.extent
      args.flatMap within ++ [⟨"cannot call non-const closure in " ++ place, a, b⟩]
    | .breakOut _ (some v) _ => within v
    | .ifElse c a b _ => within c ++ recur a t ++ (b.map (recur · t)).getD []
    | .matchOn s arms _ =>
      -- a string pattern is compared by a trait's method, which constants cannot call yet
      let comparisons := arms.flatMap fun arm =>
        match arm with
        | .arm _ _ _ ts =>
          (ts.takeWhile fun tok => !(tok matches .punct '=' _ _)).flatMap fun tok =>
            match tok with
            | .literal text sp =>
              if Literal.classify text matches .str _ then
                [⟨"cannot match on \x60str\x60 in " ++ place, sp, sp⟩,
                  ⟨"\x60PartialEq\x60 is not yet stable as a const trait", sp, sp⟩]
              else []
            | _ => []
      within s ++ comparisons ++ arms.flatMap fun arm =>
        match arm with
        | .arm _ _ body _ => recur body t
    | .range lo hi _ _ =>
      let item := match t with
        | .named _ [u] => u
        | _ => .error
      (lo.map (recur · item)).getD [] ++ (hi.map (recur · item)).getD []
    | .call (.path _ segments ts) args _ =>
      let argErrors := args.flatMap within
      match namePath (fns.map (·.1)) true false segments ts, args with
      | .binding name, _ =>
        if (fns.lookup name).getD true then argErrors
        else argErrors ++ whole ("function \x60VALUE::" ++ name ++ "\x60")
      | .function .some, [a] =>
        match t with
        | .named "Option" [u] => recur a u
        | _ => argErrors
      | .function .stringFrom, [a] =>
        argErrors ++ whole ("associated function \x60<String as From<" ++ (settled a).shown ++
          ">>::from\x60")
      | .function .boxNew, [a] =>
        argErrors ++ whole ("associated function \x60Box::<" ++ (settled a).shown ++ ">::new\x60")
      | .function (.convert target), [a] =>
        argErrors ++ conditional ("<" ++ target.shown ++ " as From<" ++ (settled a).shown ++
          ">>::from") "From"
      | .function (.library f), _ =>
        let source := match args with
          | [a] => (settled a).shown
          | _ => "_"
        argErrors ++ if f.const then [] else match f with
          | .defaultOf ty => conditional ("<" ++ ty.shown ++ " as Default>::default") "Default"
          | .tryConvert it =>
            conditional ("<" ++ it.name ++ " as TryFrom<" ++ source ++ ">>::try_from") "TryFrom"
          | .vecWithCapacity =>
            let element := match t with
              | .named "Vec" [u] => u.shown
              | _ => "_"
            whole ("associated function \x60Vec::<" ++ element ++ ">::with_capacity\x60")
          | .vecFrom =>
            whole ("associated function \x60<" ++ t.shown ++ " as From<" ++ source ++ ">>::from\x60")
          | .stringWithCapacity => whole "associated function \x60String::with_capacity\x60"
          | _ => []
      | _, _ => argErrors
    | .method recv name args ts =>
      let rt := settled recv
      let inner := within recv ++ args.flatMap within
      let nameTokens := ts.drop (recv.tokens.length + 1)
      let here (what : String) : List Diagnostic :=
        [⟨"cannot call non-const method \x60" ++ what ++ "\x60 in " ++ place, firstSpan nameTokens,
          lastSpan nameTokens⟩]
      let selfOf (unsizedOk : Bool) := (receiverSelf rt unsizedOk).shown
      let scalar : Option (String × ScalarMethod) := match rt with
        | .char => (charMethod? name).map fun m => ("core::char::methods::<impl char>::", m)
        | .float single =>
          let ty := if single then "f32" else "f64"
          (floatMethod? single name).map fun m =>
            ((if m.const then "core::" else "std::") ++ ty ++ "::<impl " ++ ty ++ ">::", m)
        | .named "Option" [u] =>
          ((optionMethods u).find? (·.name == name)).map fun m => ("Option::<" ++ u.shown ++ ">::", m)
        | .named "Result" [u, err] =>
          ((resultMethods u err).find? (·.name == name)).map fun m =>
            ("Result::<" ++ u.shown ++ ", " ++ err.shown ++ ">::", m)
        | .ref .str | .named "String" [] | .ref (.named "String" []) =>
          (strMethod? name).map fun m =>
            ((if name.startsWith "to_" || name == "replace" || name == "repeat" then "alloc"
              else "core") ++ "::str::<impl str>::", m)
        | _ => none
      inner ++ match scalar with
      | some (owner, m) => if m.const then [] else here (owner ++ name)
      | none =>
      match name with
        | "to_string" => here ("<" ++ selfOf true ++ " as ToString>::to_string")
        | "to_owned" => here ("<" ++ selfOf true ++ " as ToOwned>::to_owned")
        | "clone" => here ("<" ++ selfOf false ++ " as Clone>::clone")
        | "into" => here ("<" ++ rt.shown ++ " as Into<" ++ t.shown ++ ">>::into")
        | "min" | "max" => here ("<" ++ selfOf false ++ " as Ord>::" ++ name)
        | _ => []
    | .mac ts =>
      match macroParts ts with
      | some ("vec", inner) =>
        let element := match t with
          | .named "Vec" [u] => u
          | _ => .error
        match vecItems inner with
        | some (.list []) => []
        | some (.list items) =>
          [elsewhere "\x60Box::<T>::new_uninit\x60 is not yet stable as a const fn"] ++
            items.flatMap (recur · element) ++
            [elsewhere ("\x60std::boxed::box_assume_init_into_vec_unsafe\x60 " ++
              "is not yet stable as a const fn")]
        | some (.repeat x _) =>
          recur x element ++
            [elsewhere ("cannot call non-const function \x60std::vec::from_elem::<" ++
              element.shown ++ ">\x60 in " ++ place)]
        | none => []
      | some ("format", inner) =>
        let (a, b) := e.extent
        (((formatArgs inner).map (·.args)).getD []).flatMap (fun (_, x) => within x) ++
          [⟨"cannot call non-const function \x60std::fmt::format\x60 in " ++ place, a, b⟩]
      | _ => []
    | _ => []

/-- Whether building a value makes a temporary that owns memory: a call that returns an owned
string, vector or box, or an aggregate holding one. -/
def ownsTemporary : Nat → Expr → Bool
  | 0, _ => false
  | fuel + 1, e =>
    let recur := ownsTemporary fuel
    match e with
    | .paren x _ | .reference x _ => recur x
    | .tuple xs _ | .array xs _ => xs.any recur
    | .repeated x _ _ => recur x
    | .block _ (some x) _ => recur x
    | .call (.path _ segments ts) args _ =>
      match namePath [] true false segments ts with
      | .function .some | .function .ok | .function .err => args.any recur
      | .function .stringFrom | .function .stringNew | .function .vecNew
      | .function .boxNew | .function (.library .vecWithCapacity)
      | .function (.library .vecFrom) | .function (.library .stringWithCapacity) => true
      | _ => false
    | .method _ name _ _ =>
      ["to_string", "to_owned", "into", "clone"].contains name ||
        (strMethod? name).any (·.result matches .named "String" [])
    | .mac ts =>
      match macroParts ts with
      | some ("vec", _) | some ("format", _) => true
      | _ => false
    | _ => false

/-- The number of `__vec![…]` calls with elements in generated code: each builds an owned
vector. -/
def ownedVectors : Tokens → Nat
  | [] => 0
  | .ident "__vec" _ :: .punct '!' _ _ :: .group .bracket (_ :: _) _ :: rest =>
    1 + ownedVectors rest
  | .group _ inner _ :: rest => ownedVectors inner + ownedVectors rest
  | _ :: rest => ownedVectors rest

/-! ### Local maps: promotion -/

/-- The integer an operand is in MIR, when it is a constant: a literal, possibly negated or in
parentheses, or a named constant. -/
def constantOperand (t : ValueType) : Expr → Option Int
  | .lit (.int neg v _) _ =>
    let value : Int := if neg then -(v : Int) else v
    match t with
    | .int it => some (it.wrap value)
    | _ => some value
  | .paren x _ => constantOperand t x
  | .neg (.lit (.int _ v _) _) _ =>
    match t with
    | .int it => some (it.wrap (-(v : Int)))
    | _ => some (-(v : Int))
  | .neg (.paren (.lit (.int _ v _) _) _) _ =>
    match t with
    | .int it => some (it.wrap (-(v : Int)))
    | _ => some (-(v : Int))
  | .path _ segments ts =>
    match namePath [] false false segments ts with
    | .constant _ (.int _ v) => some v
    | _ => none
  | _ => none

/-- Whether the compiler promotes a borrowed value to a constant: literals, named constants,
constructors, tuples, arrays, ranges, casts, field and in-bounds array accesses, blocks of one
expression and operations that cannot fail over such values. Calls, method calls, branches,
short-circuit operators, overloaded operators and a division whose divisor is not a known
non-zero constant are not promoted; in the initializer of an item (`inItem`), calls of
constant functions are, those enclosing blocks define (`constFns`) among them. Items in a
block are no part of its value. -/
def promotable (inItem : Bool) : Nat → List String → Expr → Bool
  | 0, _, _ => false
  | fuel + 1, constFns, e =>
    let recur := promotable inItem fuel constFns
    match e with
    | .lit _ _ | .bool _ _ => true
    | .path _ segments ts =>
      match namePath [] false false segments ts with
      | .binding _ => false
      | _ => true
    | .paren x _ | .reference x _ | .neg x _ | .unary _ x _ | .cast x _ _ | .field x _ _ =>
      recur x
    | .tuple xs _ | .array xs _ => xs.all recur
    | .repeated x c _ => recur x && recur c
    | .range lo hi _ _ => lo.all recur && hi.all recur
    | .binary op l r _ =>
      if op == "&&" || op == "||" then false
      else
        let u := operandType [] l r
        if !u.isScalar then false
        else if (op == "/" || op == "%") && u.isIntegral then
          match constantOperand u r with
          | some d =>
            d != 0 && recur l && recur r &&
              (match u with
                | .int it =>
                  if it.signed && d == -1 then
                    match constantOperand u l with
                    | some n => n != it.min
                    | none => false
                  else true
                | _ => true)
          | none => false
        else recur l && recur r
    | .index b i _ =>
      match settledType [] b .none, constantOperand (.int .usize) i with
      | .array _ n, some k => recur b && 0 ≤ k && k < n
      | _, _ => false
    | .block stmts tail _ =>
      let isConst := match e.tokens.head? with
        | some (.ident "const" _) => true
        | _ => false
      let items := stmts.filterMap fun s => match s with
        | .fnItem name _ _ _ _ => if s.isConstFn then some name else none
        | _ => none
      let onlyItems := stmts.all fun s => s matches .fnItem .. || s matches .constItem ..
      isConst || (onlyItems && tail.all (promotable inItem fuel (items ++ constFns)))
    | .matchOn _ [.arm .wild none body _] _ => recur body
    -- a loop left by one `break` gives the value it breaks with
    | .loop _ (.block [] (some (.breakOut _ (some v) _)) _) _
    | .loop _ (.block [.expr (.breakOut _ (some v) _) _ _] none _) _ => recur v
    | .call (.path _ segments ts) args _ =>
      match namePath constFns true false segments ts with
      | .binding _ => inItem && args.all recur
      | .function .some | .function .ok | .function .err => args.all recur
      | .function (.limit _ _) => inItem
      | .function (.library f) => inItem && f.const && args.all recur
      | _ => false
    | .method receiver name args _ =>
      let constMethod := match settledType [] receiver .none with
        | .named "Option" [u] => ((optionMethods u).find? (·.name == name)).any (·.const)
        | .named "Result" [u, err] => ((resultMethods u err).find? (·.name == name)).any (·.const)
        | .char => (charMethod? name).any (·.const)
        | .float single => (floatMethod? single name).any (·.const)
        | .int it => integerMethods.contains name || (it == .u8 && (byteMethod? name).isSome)
        | _ => integerMethods.contains name || name == "len" || name == "is_empty"
      inItem && constMethod && recur receiver && args.all recur
    | .mac ts =>
      match macroParts ts with
      | some (name, _) => stringMacros.contains name
      | none => false
    | _ => false

/-! ### Evaluation -/

/-- Evaluate values of one type; `everywhere` as for `eval`. -/
def evalAll (everywhere : Bool) (values : List (Expr × ValueType)) :
    List (Option Constant) × Findings :=
  (values.mapM fun (v : Expr × ValueType) => evaluate everywhere v.1 v.2).run {}

/-- The structural text of a value, or its tokens as written when it cannot be evaluated. -/
def valueText (e : Expr) (t : ValueType) : String :=
  match (evaluate false e t).run {} with
  | (some v, _) => v.debugText
  | (none, _) => TokenTree.renderAll e.tokens

/-- The raw key of a constant of a key type. -/
def rawKey (k : KeyType) : Constant → Option UInt64
  | .int _ i => k.encode? (.int i)
  | .bool b => k.encode? (.bool b)
  | .char c => k.encode? (.char c)
  | _ => none

/-! ### Compiling -/

/-- The type of the value the macro makes: a map from the key type to `v`, or a keyset. -/
def madeType (kind : Kind) (k : KeyType) (v : ValueType) : ValueType :=
  let keyset := ValueType.named "AnyKeyset" [.ofKeyType k, naturalType]
  match kind with
  | .map => .named "Map" [keyset, v]
  | .keyset => keyset

/-- Whether a declared keyset type is the keyset the macro makes for the key type; a part the
compiler could not resolve agrees with anything. -/
def keysetFits (k : KeyType) : ValueType → Bool
  | .error => true
  | .named "AnyKeyset" [key, counter] =>
    (key.isError || (ValueType.ofKeyType k).shown == key.shown) &&
      (counter.isError || counter.shown == naturalType.shown)
  | _ => false

/-- Whether a declared type is the type the macro makes, for the key type: the declared
value type when it is (`none` when there is none to check), and `none` when it is not. -/
def declaredValue (kind : Kind) (k : KeyType) : ValueType → Option (Option ValueType)
  | .error => some none
  | .named "Map" [ks, v] => if kind == .map && keysetFits k ks then some (some v) else none
  | ks => if kind == .keyset && keysetFits k ks then some none else none

/-- The message for a map whose value type only an annotation could fix. -/
def annotationsNeeded (k : KeyType) (v : ValueType) : String :=
  "type annotations needed for \x60pextmap::Map<AnyKeyset<" ++ k.name ++ ">, " ++ v.shown ++ ">\x60"

/-- The problems of the keys a program looks up, in the compiler's passes, all at the call
site; or their raw keys. -/
def probeKeys (k : KeyType) (probes : List String) : Except (List Diagnostic) (List UInt64) :=
  match readProbes probes with
  | .error messages => .error (messages.map elsewhere)
  | .ok ⟨exprs, count⟩ =>
    let written := exprs ++ count.toList
    let names := written.flatMap (unresolvedNames 64 []) ++
      written.flatMap fun x => literalProblems x.tokens
    let keyType := ValueType.ofKeyType k
    let countType := ValueType.int .usize
    let act : Infer ValueType := do
      let element ← Infer.fresh (.general)
      for x in exprs do
        let t ← check (fuelFor x.tokens) [] x (.has element)
        unless ← Infer.unify t element do Infer.emit "mismatched types" .callSite .callSite
      unless ← Infer.unify element keyType do Infer.emit "mismatched types" .callSite .callSite
      for c in count.toList do
        let t ← check (fuelFor c.tokens) [] c (.has countType)
        unless ← Infer.unify t countType do Infer.emit "mismatched types" .callSite .callSite
      settle element (!names.isEmpty) fun u => ("type annotations needed", annotationCost 64 u)
    let (_, state) := act.run {}
    let typeErrors := state.errors.toList
    let moved (ds : List Diagnostic) : List Diagnostic := ds.map fun d => elsewhere d.message
    if !names.isEmpty || !typeErrors.isEmpty then .error (moved (names ++ typeErrors)) else
    let matchErrors := written.flatMap fun x => nonExhaustive (fuelFor x.tokens) [] x
    if !matchErrors.isEmpty then .error (moved matchErrors) else
    let (vals, found) := evalAll true (exprs.map (·, keyType) ++ count.toList.map (·, countType))
    let errors := found.faults.toList.map (fun f => elsewhere f.lint) ++ moved found.lints.toList
    if !errors.isEmpty then .error errors else
    let keys := (vals.take exprs.length).filterMap fun v => v.bind (rawKey k)
    match count, vals.drop exprs.length with
    | some _, [some (.int _ n)] => .ok ((List.range n.toNat).flatMap fun _ => keys)
    | _, _ => .ok keys

/-- Whether a type as written has the placeholder `_`, which an item's type may not have. -/
def hasPlaceholder (text : String) : Bool :=
  let rec within : Tokens → Bool
    | [] => false
    | .ident "_" _ :: _ => true
    | .group _ inner _ :: rest => within inner || within rest
    | _ :: rest => within rest
  match scan .strict text with
  | .ok tokens => within tokens
  | .error _ => false

/-- What reading the macro input reports besides its tokens: the errors found as it is read,
and the identifiers with emoji, which are reported once names are resolved. -/
structure Reading where
  errors : List Diagnostic
  late : List Diagnostic
  deriving Inhabited

/-- Read the macro input as the compiler does: its tokens and what the reading reports, or the
errors that stop the compiler before the macro runs: a literal or comment left open, or
delimiters that do not match. The input stands between the braces of the macro call; a program
that binds it with `let` goes on in \x60main\x60 with the probes' brackets and a call. -/
def readInput (binding : Binding) (text : String) : Except (List Diagnostic) (Tokens × Reading) :=
  let read := Code.readRecovering text
  let errors := read.errors.toList.map fun (m, sp) => (⟨m, sp, sp⟩ : Diagnostic)
  let late := read.emoji.toList.foldl (fun (acc : List (String × Span)) (name, sp) =>
    if acc.any (·.1 == name) then acc else acc ++ [(name, sp)]) []
  let late := late.map fun (name, sp) =>
    (⟨"identifiers cannot contain emoji: \x60" ++ name ++ "\x60", sp, sp⟩ : Diagnostic)
  match read.fatal with
  | some (m, sp) => .error (errors ++ [⟨m, sp, sp⟩])
  | none =>
    let pieces := read.pieces.toList
    match Code.Scan.Recover.assemble pieces with
    | some tokens => .ok (tokens, ⟨errors, late⟩)
    | none =>
      let after := if binding == .local then ['\x7d', '[', ']', '(', ')', '\x7d']
        else ['\x7d', '\x7b', '[', ']', '(', ')', '\x7d']
      let stack := if binding == .local then ['\x7b', '\x7b'] else ['\x7b']
      let message := (matchDelimiters (Code.Scan.Recover.delimiters pieces ++ after) stack none).getD
        "this file contains an unclosed delimiter"
      .error (errors ++ [elsewhere message])

/-- The errors of compiling the binding of a macro's value, and the values' type. -/
def valueErrors (p : Program) (out : Outcome) (k : KeyType) (o : Options) (reading : Reading)
    (values : List Expr) : List Diagnostic × ValueType :=
  let item := p.binding != .local
  -- names
  let pathErrors := match o.cratePath with
    | some path =>
      libraryPathErrors path (importHeads path.tokens out.tokens)
        (if p.kind == .map then "AutoMap" else "AnyKeyset")
    | none => []
  let decl : Resolved :=
    if item then
      match p.declared with
      | some text => declaredType text
      | none => { type := .tuple [] }
    else { type := .error }
  let declared := decl.type
  let nameErrors := values.flatMap (unresolvedNames 64 []) ++
    values.flatMap fun x => literalProblems x.tokens
  let placeholder : List Diagnostic :=
    match p.declared with
    | some text =>
      if item && hasPlaceholder text then
        [elsewhere ("the placeholder \x60_\x60 is not allowed within types on item signatures for " ++
          (if p.binding == .static then "static variables" else "constants"))]
      else []
    | none => []
  let expansion := values.flatMap fun x => expansionErrors (fuelFor x.tokens) x
  let resolution := expansion ++ pathErrors ++ decl.unresolved ++ nameErrors ++ reading.late ++
    decl.arity ++ placeholder
  -- types
  let fits := declaredValue p.kind k declared
  let act : Infer ValueType :=
    match p.kind with
    | .keyset => do
      if item && fits.isNone then Infer.emit "mismatched types" .callSite .callSite
      return .tuple []
    | .map => do
      let v ← checkValues values (if item then some (fits.join.getD .error) else none)
        (fits.isSome || !item)
      settle v (!resolution.isEmpty || !reading.errors.isEmpty) fun u =>
        (annotationsNeeded k u, annotationCost 64 (madeType .map k u))
  let (v, state) := act.run {}
  let typeErrors := state.errors.toList
  if !resolution.isEmpty || !typeErrors.isEmpty then (resolution ++ typeErrors, v) else
  let matchErrors := values.flatMap fun x => nonExhaustive (fuelFor x.tokens) [] x
  if !matchErrors.isEmpty then (matchErrors, v) else
  let place := if p.binding == .static then "statics" else "constants"
  let typed := values.map fun x => (x, v)
  -- constant evaluation of an item
  let constErrors :=
    if !item then []
    else if o.mutable then
      let vectors := ownedVectors out.tokens
      let pair := [elsewhere "\x60Box::<T>::new_uninit\x60 is not yet stable as a const fn",
        elsewhere ("\x60std::boxed::box_assume_init_into_vec_unsafe\x60 " ++
          "is not yet stable as a const fn")]
      let valueCalls := values.flatMap fun x => nonConstCalls place (fuelFor x.tokens) [] x v
      (List.range (vectors - 1)).flatMap (fun _ => pair) ++
        (if vectors > 0 then pair.take 1 ++ valueCalls ++ pair.drop 1 else valueCalls)
    else
      let calls := values.flatMap fun x => nonConstCalls place (fuelFor x.tokens) [] x v
      let drops := v.ownsMemory && values.any (fun x => ownsTemporary (fuelFor x.tokens) x)
      calls ++ (if drops then
        [elsewhere ("destructor of \x60" ++ (ValueType.array v values.length).shown ++
          "\x60 cannot be evaluated at compile-time")] else [])
  if !constErrors.isEmpty then (constErrors, v) else
  -- borrowing
  if !o.mutable && !values.all (fun x => promotable item (fuelFor x.tokens) [] x) then
    ([elsewhere "temporary value dropped while borrowed"], v) else
  -- evaluation
  let (_, found) := evalAll (!item) typed
  let faults := found.faults.toList
  if item then
    match faults with
    | f :: _ => ([⟨f.message, f.first, f.last⟩], v)
    | [] => (found.lints.toList, v)
  else ((faults.filter (!·.lint.isEmpty)).map (fun f => ⟨f.lint, f.first, f.last⟩) ++
    found.lints.toList, v)

/-- Compile and run a program: the errors of its compilation, or what it shows. -/
def Program.run (p : Program) : Except (List Diagnostic) Shown :=
  match readInput p.binding p.text with
  | .error ds => .error ds
  | .ok (tokens, reading) =>
  let early := reading.errors
  let out := outcome p.kind tokens
  match out with
  | .syntaxError e => .error (early ++ ⟨e.message, e.first, e.last⟩ :: reading.late)
  | .failed ds => .error (early ++ elsewhere strayCall :: ds ++ reading.late)
  | .keyset o k ks =>
    match early ++ (valueErrors p out k o reading []).1 with
    | e :: es => .error (e :: es)
    | [] =>
      match probeKeys k p.probes with
      | .error ds => .error ds
      | .ok raws => .ok (.keyset k ks raws)
  | .map o k m =>
    let values := m.values.toList
    let (errors, v) := valueErrors p out k o reading values
    match early ++ errors with
    | e :: es => .error (e :: es)
    | [] =>
      match probeKeys k p.probes with
      | .error ds => .error ds
      | .ok raws =>
        .ok (.map k { keyset := m.keyset, values := m.values.map (valueText · v) } raws)

end GatherMap.Inline
