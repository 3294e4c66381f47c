import GatherMap.Inline.Input

/-!
# Evaluating and typing the keys of an inline map

A key expression is evaluated at compile time. It may be an integer literal with an optional
integer-type suffix, a byte, `true` or `false`, a character, an expression in parentheses, a
negated integer (which keeps its type), or `T::MIN` / `T::MAX` of a key type (`bool` has
neither; `char::MIN` is `'\0'`). Integers are evaluated as 128-bit signed numbers: a literal
that does not fit is "too large integer". Every other expression is reported.

The key type is the `for` option's, else the type of the first key that has one; unsuffixed
integers have none. Then every key is checked against it: a key of another type, or an integer
out of the type's range, is reported. Every key is evaluated and checked, so one input can
report several problems; they are reported in the order they are found.
-/

namespace GatherMap.Inline

open Code

/-- A problem the macro reports, over the span from `first` to `last`. -/
structure Diagnostic where
  message : String
  first : Span
  last : Span
  deriving Repr, Inhabited

/-- A computation that may report diagnostics, kept in the order they are reported. -/
abbrev Report := StateM (List Diagnostic)

/-- Report a problem over a span. -/
def emitAt (message : String) (span : Span) : Report Unit :=
  modify (· ++ [⟨message, span, span⟩])

/-- Report a problem over tokens, from the first to the last. -/
def emitOver (message : String) (tokens : Tokens) : Report Unit :=
  let first := (tokens.head?.map TokenTree.span).getD .callSite
  let last := (tokens.getLast?.map TokenTree.span).getD .callSite
  modify (· ++ [⟨message, first, last⟩])

/-- An evaluated key: its value, the type its expression fixes if any, and where it is. -/
structure TypedKey where
  value : KeyValue
  type : Option KeyType
  span : Span
  deriving Repr, Inhabited

/-- The span of the first of some tokens. -/
def firstSpan (tokens : Tokens) : Span := (tokens.head?.map TokenTree.span).getD .callSite

/-- The span of the last of some tokens. -/
def lastSpan (tokens : Tokens) : Span := (tokens.getLast?.map TokenTree.span).getD .callSite

/-- The message for a key expression of an unsupported kind. -/
def unsupportedExpression : String :=
  "unsupported expression\nkeys must be integer, \x60bool\x60 or \x60char\x60 literals"

/-- The message for a path that is no `T::MIN` or `T::MAX`. -/
def unsupportedPath (path : Option String) : String :=
  let shown := match path with
    | some p => " \x60" ++ p ++ "\x60"
    | none => ""
  "unsupported path" ++ shown ++
    "\nonly \x60MIN\x60 and \x60MAX\x60 of primitive types are supported"

/-- The value of `T::MIN` or `T::MAX` for a key type's name and a constant's name. -/
def constantValue (typeName constant : String) : Option (KeyValue × KeyType) :=
  match KeyType.ofName? typeName with
  | some .char =>
    if constant == "MIN" then some (.char (Char.ofNat 0), .char)
    else if constant == "MAX" then some (.char (Char.ofNat 0x10FFFF), .char)
    else none
  | some .bool => none
  | some t =>
    if constant == "MIN" then some (.int t.minInt, t)
    else if constant == "MAX" then some (.int t.maxInt, t)
    else none
  | none => none

/-- The value of a path written `T::C…`: the text before the first `::` names the type, and
everything after it the constant. -/
def pathConstant (path : String) : Option (KeyValue × KeyType) :=
  match path.splitOn "::" with
  | typeName :: rest@(_ :: _) => constantValue typeName ("::".intercalate rest)
  | _ => none

/-- Evaluate a literal key; `tokens` are the key's tokens, the literal last. -/
def evalLiteral (lit : Literal) (tokens : Tokens) : Report (Option TypedKey) := do
  let span := firstSpan tokens
  let litTokens := tokens.getLast?.toList
  match lit with
  | .int _ v suffix =>
    let type? ← if suffix.isEmpty then pure (some none)
      else match KeyType.ofName? suffix with
        | some t => pure (some (some t))
        | none => do
          emitOver ("unsupported integer type \x60" ++ suffix ++ "\x60") litTokens
          pure none
    match type? with
    | none => return none
    | some type =>
      if v ≥ Nat.pow 2 127 then
        emitOver "too large integer" litTokens
        return none
      return some ⟨.int v, type, span⟩
  | .byte v => return some ⟨.int v, some .u8, span⟩
  | .char c => return some ⟨.char c, some .char, span⟩
  | .float _ =>
    emitAt "floating-point numbers cannot be keys" span
    return none
  | _ =>
    emitAt "unsupported literal\nkeys must be integer, \x60bool\x60 or \x60char\x60 literals" span
    return none

/-- Evaluate a key expression, reporting why it cannot be a key. -/
def evalKey : Expr → Report (Option TypedKey)
  | .lit lit ts => evalLiteral lit ts
  | .bool b ts => return some ⟨.bool b, some .bool, firstSpan ts⟩
  | .paren inner _ => evalKey inner
  | .neg inner ts => do
    let span := firstSpan ts
    match ← evalKey inner with
    | none => return none
    | some k =>
      match k.value with
      | .int i =>
        if k.type.any (!·.isInteger) then
          emitAt "cannot apply unary operator \x60-\x60 to this key" span
          return none
        return some ⟨.int (-i), k.type, span⟩
      | _ =>
        emitAt "cannot apply unary operator \x60-\x60 to this key" span
        return none
  | .path qualified segments ts => do
    let span := firstSpan ts
    if qualified || segments.any (!·.argsEmpty) then
      emitAt (unsupportedPath none) span
      return none
    let path := "::".intercalate (segments.map (·.name))
    match pathConstant path with
    | some (v, t) => return some ⟨v, some t, span⟩
    | none =>
      emitAt (unsupportedPath (some path)) span
      return none
  | .mac ts => do
    emitAt "macros are not allowed in key position" (firstSpan ts)
    return none
  | e => do
    emitAt unsupportedExpression e.span
    return none

/-- The key type a type names: a key type's name alone, possibly in parentheses. -/
def keyTypeOf : Ty → Option KeyType
  | .path false p _ => p.ident?.bind KeyType.ofName?
  | .paren inner _ => keyTypeOf inner
  | _ => none

/-- Check a key against the key type, reporting a mismatch. -/
def TypedKey.fits (k : TypedKey) (t : KeyType) : Report Bool := do
  let mismatch : Report Bool := do
    emitAt ("mismatched types\nexpected \x60" ++ t.name ++ "\x60") k.span
    return false
  match k.type with
  | some own =>
    if own != t then
      emitAt
        ("mismatched types\nexpected \x60" ++ t.name ++ "\x60, found \x60" ++ own.name ++ "\x60")
        k.span
      return false
  | none => pure ()
  match k.value with
  | .int i =>
    if !t.isInteger then mismatch
    else if t.minInt ≤ i && i ≤ t.maxInt then return true
    else
      emitAt ("literal out of range for \x60" ++ t.name ++ "\x60") k.span
      return false
  | .bool _ => if t == .bool then return true else mismatch
  | .char _ => if t == .char then return true else mismatch

/-- The message for a `for` type that is no key type. -/
def unsupportedKeyType (shown : String) : String :=
  "unsupported key type \x60" ++ shown ++ "\x60\nkeys must be primitive integers, \x60bool\x60, " ++
    "or \x60char\x60\nnote: \x60u128\x60 and \x60i128\x60 are not supported"

/-- The message when no key fixes the key type. -/
def typeAnnotationsNeeded : String :=
  "type annotations needed\nspecify the key type by prepending \x60for T;\x60 to the macro " ++
    "input\nnote: integer sizes need to be specified exactly"

/-- Evaluate all keys and settle their type; `none` when a problem was found. -/
def settleKeys (o : Options) (keys : List Expr) : Report (Option (KeyType × List TypedKey)) := do
  let results ← keys.mapM evalKey
  let values := results.filterMap id
  let failed := results.any Option.isNone
  let keyType? ← match o.keyType with
    | some ty =>
      match keyTypeOf ty with
      | some t => pure (some t)
      | none => do
        emitOver (unsupportedKeyType (TokenTree.renderAll ty.tokens)) ty.tokens
        pure none
    | none =>
      match values.findSome? (·.type) with
      | some t => pure (some t)
      | none => do
        if !failed then emitAt typeAnnotationsNeeded .callSite
        pure none
  match keyType? with
  | none => return none
  | some t =>
    let fit ← values.mapM (·.fits t)
    if failed || fit.any (!·) then return none
    return some (t, values)

end GatherMap.Inline
