import GatherMap.Inline.Keys
import GatherMap.Map
import GatherMap.Code.Keyset

/-!
# Expanding an inline map or keyset

An inline map expands to a block that builds the map at compile time and binds it with its
type written out:

```text
{ let map : PATH :: AutoMap < T , _ > = CODE ; map }
{ let keyset : PATH :: AnyKeyset < T > = CODE ; keyset }
```

`PATH` names the library (`:: pextmap` unless the `crate` option says otherwise), `T` is the
key type, and `CODE` is the generated code of the built map or keyset, with the map's values
as they were written.

When the input is not well formed, the expansion is a single `compile_error!` with the syntax
error. When keys are wrong or the map cannot be built, it reports every problem found, each
as a `compile_error!`, inside a block that still has an expression's shape. A duplicate key
is reported at both keys; other build errors at the macro call.
-/

namespace GatherMap.Inline

open Code

/-- The two inline macros. -/
inductive Kind where
  | map
  | keyset
  deriving DecidableEq, Repr, Inhabited

/-- What an inline map or keyset comes to. -/
inductive Outcome where
  /-- The input is not well formed. -/
  | syntaxError (e : SyntaxError)
  /-- The keys are wrong or the map cannot be built; the problems found. -/
  | failed (diagnostics : List Diagnostic)
  | keyset (options : Options) (keyType : KeyType) (ks : Keyset)
  /-- A map with the expressions of its values. -/
  | map (options : Options) (keyType : KeyType) (m : Map Expr)
  deriving Inhabited

/-- Report a build error: a duplicate at both keys, anything else at the call site. -/
def reportBuildError (keys : List Expr) : BuildError → Report Unit
  | .duplicateKey a b => do
    emitOver "this key is equal to..." ((keys[a]?.map Expr.tokens).getD [])
    emitOver "...this key" ((keys[b]?.map Expr.tokens).getD [])
  | e => emitAt e.message .callSite

/-- Settle the keys and build the map or keyset. The keys are converted to the key type all
together: if one does not convert, there is nothing to build and nothing is reported. -/
def build (kind : Kind) (input : Input) : Report (Option Outcome) := do
  let o := input.options
  let keys := input.entries.map (·.key)
  match ← settleKeys o keys with
  | none => return none
  | some (t, values) =>
    let some raws := values.mapM fun k => t.encode? k.value | return none
    match kind with
    | .keyset =>
      match (o.builder.buildKeyset t .natural raws.toArray).value with
      | .ok ks => return some (.keyset o t ks)
      | .error e =>
        reportBuildError keys e
        return none
    | .map =>
      let exprs := input.entries.map fun e => e.value.getD e.key
      match (o.builder.buildMap t (raws.zip exprs)).value with
      | .ok (.ok m) => return some (.map o t m)
      | .ok (.error e) =>
        reportBuildError keys e
        return none
      | .error f =>
        emitAt f.message .callSite
        return none

/-- What the inline macro of `kind` makes of its input tokens. -/
def outcome (kind : Kind) (tokens : Tokens) : Outcome :=
  match Input.parse (kind == .map) tokens with
  | .error e => .syntaxError e
  | .ok input =>
    match (build kind input).run [] with
    | (some result, []) => result
    | (_, diagnostics) => .failed diagnostics

/-- The tokens that name the library. -/
def libraryPath (o : Options) : Tokens :=
  match o.cratePath with
  | some p => p.tokens
  | none => puncts "::" ++ [ident "pextmap"]

/-- The code generator the options ask for. Byte strings are spelled as the compiler spells
them: `\0` for NUL and lowercase hexadecimal escapes. -/
def generator (o : Options) : Generator :=
  { crates := match o.cratePath with
      | some p => [("pextmap", p.tokens)]
      | none => []
    mutability := o.mutable
    bytes := ⟨false, false⟩ }

/-- `compile_error! { "message" }`. -/
def compileError (message : String) : Tokens :=
  [ident "compile_error"] ++ puncts "!" ++ [group .brace [literal (Text.quoteString message)]]

/-- A call `name ! ()`. -/
def emptyMacroCall (name : String) : Tokens := [ident name] ++ puncts "!" ++ [group .paren []]

/-- The expansion that reports problems: a local macro, one `compile_error!` per problem, and
placeholder expressions. -/
def failureTokens (diagnostics : List Diagnostic) : Tokens :=
  let localMacro := [ident "macro_rules"] ++ puncts "!" ++
    [ident "proc_macro_call",
      group .brace ([group .paren []] ++ puncts "=>" ++
        [group .paren (emptyMacroCall "unimplemented")])]
  [group .brace (localMacro ++ diagnostics.flatMap (compileError ·.message) ++
    puncts "::" ++ [ident "core"] ++ puncts "::" ++ emptyMacroCall "unreachable" ++
    emptyMacroCall "unimplemented")]

/-- The tokens an outcome expands to. -/
def Outcome.tokens : Outcome → Tokens
  | .syntaxError e => puncts "::" ++ [ident "core"] ++ puncts "::" ++ compileError e.message
  | .failed [] => []
  | .failed ds => failureTokens ds
  | .keyset o t ks =>
    let code := Generator.generate (generator o) (keysetPiece true ks)
    [group .brace ([ident "let", ident "keyset"] ++ puncts ":" ++ libraryPath o ++ puncts "::" ++
      [ident "AnyKeyset"] ++ puncts "<" ++ [ident t.name] ++ puncts ">" ++ puncts "=" ++ code ++
      puncts ";" ++ [ident "keyset"])]
  | .map o t m =>
    let code := Generator.generate (generator o)
      (mapPiece true m (fun e => .verbatim e.tokens) none)
    [group .brace ([ident "let", ident "map"] ++ puncts ":" ++ libraryPath o ++ puncts "::" ++
      [ident "AutoMap"] ++ puncts "<" ++ [ident t.name] ++ puncts "," ++ [ident "_"] ++
      puncts ">" ++ puncts "=" ++ code ++ puncts ";" ++ [ident "map"])]

/-- The problems an outcome reports, each with the span it covers. -/
def Outcome.diagnostics : Outcome → List Diagnostic
  | .syntaxError e => [⟨e.message, e.first, e.last⟩]
  | .failed ds => ds
  | _ => []

/-- The text between the start of `first` and the end of `last`; none at the call site. -/
def snippet (text : String) (first last : Span) : Option String :=
  match first, last with
  | .range lo _, .range _ hi => String.fromUTF8? (text.toUTF8.extract lo hi)
  | _, _ => none

end GatherMap.Inline
