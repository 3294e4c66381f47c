import GatherMap.Builder
import GatherMap.Code.Grammar.Rules

/-!
# The input of an inline map or keyset

An inline map is written in source code as its options, then its entries:

```text
for u16; depth = 3; ordered = 4;
80 => "http", 443 => "https",
```

Options end with `;` and may come in any order and repeat; the last of a kind wins:

* `crate PATH;` names the library, for code generated in another crate;
* `for TYPE;` fixes the key type;
* `mut;` asks for owned tables, which a mutable map needs;
* `depth = N;` and `ordered = N;` set the builder's probe depth and ordered threshold.

An identifier before `=>` is a key, not an option. Entries are separated by commas, with an
optional trailing comma: `key => value` for a map, a key alone for a keyset.
-/

namespace GatherMap.Inline

open Code Grammar

/-- The options of an inline map. -/
structure Options where
  /-- The path that names the library in generated code. -/
  cratePath : Option Path := none
  /-- The key type, when the input fixes it. -/
  keyType : Option Ty := none
  /-- Whether generated tables are owned. -/
  mutable : Bool := false
  depth : Option Nat := none
  ordered : Option Nat := none
  deriving Inhabited

namespace Options

/-- The builder the options ask for. -/
def builder (o : Options) : Builder :=
  let b : Builder := {}
  let b := match o.depth with
    | some d => { b with maxDepth := d }
    | none => b
  match o.ordered with
  | some t => { b with orderedThreshold := t }
  | none => b

end Options

/-- One entry: a key, and for a map its value. -/
structure Entry where
  key : Expr
  value : Option Expr
  deriving Inhabited

/-- The parsed input of an inline map or keyset. -/
structure Input where
  options : Options
  entries : List Entry
  deriving Inhabited

/-- An option's integer: a literal read in base 10 as a machine-sized unsigned number. -/
def sizeLiteral : Parser Nat := do
  let start ← get
  match ← attempt literal with
  | some (.lit (.int negative v _) (t :: _)) =>
    if negative then failAt "invalid digit found in string" t.span
    else if v ≥ Nat.pow 2 64 then failAt "number too large to fit in target type" t.span
    else return v
  | _ =>
    set start
    errorHere "expected integer literal"

/-- Options, each ended by `;`, until something that is no option. -/
def readOptions : Nat → Options → Parser Options
  | 0, _ => exhausted
  | n + 1, o => do
    let ts := (← get).rest
    let next ←
      if startsWithWord "crate" ts then do
        let _ ← word "crate"
        let p ← Grammar.path n false
        pure (some { o with cratePath := some p })
      else if startsWithWord "mut" ts then do
        let _ ← word "mut"
        pure (some { o with mutable := true })
      else if startsWithWord "for" ts then do
        let _ ← word "for"
        let t ← type n true
        pure (some { o with keyType := some t })
      else if startsWithIdent ts && startsWithPunct ['='] (skipN 1 ts) &&
          !startsWithPunct ['=', '>'] (skipN 1 ts) then do
        let (name, nameTokens) ← ident
        let _ ← punct "="
        let v ← sizeLiteral
        if name == "depth" then pure (some { o with depth := some v })
        else if name == "ordered" then pure (some { o with ordered := some v })
        else
          let span := (nameTokens.head?.map TokenTree.span).getD .callSite
          failAt "unknown option\nexpected \x60depth = N;\x60 or \x60ordered = N;\x60" span
      else pure none
    match next with
    | some o' =>
      let _ ← punct ";"
      readOptions n o'
    | none => return o

/-- One entry: `key => value` for a map, a key for a keyset. -/
def readEntry (n : Nat) (isMap : Bool) : Parser Entry := do
  let key ← expr n true
  if isMap then
    let _ ← punct "=>"
    let value ← expr n true
    return { key, value := some value }
  else return { key, value := none }

/-- Entries separated by commas, with an optional trailing comma. -/
def readEntries : Nat → Bool → Parser (List Entry)
  | 0, _ => exhausted
  | n + 1, isMap => do
    if ← atEnd then return []
    let e ← readEntry n isMap
    if ← atEnd then return [e]
    let _ ← punct ","
    return e :: (← readEntries n isMap)

/-- Read the input of an inline map (`isMap`) or keyset. -/
def Input.parse (isMap : Bool) (tokens : Tokens) : Except SyntaxError Input :=
  let fuel := fuelFor tokens
  runAll (do
    let o ← readOptions fuel {}
    let es ← readEntries fuel isMap
    return { options := o, entries := es }) tokens

end GatherMap.Inline
