import GatherMap.Code.Token
import GatherMap.Text.Escape

/-!
# The code generator

Generated code names every item through a short alias that it imports once: the path
`pextmap::Map` becomes `__Map`, and a second path with the same last segment gets `__Map2`, then
`__Map3`, in the order the paths are first asked for. The output is one block

```text
{ extern crate alloc as _Alloc ; use <path> as <alias> ; … <value> }
```

with the imports sorted by path. The first segment of a path names a crate: it becomes `:: name`
unless the generator maps it to other tokens (so generated code can name a facade crate). A path
into `alloc` is always written from `_Alloc`, whatever `alloc` is mapped to, and the block
declares `alloc` as `_Alloc` only when `alloc` was not mapped.

A mutable generator writes owned vectors instead of references to static data.
-/

namespace GatherMap.Code

/-- The generator's settings and the aliases handed out so far. -/
structure Generator where
  /-- Tokens to write for a crate name. -/
  crates : List (String × Tokens) := []
  /-- Paths and their aliases, in the order they were first asked for. -/
  aliases : List (String × String) := []
  /-- Whether some path lives in `alloc`. -/
  allocWanted : Bool := false
  /-- Write owned vectors instead of static references. -/
  mutability : Bool := false
  /-- How byte strings are spelled. -/
  bytes : Text.ByteEscapes := ⟨true, true⟩
  deriving Repr, Inhabited

/-- A piece of code being generated. -/
abbrev Gen := StateM Generator

namespace Generator

/-- Map a crate name to the tokens that name it in generated code; a later mapping of a name
replaces an earlier one. -/
def setCrate (g : Generator) (name : String) (path : Tokens) : Generator :=
  { g with crates := (name, path) :: g.crates }

/-- Write owned vectors, or references to static data. -/
def setMutability (g : Generator) (mutability : Bool) : Generator :=
  { g with mutability }

/-- The segments of a path. -/
def segments (path : String) : List String := path.splitOn "::"

/-- The first free alias among `base`, `base2`, `base3`, …; `fuel` bounds the attempts. -/
def freeAlias (taken : List String) (base : String) : Nat → Nat → String
  | 0, _ => base
  | fuel + 1, suffix =>
    let candidate := if suffix < 2 then base else base ++ toString suffix
    if taken.contains candidate then freeAlias taken base fuel (max suffix 1 + 1) else candidate

/-- The alias of `path`, handing out a new one on the first request. -/
def path (path : String) : Gen Tokens := do
  let g ← get
  match g.aliases.lookup path with
  | some short => pure [ident short]
  | none =>
    let segs := segments path
    let base := "__" ++ segs.getLast?.getD path
    let taken := g.aliases.map (·.2)
    let short := freeAlias taken base (taken.length + 2) 0
    set { g with
      aliases := g.aliases ++ [(path, short)]
      allocWanted := g.allocWanted || segs.head? == some "alloc" }
    pure [ident short]

/-- The tokens that name a crate. -/
def crateTokens (crates : List (String × Tokens)) (name : String) : Tokens :=
  (crates.lookup name).getD (puncts "::" ++ [ident name])

/-- The import of one path under its alias. -/
def useItem (crates : List (String × Tokens)) (entry : String × String) : Tokens :=
  let segs := segments entry.1
  let crateName := segs.head?.getD entry.1
  let rest := (segs.drop 1).filter (· != "")
  [ident "use"] ++ crateTokens crates crateName ++
    rest.flatMap (fun s => puncts "::" ++ [ident s]) ++
    [ident "as", ident entry.2] ++ puncts ";"

/-- The complete block for a generated value: declarations, imports sorted by path, value. Once a
path lies in `alloc`, `alloc` is named `_Alloc`, replacing any crate path set for it, and the block
declares `_Alloc` only when no crate path was set for `alloc`. -/
def generate (g : Generator) (piece : Gen Tokens) : Tokens :=
  let (value, g) := piece.run g
  let crates := if g.allocWanted then ("alloc", [ident "_Alloc"]) :: g.crates else g.crates
  let externAlloc :=
    if g.allocWanted && (g.crates.lookup "alloc").isNone then
      [ident "extern", ident "crate", ident "alloc", ident "as", ident "_Alloc"] ++ puncts ";"
    else []
  let imports := g.aliases.mergeSort (fun a b => !(b.1 < a.1))
  [group .brace (externAlloc ++ imports.flatMap (useItem crates) ++ value)]

end Generator

/-- Ask for the alias of a path. -/
def usePath (p : String) : Gen Tokens := Generator.path p

/-- Whether the generator writes owned vectors. -/
def isMutable : Gen Bool := do return (← get).mutability

/-- A list of pieces between brackets, separated by commas. -/
def arrayOf (pieces : List (Gen Tokens)) : Gen Tokens := do
  let items ← pieces.mapM id
  return [group .bracket (separated "," items)]

/-- A byte string literal in the generator's spelling. -/
def byteString (bytes : List Nat) : Gen Tokens := do
  return [literal (Text.quoteBytes (← get).bytes bytes)]

end GatherMap.Code
