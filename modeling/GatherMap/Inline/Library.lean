import GatherMap.Inline.Typing
import GatherMap.Code.Scan

/-!
# The library path and the declared type of an item

Generated code names the library through a path (`:: pextmap`, or the `crate` option's), and an
item that holds a map declares its type after `::pextmap::`. Both are resolved against the
crates a program links: the library itself, with its module `low_level`, the standard library
(`std` and `core`), and the harness crate, which imports two of the library's types privately.

A library path must lead to a module that holds the names generated code imports. When it does
not, the first failing import is reported ("unresolved import `std::AnyKeyset`"), then the
type of the binding ("cannot find type `AutoMap` in crate `std`"), then the first private
name the code reaches ("enum `AnyKeyset` is private"); all of them at the macro call, since
generated names carry its span. A first segment that names no crate is reported at itself.

A declared type is read from its text and resolved: `AutoMap<K, V>`, `Map<KS, V>` and
`AnyKeyset<K, C>` of the library, and in their arguments the primitive types, `String`,
`Vec`, `Option`, `Box`, `Result`, references, tuples, arrays and the library's own types by
their full path. Wrong names and wrong numbers of generic arguments are reported with the
compiler's messages.
-/

namespace GatherMap.Inline

open Code

/-- A name a module holds: whether it is a module itself, the word for its kind, and whether a
program reaches it only through a private import. -/
structure ModuleItem where
  name : String
  module : Bool
  kind : String
  hidden : Bool
  deriving Repr, Inhabited

/-- The public names of the library's root module. -/
def libraryItems : List ModuleItem :=
  (["AnyKeyset", "Compare", "Keyset", "Key"].map fun n => ⟨n, false, "enum", false⟩) ++
  (["AutoMap"].map fun n => ⟨n, false, "type alias", false⟩) ++
  (["ByFn", "Map", "MapSpan", "Natural", "OffsetWidth", "OrderedKeyset", "Pext", "PextKeyset",
    "RawInt", "Valueset", "impl_key"].map fun n => ⟨n, false, "struct", false⟩) ++
  [⟨"low_level", true, "module", false⟩, ⟨"macros", true, "module", false⟩]

/-- The modules of the standard library's crates that a path may pass through. -/
def standardModules : List String :=
  ["alloc", "any", "array", "ascii", "borrow", "boxed", "cell", "char", "clone", "cmp",
   "collections", "convert", "default", "env", "error", "f32", "f64", "ffi", "fmt", "fs",
   "future", "hash", "hint", "i8", "i16", "i32", "i64", "i128", "io", "isize", "iter",
   "marker", "mem", "net", "num", "ops", "option", "os", "panic", "path", "pin", "prelude",
   "primitive", "process", "ptr", "rc", "result", "slice", "str", "string", "sync", "task",
   "thread", "time", "u8", "u16", "u32", "u64", "u128", "usize", "vec"]

/-- The names a module of a linked crate holds, for the modules a library path can reach. -/
def moduleItems : List String → Option (List ModuleItem)
  | ["pextmap"] => some libraryItems
  | ["pextmap", "low_level"] =>
    some [⟨"ConstVec", false, "struct", false⟩, ⟨"LookupTable", false, "enum", false⟩]
  | ["pextmap", "macros"] => some [⟨"pextmap_macros", true, "crate", false⟩]
  | ["oracle_dump"] =>
    some [⟨"AnyKeyset", false, "enum", true⟩, ⟨"AutoMap", false, "type alias", true⟩]
  | [c] =>
    if c == "std" || c == "core" then
      some (standardModules.map fun n => ⟨n, true, "module", false⟩)
    else none
  | [c, m] =>
    if (c == "std" || c == "core") && standardModules.contains m then some [] else none
  | _ => none

/-- The first name after the library path `path` in each `use` of generated code that
imports through it, in order. -/
def importHeads (path : Tokens) : Tokens → List String
  | [] => []
  | .ident "use" _ :: rest =>
    let through := (rest.take path.length).map TokenTree.render == path.map TokenTree.render
    (match through, rest.drop (path.length + 2) with
      | true, .ident n _ :: _ => [n]
      | _, _ => []) ++ importHeads path rest
  | .group _ inner _ :: rest => importHeads path inner ++ importHeads path rest
  | _ :: rest => importHeads path rest

/-- The errors for a library path `p` through which generated code imports `heads` and names
the type `typeName`. -/
def libraryPathErrors (p : Path) (heads : List String) (typeName : String) : List Diagnostic :=
  let spans := segmentSpans p.tokens
  let names := p.segments.map (·.name)
  let named := names.zipIdx.map fun (n, i) => (n, spans.getD i .callSite)
  let written := (if p.leadingColon then "::" else "") ++ "::".intercalate names
  let plain := "::".intercalate names
  let atSpan (message : String) (span : Span) : Diagnostic := ⟨message, span, span⟩
  let call (message : String) : Diagnostic := ⟨message, .callSite, .callSite⟩
  match named with
  | [] => []
  | (first, firstSpan) :: rest =>
    if first == "super" then
      [atSpan "too many leading \x60super\x60 keywords within \x60crate\x60" firstSpan]
    else
    match moduleItems [first] with
    | none =>
      let message := if p.leadingColon then
          "cannot find \x60" ++ first ++ "\x60 in the list of imported crates"
        else "cannot find module or crate \x60" ++ first ++ "\x60 in this scope"
      [atSpan message firstSpan, atSpan ("unresolved import \x60" ++ first ++ "\x60") firstSpan]
    | some _ =>
      -- walk the modules of the path
      let walk := rest.foldl (fun (acc : Except (List Diagnostic) (List String)) (n, span) =>
          match acc with
          | .error e => .error e
          | .ok path =>
            let items := (moduleItems path).getD []
            if items.any (fun i => i.name == n && i.module) && (moduleItems (path ++ [n])).isSome then
              .ok (path ++ [n])
            else
              .error [atSpan ("cannot find \x60" ++ n ++ "\x60 in \x60" ++ path.getLastD first ++ "\x60") span,
                atSpan ("unresolved import \x60" ++ "::".intercalate (path ++ [n]) ++ "\x60") span])
        (.ok [first])
      match walk with
      | .error e => e
      | .ok path =>
        let items := (moduleItems path).getD []
        let find (n : String) := items.find? (·.name == n)
        let unresolved := (heads.find? fun h => (find h).isNone).map fun h =>
          call ("unresolved import \x60" ++ plain ++ "::" ++ h ++ "\x60")
        let place := if path.length == 1 then "crate" else "module"
        let typeError := if (find typeName).isNone then
            some (call ("cannot find type \x60" ++ typeName ++ "\x60 in " ++ place ++ " \x60" ++
              written ++ "\x60"))
          else none
        let hidden := ((heads ++ [typeName]).filterMap find).find? (·.hidden)
        let privacy := hidden.map fun i => call (i.kind ++ " \x60" ++ i.name ++ "\x60 is private")
        unresolved.toList ++ typeError.toList ++ privacy.toList

/-- A type of the library or the standard library, with the errors found resolving it: names
that resolve to nothing, found first by the compiler, and wrong numbers of generic arguments,
found when the type is lowered. -/
structure Resolved where
  unresolved : List Diagnostic := []
  arity : List Diagnostic := []
  type : ValueType
  deriving Inhabited

/-- The resolved types of a list, with all their errors in order. -/
def Resolved.all (rs : List Resolved) : List Diagnostic × List Diagnostic × List ValueType :=
  (rs.flatMap (·.unresolved), rs.flatMap (·.arity), rs.map (·.type))

/-- The message for a wrong number of generic arguments. -/
def genericCountMessage (kind name : String) (least most given : Nat) : String :=
  if given == 0 then "missing generics for " ++ kind ++ " \x60" ++ name ++ "\x60"
  else
    let expected :=
      if least == most then toString most
      else if given > most then "at most " ++ toString most
      else "at least " ++ toString least
    let counted := if given > most then most else least
    let argument (n : Nat) := if n == 1 then " generic argument" else " generic arguments"
    kind ++ " takes " ++ expected ++ argument counted ++ " but " ++ toString given ++
      argument given ++ (if given == 1 then " was supplied" else " were supplied")

/-- The library's `Natural` comparator. -/
def naturalType : ValueType := .named "Natural" []

/-- The generic types of the standard library's prelude: their kind and how many generic
arguments they take, at least and at most. -/
def preludeGenerics : List (String × String × Nat × Nat) :=
  [("String", "struct", 0, 0), ("Vec", "struct", 1, 2), ("Box", "struct", 1, 2),
   ("Option", "enum", 1, 1), ("Result", "enum", 2, 2)]

/-- The error for a wrong number of generic arguments, if the count is wrong. -/
def arityError (kind name : String) (least most given : Nat) : List Diagnostic :=
  if least ≤ given && given ≤ most then []
  else [⟨genericCountMessage kind name least most given, .callSite, .callSite⟩]

mutual

/-- Resolve a type written in the program's own scope. -/
def resolveType : Nat → TypeSyntax → Resolved
  | 0, _ => { type := .error }
  | fuel + 1, t =>
    let call (message : String) : Diagnostic := ⟨message, .callSite, .callSite⟩
    match t with
    | .infer => { type := .error }
    | .other => { type := .error }
    | .ref inner =>
      let r := resolveType fuel inner
      { r with type := .ref r.type }
    | .tuple items =>
      let (unresolved, arity, types) := Resolved.all (items.map (resolveType fuel))
      { unresolved, arity, type := .tuple types }
    | .array item length =>
      let r := resolveType fuel item
      match length with
      | some n => { r with type := .array r.type n }
      | none => { r with type := .slice r.type }
    | .path leadingColon segs =>
      match segs with
      | (first, _) :: more =>
        if first == "pextmap" && !more.isEmpty then resolveLibrary fuel more
        else if leadingColon then { unresolved := [call ("cannot find \x60" ++ first ++
          "\x60 in the list of imported crates")], type := .error }
        else
        match segs with
        | [(name, args)] =>
          let (unresolved, arity, argTypes) := Resolved.all (args.map (resolveType fuel))
          match ValueType.primitive? name, args with
          | some p, [] => { unresolved, arity, type := p }
          | _, _ =>
            match preludeGenerics.find? (·.1 == name) with
            | some (_, kind, least, most) =>
              let arity := arity ++ arityError kind name least most args.length
              let type := match name, argTypes with
                | "String", [] => .string
                | "Vec", a :: _ => .named "Vec" [a]
                | "Option", [a] => .option a
                | "Box", a :: _ => .named "Box" [a]
                | "Result", [a, b] => .named "Result" [a, b]
                | _, _ => .error
              { unresolved, arity, type }
            | none =>
              { unresolved := call ("cannot find type \x60" ++ name ++ "\x60 in this scope") ::
                  unresolved, arity, type := .error }
        | _ => { type := .error }
      | [] => { type := .error }

/-- Resolve a type named by segments under the library's root module. -/
def resolveLibrary : Nat → List (String × List TypeSyntax) → Resolved
  | 0, _ => { type := .error }
  | fuel + 1, segs =>
    let call (message : String) : Diagnostic := ⟨message, .callSite, .callSite⟩
    match segs with
    | [(name, args)] =>
      let (unresolved, arity, argTypes) := Resolved.all (args.map (resolveType fuel))
      let n := args.length
      match name with
      | "AutoMap" =>
        let type := match argTypes with
          | [k, v] => .named "Map" [.named "AnyKeyset" [k, naturalType], v]
          | _ => .error
        { unresolved, arity := arity ++ arityError "type alias" name 2 2 n, type }
      | "Map" =>
        let type := if n == 2 then .named "Map" argTypes else .error
        { unresolved, arity := arity ++ arityError "struct" name 2 2 n, type }
      | "AnyKeyset" =>
        let type := match argTypes with
          | [k] => .named "AnyKeyset" [k, naturalType]
          | [k, c] => .named "AnyKeyset" [k, c]
          | _ => .error
        { unresolved, arity := arity ++ arityError "enum" name 1 2 n, type }
      | _ =>
        if libraryItems.any (·.name == name) then { unresolved, arity, type := .named name argTypes }
        else { unresolved := call ("cannot find type \x60" ++ name ++ "\x60 in crate \x60pextmap\x60") ::
          unresolved, arity, type := .error }
    | (name, _) :: _ =>
      if libraryItems.any (fun i => i.name == name && i.module) then { type := .error }
      else { unresolved := [call ("cannot find \x60" ++ name ++ "\x60 in \x60pextmap\x60")], type := .error }
    | [] => { type := .error }

end

/-- The type an item declares, written after `::pextmap::`, and the errors resolving it. -/
def declaredType (text : String) : Resolved :=
  match scan .strict text with
  | .error _ => { type := .error }
  | .ok tokens =>
    match readType (tokens.length + 8) tokens with
    | .path false segs => resolveLibrary (tokens.length + 8) segs
    | _ => { unresolved := [⟨"expected identifier", .callSite, .callSite⟩], type := .error }

end GatherMap.Inline
