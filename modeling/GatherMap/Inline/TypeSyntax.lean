import GatherMap.Code.Grammar.Rules

/-!
# Types as written

A type appears in a program's text in a declaration (`static VALUE: AutoMap<u8, &str>`), after
`as` in a cast, and as the generic arguments of a path in a value (`None::<i32>`,
`Vec::<u8>::new()`). `readType` reads the tokens of one into a `TypeSyntax`: a path whose
segments carry their generic arguments, a reference, a tuple, an array with its length, the
placeholder `_`, or something else. What a path names is decided later, where the scope is known.
-/

namespace GatherMap.Inline

open Code

/-- Split tokens at the commas of their top level, outside angle brackets. -/
def splitCommas (ts : Tokens) : List Tokens :=
  let step (acc : List Tokens × Tokens × Nat) (t : TokenTree) : List Tokens × Tokens × Nat :=
    let (done, current, depth) := acc
    match t with
    | .punct ',' _ _ => if depth == 0 then (done ++ [current], [], 0) else (done, current ++ [t], depth)
    | .punct '<' _ _ => (done, current ++ [t], depth + 1)
    | .punct '>' _ _ => (done, current ++ [t], depth - 1)
    | _ => (done, current ++ [t], depth)
  let (done, current, _) := ts.foldl step ([], [], 0)
  if current.isEmpty then done else done ++ [current]

/-- The tokens before and after the first `;` at the top level. -/
def splitAtSemicolon (ts : Tokens) : Option (Tokens × Tokens) :=
  match ts.findIdx? fun t => match t with
    | .punct ';' _ _ => true
    | _ => false with
  | some i => some (ts.take i, ts.drop (i + 1))
  | none => none

/-- A type as written. -/
inductive TypeSyntax where
  /-- A path: whether it starts with `::`, and its segments with their generic arguments. -/
  | path (leadingColon : Bool) (segments : List (String × List TypeSyntax))
  | ref (inner : TypeSyntax)
  | tuple (items : List TypeSyntax)
  | array (item : TypeSyntax) (length : Option Nat)
  | infer
  | other
  deriving Repr, Inhabited

/-- The tokens of generic arguments up to the matching `>`, and the tokens after it. -/
def angleBody : Nat → Tokens → Tokens → Option (Tokens × Tokens)
  | _, [], _ => none
  | depth, t :: rest, acc =>
    match t with
    | .punct '>' _ _ => if depth == 0 then some (acc.reverse, rest) else angleBody (depth - 1) rest (t :: acc)
    | .punct '<' _ _ => angleBody (depth + 1) rest (t :: acc)
    | _ => angleBody depth rest (t :: acc)

/-- Read a type from all of some tokens. -/
def readType : Nat → Tokens → TypeSyntax
  | 0, _ => .other
  | fuel + 1, ts =>
    match ts with
    | [.ident "_" _] => .infer
    | .punct '&' _ _ :: rest =>
      let rest := match rest with
        | .punct '\'' _ _ :: .ident _ _ :: more => more
        | _ => rest
      let rest := match rest with
        | .ident "mut" _ :: more => more
        | _ => rest
      .ref (readType fuel rest)
    | [.group .paren [] _] => .tuple []
    | [.group .paren inner _] =>
      let parts := splitCommas inner
      let trailing := match inner.getLast? with
        | some (.punct ',' _ _) => true
        | _ => false
      match parts with
      | [one] => if trailing then .tuple [readType fuel one] else readType fuel one
      | _ => .tuple (parts.map (readType fuel))
    | [.group .bracket inner _] =>
      match splitAtSemicolon inner with
      | some (item, [.literal n _]) => .array (readType fuel item) n.toNat?
      | some _ => .other
      | none => .array (readType fuel inner) none
    | .punct ':' _ _ :: .punct ':' _ _ :: rest =>
      match readType fuel rest with
      | .path _ segs => .path true segs
      | _ => .other
    | .ident _ _ :: _ =>
      -- segments separated by `::`, each with optional generic arguments, which a path in a
      -- value introduces with `::<`
      let rec segments : Nat → Tokens → Option (List (String × List TypeSyntax))
        | 0, _ => none
        | k + 1, toks =>
          match toks with
          | .ident name _ :: more =>
            let (args, after) : List TypeSyntax × Option Tokens := match more with
              | .punct '<' _ _ :: body
              | .punct ':' _ _ :: .punct ':' _ _ :: .punct '<' _ _ :: body =>
                match angleBody 0 body [] with
                | some (inside, after) => ((splitCommas inside).map (readType fuel), some after)
                | none => ([], none)
              | _ => ([], some more)
            match after with
            | none => none
            | some [] => some [(name, args)]
            | some (.punct ':' _ _ :: .punct ':' _ _ :: next) =>
              (segments k next).map ((name, args) :: ·)
            | some _ => none
          | _ => none
      match segments (ts.length + 1) ts with
      | some segs => .path false segs
      | none => .other
    | _ => .other

end GatherMap.Inline
