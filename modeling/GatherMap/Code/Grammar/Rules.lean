import GatherMap.Code.Grammar.Cursor

/-!
# The grammar of expressions, types, paths and patterns

The rules read expressions with operator precedence, as the language's reference gives it:
a unary expression, then binary operators while their precedence is high enough, where the
right operand of an operator takes every operator that binds tighter. Ranges take no operator
after them, comparisons do not chain, and a cast takes a type without `+`. Where a brace would
open a block (the condition of `if`, `while`, `match`, `for`), a path followed by a brace is not
read as a struct literal.

Types, paths with their generic arguments, and patterns have their own rules, since
expressions hold them (casts, closures, turbofish paths, qualified paths) and they hold
expressions (array lengths).

Blocks are read into their statements and tail expression, and the arms of `match` into
pattern, guard and body, since values are typed and evaluated through them. The fields of
struct patterns and the bodies of macro invocations are kept as token groups; the invocations
of the standard macros that values use are read from their bodies where they are needed.

Every rule takes a fuel argument and hands one less to the rules it calls. Each call reads a
token or enters a group within a bounded number of steps, so fuel that grows with the number of
tokens is never used up on real input.
-/

namespace GatherMap.Code.Grammar

/-- How tightly an operator binds, loosest first. -/
inductive Precedence where
  | jump
  | assign
  | range
  | logicalOr
  | logicalAnd
  | letBinding
  | compare
  | bitOr
  | bitXor
  | bitAnd
  | shift
  | sum
  | product
  | cast
  | prefixOp
  | unambiguous
  deriving DecidableEq, Repr, Inhabited

namespace Precedence

/-- The rank of a precedence level: higher binds tighter. -/
def rank : Precedence → Nat
  | jump => 0
  | assign => 1
  | range => 2
  | logicalOr => 3
  | logicalAnd => 4
  | letBinding => 5
  | compare => 6
  | bitOr => 7
  | bitXor => 8
  | bitAnd => 9
  | shift => 10
  | sum => 11
  | product => 12
  | cast => 13
  | prefixOp => 14
  | unambiguous => 15

end Precedence

/-- The binary operators in the order they are tried, with their precedence. Compound
assignments come first, and every operator before the operators it starts with. -/
def binaryOps : List (String × Precedence) :=
  [("+=", .assign), ("-=", .assign), ("*=", .assign), ("/=", .assign), ("%=", .assign),
    ("^=", .assign), ("&=", .assign), ("|=", .assign), ("<<=", .assign), (">>=", .assign),
    ("&&", .logicalAnd), ("||", .logicalOr), ("<<", .shift), (">>", .shift),
    ("==", .compare), ("<=", .compare), ("!=", .compare), (">=", .compare),
    ("+", .sum), ("-", .sum), ("*", .product), ("/", .product), ("%", .product),
    ("^", .bitXor), ("&", .bitAnd), ("|", .bitOr), ("<", .compare), (">", .compare)]

/-- The binary operator at the start of the tokens. -/
def binaryOpAt (ts : Tokens) : Option (String × Precedence) :=
  binaryOps.find? fun (op, _) => startsWithPunct op.toList ts

/-- The precedence of what follows an operand: an operator, `=`, `..`, `as`, or nothing. -/
def precedenceAt (ts : Tokens) : Precedence :=
  match binaryOpAt ts with
  | some (_, p) => p
  | none =>
    if startsWithPunct ['='] ts && !startsWithPunct ['=', '>'] ts then .assign
    else if startsWithPunct ['.', '.'] ts then .range
    else if startsWithWord "as" ts then .cast
    else .jump

/-- Whether a range `a..` ends here without an upper bound. -/
def rangeEndsHere (allowStruct : Bool) (ts : Tokens) : Bool :=
  let p (cs : List Char) := startsWithPunct cs ts
  ts.isEmpty || p [','] || p [';'] || (p ['.'] && !p ['.', '.']) || p ['?'] || p ['=', '>'] ||
    (!allowStruct && startsWithGroup .brace ts) || p ['='] || p ['+'] || p ['/'] || p ['%'] ||
    p ['^'] || p ['>'] || p ['<', '='] || p ['!', '='] || p ['-', '='] || p ['*', '='] ||
    p ['&', '='] || p ['|', '='] || p ['<', '<', '='] || startsWithWord "as" ts

/-- What a type can start with, as a failed type reports it. -/
def typeAlternatives : List String :=
  ["\x60for\x60", "parentheses", "\x60fn\x60", "\x60unsafe\x60", "\x60extern\x60", "identifier",
    "\x60::\x60", "\x60<\x60", "\x60dyn\x60", "square brackets", "\x60*\x60", "\x60&\x60",
    "\x60!\x60",
    "\x60impl\x60", "\x60_\x60", "lifetime"]

/-- What a type can start with after `for<…>`. -/
def boundTypeAlternatives : List String :=
  ["identifier", "\x60fn\x60", "\x60unsafe\x60", "\x60extern\x60", "\x60super\x60", "\x60self\x60",
    "\x60Self\x60", "\x60crate\x60"]

/-- What a pattern can start with, as a failed pattern reports it. -/
def patternAlternatives : List String :=
  ["identifier", "\x60::\x60", "\x60<\x60", "\x60_\x60", "literal", "\x60const\x60", "\x60ref\x60",
    "\x60mut\x60", "\x60&\x60", "parentheses", "square brackets", "\x60..\x60", "\x60const\x60"]

/-- What a range bound in a pattern can start with. -/
def boundAlternatives : List String :=
  ["literal", "identifier", "\x60::\x60", "\x60<\x60", "\x60self\x60", "\x60Self\x60",
    "\x60super\x60", "\x60crate\x60", "\x60const\x60"]

/-! ### Rules that read no expression -/

/-- Range limits: `..=`, or `..` that is not `...`. -/
def rangeLimits : Parser (Bool × Tokens) := do
  if ← peekPunct "..=" then return (true, ← punct "..=")
  else if (← peekPunct "..") && !(← peekPunct "...") then return (false, ← punct "..")
  else if ← peekPunct ".." then expectedOneOf ["\x60..=\x60"]
  else expectedOneOf ["\x60..\x60", "\x60..=\x60"]

/-- The last punctuation character of a token sequence replaced by `c`. -/
def replaceLastChar (c : Char) (ts : Tokens) : Tokens :=
  match ts.reverse with
  | .punct _ sp span :: before => (.punct c sp span :: before).reverse
  | _ => ts

/-- Range limits in a pattern, where `...` still means `..=`. -/
def patternRangeLimits : Parser (Bool × Tokens) := do
  if ← peekPunct "..=" then return (true, ← punct "..=")
  else if ← peekPunct "..." then return (true, replaceLastChar '=' (← punct "..."))
  else if ← peekPunct ".." then return (false, ← punct "..")
  else expectedOneOf ["\x60..\x60"]

/-- The field or tuple index after a dot: an identifier or an unsuffixed integer. -/
def member : Parser (Option String × Tokens) := do
  let ts := (← get).rest
  if startsWithIdent ts then
    let (name, t) ← ident
    return (some name, t)
  else
    match ts with
    | .literal text sp :: rest =>
      match Literal.classify text with
      | .int false v "" =>
        if v < Nat.pow 2 32 then
          modify fun c => { c with rest }
          return (none, [.literal (toString v) sp])
        else failAt "number too large to fit in target type" sp
      | .int _ _ _ => failAt "expected unsuffixed integer" sp
      | _ => errorHere "expected identifier or integer"
    | _ => errorHere "expected identifier or integer"

/-- The tuple indices of a floating-point literal after a dot, as in `t.0.1`, and whether it
ends in a dot. -/
def tupleIndices (text : String) : Except String (List Nat × Bool) := do
  let trailing := text.endsWith "."
  let body := if trailing then String.ofList (text.toList.dropLast) else text
  let indices ← (body.splitOn ".").mapM fun part =>
    match Literal.classify part with
    | .int false v "" =>
      if v < Nat.pow 2 32 then .ok v else .error "number too large to fit in target type"
    | .int _ _ _ => .error "expected unsuffixed integer"
    | _ => .error "expected integer literal"
  return (indices, trailing)

/-- Fail if a cast is followed by something that would need parentheses around it. -/
def checkCast : Parser Unit := do
  let ts := (← get).rest
  let kind :=
    if startsWithPunct ['.'] ts && !startsWithPunct ['.', '.'] ts then
      if startsWithWord "await" (skipN 1 ts) then some "\x60.await\x60"
      else if startsWithIdent (skipN 1 ts) &&
          (startsWithGroup .paren (skipN 2 ts) || startsWithPunct [':', ':'] (skipN 2 ts)) then
        some "a method call"
      else some "a field access"
    else if startsWithPunct ['?'] ts then some "\x60?\x60"
    else if startsWithGroup .bracket ts then some "indexing"
    else if startsWithGroup .paren ts then some "a function call"
    else none
  match kind with
  | some k => errorHere ("casts cannot be followed by " ++ k)
  | none => return ()

/-- The tokens of an optional expression. -/
def tokensOf : Option Expr → Tokens
  | some e => e.tokens
  | none => []

/-- Whether the tokens start an item: a visibility, `use`, `fn`, `struct` or another item
keyword, or `static`, `const`, `unsafe` or `async` where they do not start an expression. -/
def startsItem (ts : Tokens) : Bool :=
  let w (s : String) (k : Nat) := startsWithWord s (skipN k ts)
  let p (cs : List Char) (k : Nat) := startsWithPunct cs (skipN k ts)
  let g (k : Nat) := startsWithGroup .brace (skipN k ts)
  w "pub" 0 || (w "crate" 0 && !p [':', ':'] 1) || w "extern" 0 || w "use" 0 ||
    (w "static" 0 && (w "mut" 1 || startsWithIdent (skipN 1 ts))) ||
    (w "const" 0 && !(g 1 || w "static" 1 ||
      (w "async" 1 && !(w "unsafe" 2 || w "extern" 2 || w "fn" 2)) || w "move" 1 || p ['|'] 1)) ||
    (w "unsafe" 0 && !g 1) ||
    (w "async" 0 && (w "unsafe" 1 || w "extern" 1 || w "fn" 1)) ||
    w "fn" 0 || w "mod" 0 || w "type" 0 || w "struct" 0 || w "enum" 0 ||
    (w "union" 0 && startsWithIdent (skipN 1 ts)) || (w "auto" 0 && w "trait" 1) ||
    w "trait" 0 || (w "default" 0 && (w "unsafe" 1 || w "impl" 1)) || w "impl" 0 ||
    w "macro" 0

/-- The names of a path of plain names joined by `::`. -/
def plainNames : Tokens → Option (List String)
  | [.ident n _] => some [n]
  | .ident n _ :: .punct ':' _ _ :: .punct ':' _ _ :: rest => (plainNames rest).map (n :: ·)
  | _ => none

/-- A bound of a range pattern read back from its tokens: a literal, possibly negative, or a
path of plain names. -/
def rangeBound? (ts : Tokens) : Option RangeBound :=
  match ts with
  | [.literal text _] => some (.lit (Literal.classify text))
  | [.punct '-' _ _, .literal text _] => some (.lit (Literal.classify ("-" ++ text)))
  | _ => (plainNames ts).map fun ns => .path ⟨false, ns.map fun n => ⟨n, .none⟩, ts⟩

/-- The range pattern of a lower bound and the tokens from the range's dots on: its upper
bound, when that is a literal or a path too; `other` when a bound is neither. -/
def rangePattern (lower : Option RangeBound) (tail : Tokens) : Pattern :=
  let (closed, upper) := match tail with
    | .punct '.' _ _ :: .punct '.' _ _ :: .punct '=' _ _ :: rest => (true, rest)
    | .punct '.' _ _ :: .punct '.' _ _ :: rest => (false, rest)
    | _ => (false, tail)
  match upper with
  | [] => .range lower none closed
  | _ =>
    match rangeBound? upper with
    | some u => .range lower (some u) closed
    | none => .other

mutual

-- Attributes

/-- Outer attributes `#[…]`. -/
def outerAttrs : Nat → Parser Tokens
  | 0 => exhausted
  | n + 1 => do
    if ← peekPunct "#" then
      let pound ← punct "#"
      let body ← attrBody n
      let more ← outerAttrs n
      return pound ++ body ++ more
    else return []

/-- Inner attributes `#![…]`, as a block may start with. -/
def innerAttrs : Nat → Parser Tokens
  | 0 => exhausted
  | n + 1 => do
    if (← peekPunct "#") && (← peekAt 1 (startsWithPunct ['!'])) then
      let pound ← punct "#"
      let bang ← punct "!"
      let body ← attrBody n
      let more ← innerAttrs n
      return pound ++ bang ++ body ++ more
    else return []

/-- The brackets of an attribute with the meta item in them. -/
def attrBody : Nat → Parser Tokens
  | 0 => exhausted
  | n + 1 => do
    let (inner, span) ← inGroup .bracket "expected square brackets" (metaItem n)
    return [.group .bracket inner span]

/-- A meta item: `unsafe` or a path, then a delimited group as it is, `=` and a value, or
nothing. A value that is a single literal is read as one. -/
def metaItem : Nat → Parser Tokens
  | 0 => exhausted
  | n + 1 => do
    let p ← if ← peekWord "unsafe" then word "unsafe" else modPath n
    let ts := (← get).rest
    if startsWithGroup .paren ts || startsWithGroup .bracket ts || startsWithGroup .brace ts then
      return p ++ [← anyTree]
    else if startsWithPunct ['='] ts then
      let eq ← punct "="
      let rest := (← get).rest
      if startsWithLit rest && (match rest with
          | .punct '-' _ _ :: _ :: more => more.isEmpty
          | _ :: more => more.isEmpty
          | [] => false) then
        return p ++ eq ++ (← literal).tokens
      else if startsWithPunct ['#'] rest && startsWithGroup .bracket (skipN 1 rest) then
        errorHere "unexpected attribute inside of attribute"
      else return p ++ eq ++ (← expr n true).tokens
    else return p

/-- A path of plain segments, as an attribute or a macro statement names: an optional leading
`::`, then names separated by `::`. -/
def modPath : Nat → Parser Tokens
  | 0 => exhausted
  | n + 1 => do
    let lead ← optPunct "::"
    let (count, segs, trailing) ← modSegments n
    if count == 0 then
      let _ ← ident
      return lead
    if trailing then errorHere "expected path segment after \x60::\x60"
    return lead ++ segs

/-- The segments of a path of plain names: how many, their tokens, and whether a `::` ends
them. -/
def modSegments : Nat → Parser (Nat × Tokens × Bool)
  | 0 => exhausted
  | n + 1 => do
    let ts := (← get).rest
    if !(startsWithIdent ts || startsWithWord "super" ts || startsWithWord "self" ts ||
        startsWithWord "Self" ts || startsWithWord "crate" ts) then
      return (0, [], false)
    let (_, t) ← anyIdent
    if !(← peekPunct "::") then return (1, t, false)
    let colons ← punct "::"
    let (count, more, trailing) ← modSegments n
    if count == 0 then return (1, t ++ colons, true)
    return (count + 1, t ++ colons ++ more, trailing)

/-- Lifetime parameters up to the closing `>` of `for<…>`. -/
def lifetimeParams : Nat → Parser Tokens
  | 0 => exhausted
  | n + 1 => do
    if ← peekPunct ">" then return []
    let attrs ← outerAttrs n
    let l ← lifetime
    if ← peekPunct ">" then return attrs ++ l
    let comma ← punct ","
    let more ← lifetimeParams n
    return attrs ++ l ++ comma ++ more

/-- Higher-ranked lifetimes `for<'a, 'b>`. -/
def boundLifetimes : Nat → Parser Tokens
  | 0 => exhausted
  | n + 1 => do
    let f ← word "for"
    let lt ← punct "<"
    let ls ← lifetimeParams n
    let gt ← punct ">"
    return f ++ lt ++ ls ++ gt

-- Blocks and statements

/-- The name of a loop's label from its tokens, `'outer:`. -/
def labelName : Tokens → Option String
  | .punct '\'' _ _ :: .ident n _ :: _ => some n
  | _ => none

/-- A block in braces: inner attributes first when `inner` allows them, then statements. -/
def block : Nat → Bool → Parser Expr
  | 0, _ => exhausted
  | n + 1, inner => do
    let ((stmts, tail, body), span) ←
      inGroup .brace "expected curly braces" (blockBody n inner)
    return .block stmts tail [.group .brace body span]

/-- The inside of a block: its statements and the expression it ends with. -/
def blockBody : Nat → Bool → Parser (List Stmt × Option Expr × Tokens)
  | 0, _ => exhausted
  | n + 1, inner => do
    let attrs ← if inner then innerAttrs n else pure []
    let (stmts, ts) ← stmtList n
    match stmts.getLast? with
    | some (.expr e false _) => return (stmts.dropLast, some e, attrs ++ ts)
    | _ => return (stmts, none, attrs ++ ts)

/-- Statements to the end of a block. A statement that needs a semicolon to end it must be the
last one or have it. -/
def stmtList : Nat → Parser (List Stmt × Tokens)
  | 0 => exhausted
  | n + 1 => do
    if ← peekPunct ";" then
      let semi ← punct ";"
      let (more, ts) ← stmtList n
      return (.other semi :: more, semi ++ ts)
    if ← atEnd then return ([], [])
    let (st, needsSemi) ← stmt n
    if ← atEnd then return ([st], st.tokens)
    if needsSemi then errorHere "unexpected token, expected \x60;\x60"
    let (more, ts) ← stmtList n
    return (st :: more, st.tokens ++ ts)

/-- One statement, and whether it needs a semicolon after it to be followed by another: a
macro invocation with braces, `let`, an item, or an expression. -/
def stmt : Nat → Parser (Stmt × Bool)
  | 0 => exhausted
  | n + 1 => do
    let attrs ← outerAttrs n
    let saved ← get
    let mac? ← attempt (modPath n)
    let after ← get
    set saved
    let macroAhead := match mac? with
      | some _ => startsWithPunct ['!'] after.rest
      | none => false
    let afterBang := skipN 1 after.rest
    let itemMacro := macroAhead && (startsWithIdent afterBang || startsWithWord "try" afterBang)
    let braceMacro := macroAhead && startsWithGroup .brace afterBang &&
      !((startsWithPunct ['.'] (skipN 1 afterBang) && !startsWithPunct ['.', '.'] (skipN 1 afterBang)) ||
        startsWithPunct ['?'] (skipN 1 afterBang))
    if braceMacro && !itemMacro then
      let p ← modPath n
      let bang ← punct "!"
      let body ← anyTree
      let semi ← optPunct ";"
      return (.other (attrs ++ p ++ bang ++ [body] ++ semi), false)
    let ts := (← get).rest
    if startsWithWord "let" ts then
      let (pat, ty, init, letTokens) ← localStmt n
      return (.binding pat ty init (attrs ++ letTokens), false)
    if itemMacro || startsItem ts then
      -- a constant or a function is read with its parts; any other item as tokens
      if let some (name, ty, value, tokens) ← attempt (constItem n) then
        return (.constItem name ty value (attrs ++ tokens), false)
      if let some (name, params, result, body, tokens) ← attempt (fnItem n) then
        return (.fnItem name params result body (attrs ++ tokens), false)
      return (.other (attrs ++ (← item n)), false)
    let e ← statementExpr n
    let semi ← optPunct ";"
    let tokens := attrs ++ e.tokens ++ semi
    if e.isMac && (!semi.isEmpty || e.isBraceMacro) then
      return (.other tokens, semi.isEmpty && !e.isBraceMacro)
    if !semi.isEmpty then return (.expr e true tokens, false)
    return (.expr e false tokens, if e.isMac then !e.isBraceMacro else !e.isBlockLike)

/-- A `let` statement after its attributes: its pattern, its declared type, its initializer,
and its tokens. An initializer that does not end in a brace may be followed by `else` and a
block. -/
def localStmt : Nat → Parser (Pattern × Option Ty × Option Expr × Tokens)
  | 0 => exhausted
  | n + 1 => do
    let k ← word "let"
    let (pat, patTokens) ← patSingle n
    let (declared, ty) ← if ← peekPunct ":" then do
        let colon ← punct ":"
        let t ← type n true
        pure (some t, colon ++ t.tokens)
      else pure (none, [])
    let (init, initTokens) ← if ← peekPunct "=" then do
        let eq ← punct "="
        let e ← expr n true
        let endsInBrace := match e.tokens.getLast? with
          | some (.group .brace _ _) => true
          | _ => false
        let diverge ← if !endsInBrace && (← peekWord "else") then do
            let el ← word "else"
            pure (el ++ (← block n true).tokens)
          else pure []
        pure (some e, eq ++ e.tokens ++ diverge)
      else pure (none, [])
    let semi ← punct ";"
    return (pat, declared, init, k ++ patTokens ++ ty ++ initTokens ++ semi)

/-- A `const` or `static` item with a name, a type and a value: its parts and its tokens. -/
def constItem : Nat → Parser (String × Ty × Expr × Tokens)
  | 0 => exhausted
  | n + 1 => do
    let k ← if ← peekWord "static" then do
        let s ← word "static"
        pure (s ++ (← optWord "mut"))
      else word "const"
    let (name, nameTokens) ← ident
    let colon ← punct ":"
    let ty ← type n true
    let eq ← punct "="
    let value ← expr n true
    let semi ← punct ";"
    return (name, ty, value, k ++ nameTokens ++ colon ++ ty.tokens ++ eq ++ value.tokens ++ semi)

/-- A plain function item, `fn name(params) -> result { body }`, possibly `const`: its parts
and its tokens. -/
def fnItem : Nat → Parser (String × List (Pattern × Option Ty) × Option Ty × Expr × Tokens)
  | 0 => exhausted
  | n + 1 => do
    let c ← optWord "const"
    let k := c ++ (← word "fn")
    let (name, nameTokens) ← ident
    let ((params, inner), span) ← inGroup .paren "expected parentheses" (fnParams n)
    let (result, arrowTokens) ← if ← peekPunct "->" then do
        let arrow ← punct "->"
        let t ← type n true
        pure (some t, arrow ++ t.tokens)
      else pure (none, [])
    let body ← block n true
    return (name, params, result, body,
      k ++ nameTokens ++ [.group .paren inner span] ++ arrowTokens ++ body.tokens)

/-- The parameters of a function, each a pattern and a type, to the end of the group. -/
def fnParams : Nat → Parser (List (Pattern × Option Ty) × Tokens)
  | 0 => exhausted
  | n + 1 => do
    if ← atEnd then return ([], [])
    let (pat, patTokens) ← patSingle n
    let colon ← punct ":"
    let ty ← type n true
    let here := patTokens ++ colon ++ ty.tokens
    if ← atEnd then return ([(pat, some ty)], here)
    let comma ← punct ","
    let (more, rest) ← fnParams n
    return ((pat, some ty) :: more, here ++ comma ++ rest)

/-- An item inside a block, read up to its end: a `;`, or a brace group. A function's body is
read as a block, and the value of a `const` or `static` as an expression. -/
def item : Nat → Parser Tokens
  | 0 => exhausted
  | n + 1 => do
    let ts := (← get).rest
    if startsWithWord "const" ts || startsWithWord "static" ts then
      if ← peekAt 1 (fun r => startsWithWord "fn" r || startsWithWord "unsafe" r ||
          startsWithWord "async" r || startsWithWord "extern" r) then
        itemTokens n
      else
        let head ← itemHead n
        if ← peekPunct "=" then
          let eq ← punct "="
          let v ← expr n true
          let semi ← punct ";"
          return head ++ eq ++ v.tokens ++ semi
        else
          let semi ← punct ";"
          return head ++ semi
    else itemTokens n

/-- The tokens of a `const` or `static` item up to its `=` or `;`. -/
def itemHead : Nat → Parser Tokens
  | 0 => exhausted
  | n + 1 => do
    let ts := (← get).rest
    if ts.isEmpty || startsWithPunct [';'] ts ||
        (startsWithPunct ['='] ts && !startsWithPunct ['=', '='] ts) then
      return []
    let t ← anyTree
    return t :: (← itemHead n)

/-- The tokens of an item up to its end: a `;`, or a brace group, which for a function is its
body. -/
def itemTokens : Nat → Parser Tokens
  | 0 => exhausted
  | n + 1 => do
    let ts := (← get).rest
    match ts with
    | [] => return []
    | .punct ';' _ _ :: _ => punct ";"
    | .group .brace _ _ :: _ => return [← anyTree]
    | _ =>
      if startsWithWord "fn" ts then
        let f ← word "fn"
        return f ++ (← fnRest n)
      let t ← anyTree
      return t :: (← itemTokens n)

/-- The rest of a function after `fn`: its signature up to the body, which is a block, or to a
`;`. -/
def fnRest : Nat → Parser Tokens
  | 0 => exhausted
  | n + 1 => do
    let ts := (← get).rest
    match ts with
    | [] => return []
    | .punct ';' _ _ :: _ => punct ";"
    | .group .brace _ _ :: _ => return (← block n true).tokens
    | _ =>
      let t ← anyTree
      return t :: (← fnRest n)

/-- An expression where a statement or a match arm's body starts. An expression that ends in a
block of its own (a block, `if`, `match`, a loop) ends there, unless a method call, a field or
`?` follows it; any other expression goes on with operators. -/
def statementExpr : Nat → Parser Expr
  | 0 => exhausted
  | n + 1 => do
    let attrs ← outerAttrs n
    let ts := (← get).rest
    let w (s : String) (k : Nat) := startsWithWord s (skipN k ts)
    let blockLike? ← if w "if" 0 then some <$> ifExpr n
      else if w "while" 0 then some <$> whileExpr n []
      else if w "for" 0 && !(startsWithPunct ['<'] (skipN 1 ts) &&
          (startsWithLifetime (skipN 2 ts) || startsWithPunct ['>'] (skipN 2 ts))) then
        some <$> forExpr n []
      else if w "loop" 0 then some <$> loopExpr n []
      else if w "match" 0 then some <$> matchExpr n
      else if w "try" 0 && startsWithGroup .brace (skipN 1 ts) then do
        let t ← word "try"
        let b ← block n false
        pure (some (b.withPrefix t))
      else if w "unsafe" 0 then do
        let u ← word "unsafe"
        let b ← block n true
        pure (some (b.withPrefix u))
      else if w "const" 0 && startsWithGroup .brace (skipN 1 ts) then do
        let c ← word "const"
        let b ← block n true
        pure (some (b.withPrefix c))
      else if startsWithGroup .brace ts then some <$> block n true
      else if startsWithLifetime ts then some <$> labeled n
      else pure none
    match blockLike? with
    | none => return (← expr n true).withPrefix attrs
    | some e =>
      let e := e.withPrefix attrs
      if ((← peekPunct ".") && !(← peekPunct "..")) || (← peekPunct "?") then
        let e' ← trailers n e
        binaryTail n e' true .jump
      else return e

/-- `if` with its condition, block and `else` branches. -/
def ifExpr : Nat → Parser Expr
  | 0 => exhausted
  | n + 1 => do
    let attrs ← outerAttrs n
    let k ← word "if"
    let cond ← expr n false
    let thenBranch ← block n false
    let head := attrs ++ k ++ cond.tokens ++ thenBranch.tokens
    if ← peekWord "else" then
      let e ← word "else"
      if ← peekWord "if" then
        let next ← ifExpr n
        return .ifElse cond thenBranch (some next) (head ++ e ++ next.tokens)
      else if ← peekGroup .brace then
        let b ← block n false
        return .ifElse cond thenBranch (some b) (head ++ e ++ b.tokens)
      else expectedOneOf ["\x60if\x60", "curly braces"]
    else return .ifElse cond thenBranch none head

/-- `while` with its condition and block, after an optional label. -/
def whileExpr : Nat → Tokens → Parser Expr
  | 0, _ => exhausted
  | n + 1, label => do
    let k ← word "while"
    let cond ← expr n false
    let b ← block n true
    return .whileLoop (labelName label) cond b (label ++ k ++ cond.tokens ++ b.tokens)

/-- `for` with its pattern, iterated expression and block, after an optional label. -/
def forExpr : Nat → Tokens → Parser Expr
  | 0, _ => exhausted
  | n + 1, label => do
    let k ← word "for"
    let (pat, patTokens) ← patMulti n
    let i ← word "in"
    let iterated ← expr n false
    let b ← block n true
    return .forLoop (labelName label) pat iterated b
      (label ++ k ++ patTokens ++ i ++ iterated.tokens ++ b.tokens)

/-- `loop` with its block, after an optional label. -/
def loopExpr : Nat → Tokens → Parser Expr
  | 0, _ => exhausted
  | n + 1, label => do
    let k ← word "loop"
    let b ← block n true
    return .loop (labelName label) b (label ++ k ++ b.tokens)

/-- `match` with its scrutinee and arms. -/
def matchExpr : Nat → Parser Expr
  | 0 => exhausted
  | n + 1 => do
    let k ← word "match"
    let scrutinee ← expr n false
    let ((arms, inner), span) ← inGroup .brace "expected curly braces" (matchBody n)
    return .matchOn scrutinee arms (k ++ scrutinee.tokens ++ [.group .brace inner span])

/-- The inside of a `match`: inner attributes, then arms. -/
def matchBody : Nat → Parser (List Arm × Tokens)
  | 0 => exhausted
  | n + 1 => do
    let attrs ← innerAttrs n
    let (arms, ts) ← armList n
    return (arms, attrs ++ ts)

/-- Arms to the end of a `match`. -/
def armList : Nat → Parser (List Arm × Tokens)
  | 0 => exhausted
  | n + 1 => do
    if ← atEnd then return ([], [])
    let a ← arm n
    let (more, ts) ← armList n
    return (a :: more, a.tokens ++ ts)

/-- One arm: a pattern, an optional guard, `=>` and a body. A body that does not end in a block
of its own needs a comma unless it is the last arm. -/
def arm : Nat → Parser Arm
  | 0 => exhausted
  | n + 1 => do
    let attrs ← outerAttrs n
    let (pat, patTokens) ← patMulti n
    let (guard, guardTokens) ← if ← peekWord "if" then do
        let k ← word "if"
        let g ← expr n true
        pure (some g, k ++ g.tokens)
      else pure (none, [])
    let arrow ← punct "=>"
    let body ← statementExpr n
    let comma ← if !body.isBlockLike && !(← atEnd) then punct "," else optPunct ","
    return .arm pat guard body (attrs ++ patTokens ++ guardTokens ++ arrow ++ body.tokens ++ comma)

/-- A labeled loop or block. -/
def labeled : Nat → Parser Expr
  | 0 => exhausted
  | n + 1 => do
    let l ← lifetime
    let colon ← punct ":"
    let label := l ++ colon
    if ← peekWord "while" then whileExpr n label
    else if ← peekWord "for" then forExpr n label
    else if ← peekWord "loop" then loopExpr n label
    else if ← peekGroup .brace then return (← block n true).withPrefix label
    else errorHere "expected loop or block expression"

/-- A const generic argument: a literal, an identifier or a block. -/
def constArg : Nat → Parser Tokens
  | 0 => exhausted
  | n + 1 => do
    let ts := (← get).rest
    if startsWithLit ts then return (← literal).tokens
    else if startsWithIdent ts then return (← ident).2
    else if startsWithGroup .brace ts then return (← block n true).tokens
    else errorHere "expected a const argument"

-- Expressions

/-- An expression; `allowStruct` says whether a path followed by a brace is a struct literal. -/
def expr : Nat → Bool → Parser Expr
  | 0, _ => exhausted
  | n + 1, allowStruct => do
    let lhs ← unaryExpr n allowStruct
    binaryTail n lhs allowStruct .jump

/-- A unary expression: a reference, `-`, `*` or `!` before one, or an operand with its
trailers. -/
def unaryExpr : Nat → Bool → Parser Expr
  | 0, _ => exhausted
  | n + 1, allowStruct => do
    let attrs ← outerAttrs n
    if ← peekPunct "&" then
      let amp ← punct "&"
      let raw ← if (← peekWord "raw") &&
          ((← peekAt 1 (startsWithWord "mut")) || (← peekAt 1 (startsWithWord "const"))) then
          word "raw" else pure []
      let mutability ← optWord "mut"
      let constness ← if !raw.isEmpty && mutability.isEmpty then word "const" else pure []
      let inner ← unaryExpr n allowStruct
      let ts := attrs ++ amp ++ raw ++ mutability ++ constness ++ inner.tokens
      return if raw.isEmpty then .reference inner ts else .other ts
    else if ← peekPunct "-" then
      let op ← punct "-"
      let inner ← unaryExpr n allowStruct
      return .neg inner (attrs ++ op ++ inner.tokens)
    else if (← peekPunct "*") || (← peekPunct "!") then
      let c := if ← peekPunct "*" then '*' else '!'
      let op ← punct c.toString
      let inner ← unaryExpr n allowStruct
      return .unary c inner (attrs ++ op ++ inner.tokens)
    else
      let atom ← atomExpr n allowStruct
      let e ← trailers n atom
      return e.withPrefix attrs

/-- Calls, method calls, fields, indexing and `?` after an operand. -/
def trailers : Nat → Expr → Parser Expr
  | 0, _ => exhausted
  | n + 1, e => do
    if ← peekGroup .paren then
      let ((args, inner), span) ← inGroup .paren "expected parentheses" (exprList n)
      trailers n (.call e args (e.tokens ++ [.group .paren inner span]))
    else if (← peekPunct ".") && !(← peekPunct "..") && !e.isRange then
      let dot ← punct "."
      match (← get).rest with
      | .literal text sp :: rest =>
        match Literal.classify text with
        | .float _ =>
          modify fun c => { c with rest }
          match tupleIndices text with
          | .error msg => failAt msg sp
          | .ok (indices, trailing) =>
            let e' := indices.zipIdx.foldl (fun acc (i, k) =>
                let sep := if k == 0 then dot else [TokenTree.punct '.' .alone sp]
                Expr.field acc (toString i) (acc.tokens ++ sep ++ [.literal (toString i) sp]))
              e
            if trailing then afterDot n e' [.punct '.' .alone sp] else trailers n e'
        | _ => afterDot n e dot
      | _ => afterDot n e dot
    else if ← peekGroup .bracket then
      let (index, span) ← inGroup .bracket "expected square brackets" (expr n true)
      trailers n (.index e index (e.tokens ++ [.group .bracket index.tokens span]))
    else if (← peekPunct "?") && !e.isRange then
      let q ← punct "?"
      trailers n (.other (e.tokens ++ q))
    else return e

/-- What follows a dot: `await`, a field, or a method call with an optional turbofish. -/
def afterDot : Nat → Expr → Tokens → Parser Expr
  | 0, _, _ => exhausted
  | n + 1, e, dot => do
    if ← peekWord "await" then
      let aw ← word "await"
      trailers n (.other (e.tokens ++ dot ++ aw))
    else
      let (name?, m) ← member
      let turbofish ← if name?.isSome && (← peekPunct "::") then (·.2) <$> angleArgs n
        else pure []
      match name? with
      | some name =>
        if !turbofish.isEmpty || (← peekGroup .paren) then
          let ((args, inner), span) ← inGroup .paren "expected parentheses" (exprList n)
          trailers n (.method e name args
            (e.tokens ++ dot ++ m ++ turbofish ++ [.group .paren inner span]))
        else trailers n (.field e name (e.tokens ++ dot ++ m))
      | none =>
        match m with
        | [.literal index _] => trailers n (.field e index (e.tokens ++ dot ++ m))
        | _ => trailers n (.other (e.tokens ++ dot ++ m))

/-- The operand of an expression. -/
def atomExpr : Nat → Bool → Parser Expr
  | 0, _ => exhausted
  | n + 1, allowStruct => do
    let ts := (← get).rest
    let p (cs : List Char) (k : Nat) := startsWithPunct cs (skipN k ts)
    let w (s : String) (k : Nat) := startsWithWord s (skipN k ts)
    let g (d : Delimiter) (k : Nat) := startsWithGroup d (skipN k ts)
    if startsWithLit ts then literal
    else if w "async" 0 && (g .brace 1 || (w "move" 1 && g .brace 2)) then
      let a ← word "async"
      let m ← optWord "move"
      return .other (a ++ m ++ (← block n false).tokens)
    else if w "try" 0 && g .brace 1 then
      let t ← word "try"
      return (← block n false).withPrefix t
    else if p ['|'] 0 || w "move" 0 ||
        (w "for" 0 && p ['<'] 1 && (startsWithLifetime (skipN 2 ts) || p ['>'] 2)) ||
        (w "const" 0 && !g .brace 1) || w "static" 0 ||
        (w "async" 0 && (p ['|'] 1 || w "move" 1)) then
      closure n allowStruct
    else if w "builtin" 0 && p ['#'] 1 then
      let b ← word "builtin"
      let pound ← anyTree
      let (_, name) ← ident
      let args ← rawGroup .paren "expected parentheses"
      return .other (b ++ [pound] ++ name ++ [args])
    else if startsWithIdent ts || p [':', ':'] 0 || p ['<'] 0 || w "self" 0 || w "Self" 0 ||
        w "super" 0 || w "crate" 0 || (w "try" 0 && (p ['!'] 1 || p [':', ':'] 1)) then
      pathExpr n allowStruct
    else if g .paren 0 then parenOrTuple n
    else if w "break" 0 then breakExpr n allowStruct
    else if w "continue" 0 then
      let k ← word "continue"
      let l ← optLifetime
      return .continueLoop (labelName l) (k ++ l)
    else if w "return" 0 then
      let k ← word "return"
      let v ← if ← peekExprStart then (·.tokens) <$> expr n true else pure []
      return .other (k ++ v)
    else if w "become" 0 then
      let k ← word "become"
      let v ← expr n true
      return .other (k ++ v.tokens)
    else if g .bracket 0 then arrayOrRepeat n
    else if w "let" 0 then
      let k ← word "let"
      let (pat, patTokens) ← patMulti n
      let eq ← punct "="
      let lhs ← unaryExpr n allowStruct
      let v ← binaryTail n lhs allowStruct .compare
      return .letCond pat v (k ++ patTokens ++ eq ++ v.tokens)
    else if w "if" 0 then ifExpr n
    else if w "while" 0 then whileExpr n []
    else if w "for" 0 then forExpr n []
    else if w "loop" 0 then loopExpr n []
    else if w "match" 0 then matchExpr n
    else if w "yield" 0 then
      let k ← word "yield"
      let v ← if ← peekExprStart then (·.tokens) <$> expr n true else pure []
      return .other (k ++ v)
    else if w "unsafe" 0 then
      let k ← word "unsafe"
      return (← block n true).withPrefix k
    else if w "const" 0 then
      let k ← word "const"
      return (← block n true).withPrefix k
    else if g .brace 0 then block n true
    else if p ['.', '.'] 0 then
      let (closed, limits) ← rangeLimits
      let upper ← rangeEnd n closed allowStruct
      return .range none upper closed (limits ++ tokensOf upper)
    else if startsWithUnderscore ts then return .other [← anyTree]
    else if startsWithLifetime ts then labeled n
    else errorHere "expected an expression"

/-- Expressions separated by commas, with an optional trailing comma, to the end of a group. -/
def exprList : Nat → Parser (List Expr × Tokens)
  | 0 => exhausted
  | n + 1 => do
    if ← atEnd then return ([], [])
    let e ← expr n true
    if ← atEnd then return ([e], e.tokens)
    let comma ← punct ","
    let (es, ts) ← exprList n
    return (e :: es, e.tokens ++ comma ++ ts)

/-- The rest of a tuple or an array after its first element: comma, element, and so on. -/
def tupleRest : Nat → Parser (List Expr × Tokens)
  | 0 => exhausted
  | n + 1 => do
    if ← atEnd then return ([], [])
    let comma ← punct ","
    if ← atEnd then return ([], comma)
    let e ← expr n true
    let (es, ts) ← tupleRest n
    return (e :: es, comma ++ e.tokens ++ ts)

/-- The inside of parentheses: nothing, one expression, or the elements of a tuple. -/
def parenBody : Nat → Parser ((Option Expr × List Expr) × Tokens)
  | 0 => exhausted
  | n + 1 => do
    if ← atEnd then return ((none, []), [])
    let first ← expr n true
    if ← atEnd then return ((some first, []), first.tokens)
    let (items, ts) ← tupleRest n
    return ((none, first :: items), first.tokens ++ ts)

/-- An expression in parentheses, or a tuple. -/
def parenOrTuple : Nat → Parser Expr
  | 0 => exhausted
  | n + 1 => do
    let (((single, items), inner), span) ← inGroup .paren "expected parentheses" (parenBody n)
    let g := TokenTree.group .paren inner span
    match single with
    | some e => return .paren e [g]
    | none => return .tuple items [g]

/-- The inside of brackets: array elements, or an element, `;` and a length. -/
def arrayBody : Nat → Parser ((List Expr ⊕ Expr × Expr) × Tokens)
  | 0 => exhausted
  | n + 1 => do
    if ← atEnd then return (.inl [], [])
    let first ← expr n true
    if (← atEnd) || (← peekPunct ",") then
      let (items, ts) ← tupleRest n
      return (.inl (first :: items), first.tokens ++ ts)
    else if ← peekPunct ";" then
      let semi ← punct ";"
      let len ← expr n true
      return (.inr (first, len), first.tokens ++ semi ++ len.tokens)
    else errorHere "expected \x60,\x60 or \x60;\x60"

/-- An array, or an array of one repeated element. -/
def arrayOrRepeat : Nat → Parser Expr
  | 0 => exhausted
  | n + 1 => do
    let ((items, inner), span) ← inGroup .bracket "expected square brackets" (arrayBody n)
    let g := TokenTree.group .bracket inner span
    match items with
    | .inl es => return .array es [g]
    | .inr (item, count) => return .repeated item count [g]

/-- A path, a macro invocation, or a struct literal. -/
def pathExpr : Nat → Bool → Parser Expr
  | 0, _ => exhausted
  | n + 1, allowStruct => do
    let (qualified, p) ← qpath n true
    if !qualified && (← peekPunct "!") && !(← peekPunct "!=") && p.isModStyle then
      let bang ← punct "!"
      let body ← delimited
      return .mac (p.tokens ++ bang ++ [body])
    else if allowStruct && (← peekGroup .brace) then
      let (inner, span) ← inGroup .brace "expected curly braces" (structBody n)
      return .other (p.tokens ++ [.group .brace inner span])
    else return .path qualified p.segments p.tokens

/-- The fields of a struct literal, with an optional `..base` at the end. -/
def structBody : Nat → Parser Tokens
  | 0 => exhausted
  | n + 1 => do
    if ← atEnd then return []
    if ← peekPunct ".." then
      let dots ← punct ".."
      if ← atEnd then return dots
      let base ← expr n true
      return dots ++ base.tokens
    let f ← fieldValue n
    if ← atEnd then return f
    let comma ← punct ","
    let more ← structBody n
    return f ++ comma ++ more

/-- One field of a struct literal: `name: value`, `0: value`, or a name alone. -/
def fieldValue : Nat → Parser Tokens
  | 0 => exhausted
  | n + 1 => do
    let attrs ← outerAttrs n
    let (name?, m) ← member
    if (← peekPunct ":") || name?.isNone then
      let colon ← punct ":"
      let v ← expr n true
      return attrs ++ m ++ colon ++ v.tokens
    else return attrs ++ m

/-- A closure. -/
def closure : Nat → Bool → Parser Expr
  | 0, _ => exhausted
  | n + 1, allowStruct => do
    let lifetimes ← if ← peekWord "for" then boundLifetimes n else pure []
    let constness ← optWord "const"
    let movability ← optWord "static"
    let asyncness ← optWord "async"
    let capture ← optWord "move"
    let open_ ← punct "|"
    let (params, args) ← closureArgs n
    let close ← punct "|"
    let head :=
      lifetimes ++ constness ++ movability ++ asyncness ++ capture ++ open_ ++ args ++ close
    let plain := lifetimes.isEmpty && constness.isEmpty && movability.isEmpty &&
      asyncness.isEmpty
    if ← peekPunct "->" then
      let arrow ← punct "->"
      let ty ← type n true
      let body ← block n false
      let ts := head ++ arrow ++ ty.tokens ++ body.tokens
      return if plain then .closure params (some ty) body ts else .other ts
    else
      let body ← expr n allowStruct
      let ts := head ++ body.tokens
      return if plain then .closure params none body ts else .other ts

/-- The parameters of a closure, up to its closing bar. -/
def closureArgs : Nat → Parser (List (Pattern × Option Ty) × Tokens)
  | 0 => exhausted
  | n + 1 => do
    if ← peekPunct "|" then return ([], [])
    let attrs ← outerAttrs n
    let (pat, patTokens) ← patSingle n
    let (declared, ty) ← if ← peekPunct ":" then do
        let colon ← punct ":"
        let t ← type n true
        pure (some t, colon ++ t.tokens)
      else pure (none, [])
    let arg := attrs ++ patTokens ++ ty
    if ← peekPunct "|" then return ([(pat, declared)], arg)
    let comma ← punct ","
    let (more, rest) ← closureArgs n
    return ((pat, declared) :: more, arg ++ comma ++ rest)

/-- `break` with an optional label and value. -/
def breakExpr : Nat → Bool → Parser Expr
  | 0, _ => exhausted
  | n + 1, allowStruct => do
    let k ← word "break"
    let ts := (← get).rest
    if startsWithLifetime ts && startsWithPunct [':'] (skipN 1 ts) then
      -- a labeled loop as the value needs parentheses
      let apostrophe := (ts.head?.map TokenTree.span).getD .callSite
      let v ← expr n true
      let last := (v.tokens.getLast?.map TokenTree.span).getD apostrophe
      throw ⟨"parentheses required", apostrophe, last⟩
    let l ← optLifetime
    let v ← if (← peekExprStart) && (allowStruct || !(← peekGroup .brace)) then
        some <$> expr n true
      else pure none
    return .breakOut (labelName l) v (k ++ l ++ tokensOf v)

/-- The upper bound of a range, if it has one. -/
def rangeEnd : Nat → Bool → Bool → Parser (Option Expr)
  | 0, _, _ => exhausted
  | n + 1, closed, allowStruct => do
    if !closed && rangeEndsHere allowStruct (← get).rest then return none
    let e ← binaryRhs n allowStruct .range
    return some e

/-- Binary operators, assignments, ranges and casts after `lhs`, as long as they bind at least
as tightly as `base`. -/
def binaryTail : Nat → Expr → Bool → Precedence → Parser Expr
  | 0, _, _, _ => exhausted
  | n + 1, lhs, allowStruct, base => do
    let ts := (← get).rest
    if lhs.isRange then return lhs
    match binaryOpAt ts with
    | some (op, prec) =>
      if prec.rank < base.rank then return lhs
      if prec == .compare && lhs.isComparison then
        errorHere "comparison operators cannot be chained"
      let opTokens ← punct op
      let rhs ← binaryRhs n allowStruct prec
      binaryTail n (.binary op lhs rhs (lhs.tokens ++ opTokens ++ rhs.tokens)) allowStruct base
    | none =>
      if Precedence.assign.rank ≥ base.rank && startsWithPunct ['='] ts &&
          !startsWithPunct ['=', '>'] ts then
        let eq ← punct "="
        let rhs ← binaryRhs n allowStruct .assign
        binaryTail n (.binary "=" lhs rhs (lhs.tokens ++ eq ++ rhs.tokens)) allowStruct base
      else if Precedence.range.rank ≥ base.rank && startsWithPunct ['.', '.'] ts then
        let (closed, limits) ← rangeLimits
        let upper ← rangeEnd n closed allowStruct
        binaryTail n (.range (some lhs) upper closed (lhs.tokens ++ limits ++ tokensOf upper))
          allowStruct base
      else if Precedence.cast.rank ≥ base.rank && startsWithWord "as" ts then
        let asWord ← word "as"
        let ty ← type n false
        checkCast
        binaryTail n (.cast lhs ty (lhs.tokens ++ asWord ++ ty.tokens)) allowStruct base
      else return lhs

/-- The right operand of an operator of precedence `prec`, with every operator that binds
tighter. -/
def binaryRhs : Nat → Bool → Precedence → Parser Expr
  | 0, _, _ => exhausted
  | n + 1, allowStruct, prec => do
    let rhs ← unaryExpr n allowStruct
    rhsLoop n rhs allowStruct prec

/-- Extend a right operand while the next operator binds tighter than `prec` (or is another
assignment, which groups to the right). -/
def rhsLoop : Nat → Expr → Bool → Precedence → Parser Expr
  | 0, _, _, _ => exhausted
  | n + 1, rhs, allowStruct, prec => do
    let next := precedenceAt (← get).rest
    if next.rank > prec.rank || (next == prec && prec == .assign) then
      let before := (← get).rest.length
      let rhs' ← binaryTail n rhs allowStruct next
      if (← get).rest.length == before then return rhs'
      rhsLoop n rhs' allowStruct prec
    else return rhs

-- Paths

/-- A path, or a qualified path `<T>::name` / `<T as Trait>::name`; `exprStyle` asks for
`::<…>` before generic arguments. A qualified path whose type is a plain path names an item of
that type, so its segments are the type's followed by the item's: `<i32 as Default>::default`
is read as `i32::default`. -/
def qpath : Nat → Bool → Parser (Bool × Path)
  | 0, _ => exhausted
  | n + 1, exprStyle => do
    if ← peekPunct "<" then
      let lt ← punct "<"
      let this ← type n true
      let (asTokens, asPath) ← if ← peekWord "as" then do
          let a ← word "as"
          let p ← path n false
          pure (a ++ p.tokens, some p)
        else pure ([], none)
      let gt ← punct ">"
      let colons ← punct "::"
      let (segs, segTokens) ← qpathSegments n exprStyle
      let tokens := lt ++ this.tokens ++ asTokens ++ gt ++ colons ++ segTokens
      match this with
      | .path false p _ =>
        if !p.leadingColon then
          return (true, { leadingColon := false, segments := p.segments ++ segs, tokens })
      | _ => pure ()
      let segments := ((asPath.map (·.segments)).getD []) ++ segs
      return (true, { leadingColon := asPath.isNone, segments, tokens })
    else return (false, ← path n exprStyle)

/-- The segments after the `>::` of a qualified path. -/
def qpathSegments : Nat → Bool → Parser (List Segment × Tokens)
  | 0, _ => exhausted
  | n + 1, exprStyle => do
    let (s, t) ← segment n exprStyle
    if !(← peekPunct "::") then return ([s], t)
    let colons ← punct "::"
    let (more, moreTokens) ← qpathSegments n exprStyle
    return (s :: more, t ++ colons ++ moreTokens)

/-- A path with an optional leading `::`. -/
def path : Nat → Bool → Parser Path
  | 0, _ => exhausted
  | n + 1, exprStyle => do
    let lead ← optPunct "::"
    let (first, firstTokens) ← segment n exprStyle
    let (rest, restTokens) ← pathRest n exprStyle
    let tokens := lead ++ firstTokens ++ restTokens
    return { leadingColon := !lead.isEmpty, segments := first :: rest, tokens }

/-- More `::segment`s of a path, stopping before `::(`. -/
def pathRest : Nat → Bool → Parser (List Segment × Tokens)
  | 0, _ => exhausted
  | n + 1, exprStyle => do
    if (← peekPunct "::") && !(← peekAt 2 (startsWithGroup .paren)) then
      let colons ← punct "::"
      let (s, t) ← segment n exprStyle
      let (more, moreTokens) ← pathRest n exprStyle
      return (s :: more, colons ++ t ++ moreTokens)
    else return ([], [])

/-- One path segment: a name with optional generic arguments. -/
def segment : Nat → Bool → Parser (Segment × Tokens)
  | 0, _ => exhausted
  | n + 1, exprStyle => do
    if (← peekWord "super") || (← peekWord "self") || (← peekWord "crate") ||
        (← peekWord "try") then
      let (name, t) ← anyIdent
      return ({ name, args := .none }, t)
    let (name, t) ← if ← peekWord "Self" then anyIdent else ident
    if (!exprStyle && (← peekPunct "<") && !(← peekPunct "<=") && !(← peekPunct "<<=")) ||
        ((← peekPunct "::") && (← peekAt 2 (startsWithPunct ['<']))) then
      let (count, args) ← angleArgs n
      return ({ name, args := .angle count }, t ++ args)
    else return ({ name, args := .none }, t)

/-- Generic arguments `<…>`, with an optional `::` before them; the result counts them. -/
def angleArgs : Nat → Parser (Nat × Tokens)
  | 0 => exhausted
  | n + 1 => do
    let colons ← optPunct "::"
    let lt ← punct "<"
    let (count, args) ← genericArgs n
    let gt ← punct ">"
    return (count, colons ++ lt ++ args ++ gt)

/-- Generic arguments separated by commas, up to the closing `>`. -/
def genericArgs : Nat → Parser (Nat × Tokens)
  | 0 => exhausted
  | n + 1 => do
    if ← peekPunct ">" then return (0, [])
    let a ← genericArg n
    if ← peekPunct ">" then return (1, a)
    let comma ← punct ","
    let (count, more) ← genericArgs n
    return (count + 1, a ++ comma ++ more)

/-- One generic argument: a lifetime, a constant, a type, or an associated item binding. -/
def genericArg : Nat → Parser Tokens
  | 0 => exhausted
  | n + 1 => do
    let ts := (← get).rest
    if startsWithLifetime ts && !startsWithPunct ['+'] (skipN 1 ts) then lifetime
    else if startsWithLit ts || startsWithGroup .brace ts then constArg n
    else
      let t ← type n true
      match t with
      | .path false p _ =>
        let simple := !p.leadingColon &&
          (match p.segments with
            | [s] => s.args != .parenthesized
            | _ => false)
        if simple && (← peekPunct "=") then
          let eq ← punct "="
          if startsWithLit (← get).rest || (← peekGroup .brace) then
            return t.tokens ++ eq ++ (← constArg n)
          let v ← type n true
          return t.tokens ++ eq ++ v.tokens
        else if simple && (← peekPunct ":") then
          let colon ← punct ":"
          return t.tokens ++ colon ++ (← constraintBounds n)
        else return t.tokens
      | _ => return t.tokens

/-- The bounds of an associated type constraint, up to `,` or `>`. -/
def constraintBounds : Nat → Parser Tokens
  | 0 => exhausted
  | n + 1 => do
    let ts := (← get).rest
    if startsWithPunct [','] ts || startsWithPunct ['>'] ts then return []
    let (b, _) ← bound n
    if !(← peekPunct "+") then return b
    let plus ← punct "+"
    return b ++ plus ++ (← constraintBounds n)

-- Types

/-- A type; `allowPlus` says whether `+` may join bounds of a trait object. -/
def type : Nat → Bool → Parser Ty
  | 0, _ => exhausted
  | n + 1, allowPlus => do
    let higher ← if ← peekWord "for" then boundLifetimes n else pure []
    let ts := (← get).rest
    let w (s : String) := startsWithWord s ts
    if !higher.isEmpty &&
        (!(startsWithIdent ts || w "fn" || w "unsafe" || w "extern" || w "super" || w "self" ||
          w "Self" || w "crate") || w "dyn") then
      expectedOneOf boundTypeAlternatives
    if startsWithGroup .paren ts then parenType n allowPlus
    else if w "fn" || w "unsafe" || w "extern" then
      return .other (higher ++ (← bareFn n))
    else if startsWithIdent ts || w "super" || w "self" || w "Self" || w "crate" ||
        startsWithPunct [':', ':'] ts || startsWithPunct ['<'] ts then
      pathType n allowPlus higher
    else if w "dyn" then
      let d ← word "dyn"
      let star ← optPunct "*"
      let (b, _) ← bounds n allowPlus
      return .other (d ++ star ++ b)
    else if startsWithGroup .bracket ts then
      let (inner, span) ← inGroup .bracket "expected square brackets" (arrayTypeBody n)
      return .other [.group .bracket inner span]
    else if startsWithPunct ['*'] ts then
      let star ← punct "*"
      let q ← if ← peekWord "const" then word "const"
        else if ← peekWord "mut" then word "mut"
        else expectedOneOf ["\x60const\x60", "\x60mut\x60"]
      let elem ← type n false
      return .other (star ++ q ++ elem.tokens)
    else if startsWithPunct ['&'] ts then
      let amp ← punct "&"
      let l ← optLifetime
      let m ← optWord "mut"
      let elem ← type n false
      return .other (amp ++ l ++ m ++ elem.tokens)
    else if startsWithPunct ['!'] ts then return .other (← punct "!")
    else if w "impl" then
      let i ← word "impl"
      let (b, _) ← bounds n allowPlus
      return .other (i ++ b)
    else if startsWithUnderscore ts then return .other [← anyTree]
    else if startsWithLifetime ts then
      let (b, _) ← bounds n true
      return .other b
    else expectedOneOf typeAlternatives

/-- A type in parentheses, a tuple type, or a parenthesized trait bound. -/
def parenType : Nat → Bool → Parser Ty
  | 0, _ => exhausted
  | n + 1, allowPlus => do
    let ((single, inner), span) ← inGroup .paren "expected parentheses" (parenTypeBody n)
    let g := TokenTree.group .paren inner span
    match single with
    | some t =>
      match t with
      | .path false _ _ =>
        if allowPlus && (← peekPunct "+") then return .other ([g] ++ (← plusBounds n))
        else return .paren t [g]
      | _ => return .paren t [g]
    | none => return .other [g]

/-- The inside of a parenthesized type. -/
def parenTypeBody : Nat → Parser (Option Ty × Tokens)
  | 0 => exhausted
  | n + 1 => do
    if ← atEnd then return (none, [])
    if startsWithLifetime (← get).rest || (← peekPunct "?") then
      let (b, _) ← bounds n true
      return (none, b)
    let first ← type n true
    if ← peekPunct "," then
      let comma ← punct ","
      return (none, first.tokens ++ comma ++ (← typeList n))
    return (some first, first.tokens)

/-- Types separated by commas, with an optional trailing comma, to the end of a group. -/
def typeList : Nat → Parser Tokens
  | 0 => exhausted
  | n + 1 => do
    if ← atEnd then return []
    let t ← type n true
    if ← atEnd then return t.tokens
    let comma ← punct ","
    return t.tokens ++ comma ++ (← typeList n)

/-- The inside of a slice or array type. -/
def arrayTypeBody : Nat → Parser Tokens
  | 0 => exhausted
  | n + 1 => do
    let elem ← type n true
    if ← peekPunct ";" then
      let semi ← punct ";"
      let len ← expr n true
      return elem.tokens ++ semi ++ len.tokens
    return elem.tokens

/-- A path type, a macro in type position, or a trait object starting with a path. -/
def pathType : Nat → Bool → Tokens → Parser Ty
  | 0, _, _ => exhausted
  | n + 1, allowPlus, higher => do
    let (qualified, p) ← typePath n
    if qualified then return .path true p p.tokens
    if (← peekPunct "!") && !(← peekPunct "!=") && p.isModStyle then
      let bang ← punct "!"
      let body ← delimited
      return .other (p.tokens ++ bang ++ [body])
    if !higher.isEmpty || (allowPlus && (← peekPunct "+")) then
      let more ← if allowPlus then plusBounds n else pure []
      return .other (higher ++ p.tokens ++ more)
    return .path false p p.tokens

/-- A path in type position, where `Fn(A) -> B` gives a segment parenthesized arguments. -/
def typePath : Nat → Parser (Bool × Path)
  | 0 => exhausted
  | n + 1 => do
    let (qualified, p) ← qpath n false
    return (qualified, ← parenSugar n p)

/-- Parenthesized arguments on the last segment of a type path, while there are some. -/
def parenSugar : Nat → Path → Parser Path
  | 0, _ => exhausted
  | n + 1, p => do
    let lastEmpty := (p.segments.getLast?.map Segment.argsEmpty).getD false
    if lastEmpty && ((← peekGroup .paren) ||
        ((← peekPunct "::") && (← peekAt 2 (startsWithGroup .paren)))) then
      let colons ← optPunct "::"
      let args ← parenArgs n
      let (rest, restTokens) ← pathRest n false
      let last : Segment := { (p.segments.getLast?.getD default) with args := .parenthesized }
      let segments := p.segments.dropLast ++ [last] ++ rest
      parenSugar n { p with segments, tokens := p.tokens ++ colons ++ args ++ restTokens }
    else return p

/-- Parenthesized generic arguments `(A, B) -> C`. -/
def parenArgs : Nat → Parser Tokens
  | 0 => exhausted
  | n + 1 => do
    let (inner, span) ← inGroup .paren "expected parentheses" (typeList n)
    return [.group .paren inner span] ++ (← returnType n false)

/-- An optional return type `-> T`. -/
def returnType : Nat → Bool → Parser Tokens
  | 0, _ => exhausted
  | n + 1, allowPlus => do
    if ← peekPunct "->" then
      let arrow ← punct "->"
      let t ← type n allowPlus
      return arrow ++ t.tokens
    else return []

/-- A function pointer type. -/
def bareFn : Nat → Parser Tokens
  | 0 => exhausted
  | n + 1 => do
    let u ← optWord "unsafe"
    let abi ← if ← peekWord "extern" then do
        let e ← word "extern"
        match (← get).rest with
        | .literal text _ :: _ =>
          match Literal.classify text with
          | .str _ => pure (e ++ [← anyTree])
          | _ => pure e
        | _ => pure e
      else pure []
    let f ← word "fn"
    let (inner, span) ← inGroup .paren "expected parentheses" (bareFnArgs n)
    return u ++ abi ++ f ++ [.group .paren inner span] ++ (← returnType n false)

/-- The parameters of a function pointer type, each with an optional name. -/
def bareFnArgs : Nat → Parser Tokens
  | 0 => exhausted
  | n + 1 => do
    if ← atEnd then return []
    let attrs ← outerAttrs n
    let ts := (← get).rest
    let name ← if (startsWithIdent ts || startsWithUnderscore ts || startsWithWord "self" ts) &&
        startsWithPunct [':'] (skipN 1 ts) && !startsWithPunct [':', ':'] (skipN 1 ts) then do
        let (_, i) ← anyIdent
        let c ← punct ":"
        pure (i ++ c)
      else pure []
    let t ← type n true
    let arg := attrs ++ name ++ t.tokens
    if ← atEnd then return arg
    let comma ← punct ","
    return arg ++ comma ++ (← bareFnArgs n)

/-- Bounds joined by `+`; the flag says whether one of them is a trait. -/
def bounds : Nat → Bool → Parser (Tokens × Bool)
  | 0, _ => exhausted
  | n + 1, allowPlus => do
    let (b, isTrait) ← bound n
    if !(allowPlus && (← peekPunct "+")) then return (b, isTrait)
    let plus ← punct "+"
    let ts := (← get).rest
    if !(startsWithAnyIdent ts || startsWithPunct [':', ':'] ts || startsWithPunct ['?'] ts ||
        startsWithLifetime ts || startsWithGroup .paren ts || startsWithPunct ['~'] ts) then
      return (b ++ plus, isTrait)
    let (more, moreTrait) ← bounds n allowPlus
    return (b ++ plus ++ more, isTrait || moreTrait)

/-- More bounds after a first one, each after a `+`. -/
def plusBounds : Nat → Parser Tokens
  | 0 => exhausted
  | n + 1 => do
    if !(← peekPunct "+") then return []
    let plus ← punct "+"
    let ts := (← get).rest
    if !(startsWithAnyIdent ts || startsWithPunct [':', ':'] ts || startsWithPunct ['?'] ts ||
        startsWithLifetime ts || startsWithGroup .paren ts) then
      return plus
    let (b, _) ← bound n
    return plus ++ b ++ (← plusBounds n)

/-- One bound: a lifetime, or a trait bound, possibly in parentheses. -/
def bound : Nat → Parser (Tokens × Bool)
  | 0 => exhausted
  | n + 1 => do
    if startsWithLifetime (← get).rest then return (← lifetime, false)
    if ← peekGroup .paren then
      let (inner, span) ← inGroup .paren "expected parentheses" (traitBound n)
      return ([.group .paren inner span], true)
    return (← traitBound n, true)

/-- A trait bound: optional `for<…>`, `const` and `?`, then a path with optional
parenthesized arguments. -/
def traitBound : Nat → Parser Tokens
  | 0 => exhausted
  | n + 1 => do
    let higher ← if ← peekWord "for" then boundLifetimes n else pure []
    let constness ← optWord "const"
    let maybe ← optPunct "?"
    let higher' ← if higher.isEmpty && !maybe.isEmpty && (← peekWord "for") then
        boundLifetimes n else pure []
    let p ← path n false
    let lastEmpty := (p.segments.getLast?.map Segment.argsEmpty).getD false
    let sugar ← if lastEmpty && ((← peekGroup .paren) ||
        ((← peekPunct "::") && (← peekAt 2 (startsWithGroup .paren)))) then do
        let colons ← optPunct "::"
        pure (colons ++ (← parenArgs n))
      else pure []
    return higher ++ constness ++ maybe ++ higher' ++ p.tokens ++ sugar

-- Patterns

/-- One pattern without top-level alternatives. -/
def patSingle : Nat → Parser (Pattern × Tokens)
  | 0 => exhausted
  | n + 1 => do
    let ts := (← get).rest
    let p (cs : List Char) (k : Nat) := startsWithPunct cs (skipN k ts)
    let w (s : String) := startsWithWord s ts
    if (startsWithIdent ts && (p [':', ':'] 1 || p ['!'] 1 || startsWithGroup .brace (skipN 1 ts) ||
          startsWithGroup .paren (skipN 1 ts) || p ['.', '.'] 1)) ||
        (w "self" && p [':', ':'] 1) || p [':', ':'] 0 || p ['<'] 0 || w "Self" || w "super" ||
        w "crate" then
      patPath n
    else if startsWithUnderscore ts then return (.wild, [← anyTree])
    else if w "box" then
      let b ← word "box"
      let (_, inner) ← patSingle n
      return (.other, b ++ inner)
    else if startsWithLit ts then
      let l ← literal
      if ← peekPunct ".." then
        let tail ← patRangeTail n
        let lower := match l with
          | .lit v _ => some (RangeBound.lit v)
          | _ => none
        return (if lower.isSome then rangePattern lower tail else .other, l.tokens ++ tail)
      match l with
      | .lit v ts' => return (.lit v, ts')
      | .bool b ts' => return (.boolLit b, ts')
      | _ => return (.other, l.tokens)
    else if p ['-'] 0 || w "const" then
      let start ← patRangeBound n
      let tail ← if ← peekPunct ".." then patRangeTail n else pure []
      return (.other, start.getD [] ++ tail)
    else if w "ref" || w "mut" || w "self" || startsWithIdent ts then
      let r ← optWord "ref"
      let m ← optWord "mut"
      let (name, i) ← if ← peekWord "self" then anyIdent else ident
      if ← peekPunct "@" then
        let atSign ← punct "@"
        let (inner, sub) ← patSingle n
        return (.bindAt name inner, r ++ m ++ i ++ atSign ++ sub)
      -- a lone `None` names the prelude's variant rather than binding a name
      if name == "None" && r.isEmpty && m.isEmpty then return (.ctor [name] none, i)
      return (.bind name, r ++ m ++ i)
    else if p ['&'] 0 then
      let amp ← punct "&"
      let m ← optWord "mut"
      let (inner, innerTokens) ← patSingle n
      return (if m.isEmpty then .deref inner else .other, amp ++ m ++ innerTokens)
    else if startsWithGroup .paren ts then
      let ((items, inner), span) ← inGroup .paren "expected parentheses" (patList n)
      -- one pattern without a trailing comma is only parenthesized
      let pat := match items, inner.getLast? with
        | [one], some last => if last matches .punct ',' _ _ then .tuple [one] else one
        | _, _ => .tuple items
      return (pat, [.group .paren inner span])
    else if startsWithGroup .bracket ts then
      let ((items, inner), span) ← inGroup .bracket "expected square brackets" (patList n)
      return (.slice items, [.group .bracket inner span])
    else if p ['.', '.'] 0 && !p ['.', '.', '.'] 0 then
      let (closed, limits) ← rangeLimits
      let upper ← patRangeBound n
      match upper with
      | none => if closed then errorHere "expected range upper bound" else return (.rest, limits)
      | some u => return (rangePattern none (limits ++ u), limits ++ u)
    else expectedOneOf patternAlternatives

/-- A pattern with alternatives `a | b`, and an optional leading bar. -/
def patMulti : Nat → Parser (Pattern × Tokens)
  | 0 => exhausted
  | n + 1 => do
    let lead ← optPunct "|"
    let (first, firstTokens) ← patSingle n
    let (alts, altTokens) ← patAlternatives n
    let pat := if alts.isEmpty then first else .alt (first :: alts)
    return (pat, lead ++ firstTokens ++ altTokens)

/-- More alternatives of a pattern, each after a bar. -/
def patAlternatives : Nat → Parser (List Pattern × Tokens)
  | 0 => exhausted
  | n + 1 => do
    if (← peekPunct "|") && !(← peekPunct "||") && !(← peekPunct "|=") then
      let bar ← punct "|"
      let (pat, ts) ← patSingle n
      let (more, moreTokens) ← patAlternatives n
      return (pat :: more, bar ++ ts ++ moreTokens)
    return ([], [])

/-- Patterns separated by commas to the end of a group. -/
def patList : Nat → Parser (List Pattern × Tokens)
  | 0 => exhausted
  | n + 1 => do
    if ← atEnd then return ([], [])
    let (pat, v) ← patMulti n
    if ← atEnd then return ([pat], v)
    let comma ← punct ","
    let (more, rest) ← patList n
    return (pat :: more, v ++ comma ++ rest)

/-- A pattern that starts with a path: a path, a macro, a struct, a tuple struct or a range. -/
def patPath : Nat → Parser (Pattern × Tokens)
  | 0 => exhausted
  | n + 1 => do
    let (qualified, p) ← qpath n true
    let names := if qualified then none else some (p.segments.map (·.name))
    if !qualified && (← peekPunct "!") && !(← peekPunct "!=") && p.isModStyle then
      let bang ← punct "!"
      return (.other, p.tokens ++ bang ++ [← delimited])
    if ← peekGroup .brace then
      let (inner, span) ← inGroup .brace "expected curly braces" (fieldPats n)
      return (.other, p.tokens ++ [.group .brace inner span])
    if ← peekGroup .paren then
      let ((items, inner), span) ← inGroup .paren "expected parentheses" (patList n)
      return ((names.map fun ns => Pattern.ctor ns (some items)).getD .other,
        p.tokens ++ [.group .paren inner span])
    if ← peekPunct ".." then
      let tail ← patRangeTail n
      let pat := if qualified then .other else rangePattern (some (.path p)) tail
      return (pat, p.tokens ++ tail)
    return ((names.map fun ns => Pattern.ctor ns none).getD .other, p.tokens)

/-- The fields of a struct pattern, with an optional `..` at the end. -/
def fieldPats : Nat → Parser Tokens
  | 0 => exhausted
  | n + 1 => do
    if ← atEnd then return []
    let attrs ← outerAttrs n
    if ← peekPunct ".." then return attrs ++ (← punct "..")
    let f ← fieldPat n
    if ← atEnd then return attrs ++ f
    let comma ← punct ","
    return attrs ++ f ++ comma ++ (← fieldPats n)

/-- One field of a struct pattern: `name: pattern`, `0: pattern`, or a name alone with optional
`box`, `ref` and `mut` before it. -/
def fieldPat : Nat → Parser Tokens
  | 0 => exhausted
  | n + 1 => do
    let boxed ← optWord "box"
    let byRef ← optWord "ref"
    let mutability ← optWord "mut"
    let modifiers := boxed ++ byRef ++ mutability
    let (name?, m) ← if modifiers.isEmpty then member else do
        let (x, t) ← ident
        pure (some x, t)
    if (modifiers.isEmpty && (← peekPunct ":")) || name?.isNone then
      let colon ← punct ":"
      let (_, pat) ← patMulti n
      return m ++ colon ++ pat
    return modifiers ++ m

/-- The limits and upper bound of a range pattern after its lower bound. -/
def patRangeTail : Nat → Parser Tokens
  | 0 => exhausted
  | n + 1 => do
    let (closed, limits) ← patternRangeLimits
    let upper ← patRangeBound n
    match upper with
    | none => if closed then errorHere "expected range upper bound" else return limits
    | some u => return limits ++ u

/-- A bound of a range pattern: a literal, a path or a constant block; nothing where the
pattern ends. -/
def patRangeBound : Nat → Parser (Option Tokens)
  | 0 => exhausted
  | n + 1 => do
    let ts := (← get).rest
    if ts.isEmpty || startsWithPunct ['|'] ts || startsWithPunct ['='] ts ||
        (startsWithPunct [':'] ts && !startsWithPunct [':', ':'] ts) ||
        startsWithPunct [','] ts || startsWithPunct [';'] ts || startsWithWord "if" ts then
      return none
    if startsWithLit ts then return some (← literal).tokens
    if startsWithIdent ts || startsWithPunct [':', ':'] ts || startsWithPunct ['<'] ts ||
        startsWithWord "self" ts || startsWithWord "Self" ts || startsWithWord "super" ts ||
        startsWithWord "crate" ts then
      let (_, p) ← qpath n true
      return some p.tokens
    if startsWithWord "const" ts then
      let k ← word "const"
      return some (k ++ (← block n true).tokens)
    expectedOneOf boundAlternatives

end

/-- Fuel enough for any rule over these tokens: the grammar never nests deeper than a few
rules per token read. -/
def fuelFor (ts : Tokens) : Nat := 64 * (tokenCount ts + 1)
where
  /-- The number of token trees, counting those inside groups. -/
  tokenCount : Tokens → Nat
    | [] => 0
    | .group _ inner _ :: rest => 1 + tokenCount inner + tokenCount rest
    | _ :: rest => 1 + tokenCount rest

end GatherMap.Code.Grammar
