import GatherMap.Code.Syntax

/-!
# Reading token trees

A `Cursor` is the position of the grammar in a token sequence: the tokens left at the current
level of nesting, the span to blame when that level ends too early (the call site at the top, a
group's closing delimiter inside it), and the first tokens ever left unread inside a group.

The primitives here look ahead without reading (`peek…`), read one token or one punctuation
sequence, or enter a group. A failed read reports a `SyntaxError` at the token it looked at:
the opening delimiter when that token is a group, and the scope's span, with
"unexpected end of input, " before the message, when nothing is left. Reading a punctuation
sequence is the one exception: it blames the scope without that prefix.

Punctuation a rule reads as one operator is given back joined up to its last character, so an
expression prints the same whichever way its operators were spaced in the input.
-/

namespace GatherMap.Code

/-- A syntax error: its message and the first and last span it covers. -/
structure SyntaxError where
  message : String
  first : Span
  last : Span
  deriving Repr, Inhabited

namespace Grammar

/-- The position of the grammar in a token sequence. -/
structure Cursor where
  /-- The tokens left at the current level. -/
  rest : Tokens
  /-- The span blamed when the current level ends too early. -/
  scope : Span
  /-- The delimiter of the group being read, none at the top. -/
  delim : Option Delimiter
  /-- The first token left unread inside a group, with that group's delimiter. -/
  unexpected : Option (Span × Option Delimiter)
  deriving Inhabited

/-- A rule of the grammar: it reads tokens from a cursor and may fail with a syntax error. -/
abbrev Parser := StateT Cursor (Except SyntaxError)

/-- The words that are never identifiers. -/
def reserved : List String :=
  ["_", "abstract", "as", "async", "await", "become", "box", "break", "const", "continue",
    "crate", "do", "dyn", "else", "enum", "extern", "false", "final", "fn", "for", "if", "impl",
    "in", "let", "loop", "macro", "match", "mod", "move", "mut", "override", "priv", "pub", "ref",
    "return", "Self", "self", "static", "struct", "super", "trait", "true", "try", "type",
    "typeof", "unsafe", "unsized", "use", "virtual", "where", "while", "yield"]

/-! ### Looking at token sequences -/

/-- The span of a group's opening delimiter, or the token's span for other tokens. -/
def openSpan : TokenTree → Span
  | .group _ _ (.range lo _) => .range lo (lo + 1)
  | t => t.span

/-- The span of a group's closing delimiter. -/
def closeSpan : Span → Span
  | .range _ hi => .range (hi - 1) hi
  | .callSite => .callSite

/-- The tokens after the first token tree; a lifetime counts as one. -/
def skipOne : Tokens → Tokens
  | .punct '\'' .joint _ :: .ident _ _ :: rest => rest
  | _ :: rest => rest
  | [] => []

/-- The tokens after `k` token trees. -/
def skipN : Nat → Tokens → Tokens
  | 0, ts => ts
  | k + 1, ts => skipN k (skipOne ts)

/-- Whether the tokens start with the punctuation `cs`, each character but the last joined to
the next. -/
def startsWithPunct : List Char → Tokens → Bool
  | [c], .punct ch _ _ :: _ => ch == c
  | c :: cs, .punct ch sp _ :: rest => ch == c && sp == .joint && startsWithPunct cs rest
  | _, _ => false

/-- Whether the tokens start with the word `w`. -/
def startsWithWord (w : String) : Tokens → Bool
  | .ident n _ :: _ => n == w
  | _ => false

/-- Whether the tokens start with an identifier that is not a reserved word. -/
def startsWithIdent : Tokens → Bool
  | .ident n _ :: _ => !reserved.contains n
  | _ => false

/-- Whether the tokens start with any identifier, reserved words included. -/
def startsWithAnyIdent : Tokens → Bool
  | .ident _ _ :: _ => true
  | _ => false

/-- Whether the tokens start with a group with delimiter `d`. -/
def startsWithGroup (d : Delimiter) : Tokens → Bool
  | .group d' _ _ :: _ => d' == d
  | _ => false

/-- Whether the tokens start with a lifetime: a joined `'` and an identifier. -/
def startsWithLifetime : Tokens → Bool
  | .punct '\'' .joint _ :: .ident _ _ :: _ => true
  | _ => false

/-- Whether a literal's text reads as a number. -/
def isNumeric (text : String) : Bool :=
  match Literal.classify text with
  | .int _ _ _ | .float _ => true
  | _ => false

/-- Whether the tokens start with a literal: a literal token, `true` or `false`, or a minus
sign before a numeric literal. -/
def startsWithLit : Tokens → Bool
  | .literal _ _ :: _ => true
  | .ident n _ :: _ => n == "true" || n == "false"
  | .punct '-' _ _ :: .literal text _ :: _ => isNumeric ("-" ++ text)
  | _ => false

/-- Whether the tokens start with an integer literal. -/
def startsWithIntLit : Tokens → Bool
  | .literal text _ :: _ =>
    match Literal.classify text with
    | .int _ _ _ => true
    | _ => false
  | _ => false

/-- Whether the tokens start with `_`. -/
def startsWithUnderscore : Tokens → Bool
  | .ident "_" _ :: _ => true
  | .punct '_' _ _ :: _ => true
  | _ => false

/-! ### Errors -/

/-- Fail with `message` over a span. -/
def failAt (message : String) (span : Span) : Parser α := throw ⟨message, span, span⟩

/-- Fail at the current token, or at the end of the level with the end-of-input prefix. -/
def errorHere (message : String) : Parser α := do
  let c ← get
  match c.rest with
  | [] => throw ⟨"unexpected end of input, " ++ message, c.scope, c.scope⟩
  | t :: _ => failAt message (openSpan t)

/-- The message of a failed look-ahead among the named alternatives. -/
def expectedMessage : List String → String
  | [a] => "expected " ++ a
  | [a, b] => "expected " ++ a ++ " or " ++ b
  | names => "expected one of: " ++ ", ".intercalate names

/-- Fail because none of the named alternatives is next. -/
def expectedOneOf (names : List String) : Parser α := errorHere (expectedMessage names)

/-- Fail because the grammar nests deeper than its fuel. -/
def exhausted : Parser α := failAt "expression nested too deeply" .callSite

/-! ### Looking ahead -/

/-- Whether the tokens after `k` token trees satisfy `p`. -/
def peekAt (k : Nat) (p : Tokens → Bool) : Parser Bool := do
  return p (skipN k (← get).rest)

/-- Whether the punctuation `s` is next. -/
def peekPunct (s : String) : Parser Bool := peekAt 0 (startsWithPunct s.toList)

/-- Whether the word `w` is next. -/
def peekWord (w : String) : Parser Bool := peekAt 0 (startsWithWord w)

/-- Whether a group with delimiter `d` is next. -/
def peekGroup (d : Delimiter) : Parser Bool := peekAt 0 (startsWithGroup d)

/-- Whether this level has no tokens left. -/
def atEnd : Parser Bool := do return (← get).rest.isEmpty

/-- Whether an expression can start here. -/
def peekExprStart : Parser Bool := do
  let ts := (← get).rest
  return (startsWithAnyIdent ts && !startsWithWord "as" ts) || startsWithGroup .paren ts ||
    startsWithGroup .bracket ts || startsWithGroup .brace ts || startsWithLit ts ||
    (startsWithPunct ['!'] ts && !startsWithPunct ['!', '='] ts) ||
    (startsWithPunct ['-'] ts && !startsWithPunct ['-', '='] ts &&
      !startsWithPunct ['-', '>'] ts) ||
    (startsWithPunct ['*'] ts && !startsWithPunct ['*', '='] ts) ||
    (startsWithPunct ['|'] ts && !startsWithPunct ['|', '='] ts) ||
    (startsWithPunct ['&'] ts && !startsWithPunct ['&', '='] ts) ||
    startsWithPunct ['.', '.'] ts ||
    (startsWithPunct ['<'] ts && !startsWithPunct ['<', '='] ts &&
      !startsWithPunct ['<', '<', '='] ts) ||
    startsWithPunct [':', ':'] ts || startsWithLifetime ts || startsWithPunct ['#'] ts

/-! ### Reading -/

/-- The spans of the punctuation `cs` at the start of the tokens, and the rest. -/
def takePunct : List Char → Tokens → Option (List Span × Tokens)
  | [c], .punct ch _ sp :: rest => if ch == c then some ([sp], rest) else none
  | c :: cs, .punct ch spacing sp :: rest =>
    if ch == c && spacing == .joint then
      (takePunct cs rest).map fun (spans, r) => (sp :: spans, r)
    else none
  | _, _ => none

/-- Punctuation characters with their spans, joined up to the last. -/
def joinedPunct : List (Char × Span) → Tokens
  | [] => []
  | [(c, sp)] => [.punct c .alone sp]
  | (c, sp) :: rest => .punct c .joint sp :: joinedPunct rest

/-- Read the punctuation `s`. -/
def punct (s : String) : Parser Tokens := do
  let c ← get
  match takePunct s.toList c.rest with
  | some (spans, rest) =>
    set { c with rest }
    return joinedPunct (s.toList.zip spans)
  | none =>
    let blame := match c.rest with
      | .punct _ _ sp :: _ => sp
      | t :: _ => openSpan t
      | [] => c.scope
    failAt ("expected " ++ "\x60" ++ s ++ "\x60") blame

/-- Read the punctuation `s` if it is next. -/
def optPunct (s : String) : Parser Tokens := do
  if ← peekPunct s then punct s else return []

/-- Read the word `w`. -/
def word (w : String) : Parser Tokens := do
  let c ← get
  match c.rest with
  | .ident n sp :: rest =>
    if n == w then
      set { c with rest }
      return [.ident n sp]
    else errorHere ("expected " ++ "\x60" ++ w ++ "\x60")
  | _ => errorHere ("expected " ++ "\x60" ++ w ++ "\x60")

/-- Read the word `w` if it is next. -/
def optWord (w : String) : Parser Tokens := do
  if ← peekWord w then word w else return []

/-- Read an identifier that is not a reserved word. -/
def ident : Parser (String × Tokens) := do
  let c ← get
  match c.rest with
  | .ident n sp :: rest =>
    if reserved.contains n then
      errorHere ("expected identifier, found keyword " ++ "\x60" ++ n ++ "\x60")
    else
      set { c with rest }
      return (n, [.ident n sp])
  | _ => errorHere "expected identifier"

/-- Read any identifier, reserved words included. -/
def anyIdent : Parser (String × Tokens) := do
  let c ← get
  match c.rest with
  | .ident n sp :: rest =>
    set { c with rest }
    return (n, [.ident n sp])
  | _ => errorHere "expected ident"

/-- Read a lifetime. -/
def lifetime : Parser Tokens := do
  let c ← get
  match c.rest with
  | .punct '\'' .joint sp :: .ident n isp :: rest =>
    set { c with rest }
    return [.punct '\'' .joint sp, .ident n isp]
  | _ => errorHere "expected lifetime"

/-- Read a lifetime if one is next. -/
def optLifetime : Parser Tokens := do
  if startsWithLifetime (← get).rest then lifetime else return []

/-- Read a literal: a literal token, `true` or `false`, or a minus sign before a numeric
literal, which reads as one negative literal. -/
def literal : Parser Expr := do
  let c ← get
  match c.rest with
  | .literal text sp :: rest =>
    set { c with rest }
    return .lit (Literal.classify text) [.literal text sp]
  | .ident n sp :: rest =>
    if n == "true" || n == "false" then
      set { c with rest }
      return .bool (n == "true") [.ident n sp]
    else errorHere "expected literal"
  | .punct '-' _ sp :: .literal text _ :: rest =>
    if isNumeric ("-" ++ text) then
      set { c with rest }
      return .lit (Literal.classify ("-" ++ text)) [.literal ("-" ++ text) sp]
    else errorHere "expected literal"
  | _ => errorHere "expected literal"

/-- Read one token tree as it is. -/
def anyTree : Parser TokenTree := do
  let c ← get
  match c.rest with
  | t :: rest =>
    set { c with rest }
    return t
  | [] => errorHere "expected token"

/-- Read a group with delimiter `d` as it is; `missing` is the message when none is next. -/
def rawGroup (d : Delimiter) (missing : String) : Parser TokenTree := do
  if ← peekGroup d then anyTree else errorHere missing

/-- Read a group with any delimiter as it is. -/
def delimited : Parser TokenTree := do
  match (← get).rest with
  | (.group _ _ _) :: _ => anyTree
  | _ => errorHere "expected delimiter"

/-- Read the inside of a group with delimiter `d` by `p`; `missing` is the message when no
such group is next. The result comes with the group's span. Tokens that `p` leaves unread are
remembered as unexpected, unless some were already. -/
def inGroup (d : Delimiter) (missing : String) (p : Parser α) : Parser (α × Span) := do
  let c ← get
  match c.rest with
  | .group d' inner span :: rest =>
    if d' == d then
      let start : Cursor :=
        { rest := inner, scope := closeSpan span, delim := some d, unexpected := c.unexpected }
      match p.run start with
      | .ok (a, c') =>
        let unexpected := match c'.unexpected, c'.rest with
          | some u, _ => some u
          | none, t :: _ => some (t.span, some d)
          | none, [] => none
        set { c with rest, unexpected }
        return (a, span)
      | .error e => throw e
    else errorHere missing
  | _ => errorHere missing

/-- The message for tokens left unread inside a group with the given delimiter. -/
def unexpectedMessage : Option Delimiter → String
  | some .paren => "unexpected token, expected " ++ "\x60)\x60"
  | some .brace => "unexpected token, expected " ++ "\x60\x7d\x60"
  | some .bracket => "unexpected token, expected " ++ "\x60]\x60"
  | none => "unexpected token"

/-- Try `p`; on failure nothing is read and the result is `none`. -/
def attempt (p : Parser α) : Parser (Option α) :=
  tryCatch (some <$> p) (fun _ => pure none)

/-- Run a rule over a whole token sequence at the call site. The rule must read everything,
and no group may have tokens left unread. -/
def runAll (p : Parser α) (tokens : Tokens) : Except SyntaxError α :=
  match p.run { rest := tokens, scope := .callSite, delim := none, unexpected := none } with
  | .error e => .error e
  | .ok (a, c) =>
    match c.unexpected, c.rest with
    | some (sp, d), _ => .error ⟨unexpectedMessage d, sp, sp⟩
    | none, t :: _ => .error ⟨"unexpected token", t.span, t.span⟩
    | none, [] => .ok a

end Grammar

end GatherMap.Code
