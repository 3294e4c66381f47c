import GatherMap.Inline.Evaluate
import GatherMap.Code.Scan
import GatherMap.Code.Scan.Recover

/-!
# Reading the keys a program looks up

A program looks keys up with an array of expressions, `let probes = [EXPR, …];`, written after
the map and followed by a call and the end of `main`. The compiler reads the whole program
before anything else, so a probe that is not a well-formed expression fails the compilation
with the compiler's own words:

* a quote or block comment that the text does not close: "unterminated double quote string",
  "unterminated block comment", …;
* unbalanced delimiters, found as the compiler matches them: a closing delimiter that does not
  match the innermost open one closes that one anyway, and is read again by the enclosing group
  when it matches a delimiter still open there. A closing delimiter with nothing open is
  "unexpected closing delimiter"; otherwise the first mismatch is reported;
* an element that is not an expression: "expected expression, found `,`", or tokens left
  after one: "expected one of `,`, `.`, `;`, `?`, `]`, or an operator, found …". Only the first
  element may be followed by `;`, which makes the array repeat it: `[EXPR; COUNT]`.
-/

namespace GatherMap.Inline

open Code Grammar Scan

/-- The delimiters of a text in order, skipping blanks, comments and literals; or the first
error of reading its tokens. -/
def delimitersFrom (cs : List Char) (pos : Nat) : Except ScanError (List Char) :=
  match cs with
  | [] => .ok []
  | c :: rest =>
    if Lexicon.strict.isBlank c then delimitersFrom rest (pos + c.utf8Size)
    else match Lexicon.strict.comment cs pos with
    | some (.ok (n, _)) => delimitersFrom (rest.drop (n - 1)) (pos + byteLength (cs.take n))
    | some (.error e) => .error e
    | none =>
      if (opening? c).isSome || (closing? c).isSome then
        (c :: ·) <$> delimitersFrom rest (pos + 1)
      else
        match Lexicon.strict.leaf cs pos with
        | .ok (_, n) => delimitersFrom (rest.drop (n - 1)) (pos + byteLength (cs.take n))
        | .error e => .error e
termination_by cs.length
decreasing_by all_goals simp only [List.length_drop, List.length_cons]; omega

/-- The opening delimiter a closing one matches. -/
def openerOf : Char → Char
  | ')' => '('
  | ']' => '['
  | _ => '\x7b'

/-- Match delimiters as the compiler does, given the opening delimiters of the groups still
open (innermost first) and the first mismatch so far; the message of the error found, if any. -/
def matchDelimiters : List Char → List Char → Option Char → Option String
  | [], [], mismatch => mismatch.map fun c => "mismatched closing delimiter: \x60" ++ c.toString ++ "\x60"
  | [], _ :: _, mismatch =>
    some ((mismatch.map fun c => "mismatched closing delimiter: \x60" ++ c.toString ++ "\x60").getD
      "this file contains an unclosed delimiter")
  | c :: rest, stack, mismatch =>
    if (opening? c).isSome then matchDelimiters rest (c :: stack) mismatch
    else
      match stack with
      | [] => some ("unexpected closing delimiter: \x60" ++ c.toString ++ "\x60")
      | top :: outer =>
        if top == openerOf c then matchDelimiters rest outer mismatch
        else
          let mismatch := mismatch.orElse fun _ => some c
          -- a delimiter that an enclosing group can use is read again there
          if outer.contains (openerOf c) then matchDelimiters (c :: rest) outer mismatch
          else matchDelimiters rest outer mismatch
termination_by cs stack => 2 * cs.length + stack.length
decreasing_by all_goals simp only [List.length_cons]; omega

/-- The compiler's words for an error of reading tokens. -/
def lexicalMessage : ScanError → String
  | .unterminatedQuote '"' => "unterminated double quote string"
  | .unterminatedQuote _ => "unterminated character literal"
  | .unterminatedComment => "unterminated block comment"
  | .unexpectedChar c => "unknown start of token: " ++ Scan.Recover.shownChar c
  | .unterminatedRaw | .rawWithoutQuote => "unterminated raw string"
  | e => e.message

/-- The text of a token as a message quotes it. -/
def tokenText (t : TokenTree) : String :=
  match t with
  | .group d _ _ => match d with
    | .paren => "("
    | .bracket => "["
    | .brace => "\x7b"
  | t => t.render

/-- Words the language uses, which a message names as keywords. -/
def usedKeywords : List String :=
  ["as", "async", "await", "break", "const", "continue", "crate", "dyn", "else", "enum",
    "extern", "false", "fn", "for", "if", "impl", "in", "let", "loop", "match", "mod", "move",
    "mut", "pub", "ref", "return", "Self", "self", "static", "struct", "super", "trait", "true",
    "type", "unsafe", "use", "where", "while"]

/-- How a message names a token it found: quoted, and for a word the language keeps, with
what kind of word it is. -/
def tokenDescription (t : TokenTree) : String :=
  let quoted := "\x60" ++ tokenText t ++ "\x60"
  match t with
  | .ident n _ =>
    if n == "_" then "reserved identifier " ++ quoted
    else if usedKeywords.contains n then "keyword " ++ quoted
    else if reserved.contains n then "reserved keyword " ++ quoted
    else quoted
  | _ => quoted

/-- The array of keys a program looks up, as written: its elements, and for an array that
repeats one element, `[EXPR; COUNT]`, the count. -/
structure ProbeArray where
  elements : List Expr
  count : Option Expr

/-- The elements of the probe array: each element's tokens and the token after it. -/
def probeElements (inner : Tokens) : List (Tokens × String) :=
  let step (acc : List (Tokens × String) × Tokens) (t : TokenTree) :=
    let (done, current) := acc
    match t with
    | .punct ',' _ _ => (done ++ [(current, ",")], [])
    | _ => (done, current ++ [t])
  let (done, current) := inner.foldl step ([], [])
  if current.isEmpty then done else done ++ [(current, "]")]

/-- Read an expression at the start of some tokens, and the tokens after it; `after` names
the token that follows them in the program. -/
def readExpr (tokens : Tokens) (after : String) : Except String (Expr × Tokens) :=
  let start : Cursor := { rest := tokens, scope := .callSite, delim := none, unexpected := none }
  match (expr (fuelFor tokens) true).run start with
  | .error e =>
    let found := (tokens.find? fun t => t.span == e.first).map tokenDescription
    .error ("expected expression, found " ++ found.getD ("\x60" ++ after ++ "\x60"))
  | .ok (x, c) => .ok (x, c.rest)

/-- The message for a token an expression does not take, given what else may follow it. -/
def expectedOneOf (others : String) (found : String) : String :=
  "expected one of " ++ others ++ ", or an operator, found " ++ found

/-- Read an element after the first: an expression followed by a comma or the end. A token
the expression does not take is an error; when what follows it reads as an expression again,
the compiler takes a comma to be missing and goes on, and a `;` it takes for a mistyped
comma. -/
def readLater (fuel : Nat) (tokens : Tokens) (after : String) : List String × List Expr :=
  match fuel with
  | 0 => ([], [])
  | fuel + 1 =>
    match readExpr tokens after with
    | .error m => ([m], [])
    | .ok (x, []) => ([], [x])
    | .ok (x, t :: rest) =>
      let m := expectedOneOf "\x60,\x60, \x60.\x60, \x60?\x60, \x60]\x60" (tokenDescription t)
      let next := match t with
        | .punct ';' _ _ => rest
        | _ => t :: rest
      match readExpr next after with
      | .ok _ =>
        let (ms, xs) := readLater fuel next after
        (m :: ms, x :: xs)
      | .error _ => ([m], [x])

/-- The first element, which decides the kind of array: followed by `;` it is repeated, and
the count runs to the closing bracket. -/
def readFirst (tokens : Tokens) (after : String) : Except String (Expr × Option Expr) :=
  match readExpr tokens after with
  | .error m => .error m
  | .ok (x, []) => .ok (x, none)
  | .ok (x, .punct ';' _ _ :: countTokens) =>
    let countExpected := "\x60.\x60, \x60?\x60, \x60]\x60"
    match readExpr countTokens after with
    | .error m => .error m
    | .ok (c, []) =>
      if after == "]" then .ok (x, some c)
      else .error (expectedOneOf countExpected ("\x60" ++ after ++ "\x60"))
    | .ok (_, t :: _) => .error (expectedOneOf countExpected (tokenDescription t))
  | .ok (_, t :: _) =>
    .error (expectedOneOf "\x60,\x60, \x60.\x60, \x60;\x60, \x60?\x60, \x60]\x60" (tokenDescription t))

/-- The probes of a program as expressions, or the compiler's errors reading them. -/
def readProbes (probes : List String) : Except (List String) ProbeArray :=
  let text := "[" ++ ", ".intercalate probes ++ "]"
  match delimitersFrom text.toList 0 with
  | .error e => .error [lexicalMessage e]
  | .ok delims =>
    -- the program goes on with `]`, a call's parentheses and the end of `main`
    let tail := ((delims.drop 1).take (delims.length - 2)) ++ [']', '(', ')', '\x7d']
    match matchDelimiters tail ['[', '\x7b'] none with
    | some message => .error [message]
    | none =>
      match scan .strict text with
      | .ok [.group .bracket inner _] =>
        match probeElements inner with
        | [] => .ok ⟨[], none⟩
        | (first, after) :: later =>
          match readFirst first after with
          | .error m => .error [m]
          | .ok (x, some c) => .ok ⟨[x], some c⟩
          | .ok (x, none) =>
            let results := later.map fun (ts, after) =>
              if ts.isEmpty then (["expected expression, found \x60" ++ after ++ "\x60"], [])
              else readLater (ts.length + 1) ts after
            let errors := results.flatMap (·.1)
            if errors.isEmpty then .ok ⟨x :: results.flatMap (·.2), none⟩ else .error errors
      | .ok _ => .error ["expected expression"]
      | .error e => .error [lexicalMessage e]

end GatherMap.Inline
