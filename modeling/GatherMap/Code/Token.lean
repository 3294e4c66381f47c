/-!
# Token trees of source code

Generated code is a sequence of token trees: identifiers, punctuation characters, literals
(kept as their source text) and delimited groups. Every token carries a span: the byte range of
source text it was read from, or the call site for tokens made by the generator.

A sequence is written with one space between tokens, except directly after a punctuation
character that is joined to the next one (so `::` and `=>` stay together). Parentheses and
brackets hang on their contents; braces have a space inside when they hold anything. A negative
literal, which only a grammar reading a minus sign with its number makes, is written as a minus
sign, a space and the number.

Tokens read from text are printed as the compiler's printer does (`printedAll`), which keeps
the text's own spacing where it can: two tokens that touch in the text touch when printed, and
two that a blank sets apart get a space unless the printer never puts one between them (before a
comma, a semicolon or a dot, after a dot, between a name and its argument list, between `#` and
an attribute's brackets).
-/

namespace GatherMap.Code

/-- Where a token comes from: a byte range of the input text, or the call site. -/
inductive Span where
  | callSite
  | range (lo hi : Nat)
  deriving DecidableEq, Repr, Inhabited

/-- Whether a punctuation character is joined to the next token. -/
inductive Spacing where
  | alone
  | joint
  deriving DecidableEq, Repr, Inhabited

/-- The delimiters of a group. -/
inductive Delimiter where
  | paren
  | bracket
  | brace
  deriving DecidableEq, Repr, Inhabited

/-- A token tree. A group's span covers it from the opening to the closing delimiter. -/
inductive TokenTree where
  | ident (name : String) (span : Span)
  | punct (ch : Char) (spacing : Spacing) (span : Span)
  | literal (text : String) (span : Span)
  | group (delim : Delimiter) (tokens : List TokenTree) (span : Span)
  deriving Repr, Inhabited

namespace TokenTree

/-- The span of a token. -/
def span : TokenTree → Span
  | ident _ s | punct _ _ s | literal _ s | group _ _ s => s

/-- Whether the token is a punctuation character joined to the next token. -/
def isJoint : TokenTree → Bool
  | punct _ .joint _ => true
  | _ => false

mutual
/-- The text of one token tree. -/
def render : TokenTree → String
  | ident name _ => name
  | punct ch _ _ => ch.toString
  | literal text _ =>
    match text.toList with
    | '-' :: digits => "- " ++ String.ofList digits
    | _ => text
  | group .paren ts _ => "(" ++ renderAll ts ++ ")"
  | group .bracket ts _ => "[" ++ renderAll ts ++ "]"
  | group .brace [] _ => "\x7b \x7d"
  | group .brace ts _ => "\x7b " ++ renderAll ts ++ " \x7d"

/-- The text of a token sequence: a space between two tokens unless the first is joint. -/
def renderAll : List TokenTree → String
  | [] => ""
  | [t] => render t
  | t :: u :: rest => render t ++ (if t.isJoint then "" else " ") ++ renderAll (u :: rest)
end

/-- Whether the token is a punctuation character. -/
def isPunct : TokenTree → Bool
  | punct .. => true
  | _ => false

/-- Whether the text sets two tokens that follow each other apart, with a blank or a comment
between them; tokens made at the call site are apart. -/
def apart (a b : TokenTree) : Bool :=
  match a.span, b.span with
  | .range _ hi, .range lo _ => hi != lo
  | _, _ => true

/-- Words the language reserves, which never name a function. -/
def reservedWords : List String :=
  ["_", "as", "break", "const", "continue", "crate", "else", "enum", "extern", "false", "fn",
    "for", "if", "impl", "in", "let", "loop", "match", "mod", "move", "mut", "pub", "ref",
    "return", "self", "Self", "static", "struct", "super", "trait", "true", "type", "unsafe",
    "use", "where", "while", "async", "await", "dyn", "abstract", "become", "box", "do", "final",
    "macro", "override", "priv", "typeof", "unsized", "virtual", "yield", "try", "gen"]

/-- Whether the printer puts a space between two tokens that the text sets apart. -/
def spaceBetween (a b : TokenTree) : Bool :=
  match a, b with
  | punct '.' _ _, b => b.isPunct
  | a, punct c _ _ => a.isPunct || !(c == ',' || c == ';' || c == '.')
  | ident name _, group .paren _ _ =>
    !(!reservedWords.contains name || name == "fn" || name == "Self" || name == "pub" ||
      name.startsWith "r#")
  | punct '#' _ _, group .bracket _ _ => false
  | _, _ => true

mutual
/-- The printed text of one token tree read from text. -/
def printed : TokenTree → String
  | ident name _ => name
  | punct ch _ _ => ch.toString
  | literal text _ => text
  | group .paren ts _ => "(" ++ printedAll ts ++ ")"
  | group .bracket ts _ => "[" ++ printedAll ts ++ "]"
  | group .brace [] _ => "\x7b\x7d"
  | group .brace ts _ => "\x7b " ++ printedAll ts ++ " \x7d"

/-- The printed text of a token sequence read from text: a space between two tokens only where
the text sets them apart and the printer keeps a space there. -/
def printedAll : List TokenTree → String
  | [] => ""
  | [t] => printed t
  | t :: u :: rest =>
    printed t ++ (if apart t u && spaceBetween t u then " " else "") ++ printedAll (u :: rest)
end

end TokenTree

/-- A sequence of token trees. -/
abbrev Tokens := List TokenTree

/-- An identifier made at the call site. -/
def ident (name : String) : TokenTree := .ident name .callSite

/-- A punctuation sequence made at the call site: all characters but the last are joint. -/
def puncts (s : String) : Tokens :=
  let cs := s.toList
  cs.zipIdx.map fun (c, i) => .punct c (if i + 1 < cs.length then .joint else .alone) .callSite

/-- A literal made at the call site. -/
def literal (text : String) : TokenTree := .literal text .callSite

/-- A group made at the call site. -/
def group (d : Delimiter) (ts : Tokens) : TokenTree := .group d ts .callSite

/-- Token sequences separated by a punctuation sequence. -/
def separated (sep : String) : List Tokens → Tokens
  | [] => []
  | [t] => t
  | t :: rest => t ++ puncts sep ++ separated sep rest

/-- An unsuffixed integer literal; a negative number is a minus sign before its magnitude. -/
def intTokens (i : Int) : Tokens :=
  if i < 0 then puncts "-" ++ [literal (toString i.natAbs)] else [literal (toString i.toNat)]

end GatherMap.Code
