import GatherMap.Code.Scan.Strict
import GatherMap.Code.Scan.Loose

/-!
# Reading source text into token trees

`scan` splits source text into token trees: blanks and comments are skipped, delimiters are
matched into groups, and every token keeps the byte range of the text it was read from, so a
message about a token can quote it.

Two lexicons decide what a token is. The strict one (`Scan.Strict`) follows the language's
lexical grammar and turns doc comments into attributes; the loose one (`Scan.Loose`) reads
tokens from their first characters, with Unicode letters and digits in identifiers. Both match
delimiters the same way: an opening delimiter starts a group, a closing one must close the
innermost open group, and the text must end with no group open.
-/

namespace GatherMap.Code

/-- The rules a text is read by. -/
inductive Lexicon where
  /-- The language's lexical grammar, doc comments standing for attributes. -/
  | strict
  /-- Tokens taken from their first characters, comments of every kind skipped. -/
  | loose
  deriving DecidableEq, Repr, Inhabited

namespace Lexicon

/-- Whether a character is blank between tokens. -/
def isBlank : Lexicon → Char → Bool
  | strict => Scan.Strict.isBlank
  | loose => Scan.Loose.isBlank

/-- A comment at the start of the text: how many characters it takes and the tokens it stands
for. -/
def comment (lexicon : Lexicon) (cs : List Char) (pos : Nat) :
    Option (Except ScanError (Nat × Tokens)) :=
  match lexicon with
  | strict => Scan.Strict.comment cs pos
  | loose => (Scan.Loose.comment cs).map fun r => r.map fun n => (n, [])

/-- A token that is not a delimiter, as a tree and its length in characters. -/
def leaf : Lexicon → List Char → Nat → Except ScanError (TokenTree × Nat)
  | strict => Scan.Strict.leaf
  | loose => Scan.Loose.leaf

end Lexicon

namespace Scan

/-- A group being read: its delimiter, the byte offset of its opening delimiter and its tokens so
far. -/
structure Frame where
  delim : Delimiter
  start : Nat
  tokens : Array TokenTree

/-- Read the rest of the text at byte offset `pos`, inside the open groups `stack`, with the
tokens of the innermost group so far. -/
def go (lexicon : Lexicon) (cs : List Char) (pos : Nat) (stack : List Frame)
    (current : Array TokenTree) : Except ScanError Tokens :=
  match cs with
  | [] =>
    match stack with
    | [] => .ok current.toList
    | frame :: _ => .error (.unclosed (closeOf frame.delim))
  | c :: rest =>
    if lexicon.isBlank c then go lexicon rest (pos + c.utf8Size) stack current
    else match lexicon.comment cs pos with
    | some (.ok (n, ts)) =>
      go lexicon (rest.drop (n - 1)) (pos + byteLength (cs.take n)) stack (current ++ ts.toArray)
    | some (.error e) => .error e
    | none =>
    match opening? c with
    | some d => go lexicon rest (pos + 1) (⟨d, pos, current⟩ :: stack) #[]
    | none =>
      match closing? c with
      | some d =>
        match stack with
        | frame :: outer =>
          if frame.delim == d then
            go lexicon rest (pos + 1) outer
              (frame.tokens.push (.group d current.toList (.range frame.start (pos + 1))))
          else .error (.unexpectedClose c)
        | [] => .error (.unexpectedClose c)
      | none =>
        match lexicon.leaf cs pos with
        | .ok (t, n) =>
          go lexicon (rest.drop (n - 1)) (pos + byteLength (cs.take n)) stack (current.push t)
        | .error e => .error e
termination_by cs.length
decreasing_by all_goals simp only [List.length_drop, List.length_cons]; omega

end Scan

/-- The token trees of a source text, read by a lexicon. -/
def scan (lexicon : Lexicon) (text : String) : Except ScanError Tokens :=
  Scan.go lexicon text.toList 0 [] #[]

end GatherMap.Code
