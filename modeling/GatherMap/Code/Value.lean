import GatherMap.Code.Generator

/-!
# Writing values as code

A `Value` is a value of a source-language type that the generator can write as an expression:
scalars, text, options, vectors, slices, arrays, references and tuples. Integers are written
without a type suffix, so the expression takes its type from where it is placed. Byte vectors
and byte slices are written as byte strings, which are much shorter than arrays of numbers.
Code that is already tokens, such as the values of an inline map, is written as it is.
-/

namespace GatherMap.Code

/-- A value that generated code can spell out. -/
inductive Value where
  | unit
  | bool (b : Bool)
  | int (i : Int)
  | char (c : Char)
  /-- A borrowed string. -/
  | str (s : String)
  /-- An owned string. -/
  | string (s : String)
  | absent
  | present (v : Value)
  /-- An owned vector of bytes. -/
  | byteVec (bytes : List Nat)
  /-- An owned vector of other elements. -/
  | vec (items : List Value)
  /-- A borrowed slice of bytes. -/
  | byteSlice (bytes : List Nat)
  /-- A borrowed slice of other elements. -/
  | slice (items : List Value)
  /-- A fixed-size array. -/
  | array (items : List Value)
  /-- A reference. -/
  | ref (v : Value)
  | tuple (items : List Value)
  /-- Code given as tokens, written as it is. -/
  | verbatim (tokens : Tokens)
  deriving Repr, Inhabited

/-- A character literal. -/
def charLiteral (c : Char) : TokenTree := literal (Text.quoteChar c)

/-- A string literal, guarding a NUL before an octal digit. -/
def stringLiteral (s : String) : TokenTree := literal (Text.quoteStringSafe s)

namespace Value

/-- The code for a value. -/
def piece : Value → Gen Tokens
  | unit => return [group .paren []]
  | bool b => return [ident (if b then "true" else "false")]
  | int i => return intTokens i
  | char c => return [charLiteral c]
  | str s => return [stringLiteral s]
  | string s => do
    let p ← usePath "alloc::string::String"
    return p ++ puncts "::" ++ [ident "from", group .paren [stringLiteral s]]
  | absent => usePath "core::option::Option::None"
  | present v => do
    let p ← usePath "core::option::Option::Some"
    let inner ← piece v
    return p ++ [group .paren inner]
  | byteVec bytes => do
    let p ← usePath "alloc::vec::Vec"
    let lit ← byteString bytes
    return p ++ puncts "::" ++ [ident "from", group .paren lit]
  | vec items => do
    let p ← usePath "alloc::vec"
    let arr ← arrayOf (items.attach.map fun ⟨v, _⟩ => piece v)
    return p ++ puncts "!" ++ arr
  | byteSlice bytes => byteString bytes
  | slice items => do
    let arr ← arrayOf (items.attach.map fun ⟨v, _⟩ => piece v)
    return puncts "&" ++ arr
  | array items => arrayOf (items.attach.map fun ⟨v, _⟩ => piece v)
  | ref v => do
    let inner ← piece v
    return puncts "&" ++ inner
  | tuple items => do
    let parts ← items.attach.mapM fun ⟨v, _⟩ => piece v
    return [group .paren (parts.flatMap (· ++ puncts ","))]
  | verbatim ts => return ts

end Value

end GatherMap.Code
