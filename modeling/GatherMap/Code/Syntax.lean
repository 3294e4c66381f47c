import GatherMap.Code.Literal

/-!
# Parsed expressions, paths and types

The grammar of macro input reads token trees into a small syntax tree. A node keeps the tokens
it was read from, in the spelling the grammar gives them back: a punctuation sequence that the
grammar reads as one operator is joined up to its last character, and every other token is
given back as written. Printing a node is printing its tokens.

The tree keeps what the key evaluation, the type checking and the evaluation of values look
at: literals, parentheses, unary and binary operations, paths with their segments, calls and
method calls, fields and indexing, tuples, arrays and repeated arrays, casts, references,
ranges, blocks with their statements and items, `if` and `if let`, `match`, loops with
`break` and `continue`, closures and macro invocations. Every other expression is `other`.
-/

namespace GatherMap.Code

/-- The arguments of a path segment. -/
inductive PathArgs where
  | none
  /-- Arguments in angle brackets, `count` of them (`count` is 0 for `::<>`). -/
  | angle (count : Nat)
  /-- Arguments in parentheses, as in `Fn(u8) -> u8`. -/
  | parenthesized
  deriving DecidableEq, Repr, Inhabited

/-- One segment of a path: a name and its arguments. -/
structure Segment where
  name : String
  args : PathArgs
  deriving DecidableEq, Repr, Inhabited

namespace Segment

/-- Whether a segment has no arguments, or empty angle brackets. -/
def argsEmpty (s : Segment) : Bool :=
  match s.args with
  | .none | .angle 0 => true
  | _ => false

end Segment

/-- A path with its tokens. -/
structure Path where
  leadingColon : Bool
  segments : List Segment
  tokens : Tokens
  deriving Repr, Inhabited

namespace Path

/-- Whether a path names a module item: no segment has arguments. -/
def isModStyle (p : Path) : Bool := p.segments.all (·.args == .none)

/-- The single name of a path of one plain segment. -/
def ident? (p : Path) : Option String :=
  match p.leadingColon, p.segments with
  | false, [s] => if s.args == .none then some s.name else none
  | _, _ => none

end Path

/-- A parsed type: a path, a type in parentheses, or another type. -/
inductive Ty where
  /-- A path type; `qualified` for `<T as Trait>::Name`. -/
  | path (qualified : Bool) (path : Path) (tokens : Tokens)
  | paren (inner : Ty) (tokens : Tokens)
  | other (tokens : Tokens)
  deriving Repr, Inhabited

namespace Ty

/-- The tokens of a type. -/
def tokens : Ty → Tokens
  | path _ _ ts | paren _ ts | other ts => ts

end Ty

/-- A bound of a range pattern: a literal, possibly negative, or a path to a constant. -/
inductive RangeBound where
  | lit (value : Literal)
  | path (path : Path)
  deriving Repr, Inhabited

/-- A parsed pattern, as far as matching a constant against it needs. -/
inductive Pattern where
  /-- `_`, which matches anything. -/
  | wild
  /-- A literal, possibly negative. -/
  | lit (value : Literal)
  /-- `true` or `false`. -/
  | boolLit (value : Bool)
  /-- A range, `a..b` or `a..=b`, either bound left out. -/
  | range (lower upper : Option RangeBound) (closed : Bool)
  /-- A name that binds what it matches. -/
  | bind (name : String)
  /-- Alternatives `a | b`. -/
  | alt (options : List Pattern)
  /-- A tuple of patterns, `(a, b)`. -/
  | tuple (items : List Pattern)
  /-- A path, `None`, or a path with patterns for the fields of a tuple variant, `Some(x)`. -/
  | ctor (path : List String) (fields : Option (List Pattern))
  /-- A pattern behind a reference, `&p`. -/
  | deref (inner : Pattern)
  /-- A name bound to what a pattern matches, `x @ p`. -/
  | bindAt (name : String) (inner : Pattern)
  /-- An array or slice pattern, `[a, b]`. -/
  | slice (items : List Pattern)
  /-- `..` among the patterns of a slice or a tuple: the elements it leaves out. -/
  | rest
  /-- A pattern of another kind. -/
  | other
  deriving Repr, Inhabited

mutual

/-- A parsed expression. -/
inductive Expr where
  | lit (value : Literal) (tokens : Tokens)
  | bool (value : Bool) (tokens : Tokens)
  | paren (inner : Expr) (tokens : Tokens)
  | tuple (items : List Expr) (tokens : Tokens)
  | array (items : List Expr) (tokens : Tokens)
  /-- An array of one element repeated, `[item; count]`. -/
  | repeated (item count : Expr) (tokens : Tokens)
  | neg (inner : Expr) (tokens : Tokens)
  /-- `!e` or `*e`. -/
  | unary (op : Char) (inner : Expr) (tokens : Tokens)
  | reference (inner : Expr) (tokens : Tokens)
  /-- A path; `qualified` for `<T>::name` and `<T as Trait>::name`. -/
  | path (qualified : Bool) (segments : List Segment) (tokens : Tokens)
  | call (callee : Expr) (args : List Expr) (tokens : Tokens)
  | method (receiver : Expr) (name : String) (args : List Expr) (tokens : Tokens)
  | cast (inner : Expr) (ty : Ty) (tokens : Tokens)
  | mac (tokens : Tokens)
  /-- A range with its bounds; `closed` for `..=`. -/
  | range (lower upper : Option Expr) (closed : Bool) (tokens : Tokens)
  /-- Indexing, `base[index]`. -/
  | index (base index : Expr) (tokens : Tokens)
  /-- A field or tuple index, `base.name`. -/
  | field (base : Expr) (name : String) (tokens : Tokens)
  /-- A binary operation, compound assignments included. -/
  | binary (op : String) (lhs rhs : Expr) (tokens : Tokens)
  /-- A block: its statements and the expression it ends with, if any. Blocks after `unsafe`,
  `const` or `try`, and labeled blocks, are blocks too. -/
  | block (stmts : List Stmt) (tail : Option Expr) (tokens : Tokens)
  /-- `if` with its condition, its block and what follows `else`. -/
  | ifElse (cond : Expr) (thenBranch : Expr) (elseBranch : Option Expr) (tokens : Tokens)
  /-- `match` with its scrutinee and arms. -/
  | matchOn (scrutinee : Expr) (arms : List Arm) (tokens : Tokens)
  /-- `let` with a pattern and a scrutinee, as the condition of `if` or `while`. -/
  | letCond (pat : Pattern) (scrutinee : Expr) (tokens : Tokens)
  /-- `loop` with an optional label and its block. -/
  | loop (label : Option String) (body : Expr) (tokens : Tokens)
  /-- `while` with an optional label, its condition and its block. -/
  | whileLoop (label : Option String) (cond body : Expr) (tokens : Tokens)
  /-- `for` with an optional label, its pattern, what it iterates over and its block. -/
  | forLoop (label : Option String) (pat : Pattern) (iterated body : Expr) (tokens : Tokens)
  /-- `break` with an optional label and value. -/
  | breakOut (label : Option String) (value : Option Expr) (tokens : Tokens)
  /-- `continue` with an optional label. -/
  | continueLoop (label : Option String) (tokens : Tokens)
  /-- A closure: its parameters with their declared types, its declared result and its body. -/
  | closure (params : List (Pattern × Option Ty)) (result : Option Ty) (body : Expr)
      (tokens : Tokens)
  | other (tokens : Tokens)

/-- A statement of a block. -/
inductive Stmt where
  /-- `let`, with its pattern, its declared type and its initializer. -/
  | binding (pat : Pattern) (ty : Option Ty) (init : Option Expr) (tokens : Tokens)
  /-- An expression, and whether a semicolon ends it. -/
  | expr (e : Expr) (semi : Bool) (tokens : Tokens)
  /-- A `const` item: its name, type and value. -/
  | constItem (name : String) (ty : Ty) (value : Expr) (tokens : Tokens)
  /-- A function item: its name, parameters with their types, declared result and body. -/
  | fnItem (name : String) (params : List (Pattern × Option Ty)) (result : Option Ty)
      (body : Expr) (tokens : Tokens)
  /-- Another item, a macro invocation, or an empty statement. -/
  | other (tokens : Tokens)

/-- An arm of `match`: its pattern, its guard, and its body. -/
inductive Arm where
  | arm (pat : Pattern) (guard : Option Expr) (body : Expr) (tokens : Tokens)

end

instance : Inhabited Expr := ⟨.other []⟩

namespace Expr

/-- The tokens of an expression. -/
def tokens : Expr → Tokens
  | lit _ ts | bool _ ts | paren _ ts | tuple _ ts | array _ ts | repeated _ _ ts | neg _ ts
  | unary _ _ ts
  | reference _ ts | path _ _ ts | call _ _ ts | method _ _ _ ts | cast _ _ ts | mac ts
  | range _ _ _ ts | index _ _ ts | field _ _ ts | binary _ _ _ ts | block _ _ ts
  | ifElse _ _ _ ts | matchOn _ _ ts | letCond _ _ ts | loop _ _ ts | whileLoop _ _ _ ts
  | forLoop _ _ _ _ ts | breakOut _ _ ts | continueLoop _ ts | closure _ _ _ ts
  | other ts => ts

/-- The same expression with `pre` (its attributes) before its tokens. -/
def withPrefix (pre : Tokens) : Expr → Expr
  | lit v ts => lit v (pre ++ ts)
  | bool v ts => bool v (pre ++ ts)
  | paren e ts => paren e (pre ++ ts)
  | tuple es ts => tuple es (pre ++ ts)
  | array es ts => array es (pre ++ ts)
  | repeated e c ts => repeated e c (pre ++ ts)
  | neg e ts => neg e (pre ++ ts)
  | unary op e ts => unary op e (pre ++ ts)
  | reference e ts => reference e (pre ++ ts)
  | path q s ts => path q s (pre ++ ts)
  | call f a ts => call f a (pre ++ ts)
  | method r m a ts => method r m a (pre ++ ts)
  | cast e t ts => cast e t (pre ++ ts)
  | mac ts => mac (pre ++ ts)
  | range l u c ts => range l u c (pre ++ ts)
  | index b i ts => index b i (pre ++ ts)
  | field b n ts => field b n (pre ++ ts)
  | binary op l r ts => binary op l r (pre ++ ts)
  | block ss t ts => block ss t (pre ++ ts)
  | ifElse c a b ts => ifElse c a b (pre ++ ts)
  | matchOn s a ts => matchOn s a (pre ++ ts)
  | letCond p x ts => letCond p x (pre ++ ts)
  | loop l b ts => loop l b (pre ++ ts)
  | whileLoop l c b ts => whileLoop l c b (pre ++ ts)
  | forLoop l p i b ts => forLoop l p i b (pre ++ ts)
  | breakOut l v ts => breakOut l v (pre ++ ts)
  | continueLoop l ts => continueLoop l (pre ++ ts)
  | closure ps r b ts => closure ps r b (pre ++ ts)
  | other ts => other (pre ++ ts)

end Expr

namespace Stmt

/-- The tokens of a statement. -/
def tokens : Stmt → Tokens
  | binding _ _ _ ts | expr _ _ ts | constItem _ _ _ ts | fnItem _ _ _ _ ts | other ts => ts

/-- Whether a statement is a function item declared `const`. -/
def isConstFn : Stmt → Bool
  | .fnItem _ _ _ _ ts =>
    (ts.dropWhile fun t => !(t matches .ident "fn" _)).length < ts.length &&
      (ts.takeWhile fun t => !(t matches .ident "fn" _)).any (fun t => t matches .ident "const" _)
  | _ => false

end Stmt

namespace Arm

/-- The tokens of an arm. -/
def tokens : Arm → Tokens
  | arm _ _ _ ts => ts

end Arm

namespace Expr

/-- Whether an expression is a range. -/
def isRange : Expr → Bool
  | range _ _ _ _ => true
  | _ => false

/-- Whether an expression is a comparison. -/
def isComparison : Expr → Bool
  | binary op _ _ _ => ["==", "<=", "!=", ">=", "<", ">"].contains op
  | _ => false

/-- Whether an expression ends in a block of its own and so ends a statement without a
semicolon: a block, `if`, `match` or a loop. -/
def isBlockLike : Expr → Bool
  | block _ _ _ | ifElse _ _ _ _ | matchOn _ _ _ | loop _ _ _ | whileLoop _ _ _ _
  | forLoop _ _ _ _ _ => true
  | _ => false

/-- Whether an expression is a macro invocation. -/
def isMac : Expr → Bool
  | mac _ => true
  | _ => false

/-- Whether an expression is a macro invocation with braces. -/
def isBraceMacro : Expr → Bool
  | mac ts =>
    match ts.getLast? with
    | some (.group .brace _ _) => true
    | _ => false
  | _ => false

/-- The expressions an expression is built from, in the order they are written: operands,
elements, conditions, branches, and the initializers and bodies of a block's statements and
items. Macro arguments are not among them. -/
def children : Expr → List Expr
  | paren x _ | neg x _ | unary _ x _ | reference x _ | cast x _ _ | field x _ _
  | letCond _ x _ | loop _ x _ | closure _ _ x _ => [x]
  | tuple xs _ | array xs _ => xs
  | repeated x c _ => [x, c]
  | call f args _ => f :: args
  | method r _ args _ => r :: args
  | range lo hi _ _ => lo.toList ++ hi.toList
  | index b i _ => [b, i]
  | binary _ l r _ => [l, r]
  | block stmts tail _ =>
    stmts.flatMap (fun s => match s with
      | .binding _ _ init _ => init.toList
      | .expr x _ _ => [x]
      | .constItem _ _ x _ => [x]
      | .fnItem _ _ _ x _ => [x]
      | .other _ => []) ++ tail.toList
  | ifElse c a b _ => [c, a] ++ b.toList
  | matchOn x arms _ =>
    x :: arms.flatMap fun arm => match arm with
      | .arm _ guard body _ => guard.toList ++ [body]
  | whileLoop _ c b _ => [c, b]
  | forLoop _ _ x b _ => [x, b]
  | breakOut _ v _ => v.toList
  | lit _ _ | bool _ _ | path _ _ _ | mac _ | continueLoop _ _ | other _ => []

/-- The span of an expression: that of its first token, or the call site for none. -/
def span (e : Expr) : Span := (e.tokens.head?.map TokenTree.span).getD .callSite

/-- The spans of the first and the last token of an expression. -/
def extent (e : Expr) : Span × Span :=
  (e.span, (e.tokens.getLast?.map TokenTree.span).getD .callSite)

end Expr

end GatherMap.Code
