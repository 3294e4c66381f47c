import GatherMap.Inline.Keys

/-!
# The types of values and how they are inferred

The values of an inline map and the keys a program looks up have types of the source language:
integers of every width, the two floating-point types, `bool`, `char`, string slices, tuples,
arrays, slices, references, named types with arguments such as `Option<i32>` or `String`, and
function items. Inference adds three kinds of variables: an unsuffixed integer literal has an
*integer variable*, which only an integer type can replace; an unsuffixed floating-point literal
has a *float variable*; and a *general* variable stands for a type nothing has fixed yet, such
as the argument of `None`.

`Inference` holds the variables' bindings and the problems found so far. `unify` makes two
types equal by binding variables, and leaves every binding as it was when it cannot. After a
value has been checked, the integer variables left open become `i32` and the float variables
`f64` (`fallBack`); a general variable left open is a type the program has to annotate.

A type is shown as the compiler shows it: an open integer variable is `{integer}`, an open float
variable `{float}`, and a general one `_`.
-/

namespace GatherMap.Inline

open Code

/-- A primitive integer type: whether it is signed, its width in bits, and whether it is the
pointer-sized type, 64 bits wide on the machines programs are compiled for. -/
structure IntType where
  signed : Bool
  bits : Nat
  pointerSized : Bool
  deriving DecidableEq, Repr, Inhabited

namespace IntType

def i8 : IntType := ⟨true, 8, false⟩
def i16 : IntType := ⟨true, 16, false⟩
def i32 : IntType := ⟨true, 32, false⟩
def i64 : IntType := ⟨true, 64, false⟩
def i128 : IntType := ⟨true, 128, false⟩
def isize : IntType := ⟨true, 64, true⟩
def u8 : IntType := ⟨false, 8, false⟩
def u16 : IntType := ⟨false, 16, false⟩
def u32 : IntType := ⟨false, 32, false⟩
def u64 : IntType := ⟨false, 64, false⟩
def u128 : IntType := ⟨false, 128, false⟩
def usize : IntType := ⟨false, 64, true⟩

/-- Every integer type. -/
def all : List IntType := [i8, i16, i32, i64, i128, isize, u8, u16, u32, u64, u128, usize]

/-- The type's name as written in source code. -/
def name (t : IntType) : String :=
  (if t.signed then "i" else "u") ++ (if t.pointerSized then "size" else toString t.bits)

/-- The integer type a name stands for. -/
def ofName? (s : String) : Option IntType := all.find? (·.name == s)

/-- The least value of the type. -/
def min (t : IntType) : Int := if t.signed then -(Int.pow 2 (t.bits - 1)) else 0

/-- The greatest value of the type. -/
def max (t : IntType) : Int :=
  if t.signed then Int.pow 2 (t.bits - 1) - 1 else Int.pow 2 t.bits - 1

/-- Whether an integer is a value of the type. -/
def contains (t : IntType) (i : Int) : Bool := t.min ≤ i && i ≤ t.max

/-- The value of the type that agrees with `i` in its lowest `bits` bits. -/
def wrap (t : IntType) (i : Int) : Int :=
  let m : Int := Int.pow 2 t.bits
  let r := i % m
  if t.signed && r ≥ m / 2 then r - m else r

/-- The integer type of an integer key type. -/
def ofKeyType : KeyType → Option IntType
  | .u8 => some u8
  | .u16 => some u16
  | .u32 => some u32
  | .u64 => some u64
  | .usize => some usize
  | .i8 => some i8
  | .i16 => some i16
  | .i32 => some i32
  | .i64 => some i64
  | .isize => some isize
  | .bool | .char => none

end IntType

/-- A type of the source language, with inference variables. -/
inductive ValueType where
  | int (t : IntType)
  /-- A floating-point type, `f32` when `single`. -/
  | float (single : Bool)
  | bool
  | char
  /-- The string slice type `str`, seen behind a reference. -/
  | str
  /-- The type of an expression that never produces a value. -/
  | never
  | tuple (items : List ValueType)
  | array (item : ValueType) (length : Nat)
  | slice (item : ValueType)
  | ref (inner : ValueType)
  /-- A named type and its arguments: `Option<T>`, `String`, `Vec<T>`, `Range<T>`, … -/
  | named (name : String) (args : List ValueType)
  /-- The type of a function item, shown by its name. -/
  | fnItem (name : String)
  | intVar (id : Nat)
  | floatVar (id : Nat)
  | var (id : Nat)
  /-- The type of an expression already reported as wrong; it agrees with every type. -/
  | error
  deriving Repr, Inhabited

namespace ValueType

/-- The unit type `()`. -/
def unit : ValueType := tuple []

/-- `&str`. -/
def strRef : ValueType := ref str

/-- `String`. -/
def string : ValueType := named "String" []

/-- `Option<t>`. -/
def option (t : ValueType) : ValueType := named "Option" [t]

/-- The type of a key type. -/
def ofKeyType (k : KeyType) : ValueType :=
  match IntType.ofKeyType k with
  | some t => int t
  | none => if k == .bool then bool else char

/-- The type named by a primitive type name. -/
def primitive? (name : String) : Option ValueType :=
  match IntType.ofName? name with
  | some t => some (int t)
  | none =>
    match name with
    | "f32" => some (float true)
    | "f64" => some (float false)
    | "bool" => some bool
    | "char" => some char
    | "str" => some str
    | _ => none

/-- How the compiler shows a type. -/
def shown : ValueType → String
  | int t => t.name
  | float single => if single then "f32" else "f64"
  | bool => "bool"
  | char => "char"
  | str => "str"
  | never => "!"
  | tuple [x] => "(" ++ shown x ++ ",)"
  | tuple xs => "(" ++ ", ".intercalate (xs.attach.map fun ⟨x, _⟩ => shown x) ++ ")"
  | array x n => "[" ++ shown x ++ "; " ++ toString n ++ "]"
  | slice x => "[" ++ shown x ++ "]"
  | ref x => "&" ++ shown x
  | named n [] => n
  | named n xs => n ++ "<" ++ ", ".intercalate (xs.attach.map fun ⟨x, _⟩ => shown x) ++ ">"
  | fnItem n => n
  | intVar _ => "\x7binteger\x7d"
  | floatVar _ => "\x7bfloat\x7d"
  | var _ => "_"
  | error => "\x7btype error\x7d"

/-- Whether a type is an integer type or an integer variable. -/
def isIntegral : ValueType → Bool
  | int _ | intVar _ => true
  | _ => false

/-- Whether a type is a floating-point type or a float variable. -/
def isFloating : ValueType → Bool
  | float _ | floatVar _ => true
  | _ => false

/-- Whether a type is a scalar: a number, `bool` or `char`. -/
def isScalar (t : ValueType) : Bool :=
  t.isIntegral || t.isFloating ||
    match t with
    | bool | char => true
    | _ => false

/-- Whether a type has an inference variable anywhere in it. -/
def hasVar : ValueType → Bool
  | intVar _ | floatVar _ | var _ => true
  | tuple xs | named _ xs => xs.attach.any fun ⟨x, _⟩ => hasVar x
  | array x _ | slice x | ref x => hasVar x
  | _ => false

/-- Whether a type is the error type. -/
def isError : ValueType → Bool
  | error => true
  | _ => false

/-- Whether a type's values own memory that dropping them frees. -/
def ownsMemory : ValueType → Bool
  | named "String" _ | named "Vec" _ | named "Box" _ => true
  | named _ xs | tuple xs => xs.attach.any fun ⟨x, _⟩ => ownsMemory x
  | array x _ => ownsMemory x
  | _ => false

end ValueType

/-- What a type variable may stand for. -/
inductive VarKind where
  | integer
  | float
  | general
  deriving Repr, Inhabited

/-- A path written with generic arguments left out, such as `None` or `Vec::new`: a place where
an annotation could fix a type left open. `base` is what writing the arguments out costs
before the arguments themselves: more for an enum variant, whose arguments read badly. -/
structure ArgumentSite where
  first : Span
  last : Span
  base : Nat
  args : List ValueType
  deriving Repr, Inhabited

/-- A loop being checked: its label, the type its `break`s give, whether a `break` may
give a value (only `loop` allows one), and whether one was seen. -/
structure LoopFrame where
  label : Option String
  result : ValueType
  valued : Bool
  broken : Bool := false
  deriving Repr, Inhabited

/-- The state of inference: the kinds and bindings of the variables, the problems found, and
checks that wait until the variables are settled. -/
structure Inference where
  kinds : Array VarKind := #[]
  bindings : Array (Option ValueType) := #[]
  errors : Array Diagnostic := #[]
  /-- Negated operands whose type was an open integer variable, with the negation's span. -/
  negations : Array (ValueType × Span × Span) := #[]
  /-- Casts to check once the variables are settled: operand type, target type, span, and
  whether the operand is a string literal, whose type is shown with its lifetime. -/
  casts : Array (ValueType × ValueType × Span × Span × Bool) := #[]
  /-- The paths with generic arguments left out, in the order the compiler visits them. -/
  sites : Array ArgumentSite := #[]
  /-- The places that bind names, by the span of their first token: the type of what they
  bind a pattern to (a function's type for closures and functions) and the names bound. -/
  locals : Array (Span × ValueType × List (String × ValueType)) := #[]
  /-- The loops around the expression being checked, innermost first. -/
  loops : List LoopFrame := []
  deriving Inhabited

/-- A computation of inference. -/
abbrev Infer := StateM Inference

/-- Report a problem over a span. -/
def Infer.emit (message : String) (first last : Span) : Infer Unit :=
  modify fun s => { s with errors := s.errors.push ⟨message, first, last⟩ }

/-- Record a path whose generic arguments are left out. -/
def Infer.site (first last : Span) (variant : Bool) (args : List ValueType) : Infer Unit :=
  modify fun s => { s with sites := s.sites.push ⟨first, last, if variant then 15 else 10, args⟩ }

/-- Record the names a place binds. -/
def Infer.bindLocal (key : Span) (t : ValueType) (names : List (String × ValueType)) :
    Infer Unit :=
  modify fun s => { s with locals := s.locals.push (key, t, names) }

/-- A new variable of a kind. -/
def Infer.fresh (k : VarKind) : Infer ValueType := do
  let s ← get
  let id := s.kinds.size
  set { s with kinds := s.kinds.push k, bindings := s.bindings.push none }
  return match k with
    | .integer => .intVar id
    | .float => .floatVar id
    | .general => .var id

/-- Follow variable bindings at the top of a type, at most `fuel` steps. -/
def followWith (bindings : Array (Option ValueType)) : Nat → ValueType → ValueType
  | 0, t => t
  | fuel + 1, t =>
    match t with
    | .intVar i | .floatVar i | .var i =>
      match bindings[i]? with
      | some (some u) => followWith bindings fuel u
      | _ => t
    | _ => t

/-- Replace every bound variable in a type by its binding, at most `fuel` levels deep. -/
def zonkWith (bindings : Array (Option ValueType)) : Nat → ValueType → ValueType
  | 0, t => t
  | fuel + 1, t =>
    match followWith bindings bindings.size t with
    | .tuple xs => .tuple (xs.map (zonkWith bindings fuel))
    | .array x n => .array (zonkWith bindings fuel x) n
    | .slice x => .slice (zonkWith bindings fuel x)
    | .ref x => .ref (zonkWith bindings fuel x)
    | .named n xs => .named n (xs.map (zonkWith bindings fuel))
    | u => u

/-- A type with its bound variables replaced. -/
def Infer.zonk (t : ValueType) : Infer ValueType := do
  let s ← get
  return zonkWith s.bindings (s.bindings.size + 32) t

/-- The top of a type after following bindings. -/
def Infer.follow (t : ValueType) : Infer ValueType := do
  let s ← get
  return followWith s.bindings s.bindings.size t

/-- Bind a variable. -/
def Infer.bind (i : Nat) (t : ValueType) : Infer Unit :=
  modify fun s => { s with bindings := s.bindings.set! i (some t) }

/-- Make two types equal by binding variables, at most `fuel` levels deep; false when they
cannot be. -/
def unifyWith : Nat → ValueType → ValueType → Infer Bool
  | 0, _, _ => pure false
  | fuel + 1, a, b => do
    let a ← Infer.follow a
    let b ← Infer.follow b
    let all (xs ys : List ValueType) : Infer Bool :=
      if xs.length != ys.length then pure false
      else (xs.zip ys).allM fun (x, y) => unifyWith fuel x y
    match a, b with
    | .error, _ | _, .error | .never, _ | _, .never => pure true
    | .var i, .var j => if i == j then pure true else Infer.bind i b *> pure true
    | .var i, t | t, .var i => Infer.bind i t *> pure true
    | .intVar i, .intVar j => if i == j then pure true else Infer.bind i b *> pure true
    | .intVar i, .int t | .int t, .intVar i => Infer.bind i (.int t) *> pure true
    | .floatVar i, .floatVar j => if i == j then pure true else Infer.bind i b *> pure true
    | .floatVar i, .float s | .float s, .floatVar i => Infer.bind i (.float s) *> pure true
    | .int s, .int t => pure (s == t)
    | .float s, .float t => pure (s == t)
    | .bool, .bool | .char, .char | .str, .str => pure true
    | .tuple xs, .tuple ys => all xs ys
    | .array x n, .array y m => if n == m then unifyWith fuel x y else pure false
    | .slice x, .slice y | .ref x, .ref y => unifyWith fuel x y
    | .named n xs, .named m ys => if n == m then all xs ys else pure false
    | .fnItem n, .fnItem m => pure (n == m)
    | _, _ => pure false

/-- Make two types equal; when they cannot be, every binding stays as it was. -/
def Infer.unify (a b : ValueType) : Infer Bool := do
  let saved ← get
  let ok ← unifyWith 64 a b
  unless ok do
    modify fun s => { s with kinds := saved.kinds, bindings := saved.bindings }
  return ok

/-- Settle the open integer variables as `i32` and the open float variables as `f64`. -/
def Infer.fallBack : Infer Unit :=
  modify fun s =>
    let bindings := (List.range s.kinds.size).foldl (fun (acc : Array (Option ValueType)) i =>
        match acc[i]?, s.kinds[i]? with
        | some none, some .integer => acc.set! i (some (.int .i32))
        | some none, some .float => acc.set! i (some (.float false))
        | _, _ => acc)
      s.bindings
    { s with bindings }

/-- The first open general variable in a type, after following bindings. -/
def openVar? (bindings : Array (Option ValueType)) : Nat → ValueType → Option Nat
  | 0, _ => none
  | fuel + 1, t =>
    match followWith bindings bindings.size t with
    | .var i => some i
    | .tuple xs | .named _ xs => xs.findSome? (openVar? bindings fuel)
    | .array x _ | .slice x | .ref x => openVar? bindings fuel x
    | _ => none

end GatherMap.Inline
