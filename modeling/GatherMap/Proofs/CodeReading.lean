import GatherMap.Proofs.Imports
import GatherMap.Proofs.LiteralText

/-!
# Reading generated code

The code that `Generator.generate` writes is an expression of paths under their aliases, calls
and literals. This module gives the code of values its meaning, and the means to show that
generated code has it:

* `readValue`: the value that code of a type (`Shape`) denotes under the imports a block declares.
  The reader is directed by the type, as the compiler is: the tokens `()` stand for a unit and for
  an empty tuple. Literals are read by `Literal.classify`, the grammar's own reading of a literal;
* `Runs`: what a piece of code guarantees of its tokens under imports that name every alias the
  generator holds at the end; `Runs.bind` composes pieces in sequence and `runs_mapM` pieces in
  turn, since later pieces only add aliases;
* `readsAs_piece`: the code of a value reads back as the value, at every type it has.
-/

namespace GatherMap.Proofs.CodeReading

open GatherMap Code Literal

/-! ### Names, lists and literals -/

/-- Imports: paths and the aliases they are imported under. -/
abbrev Env := List (String × String)

/-- The path an alias is imported from. -/
def resolve (env : Env) (a : String) : Option String :=
  (env.find? (·.2 == a)).map (·.1)

/-- Whether a token is a comma. -/
def isComma : TokenTree → Bool
  | .punct ',' _ _ => true
  | _ => false

/-- The items of a list between brackets or parentheses. -/
def items (ts : Tokens) : List Tokens :=
  if ts.isEmpty then [] else ts.splitOnP isComma

/-- The number of an unsuffixed decimal literal. -/
def literalNat (text : String) : Option Nat :=
  match classify text with
  | .int false n "" => some n
  | _ => none

/-- A number written as one literal. -/
def readNat : Tokens → Option Nat
  | [.literal text _] => literalNat text
  | _ => none

/-- An integer: a literal, or a minus sign before one. -/
def readInt : Tokens → Option Int
  | [.literal text _] => (literalNat text).map Int.ofNat
  | [.punct '-' _ _, .literal text _] => (literalNat text).map fun n : Nat => -(n : Int)
  | _ => none

/-- The bytes of a byte string literal. -/
def readBytes : Tokens → Option (List Nat)
  | [.literal text _] =>
    match classify text with
    | .byteStr bytes => some bytes
    | _ => none
  | _ => none

/-! ### Values -/

/-- The types values are written at. -/
inductive Shape where
  | unit
  | bool
  | int
  | byte
  | char
  | str
  | string
  | option (s : Shape)
  | byteVec
  | vec (s : Shape)
  | byteSlice
  | slice (s : Shape)
  | array (s : Shape)
  | ref (s : Shape)
  | tuple (ss : List Shape)
  deriving Repr, Inhabited

/-- A value of a type: the elements of a collection have its element type, and bytes are below
`256`. Vectors and slices of bytes are the byte forms, so the elements of `vec` and `slice` are
not bytes. -/
inductive HasShape : Value → Shape → Prop
  | unit : HasShape .unit .unit
  | bool (b : Bool) : HasShape (.bool b) .bool
  | int (i : Int) : HasShape (.int i) .int
  | byte {i : Int} : 0 ≤ i → i < 256 → HasShape (.int i) .byte
  | char (c : Char) : HasShape (.char c) .char
  | str (s : String) : HasShape (.str s) .str
  | string (s : String) : HasShape (.string s) .string
  | absent (s : Shape) : HasShape .absent (.option s)
  | present {v : Value} {s : Shape} : HasShape v s → HasShape (.present v) (.option s)
  | byteVec {bytes : List Nat} : (∀ b ∈ bytes, b < 256) → HasShape (.byteVec bytes) .byteVec
  | vec {vs : List Value} {s : Shape} : s ≠ .byte → (∀ v ∈ vs, HasShape v s) →
      HasShape (.vec vs) (.vec s)
  | byteSlice {bytes : List Nat} : (∀ b ∈ bytes, b < 256) → HasShape (.byteSlice bytes) .byteSlice
  | slice {vs : List Value} {s : Shape} : s ≠ .byte → (∀ v ∈ vs, HasShape v s) →
      HasShape (.slice vs) (.slice s)
  | array {vs : List Value} {s : Shape} : (∀ v ∈ vs, HasShape v s) → HasShape (.array vs) (.array s)
  | ref {v : Value} {s : Shape} : HasShape v s → HasShape (.ref v) (.ref s)
  | tuple {vs : List Value} {ss : List Shape} : List.Forall₂ HasShape vs ss →
      HasShape (.tuple vs) (.tuple ss)

mutual

/-- The value that code of type `s` denotes. A tuple's parts are each followed by a comma, so
splitting at the commas leaves an empty last piece. -/
def readValue (env : Env) : Shape → Tokens → Option Value
  | .unit, [.group .paren [] _] => some .unit
  | .bool, [.ident "true" _] => some (.bool true)
  | .bool, [.ident "false" _] => some (.bool false)
  | .int, ts => (readInt ts).map .int
  | .byte, ts => (readInt ts).bind fun i => if 0 ≤ i ∧ i < 256 then some (.int i) else none
  | .char, [.literal text _] =>
    match classify text with
    | .char c => some (.char c)
    | _ => none
  | .str, [.literal text _] =>
    match classify text with
    | .str s => some (.str s)
    | _ => none
  | .string, [.ident a _, .punct ':' _ _, .punct ':' _ _, .ident "from" _,
      .group .paren [.literal text _] _] =>
    if resolve env a = some "alloc::string::String" then
      match classify text with
      | .str s => some (.string s)
      | _ => none
    else none
  | .option _, [.ident a _] =>
    if resolve env a = some "core::option::Option::None" then some .absent else none
  | .option s, [.ident a _, .group .paren inner _] =>
    if resolve env a = some "core::option::Option::Some" then
      (readValue env s inner).map .present
    else none
  | .byteVec, [.ident a _, .punct ':' _ _, .punct ':' _ _, .ident "from" _,
      .group .paren lit _] =>
    if resolve env a = some "alloc::vec::Vec" then (readBytes lit).map .byteVec else none
  | .vec s, [.ident a _, .punct '!' _ _, .group .bracket inner _] =>
    if resolve env a = some "alloc::vec" then
      ((items inner).mapM (readValue env s)).map .vec
    else none
  | .byteSlice, lit => (readBytes lit).map .byteSlice
  | .slice s, [.punct '&' _ _, .group .bracket inner _] =>
    ((items inner).mapM (readValue env s)).map .slice
  | .array s, [.group .bracket inner _] => ((items inner).mapM (readValue env s)).map .array
  | .ref s, .punct '&' _ _ :: inner => (readValue env s inner).map .ref
  | .tuple ss, [.group .paren inner _] =>
    match (inner.splitOnP isComma).reverse with
    | [] :: parts => (readParts env ss parts.reverse).map .tuple
    | _ => none
  | _, _ => none

/-- The values of the parts of a tuple, each of its own type. -/
def readParts (env : Env) : List Shape → List Tokens → Option (List Value)
  | [], [] => some []
  | s :: ss, t :: ts => do
    let v ← readValue env s t
    let vs ← readParts env ss ts
    pure (v :: vs)
  | _, _ => none

end

/-! ### Imports that name the generator's aliases -/

/-- The imports `env` give every alias the generator holds its path. -/
def Resolves (env : Env) (g : Generator) : Prop :=
  ∀ e ∈ g.aliases, resolve env e.2 = some e.1

/-- Aliases only come, so imports that name them at the end named them all along. -/
theorem Resolves.of_reaches {env : Env} {g g' : Generator}
    (h : Relation.ReflTransGen Imports.Step g g') (hr : Resolves env g') : Resolves env g :=
  fun e he => hr e (Imports.mem_aliases_of_reaches h he)

/-- **The block's imports name every alias**, as no alias is handed out twice. -/
theorem resolves_sortedImports {g : Generator} (hc : Imports.Consistent g) :
    Resolves (Imports.sortedImports g) g := by
  intro e he
  have hmem : e ∈ Imports.sortedImports g := Imports.mem_sortedImports.mpr he
  obtain ⟨x, hx⟩ := Option.isSome_iff_exists.mp
    (List.find?_isSome.mpr ⟨e, hmem, by simp⟩ :
      ((Imports.sortedImports g).find? (·.2 == e.2)).isSome)
  have hsnd : x.2 = e.2 := by simpa using List.find?_some hx
  have hxe : x = e := List.inj_on_of_nodup_map (Imports.sortedImports_aliases_nodup hc)
    (List.mem_of_find?_eq_some hx) hmem hsnd
  simp [resolve, hx, hxe]

/-! ### Lists of items -/

/-- The tokens of one item of a list: some tokens, none of them a comma. -/
def Item (ts : Tokens) : Prop := ts ≠ [] ∧ ∀ t ∈ ts, isComma t = false

theorem puncts_comma : puncts "," = [.punct ',' .alone .callSite] := rfl

theorem splitOnP_item {ts : Tokens} (h : Item ts) : ts.splitOnP isComma = [ts] :=
  List.splitOnP_eq_singleton h.2

/-- Items written between commas are read back one by one. -/
theorem items_separated : ∀ {parts : List Tokens}, (∀ t ∈ parts, Item t) →
    items (separated "," parts) = parts
  | [], _ => rfl
  | [t], h => by
    have ht := h t List.mem_cons_self
    simp [separated, items, splitOnP_item ht, List.isEmpty_iff, ht.1]
  | t :: u :: rest, h => by
    have ht := h t List.mem_cons_self
    have hrest : ∀ x ∈ u :: rest, Item x := fun x hx => h x (List.mem_cons_of_mem t hx)
    have ih := items_separated hrest
    have hne : separated "," (u :: rest) ≠ [] := by
      cases rest with
      | nil => exact (hrest u List.mem_cons_self).1
      | cons w rest => simp [separated, (hrest u List.mem_cons_self).1]
    rw [items, if_neg (by simpa [List.isEmpty_iff] using hne)] at ih
    rw [separated, items, if_neg (by simp [List.isEmpty_iff, ht.1]), puncts_comma,
      List.append_assoc, List.singleton_append,
      List.splitOnP_append_cons_of_forall_mem ht.2 _ rfl, ih]
    exact List.cons_ne_nil _ _

/-- Parts each followed by a comma split into the parts and an empty last piece. -/
theorem splitOnP_trailing : ∀ {parts : List Tokens}, (∀ t ∈ parts, Item t) →
    (parts.flatMap (· ++ puncts ",")).splitOnP isComma = parts ++ [[]]
  | [], _ => rfl
  | t :: rest, h => by
    have ht := h t List.mem_cons_self
    have ih := splitOnP_trailing fun x hx => h x (List.mem_cons_of_mem t hx)
    rw [List.flatMap_cons, List.append_assoc]
    rw [show puncts "," ++ rest.flatMap (· ++ puncts ",") =
      .punct ',' .alone .callSite :: rest.flatMap (· ++ puncts ",") from rfl,
      List.splitOnP_append_cons_of_forall_mem ht.2 _ rfl, ih]
    rfl

/-! ### Runs of pieces -/

theorem run_bind {α β : Type} (x : Gen α) (f : α → Gen β) (g : Generator) :
    (x >>= f).run g = (f (x.run g).1).run (x.run g).2 := rfl

/-- What a piece of code guarantees of its result, under imports that name every alias the
generator holds at the end; and the piece only adds aliases, so a later piece keeps the
guarantee. -/
structure Runs {α : Type} (x : Gen α) (P : Env → α → Prop) : Prop where
  preserves : Imports.Preserves x
  holds : ∀ g env, Resolves env (x.run g).2 → P env (x.run g).1

theorem Runs.imp {α : Type} {x : Gen α} {P Q : Env → α → Prop} (h : Runs x P)
    (himp : ∀ env a, P env a → Q env a) : Runs x Q :=
  ⟨h.preserves, fun g env hr => himp env _ (h.holds g env hr)⟩

/-- **Pieces in sequence**: the later piece may use what the earlier one guarantees, since the
imports that name the aliases at the end named the earlier piece's aliases too. -/
theorem Runs.bind {α β : Type} {x : Gen α} {f : α → Gen β} {P : Env → α → Prop}
    {Q : Env → β → Prop} (hx : Runs x P) (hf : ∀ a, Runs (f a) fun env b => P env a → Q env b) :
    Runs (x >>= f) Q := by
  refine ⟨hx.preserves.bind fun a => (hf a).preserves, fun g env hr => ?_⟩
  rw [run_bind] at hr ⊢
  exact (hf _).holds _ env hr (hx.holds g env (hr.of_reaches ((hf _).preserves _)))

theorem runs_pure {α : Type} {a : α} {Q : Env → α → Prop} (h : ∀ env, Q env a) :
    Runs (pure a) Q :=
  ⟨Imports.preserves_pure a, fun _ env _ => h env⟩

/-- A path call gives an alias that the imports resolve to the path. -/
theorem runs_usePath (p : String) :
    Runs (usePath p) fun env ts => ∃ a, ts = [ident a] ∧ resolve env a = some p := by
  refine ⟨Imports.preserves_usePath p, fun g env hr => ?_⟩
  obtain ⟨a, ha, hmem⟩ := Imports.path_run g p
  exact ⟨a, ha, hr _ hmem⟩

theorem runs_isMutable : Runs isMutable fun _ _ => True :=
  ⟨Imports.preserves_isMutable, fun _ _ _ => trivial⟩

/-- **Pieces written in turn**: each piece's tokens have what it guarantees. -/
theorem runs_mapM {β γ : Type} {f : β → Gen γ} {R : Env → β → γ → Prop} :
    ∀ {l : List β}, (∀ b ∈ l, Runs (f b) fun env t => R env b t) →
      Runs (l.mapM f) fun env ts => List.Forall₂ (R env) l ts
  | [], _ => runs_pure fun _ => List.Forall₂.nil
  | b :: l, h => by
    rw [List.mapM_cons]
    exact (h b List.mem_cons_self).bind fun c =>
      (runs_mapM fun x hx => h x (List.mem_cons_of_mem b hx)).bind fun cs =>
        runs_pure fun _ hcs hc => List.Forall₂.cons hc hcs

theorem puncts_colons : puncts "::" = [.punct ':' .joint .callSite, .punct ':' .alone .callSite] :=
  rfl

theorem puncts_bang : puncts "!" = [.punct '!' .alone .callSite] := rfl

theorem puncts_amp : puncts "&" = [.punct '&' .alone .callSite] := rfl

theorem puncts_minus : puncts "-" = [.punct '-' .alone .callSite] := rfl

/-! ### Values read back -/

/-- Code `x` reads as `a`: its tokens are one item that `read` reads as `a`. -/
def ReadsAs {α : Type} (read : Env → Tokens → Option α) (x : Gen Tokens) (a : α) : Prop :=
  Runs x fun env ts => read env ts = some a ∧ Item ts

theorem readInt_intTokens (i : Int) : readInt (intTokens i) = some i := by
  unfold intTokens
  split
  · rename_i hneg
    rw [puncts_minus]
    simp only [List.cons_append, List.nil_append, readInt, literal, literalNat,
      LiteralText.classify_toString, Option.map_some, Option.some.injEq]
    omega
  · rename_i hpos
    simp only [readInt, literal, literalNat, LiteralText.classify_toString, Option.map_some,
      Option.some.injEq, Int.ofNat_eq_natCast]
    omega

theorem item_intTokens (i : Int) : Item (intTokens i) := by
  unfold intTokens
  split
  · rw [puncts_minus]
    exact ⟨List.cons_ne_nil _ _, by simp [isComma, literal]⟩
  · exact ⟨List.cons_ne_nil _ _, by simp [isComma, literal]⟩

/-- Items that each read as their element read as the list of elements. -/
theorem mapM_eq_some_of_forall₂ {β : Type} {read : Tokens → Option β} :
    ∀ {l : List β} {outs : List Tokens}, List.Forall₂ (fun b t => read t = some b) l outs →
      outs.mapM read = some l
  | _, _, .nil => rfl
  | _, _, .cons h hs => by simp [List.mapM_cons, h, mapM_eq_some_of_forall₂ hs]

theorem forall_mem_of_forall₂ {β : Type} {R : β → Tokens → Prop} {P : Tokens → Prop}
    (hP : ∀ b t, R b t → P t) :
    ∀ {l : List β} {outs : List Tokens}, List.Forall₂ R l outs → ∀ t ∈ outs, P t
  | _, _, .nil => fun _ ht => absurd ht List.not_mem_nil
  | _, _, .cons h hs => fun t ht => by
    rcases List.mem_cons.mp ht with rfl | ht
    · exact hP _ _ h
    · exact forall_mem_of_forall₂ hP hs t ht

theorem byteString_run (bytes : List Nat) (g : Generator) :
    (byteString bytes).run g = ([literal (Text.quoteBytes g.bytes bytes)], g) := rfl

/-- A byte string is one literal of the bytes, in either spelling. -/
theorem runs_byteString {bytes : List Nat} (hbytes : ∀ b ∈ bytes, b < 256) :
    Runs (byteString bytes) fun _ ts => ∃ text, ts = [literal text] ∧ classify text = .byteStr bytes :=
  ⟨Imports.preserves_byteString bytes, fun g _ _ =>
    ⟨_, by rw [byteString_run], LiteralText.classify_quoteBytes _ hbytes⟩⟩

/-- An array of pieces reads back element by element. -/
theorem runs_arrayOf {β : Type} {read : Env → Tokens → Option β} {piece : β → Gen Tokens}
    {xs : List β} (h : ∀ x ∈ xs, ReadsAs read (piece x) x) :
    Runs (arrayOf (xs.map piece)) fun env ts =>
      ∃ inner, ts = [group .bracket inner] ∧ (items inner).mapM (read env) = some xs := by
  unfold arrayOf
  rw [List.mapM_map, Function.id_comp]
  refine (runs_mapM (R := fun env x t => read env t = some x ∧ Item t) h).bind fun outs =>
    runs_pure fun env hall => ⟨_, rfl, ?_⟩
  rw [items_separated (forall_mem_of_forall₂ (fun _ _ h => h.2) hall)]
  exact mapM_eq_some_of_forall₂ (hall.imp fun _ _ h => h.1)

theorem attach_map_pieces (vs : List Value) :
    (vs.attach.map fun ⟨v, _⟩ => v.piece) = vs.map Value.piece := by
  rw [show (fun x : {v // v ∈ vs} => match x with | ⟨v, _⟩ => v.piece) =
    Value.piece ∘ Subtype.val from rfl, ← List.map_map, List.attach_map_subtype_val]

theorem attach_mapM_pieces (vs : List Value) :
    (vs.attach.mapM fun ⟨v, _⟩ => v.piece) = vs.mapM Value.piece := by
  rw [show (fun x : {v // v ∈ vs} => match x with | ⟨v, _⟩ => v.piece) =
    Value.piece ∘ Subtype.val from rfl, ← List.mapM_map, List.attach_map_subtype_val]

theorem exists_of_forall₂ {β γ : Type} {R : β → γ → Prop} :
    ∀ {l : List β} {l' : List γ}, List.Forall₂ R l l' → ∀ b ∈ l, ∃ c, R b c
  | _, _, .nil => fun _ hb => absurd hb List.not_mem_nil
  | _, _, .cons h hs => fun b hb => by
    rcases List.mem_cons.mp hb with rfl | hb
    · exact ⟨_, h⟩
    · exact exists_of_forall₂ hs b hb

/-- The pieces of values of some types, written in turn: each reads back as its value at every
type it has. -/
theorem runs_pieces {vs : List Value} {ss : List Shape}
    (ih : ∀ v ∈ vs, ∀ s, HasShape v s → ReadsAs (readValue · s) v.piece v)
    (hshape : List.Forall₂ HasShape vs ss) :
    Runs (vs.mapM Value.piece) fun env ts =>
      List.Forall₂ (fun v t => Item t ∧ ∀ s, HasShape v s → readValue env s t = some v) vs ts :=
  runs_mapM fun v hv => by
    obtain ⟨s, hs⟩ := exists_of_forall₂ hshape v hv
    exact ⟨(ih v hv s hs).preserves, fun g env hr =>
      ⟨((ih v hv s hs).holds g env hr).2, fun s' hs' => ((ih v hv s' hs').holds g env hr).1⟩⟩

/-- The parts of a tuple are read at their own types. -/
theorem readParts_of_forall₂ {env : Env} :
    ∀ {vs : List Value} {ss : List Shape} {parts : List Tokens}, List.Forall₂ HasShape vs ss →
      List.Forall₂ (fun v t => Item t ∧ ∀ s, HasShape v s → readValue env s t = some v) vs parts →
      readParts env ss parts = some vs
  | _, _, _, .nil, .nil => by simp [readParts]
  | _, _, _, .cons hs hss, .cons ht hts => by
    simp [readParts, ht.2 _ hs, readParts_of_forall₂ hss hts]

/-- **The code of a value reads back as the value**, at every type the value has. The induction
follows `Value.piece`, one case per constructor; collections use the induction hypothesis for their
elements. -/
theorem readsAs_piece (v : Value) : ∀ s, HasShape v s → ReadsAs (readValue · s) v.piece v := by
  induction v using Value.piece.induct
  all_goals intro sh hs; rw [Value.piece]
  case case1 =>
    cases hs
    exact runs_pure fun env =>
      ⟨by simp [readValue, group], List.cons_ne_nil _ _, by simp [isComma, group]⟩
  case case2 b =>
    cases hs
    refine runs_pure fun env => ⟨?_, List.cons_ne_nil _ _, by simp [isComma, ident]⟩
    cases b <;> simp [readValue, ident]
  case case3 i =>
    cases hs with
    | int => exact runs_pure fun env => ⟨by simp [readValue, readInt_intTokens], item_intTokens i⟩
    | byte h0 h256 =>
      exact runs_pure fun env => ⟨by simp [readValue, readInt_intTokens, h0, h256], item_intTokens i⟩
  case case4 c =>
    cases hs
    exact runs_pure fun env =>
      ⟨by simp [readValue, charLiteral, literal, LiteralText.classify_quoteChar],
        List.cons_ne_nil _ _, by simp [isComma, charLiteral, literal]⟩
  case case5 s =>
    cases hs
    exact runs_pure fun env =>
      ⟨by simp [readValue, stringLiteral, literal, LiteralText.classify_quoteStringSafe],
        List.cons_ne_nil _ _, by simp [isComma, stringLiteral, literal]⟩
  case case6 s =>
    cases hs
    refine (runs_usePath _).bind fun p => runs_pure fun env hpath => ?_
    obtain ⟨a, hp, ha⟩ := hpath
    subst hp
    exact ⟨by simp [readValue, ha, puncts_colons, ident, group, stringLiteral, literal,
        LiteralText.classify_quoteStringSafe],
      by simp, by simp [isComma, puncts_colons, ident, group]⟩
  case case7 =>
    cases hs
    refine (runs_usePath _).imp fun env ts hpath => ?_
    obtain ⟨a, hts, ha⟩ := hpath
    subst hts
    exact ⟨by simp [readValue, ident, ha], List.cons_ne_nil _ _, by simp [isComma, ident]⟩
  case case8 v ih =>
    cases hs with | present hv => ?_
    refine (runs_usePath _).bind fun p => (ih _ hv).bind fun inner =>
      runs_pure fun env hinner hpath => ?_
    obtain ⟨hread, -⟩ := hinner
    obtain ⟨a, hp, ha⟩ := hpath
    subst hp
    exact ⟨by simp [readValue, ha, ident, group, hread], by simp, by simp [isComma, ident, group]⟩
  case case9 bytes =>
    cases hs with | byteVec hbytes => ?_
    refine (runs_usePath _).bind fun p => (runs_byteString hbytes).bind fun lit =>
      runs_pure fun env hbyteLit hpath => ?_
    obtain ⟨text, hlit, htext⟩ := hbyteLit
    obtain ⟨a, hp, ha⟩ := hpath
    subst hp hlit
    exact ⟨by simp [readValue, ha, puncts_colons, ident, group, readBytes, literal, htext],
      by simp, by simp [isComma, puncts_colons, ident, group]⟩
  case case10 vs ih =>
    cases hs with | vec _ hvs => ?_
    rw [attach_map_pieces]
    refine (runs_usePath _).bind fun p => (runs_arrayOf fun v hv => ih v hv _ (hvs v hv)).bind
      fun arr => runs_pure fun env harray hpath => ?_
    obtain ⟨inner, harr, hitems⟩ := harray
    obtain ⟨a, hp, ha⟩ := hpath
    subst hp harr
    exact ⟨by simp [readValue, ha, puncts_bang, ident, group, hitems], by simp,
      by simp [isComma, puncts_bang, ident, group]⟩
  case case11 bytes =>
    cases hs with | byteSlice hbytes => ?_
    refine (runs_byteString hbytes).imp fun env ts hbyteLit => ?_
    obtain ⟨text, hts, htext⟩ := hbyteLit
    subst hts
    exact ⟨by simp [readValue, readBytes, literal, htext], List.cons_ne_nil _ _,
      by simp [isComma, literal]⟩
  case case12 vs ih =>
    cases hs with | slice _ hvs => ?_
    rw [attach_map_pieces]
    refine (runs_arrayOf fun v hv => ih v hv _ (hvs v hv)).bind fun arr =>
      runs_pure fun env harray => ?_
    obtain ⟨inner, harr, hitems⟩ := harray
    subst harr
    exact ⟨by simp [readValue, puncts_amp, group, hitems], by simp,
      by simp [isComma, puncts_amp, group]⟩
  case case13 vs ih =>
    cases hs with | array hvs => ?_
    rw [attach_map_pieces]
    refine (runs_arrayOf fun v hv => ih v hv _ (hvs v hv)).imp fun env ts harray => ?_
    obtain ⟨inner, hts, hitems⟩ := harray
    subst hts
    exact ⟨by simp [readValue, group, hitems], List.cons_ne_nil _ _, by simp [isComma, group]⟩
  case case14 v ih =>
    cases hs with | ref hv => ?_
    refine (ih _ hv).bind fun inner => runs_pure fun env hinner => ?_
    obtain ⟨hread, -, hitem⟩ := hinner
    exact ⟨by simp [readValue, puncts_amp, hread], by simp [puncts_amp],
      by simpa [isComma, puncts_amp] using hitem⟩
  case case15 vs ih =>
    cases hs with | tuple hss => ?_
    rw [attach_mapM_pieces]
    refine (runs_pieces ih hss).bind fun parts => runs_pure fun env hall => ?_
    have hsplit := splitOnP_trailing (forall_mem_of_forall₂ (fun _ _ h => h.1) hall)
    exact ⟨by simp [readValue, group, hsplit, readParts_of_forall₂ hss hall], List.cons_ne_nil _ _,
      by simp [isComma, group]⟩
  case case16 ts =>
    cases hs

end GatherMap.Proofs.CodeReading
