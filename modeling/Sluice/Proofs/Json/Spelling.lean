import Sluice.Proofs.Grammar.Acceptance
import Sluice.Proofs.Json.Lexemes
import Sluice.Proofs.Mappings

/-!
# JSON inside the expression language

The compact text of a value is an expression with this value, as long as its numbers are integers
of 63 bits and a sign.  `tokens` are the tokens of the text and `spelling` is the tree that they
derive; the negative integers are the only place where this tree computes.
-/

namespace Sluice.Json

mutual

/-- Whether every number inside a value is an integer of 63 bits and a sign. -/
def Integral : Json → Prop
  | .number (.int i _) => i.natAbs < 9223372036854775808
  | .number (.float ..) => False
  | .list items => IntegralItems items
  | .map fields => IntegralFields fields
  | _ => True

def IntegralItems : List Json → Prop
  | [] => True
  | v :: rest => Integral v ∧ IntegralItems rest

def IntegralFields : List (String × Json) → Prop
  | [] => True
  | (_, v) :: rest => Integral v ∧ IntegralFields rest

end

mutual

/-- The tokens of the compact text of a value. -/
def tokens : Json → List Token
  | .null => [.ident "null"]
  | .bool true => [.ident "true"]
  | .bool false => [.ident "false"]
  | .number (.int i _) =>
    if i < 0 then [.minus, .number (.ofNat i.natAbs)] else [.number (.ofNat i.natAbs)]
  | .number n => [.number n]
  | .string s => [.str s]
  | .list items => .leftBracket :: (Expr.separated (tokensOfItems items) ++ [.rightBracket])
  | .map fields => .leftBrace :: (Expr.separated (tokensOfFields fields) ++ [.rightBrace])

def tokensOfItems : List Json → List (List Token)
  | [] => []
  | v :: rest => tokens v :: tokensOfItems rest

def tokensOfFields : List (String × Json) → List (List Token)
  | [] => []
  | (key, v) :: rest => (.str key :: .colon :: tokens v) :: tokensOfFields rest

end

mutual

/-- The expression that spells a value out. -/
def spelling : Json → Expr
  | .number (.int i _) =>
    if i < 0 then .unary .neg (.literal (.number (.ofNat i.natAbs)))
    else .literal (.number (.ofNat i.natAbs))
  | .list items => .list (spellingOfItems items)
  | .map fields => .map (spellingOfFields fields)
  | v => .literal v

def spellingOfItems : List Json → List Expr
  | [] => []
  | v :: rest => spelling v :: spellingOfItems rest

def spellingOfFields : List (String × Json) → List (String × Expr)
  | [] => []
  | (key, v) :: rest => (key, spelling v) :: spellingOfFields rest

end

/-! ## The text gives the tokens -/

open Sluice.Token (Lexes Delimited marks lexes_mark lexes_quoted lexes_digits lexes_word)

theorem delimited_nil : Delimited [] := by
  intro c hc
  cases hc

theorem delimited_cons {c : Char} (rest : List Char) (h : c = ',' ∨ c = ']' ∨ c = '\x7d') :
    Delimited (c :: rest) := by
  intro d hd
  obtain rfl : c = d := Option.some.inj hd
  exact h

theorem lexes_printInt {i : Int} (h : i.natAbs < 9223372036854775808) (fits : Number.Fits i) :
    Lexes Delimited (Number.printInt i) (tokens (.number (.int i fits))) := by
  unfold Number.printInt tokens
  by_cases hneg : i < 0
  · rw [if_pos hneg, if_pos hneg]
    exact (lexes_digits h).mark (by decide)
  · rw [if_neg hneg, if_neg hneg]
    exact lexes_digits h

theorem lexes_between {cs : List Char} {us : List Token} {opening closing : Char} {t u : Token}
    (hopening : (opening, t) ∈ marks) (hclosing : (closing, u) ∈ marks)
    (hclose : closing = ',' ∨ closing = ']' ∨ closing = '\x7d') (h : Lexes Delimited cs us) :
    Lexes Delimited (opening :: cs ++ [closing]) (t :: (us ++ [u])) := by
  have hinner : Lexes Delimited (cs ++ [closing]) (us ++ [u]) :=
    h.append (lexes_mark hclosing) fun rest _ => delimited_cons rest hclose
  exact hinner.mark hopening

theorem lexes_printField {cs : List Char} {us : List Token} (key : String)
    (h : Lexes Delimited cs us) :
    Lexes Delimited (quoted key.toList ++ ':' :: cs) (.str key :: .colon :: us) := by
  have hkey : Lexes (fun _ => True) (quoted key.toList) [.str (String.ofList key.toList)] :=
    lexes_quoted key.toList
  rw [String.ofList_toList] at hkey
  exact hkey.append (h.mark (by decide)) fun _ _ => trivial

mutual

theorem lexes_print : ∀ v : Json, v.Integral → Lexes Delimited v.print v.tokens
  | .null, _ => lexes_word rfl rfl
  | .bool true, _ => lexes_word rfl rfl
  | .bool false, _ => lexes_word rfl rfl
  | .number (.int i fits), h => lexes_printInt h fits
  | .string s, _ => by
    have hs : Lexes Delimited (quoted s.toList) [.str (String.ofList s.toList)] :=
      lexes_quoted s.toList
    rw [String.ofList_toList] at hs
    exact hs
  | .list items, h => by
    rw [print, tokens]
    exact lexes_between (by decide) (by decide) (by decide) (lexes_printItems items h)
  | .map fields, h => by
    rw [print, tokens]
    exact lexes_between (by decide) (by decide) (by decide) (lexes_printFields fields h)

theorem lexes_printItems : ∀ items : List Json, IntegralItems items →
    Lexes Delimited (printItems items) (Expr.separated (tokensOfItems items))
  | [], _ => Token.Lexes.nil
  | [v], h => by
    rw [printItems, tokensOfItems, tokensOfItems, Expr.separated_singleton]
    exact lexes_print v h.1
  | v :: w :: rest, h => by
    have hrest := lexes_printItems (w :: rest) h.2
    rw [tokensOfItems] at hrest
    rw [printItems, tokensOfItems, tokensOfItems, Expr.separated_cons_cons]
    exact (lexes_print v h.1).append (hrest.mark (by decide)) fun _ _ => delimited_cons _ (.inl rfl)

theorem lexes_printFields : ∀ fields : List (String × Json), IntegralFields fields →
    Lexes Delimited (printFields fields) (Expr.separated (tokensOfFields fields))
  | [], _ => Token.Lexes.nil
  | [(key, v)], h => by
    rw [printFields, tokensOfFields, tokensOfFields, Expr.separated_singleton]
    exact lexes_printField key (lexes_print v h.1)
  | (key, v) :: w :: rest, h => by
    have hrest := lexes_printFields (w :: rest) h.2
    rw [tokensOfFields] at hrest
    rw [printFields, tokensOfFields, tokensOfFields, Expr.separated_cons_cons]
    exact (lexes_printField key (lexes_print v h.1)).append (hrest.mark (by decide))
      fun _ _ => delimited_cons _ (.inl rfl)

end

/-! ## The tokens derive the spelling -/

open Sluice.Expr (Derives FieldText)

/-- A field with the tokens and the spelling of its value. -/
def fieldText (key : String) (v : Json) : FieldText :=
  ⟨.str key, key, v.tokens, v.spelling, .inl rfl⟩

theorem tokensOfItems_eq (items : List Json) : tokensOfItems items = items.map tokens := by
  induction items with
  | nil => rfl
  | cons v rest ih => rw [tokensOfItems, ih, List.map_cons]

theorem spellingOfItems_eq (items : List Json) : spellingOfItems items = items.map spelling := by
  induction items with
  | nil => rfl
  | cons v rest ih => rw [spellingOfItems, ih, List.map_cons]

theorem tokensOfFields_eq (fields : List (String × Json)) :
    tokensOfFields fields = (fields.map fun f => fieldText f.1 f.2).map (·.text) := by
  induction fields with
  | nil => rfl
  | cons f rest ih => rw [tokensOfFields, ih]; rfl

theorem spellingOfFields_eq (fields : List (String × Json)) :
    spellingOfFields fields =
      (fields.map fun f => fieldText f.1 f.2).map fun f => (f.name, f.value) := by
  induction fields with
  | nil => rfl
  | cons f rest ih => rw [spellingOfFields, ih]; rfl

mutual

theorem derives_spelling : ∀ v : Json, Derives .unary v.tokens v.spelling
  | .null => (Derives.constant (by simp [Expr.constants])).loosen (by decide)
  | .bool true => (Derives.constant (by simp [Expr.constants])).loosen (by decide)
  | .bool false => (Derives.constant (by simp [Expr.constants])).loosen (by decide)
  | .number (.float x finite) => (Derives.number (.float x finite)).loosen (by decide)
  | .number (.int i _) => by
    have hnat : Derives .unary [.number (.ofNat i.natAbs)] (.literal (.number (.ofNat i.natAbs))) :=
      (Derives.number _).loosen (by decide)
    rw [tokens, spelling]
    split
    · exact .neg hnat
    · exact hnat
  | .string s => (Derives.string s).loosen (by decide)
  | .list items => by
    have h := @Derives.list (items.map fun v => (v.tokens, v.spelling))
      (List.forall_mem_map.2 fun v hv => (derives_spellingOfItems items v hv).loosen (by decide))
    rw [List.map_map, List.map_map] at h
    rw [tokens, spelling, tokensOfItems_eq, spellingOfItems_eq]
    exact h.loosen (by decide)
  | .map fields => by
    have h := @Derives.map (fields.map fun f => fieldText f.1 f.2)
      (List.forall_mem_map.2 fun f hf => (derives_spellingOfFields fields f hf).loosen (by decide))
    rw [tokens, spelling, tokensOfFields_eq, spellingOfFields_eq]
    exact h.loosen (by decide)

theorem derives_spellingOfItems : ∀ items : List Json, ∀ v ∈ items,
    Derives .unary v.tokens v.spelling
  | [], _, h => absurd h List.not_mem_nil
  | v :: rest, w, h => by
    have hrest := derives_spellingOfItems rest w
    have hv := derives_spelling v
    rcases List.mem_cons.1 h with rfl | h
    · exact hv
    · exact hrest h

theorem derives_spellingOfFields : ∀ fields : List (String × Json), ∀ f ∈ fields,
    Derives .unary f.2.tokens f.2.spelling
  | [], _, h => absurd h List.not_mem_nil
  | (key, v) :: rest, f, h => by
    have hrest := derives_spellingOfFields rest f
    have hv := derives_spelling v
    rcases List.mem_cons.1 h with rfl | h
    · exact hv
    · exact hrest h

end

end Sluice.Json
