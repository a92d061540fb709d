import Sluice.Expr.Eval
import Sluice.Proofs.Grammar.Acceptance
import Sluice.Proofs.Json.Lexemes
import Sluice.Proofs.Lexing.Printing

/-!
# Expressions as texts

A text that is known token by token is read as the expression that its tokens derive, and behind `=`
it has the value of this expression.  What is known of the tokens of a text stays true where it
stands at the end of a longer one, so texts are put together from their parts.

* `Expr.Spells`: the text is an expression of a layer.
-/

namespace Sluice

/-! ## Tokens -/

namespace Token

/-- The tokens of a text do not depend on where it stands. -/
theorem tokensFrom_offset {offset : Nat} {cs : List Char} {ts : List Located}
    (h : tokensFrom offset cs = .ok ts) (offset' : Nat) :
    ∃ ts', tokensFrom offset' cs = .ok ts' ∧ ts'.map (·.token) = ts.map (·.token) := by
  fun_induction tokensFrom offset cs generalizing ts offset' with
  | case1 offset =>
    cases h
    exact ⟨[⟨.eof, offset'⟩], by rw [tokensFrom], rfl⟩
  | case2 offset c cs hblank ih =>
    obtain ⟨ts', hts', htokens⟩ := ih h (offset' + c.utf8Size)
    exact ⟨ts', by rw [tokensFrom, if_pos hblank, hts'], htokens⟩
  | case3 => cases h
  | case4 => cases h
  | case5 offset c cs hblank t rest hlex hlen ts hts ih =>
    cases h
    obtain ⟨ts', hts', htokens⟩ :=
      ih hts (offset' + (Text.byteLength (c :: cs) - Text.byteLength rest))
    refine ⟨⟨t, offset'⟩ :: ts', ?_, congrArg (t :: ·) htokens⟩
    rw [tokensFrom_of_lexeme hblank hlex, hts']
    rfl

/-- A text that is nothing but tokens is so at the end of every text. -/
theorem lexes_of_tokenize {source : String} {ts : List Located} {o : Nat}
    (h : tokenize source = .ok (ts ++ [⟨.eof, o⟩])) :
    Lexes (· = []) source.toList (ts.map (·.token)) := by
  intro offset rest hrest
  obtain ⟨all, hall, htokens⟩ := tokensFrom_offset h offset
  obtain ⟨us, o', rfl, -⟩ := tokensFrom_ends hall
  refine ⟨us, o', ?_, ?_⟩
  · rw [List.map_append, List.map_append] at htokens
    exact (List.append_inj' htokens rfl).1
  · rw [hrest, List.append_nil, hall, tokensFrom]
    rfl

theorem lexes_blank {Before : List Char → Prop} {c : Char} (h : isBlank c = true) :
    Lexes Before [c] [] := by
  intro offset rest _
  refine ⟨[], offset + c.utf8Size, rfl, ?_⟩
  rw [List.singleton_append, tokensFrom, if_pos h]
  cases tokensFrom (offset + c.utf8Size) rest <;> rfl

/-- A point is a token unless it starts a numeral. -/
theorem lexes_dot : Lexes (fun rest => ∀ c ∈ rest.head?, ¬ c.isDigit = true) ['.'] [.dot] := by
  refine lexes_of_lexeme (by decide) fun rest hrest => ?_
  have hnext : rest.head?.bind (double? '.') = none ∧ rest.head?.any Char.isDigit = false := by
    cases rest with
    | nil => exact ⟨rfl, rfl⟩
    | cons c rest => exact ⟨rfl, Bool.eq_false_iff.2 (hrest c rfl)⟩
  obtain ⟨hdouble, hdigit⟩ := hnext
  rw [List.nil_append, lexeme, hdouble, hdigit]
  exact if_neg fun h => Bool.false_ne_true h.2

theorem lexes_coalesce {Before : List Char → Prop} :
    Lexes Before [' ', '?', '?', ' '] [.coalesce] := by
  have hfirst : Lexes (fun _ => True) [' '] [] := lexes_blank rfl
  have hmark : Lexes (fun _ => True) ['?', '?'] [.coalesce] :=
    lexes_of_lexeme (by decide) fun rest _ => lexeme_double rfl
  have hlast : Lexes Before [' '] [] := lexes_blank rfl
  exact hfirst.append (hmark.append hlast fun _ _ => trivial) fun _ _ => trivial

end Token

/-! ## Trees -/

namespace Expr

open Token (Lexes tokenize tokenize_ends)

/-- The text is an expression of the layer, with the given tree. -/
def Spells (l : Layer) (source : String) (e : Expr) : Prop :=
  ∃ ts o, tokenize source = .ok (ts ++ [⟨.eof, o⟩]) ∧ Derives l (ts.map (·.token)) e

/-- A text whose tokens derive an expression is read as this expression. -/
theorem parse_of_lexes {Before : List Char → Prop} {cs : List Char} {us : List Token} {e : Expr}
    (hcs : Lexes Before cs us) (hend : Before []) (he : Derives .pipe us e) :
    parse (String.ofList cs) = .ok e := by
  obtain ⟨ts, o, hts, htokens⟩ := hcs.tokenize hend
  obtain ⟨us', o', heq, hus'⟩ := tokenize_ends htokens
  obtain ⟨rfl, -⟩ := List.append_inj' heq rfl
  rw [parse_eq_ok_iff]
  exact ⟨ts, o, htokens, hus', hts ▸ he⟩

theorem evaluate_of_parse {source : String} {e : Expr} (h : parse source = .ok e) (view : View) :
    evaluate view ("=" ++ source) = e.eval view none := by
  have hlist : ("=" ++ source).toList = '=' :: source.toList := by
    rw [String.toList_append]
    rfl
  rw [evaluate, hlist]
  simp only [String.ofList_toList, h]

/-- A text with `??` and an operand behind it. -/
theorem parse_coalesce {Between : List Char → Prop} {cs : List Char} {us : List Token}
    {left right : Expr} {source : String} (hcs : Lexes Between cs us)
    (hbetween : ∀ rest, Between (' ' :: rest)) (hleft : Derives .coalesce us left)
    (hright : Spells .or source right) :
    parse (String.ofList cs ++ " ?? " ++ source) = .ok (.binary .coalesce left right) := by
  obtain ⟨ts, o, htokens, hderives⟩ := hright
  have hmark : Lexes (fun _ => True) [' ', '?', '?', ' '] [.coalesce] := Token.lexes_coalesce
  have hoperand := hmark.append (Token.lexes_of_tokenize htokens) fun _ _ => trivial
  have hwhole := hcs.append hoperand fun rest _ => hbetween _
  have hbinary : Derives .coalesce (us ++ .coalesce :: ts.map (·.token))
      (.binary .coalesce left right) := .binary (List.mem_singleton_self _) hleft hderives
  have htext : String.ofList (cs ++ ([' ', '?', '?', ' '] ++ source.toList)) =
      String.ofList cs ++ " ?? " ++ source := by
    rw [String.ofList_append, String.ofList_append, String.ofList_toList, ← String.append_assoc]
  rw [← htext]
  exact parse_of_lexes hwhole rfl (hbinary.loosen (by decide))

end Expr

end Sluice
