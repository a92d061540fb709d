import Sluice.Proofs.Lexing.Agreement

/-!
# Tokens tile their source

The texts of the tokens of a source stand one behind the other and between characters, with only
blanks around them; an error shows between characters as well, in front of at least one.  The scan
by positions, which would get stuck if it cut a character or left a bracket once too often, reads
every source.
-/

namespace Sluice.Token

open Text

/-- The tokens of a text that stands `offset` bytes into a source.  The text is a row of token
texts, each of them behind blanks, and ends with blanks.  The text of a token is not empty, gives
this token and nothing else when it is read alone, and starts at the offset of the token. -/
inductive Tiles : Nat → List Char → List Located → Prop where
  | finish {offset : Nat} {blanks : List Char} (hblanks : ∀ c ∈ blanks, isBlank c = true) :
    Tiles offset blanks [⟨.eof, offset + byteLength blanks⟩]
  | token {offset : Nat} {blanks text rest : List Char} {t : Token} {ts : List Located}
    (hblanks : ∀ c ∈ blanks, isBlank c = true) (htext : text ≠ [])
    (hread : tokenize (String.ofList text) = .ok [⟨t, 0⟩, ⟨.eof, byteLength text⟩])
    (hrest : Tiles (offset + byteLength (blanks ++ text)) rest ts) :
    Tiles offset (blanks ++ text ++ rest) (⟨t, offset + byteLength blanks⟩ :: ts)

variable {offset : Nat} {cs : List Char} {ts : List Located}

theorem Tiles.blank {c : Char} (hc : isBlank c = true) (h : Tiles (offset + c.utf8Size) cs ts) :
    Tiles offset (c :: cs) ts := by
  have hcons {blanks : List Char} (hblanks : ∀ c ∈ blanks, isBlank c = true) :
      ∀ d ∈ c :: blanks, isBlank d = true := List.forall_mem_cons.2 ⟨hc, hblanks⟩
  cases h with
  | finish hblanks =>
    rw [Nat.add_assoc, ← byteLength_cons]
    exact .finish (hcons hblanks)
  | @token _ blanks text rest t ts hblanks htext hread hrest =>
    rw [Nat.add_assoc, ← byteLength_cons]
    rw [Nat.add_assoc, ← byteLength_cons] at hrest
    exact .token (hcons hblanks) htext hread hrest

/-- What the lexer reads tiles the text. -/
theorem tiles_of_tokensFrom (h : tokensFrom offset cs = .ok ts) : Tiles offset cs ts := by
  fun_induction tokensFrom offset cs generalizing ts with
  | case1 offset =>
    cases h
    exact .finish (by simp)
  | case2 offset c cs hblank ih => exact .blank hblank (ih h)
  | case3 => cases h
  | case4 => cases h
  | case5 offset c cs hblank t rest hlex hlen ts' hts ih =>
    cases h
    obtain ⟨text, rfl, halone⟩ := lexeme_split hlex
    have hread : tokenize (String.ofList (c :: text)) =
        .ok [⟨t, 0⟩, ⟨.eof, byteLength (c :: text)⟩] := by
      have happend := tokensFrom_append hblank ((List.append_nil text).symm ▸ halone) 0
      rw [List.append_nil] at happend
      rw [tokenize, String.toList_ofList, happend, tokensFrom, Nat.zero_add]
      rfl
    rw [← List.cons_append, byteLength_append_sub] at ih hts
    have htile : Tiles offset ([] ++ (c :: text) ++ rest) (⟨t, offset + byteLength []⟩ :: ts') :=
      .token (by simp) (List.cons_ne_nil c text) hread (ih hts)
    exact htile

theorem Tiles.le_offset (h : Tiles offset cs ts) : ∀ t ∈ ts, offset ≤ t.offset := by
  induction h with
  | finish hblanks => simp
  | token hblanks htext hread hrest ih =>
    rw [byteLength_append] at ih
    refine List.forall_mem_cons.2 ⟨Nat.le_add_right _ _, fun t ht => ?_⟩
    have := ih t ht
    omega

theorem Tiles.pairwise_offset (h : Tiles offset cs ts) :
    (ts.map (·.offset)).Pairwise (· < ·) := by
  induction h with
  | finish hblanks => exact List.pairwise_singleton _ _
  | @token offset blanks text rest t ts hblanks htext hread hrest ih =>
    have hlt : offset + byteLength blanks < offset + byteLength (blanks ++ text) := by
      have := byteLength_pos htext
      rw [byteLength_append]
      omega
    refine List.pairwise_cons.2 ⟨fun o ho => ?_, ih⟩
    obtain ⟨u, hu, rfl⟩ := List.mem_map.1 ho
    exact Nat.lt_of_lt_of_le hlt (hrest.le_offset u hu)

/-- The last token is the end of the text. -/
theorem Tiles.getLast? (h : Tiles offset cs ts) :
    ts.getLast? = some ⟨.eof, offset + byteLength cs⟩ := by
  induction h with
  | finish hblanks => rfl
  | @token offset blanks text rest t ts hblanks htext hread hrest ih =>
    have hne : ts ≠ [] := by
      rintro rfl
      cases ih
    rw [List.getLast?_cons_of_ne_nil hne, ih, byteLength_append _ rest, Nat.add_assoc]

/-- An error shows in front of a character. -/
theorem at_of_tokensFrom_error {source : List Char} {e : SyntaxError} (h : At source offset cs)
    (herror : tokensFrom offset cs = .error e) :
    ∃ rest, At source e.offset rest ∧ rest ≠ [] := by
  fun_induction tokensFrom offset cs with
  | case1 => cases herror
  | case2 offset c cs hblank ih => exact ih h.tail herror
  | case3 offset c cs hblank flaw hlex =>
    cases herror
    exact ⟨c :: cs, h, List.cons_ne_nil c cs⟩
  | case4 offset c cs hblank t rest hlex hlen e' he ih =>
    cases herror
    obtain ⟨text, rfl, -⟩ := lexeme_split hlex
    rw [← List.cons_append] at h
    rw [← List.cons_append, byteLength_append_sub] at ih he
    exact ih h.append he
  | case5 => cases herror

/-- Every text is read without getting stuck.  The tokens tile it, their offsets increase, and only
the last of them is an end, which stands behind the last byte; or the error shows in front of one
of the characters. -/
theorem tokenize_tiles (source : String) :
    Scan.tokenize source = some (tokenize source) ∧
      match tokenize source with
      | .ok ts =>
        Tiles 0 source.toList ts ∧ (ts.map (·.offset)).Pairwise (· < ·) ∧
          ∃ us, ts = us ++ [⟨.eof, source.utf8ByteSize⟩] ∧ ∀ t ∈ us, t.token ≠ .eof
      | .error e => ∃ rest, At source.toList e.offset rest ∧ rest ≠ [] := by
  refine ⟨Scan.tokenize_eq source, ?_⟩
  cases h : tokenize source with
  | error e => exact at_of_tokensFrom_error (.start _) h
  | ok ts =>
    have htiles := tiles_of_tokensFrom h
    obtain ⟨us, o, rfl, hus⟩ := tokenize_ends h
    have hlast := htiles.getLast?
    rw [List.getLast?_concat, Nat.zero_add, byteLength_toList] at hlast
    cases hlast
    exact ⟨htiles, htiles.pairwise_offset, us, rfl, hus⟩

end Sluice.Token
