import Sluice.Proofs.Grammar.Soundness
import Sluice.Proofs.Lexing

/-!
# The parser accepts the grammar

Soundness and completeness together: the parser gives a tree exactly if the tokens before the end
derive it as a pipe, and there is at most one such tree.
-/

namespace Sluice.Expr

/-! ## The end is in no derivation -/

theorem mem_separated {t : Token} {parts : List (List Token)} (h : t ∈ separated parts) :
    t = .comma ∨ ∃ part ∈ parts, t ∈ part := by
  induction parts with
  | nil => cases h
  | cons part rest ih =>
    cases rest with
    | nil =>
      rw [separated_singleton] at h
      exact .inr ⟨part, List.mem_cons_self, h⟩
    | cons second rest =>
      rw [separated_cons_cons] at h
      rcases List.mem_append.1 h with h | h
      · exact .inr ⟨part, List.mem_cons_self, h⟩
      · rcases List.mem_cons.1 h with h | h
        · exact .inl h
        · refine (ih h).imp_right ?_
          rintro ⟨p, hp, ht⟩
          exact ⟨p, List.mem_cons_of_mem _ hp, ht⟩

theorem eof_not_mem_separated {parts : List (List Token)} (h : ∀ part ∈ parts, Token.eof ∉ part) :
    Token.eof ∉ separated parts := by
  intro hmem
  rcases mem_separated hmem with h' | ⟨part, hpart, h'⟩
  · cases h'
  · exact h part hpart h'

theorem Derives.eof_not_mem {l : Layer} {us : List Token} {e : Expr} (h : Derives l us e) :
    Token.eof ∉ us := by
  induction h with
  | tighter _ ih => exact ih
  | pipe _ _ ihl ihr => simp [ihl, ihr]
  | ternary _ _ _ ihc ihy ihn => simp [ihc, ihy, ihn]
  -- the operator comes from the table of continuations, where `eof` has no place
  | @binary l t op us vs left right ht _ _ ihl ihr =>
    have hne : Token.eof ≠ t := by
      rintro rfl
      cases (continuation?_of_operator ht).1
    simp [ihl, ihr, hne]
  | not _ ih => simp [ih]
  | neg _ ih => simp [ih]
  | field name _ ih => simp [ih]
  | index _ _ ihb ihk => simp [ihb, ihk]
  | number n => simp
  | string s => simp
  | query path => simp
  | constant _ => simp
  | ident _ => simp
  | call _ _ ih =>
    have := eof_not_mem_separated (List.forall_mem_map.2 ih)
    simp [this]
  | parens _ ih => simp [ih]
  | list _ ih =>
    have := eof_not_mem_separated (List.forall_mem_map.2 ih)
    simp [this]
  | @map fields _ ih =>
    have hparts : ∀ part ∈ fields.map (·.text), Token.eof ∉ part := by
      refine List.forall_mem_map.2 fun f hf => ?_
      have hkey : Token.eof ≠ f.key := by rcases f.named with h | h <;> simp [h]
      simp [FieldText.text, hkey, ih f hf]
    simp [eof_not_mem_separated hparts]

/-! ## Whole lists of tokens -/

theorem Reads.unique {α : Type} {n : Nat} {r : Reading α n} {a b : α} {X Y : List Located}
    (h : Reads r a X) (h' : Reads r b Y) : a = b ∧ X = Y := by
  obtain ⟨_, rfl⟩ := h
  obtain ⟨_, h⟩ := h'
  cases h
  exact ⟨rfl, rfl⟩

theorem Derives.unique {us : List Token} {e e' : Expr} (h : Derives .pipe us e)
    (h' : Derives .pipe us e') : e = e' := by
  have hmap : (us.map fun t => (⟨t, 0⟩ : Located)).map (·.token) = us := by
    rw [List.map_map]
    exact List.map_id us
  have he := h.readAs.close (p := 0) (X := []) (Nat.zero_le _) hmap rfl (by simp [next])
  have he' := h'.readAs.close (p := 0) (X := []) (Nat.zero_le _) hmap rfl (by simp [next])
  exact (he.unique he').1

theorem mapError_eq_ok_iff {ε ε' α : Type} {f : ε → ε'} {x : Except ε α} {a : α} :
    x.mapError f = .ok a ↔ x = .ok a := by
  cases x with
  | error e => constructor <;> (intro h; cases h)
  | ok b => constructor <;> (intro h; cases h; rfl)

theorem ofTokens_eq_ok_iff_reads {ts : List Located} {e : Expr} :
    ofTokens ts = .ok e ↔ ∃ X, Reads (expression 0 ts) e X ∧ next X = .eof := by
  unfold ofTokens
  dsimp only
  rw [mapError_eq_ok_iff]
  cases h : expression 0 ts with
  | error refusal => simp [not_reads_error, bind, Except.bind]
  | ok tree =>
    by_cases hn : next tree.rest = .eof
    · simp only [reads_ok, bind, Except.bind, hn, Except.ok.injEq]
      constructor
      · rintro rfl
        exact ⟨tree.rest, ⟨rfl, rfl⟩, hn⟩
      · rintro ⟨X, ⟨he, -⟩, -⟩
        exact he
    · have hu : ∀ a : Expr, unexpected tree.rest ≠ .ok a := by
        intro a
        unfold unexpected
        split <;> simp
      simp only [reads_ok, bind, Except.bind]
      constructor
      · intro heq
        exact absurd heq (hu e)
      · rintro ⟨X, ⟨-, rfl⟩, hX⟩
        exact absurd hX hn

/-- Before the only end, the parser gives a tree exactly if the tokens derive it. -/
theorem ofTokens_eq_ok_iff {ts : List Located} {o : Nat} (hts : ∀ t ∈ ts, t.token ≠ .eof)
    {e : Expr} :
    ofTokens (ts ++ [⟨.eof, o⟩]) = .ok e ↔ Derives .pipe (ts.map (·.token)) e := by
  rw [ofTokens_eq_ok_iff_reads]
  constructor
  · rintro ⟨X, hX, hn⟩
    obtain ⟨us, heq, -, hd⟩ :=
      ((sound _).expression (Nat.zero_le 9) hX).derives (l := .pipe) (by decide)
    rcases List.append_eq_append_iff.1 heq with ⟨as, rfl, h⟩ | ⟨cs, rfl, rfl⟩
    · cases as with
      | nil =>
        rw [List.append_nil] at hd
        exact hd
      | cons a as =>
        -- the end would have been read
        obtain ⟨rfl, -⟩ := List.cons.inj h
        refine absurd ?_ hd.eof_not_mem
        simp
    · cases cs with
      | nil =>
        rw [List.append_nil]
        exact hd
      | cons c cs => exact absurd hn (hts c (by simp))
  · intro h
    refine ⟨[⟨.eof, o⟩], ?_, rfl⟩
    exact h.readAs.close (Nat.zero_le _) rfl rfl (by simp [next])

theorem parse_eq_ok_iff {source : String} {e : Expr} :
    parse source = .ok e ↔
      ∃ ts o, Token.tokenize source = .ok (ts ++ [⟨.eof, o⟩]) ∧ (∀ t ∈ ts, t.token ≠ .eof) ∧
        Derives .pipe (ts.map (·.token)) e := by
  unfold parse
  cases h : Token.tokenize source with
  | error flaw => simp [bind, Except.bind]
  | ok all =>
    obtain ⟨ts, o, rfl, hts⟩ := Token.tokenize_ends h
    have hbind : (do ofTokens (← (.ok (ts ++ [⟨.eof, o⟩]) : Except SyntaxError (List Located)))) =
        ofTokens (ts ++ [⟨.eof, o⟩]) := rfl
    rw [hbind, ofTokens_eq_ok_iff hts]
    constructor
    · intro hd
      exact ⟨ts, o, rfl, hts, hd⟩
    · rintro ⟨us, o', heq, -, hd⟩
      obtain ⟨rfl, -⟩ := List.append_inj' (Except.ok.inj heq) rfl
      exact hd

/-- Of the tokens before an end, the parser makes the tree that they derive as a pipe, and it
refuses those that derive none; there is at most one tree.  The tokens of a text are of this
kind. -/
theorem ofTokens_accepts_exactly_grammar :
    (∀ (ts : List Located) (o : Nat), (∀ t ∈ ts, t.token ≠ .eof) → ∀ e : Expr,
      ofTokens (ts ++ [⟨.eof, o⟩]) = .ok e ↔ Derives .pipe (ts.map (·.token)) e) ∧
    (∀ (us : List Token) (e e' : Expr), Derives .pipe us e → Derives .pipe us e' → e = e') ∧
    ∀ (source : String) (e : Expr), parse source = .ok e ↔
      ∃ ts o, Token.tokenize source = .ok (ts ++ [⟨.eof, o⟩]) ∧ (∀ t ∈ ts, t.token ≠ .eof) ∧
        Derives .pipe (ts.map (·.token)) e :=
  ⟨fun _ _ hts _ => ofTokens_eq_ok_iff hts, fun _ _ _ => Derives.unique, fun _ _ => parse_eq_ok_iff⟩

/-- In `in in in | -x.in`, only the second `in` is an operator. -/
theorem ofTokens_accepts_in_as_name_and_operator :
    let ts : List Located := [⟨.ident "in", 0⟩, ⟨.ident "in", 3⟩, ⟨.ident "in", 6⟩, ⟨.pipe, 9⟩,
      ⟨.minus, 11⟩, ⟨.ident "x", 12⟩, ⟨.dot, 13⟩, ⟨.ident "in", 14⟩]
    let e : Expr := .pipe (.binary .isIn (.ident "in") (.ident "in"))
      (.unary .neg (.field (.ident "x") "in"))
    (∀ t ∈ ts, t.token ≠ .eof) ∧ Derives .pipe (ts.map (·.token)) e ∧
    ofTokens (ts ++ [⟨.eof, 16⟩]) = .ok e ∧ ∀ e', Derives .pipe (ts.map (·.token)) e' → e = e' := by
  intro ts e
  have hin : Derives .primary [.ident "in"] (.ident "in") := .ident (by decide)
  have hx : Derives .primary [.ident "x"] (.ident "x") := .ident (by decide)
  have hleft : Derives .comparison ([.ident "in"] ++ .ident "in" :: [.ident "in"])
      (.binary .isIn (.ident "in") (.ident "in")) :=
    .binary (by decide) (hin.loosen (by decide)) (hin.loosen (by decide))
  have haccess : Derives .access ([.ident "x"] ++ [.dot, .ident "in"])
      (.field (.ident "x") "in") :=
    .field "in" (.tighter hx)
  have hright : Derives .unary (.minus :: [.ident "x", .dot, .ident "in"])
      (.unary .neg (.field (.ident "x") "in")) :=
    .neg (.tighter haccess)
  have hd : Derives .pipe ([.ident "in", .ident "in", .ident "in"] ++
      .pipe :: [.minus, .ident "x", .dot, .ident "in"]) e :=
    .pipe (hleft.loosen (by decide)) (hright.loosen (by decide))
  have hts : ∀ t ∈ ts, t.token ≠ .eof := by decide
  obtain ⟨haccept, hunique, -⟩ := ofTokens_accepts_exactly_grammar
  exact ⟨hts, hd, (haccept ts 16 hts e).2 hd, fun e' => hunique _ e e' hd⟩

end Sluice.Expr
