import Sluice.Proofs.Grammar.Completeness

/-!
# The grammar derives what the parser reads

By strong induction on the number of tokens, function by function.  The loop of `climb` has an
invariant: the tokens so far derive the tree so far in a layer at least as tight as asked, and what
comes next is not too strong to take all of it as its left operand.
-/

namespace Sluice.Expr

/-- From `ts` down to `X`, behind the tokens `past`, an expression has been completed that is as
tight as asked and reaches as far as it can. -/
def Covers (past : List Token) (p : Nat) (ts X : List Located) (e : Expr) : Prop :=
  ∃ us n, ts = us ++ X ∧ Stops p X ∧ p ≤ Layer.power n ∧ Derives n (past ++ us.map (·.token)) e

/-- The items of a list or of a call, with the token that closes it. -/
def CoversItems (close : Token) (ts X : List Located) (es : List Expr) : Prop :=
  ∃ (us : List Located) (o : Nat) (parts : List (List Token × Expr)), ts = us ++ ⟨close, o⟩ :: X ∧
    us.map (·.token) = separated (parts.map (·.1)) ∧ es = parts.map (·.2) ∧ parts ≠ [] ∧
    ∀ q ∈ parts, Derives .pipe q.1 q.2

/-- The fields of a map, with its closing brace. -/
def CoversFields (ts X : List Located) (fs : List (String × Expr)) : Prop :=
  ∃ (us : List Located) (o : Nat) (fields : List FieldText), ts = us ++ ⟨.rightBrace, o⟩ :: X ∧
    us.map (·.token) = separated (fields.map (·.text)) ∧
    fs = fields.map (fun f => (f.name, f.value)) ∧ fields ≠ [] ∧
    ∀ f ∈ fields, Derives .pipe f.tokens f.value

/-- What the parser reads from these tokens is derived by the grammar. -/
structure Sound (ts : List Located) : Prop where
  expression : ∀ {p : Nat} {e : Expr} {X : List Located}, p ≤ 9 → Reads (expression p ts) e X →
    Covers [] p ts X e
  climb : ∀ {p : Nat} {a e : Expr} {X : List Located} {m : Layer} {past : List Token},
    Reads (climb p a ts) e X → Derives m past a → p ≤ m.power → Stops (m.follow + 1) ts →
    Covers past p ts X e
  items : ∀ {close : Token} {es : List Expr} {X : List Located}, Reads (items close ts) es X →
    CoversItems close ts X es
  entries : ∀ {fs : List (String × Expr)} {X : List Located}, Reads (entries ts) fs X →
    CoversFields ts X fs

/-! ## Layers and what follows them -/

theorem Layer.follow_le_power (l : Layer) : l.follow ≤ l.power := by
  cases l <;> decide

theorem Layer.two_le_power {l : Layer} (h : 1 ≤ l.follow) : 2 ≤ l.power := by
  cases l <;> first | decide | cases h

theorem Layer.three_le_power {l : Layer} (h : 2 ≤ l.follow) : 3 ≤ l.power := by
  cases l <;> first | decide | (revert h; decide)

/-- No operator is stronger than an access. -/
theorem stops_eleven (ts : List Located) : Stops 11 ts := by
  intro k strength hk
  have h := spells_of_continuation? hk
  cases k with
  | binary op right =>
    obtain ⟨-, -, rfl⟩ := h
    cases op <;> decide
  | _ =>
    obtain ⟨-, rfl⟩ := h
    decide

theorem Covers.refl {past : List Token} {p : Nat} {X : List Located} {e : Expr} {m : Layer}
    (h : Derives m past e) (hp : p ≤ m.power) (hX : Stops p X) : Covers past p X X e :=
  ⟨[], m, rfl, hX, hp, by simpa using h⟩

/-- Tokens that have been read belong to what came before. -/
theorem Covers.shift {past : List Token} {p : Nat} (vs : List Located) {ts X : List Located}
    {e : Expr} (h : Covers (past ++ vs.map (·.token)) p ts X e) : Covers past p (vs ++ ts) X e := by
  obtain ⟨us, n, rfl, hX, hp, hd⟩ := h
  refine ⟨vs ++ us, n, by rw [List.append_assoc], hX, hp, ?_⟩
  rwa [List.map_append, ← List.append_assoc]

/-- An expression that has been read is one of every layer that is as loose as asked. -/
theorem Covers.derives {p : Nat} {ts X : List Located} {e : Expr} (h : Covers [] p ts X e)
    {l : Layer} (hl : l.power ≤ max p 1) :
    ∃ us, ts = us ++ X ∧ Stops p X ∧ Derives l (us.map (·.token)) e := by
  obtain ⟨us, n, rfl, hX, hp, hd⟩ := h
  have h1 : 1 ≤ n.power := by cases n <;> decide
  exact ⟨us, rfl, hX, Derives.loosen hd (by omega)⟩

/-! ## Operands -/

section Operands

variable {ts : List Located}

/-- An operand is a unary or primary expression. -/
def CoversOperand (ts X : List Located) (e : Expr) : Prop :=
  ∃ us m, ts = us ++ X ∧ 9 ≤ Layer.power m ∧ Stops (m.follow + 1) X ∧
    Derives m (us.map (·.token)) e

theorem coversOperand_primary (us : List Located) {X : List Located} {e : Expr}
    (h : Derives .primary (us.map (·.token)) e) : CoversOperand (us ++ X) X e :=
  ⟨us, .primary, rfl, by decide, stops_eleven X, h⟩

theorem coversOperand_unary {t : Located} {op : UnaryOp} {rest X : List Located} {e : Expr}
    (h : Sound rest) (ht : (t.token = .not ∧ op = .not) ∨ (t.token = .minus ∧ op = .neg))
    (he : Reads (expression unaryPower rest) e X) : CoversOperand (t :: rest) X (.unary op e) := by
  obtain ⟨us, rfl, hX, hd⟩ := (h.expression (Nat.le_refl 9) he).derives (l := .unary) (by decide)
  refine ⟨t :: us, .unary, rfl, by decide, hX, ?_⟩
  rcases ht with ⟨ht, rfl⟩ | ⟨ht, rfl⟩
  · rw [List.map_cons, ht]
    exact .not hd
  · rw [List.map_cons, ht]
    exact .neg hd

/-- The arguments of a call or the items of a list: none, or some. -/
theorem exists_parts_of_arguments {close : Token} {X : List Located} {es : List Expr}
    (h : Sound ts) (he : Reads (arguments close ts) es X) :
    ∃ (us : List Located) (o : Nat) (parts : List (List Token × Expr)), ts = us ++ ⟨close, o⟩ :: X ∧
      us.map (·.token) = separated (parts.map (·.1)) ∧ es = parts.map (·.2) ∧
      ∀ q ∈ parts, Derives .pipe q.1 q.2 := by
  by_cases hc : ∃ o Y, ts = ⟨close, o⟩ :: Y
  · obtain ⟨o, Y, rfl⟩ := hc
    obtain ⟨rfl, rfl⟩ := reads_arguments_close.1 he
    exact ⟨[], o, [], rfl, rfl, rfl, by simp⟩
  · have hi : Reads (items close ts) es X := by
      refine (reads_arguments_items ?_).1 he
      rintro ⟨token, o⟩ ht rfl
      obtain ⟨Y, hY⟩ := List.head?_eq_some_iff.1 ht
      exact hc ⟨o, Y, hY⟩
    obtain ⟨us, o, parts, hts, hus, hes, -, hd⟩ := h.items hi
    exact ⟨us, o, parts, hts, hus, hes, hd⟩

theorem coversOperand_call {name : String} {o o' : Nat} {rest X : List Located} {e : Expr}
    (hrest : Sound rest) (hc : ¬ isConstant name = true)
    (he : Reads (operand (⟨.ident name, o⟩ :: ⟨.leftParen, o'⟩ :: rest)) e X) :
    CoversOperand (⟨.ident name, o⟩ :: ⟨.leftParen, o'⟩ :: rest) X e := by
  obtain ⟨args, hargs, rfl⟩ := (reads_operand_call hc).1 he
  obtain ⟨us, o'', parts, rfl, hus, rfl, hd⟩ := exists_parts_of_arguments hrest hargs
  have h : Derives .primary
      ((⟨.ident name, o⟩ :: ⟨.leftParen, o'⟩ :: (us ++ [⟨.rightParen, o''⟩])).map (·.token))
      (.call name (parts.map (·.2))) := by
    rw [List.map_cons, List.map_cons, List.map_append, hus]
    exact .call (fun hmem => hc (isConstant_iff.2 hmem)) hd
  have hcover := coversOperand_primary _ (X := X) h
  rwa [List.cons_append, List.cons_append, List.append_assoc] at hcover

theorem coversOperand_parens {o : Nat} {rest X : List Located} {e : Expr} (hrest : Sound rest)
    (he : Reads (operand (⟨.leftParen, o⟩ :: rest)) e X) :
    CoversOperand (⟨.leftParen, o⟩ :: rest) X e := by
  obtain ⟨a, Y, ha, ⟨o', rfl⟩, rfl⟩ := reads_operand_leftParen.1 he
  obtain ⟨us, rfl, -, hd⟩ := (hrest.expression (Nat.zero_le 9) ha).derives (l := .pipe) (by decide)
  have h : Derives .primary ((⟨.leftParen, o⟩ :: (us ++ [⟨.rightParen, o'⟩])).map (·.token)) a := by
    rw [List.map_cons, List.map_append]
    exact .parens hd
  have hcover := coversOperand_primary _ (X := X) h
  rwa [List.cons_append, List.append_assoc] at hcover

theorem coversOperand_list {o : Nat} {rest X : List Located} {e : Expr} (hrest : Sound rest)
    (he : Reads (operand (⟨.leftBracket, o⟩ :: rest)) e X) :
    CoversOperand (⟨.leftBracket, o⟩ :: rest) X e := by
  obtain ⟨items, hitems, rfl⟩ := reads_operand_leftBracket.1 he
  obtain ⟨us, o', parts, rfl, hus, rfl, hd⟩ := exists_parts_of_arguments hrest hitems
  have h : Derives .primary ((⟨.leftBracket, o⟩ :: (us ++ [⟨.rightBracket, o'⟩])).map (·.token))
      (.list (parts.map (·.2))) := by
    rw [List.map_cons, List.map_append, hus]
    exact .list hd
  have hcover := coversOperand_primary _ (X := X) h
  rwa [List.cons_append, List.append_assoc] at hcover

theorem coversOperand_map {o : Nat} {rest X : List Located} {e : Expr} (hrest : Sound rest)
    (he : Reads (operand (⟨.leftBrace, o⟩ :: rest)) e X) :
    CoversOperand (⟨.leftBrace, o⟩ :: rest) X e := by
  by_cases hn : next rest = .rightBrace
  · obtain ⟨o', Y, rfl⟩ := exists_cons_of_next hn (by decide)
    obtain ⟨rfl, rfl⟩ := reads_operand_braces.1 he
    have hnone : ∀ f ∈ ([] : List FieldText), Derives .pipe f.tokens f.value := by simp
    have h : Derives .primary
        ([⟨.leftBrace, o⟩, ⟨.rightBrace, o'⟩].map Located.token) (.map []) := .map hnone
    exact coversOperand_primary [_, _] h
  · obtain ⟨fs, hfs, rfl⟩ := (reads_operand_leftBrace hn).1 he
    obtain ⟨us, o', fields, rfl, hus, rfl, -, hd⟩ := hrest.entries hfs
    have h : Derives .primary ((⟨.leftBrace, o⟩ :: (us ++ [⟨.rightBrace, o'⟩])).map (·.token))
        (.map (fields.map fun f => (f.name, f.value))) := by
      rw [List.map_cons, List.map_append, hus]
      exact .map hd
    have hcover := coversOperand_primary _ (X := X) h
    rwa [List.cons_append, List.append_assoc] at hcover

theorem coversOperand_of_reads (h : ∀ ts' : List Located, ts'.length < ts.length → Sound ts')
    {X : List Located} {e : Expr} (he : Reads (operand ts) e X) : CoversOperand ts X e := by
  cases ts with
  | nil => exact absurd he (not_reads_operand rfl)
  | cons t rest =>
    obtain ⟨token, o⟩ := t
    have hrest : Sound rest := h rest (Nat.lt_succ_self _)
    cases token with
    | number n =>
      obtain ⟨rfl, rfl⟩ := reads_operand_number.1 he
      exact coversOperand_primary [_] (.number n)
    | str s =>
      obtain ⟨rfl, rfl⟩ := reads_operand_str.1 he
      exact coversOperand_primary [_] (.string s)
    | query path =>
      obtain ⟨rfl, rfl⟩ := reads_operand_query.1 he
      exact coversOperand_primary [_] (.query path)
    | ident name =>
      by_cases hc : isConstant name = true
      · obtain ⟨rfl, rfl⟩ := (reads_operand_constant hc).1 he
        obtain ⟨⟨_, v⟩, hv, rfl⟩ := List.mem_map.1 (isConstant_iff.1 hc)
        rw [named_of_mem hv]
        exact coversOperand_primary [_] (.constant hv)
      · by_cases hn : next rest = .leftParen
        · obtain ⟨o', Y, rfl⟩ := exists_cons_of_next hn (by decide)
          have hY : Sound Y := h Y (Nat.lt_succ_of_lt (Nat.lt_succ_self _))
          exact coversOperand_call hY hc he
        · obtain ⟨rfl, rfl⟩ := (reads_operand_ident hc hn).1 he
          refine coversOperand_primary [_] (.ident ?_)
          exact fun hmem => hc (isConstant_iff.2 hmem)
    | not =>
      obtain ⟨a, ha, rfl⟩ := reads_operand_not.1 he
      exact coversOperand_unary hrest (.inl ⟨rfl, rfl⟩) ha
    | minus =>
      obtain ⟨a, ha, rfl⟩ := reads_operand_minus.1 he
      exact coversOperand_unary hrest (.inr ⟨rfl, rfl⟩) ha
    | leftParen => exact coversOperand_parens hrest he
    | leftBracket => exact coversOperand_list hrest he
    | leftBrace => exact coversOperand_map hrest he
    | _ => exact absurd he (not_reads_operand rfl)

end Operands

/-! ## Climbing -/

section Climbing

variable {a e : Expr} {m : Layer} {past : List Token} {rest X : List Located}

/-- All shorter lists of tokens are sound. -/
def SoundBelow (n : Nat) : Prop := ∀ ts : List Located, ts.length < n → Sound ts

/-- One part behind an operand: the tokens so far with those of the part derive the new tree in the
layer of the token that goes on. -/
theorem exists_derives_of_goOn (h : SoundBelow (rest.length + 1)) (ha : Derives m past a)
    {t : Located} {k : Continuation} {strength : Nat}
    (hk : continuation? t.token = some (k, strength)) (hm : strength ≤ m.follow)
    (he : goOn k a rest = .ok (e, X)) :
    ∃ us n, rest = us ++ X ∧ Layer.power n = strength ∧ Stops (n.follow + 1) X ∧
      Derives n (past ++ (t :: us).map (·.token)) e := by
  obtain ⟨token, o⟩ := t
  have hrest := h rest (Nat.lt_succ_self _)
  have hpower : strength ≤ m.power := Nat.le_trans hm m.follow_le_power
  have hspell : k.Spells token strength := spells_of_continuation? hk
  -- the parts behind `a` are shorter, so `h` derives them; `a` is loosened to the layer it needs
  cases k with
  | field =>
    obtain ⟨rfl, rfl⟩ := hspell
    obtain ⟨name, Y, hname, heq⟩ := andThen_eq_ok_iff.1 he
    obtain ⟨o', rfl⟩ := memberName_eq_ok_iff.1 hname
    cases heq
    exact ⟨[⟨.ident name, o'⟩], .access, rfl, rfl, stops_eleven X, .field name (ha.loosen hpower)⟩
  | index =>
    obtain ⟨rfl, rfl⟩ := hspell
    obtain ⟨key, Y, hkey, hY⟩ := andThen_eq_ok_iff.1 he
    obtain ⟨_, Z, hclose, heq⟩ := andThen_eq_ok_iff.1 hY
    obtain ⟨o', rfl⟩ := reads_expect.1 (outcome_eq_ok_iff.1 hclose)
    cases heq
    obtain ⟨us, rfl, -, hus⟩ :=
      (hrest.expression (Nat.zero_le 9) (outcome_eq_ok_iff.1 hkey)).derives (l := .pipe) (by decide)
    refine ⟨us ++ [⟨.rightBracket, o'⟩], .access, by simp, rfl, stops_eleven X, ?_⟩
    rw [List.map_cons, List.map_append]
    exact .index (ha.loosen hpower) hus
  | pipe =>
    obtain ⟨rfl, rfl⟩ := hspell
    obtain ⟨right, Y, hright, heq⟩ := andThen_eq_ok_iff.1 he
    cases heq
    obtain ⟨us, rfl, hstops, hus⟩ :=
      (hrest.expression (by decide) (outcome_eq_ok_iff.1 hright)).derives (l := .pipe) (by decide)
    exact ⟨us, .pipe, rfl, rfl, hstops, .pipe (ha.loosen (Layer.two_le_power hm)) hus⟩
  | ternary =>
    obtain ⟨rfl, rfl⟩ := hspell
    obtain ⟨yes, Y, hyes, hY⟩ := andThen_eq_ok_iff.1 he
    obtain ⟨_, Z, hcolon, hZ⟩ := andThen_eq_ok_iff.1 hY
    obtain ⟨no, W, hno, heq⟩ := andThen_eq_ok_iff.1 hZ
    obtain ⟨o', rfl⟩ := reads_expect.1 (outcome_eq_ok_iff.1 hcolon)
    cases heq
    obtain ⟨us, rfl, -, hus⟩ :=
      (hrest.expression (Nat.zero_le 9) (outcome_eq_ok_iff.1 hyes)).derives (l := .pipe) (by decide)
    have hlt : Z.length < (us ++ ⟨.colon, o'⟩ :: Z).length + 1 := by
      rw [List.length_append, List.length_cons]
      omega
    -- the last branch may be a choice itself, and stops before what no choice takes
    have hno := (h Z hlt).expression (by decide) (outcome_eq_ok_iff.1 hno)
    obtain ⟨vs, rfl, hstops, hvs⟩ := hno.derives (l := .ternary) (by decide)
    refine ⟨us ++ ⟨.colon, o'⟩ :: vs, .ternary, by simp, rfl, hstops, ?_⟩
    rw [List.map_cons, List.map_append, List.map_cons]
    exact .ternary (ha.loosen (Layer.three_le_power hm)) hus hvs
  | binary op right =>
    obtain ⟨hop, rfl, rfl⟩ := hspell
    obtain ⟨b, Y, hb, heq⟩ := andThen_eq_ok_iff.1 he
    cases heq
    have htighter : (layerOf op).tighter.power = (layerOf op).power + 1 := by cases op <;> rfl
    have hnine : (layerOf op).power ≤ 8 := by cases op <;> decide
    obtain ⟨us, rfl, hstops, hus⟩ :=
      (hrest.expression (by omega) (outcome_eq_ok_iff.1 hb)).derives (l := (layerOf op).tighter)
        (by omega)
    -- an operator of the same layer may stand behind the right side: the loop goes on with it
    rw [htighter, ← (continuation?_of_operator hop).2] at hstops
    exact ⟨us, layerOf op, rfl, rfl, hstops, .binary hop (ha.loosen hpower) hus⟩

end Climbing

theorem covers_of_climb {ts : List Located} (h : SoundBelow ts.length) {p : Nat} {a e : Expr}
    {X : List Located} {m : Layer} {past : List Token} (he : Reads (climb p a ts) e X)
    (ha : Derives m past a) (hp : p ≤ m.power) (hs : Stops (m.follow + 1) ts) :
    Covers past p ts X e := by
  by_cases hstop : Stops p ts
  · obtain ⟨rfl, rfl⟩ := (reads_climb_of_stops hstop).1 he
    exact .refl ha hp hstop
  · -- an operator that is strong enough comes next
    cases ts with
    | nil => exact absurd (stops_of_none rfl) hstop
    | cons t rest =>
      cases hk : continuation? (next (t :: rest)) with
      | none => exact absurd (stops_of_none hk) hstop
      | some found =>
        obtain ⟨k, strength⟩ := found
        have hle : ¬ strength < p := fun hlt => hstop (stops_of_eq hk hlt)
        have hfollow : strength ≤ m.follow := Nat.lt_succ_iff.1 (hs k strength hk)
        have hgo := outcome_goOn p k a t rest hk hle
        rw [outcome_eq_ok_iff.2 he] at hgo
        obtain ⟨b, Y, hb, hY⟩ := andThen_eq_ok_iff.1 hgo.symm
        obtain ⟨us, n, rfl, hn, hstops, hd⟩ := exists_derives_of_goOn h ha hk hfollow hb
        have hlt : Y.length < (us ++ Y).length + 1 := by
          rw [List.length_append]
          omega
        have hp' : p ≤ n.power := by
          rw [hn]
          exact Nat.le_of_not_lt hle
        exact Covers.shift (t :: us) ((h Y hlt).climb (outcome_eq_ok_iff.1 hY) hd hp' hstops)

/-! ## All functions together -/

theorem covers_of_expression {ts : List Located} (h : SoundBelow ts.length) {p : Nat} {e : Expr}
    {X : List Located} (hp : p ≤ 9) (he : Reads (expression p ts) e X) : Covers [] p ts X e := by
  obtain ⟨a, Y, ha, hclimb⟩ := reads_expression.1 he
  obtain ⟨us, m, rfl, hm, hs, hd⟩ := coversOperand_of_reads h ha
  have hlt : Y.length < (us ++ Y).length := ha.length_lt
  exact Covers.shift us ((h Y hlt).climb hclimb hd (Nat.le_trans hp hm) hs)

theorem coversItems_of_reads {ts : List Located} (h : SoundBelow ts.length) {close : Token}
    {es : List Expr} {X : List Located} (he : Reads (items close ts) es X) :
    CoversItems close ts X es := by
  obtain ⟨e, Y, hfirst, hmore⟩ := reads_items.1 he
  have hlt : Y.length < ts.length := hfirst.length_lt
  obtain ⟨us, rfl, -, hus⟩ :=
    (covers_of_expression h (Nat.zero_le 9) hfirst).derives (l := .pipe) (by decide)
  rcases hmore with ⟨o, Z, rest, rfl, hrest, rfl⟩ | ⟨-, ⟨o, rfl⟩, rfl⟩
  · have hZ : Z.length < (us ++ ⟨.comma, o⟩ :: Z).length := Nat.lt_trans (Nat.lt_succ_self _) hlt
    obtain ⟨vs, o', parts, rfl, hvs, rfl, hne, hd⟩ := (h Z hZ).items hrest
    obtain ⟨part, parts, rfl⟩ := List.exists_cons_of_ne_nil hne
    refine ⟨us ++ ⟨.comma, o⟩ :: vs, o', (us.map (·.token), e) :: part :: parts, ?_, ?_, rfl,
      List.cons_ne_nil _ _, ?_⟩
    · rw [List.append_assoc, List.cons_append]
    · rw [List.map_append, List.map_cons, hvs]
      exact (separated_cons_cons _ _ _).symm
    · exact List.forall_mem_cons.2 ⟨hus, hd⟩
  · refine ⟨us, o, [(us.map (·.token), e)], rfl, (separated_singleton _).symm, rfl,
      List.cons_ne_nil _ _, ?_⟩
    exact List.forall_mem_singleton.2 hus

theorem coversFields_of_reads {ts : List Located} (h : SoundBelow ts.length)
    {fs : List (String × Expr)} {X : List Located} (he : Reads (entries ts) fs X) :
    CoversFields ts X fs := by
  obtain ⟨key, name, o, Y, rfl, hkey, hentry⟩ := reads_entries.1 he
  obtain ⟨_, Z, hcolon, e, W, hvalue, hmore⟩ := reads_entry.1 hentry
  obtain ⟨o', rfl⟩ := reads_expect.1 hcolon
  have hlt : W.length < Z.length := hvalue.length_lt
  have hZ : Z.length < (⟨key, o⟩ :: ⟨.colon, o'⟩ :: Z : List Located).length := by
    rw [List.length_cons, List.length_cons]
    omega
  obtain ⟨us, rfl, -, hus⟩ :=
    ((h Z hZ).expression (Nat.zero_le 9) hvalue).derives (l := .pipe) (by decide)
  let f : FieldText := ⟨key, name, us.map (·.token), e, hkey⟩
  rcases hmore with ⟨o₁, V, rest, rfl, hrest, rfl⟩ | ⟨-, ⟨o₁, rfl⟩, rfl⟩
  · have hV : V.length < (⟨key, o⟩ :: ⟨.colon, o'⟩ :: (us ++ ⟨.comma, o₁⟩ :: V)).length :=
      Nat.lt_trans (Nat.lt_trans (Nat.lt_succ_self _) hlt) hZ
    obtain ⟨vs, o₂, fields, rfl, hvs, rfl, hne, hd⟩ := (h V hV).entries hrest
    obtain ⟨g, fields, rfl⟩ := List.exists_cons_of_ne_nil hne
    refine ⟨⟨key, o⟩ :: ⟨.colon, o'⟩ :: (us ++ ⟨.comma, o₁⟩ :: vs), o₂, f :: g :: fields, ?_, ?_,
      rfl, List.cons_ne_nil _ _, ?_⟩
    · simp
    · rw [List.map_cons, List.map_cons, List.map_append, List.map_cons, hvs]
      exact (separated_cons_cons f.text g.text _).symm
    · exact List.forall_mem_cons.2 ⟨hus, hd⟩
  · refine ⟨⟨key, o⟩ :: ⟨.colon, o'⟩ :: us, o₁, [f], rfl, (separated_singleton _).symm, rfl,
      List.cons_ne_nil _ _, ?_⟩
    exact List.forall_mem_singleton.2 hus

theorem sound (ts : List Located) : Sound ts := by
  have h : SoundBelow ts.length := fun ts' _ => sound ts'
  exact {
    expression := covers_of_expression h
    climb := covers_of_climb h
    items := coversItems_of_reads h
    entries := coversFields_of_reads h }
termination_by ts.length

end Sluice.Expr
