import Sluice.Proofs.Grammar.Basic
import Sluice.Proofs.Grammar.Reading

/-!
# The parser reads what the grammar derives

By induction on derivations.  The statement is about tokens with others behind them: if `climb` can
go on from the tree, then `expression` reads the tokens and goes on like that.  What comes behind
must not reach into the derivation, which is what the strength of its first token tells.
-/

namespace Sluice.Expr

theorem Stops.mono {p q : Nat} {ts : List Located} (h : Stops p ts) (hpq : p ≤ q) : Stops q ts :=
  fun k strength hk => Nat.lt_of_lt_of_le (h k strength hk) hpq

theorem stops_of_none {p : Nat} {ts : List Located} (h : continuation? (next ts) = none) :
    Stops p ts := by
  intro k strength hk
  rw [h] at hk
  cases hk

theorem stops_of_eq {p strength : Nat} {k : Continuation} {ts : List Located}
    (h : continuation? (next ts) = some (k, strength)) (hp : strength < p) : Stops p ts := by
  intro k' strength' hk
  rw [h] at hk
  cases hk
  exact hp

/-- The parser reads the tokens as the tree and goes on with what comes behind. -/
def ReadAs (l : Layer) (us : List Token) (e : Expr) : Prop :=
  ∀ (p : Nat) (ts X : List Located) (e' : Expr) (Y : List Located), p ≤ l.power →
    ts.map (·.token) = us → Stops (l.follow + 1) X → next X ≠ .leftParen →
    Reads (climb p e X) e' Y → Reads (expression p (ts ++ X)) e' Y

/-- The parser reads the tokens as the tree and stops behind them. -/
theorem ReadAs.stop {l : Layer} {us : List Token} {e : Expr} (h : ReadAs l us e) {p : Nat}
    {ts X : List Located} (hp : p ≤ l.power) (hts : ts.map (·.token) = us)
    (hX : Stops (l.follow + 1) X) (hn : next X ≠ .leftParen) (hs : Stops p X) :
    Reads (expression p (ts ++ X)) e X :=
  h p ts X e X hp hts hX hn ((reads_climb_of_stops hs).2 ⟨rfl, rfl⟩)

/-- Before a token that ends every expression. -/
theorem ReadAs.close {l : Layer} {us : List Token} {e : Expr} (h : ReadAs l us e) {p : Nat}
    {ts X : List Located} (hp : p ≤ l.power) (hts : ts.map (·.token) = us)
    (hc : continuation? (next X) = none) (hn : next X ≠ .leftParen) :
    Reads (expression p (ts ++ X)) e X :=
  h.stop hp hts (stops_of_none hc) hn (stops_of_none hc)

theorem readAs_of_operand {l : Layer} {us : List Token} {e : Expr}
    (h : ∀ ts X, ts.map (·.token) = us → Stops (l.follow + 1) X → next X ≠ .leftParen →
      Reads (operand (ts ++ X)) e X) : ReadAs l us e := by
  intro p ts X e' Y _ hts hX hn hclimb
  exact reads_expression.2 ⟨e, X, h ts X hts hX hn, hclimb⟩

/-! ## Operators and accesses -/

theorem ReadAs.tighter {l : Layer} {us : List Token} {e : Expr} (h : ReadAs l.tighter us e) :
    ReadAs l us e := by
  intro p ts X e' Y hp hts hX hn hclimb
  refine h p ts X e' Y (Nat.le_trans hp l.power_le_tighter) hts ?_ hn hclimb
  exact hX.mono (Nat.succ_le_succ l.follow_le_tighter)

theorem ReadAs.pipe {us vs : List Token} {left right : Expr} (hl : ReadAs .ternary us left)
    (hr : ReadAs .pipe vs right) : ReadAs .pipe (us ++ .pipe :: vs) (.pipe left right) := by
  intro p ts X e' Y hp hts hX hn hclimb
  obtain ⟨ts₁, ts₂, rfl, hts₁, hts₂⟩ := List.map_eq_append_iff.1 hts
  obtain ⟨⟨_, o⟩, ts₃, rfl, rfl, hts₃⟩ := List.map_eq_cons_iff.1 hts₂
  have hk : continuation? .pipe = some (.pipe, 1) := rfl
  rw [List.append_assoc, List.cons_append]
  refine hl p ts₁ _ e' Y (Nat.le_trans hp (by decide)) hts₁ (stops_of_eq hk (by decide))
    (by simp [next]) ?_
  refine (reads_climb_pipe hk hp).2 ⟨right, X, ?_, hclimb⟩
  exact hr.stop (Nat.le_refl 1) hts₃ hX hn hX

theorem ReadAs.ternary {us vs ws : List Token} {condition yes no : Expr}
    (hc : ReadAs .coalesce us condition) (hy : ReadAs .pipe vs yes) (hn : ReadAs .ternary ws no) :
    ReadAs .ternary (us ++ .question :: (vs ++ .colon :: ws)) (.ternary condition yes no) := by
  intro p ts X e' Y hp hts hX hnext hclimb
  obtain ⟨ts₁, ts₂, rfl, hts₁, hts₂⟩ := List.map_eq_append_iff.1 hts
  obtain ⟨⟨_, o⟩, ts₃, rfl, rfl, hts₃⟩ := List.map_eq_cons_iff.1 hts₂
  obtain ⟨ts₄, ts₅, rfl, hts₄, hts₅⟩ := List.map_eq_append_iff.1 hts₃
  obtain ⟨⟨_, o'⟩, ts₆, rfl, rfl, hts₆⟩ := List.map_eq_cons_iff.1 hts₅
  have hk : continuation? .question = some (.ternary, 2) := rfl
  rw [List.append_assoc, List.cons_append, List.append_assoc, List.cons_append]
  refine hc p ts₁ _ e' Y (Nat.le_trans hp (by decide)) hts₁ (stops_of_eq hk (by decide))
    (by simp [next]) ?_
  refine (reads_climb_ternary hk hp).2 ?_
  refine ⟨yes, ⟨.colon, o'⟩ :: (ts₆ ++ X), ?_, (), ts₆ ++ X, reads_expect.2 ⟨o', rfl⟩, no, X, ?_,
    hclimb⟩
  · exact hy.close (Nat.zero_le _) hts₄ rfl (by simp [next])
  · exact hn.stop (Nat.le_refl 2) hts₆ hX hnext hX

theorem ReadAs.binary {l : Layer} {t : Token} {op : BinaryOp} {us vs : List Token}
    {left right : Expr} (ht : (t, op) ∈ l.operators) (hl : ReadAs l us left)
    (hr : ReadAs l.tighter vs right) : ReadAs l (us ++ t :: vs) (.binary op left right) := by
  intro p ts X e' Y hp hts hX hn hclimb
  obtain ⟨ts₁, ts₂, rfl, hts₁, hts₂⟩ := List.map_eq_append_iff.1 hts
  obtain ⟨⟨t', o⟩, ts₃, rfl, ht', hts₃⟩ := List.map_eq_cons_iff.1 hts₂
  obtain rfl : t' = t := ht'
  obtain ⟨hk, hfollow⟩ := continuation?_of_operator ht
  have hlp : t' ≠ .leftParen := by
    rintro rfl
    cases hk
  have hlt : l.power < l.tighter.power := by
    cases l <;> first | decide | cases ht
  rw [hfollow] at hX
  rw [List.append_assoc, List.cons_append]
  refine hl p ts₁ _ e' Y hp hts₁ (stops_of_eq hk ?_) hlp ?_
  · rw [hfollow]
    exact Nat.lt_succ_self _
  refine (reads_climb_binary hk hp).2 ⟨right, X, ?_, hclimb⟩
  refine hr.stop (Nat.le_refl _) hts₃ (hX.mono ?_) hn (hX.mono hlt)
  rw [← hfollow]
  exact Nat.succ_le_succ l.follow_le_tighter

theorem ReadAs.unary {t : Token} {op : UnaryOp} {us : List Token} {e : Expr}
    (ht : (t = .not ∧ op = .not) ∨ (t = .minus ∧ op = .neg)) (h : ReadAs .unary us e) :
    ReadAs .unary (t :: us) (.unary op e) := by
  refine readAs_of_operand fun ts X hts hX hn => ?_
  obtain ⟨⟨t', o⟩, ts₁, rfl, ht', hts₁⟩ := List.map_eq_cons_iff.1 hts
  obtain rfl : t' = t := ht'
  have he : Reads (expression unaryPower (ts₁ ++ X)) e X :=
    h.stop (Nat.le_refl 9) hts₁ hX hn hX
  rcases ht with ⟨rfl, rfl⟩ | ⟨rfl, rfl⟩
  · exact reads_operand_not.2 ⟨e, he, rfl⟩
  · exact reads_operand_minus.2 ⟨e, he, rfl⟩

theorem ReadAs.field {us : List Token} {base : Expr} (name : String) (h : ReadAs .access us base) :
    ReadAs .access (us ++ [.dot, .ident name]) (.field base name) := by
  intro p ts X e' Y hp hts hX hn hclimb
  obtain ⟨ts₁, ts₂, rfl, hts₁, hts₂⟩ := List.map_eq_append_iff.1 hts
  obtain ⟨⟨_, o⟩, ts₃, rfl, rfl, hts₃⟩ := List.map_eq_cons_iff.1 hts₂
  obtain ⟨⟨_, o'⟩, ts₄, rfl, rfl, hts₄⟩ := List.map_eq_cons_iff.1 hts₃
  obtain rfl : ts₄ = [] := List.map_eq_nil_iff.1 hts₄
  have hk : continuation? .dot = some (.field, 10) := rfl
  rw [List.append_assoc]
  refine h p ts₁ _ e' Y hp hts₁ (stops_of_eq hk (by decide)) (by simp [next]) ?_
  exact (reads_climb_field hk hp).2 ⟨name, o', X, rfl, hclimb⟩

theorem ReadAs.index {us vs : List Token} {base key : Expr} (hb : ReadAs .access us base)
    (hk : ReadAs .pipe vs key) :
    ReadAs .access (us ++ .leftBracket :: (vs ++ [.rightBracket])) (.index base key) := by
  intro p ts X e' Y hp hts hX hn hclimb
  obtain ⟨ts₁, ts₂, rfl, hts₁, hts₂⟩ := List.map_eq_append_iff.1 hts
  obtain ⟨⟨_, o⟩, ts₃, rfl, rfl, hts₃⟩ := List.map_eq_cons_iff.1 hts₂
  obtain ⟨ts₄, ts₅, rfl, hts₄, hts₅⟩ := List.map_eq_append_iff.1 hts₃
  obtain ⟨⟨_, o'⟩, ts₆, rfl, rfl, hts₆⟩ := List.map_eq_cons_iff.1 hts₅
  obtain rfl : ts₆ = [] := List.map_eq_nil_iff.1 hts₆
  have hc : continuation? .leftBracket = some (.index, 10) := rfl
  rw [List.append_assoc, List.cons_append, List.append_assoc]
  refine hb p ts₁ _ e' Y hp hts₁ (stops_of_eq hc (by decide)) (by simp [next]) ?_
  refine (reads_climb_index hc hp).2 ?_
  refine ⟨key, ⟨.rightBracket, o'⟩ :: X, ?_, (), X, reads_expect.2 ⟨o', rfl⟩, hclimb⟩
  exact hk.close (Nat.zero_le _) hts₄ rfl (by simp [next])

/-! ## Lists and maps -/

/-- Whether a token closes the items of a list or of a call. -/
def Closes (close : Token) : Prop := close = .rightParen ∨ close = .rightBracket

theorem Closes.continuation?_eq {close : Token} (h : Closes close) :
    continuation? close = none := by
  rcases h with rfl | rfl <;> rfl

theorem Closes.not_reads {close : Token} {o : Nat} {rest X : List Located} {e : Expr}
    (h : Closes close) : ¬ Reads (operand (⟨close, o⟩ :: rest)) e X := by
  rcases h with rfl | rfl <;> exact not_reads_operand rfl

theorem reads_items_of_readAs {close : Token} (hclose : Closes close) {o : Nat}
    {X : List Located} {part : List Token × Expr} {parts : List (List Token × Expr)}
    (h : ∀ q ∈ part :: parts, ReadAs .pipe q.1 q.2) {ts : List Located}
    (hts : ts.map (·.token) = separated ((part :: parts).map (·.1))) :
    Reads (items close (ts ++ ⟨close, o⟩ :: X)) ((part :: parts).map (·.2)) X := by
  induction parts generalizing part ts with
  | nil =>
    rw [List.map_singleton, separated_singleton] at hts
    refine reads_items.2 ⟨part.2, ⟨close, o⟩ :: X, ?_, .inr ⟨?_, ⟨o, rfl⟩, rfl⟩⟩
    · refine (h part List.mem_cons_self).close (Nat.zero_le _) hts hclose.continuation?_eq ?_
      rcases hclose with rfl | rfl <;> simp [next]
    · rcases hclose with rfl | rfl <;> simp [next]
  | cons second rest ih =>
    rw [List.map_cons, List.map_cons, separated_cons_cons] at hts
    obtain ⟨ts₁, ts₂, rfl, hts₁, hts₂⟩ := List.map_eq_append_iff.1 hts
    obtain ⟨⟨_, o'⟩, ts₃, rfl, rfl, hts₃⟩ := List.map_eq_cons_iff.1 hts₂
    rw [List.append_assoc, List.cons_append]
    refine reads_items.2 ⟨part.2, ⟨.comma, o'⟩ :: (ts₃ ++ ⟨close, o⟩ :: X), ?_,
      .inl ⟨o', _, (second :: rest).map (·.2), rfl, ?_, rfl⟩⟩
    · exact (h part List.mem_cons_self).close (Nat.zero_le _) hts₁ rfl (by simp [next])
    · exact ih (fun q hq => h q (List.mem_cons_of_mem _ hq)) hts₃

theorem reads_arguments_of_readAs {close : Token} (hclose : Closes close) {o : Nat}
    {X : List Located} {parts : List (List Token × Expr)}
    (h : ∀ q ∈ parts, ReadAs .pipe q.1 q.2) {ts : List Located}
    (hts : ts.map (·.token) = separated (parts.map (·.1))) :
    Reads (arguments close (ts ++ ⟨close, o⟩ :: X)) (parts.map (·.2)) X := by
  cases parts with
  | nil =>
    obtain rfl : ts = [] := List.map_eq_nil_iff.1 hts
    exact reads_arguments_close.2 ⟨rfl, rfl⟩
  | cons part rest =>
    have hitems := reads_items_of_readAs hclose (o := o) (X := X) h hts
    refine (reads_arguments_items ?_).2 hitems
    intro t ht heq
    -- what starts with a closing token is no item
    obtain ⟨e, Y, he, -⟩ := reads_items.1 hitems
    obtain ⟨a, Z, ha, -⟩ := reads_expression.1 he
    obtain ⟨rest, hrest⟩ := List.head?_eq_some_iff.1 ht
    obtain ⟨token, o'⟩ := t
    obtain rfl : token = close := heq
    rw [hrest] at ha
    exact hclose.not_reads ha

theorem reads_entries_of_readAs {o : Nat} {X : List Located} {f : FieldText}
    {fields : List FieldText} (h : ∀ g ∈ f :: fields, ReadAs .pipe g.tokens g.value)
    {ts : List Located} (hts : ts.map (·.token) = separated ((f :: fields).map (·.text))) :
    Reads (entries (ts ++ ⟨.rightBrace, o⟩ :: X))
      ((f :: fields).map fun g => (g.name, g.value)) X := by
  induction fields generalizing f ts with
  | nil =>
    rw [List.map_singleton, separated_singleton] at hts
    obtain ⟨⟨_, o₁⟩, ts₁, rfl, hkey, hts₁⟩ := List.map_eq_cons_iff.1 hts
    obtain ⟨⟨_, o₂⟩, ts₂, rfl, rfl, hts₂⟩ := List.map_eq_cons_iff.1 hts₁
    refine reads_entries.2 ⟨f.key, f.name, o₁, _, by rw [← hkey]; rfl, f.named, ?_⟩
    refine reads_entry.2 ⟨(), _, reads_expect.2 ⟨o₂, rfl⟩, f.value, ⟨.rightBrace, o⟩ :: X, ?_,
      .inr ⟨?_, ⟨o, rfl⟩, rfl⟩⟩
    · exact (h f List.mem_cons_self).close (Nat.zero_le _) hts₂ rfl (by simp [next])
    · simp [next]
  | cons second rest ih =>
    rw [List.map_cons, List.map_cons, separated_cons_cons] at hts
    -- the tokens are cut at the comma: the field in front, then those of the other fields
    obtain ⟨ts₀, ts₃, rfl, hts₀, hts₃⟩ := List.map_eq_append_iff.1 hts
    obtain ⟨⟨_, o₁⟩, ts₁, rfl, hkey, hts₁⟩ := List.map_eq_cons_iff.1 hts₀
    obtain ⟨⟨_, o₂⟩, ts₂, rfl, rfl, hts₂⟩ := List.map_eq_cons_iff.1 hts₁
    obtain ⟨⟨_, o₃⟩, ts₄, rfl, rfl, hts₄⟩ := List.map_eq_cons_iff.1 hts₃
    rw [List.append_assoc, List.cons_append, List.cons_append, List.cons_append]
    refine reads_entries.2 ⟨f.key, f.name, o₁, _, by rw [← hkey], f.named, ?_⟩
    refine reads_entry.2 ⟨(), _, reads_expect.2 ⟨o₂, rfl⟩, f.value,
      ⟨.comma, o₃⟩ :: (ts₄ ++ ⟨.rightBrace, o⟩ :: X), ?_,
      .inl ⟨o₃, _, (second :: rest).map fun g => (g.name, g.value), rfl, ?_, rfl⟩⟩
    · exact (h f List.mem_cons_self).close (Nat.zero_le _) hts₂ rfl (by simp [next])
    · exact ih (fun g hg => h g (List.mem_cons_of_mem _ hg)) hts₄

/-! ## Derivations -/

theorem readAs_primary {t : Token} {e : Expr}
    (h : ∀ o X, next X ≠ .leftParen → Reads (operand (⟨t, o⟩ :: X)) e X) :
    ReadAs .primary [t] e := by
  refine readAs_of_operand fun ts X hts _ hn => ?_
  obtain ⟨⟨_, o⟩, ts₁, rfl, rfl, hts₁⟩ := List.map_eq_cons_iff.1 hts
  obtain rfl : ts₁ = [] := List.map_eq_nil_iff.1 hts₁
  exact h o X hn

/-- An opening token, what is inside, and a closing token. -/
theorem readAs_enclosed {opening closing : Token} {us : List Token} {e : Expr}
    (h : ∀ o ts o' X, ts.map (·.token) = us →
      Reads (operand (⟨opening, o⟩ :: (ts ++ ⟨closing, o'⟩ :: X))) e X) :
    ReadAs .primary (opening :: (us ++ [closing])) e := by
  refine readAs_of_operand fun ts X hts _ _ => ?_
  obtain ⟨⟨_, o⟩, ts₁, rfl, rfl, hts₁⟩ := List.map_eq_cons_iff.1 hts
  obtain ⟨ts₂, ts₃, rfl, hts₂, hts₃⟩ := List.map_eq_append_iff.1 hts₁
  obtain ⟨⟨_, o'⟩, ts₄, rfl, rfl, hts₄⟩ := List.map_eq_cons_iff.1 hts₃
  obtain rfl : ts₄ = [] := List.map_eq_nil_iff.1 hts₄
  rw [List.cons_append, List.append_assoc]
  exact h o ts₂ o' X hts₂

theorem next_entries_ne {f : FieldText} {fields : List FieldText} {ts X : List Located}
    (hts : ts.map (·.token) = separated ((f :: fields).map (·.text))) :
    next (ts ++ X) ≠ .rightBrace := by
  have hkey : ∃ vs, separated ((f :: fields).map (·.text)) = f.key :: vs := by
    cases fields with
    | nil => exact ⟨_, separated_singleton _⟩
    | cons second rest => exact ⟨_, separated_cons_cons _ _ _⟩
  obtain ⟨vs, hvs⟩ := hkey
  rw [hvs] at hts
  obtain ⟨t, ts₁, rfl, ht, -⟩ := List.map_eq_cons_iff.1 hts
  intro heq
  have hr : f.key = .rightBrace := by rw [← ht]; exact heq
  rcases f.named with h | h <;> rw [h] at hr <;> cases hr

theorem Derives.readAs {l : Layer} {us : List Token} {e : Expr} (h : Derives l us e) :
    ReadAs l us e := by
  induction h with
  | tighter _ ih => exact ih.tighter
  | pipe _ _ ihl ihr => exact ihl.pipe ihr
  | ternary _ _ _ ihc ihy ihn => exact ihc.ternary ihy ihn
  | binary ht _ _ ihl ihr => exact ihl.binary ht ihr
  | not _ ih => exact ih.unary (.inl ⟨rfl, rfl⟩)
  | neg _ ih => exact ih.unary (.inr ⟨rfl, rfl⟩)
  | field name _ ih => exact ih.field name
  | index _ _ ihb ihk => exact ihb.index ihk
  | number n => exact readAs_primary fun o X _ => reads_operand_number.2 ⟨rfl, rfl⟩
  | string s => exact readAs_primary fun o X _ => reads_operand_str.2 ⟨rfl, rfl⟩
  | query path => exact readAs_primary fun o X _ => reads_operand_query.2 ⟨rfl, rfl⟩
  | constant hv =>
    refine readAs_primary fun o X _ => (reads_operand_constant ?_).2 ⟨(named_of_mem hv).symm, rfl⟩
    exact isConstant_iff.2 (List.mem_map.2 ⟨_, hv, rfl⟩)
  | ident hname =>
    refine readAs_primary fun o X hn => (reads_operand_ident ?_ hn).2 ⟨rfl, rfl⟩
    exact fun hc => hname (isConstant_iff.1 hc)
  | @call name args hname _ ih =>
    refine readAs_of_operand fun ts X hts _ _ => ?_
    obtain ⟨⟨_, o⟩, ts₁, rfl, rfl, hts₁⟩ := List.map_eq_cons_iff.1 hts
    obtain ⟨⟨_, o'⟩, ts₂, rfl, rfl, hts₂⟩ := List.map_eq_cons_iff.1 hts₁
    obtain ⟨ts₃, ts₄, rfl, hts₃, hts₄⟩ := List.map_eq_append_iff.1 hts₂
    obtain ⟨⟨_, o''⟩, ts₅, rfl, rfl, hts₅⟩ := List.map_eq_cons_iff.1 hts₄
    obtain rfl : ts₅ = [] := List.map_eq_nil_iff.1 hts₅
    rw [List.cons_append, List.cons_append, List.append_assoc]
    refine (reads_operand_call fun hc => hname (isConstant_iff.1 hc)).2 ⟨_, ?_, rfl⟩
    exact reads_arguments_of_readAs (.inl rfl) ih hts₃
  | parens _ ih =>
    refine readAs_enclosed fun o ts o' X hts => ?_
    refine reads_operand_leftParen.2 ⟨_, ⟨.rightParen, o'⟩ :: X, ?_, ⟨o', rfl⟩, rfl⟩
    exact ih.close (Nat.zero_le _) hts rfl (by simp [next])
  | list _ ih =>
    refine readAs_enclosed fun o ts o' X hts => ?_
    exact reads_operand_leftBracket.2 ⟨_, reads_arguments_of_readAs (.inr rfl) ih hts, rfl⟩
  | @map fields _ ih =>
    refine readAs_enclosed fun o ts o' X hts => ?_
    cases fields with
    | nil =>
      obtain rfl : ts = [] := List.map_eq_nil_iff.1 hts
      exact reads_operand_braces.2 ⟨rfl, rfl⟩
    | cons f rest =>
      refine (reads_operand_leftBrace (next_entries_ne hts)).2 ⟨_, ?_, rfl⟩
      exact reads_entries_of_readAs ih hts

end Sluice.Expr
