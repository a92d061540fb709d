import Sluice.Proofs.Grammar.Soundness

/-!
# The parser refuses no token too late

The tokens before the one that a function refuses can be completed: with an operand, the rest of a
choice, a name or a closing token that is still due.  The parser takes a token only where the
grammar has one.

As in the proof of soundness, `climb` is judged together with the tokens of its left operand.
-/

namespace Sluice.Expr

variable {α β : Type}

/-- The tokens are the start of an expression of the layer. -/
def Viable (l : Layer) (us : List Token) : Prop := ∃ ws e, Derives l (us ++ ws) e

def ViableItems (us : List Token) : Prop :=
  ∃ (ws : List Token) (parts : List (List Token × Expr)), us ++ ws = separated (parts.map (·.1)) ∧
    parts ≠ [] ∧ ∀ q ∈ parts, Derives .pipe q.1 q.2

def ViableFields (us : List Token) : Prop :=
  ∃ (ws : List Token) (fields : List FieldText), us ++ ws = separated (fields.map (·.text)) ∧
    fields ≠ [] ∧ ∀ f ∈ fields, Derives .pipe f.tokens f.value

/-- The refusal of the first of these tokens. -/
def Refusal.At (e : Refusal) (X : List Located) : Prop :=
  e.left = X.length ∧ (e.flaw = misfit (next X) ∨ ∃ wanted, e.flaw = .expected wanted (next X))

/-- If a function refuses a token, then what it has taken before is as described. -/
def Refuses (P : List Token → Prop) (ts : List Located) (r : Outcome α) : Prop :=
  ∀ e, r = .error e → ∃ us X, ts = us ++ X ∧ e.At X ∧ P (us.map (·.token))

theorem derives_empty (l : Layer) : Derives l [.str ""] (.literal (.string "")) :=
  Derives.loosen (.string "") (by cases l <;> decide)

theorem viable_nil (l : Layer) : Viable l [] := ⟨[.str ""], _, derives_empty l⟩

/-- The start of what is derived in a layer at least as tight. -/
theorem Derives.viable {l m : Layer} {us vs : List Token} {e : Expr} (h : Derives m vs e)
    (hl : l.power ≤ m.power) (ws : List Token) (hvs : vs = us ++ ws) : Viable l us :=
  ⟨ws, e, (hvs ▸ h).loosen hl⟩

theorem Viable.loosen {l m : Layer} {us : List Token} (h : Viable m us) (hl : l.power ≤ m.power) :
    Viable l us := by
  obtain ⟨ws, e, hd⟩ := h
  exact ⟨ws, e, hd.loosen hl⟩

theorem viableItems_of_part {us vs : List Token} {e : Expr} (h : Derives .pipe vs e)
    (ws : List Token) (hvs : vs = us ++ ws) : ViableItems us :=
  ⟨ws, [(vs, e)], by rw [List.map_singleton, separated_singleton, hvs], List.cons_ne_nil _ _,
    List.forall_mem_singleton.2 h⟩

theorem ViableItems.cons {us vs : List Token} {e : Expr} (h : Derives .pipe us e)
    (hvs : ViableItems vs) : ViableItems (us ++ .comma :: vs) := by
  obtain ⟨ws, parts, hws, hne, hd⟩ := hvs
  obtain ⟨part, parts, rfl⟩ := List.exists_cons_of_ne_nil hne
  refine ⟨ws, (us, e) :: part :: parts, ?_, List.cons_ne_nil _ _, List.forall_mem_cons.2 ⟨h, hd⟩⟩
  rw [List.map_cons] at hws
  rw [List.map_cons, List.map_cons, separated_cons_cons, ← hws, List.append_assoc, List.cons_append]

theorem viableFields_of_field {us : List Token} (f : FieldText)
    (h : Derives .pipe f.tokens f.value) (ws : List Token) (hf : f.text = us ++ ws) :
    ViableFields us :=
  ⟨ws, [f], by rw [List.map_singleton, separated_singleton, hf], List.cons_ne_nil _ _,
    List.forall_mem_singleton.2 h⟩

theorem ViableFields.cons {vs : List Token} (f : FieldText) (h : Derives .pipe f.tokens f.value)
    (hvs : ViableFields vs) : ViableFields (f.text ++ .comma :: vs) := by
  obtain ⟨ws, fields, hws, hne, hd⟩ := hvs
  obtain ⟨g, fields, rfl⟩ := List.exists_cons_of_ne_nil hne
  refine ⟨ws, f :: g :: fields, ?_, List.cons_ne_nil _ _, List.forall_mem_cons.2 ⟨h, hd⟩⟩
  rw [List.map_cons] at hws
  rw [List.map_cons, List.map_cons, separated_cons_cons, ← hws, List.append_assoc, List.cons_append]

/-! ## Parts -/

section Refuses

variable {P Q : List Token → Prop} {ts : List Located} {r : Outcome α}

theorem refuses_ok (p : α × List Located) : Refuses P ts (.ok p) := by
  rintro e ⟨⟩

theorem Refuses.mono (h : Refuses P ts r) (hPQ : ∀ us, P us → Q us) : Refuses Q ts r := by
  intro e he
  obtain ⟨us, X, hts, hat, hP⟩ := h e he
  exact ⟨us, X, hts, hat, hPQ _ hP⟩

/-- At the first token. -/
theorem refuses_first (hP : P []) (h : ∀ e, r = .error e → e.At ts) : Refuses P ts r :=
  fun e he => ⟨[], ts, rfl, h e he, hP⟩

theorem Refuses.cons {t : Located} (h : Refuses (fun us => P (t.token :: us)) ts r) :
    Refuses P (t :: ts) r := by
  intro e he
  obtain ⟨us, X, rfl, hat, hP⟩ := h e he
  exact ⟨t :: us, X, rfl, hat, hP⟩

/-- Behind tokens that have been read. -/
theorem Refuses.behind {us : List Located} {X : List Located}
    (h : Refuses (fun vs => P (us.map (·.token) ++ vs)) X r) : Refuses P (us ++ X) r := by
  induction us generalizing P with
  | nil => exact h
  | cons u us ih => exact Refuses.cons (ih h)

theorem Refuses.andThen {f : α → List Located → Outcome β} (h : Refuses P ts r)
    (hf : ∀ a Y, r = .ok (a, Y) → Refuses P ts (f a Y)) : Refuses P ts (r.andThen f) := by
  cases r with
  | error e =>
    intro e' he
    cases he
    exact h e rfl
  | ok p => exact hf p.1 p.2 rfl

theorem Refuses.map (h : Refuses P ts r) (f : α → β) :
    Refuses P ts (r.andThen fun a X => .ok (f a, X)) :=
  h.andThen fun _ _ _ => refuses_ok _

theorem refuses_misfit (hP : P []) :
    Refuses P ts (.error ⟨misfit (next ts), ts.length⟩ : Outcome α) := by
  refine refuses_first hP ?_
  rintro e ⟨⟩
  exact ⟨rfl, .inl rfl⟩

theorem refuses_expect {wanted : Token} (hw : wanted ≠ .eof) (hP : P []) :
    Refuses P ts (outcome (expect wanted ts)) := by
  rw [outcome_expect hw]
  split
  · exact refuses_ok _
  · refine refuses_first hP ?_
    rintro e ⟨⟩
    exact ⟨rfl, .inr ⟨wanted, rfl⟩⟩

theorem refuses_memberName (hP : P []) : Refuses P ts (memberName ts) := by
  unfold memberName
  split
  · exact refuses_ok _
  · exact refuses_misfit hP

theorem refuses_fieldKey (hP : P []) : Refuses P ts (fieldKey ts) := by
  unfold fieldKey
  split
  · exact refuses_ok _
  · exact refuses_ok _
  · exact refuses_misfit hP

theorem refuses_orMore {more : List Located → Outcome (List α)} {close : Token}
    (hclose : close ≠ .eof) {a : α} (hend : P [])
    (hmore : ∀ o Z, ts = ⟨.comma, o⟩ :: Z → Refuses (fun us => P (.comma :: us)) Z (more Z)) :
    Refuses P ts (orMore more close a ts) := by
  unfold orMore
  split
  · next hn =>
    obtain ⟨o, Z, rfl⟩ := exists_cons_of_next hn (by decide)
    exact (Refuses.cons (hmore o Z rfl)).map _
  · exact (refuses_expect hclose hend).map _

end Refuses

/-! ## Expressions and their parts -/

theorem one_le_strength {t : Token} {k : Continuation} {strength : Nat}
    (h : continuation? t = some (k, strength)) : 1 ≤ strength := by
  have hspell := spells_of_continuation? h
  cases k with
  | binary op right =>
    obtain ⟨-, -, rfl⟩ := hspell
    cases op <;> decide
  | _ =>
    obtain ⟨-, rfl⟩ := hspell
    decide

/-- An expression of any power that has been read is one of the loosest layer. -/
theorem exists_derives_of_expression {ts Y : List Located} {e : Expr}
    (h : outcome (expression 0 ts) = .ok (e, Y)) :
    ∃ us, ts = us ++ Y ∧ Derives .pipe (us.map (·.token)) e := by
  have hcovers := (sound ts).expression (Nat.zero_le 9) (outcome_eq_ok_iff.1 h)
  obtain ⟨us, hts, -, hd⟩ := hcovers.derives (l := .pipe) (by decide)
  exact ⟨us, hts, hd⟩

/-- Whatever the functions refuse, they have taken the start of what they read. -/
structure RefusesInTime (ts : List Located) : Prop where
  expression : ∀ {p : Nat} {l : Layer}, p ≤ 9 → l.power ≤ max p 1 →
    Refuses (Viable l) ts (outcome (expression p ts))
  climb : ∀ {p : Nat} {l m : Layer} {a : Expr} {past : List Token}, l.power ≤ max p 1 →
    Derives m past a → Stops (m.follow + 1) ts →
    Refuses (fun us => Viable l (past ++ us)) ts (outcome (climb p a ts))
  items : ∀ {close : Token}, close ≠ .eof → Refuses ViableItems ts (outcome (items close ts))
  entries : Refuses ViableFields ts (outcome (entries ts))

theorem refuses_pipe {ts : List Located} (h : RefusesInTime ts) :
    Refuses (Viable .pipe) ts (outcome (expression 0 ts)) :=
  h.expression (Nat.zero_le 9) (by decide)

section Parts

variable {n : Nat} {ts : List Located} (h : ∀ ts : List Located, ts.length ≤ n → RefusesInTime ts)
include h

/-- Behind an operand: a token that goes on, and what is read with it. -/
theorem refuses_goOn {m : Layer} {past : List Token} {a : Expr} {t : Located} {k : Continuation}
    {strength : Nat} (hts : ts.length ≤ n) (ha : Derives m past a)
    (hk : continuation? t.token = some (k, strength)) (hm : strength ≤ m.follow) {l : Layer}
    (hl : l.power ≤ strength) :
    Refuses (fun us => Viable l (past ++ t.token :: us)) ts (goOn k a ts) := by
  obtain ⟨token, o⟩ := t
  have hts' := h ts hts
  have hpower : strength ≤ m.power := Nat.le_trans hm m.follow_le_power
  have hspell : k.Spells token strength := spells_of_continuation? hk
  -- what has been read is completed by the shortest text that the rule still asks for
  cases k with
  | field =>
    obtain ⟨rfl, rfl⟩ := hspell
    refine (refuses_memberName ?_).map _
    exact (Derives.field "" (ha.loosen hpower)).viable hl [.ident ""] (by simp)
  | index =>
    obtain ⟨rfl, rfl⟩ := hspell
    refine Refuses.andThen ?_ fun key Y hkey => ?_
    · refine (refuses_pipe hts').mono ?_
      rintro us ⟨ws, key, hkey⟩
      exact (Derives.index (ha.loosen hpower) hkey).viable hl (ws ++ [.rightBracket]) (by simp)
    · obtain ⟨us, rfl, hus⟩ := exists_derives_of_expression hkey
      refine ((refuses_expect (by decide) ?_).map _).behind
      exact (Derives.index (ha.loosen hpower) hus).viable hl [.rightBracket] (by simp)
  | pipe =>
    obtain ⟨rfl, rfl⟩ := hspell
    refine ((hts'.expression (l := .pipe) (by decide) (by decide)).mono ?_).map _
    rintro us ⟨ws, right, hright⟩
    exact (Derives.pipe (ha.loosen (Layer.two_le_power hm)) hright).viable hl ws (by simp)
  | ternary =>
    obtain ⟨rfl, rfl⟩ := hspell
    have ha' := ha.loosen (l := .coalesce) (Layer.three_le_power hm)
    refine Refuses.andThen ?_ fun yes Y hyes => ?_
    · refine (refuses_pipe hts').mono ?_
      rintro us ⟨ws, yes, hyes⟩
      have hchoice := Derives.ternary ha' hyes (derives_empty _)
      exact hchoice.viable hl (ws ++ [.colon, .str ""]) (by simp)
    -- the first branch is complete, so only the colon and the second one are missing
    obtain ⟨us, rfl, hus⟩ := exists_derives_of_expression hyes
    refine Refuses.behind (Refuses.andThen ?_ fun _ Z hcolon => ?_)
    · refine refuses_expect (by decide) ?_
      exact (Derives.ternary ha' hus (derives_empty _)).viable hl [.colon, .str ""] (by simp)
    obtain ⟨o', rfl⟩ := reads_expect.1 (outcome_eq_ok_iff.1 hcolon)
    have hZ : Z.length ≤ n := by
      rw [List.length_append, List.length_cons] at hts
      omega
    refine Refuses.map (Refuses.cons ?_) _
    refine ((h Z hZ).expression (l := .ternary) (by decide) (by decide)).mono ?_
    rintro vs ⟨ws, no, hno⟩
    exact (Derives.ternary ha' hus hno).viable hl ws (by simp)
  | binary op right =>
    obtain ⟨hop, rfl, rfl⟩ := hspell
    have htighter : (layerOf op).tighter.power ≤ 9 := by cases op <;> decide
    have hright := hts'.expression (l := (layerOf op).tighter) htighter (Nat.le_max_left _ _)
    refine (hright.mono ?_).map _
    rintro us ⟨ws, b, hb⟩
    exact (Derives.binary hop (ha.loosen hpower) hb).viable hl ws (by simp)

theorem refuses_arguments {close : Token} (hclose : close ≠ .eof) (hts : ts.length ≤ n) :
    Refuses ViableItems ts (outcome (arguments close ts)) := by
  rw [outcome_arguments hclose]
  split
  · exact refuses_ok _
  · exact (h ts hts).items hclose

/-- A token that an operand starts with, and what is read behind it. -/
theorem refuses_startWith {t : Located} (ht : starts t.token = true) (hts : ts.length ≤ n) :
    Refuses (fun us => Viable .unary (t.token :: us)) ts (startWith t.token ts) := by
  obtain ⟨token, o⟩ := t
  have hts' := h ts hts
  cases token with
  | ident name =>
    unfold startWith
    dsimp only
    split
    · exact refuses_ok _
    next hc =>
    split
    · next hn =>
      -- only the arguments of a call can be refused, a name alone never
      obtain ⟨o', rest, rfl⟩ := exists_cons_of_next hn (by decide)
      have hrest : rest.length ≤ n := Nat.le_of_succ_le hts
      refine Refuses.map (Refuses.cons ?_) _
      refine (refuses_arguments h (by decide) hrest).mono ?_
      rintro us ⟨ws, parts, hws, -, hd⟩
      refine (Derives.call (fun hmem => hc (isConstant_iff.2 hmem)) hd).viable (by decide)
        (ws ++ [.rightParen]) ?_
      simp [← hws]
    · exact refuses_ok _
  | not =>
    refine ((hts'.expression (l := .unary) (Nat.le_refl 9) (by decide)).mono ?_).map _
    rintro us ⟨ws, a, ha⟩
    exact (Derives.not ha).viable (by decide) ws (by simp)
  | minus =>
    refine ((hts'.expression (l := .unary) (Nat.le_refl 9) (by decide)).mono ?_).map _
    rintro us ⟨ws, a, ha⟩
    exact (Derives.neg ha).viable (by decide) ws (by simp)
  | leftParen =>
    refine Refuses.andThen ?_ fun a Y ha => ?_
    · refine (refuses_pipe hts').mono ?_
      rintro us ⟨ws, a, ha⟩
      exact (Derives.parens ha).viable (by decide) (ws ++ [.rightParen]) (by simp)
    · obtain ⟨us, rfl, hus⟩ := exists_derives_of_expression ha
      refine ((refuses_expect (by decide) ?_).map _).behind
      exact (Derives.parens hus).viable (by decide) [.rightParen] (by simp)
  | leftBracket =>
    refine ((refuses_arguments h (by decide) hts).mono ?_).map _
    rintro us ⟨ws, parts, hws, -, hd⟩
    exact (Derives.list hd).viable (by decide) (ws ++ [.rightBracket]) (by simp [← hws])
  | leftBrace =>
    unfold startWith
    dsimp only
    split
    · exact refuses_ok _
    · refine (hts'.entries.mono ?_).map _
      rintro us ⟨ws, fields, hws, -, hd⟩
      exact (Derives.map hd).viable (by decide) (ws ++ [.rightBrace]) (by simp [← hws])
  | number | str | query => exact refuses_ok _
  | _ => cases ht

end Parts

/-! ## All functions together -/

section All

variable {ts : List Located}
  (h : ∀ ts' : List Located, ts'.length < ts.length → RefusesInTime ts')
include h

theorem refuses_operand : Refuses (Viable .unary) ts (outcome (operand ts)) := by
  cases ts with
  | nil =>
    rw [outcome_operand_nil]
    exact refuses_misfit (viable_nil _)
  | cons t rest =>
    rw [outcome_operand]
    cases ht : starts t.token with
    | true =>
      refine Refuses.cons (refuses_startWith (fun ts hts => ?_) ht (Nat.le_refl _))
      exact h ts (Nat.lt_succ_of_le hts)
    | false =>
      rw [startWith_of_not_starts ht]
      change Refuses _ _ (.error ⟨misfit (next (t :: rest)), (t :: rest).length⟩)
      exact refuses_misfit (viable_nil _)

theorem refuses_climb {p : Nat} {l m : Layer} {a : Expr} {past : List Token}
    (hl : l.power ≤ max p 1) (ha : Derives m past a) (hs : Stops (m.follow + 1) ts) :
    Refuses (fun us => Viable l (past ++ us)) ts (outcome (climb p a ts)) := by
  rw [outcome_climb]
  split
  · exact refuses_ok _
  next k strength hk =>
  split
  · exact refuses_ok _
  next hp =>
  cases ts with
  | nil => cases hk
  | cons t rest =>
    have hm : strength ≤ m.follow := Nat.lt_succ_iff.1 (hs k strength hk)
    have hl' : l.power ≤ strength :=
      Nat.le_trans hl (Nat.max_le.2 ⟨Nat.le_of_not_lt hp, one_le_strength hk⟩)
    -- the flaw is in this turn of the loop, or in the turns behind what this one has read
    refine Refuses.andThen (Refuses.cons ?_) fun b Y hb => ?_
    · exact refuses_goOn (fun ts hts => h ts (Nat.lt_succ_of_le hts)) (Nat.le_refl _) ha hk hm hl'
    · obtain ⟨us, n, hus, hn, hstops, hd⟩ :=
        exists_derives_of_goOn (fun ts _ => sound ts) ha hk hm hb
      rw [List.tail_cons] at hus
      subst hus
      change Refuses _ (t :: us ++ Y) _
      refine Refuses.behind ?_
      have hY : Y.length < (t :: (us ++ Y)).length := by
        rw [List.length_cons, List.length_append]
        omega
      refine ((h Y hY).climb hl hd hstops).mono fun vs hvs => ?_
      rwa [List.append_assoc] at hvs

theorem refuses_expression {p : Nat} {l : Layer} (hp : p ≤ 9) (hl : l.power ≤ max p 1) :
    Refuses (Viable l) ts (outcome (expression p ts)) := by
  rw [outcome_expression]
  have hl' : l.power ≤ Layer.power .unary := Nat.le_trans hl (Nat.max_le.2 ⟨hp, by decide⟩)
  refine Refuses.andThen ?_ fun a Y ha => ?_
  · exact (refuses_operand h).mono fun us hus => hus.loosen hl'
  · have hreads := outcome_eq_ok_iff.1 ha
    obtain ⟨us, m, rfl, -, hs, hd⟩ := coversOperand_of_reads (fun ts _ => sound ts) hreads
    exact Refuses.behind ((h Y hreads.length_lt).climb hl hd hs)

theorem refuses_items {close : Token} (hclose : close ≠ .eof) :
    Refuses ViableItems ts (outcome (items close ts)) := by
  rw [outcome_items]
  refine Refuses.andThen ?_ fun e Y he => ?_
  · refine (refuses_expression h (l := .pipe) (Nat.zero_le 9) (by decide)).mono ?_
    rintro us ⟨ws, e, hd⟩
    exact viableItems_of_part hd ws rfl
  have hlt := length_lt_of_expression he
  obtain ⟨us, rfl, hus⟩ := exists_derives_of_expression he
  refine Refuses.behind (refuses_orMore hclose ?_ ?_)
  · exact viableItems_of_part hus [] (by simp)
  · rintro o Z rfl
    refine ((h Z (Nat.lt_trans (Nat.lt_succ_self _) hlt)).items hclose).mono fun vs hvs => ?_
    exact hvs.cons hus

theorem refuses_entries : Refuses ViableFields ts (outcome (entries ts)) := by
  rw [outcome_entries]
  -- up to its value, a field is completed with an empty text
  refine Refuses.andThen (refuses_fieldKey ?_) fun name Y hkey => ?_
  · exact viableFields_of_field ⟨.str "", "", [.str ""], _, .inl rfl⟩ (derives_empty _) _ rfl
  obtain ⟨key, o, rfl, hnamed⟩ := fieldKey_eq_ok_iff.1 hkey
  rw [outcome_entry]
  refine Refuses.cons (Refuses.andThen (refuses_expect (by decide) ?_) fun _ Z hcolon => ?_)
  · exact viableFields_of_field ⟨key, name, [.str ""], _, hnamed⟩ (derives_empty _) _ rfl
  obtain ⟨o', rfl⟩ := reads_expect.1 (outcome_eq_ok_iff.1 hcolon)
  have hZ : Z.length < (⟨key, o⟩ :: ⟨.colon, o'⟩ :: Z : List Located).length :=
    Nat.lt_succ_of_lt (Nat.lt_succ_self _)
  refine Refuses.cons (Refuses.andThen ?_ fun e W he => ?_)
  · refine (refuses_pipe (h Z hZ)).mono ?_
    rintro us ⟨ws, e, hd⟩
    exact viableFields_of_field ⟨key, name, us ++ ws, e, hnamed⟩ hd ws rfl
  have hlt := Nat.lt_trans (length_lt_of_expression he) hZ
  obtain ⟨us, rfl, hus⟩ := exists_derives_of_expression he
  let f : FieldText := ⟨key, name, us.map (·.token), e, hnamed⟩
  refine Refuses.behind (refuses_orMore (by decide) ?_ ?_)
  · exact viableFields_of_field f hus [] (by simp [f, FieldText.text])
  · rintro o₁ V rfl
    refine (h V (Nat.lt_trans (Nat.lt_succ_self _) hlt)).entries.mono fun vs hvs => ?_
    exact ViableFields.cons f hus hvs

end All

theorem refusesInTime (ts : List Located) : RefusesInTime ts := by
  have h : ∀ ts' : List Located, ts'.length < ts.length → RefusesInTime ts' :=
    fun ts' _ => refusesInTime ts'
  exact {
    expression := refuses_expression h
    climb := refuses_climb h
    items := refuses_items h
    entries := refuses_entries h }
termination_by ts.length

end Sluice.Expr
