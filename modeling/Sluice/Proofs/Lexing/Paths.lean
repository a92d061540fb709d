import Sluice.Proofs.Lexing.Parts

/-!
# The segments of a query

A query is `$` and a path: names behind one or two dots, stars behind them, and brackets.  What is
in brackets is balanced and may be anything in quotes.  The lexer takes a path as a whole, whatever
comes behind it that cannot go on with it.
-/

namespace Sluice.Token

/-- What may stand between the quotes `q`: a backslash takes the next character with it, whatever
that is. -/
inductive QuotedName (q : Char) : List Char → Prop where
  | nil : QuotedName q []
  | plain {c : Char} {cs : List Char} (hquote : c ≠ q) (hback : c ≠ '\\') (hcs : QuotedName q cs) :
    QuotedName q (c :: cs)
  | escape {c : Char} {cs : List Char} (hcs : QuotedName q cs) : QuotedName q ('\\' :: c :: cs)

/-- What may stand in brackets: other brackets and quoted names are closed in it. -/
inductive Balanced : List Char → Prop where
  | nil : Balanced []
  | plain {c : Char} {cs : List Char} (hquote : c ≠ '\'' ∧ c ≠ '"') (hbracket : c ≠ '[' ∧ c ≠ ']')
    (hcs : Balanced cs) : Balanced (c :: cs)
  | quoted {q : Char} {name cs : List Char} (hq : q = '\'' ∨ q = '"') (hname : QuotedName q name)
    (hcs : Balanced cs) : Balanced (q :: (name ++ q :: cs))
  | nested {inner cs : List Char} (hinner : Balanced inner) (hcs : Balanced cs) :
    Balanced ('[' :: (inner ++ ']' :: cs))

/-- A segment of a query. -/
inductive Segment : List Char → Prop where
  | name {dots name : List Char} (hdots : dots = ['.'] ∨ dots = ['.', '.']) (hne : name ≠ [])
    (hname : ∀ c ∈ name, inIdent c = true) : Segment (dots ++ name)
  | star {dots : List Char} (hdots : dots = ['.'] ∨ dots = ['.', '.']) : Segment (dots ++ ['*'])
  | bracket {inner : List Char} (hinner : Balanced inner) : Segment ('[' :: (inner ++ [']']))

/-- The segments of a query, one behind the other. -/
inductive Path : List Char → Prop where
  | nil : Path []
  | cons {segment cs : List Char} (hsegment : Segment segment) (hcs : Path cs) :
    Path (segment ++ cs)

/-! ## Taking it in -/

/-- The scan of a query takes the characters and gets from one state to the other. -/
def Leads (state : QueryState) (cs : List Char) (state' : QueryState) : Prop :=
  ∀ rest, queryPart state (cs ++ rest) = (queryPart state' rest).map fun p => (cs ++ p.1, p.2)

variable {state state' state'' : QueryState} {c : Char} {cs ds : List Char}

theorem Leads.refl (state : QueryState) : Leads state [] state := by
  intro rest
  simp

theorem Leads.step (hstep : state.step? c = some state') (h : Leads state' cs state'') :
    Leads state (c :: cs) state'' := by
  intro rest
  rw [List.cons_append, queryPart, hstep]
  simp only [h rest, Option.map_map]
  rfl

theorem Leads.append (h : Leads state cs state') (h' : Leads state' ds state'') :
    Leads state (cs ++ ds) state'' := by
  intro rest
  rw [List.append_assoc, h, h', Option.map_map]
  simp only [Function.comp_def, List.append_assoc]

/-- What stands in quotes is taken in. -/
theorem QuotedName.leads {q : Char} {depth : Nat} (hq : q = '\'' ∨ q = '"') (h : QuotedName q cs) :
    Leads (.bracket depth (some q) false) cs (.bracket depth (some q) false) := by
  induction h with
  | nil => exact .refl _
  | @plain c cs hquote hback hcs ih =>
    refine ih.step ?_
    rw [QueryState.step?, if_neg Bool.false_ne_true, if_neg hquote, decide_eq_false hback]
  | @escape c cs hcs ih =>
    have hback : '\\' ≠ q := by rcases hq with rfl | rfl <;> decide
    have hescape : Leads (.bracket depth (some q) true) (c :: cs) (.bracket depth (some q) false) :=
      ih.step rfl
    refine hescape.step ?_
    rw [QueryState.step?, if_neg Bool.false_ne_true, if_neg hback]
    rfl

/-- What stands in brackets is taken in and leads back to their depth. -/
theorem Balanced.leads {depth : Nat} (h : Balanced cs) :
    Leads (.bracket (depth + 1) none false) cs (.bracket (depth + 1) none false) := by
  induction h generalizing depth with
  | nil => exact .refl _
  | plain hquote hbracket hcs ih =>
    refine ih.step ?_
    rw [QueryState.step?, if_neg (not_or.2 hquote), if_neg hbracket.1, if_neg hbracket.2]
  | @quoted q name cs hq hname hcs ih =>
    have hclose : Leads (.bracket (depth + 1) (some q) false) (q :: cs)
        (.bracket (depth + 1) none false) :=
      ih.step (by rw [QueryState.step?, if_neg Bool.false_ne_true, if_pos rfl])
    exact ((hname.leads hq).append hclose).step (if_pos hq)
  | nested hinner hcs ihinner ihcs =>
    exact (ihinner.append (ihcs.step rfl)).step rfl

theorem leads_name {name : List Char} (h : ∀ c ∈ name, inIdent c = true) :
    Leads .name name .name := by
  induction name with
  | nil => exact .refl _
  | cons c name ih =>
    obtain ⟨hc, hname⟩ := List.forall_mem_cons.1 h
    exact (ih hname).step (if_pos hc)

/-- Where a segment may start. -/
def Open (state : QueryState) : Prop := state = .segment ∨ state = .name

theorem Open.step?_eq (h : Open state) (hc : inIdent c = false) :
    state.step? c = QueryState.open? c := by
  rcases h with rfl | rfl
  · rfl
  · exact if_neg (by rw [hc]; exact Bool.false_ne_true)

/-- A segment leads from a place where one may start to another one. -/
theorem Segment.leads (h : Segment cs) (hopen : Open state) :
    ∃ state', Open state' ∧ Leads state cs state' := by
  have hdot : state.step? '.' = some .dot := hopen.step?_eq rfl
  -- one dot or two lead to different states, but the states agree on what may follow
  have hdots {dots : List Char} (h : dots = ['.'] ∨ dots = ['.', '.']) :
      Leads state dots .dot ∨ Leads state dots .dots := by
    rcases h with rfl | rfl
    · exact .inl ((Leads.refl _).step hdot)
    · exact .inr (((Leads.refl _).step rfl).step hdot)
  cases h with
  | @name dots name h hne hname =>
    obtain ⟨c, cs, rfl⟩ := List.exists_cons_of_ne_nil hne
    obtain ⟨hc, hcs⟩ := List.forall_mem_cons.1 hname
    have hfirst : c ≠ '.' ∧ c ≠ '*' := by
      constructor <;> (rintro rfl; cases hc)
    refine ⟨.name, .inr rfl, ?_⟩
    rcases hdots h with h | h
    · refine h.append ((leads_name hcs).step ?_)
      rw [QueryState.step?, if_neg hfirst.1, if_neg hfirst.2, if_pos hc]
    · refine h.append ((leads_name hcs).step ?_)
      rw [QueryState.step?, if_neg hfirst.2, if_pos hc]
  | star h =>
    refine ⟨.segment, .inl rfl, ?_⟩
    rcases hdots h with h | h
    · exact h.append ((Leads.refl _).step rfl)
    · exact h.append ((Leads.refl _).step rfl)
  | bracket hinner =>
    refine ⟨.segment, .inl rfl, ?_⟩
    have hbracket : state.step? '[' = some (.bracket 1 none false) := hopen.step?_eq rfl
    have hclose : Leads (.bracket 1 none false) [']'] .segment := (Leads.refl _).step rfl
    exact (hinner.leads.append hclose).step hbracket

theorem Path.leads (h : Path cs) (hopen : Open state) :
    ∃ state', Open state' ∧ Leads state cs state' := by
  induction h generalizing state with
  | nil => exact ⟨state, hopen, .refl _⟩
  | cons hsegment hcs ih =>
    obtain ⟨mid, hmid, hleads⟩ := hsegment.leads hopen
    obtain ⟨state', hstate', hrest⟩ := ih hmid
    exact ⟨state', hstate', hleads.append hrest⟩

/-- A path is split off as a whole if what follows cannot be part of it. -/
theorem queryPart_path {rest : List Char} (h : Path cs)
    (hrest : ∀ c ∈ rest.head?, inIdent c = false ∧ c ≠ '.' ∧ c ≠ '[') :
    queryPart .segment (cs ++ rest) = some (cs, rest) := by
  obtain ⟨state, hopen, hleads⟩ := h.leads (.inl rfl)
  have hstop : queryPart state rest = some ([], rest) := by
    cases rest with
    | nil => rcases hopen with rfl | rfl <;> rfl
    | cons c rest =>
      obtain ⟨hc, hdot, hbracket⟩ := hrest c rfl
      have hstep : state.step? c = none := by
        rw [hopen.step?_eq hc, QueryState.open?, if_neg hdot, if_neg hbracket]
      rw [queryPart, hstep]
  rw [hleads, hstop, Option.map_some, List.append_nil]

end Sluice.Token
