import Sluice.Proofs.Lexing.Runs

/-!
# Scanning quoted texts and queries

In quotes and in brackets any character may stand.  The scan looks at its bytes one by one: those
above ASCII change nothing, so it gets behind the character in the state that the lexer has there.
Behind a backslash in brackets it skips one byte, which may cut a character; it then runs over the
other bytes of that character.
-/

namespace Sluice.Token.Scan

open Text

variable {source cs : List Char} {pos : Nat} {c : Char}

/-- The outcome of a scan for an end, and what the lexer leaves. -/
inductive EndsAt (source : List Char) : Option (Option Nat) → Option (List Char) → Prop where
  | closed {stop : Nat} {rest : List Char} (h : At source stop rest) :
    EndsAt source (some (some stop)) (some rest)
  | unclosed : EndsAt source (some none) none

theorem EndsAt.of_some {stop : Option (Option Nat)} {rest : List Char}
    (h : EndsAt source stop (some rest)) : ∃ n, stop = some (some n) ∧ At source n rest := by
  cases h with
  | closed h => exact ⟨_, rfl, h⟩

theorem EndsAt.of_none {stop : Option (Option Nat)} (h : EndsAt source stop none) :
    stop = some none := by
  cases h with
  | unclosed => rfl

/-! ## Quoted texts -/

/-- A scan that ignores the bytes above ASCII ignores a run of them. -/
theorem eq_add_of_wide {α : Type} {f : Nat → α} {n : Nat}
    (hf : ∀ {pos d}, peek source pos = some d → 128 ≤ d.toNat → f pos = f (pos + 1))
    (h : ∀ i < n, ∃ d, peek source (pos + i) = some d ∧ 128 ≤ d.toNat) : f pos = f (pos + n) := by
  induction n with
  | zero => rfl
  | succ n ih =>
    obtain ⟨d, hpeek, hd⟩ := h n (Nat.lt_succ_self n)
    rw [ih fun i hi => h i (Nat.lt_succ_of_lt hi)]
    exact hf hpeek hd

/-- From any byte of a character above ASCII such a scan gets behind the character. -/
theorem eq_tail_of_wide {α : Type} {f : Nat → α} {i : Nat}
    (hf : ∀ {pos d}, peek source pos = some d → 128 ≤ d.toNat → f pos = f (pos + 1))
    (hwide : 128 ≤ c.toNat) (h : At source pos (c :: cs)) (hi : i ≤ c.utf8Size) :
    f (pos + i) = f (pos + c.utf8Size) := by
  have hbytes : ∀ j < c.utf8Size - i, ∃ d, peek source (pos + i + j) = some d ∧ 128 ≤ d.toNat := by
    intro j hj
    rw [Nat.add_assoc]
    exact h.peek_wide hwide (Nat.add_lt_of_lt_sub' hj)
  rw [eq_add_of_wide hf hbytes, Nat.add_assoc, Nat.add_sub_cancel' hi]

theorem quotedEnd_wide {d : Char} (escaped : Bool) (hpeek : peek source pos = some d)
    (hd : 128 ≤ d.toNat) : quotedEnd source escaped pos = quotedEnd source false (pos + 1) := by
  rw [quotedEnd.eq_def, hpeek]
  simp [ne_of_wide hd (d := '\\') (by decide), ne_of_wide hd (d := '"') (by decide)]

theorem quotedEnd_endsAt (escaped : Bool) (h : At source pos cs) :
    EndsAt source (some (quotedEnd source escaped pos)) ((quotedPart escaped cs).map (·.2)) := by
  induction cs generalizing pos escaped with
  | nil =>
    rw [quotedEnd.eq_def, h.peek_end (Nat.le_refl pos)]
    exact .unclosed
  | cons c cs ih =>
    have honto (part : Option (List Char × List Char)) :
        (part.map (onto c)).map (·.2) = part.map (·.2) := by
      cases part <;> rfl
    rcases Nat.lt_or_ge c.toNat 128 with hascii | hwide
    · rw [quotedEnd.eq_def, h.peek_ascii hascii, quotedPart]
      dsimp only
      split
      · rw [honto]; exact ih true (h.tail_ascii hascii)
      · split
        · exact .closed (h.tail_ascii hascii)
        · rw [honto]; exact ih false (h.tail_ascii hascii)
    · obtain ⟨d, hpeek, hd⟩ := h.peek_wide_head hwide
      rw [quotedEnd_wide escaped hpeek hd, ← quotedEnd_wide false hpeek hd,
        ← Nat.add_zero pos, eq_tail_of_wide (quotedEnd_wide false) hwide h (Nat.zero_le _),
        quotedPart, if_neg fun h => ne_of_wide hwide (by decide) h.1,
        if_neg fun h => ne_of_wide hwide (by decide) h.1, honto]
      exact ih false h.tail

/-! ## Queries -/

/-- What a scan of a query from a state on leaves. -/
def queryRest (state : QueryState) (cs : List Char) : Option (List Char) :=
  (queryPart state cs).map (·.2)

theorem queryRest_of_step {state state' : QueryState} (h : state.step? c = some state') :
    queryRest state (c :: cs) = queryRest state' cs := by
  simp only [queryRest, queryPart, h]
  cases queryPart state' cs <;> rfl

theorem queryRest_of_stop {state : QueryState} (h : state.step? c = none) :
    queryRest state (c :: cs) = some (c :: cs) := by
  simp only [queryRest, queryPart, h, Option.map_some]

theorem bracketEnd_wide {d : Char} {depth : Nat} {quote : Option Char}
    (hquote : ∀ q ∈ quote, q.toNat < 128) {pos : Nat} (hpeek : peek source pos = some d)
    (hd : 128 ≤ d.toNat) :
    bracketEnd source depth quote pos = bracketEnd source depth quote (pos + 1) := by
  have hne : ∀ {e : Char}, e.toNat < 128 → d ≠ e := ne_of_wide hd
  rw [bracketEnd.eq_def, hpeek]
  cases quote with
  | none =>
    dsimp only
    rw [if_neg (by rintro (rfl | rfl) <;> exact absurd hd (by decide)), if_neg (hne (by decide)),
      if_neg (hne (by decide))]
  | some q =>
    dsimp only
    rw [if_neg (hne (hquote q rfl)), if_neg (hne (by decide))]

/-- The scan of brackets ends where the lexer goes on with segments; both fail if it does not
end. -/
inductive Leaves (source : List Char) (cs : List Char) :
    Option (Option Nat) → Option (List Char) → Prop where
  | closed {stop : Nat} {rest : List Char} (h : At source stop rest)
    (hlt : rest.length < cs.length) :
    Leaves source cs (some (some stop)) (queryRest .segment rest)
  | unclosed : Leaves source cs (some none) none

theorem Leaves.cons {stop : Option (Option Nat)} {rest : Option (List Char)} (c : Char)
    (h : Leaves source cs stop rest) : Leaves source (c :: cs) stop rest := by
  cases h with
  | closed h hlt => exact .closed h (Nat.lt_succ_of_lt hlt)
  | unclosed => exact .unclosed

/-- The quotes that the scan of brackets can be in, and whether it is behind a backslash. -/
def Quoting : Option Char → Bool → Prop
  | none, escaped => escaped = false
  | some q, _ => q = '\'' ∨ q = '"'

theorem ascii_of_quoting {quote : Option Char} {escaped : Bool} (h : Quoting quote escaped) :
    ∀ q ∈ quote, q.toNat < 128 := by
  rintro q rfl
  rcases h with rfl | rfl <;> decide

/-- One character in brackets: it closes them, or the scan stays in brackets.  Behind a backslash
the scan is one byte further than the lexer. -/
inductive BracketStep (source : List Char) (pos depth : Nat) (quote : Option Char) (escaped : Bool)
    (c : Char) : Prop where
  | close (hstep : (QueryState.bracket (depth + 1) quote escaped).step? c = some .segment)
    (hscan : bracketEnd source (depth + 1) quote (pos + escaped.toNat) =
      some (some (pos + c.utf8Size)))
  | stay (depth' : Nat) (quote' : Option Char) (escaped' : Bool)
    (hstep : (QueryState.bracket (depth + 1) quote escaped).step? c =
      some (.bracket (depth' + 1) quote' escaped'))
    (hquoting : Quoting quote' escaped')
    (hscan : bracketEnd source (depth + 1) quote (pos + escaped.toNat) =
      bracketEnd source (depth' + 1) quote' (pos + c.utf8Size + escaped'.toNat))

theorem BracketStep.wide {depth : Nat} {quote : Option Char} {escaped : Bool}
    (hquoting : Quoting quote escaped) (hc : 128 ≤ c.toNat) (h : At source pos (c :: cs)) :
    BracketStep source pos depth quote escaped c := by
  have hne : ∀ {e : Char}, e.toNat < 128 → c ≠ e := ne_of_wide hc
  have hascii := ascii_of_quoting hquoting
  have hle : escaped.toNat ≤ c.utf8Size := by
    have := c.utf8Size_pos
    cases escaped
    · exact Nat.zero_le _
    · exact this
  refine .stay depth quote false ?_ ?_ (eq_tail_of_wide (bracketEnd_wide hascii) hc h hle)
  · cases quote with
    | none =>
      rw [QueryState.step?, if_neg (by rintro (rfl | rfl) <;> exact absurd hc (by decide)),
        if_neg (hne (by decide)), if_neg (hne (by decide))]
    | some q =>
      rw [QueryState.step?, if_neg (hne (hascii q rfl)), decide_eq_false (hne (by decide)),
        ite_self]
  · cases quote with
    | none => rfl
    | some q => exact hquoting

theorem BracketStep.quoted {depth : Nat} {q : Char} {escaped : Bool}
    (hq : q = '\'' ∨ q = '"') (hc : c.toNat < 128) (h : At source pos (c :: cs)) :
    BracketStep source pos depth (some q) escaped c := by
  cases escaped with
  | true => exact .stay depth (some q) false rfl hq (by rw [utf8Size_of_ascii hc]; rfl)
  | false =>
    have hscan : bracketEnd source (depth + 1) (some q) pos =
        if c = q then bracketEnd source (depth + 1) none (pos + 1)
        else if c = '\\' then bracketEnd source (depth + 1) (some q) (pos + 2)
        else bracketEnd source (depth + 1) (some q) (pos + 1) := by
      rw [bracketEnd.eq_def, h.peek_ascii hc]
    by_cases hclose : c = q
    · refine .stay depth none false ?_ rfl ?_
      · rw [QueryState.step?, if_neg Bool.false_ne_true, if_pos hclose]
      · rw [utf8Size_of_ascii hc]
        exact hscan.trans (if_pos hclose)
    · refine .stay depth (some q) (c = '\\') ?_ hq ?_
      · rw [QueryState.step?, if_neg Bool.false_ne_true, if_neg hclose]
      · rw [utf8Size_of_ascii hc]
        refine hscan.trans ((if_neg hclose).trans ?_)
        by_cases hback : c = '\\'
        · rw [if_pos hback, decide_eq_true hback]; rfl
        · rw [if_neg hback, decide_eq_false hback]; rfl

theorem BracketStep.closing {depth : Nat} (h : At source pos (']' :: cs)) :
    BracketStep source pos depth none false ']' := by
  have hpeek : peek source pos = some ']' := h.peek_ascii (by decide)
  cases depth with
  | zero =>
    refine .close rfl ?_
    rw [bracketEnd.eq_def, Bool.toNat_false, Nat.add_zero, hpeek]
    rfl
  | succ depth =>
    refine .stay depth none false rfl rfl ?_
    rw [bracketEnd.eq_def, Bool.toNat_false, Nat.add_zero, hpeek]
    rfl

theorem BracketStep.plain {depth : Nat} (hc : c.toNat < 128) (h : At source pos (c :: cs)) :
    BracketStep source pos depth none false c := by
  by_cases hclose : c = ']'
  · subst hclose
    exact .closing h
  -- the scan over bytes and the step over characters make the same choice
  have hscan : bracketEnd source (depth + 1) none pos =
      if c = '\'' ∨ c = '"' then bracketEnd source (depth + 1) (some c) (pos + 1)
      else if c = '[' then bracketEnd source (depth + 2) none (pos + 1)
      else bracketEnd source (depth + 1) none (pos + 1) := by
    rw [bracketEnd.eq_def, h.peek_ascii hc]
    dsimp only
    rw [if_neg hclose]
  have hstep : (QueryState.bracket (depth + 1) none false).step? c =
      if c = '\'' ∨ c = '"' then some (.bracket (depth + 1) (some c) false)
      else if c = '[' then some (.bracket (depth + 2) none false)
      else some (.bracket (depth + 1) none false) := by
    rw [QueryState.step?, if_neg hclose]
  have hsize := utf8Size_of_ascii hc
  by_cases hquote : c = '\'' ∨ c = '"'
  · refine .stay depth (some c) false (hstep.trans (if_pos hquote)) hquote ?_
    rw [hsize]
    exact hscan.trans (if_pos hquote)
  rw [if_neg hquote] at hscan hstep
  by_cases hopen : c = '['
  · refine .stay (depth + 1) none false (hstep.trans (if_pos hopen)) rfl ?_
    rw [hsize]
    exact hscan.trans (if_pos hopen)
  · refine .stay depth none false (hstep.trans (if_neg hopen)) rfl ?_
    rw [hsize]
    exact hscan.trans (if_neg hopen)

theorem bracketStep {depth : Nat} {quote : Option Char} {escaped : Bool}
    (hquoting : Quoting quote escaped) (h : At source pos (c :: cs)) :
    BracketStep source pos depth quote escaped c := by
  rcases Nat.lt_or_ge c.toNat 128 with hc | hc
  · cases quote with
    | some q => exact .quoted hquoting hc h
    | none =>
      cases hquoting
      exact .plain hc h
  · exact .wide hquoting hc h

theorem bracketEnd_leaves {depth : Nat} {quote : Option Char} {escaped : Bool}
    (hquoting : Quoting quote escaped) (h : At source pos cs) :
    Leaves source cs (bracketEnd source (depth + 1) quote (pos + escaped.toNat))
      (queryRest (.bracket (depth + 1) quote escaped) cs) := by
  induction cs generalizing pos depth quote escaped with
  | nil =>
    rw [bracketEnd.eq_def, h.peek_end (Nat.le_add_right _ _)]
    exact .unclosed
  | cons c cs ih =>
    cases (bracketStep hquoting h : BracketStep source pos depth quote escaped c) with
    | close hstep hscan =>
      rw [hscan, queryRest_of_step hstep]
      exact .closed h.tail (Nat.lt_succ_self _)
    | stay depth' quote' escaped' hstep hquoting' hscan =>
      rw [hscan, queryRest_of_step hstep]
      exact (ih hquoting' h.tail).cons c

theorem queryRest_congr {state state' : QueryState} (h : state.step? c = state'.step? c) :
    queryRest state (c :: cs) = queryRest state' (c :: cs) := by
  simp only [queryRest, queryPart, h]

/-- A name in a query ends where the next segment starts. -/
theorem queryRest_name (cs : List Char) :
    queryRest .name cs = queryRest .segment (cs.dropWhile inIdent) := by
  induction cs with
  | nil => rfl
  | cons c cs ih =>
    by_cases hc : inIdent c = true
    · have hstep : QueryState.name.step? c = some .name := if_pos hc
      rw [List.dropWhile_cons_of_pos hc, queryRest_of_step hstep, ih]
    · rw [List.dropWhile_cons_of_neg hc]
      exact queryRest_congr (if_neg hc)

/-- What the lexer leaves when a segment stands behind its dots. -/
def segmentRest (cs : List Char) : Option (List Char) :=
  if cs.head? = some '*' then queryRest .segment cs.tail else queryRest .name cs

theorem queryRest_dots (cs : List Char) : queryRest .dots cs = segmentRest cs := by
  cases cs with
  | nil => rfl
  | cons c cs =>
    by_cases hc : c = '*'
    · subst hc
      exact queryRest_of_step rfl
    · have hhead : (c :: cs).head? ≠ some '*' := fun h => hc (Option.some.inj h)
      rw [segmentRest, if_neg hhead]
      exact queryRest_congr (if_neg hc)

/-- What stands behind a second dot, if there is one. -/
def behindDot (cs : List Char) : List Char := if cs.head? = some '.' then cs.tail else cs

theorem length_behindDot_le (cs : List Char) : (behindDot cs).length ≤ cs.length := by
  rw [behindDot]
  split
  · rw [List.length_tail]
    exact Nat.sub_le _ _
  · exact Nat.le_refl _

theorem queryRest_dot (cs : List Char) : queryRest .dot cs = segmentRest (behindDot cs) := by
  cases cs with
  | nil => rfl
  | cons c cs =>
    by_cases hc : c = '.'
    · subst hc
      exact (queryRest_of_step rfl).trans (queryRest_dots cs)
    · have hhead : (c :: cs).head? ≠ some '.' := fun h => hc (Option.some.inj h)
      rw [behindDot, if_neg hhead, ← queryRest_dots]
      exact queryRest_congr (if_neg hc)

theorem peek_eq_some_iff {d : Char} (hd : d.toNat < 128) (h : At source pos cs) :
    peek source pos = some d ↔ cs.head? = some d := by
  have hf : ∀ c : Char, 128 ≤ c.toNat → decide (some c = some d) = false := fun c hc =>
    decide_eq_false fun h => ne_of_wide hc hd (Option.some.inj h)
  exact decide_eq_decide.1 (At.peek_head? (f := fun o => decide (o = some d)) hf h)

theorem at_afterDots (h : At source pos ('.' :: cs)) :
    At source (afterDots source pos) (behindDot cs) := by
  have htail : At source (pos + 1) cs := h.tail_ascii (by decide)
  rw [afterDots, behindDot]
  by_cases hdots : cs.head? = some '.'
  · rw [if_pos hdots, if_pos ((peek_eq_some_iff (by decide) htail).2 hdots)]
    obtain ⟨rest, rfl⟩ := List.head?_eq_some_iff.1 hdots
    exact htail.tail_ascii (by decide)
  · rw [if_neg hdots, if_neg (mt (peek_eq_some_iff (by decide) htail).1 hdots)]
    exact htail

/-- The scan of a segment behind its dots. -/
def segmentEnd (source : List Char) (pos : Nat) : Option (Option Nat) :=
  if peek source pos = some '*' then queryEnd source (pos + 1)
  else match name source pos with
    | some _ => queryEnd source (nameEnd source pos)
    | none => none

theorem queryEnd_dot (h : At source pos ('.' :: cs)) :
    queryEnd source pos = segmentEnd source (afterDots source pos) := by
  rw [queryEnd.eq_def, h.peek_ascii (by decide)]
  rfl

/-- The scan of a segment and of those behind it reaches what the lexer leaves, if it does so behind
each text that is no longer. -/
theorem segmentEnd_endsAt (h : At source pos cs)
    (ih : ∀ {pos rest}, rest.length ≤ cs.length → At source pos rest →
      EndsAt source (queryEnd source pos) (queryRest .segment rest)) :
    EndsAt source (segmentEnd source pos) (segmentRest cs) := by
  rw [segmentEnd, segmentRest]
  by_cases hstar : cs.head? = some '*'
  · rw [if_pos hstar, if_pos ((peek_eq_some_iff (by decide) h).2 hstar)]
    obtain ⟨rest, rfl⟩ := List.head?_eq_some_iff.1 hstar
    exact ih (Nat.le_succ _) (h.tail_ascii (by decide))
  · rw [if_neg hstar, if_neg (mt (peek_eq_some_iff (by decide) h).1 hstar), queryRest_name,
      name_eq h]
    exact ih (List.dropWhile_sublist _).length_le (at_nameEnd h)

theorem queryEnd_bracket (h : At source pos ('[' :: cs)) :
    queryEnd source pos = match bracketEnd source 1 none (pos + 1) with
      | some (some stop) => if pos < stop then queryEnd source stop else none
      | some none => some none
      | none => none := by
  have hopen : bracketEnd source 0 none pos = bracketEnd source 1 none (pos + 1) := by
    rw [bracketEnd.eq_def, h.peek_ascii (by decide)]
    rfl
  rw [queryEnd.eq_def, h.peek_ascii (by decide), ← hopen]
  rfl

theorem queryEnd_stop {d : Char} (hpeek : peek source pos = some d) (hdot : d ≠ '.')
    (hbracket : d ≠ '[') : queryEnd source pos = some (some pos) := by
  rw [queryEnd.eq_def, hpeek]
  dsimp only
  rw [if_neg hdot, if_neg hbracket]

theorem queryEnd_endsAt (h : At source pos cs) :
    EndsAt source (queryEnd source pos) (queryRest .segment cs) := by
  -- a segment may take any number of characters, so the induction is on how many are left
  induction hn : cs.length using Nat.strongRecOn generalizing cs pos with
  | ind n ih =>
    have shorter : ∀ {pos rest}, rest.length < n → At source pos rest →
        EndsAt source (queryEnd source pos) (queryRest .segment rest) :=
      fun hlt hrest => ih _ hlt hrest rfl
    cases cs with
    | nil =>
      rw [queryEnd.eq_def, h.peek_end (Nat.le_refl pos)]
      exact .closed h
    | cons c cs =>
      rw [List.length_cons] at hn
      by_cases hdot : c = '.'
      · subst hdot
        have hstep : QueryState.segment.step? '.' = some .dot := rfl
        have hle := length_behindDot_le cs
        rw [queryEnd_dot h, queryRest_of_step hstep, queryRest_dot]
        exact segmentEnd_endsAt (at_afterDots h) fun hrest => shorter (by omega)
      by_cases hbracket : c = '['
      · subst hbracket
        have htail : At source (pos + 1) cs := h.tail_ascii (by decide)
        have hstep : QueryState.segment.step? '[' = some (.bracket 1 none false) := rfl
        have hquoting : Quoting none false := rfl
        have hleaves : Leaves source cs (bracketEnd source 1 none (pos + 1))
            (queryRest (.bracket 1 none false) cs) := bracketEnd_leaves hquoting htail
        rw [queryEnd_bracket h, queryRest_of_step hstep]
        generalize bracketEnd source 1 none (pos + 1) = stop,
          queryRest (.bracket 1 none false) cs = rest at hleaves ⊢
        cases hleaves with
        | closed hstop hlt =>
          dsimp only
          rw [if_pos (h.lt_of_length_lt hstop (Nat.lt_succ_of_lt hlt))]
          exact shorter (by omega) hstop
        | unclosed => exact .unclosed
      · have hstep : QueryState.segment.step? c = none := by
          show QueryState.open? c = none
          rw [QueryState.open?, if_neg hdot, if_neg hbracket]
        rw [queryRest_of_stop hstep]
        -- the first byte of a character outside ASCII is neither a dot nor a bracket
        rcases Nat.lt_or_ge c.toNat 128 with hc | hc
        · rw [queryEnd_stop (h.peek_ascii hc) hdot hbracket]
          exact .closed h
        · obtain ⟨d, hpeek, hd⟩ := h.peek_wide_head hc
          rw [queryEnd_stop hpeek (ne_of_wide hd (by decide)) (ne_of_wide hd (by decide))]
          exact .closed h

end Sluice.Token.Scan
