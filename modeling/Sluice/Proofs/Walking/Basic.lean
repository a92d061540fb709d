import Sluice.Proofs.Grammar.Outcomes

/-!
# The parser with one position

The parser that moves one position over a fixed list of tokens.  It looks at the token there and
takes it, but the last token stays however often it is taken, and a token that does not fit is put
back before it is refused.  Nothing in it stops by itself: its functions call each other, and its
loops take one turn after the other.  So a walk has a limit on how deep its calls go within one
another and on how many turns each of its loops takes, and tells when it is cut off by one of them.

* `Calls` : the five functions, as one of them sees the others;
* `deeper`, `calls` : the functions one level further out, and those that may go a given depth;
* `parse` : the walk over all tokens.
-/

namespace Sluice.Expr

/-- Why a walk ends without a result.  It goes astray if a token that was held for an access turns
out to be none. -/
inductive Walk.Stop where
  | refused (error : SyntaxError)
  | astray (error : SyntaxError)
  | tooDeep
  | endless

/-- Moves the position and reads something on the way. -/
abbrev Walk (α : Type) := StateT Nat (Except Walk.Stop) α

namespace Walk

/-- The limits are what ends the walk. -/
def Stop.IsCutOff (stop : Stop) : Prop := stop = .tooDeep ∨ stop = .endless

section

variable (ts : List Located)

/-! ## Tokens -/

/-- The token at a position, or the last one if the position is behind it. -/
def peek (pos : Nat) : Token := (ts[min pos (ts.length - 1)]?.map (·.token)).getD .eof

/-- Where the token at a position stands in the text. -/
def offset (pos : Nat) : Nat := (ts[min pos (ts.length - 1)]?.map (·.offset)).getD 0

/-- Takes the next token.  The last one stays. -/
def advance : Walk Token := do
  let pos ← get
  if pos < ts.length - 1 then set (pos + 1)
  return peek ts pos

def skip : Walk Unit := do
  let _ ← advance ts

/-- Refuses the tokens at the position. -/
def refuse {α : Type} (flaw : SyntaxFlaw) : Walk α := do
  throw (.refused ⟨offset ts (← get), flaw⟩)

/-- Puts a token back that does not fit, and refuses it. -/
def putBack {α : Type} (t : Token) : Walk α := do
  modify (· - 1)
  refuse ts (misfit t)

def expect (wanted : Token) : Walk Unit := do
  let found := peek ts (← get)
  if found = wanted then skip ts else refuse ts (.expected wanted found)

def name : Walk String := do
  match ← advance ts with
  | .ident name => return name
  | t => putBack ts t

def key : Walk String := do
  match ← advance ts with
  | .str key => return key
  | .ident key => return key
  | t => putBack ts t

/-! ## Loops -/

/-- Takes turns, at most so many, until one of them gives a result. -/
def loop {σ α : Type} (turn : σ → Walk (σ ⊕ α)) : Nat → σ → Walk α
  | 0, _ => throw .endless
  | turns + 1, state => do
    match ← turn state with
    | .inl state => loop turn turns state
    | .inr a => return a

/-- Reads one more item, and goes on behind a comma. -/
def itemTurn {α : Type} (item : Walk α) (close : Token) (items : List α) :
    Walk (List α ⊕ List α) := do
  let items := items ++ [← item]
  if peek ts (← get) = .comma then
    skip ts
    return .inl items
  else
    expect ts close
    return .inr items

/-- Reads items with commas between them, up to a closing token; maybe none. -/
def enclosed {α : Type} (turns : Nat) (item : Walk α) (close : Token) : Walk (List α) := do
  if peek ts (← get) = close then
    skip ts
    return []
  else loop (itemTurn ts item close) turns []

/-! ## The functions -/

/-- The functions that call each other. -/
structure Calls where
  expression (power : Nat) : Walk Expr
  operand : Walk Expr
  access (left : Expr) : Walk Expr
  list (close : Token) : Walk (List Expr)
  map : Walk Expr

variable (turns : Nat) (inner : Calls)

/-- Reads on behind an operand.  The token of an access is left to the access. -/
def goOn (k : Continuation) (left : Expr) : Walk Expr := do
  match k with
  | .field => inner.access left
  | .index => inner.access left
  | .pipe =>
    skip ts
    return .pipe left (← inner.expression 1)
  | .ternary =>
    skip ts
    let yes ← inner.expression 0
    expect ts .colon
    return .ternary left yes (← inner.expression 2)
  | .binary op right =>
    skip ts
    return .binary op left (← inner.expression right)

/-- Reads on if the next token binds at least as strongly as asked. -/
def climbTurn (power : Nat) (left : Expr) : Walk (Expr ⊕ Expr) := do
  match continuation? (peek ts (← get)) with
  | none => return .inr left
  | some (k, strength) =>
    if strength < power then return .inr left else return .inl (← goOn ts inner k left)

/-- An expression whose operators bind with at least the given power. -/
def expression (power : Nat) : Walk Expr := do
  loop (climbTurn ts inner power) turns (← inner.operand)

/-- What starts with a token that has been taken. -/
def operandFrom (t : Token) : Walk Expr := do
  match t with
  | .number n => return .literal (.number n)
  | .str s => return .literal (.string s)
  | .query path => return .query path
  | .ident name =>
    if isConstant name then return named name
    else if peek ts (← get) = .leftParen then
      skip ts
      return .call name (← inner.list .rightParen)
    else return .ident name
  | .not => return .unary .not (← inner.expression unaryPower)
  | .minus => return .unary .neg (← inner.expression unaryPower)
  | .leftParen =>
    let e ← inner.expression 0
    expect ts .rightParen
    return e
  | .leftBracket => return .list (← inner.list .rightBracket)
  | .leftBrace => inner.map
  | t => putBack ts t

/-- What stands before the first operator. -/
def operand : Walk Expr := do operandFrom ts inner (← advance ts)

/-- A field or an entry of what stands before it. -/
def access (left : Expr) : Walk Expr := do
  match ← advance ts with
  | .dot => return .field left (← name ts)
  | .leftBracket =>
    let key ← inner.expression 0
    expect ts .rightBracket
    return .index left key
  | t => throw (.astray ⟨offset ts (← get), misfit t⟩)

def entry : Walk (String × Expr) := do
  let key ← key ts
  expect ts .colon
  return (key, ← inner.expression 0)

/-- The functions whose calls are the given ones. -/
def deeper : Calls where
  expression := expression ts turns inner
  operand := operand ts inner
  access := access ts inner
  list := enclosed ts turns (inner.expression 0)
  map := .map <$> enclosed ts turns (entry ts inner) .rightBrace

/-- The functions whose calls go at most so deep within one another. -/
def calls : Nat → Calls
  | 0 => {
    expression := fun _ => throw .tooDeep
    operand := throw .tooDeep
    access := fun _ => throw .tooDeep
    list := fun _ => throw .tooDeep
    map := throw .tooDeep }
  | depth + 1 => deeper ts turns (calls depth)

/-- The tree of all tokens. -/
def whole : Walk Expr := do
  let tree ← inner.expression 0
  let t := peek ts (← get)
  if t = .eof then return tree else refuse ts (misfit t)

def parse (depth : Nat) : Except Stop Expr :=
  ((whole ts (calls ts turns depth)).run 0).map (·.1)

end

/-! ## What a walk finds at a position -/

/-- The tokens end with the only `eof` among them. -/
def Ended (ts : List Located) : Prop :=
  ∃ us o, ts = us ++ [⟨.eof, o⟩] ∧ ∀ t ∈ us, t.token ≠ .eof

section

variable {ts : List Located} {pos : Nat}

theorem peek_eq_of_getElem? {t : Located} (h : ts[min pos (ts.length - 1)]? = some t) :
    peek ts pos = t.token := by
  rw [peek, h]
  rfl

theorem Ended.length_pos (h : Ended ts) : 0 < ts.length := by
  obtain ⟨us, o, rfl, -⟩ := h
  simp

/-- Only the last token is the end. -/
theorem Ended.peek_eq_eof_iff (h : Ended ts) : peek ts pos = .eof ↔ ts.length ≤ pos + 1 := by
  obtain ⟨us, o, rfl, hus⟩ := h
  have hlen : (us ++ [(⟨.eof, o⟩ : Located)]).length - 1 = us.length := by simp
  rw [List.length_append, List.length_singleton, Nat.add_le_add_iff_right]
  rcases Nat.lt_or_ge pos us.length with hlt | hge
  · have hget : (us ++ [(⟨.eof, o⟩ : Located)])[min pos us.length]? = some us[pos] := by
      rw [Nat.min_eq_left (Nat.le_of_lt hlt), List.getElem?_append_left hlt,
        List.getElem?_eq_getElem hlt]
    rw [peek_eq_of_getElem? (hlen ▸ hget)]
    exact iff_of_false (hus _ (List.getElem_mem hlt)) (Nat.not_le_of_lt hlt)
  · have hget : (us ++ [(⟨.eof, o⟩ : Located)])[min pos us.length]? = some ⟨.eof, o⟩ := by
      rw [Nat.min_eq_right hge]
      simp
    rw [peek_eq_of_getElem? (hlen ▸ hget)]
    exact iff_of_true rfl hge

theorem Ended.succ_lt (h : Ended ts) (hne : peek ts pos ≠ .eof) : pos + 1 < ts.length :=
  Nat.lt_of_not_le fun hle => hne (h.peek_eq_eof_iff.2 hle)

theorem drop_eq_peek_cons (hpos : pos < ts.length) :
    ∃ o, ts.drop pos = ⟨peek ts pos, o⟩ :: ts.drop (pos + 1) := by
  have hget : ts[min pos (ts.length - 1)]? = some ts[pos] := by
    rw [Nat.min_eq_left (Nat.le_sub_one_of_lt hpos), List.getElem?_eq_getElem hpos]
  exact ⟨ts[pos].offset, by rw [List.drop_eq_getElem_cons hpos, peek_eq_of_getElem? hget]⟩

/-- What comes next for a walk is what comes next of the tokens from its position on. -/
theorem Ended.next_drop (h : Ended ts) : next (ts.drop pos) = peek ts pos := by
  rcases Nat.lt_or_ge pos ts.length with hlt | hge
  · obtain ⟨o, hdrop⟩ := drop_eq_peek_cons hlt
    rw [hdrop]
    rfl
  · rw [h.peek_eq_eof_iff.2 (Nat.le_succ_of_le hge), List.drop_of_length_le hge]
    rfl

theorem run_get_bind {α : Type} (f : Nat → Walk α) (pos : Nat) :
    (get >>= f).run pos = (f pos).run pos := rfl

theorem run_advance (ts : List Located) (pos : Nat) : (advance ts).run pos =
    .ok (peek ts pos, if pos < ts.length - 1 then pos + 1 else pos) := by
  by_cases h : pos < ts.length - 1
  · simp [advance, h]
    rfl
  · simp [advance, h]
    rfl

theorem Ended.run_skip (h : Ended ts) (hne : peek ts pos ≠ .eof) :
    (skip ts).run pos = .ok ((), pos + 1) := by
  have hlt := h.succ_lt hne
  rw [skip, StateT.run_bind, run_advance, if_pos (by omega)]
  rfl

end

end Walk

end Sluice.Expr
