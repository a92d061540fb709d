import Sluice.Expr.Parser

/-!
# What the parser's functions come to

The `outcome` of a function is what it has read and left, or why and where it refuses, whatever the
bound of its type.  There is one equation for each function.  They show the functions as one part
after another, and that each of them looks at nothing but the next token before it goes on.
-/

namespace Sluice.Expr

variable {α β : Type} {m n : Nat}

/-- What has been read and what is left of the tokens, or why and where they are refused. -/
abbrev Outcome (α : Type) := Except Refusal (α × List Located)

def outcome (r : Reading α n) : Outcome α := r.map fun p => (p.value, p.rest)

/-- One part and then another one. -/
def Outcome.andThen (r : Outcome α) (f : α → List Located → Outcome β) : Outcome β :=
  match r with
  | .ok (a, rest) => f a rest
  | .error refusal => .error refusal

/-- How many tokens are left, or were left where the flaw showed. -/
def Outcome.left : Outcome α → Nat
  | .ok (_, rest) => rest.length
  | .error refusal => refusal.left

@[simp] theorem ok_andThen (a : α) (X : List Located) (f : α → List Located → Outcome β) :
    Outcome.andThen (.ok (a, X)) f = f a X := rfl

theorem andThen_assoc {γ : Type} (r : Outcome α) (f : α → List Located → Outcome β)
    (g : β → List Located → Outcome γ) :
    (r.andThen f).andThen g = r.andThen fun a Y => (f a Y).andThen g := by
  cases r <;> rfl

theorem andThen_eq_ok_iff {r : Outcome α} {f : α → List Located → Outcome β} {b : β}
    {X : List Located} :
    r.andThen f = .ok (b, X) ↔ ∃ a Y, r = .ok (a, Y) ∧ f a Y = .ok (b, X) := by
  cases r with
  | error e => exact iff_of_false (by rintro ⟨⟩) (by rintro ⟨_, _, ⟨⟩, _⟩)
  | ok p => exact ⟨fun h => ⟨p.1, p.2, rfl, h⟩, fun ⟨_, _, heq, h⟩ => by cases heq; exact h⟩

theorem outcome_bind (r : Reading α m) {x : Reading β n} {f : α → List Located → Outcome β}
    (he : ∀ e, r = .error e → x = .error e)
    (hok : ∀ p, r = .ok p → outcome x = f p.value p.rest) : outcome x = (outcome r).andThen f := by
  cases h : r with
  | error e =>
    rw [he e h]
    rfl
  | ok p => exact hok p h

theorem outcome_within {r : Reading α m} {f : α → β} {h : m ≤ n} :
    outcome (r.map (·.within h f)) = (outcome r).andThen fun a X => .ok (f a, X) := by
  cases r <;> rfl

theorem outcome_within_id {r : Reading α m} {h : m ≤ n} :
    outcome (r.map (·.within h id)) = outcome r := by
  cases r <;> rfl

/-! ## Tokens -/

theorem exists_cons_of_next {ts : List Located} {t : Token} (h : next ts = t) (ht : t ≠ .eof) :
    ∃ o rest, ts = ⟨t, o⟩ :: rest := by
  cases ts with
  | nil => exact absurd h.symm ht
  | cons first rest => exact ⟨first.offset, rest, by rw [← h]; rfl⟩

/-- The flaw of a token that does not fit. -/
def misfit : Token → SyntaxFlaw
  | .eof => .unexpectedEnd
  | t => .unexpected t

theorem unexpected_eq (ts : List Located) :
    (unexpected ts : Except Refusal α) = .error ⟨misfit (next ts), ts.length⟩ := by
  unfold unexpected
  cases next ts <;> rfl

theorem outcome_expect {wanted : Token} (hw : wanted ≠ .eof) (ts : List Located) :
    outcome (expect wanted ts) =
      if next ts = wanted then .ok ((), ts.tail)
      else .error ⟨.expected wanted (next ts), ts.length⟩ := by
  cases ts with
  | nil =>
    rw [if_neg (fun h => hw h.symm)]
    rfl
  | cons t rest =>
    by_cases h : t.token = wanted
    · simp [expect, next, h, outcome, Except.map]
    · simp [expect, next, h, outcome, Except.map]

def memberName (ts : List Located) : Outcome String :=
  match next ts with
  | .ident name => .ok (name, ts.tail)
  | t => .error ⟨misfit t, ts.length⟩

theorem memberName_eq_ok_iff {name : String} {ts X : List Located} :
    memberName ts = .ok (name, X) ↔ ∃ o, ts = ⟨.ident name, o⟩ :: X := by
  unfold memberName
  constructor
  · intro h
    split at h
    · next found hnext =>
      obtain ⟨o, rest, rfl⟩ := exists_cons_of_next hnext (by simp)
      cases h
      exact ⟨o, rfl⟩
    · cases h
  · rintro ⟨o, rfl⟩
    rfl

def fieldKey (ts : List Located) : Outcome String :=
  match next ts with
  | .str name => .ok (name, ts.tail)
  | .ident name => .ok (name, ts.tail)
  | t => .error ⟨misfit t, ts.length⟩

theorem fieldKey_eq_ok_iff {name : String} {ts X : List Located} :
    fieldKey ts = .ok (name, X) ↔
      ∃ key o, ts = ⟨key, o⟩ :: X ∧ (key = .str name ∨ key = .ident name) := by
  unfold fieldKey
  constructor
  · intro h
    split at h
    · next found hnext =>
      obtain ⟨o, rest, rfl⟩ := exists_cons_of_next hnext (by simp)
      cases h
      exact ⟨_, o, rfl, .inl rfl⟩
    · next found hnext =>
      obtain ⟨o, rest, rfl⟩ := exists_cons_of_next hnext (by simp)
      cases h
      exact ⟨_, o, rfl, .inr rfl⟩
    · cases h
  · rintro ⟨_, o, rfl, rfl | rfl⟩ <;> rfl

/-! ## Expressions -/

theorem outcome_expression (p : Nat) (ts : List Located) :
    outcome (expression p ts) =
      (outcome (operand ts)).andThen fun a Y => outcome (climb p a Y) := by
  rw [expression]
  refine outcome_bind (operand ts) (fun e he => by rw [he]) fun first hfirst => ?_
  simp only [hfirst]
  exact outcome_within_id

/-- What is read behind a token that goes on, and the tree with it. -/
def goOn (k : Continuation) (a : Expr) (ts : List Located) : Outcome Expr :=
  match k with
  | .field => (memberName ts).andThen fun name X => .ok (.field a name, X)
  | .index =>
    (outcome (expression 0 ts)).andThen fun key Y =>
      (outcome (expect .rightBracket Y)).andThen fun _ X => .ok (.index a key, X)
  | .pipe => (outcome (expression 1 ts)).andThen fun right X => .ok (.pipe a right, X)
  | .ternary =>
    (outcome (expression 0 ts)).andThen fun yes Y =>
      (outcome (expect .colon Y)).andThen fun _ Z =>
        (outcome (expression 2 Z)).andThen fun no X => .ok (.ternary a yes no, X)
  | .binary op right =>
    (outcome (expression right ts)).andThen fun b X => .ok (.binary op a b, X)

/-- What `climb` does behind a token that it takes. -/
theorem outcome_goOn (p : Nat) (k : Continuation) (a : Expr) (t : Located) (rest : List Located)
    {strength : Nat} (hk : continuation? t.token = some (k, strength)) (hp : ¬ strength < p) :
    outcome (climb p a (t :: rest)) = (goOn k a rest).andThen fun b Y => outcome (climb p b Y) := by
  rw [climb.eq_def]
  simp only [hk, if_neg hp]
  -- the loop goes on behind all parts, so they are split off in front of it one by one
  cases k with
  | field =>
    dsimp only
    split
    · exact outcome_within_id
    · next hname =>
      have hmember : memberName rest = .error ⟨misfit (next rest), rest.length⟩ := by
        cases rest with
        | nil => rfl
        | cons t rest =>
          obtain ⟨token, o⟩ := t
          cases token with
          | ident name => exact absurd rfl (hname name o rest)
          | _ => rfl
      rw [unexpected_eq, goOn, hmember]
      rfl
  | index =>
    rw [goOn, andThen_assoc]
    refine outcome_bind (expression 0 rest) (fun e he => by rw [he]) fun key hkey => ?_
    simp only [hkey]
    rw [andThen_assoc]
    refine outcome_bind (expect .rightBracket key.rest) (fun e he => by rw [he]) fun u hu => ?_
    simp only [hu]
    exact outcome_within_id
  | pipe =>
    rw [goOn, andThen_assoc]
    refine outcome_bind (expression 1 rest) (fun e he => by rw [he]) fun right hright => ?_
    simp only [hright]
    exact outcome_within_id
  | ternary =>
    rw [goOn, andThen_assoc]
    refine outcome_bind (expression 0 rest) (fun e he => by rw [he]) fun yes hyes => ?_
    simp only [hyes]
    rw [andThen_assoc]
    refine outcome_bind (expect .colon yes.rest) (fun e he => by rw [he]) fun colon hcolon => ?_
    simp only [hcolon]
    rw [andThen_assoc]
    refine outcome_bind (expression 2 colon.rest) (fun e he => by rw [he]) fun no hno => ?_
    simp only [hno]
    exact outcome_within_id
  | binary op right =>
    rw [goOn, andThen_assoc]
    refine outcome_bind (expression right rest) (fun e he => by dsimp only; rw [he]) fun b hb => ?_
    simp only [hb]
    exact outcome_within_id

theorem outcome_climb (p : Nat) (a : Expr) (ts : List Located) :
    outcome (climb p a ts) =
      match continuation? (next ts) with
      | none => .ok (a, ts)
      | some (k, strength) =>
        if strength < p then .ok (a, ts)
        else (goOn k a ts.tail).andThen fun b Y => outcome (climb p b Y) := by
  cases ts with
  | nil =>
    rw [climb]
    rfl
  | cons t rest =>
    dsimp only [next, List.tail_cons]
    cases hk : continuation? t.token with
    | none =>
      rw [climb.eq_def]
      simp only [hk]
      rfl
    | some found =>
      obtain ⟨k, strength⟩ := found
      by_cases h : strength < p
      · rw [climb.eq_def]
        simp only [hk, if_pos h]
        rfl
      · simp only [if_neg h]
        exact outcome_goOn p k a t rest hk h

/-! ## Lists and maps -/

theorem outcome_arguments {close : Token} (hclose : close ≠ .eof) (ts : List Located) :
    outcome (arguments close ts) =
      if next ts = close then .ok ([], ts.tail) else outcome (items close ts) := by
  cases ts with
  | nil =>
    rw [arguments, if_neg (fun h => hclose h.symm)]
  | cons t rest =>
    rw [arguments]
    by_cases h : t.token = close
    · rw [if_pos h, if_pos (show next (t :: rest) = close from h)]
      rfl
    · rw [if_neg h, if_neg (show ¬ next (t :: rest) = close from h)]

/-- What stands behind an item: a comma and more items, or the end. -/
def orMore (more : List Located → Outcome (List α)) (close : Token) (a : α) (ts : List Located) :
    Outcome (List α) :=
  if next ts = .comma then (more ts.tail).andThen fun as X => .ok (a :: as, X)
  else (outcome (expect close ts)).andThen fun _ X => .ok ([a], X)

theorem outcome_items (close : Token) (ts : List Located) :
    outcome (items close ts) = (outcome (expression 0 ts)).andThen
      fun e Y => orMore (fun Z => outcome (items close Z)) close e Y := by
  rw [items]
  refine outcome_bind (expression 0 ts) (fun e he => by rw [he]) fun first hfirst => ?_
  simp only [hfirst]
  obtain ⟨e, Y, hY⟩ := first
  dsimp only
  split
  · exact outcome_within
  · next hcomma =>
    have hne : next Y ≠ .comma := by
      intro h
      obtain ⟨o, Z, rfl⟩ := exists_cons_of_next h (by decide)
      exact hcomma o Z rfl
    rw [orMore, if_neg hne]
    exact outcome_within

theorem outcome_entry (key : String) (ts : List Located) :
    outcome (entry key ts) = (outcome (expect .colon ts)).andThen fun _ Y =>
      (outcome (expression 0 Y)).andThen fun e Z =>
        orMore (fun W => outcome (entries W)) .rightBrace (key, e) Z := by
  rw [entry]
  refine outcome_bind (expect .colon ts) (fun e he => by rw [he]) fun colon hcolon => ?_
  simp only [hcolon]
  refine outcome_bind (expression 0 colon.rest) (fun e he => by rw [he]) fun value hvalue => ?_
  simp only [hvalue]
  obtain ⟨e, Y, hY⟩ := value
  dsimp only
  split
  · exact outcome_within
  · next hcomma =>
    have hne : next Y ≠ .comma := by
      intro h
      obtain ⟨o, Z, rfl⟩ := exists_cons_of_next h (by decide)
      exact hcomma o Z rfl
    rw [orMore, if_neg hne]
    exact outcome_within

theorem outcome_entries (ts : List Located) :
    outcome (entries ts) = (fieldKey ts).andThen fun key Y => outcome (entry key Y) := by
  cases ts with
  | nil =>
    rw [entries.eq_def]
    rfl
  | cons t rest =>
    obtain ⟨token, o⟩ := t
    rw [entries.eq_def]
    cases token <;> rfl

/-! ## Operands -/

/-- What is read as an operand from a token on. -/
def startWith (t : Token) (rest : List Located) : Outcome Expr :=
  match t with
  | .number n => .ok (.literal (.number n), rest)
  | .str s => .ok (.literal (.string s), rest)
  | .query path => .ok (.query path, rest)
  | .ident name =>
    if isConstant name then .ok (named name, rest)
    else if next rest = .leftParen then
      (outcome (arguments .rightParen rest.tail)).andThen fun args X => .ok (.call name args, X)
    else .ok (.ident name, rest)
  | .not => (outcome (expression unaryPower rest)).andThen fun a X => .ok (.unary .not a, X)
  | .minus => (outcome (expression unaryPower rest)).andThen fun a X => .ok (.unary .neg a, X)
  | .leftParen =>
    (outcome (expression 0 rest)).andThen fun a Y =>
      (outcome (expect .rightParen Y)).andThen fun _ X => .ok (a, X)
  | .leftBracket => (outcome (arguments .rightBracket rest)).andThen fun es X => .ok (.list es, X)
  | .leftBrace =>
    if next rest = .rightBrace then .ok (.map [], rest.tail)
    else (outcome (entries rest)).andThen fun fs X => .ok (.map fs, X)
  | t => .error ⟨misfit t, rest.length + 1⟩

/-- Whether an operand can start with the token. -/
def starts : Token → Bool
  | .number _ | .str _ | .query _ | .ident _ | .not | .minus | .leftParen | .leftBracket
  | .leftBrace => true
  | _ => false

theorem startWith_of_not_starts {t : Token} (ht : starts t = false) (rest : List Located) :
    startWith t rest = .error ⟨misfit t, rest.length + 1⟩ := by
  cases t <;> first | rfl | cases ht

theorem outcome_operand_nil : outcome (operand []) = .error ⟨.unexpectedEnd, 0⟩ := by
  rw [operand.eq_def]
  rfl

theorem outcome_operand (t : Located) (rest : List Located) :
    outcome (operand (t :: rest)) = startWith t.token rest := by
  obtain ⟨token, o⟩ := t
  cases token with
  | ident name =>
    -- a constant is never called, whatever follows it
    by_cases hc : isConstant name = true
    · rw [operand.eq_def]
      simp only [startWith, if_pos hc]
      rfl
    · by_cases hn : next rest = .leftParen
      · rw [startWith, if_neg hc, if_pos hn]
        obtain ⟨o', Y, rfl⟩ := exists_cons_of_next hn (by decide)
        rw [operand, if_neg hc]
        exact outcome_within
      · rw [startWith, if_neg hc, if_neg hn, operand, if_neg hc]
        · rfl
        · rintro o' Y rfl
          exact hn rfl
  | leftParen =>
    rw [operand]
    refine outcome_bind (expression 0 rest) (fun e he => by rw [he]) fun inner hinner => ?_
    simp only [hinner]
    exact outcome_within
  | leftBrace =>
    by_cases hn : next rest = .rightBrace
    · rw [startWith, if_pos hn]
      obtain ⟨o', Y, rfl⟩ := exists_cons_of_next hn (by decide)
      rw [operand]
      rfl
    · rw [startWith, if_neg hn, operand]
      · exact outcome_within
      · rintro o' Y rfl
        exact hn rfl
  | not | minus | leftBracket =>
    rw [operand]
    exact outcome_within
  | _ =>
    rw [operand.eq_def]
    rfl

end Sluice.Expr
