import Sluice.Proofs.Grammar.Outcomes

/-!
# What the parser's functions read

`Reads r a rest` says that a function has read `a` and has left `rest`, whatever the bound of its
type.  There is one lemma for each function, and one for each way in which `climb` goes on; most
follow from what the functions come to.
-/

namespace Sluice.Expr

variable {α β : Type} {n : Nat}

/-- A part has been read, and this is left. -/
def Reads (r : Reading α n) (a : α) (rest : List Located) : Prop := ∃ h, r = .ok ⟨a, rest, h⟩

theorem reads_ok {p : Parsed α n} {a : α} {X : List Located} :
    Reads (.ok p) a X ↔ p.value = a ∧ p.rest = X := by
  obtain ⟨v, rest, h⟩ := p
  constructor
  · rintro ⟨_, heq⟩
    cases heq
    exact ⟨rfl, rfl⟩
  · rintro ⟨rfl, rfl⟩
    exact ⟨h, rfl⟩

theorem not_reads_error {e : Refusal} {a : α} {X : List Located} :
    ¬ Reads (.error e : Reading α n) a X := by
  rintro ⟨_, heq⟩
  cases heq

theorem Reads.length_lt {r : Reading α n} {a : α} {X : List Located} (h : Reads r a X) :
    X.length < n := h.1

theorem outcome_eq_ok_iff {r : Reading α n} {a : α} {X : List Located} :
    outcome r = .ok (a, X) ↔ Reads r a X := by
  cases r with
  | error e => exact iff_of_false (by simp [outcome, Except.map]) not_reads_error
  | ok p =>
    rw [reads_ok]
    simp [outcome, Except.map]

theorem reads_expect {wanted : Token} {ts X : List Located} {u : Unit} :
    Reads (expect wanted ts) u X ↔ ∃ o, ts = ⟨wanted, o⟩ :: X := by
  cases ts with
  | nil => simp [expect, not_reads_error]
  | cons t rest =>
    obtain ⟨token, o⟩ := t
    by_cases h : token = wanted
    · simp [expect, h, reads_ok]
    · simp [expect, h, not_reads_error]

theorem map_eq_ok_iff {r : Reading α n} {f : α → β} {b : β} {X : List Located} :
    ((outcome r).andThen fun a Y => .ok (f a, Y)) = .ok (b, X) ↔ ∃ a, Reads r a X ∧ f a = b := by
  simp only [andThen_eq_ok_iff, outcome_eq_ok_iff, Except.ok.injEq, Prod.mk.injEq]
  constructor
  · rintro ⟨a, Y, h, heq, rfl⟩
    exact ⟨a, h, heq⟩
  · rintro ⟨a, h, heq⟩
    exact ⟨a, X, h, heq, rfl⟩

/-! ## Expressions -/

theorem reads_expression {p : Nat} {ts X : List Located} {e : Expr} :
    Reads (expression p ts) e X ↔
      ∃ a Y, Reads (operand ts) a Y ∧ Reads (climb p a Y) e X := by
  simp only [← outcome_eq_ok_iff, outcome_expression, andThen_eq_ok_iff]

/-- An expression that has been read took a token. -/
theorem length_lt_of_expression {p : Nat} {ts Y : List Located} {e : Expr}
    (h : outcome (expression p ts) = .ok (e, Y)) : Y.length < ts.length :=
  (outcome_eq_ok_iff.1 h).length_lt

/-! ## Climbing -/

/-- Whether no operator that binds at least as strongly as asked comes next. -/
def Stops (p : Nat) (ts : List Located) : Prop :=
  ∀ k strength, continuation? (next ts) = some (k, strength) → strength < p

theorem reads_climb_of_stops {p : Nat} {a e : Expr} {ts X : List Located} (h : Stops p ts) :
    Reads (climb p a ts) e X ↔ e = a ∧ X = ts := by
  rw [← outcome_eq_ok_iff, outcome_climb]
  split
  · simp [eq_comm]
  · next k strength hk =>
    rw [if_pos (h k strength hk)]
    simp [eq_comm]

section Climb

variable {p strength : Nat} {a e : Expr} {t : Located} {rest X : List Located}

theorem reads_climb_of_goOn {k : Continuation} (ht : continuation? t.token = some (k, strength))
    (hp : p ≤ strength) :
    Reads (climb p a (t :: rest)) e X ↔
      ((goOn k a rest).andThen fun b Y => outcome (climb p b Y)) = .ok (e, X) := by
  rw [← outcome_eq_ok_iff, outcome_goOn p k a t rest ht (Nat.not_lt.2 hp)]

theorem reads_climb_field (ht : continuation? t.token = some (.field, strength))
    (hp : p ≤ strength) :
    Reads (climb p a (t :: rest)) e X ↔
      ∃ name o Y, rest = ⟨.ident name, o⟩ :: Y ∧ Reads (climb p (.field a name) Y) e X := by
  rw [reads_climb_of_goOn ht hp, goOn, andThen_assoc, andThen_eq_ok_iff]
  simp only [ok_andThen, memberName_eq_ok_iff, outcome_eq_ok_iff]
  constructor
  · rintro ⟨name, Y, ⟨o, hrest⟩, h⟩
    exact ⟨name, o, Y, hrest, h⟩
  · rintro ⟨name, o, Y, hrest, h⟩
    exact ⟨name, Y, ⟨o, hrest⟩, h⟩

theorem reads_climb_index (ht : continuation? t.token = some (.index, strength))
    (hp : p ≤ strength) :
    Reads (climb p a (t :: rest)) e X ↔
      ∃ k Y, Reads (expression 0 rest) k Y ∧
        ∃ u Z, Reads (expect .rightBracket Y) u Z ∧ Reads (climb p (.index a k) Z) e X := by
  simp only [reads_climb_of_goOn ht hp, goOn, andThen_assoc, andThen_eq_ok_iff, ok_andThen,
    outcome_eq_ok_iff]

theorem reads_climb_pipe (ht : continuation? t.token = some (.pipe, strength)) (hp : p ≤ strength) :
    Reads (climb p a (t :: rest)) e X ↔
      ∃ right Y, Reads (expression 1 rest) right Y ∧ Reads (climb p (.pipe a right) Y) e X := by
  simp only [reads_climb_of_goOn ht hp, goOn, andThen_assoc, andThen_eq_ok_iff, ok_andThen,
    outcome_eq_ok_iff]

theorem reads_climb_ternary (ht : continuation? t.token = some (.ternary, strength))
    (hp : p ≤ strength) :
    Reads (climb p a (t :: rest)) e X ↔
      ∃ yes Y, Reads (expression 0 rest) yes Y ∧
        ∃ u Z, Reads (expect .colon Y) u Z ∧
          ∃ no W, Reads (expression 2 Z) no W ∧ Reads (climb p (.ternary a yes no) W) e X := by
  simp only [reads_climb_of_goOn ht hp, goOn, andThen_assoc, andThen_eq_ok_iff, ok_andThen,
    outcome_eq_ok_iff]

theorem reads_climb_binary {op : BinaryOp} {right : Nat}
    (ht : continuation? t.token = some (.binary op right, strength)) (hp : p ≤ strength) :
    Reads (climb p a (t :: rest)) e X ↔
      ∃ b Y, Reads (expression right rest) b Y ∧ Reads (climb p (.binary op a b) Y) e X := by
  simp only [reads_climb_of_goOn ht hp, goOn, andThen_assoc, andThen_eq_ok_iff, ok_andThen,
    outcome_eq_ok_iff]

end Climb

/-! ## Lists -/

theorem reads_arguments_close {close : Token} {o : Nat} {Y X : List Located} {es : List Expr} :
    Reads (arguments close (⟨close, o⟩ :: Y)) es X ↔ es = [] ∧ X = Y := by
  rw [arguments, if_pos rfl, reads_ok]
  exact ⟨fun h => ⟨h.1.symm, h.2.symm⟩, fun h => ⟨h.1.symm, h.2.symm⟩⟩

theorem reads_arguments_items {close : Token} {ts X : List Located} {es : List Expr}
    (h : ∀ t ∈ ts.head?, t.token ≠ close) :
    Reads (arguments close ts) es X ↔ Reads (items close ts) es X := by
  cases ts with
  | nil => rw [arguments]
  | cons t rest => rw [arguments, if_neg (h t rfl)]

theorem orMore_eq_ok_iff {more : List Located → Outcome (List α)} {close : Token} {a : α}
    {as : List α} {Y X : List Located} :
    orMore more close a Y = .ok (as, X) ↔
      (∃ o Z rest, Y = ⟨.comma, o⟩ :: Z ∧ more Z = .ok (rest, X) ∧ a :: rest = as) ∨
        (next Y ≠ .comma ∧ (∃ o, Y = ⟨close, o⟩ :: X) ∧ [a] = as) := by
  unfold orMore
  by_cases h : next Y = .comma
  · obtain ⟨o, Z, rfl⟩ := exists_cons_of_next h (by decide)
    rw [if_pos h, andThen_eq_ok_iff]
    constructor
    · rintro ⟨rest, X', hmore, heq⟩
      cases heq
      exact .inl ⟨o, Z, rest, rfl, hmore, rfl⟩
    · rintro (⟨_, _, rest, heq, hmore, rfl⟩ | ⟨hne, -⟩)
      · cases heq
        exact ⟨rest, X, hmore, rfl⟩
      · exact absurd h hne
  · rw [if_neg h, andThen_eq_ok_iff]
    constructor
    · rintro ⟨_, X', hclose, heq⟩
      cases heq
      exact .inr ⟨h, reads_expect.1 (outcome_eq_ok_iff.1 hclose), rfl⟩
    · rintro (⟨o, Z, _, rfl, -⟩ | ⟨-, hclose, rfl⟩)
      · exact absurd rfl h
      · exact ⟨(), X, outcome_eq_ok_iff.2 (reads_expect.2 hclose), rfl⟩

theorem reads_items {close : Token} {ts X : List Located} {es : List Expr} :
    Reads (items close ts) es X ↔
      ∃ e Y, Reads (expression 0 ts) e Y ∧
        ((∃ o Z rest, Y = ⟨.comma, o⟩ :: Z ∧ Reads (items close Z) rest X ∧ e :: rest = es) ∨
          (next Y ≠ .comma ∧ (∃ o, Y = ⟨close, o⟩ :: X) ∧ [e] = es)) := by
  rw [← outcome_eq_ok_iff, outcome_items, andThen_eq_ok_iff]
  simp only [orMore_eq_ok_iff, outcome_eq_ok_iff]

theorem reads_entries {ts X : List Located} {fs : List (String × Expr)} :
    Reads (entries ts) fs X ↔
      ∃ key name o Y, ts = ⟨key, o⟩ :: Y ∧ (key = .str name ∨ key = .ident name) ∧
        Reads (entry name Y) fs X := by
  rw [← outcome_eq_ok_iff, outcome_entries, andThen_eq_ok_iff]
  simp only [fieldKey_eq_ok_iff, outcome_eq_ok_iff]
  constructor
  · rintro ⟨name, Y, ⟨key, o, hts, hkey⟩, h⟩
    exact ⟨key, name, o, Y, hts, hkey, h⟩
  · rintro ⟨key, name, o, Y, hts, hkey, h⟩
    exact ⟨name, Y, ⟨key, o, hts, hkey⟩, h⟩

theorem reads_entry {key : String} {ts X : List Located} {fs : List (String × Expr)} :
    Reads (entry key ts) fs X ↔
      ∃ u Y, Reads (expect .colon ts) u Y ∧ ∃ e Z, Reads (expression 0 Y) e Z ∧
        ((∃ o W rest, Z = ⟨.comma, o⟩ :: W ∧ Reads (entries W) rest X ∧ (key, e) :: rest = fs) ∨
          (next Z ≠ .comma ∧ (∃ o, Z = ⟨.rightBrace, o⟩ :: X) ∧ [(key, e)] = fs)) := by
  rw [← outcome_eq_ok_iff, outcome_entry]
  simp only [andThen_eq_ok_iff, orMore_eq_ok_iff, outcome_eq_ok_iff]

/-! ## Operands -/

section Operand

variable {o : Nat} {rest X : List Located} {e : Expr}

theorem reads_operand {t : Located} :
    Reads (operand (t :: rest)) e X ↔ startWith t.token rest = .ok (e, X) := by
  rw [← outcome_eq_ok_iff, outcome_operand]

theorem not_reads_operand {ts : List Located} (h : starts (next ts) = false) :
    ¬ Reads (operand ts) e X := by
  rw [← outcome_eq_ok_iff]
  cases ts with
  | nil =>
    rw [outcome_operand_nil]
    rintro ⟨⟩
  | cons t rest =>
    rw [outcome_operand, startWith_of_not_starts (t := t.token) h]
    rintro ⟨⟩

theorem reads_operand_number {n : Number} :
    Reads (operand (⟨.number n, o⟩ :: rest)) e X ↔ e = .literal (.number n) ∧ X = rest := by
  rw [reads_operand]
  simp [startWith, eq_comm]

theorem reads_operand_str {s : String} :
    Reads (operand (⟨.str s, o⟩ :: rest)) e X ↔ e = .literal (.string s) ∧ X = rest := by
  rw [reads_operand]
  simp [startWith, eq_comm]

theorem reads_operand_query {path : String} :
    Reads (operand (⟨.query path, o⟩ :: rest)) e X ↔ e = .query path ∧ X = rest := by
  rw [reads_operand]
  simp [startWith, eq_comm]

theorem reads_operand_constant {name : String} (h : isConstant name = true) :
    Reads (operand (⟨.ident name, o⟩ :: rest)) e X ↔ e = named name ∧ X = rest := by
  rw [reads_operand]
  simp [startWith, h, eq_comm]

theorem reads_operand_ident {name : String} (h : ¬ isConstant name = true)
    (hnext : next rest ≠ .leftParen) :
    Reads (operand (⟨.ident name, o⟩ :: rest)) e X ↔ e = .ident name ∧ X = rest := by
  rw [reads_operand]
  simp [startWith, h, hnext, eq_comm]

theorem reads_operand_call {name : String} {o' : Nat} (h : ¬ isConstant name = true) :
    Reads (operand (⟨.ident name, o⟩ :: ⟨.leftParen, o'⟩ :: rest)) e X ↔
      ∃ args, Reads (arguments .rightParen rest) args X ∧ .call name args = e := by
  have hnext : next (⟨.leftParen, o'⟩ :: rest) = .leftParen := rfl
  rw [reads_operand, startWith, if_neg h, if_pos hnext, map_eq_ok_iff]
  rfl

theorem reads_operand_not :
    Reads (operand (⟨.not, o⟩ :: rest)) e X ↔
      ∃ a, Reads (expression unaryPower rest) a X ∧ .unary .not a = e := by
  rw [reads_operand, startWith, map_eq_ok_iff]

theorem reads_operand_minus :
    Reads (operand (⟨.minus, o⟩ :: rest)) e X ↔
      ∃ a, Reads (expression unaryPower rest) a X ∧ .unary .neg a = e := by
  rw [reads_operand, startWith, map_eq_ok_iff]

theorem reads_operand_leftParen :
    Reads (operand (⟨.leftParen, o⟩ :: rest)) e X ↔
      ∃ a Y, Reads (expression 0 rest) a Y ∧ (∃ o', Y = ⟨.rightParen, o'⟩ :: X) ∧ a = e := by
  rw [reads_operand, startWith, andThen_eq_ok_iff]
  simp only [map_eq_ok_iff, outcome_eq_ok_iff, reads_expect, exists_const]

theorem reads_operand_leftBracket :
    Reads (operand (⟨.leftBracket, o⟩ :: rest)) e X ↔
      ∃ items, Reads (arguments .rightBracket rest) items X ∧ .list items = e := by
  rw [reads_operand, startWith, map_eq_ok_iff]

theorem reads_operand_braces {o' : Nat} :
    Reads (operand (⟨.leftBrace, o⟩ :: ⟨.rightBrace, o'⟩ :: rest)) e X ↔
      e = .map [] ∧ X = rest := by
  rw [reads_operand]
  simp [startWith, next, eq_comm]

theorem reads_operand_leftBrace (h : next rest ≠ .rightBrace) :
    Reads (operand (⟨.leftBrace, o⟩ :: rest)) e X ↔
      ∃ fields, Reads (entries rest) fields X ∧ .map fields = e := by
  rw [reads_operand, startWith, if_neg h, map_eq_ok_iff]

end Operand

end Sluice.Expr
