import Sluice.Expr.Lexer

/-!
# From tokens to trees

Operators bind by power, the loosest first: `|`, `?:`, `??`, `||`, `&&`, the comparisons with `=~`
and `in`, `+ -`, `* / %`, the operators before an operand, field and index access.  `expression`
reads an operand and then `climb`s: as long as the next operator binds at least as strongly as
asked, the tree so far becomes its left operand.

Every function gives what is left of the tokens with a proof that it took at least one (`climb` may
take none), which is why the recursion ends.
-/

namespace Sluice.Expr

/-- A flaw, and how many tokens were left where it showed. -/
structure Refusal where
  flaw : SyntaxFlaw
  left : Nat

/-- A part that has been read and the tokens behind it, fewer than `bound`. -/
structure Parsed (α : Type) (bound : Nat) where
  value : α
  rest : List Located
  shorter : rest.length < bound

/-- What reading a part gives. -/
abbrev Reading (α : Type) (bound : Nat) := Except Refusal (Parsed α bound)

/-- The same part under a larger bound, as a part of something else. -/
def Parsed.within {α β : Type} {m n : Nat} (p : Parsed α m) (h : m ≤ n) (f : α → β) : Parsed β n :=
  ⟨f p.value, p.rest, Nat.lt_of_lt_of_le p.shorter h⟩

/-- What is shorter than the tokens behind the next one may be followed by two more. -/
theorem succ_le_length_cons_succ {t : Located} {ts : List Located} {n : Nat} (h : n < ts.length) :
    n + 1 ≤ (t :: ts).length + 1 :=
  Nat.le_trans h (Nat.le_add_right _ 2)

def next : List Located → Token
  | [] => .eof
  | t :: _ => t.token

def unexpected {α : Type} (ts : List Located) : Except Refusal α :=
  match next ts with
  | .eof => .error ⟨.unexpectedEnd, ts.length⟩
  | t => .error ⟨.unexpected t, ts.length⟩

def expect (wanted : Token) (ts : List Located) : Reading Unit ts.length :=
  match ts with
  | [] => .error ⟨.expected wanted .eof, 0⟩
  | t :: rest =>
    if t.token = wanted then .ok ⟨(), rest, by simp⟩
    else .error ⟨.expected wanted t.token, rest.length + 1⟩

/-- What can follow an operand: an access, a pipe, a choice, or an operator with the power it asks
of its right operand. -/
inductive Continuation where
  | field | index | pipe | ternary | binary (op : BinaryOp) (right : Nat)

/-- How strongly the operators before an operand bind. -/
def unaryPower : Nat := 9

/-- What a token behind an operand stands for, and how strongly it binds to the left. -/
def continuation? : Token → Option (Continuation × Nat)
  | .dot => some (.field, 10)
  | .leftBracket => some (.index, 10)
  | .pipe => some (.pipe, 1)
  | .question => some (.ternary, 2)
  | .coalesce => some (.binary .coalesce 4, 3)
  | .orOr => some (.binary .or 5, 4)
  | .andAnd => some (.binary .and 6, 5)
  | .eqEq => some (.binary .eq 7, 6)
  | .notEq => some (.binary .ne 7, 6)
  | .lt => some (.binary .lt 7, 6)
  | .le => some (.binary .le 7, 6)
  | .gt => some (.binary .gt 7, 6)
  | .ge => some (.binary .ge 7, 6)
  | .matches => some (.binary .matches 7, 6)
  | .ident name => if name = "in" then some (.binary .isIn 7, 6) else none
  | .plus => some (.binary .add 8, 7)
  | .minus => some (.binary .sub 8, 7)
  | .star => some (.binary .mul 9, 8)
  | .slash => some (.binary .div 9, 8)
  | .percent => some (.binary .mod 9, 8)
  | _ => none

/-- What a name alone stands for. -/
def named (name : String) : Expr :=
  if name = "true" then .literal (.bool true)
  else if name = "false" then .literal (.bool false)
  else if name = "null" ∨ name = "nil" then .literal .null
  else .ident name

def isConstant (name : String) : Bool :=
  name = "true" ∨ name = "false" ∨ name = "null" ∨ name = "nil"

mutual

/-- An expression whose operators bind with at least the given power. -/
def expression (power : Nat) (ts : List Located) : Reading Expr ts.length :=
  match operand ts with
  | .error e => .error e
  | .ok first =>
    have := first.shorter
    (climb power first.value first.rest).map (·.within first.shorter id)
termination_by 4 * ts.length + 2

/-- Reads on behind an operand. -/
def climb (power : Nat) (left : Expr) (ts : List Located) : Reading Expr (ts.length + 1) :=
  match ts with
  | [] => .ok ⟨left, [], Nat.lt_add_one _⟩
  | t :: rest =>
    match continuation? t.token with
    | none => .ok ⟨left, t :: rest, Nat.lt_add_one _⟩
    | some (k, strength) =>
      if strength < power then .ok ⟨left, t :: rest, Nat.lt_add_one _⟩
      else match k with
        | .field =>
          match rest with
          | ⟨.ident name, _⟩ :: rest =>
            (climb power (.field left name) rest).map
              (·.within (Nat.add_le_add_right (Nat.le_add_right _ 2) 1) id)
          | other => unexpected other
        | .index =>
          match expression 0 rest with
          | .error e => .error e
          | .ok key =>
            have := key.shorter
            match expect .rightBracket key.rest with
            | .error e => .error e
            | .ok closed =>
              have := closed.shorter
              (climb power (.index left key.value) closed.rest).map
                (·.within (succ_le_length_cons_succ (Nat.lt_trans closed.shorter key.shorter)) id)
        | .pipe =>
          match expression 1 rest with
          | .error e => .error e
          | .ok right =>
            have := right.shorter
            (climb power (.pipe left right.value) right.rest).map
              (·.within (succ_le_length_cons_succ right.shorter) id)
        | .ternary =>
          match expression 0 rest with
          | .error e => .error e
          | .ok yes =>
            have := yes.shorter
            match expect .colon yes.rest with
            | .error e => .error e
            | .ok colon =>
              have := colon.shorter
              match expression 2 colon.rest with
              | .error e => .error e
              | .ok no =>
                have := no.shorter
                let choice := .ternary left yes.value no.value
                have shorter := Nat.lt_trans no.shorter (Nat.lt_trans colon.shorter yes.shorter)
                (climb power choice no.rest).map (·.within (succ_le_length_cons_succ shorter) id)
        | .binary op rightPower =>
          match expression rightPower rest with
          | .error e => .error e
          | .ok right =>
            have := right.shorter
            (climb power (.binary op left right.value) right.rest).map
              (·.within (succ_le_length_cons_succ right.shorter) id)
termination_by 4 * ts.length
decreasing_by all_goals (simp only [List.length_cons]; omega)

/-- What stands before the first operator: a literal, a name, a call, a list, a map, an expression
in parentheses, or an operator with its operand. -/
def operand (ts : List Located) : Reading Expr ts.length :=
  match ts with
  | ⟨.number n, _⟩ :: rest => .ok ⟨.literal (.number n), rest, Nat.lt_add_one _⟩
  | ⟨.str s, _⟩ :: rest => .ok ⟨.literal (.string s), rest, Nat.lt_add_one _⟩
  | ⟨.query path, _⟩ :: rest => .ok ⟨.query path, rest, Nat.lt_add_one _⟩
  | ⟨.ident name, _⟩ :: rest =>
    if isConstant name then .ok ⟨named name, rest, Nat.lt_add_one _⟩
    else match rest with
      | ⟨.leftParen, _⟩ :: rest =>
        (arguments .rightParen rest).map (·.within (Nat.le_add_right _ 2) (.call name))
      | rest => .ok ⟨.ident name, rest, Nat.lt_add_one _⟩
  | ⟨.not, _⟩ :: rest =>
    (expression unaryPower rest).map (·.within (Nat.le_add_right _ 1) (.unary .not))
  | ⟨.minus, _⟩ :: rest =>
    (expression unaryPower rest).map (·.within (Nat.le_add_right _ 1) (.unary .neg))
  | ⟨.leftParen, _⟩ :: rest =>
    match expression 0 rest with
    | .error e => .error e
    | .ok inner =>
      have := inner.shorter
      (expect .rightParen inner.rest).map
        (·.within (Nat.le_of_lt (Nat.lt_add_right 1 inner.shorter)) fun _ => inner.value)
  | ⟨.leftBracket, _⟩ :: rest =>
    (arguments .rightBracket rest).map (·.within (Nat.le_add_right _ 1) .list)
  | ⟨.leftBrace, _⟩ :: ⟨.rightBrace, _⟩ :: rest =>
    .ok ⟨.map [], rest, Nat.lt_add_of_pos_right Nat.two_pos⟩
  | ⟨.leftBrace, _⟩ :: rest =>
    (entries rest).map (·.within (Nat.le_add_right _ 1) .map)
  | other => unexpected other
termination_by 4 * ts.length + 1

def arguments (close : Token) (ts : List Located) : Reading (List Expr) ts.length :=
  match ts with
  | [] => items close []
  | t :: rest => if t.token = close then .ok ⟨[], rest, Nat.lt_add_one _⟩ else items close (t :: rest)
termination_by 4 * ts.length + 4

def items (close : Token) (ts : List Located) : Reading (List Expr) ts.length :=
  match expression 0 ts with
  | .error e => .error e
  | .ok first =>
    have := first.shorter
    match h : first.rest with
    | ⟨.comma, _⟩ :: rest =>
      have : rest.length < first.rest.length := h ▸ Nat.lt_add_one _
      (items close rest).map
        (·.within (Nat.le_of_lt (Nat.lt_trans this first.shorter)) (first.value :: ·))
    | other =>
      (expect close other).map (·.within (h ▸ Nat.le_of_lt first.shorter) fun _ => [first.value])
termination_by 4 * ts.length + 3

/-- The fields of a map behind its brace; at least one. -/
def entries (ts : List Located) : Reading (List (String × Expr)) ts.length :=
  match ts with
  | ⟨.str key, _⟩ :: rest => entry key rest
  | ⟨.ident key, _⟩ :: rest => entry key rest
  | other => unexpected other
termination_by 4 * ts.length + 3

def entry (key : String) (ts : List Located) : Reading (List (String × Expr)) (ts.length + 1) :=
  match expect .colon ts with
  | .error e => .error e
  | .ok colon =>
    have := colon.shorter
    match expression 0 colon.rest with
    | .error e => .error e
    | .ok value =>
      have := Nat.lt_trans value.shorter colon.shorter
      match h : value.rest with
      | ⟨.comma, _⟩ :: rest =>
        have : rest.length < ts.length := Nat.lt_trans (h ▸ Nat.lt_add_one _) this
        (entries rest).map
          (·.within (Nat.le_of_lt (Nat.lt_add_right 1 this)) ((key, value.value) :: ·))
      | other =>
        (expect .rightBrace other).map
          (·.within (h ▸ Nat.le_of_lt (Nat.lt_add_right 1 this)) fun _ => [(key, value.value)])
termination_by 4 * ts.length + 3

end

/-- Where a flaw shows: at the token it names; the end of the text shows at the last token before
it. -/
def Refusal.offset (r : Refusal) (ts : List Located) : Nat :=
  let place := ts.length - r.left
  let place := match r.flaw with
    | .unexpectedEnd => place - 1
    | _ => place
  (ts[place]?.map (·.offset)).getD 0

/-- The tree of a whole list of tokens, which ends with `eof`. -/
def ofTokens (ts : List Located) : Except SyntaxError Expr :=
  let whole : Except Refusal Expr := do
    let tree ← expression 0 ts
    match next tree.rest with
    | .eof => .ok tree.value
    | _ => unexpected tree.rest
  whole.mapError fun r => ⟨r.offset ts, r.flaw⟩

def parse (source : String) : Except SyntaxError Expr := do
  ofTokens (← Token.tokenize source)

end Sluice.Expr
