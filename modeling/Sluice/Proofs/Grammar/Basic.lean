import Sluice.Expr.Parser

/-!
# The grammar of expressions

The layers of the language, the loosest first:

* `pipe`      : `ternary` or `ternary | pipe`;
* `ternary`   : `coalesce` or `coalesce ? pipe : ternary`;
* `coalesce`, `or`, `and`, `comparison`, `sum`, `product` : operands of the next layer with
  operators of this one between them, associating to the left;
* `unary`     : `! unary`, `- unary` or `access`;
* `access`    : a `primary` and any number of accesses behind it;
* `primary`   : literals, names, calls, parentheses, lists and maps.

`Derives layer tokens e` says that the tokens are an expression of the layer, with the tree `e`.
-/

namespace Sluice.Expr

/-- The layers of the grammar, the loosest first. -/
inductive Layer where
  | pipe | ternary | coalesce | or | and | comparison | sum | product | unary | access | primary
deriving DecidableEq, Repr

namespace Layer

/-- The next tighter layer. -/
def tighter : Layer → Layer
  | .pipe => .ternary | .ternary => .coalesce | .coalesce => .or | .or => .and
  | .and => .comparison | .comparison => .sum | .sum => .product | .product => .unary
  | .unary => .access | .access => .primary | .primary => .primary

/-- The operators of the layers that associate to the left, with their tokens. -/
def operators : Layer → List (Token × BinaryOp)
  | .coalesce => [(.coalesce, .coalesce)]
  | .or => [(.orOr, .or)]
  | .and => [(.andAnd, .and)]
  | .comparison => [(.eqEq, .eq), (.notEq, .ne), (.lt, .lt), (.le, .le), (.gt, .gt), (.ge, .ge),
      (.matches, .matches), (.ident "in", .isIn)]
  | .sum => [(.plus, .add), (.minus, .sub)]
  | .product => [(.star, .mul), (.slash, .div), (.percent, .mod)]
  | _ => []

end Layer

def constants : List (String × Json) :=
  [("true", .bool true), ("false", .bool false), ("null", .null), ("nil", .null)]

/-- Parts with commas between them. -/
def separated (parts : List (List Token)) : List Token := List.intercalate [.comma] parts

/-- A field in the text of a map: the token of its key and the tokens of its value. -/
structure FieldText where
  key : Token
  name : String
  tokens : List Token
  value : Expr
  named : key = .str name ∨ key = .ident name

def FieldText.text (f : FieldText) : List Token := f.key :: .colon :: f.tokens

/-- The tokens are an expression of the layer with the given tree. -/
inductive Derives : Layer → List Token → Expr → Prop
  | tighter {l : Layer} {us : List Token} {e : Expr} : Derives l.tighter us e → Derives l us e
  | pipe {us vs : List Token} {left right : Expr} :
      Derives .ternary us left → Derives .pipe vs right →
      Derives .pipe (us ++ .pipe :: vs) (.pipe left right)
  | ternary {us vs ws : List Token} {condition yes no : Expr} :
      Derives .coalesce us condition → Derives .pipe vs yes → Derives .ternary ws no →
      Derives .ternary (us ++ .question :: (vs ++ .colon :: ws)) (.ternary condition yes no)
  | binary {l : Layer} {t : Token} {op : BinaryOp} {us vs : List Token} {left right : Expr} :
      (t, op) ∈ l.operators → Derives l us left → Derives l.tighter vs right →
      Derives l (us ++ t :: vs) (.binary op left right)
  | not {us : List Token} {e : Expr} :
      Derives .unary us e → Derives .unary (.not :: us) (.unary .not e)
  | neg {us : List Token} {e : Expr} :
      Derives .unary us e → Derives .unary (.minus :: us) (.unary .neg e)
  | field {us : List Token} {base : Expr} (name : String) :
      Derives .access us base → Derives .access (us ++ [.dot, .ident name]) (.field base name)
  | index {us vs : List Token} {base key : Expr} :
      Derives .access us base → Derives .pipe vs key →
      Derives .access (us ++ .leftBracket :: (vs ++ [.rightBracket])) (.index base key)
  | number (n : Number) : Derives .primary [.number n] (.literal (.number n))
  | string (s : String) : Derives .primary [.str s] (.literal (.string s))
  | query (path : String) : Derives .primary [.query path] (.query path)
  | constant {name : String} {v : Json} :
      (name, v) ∈ constants → Derives .primary [.ident name] (.literal v)
  | ident {name : String} :
      name ∉ constants.map (·.1) → Derives .primary [.ident name] (.ident name)
  | call {name : String} {args : List (List Token × Expr)} :
      name ∉ constants.map (·.1) → (∀ arg ∈ args, Derives .pipe arg.1 arg.2) →
      Derives .primary
        (.ident name :: .leftParen :: (separated (args.map (·.1)) ++ [.rightParen]))
        (.call name (args.map (·.2)))
  | parens {us : List Token} {e : Expr} :
      Derives .pipe us e → Derives .primary (.leftParen :: (us ++ [.rightParen])) e
  | list {items : List (List Token × Expr)} :
      (∀ item ∈ items, Derives .pipe item.1 item.2) →
      Derives .primary (.leftBracket :: (separated (items.map (·.1)) ++ [.rightBracket]))
        (.list (items.map (·.2)))
  | map {fields : List FieldText} :
      (∀ f ∈ fields, Derives .pipe f.tokens f.value) →
      Derives .primary (.leftBrace :: (separated (fields.map (·.text)) ++ [.rightBrace]))
        (.map (fields.map fun f => (f.name, f.value)))

theorem separated_singleton (us : List Token) : separated [us] = us := by
  simp [separated]

theorem separated_cons_cons (us vs : List Token) (rest : List (List Token)) :
    separated (us :: vs :: rest) = us ++ .comma :: separated (vs :: rest) := by
  simp [separated]

theorem isConstant_iff {name : String} : isConstant name = true ↔ name ∈ constants.map (·.1) := by
  simp [isConstant, constants]

theorem named_of_mem {name : String} {v : Json} (h : (name, v) ∈ constants) :
    named name = .literal v := by
  simp only [constants, List.mem_cons, List.not_mem_nil, or_false, Prod.mk.injEq] at h
  rcases h with ⟨rfl, rfl⟩ | ⟨rfl, rfl⟩ | ⟨rfl, rfl⟩ | ⟨rfl, rfl⟩ <;> rfl

/-! ## Powers of layers -/

namespace Layer

/-- The power that is asked of an expression of the layer. -/
def power : Layer → Nat
  | .pipe => 1 | .ternary => 2 | .coalesce => 3 | .or => 4 | .and => 5 | .comparison => 6
  | .sum => 7 | .product => 8 | .unary => 9 | .access => 10 | .primary => 11

/-- How strong an operator may be that comes behind an expression of the layer and takes all of it
as its left operand. -/
def follow : Layer → Nat
  | .pipe => 0 | .ternary => 1 | .coalesce => 3 | .or => 4 | .and => 5 | .comparison => 6
  | .sum => 7 | .product => 8 | .unary => 8 | .access => 10 | .primary => 10

theorem power_le_tighter (l : Layer) : l.power ≤ l.tighter.power := by
  cases l <;> decide

theorem follow_le_tighter (l : Layer) : l.follow ≤ l.tighter.follow := by
  cases l <;> decide

theorem power_tighter_of_lt {l m : Layer} (h : l.power < m.power) :
    l.tighter.power = l.power + 1 := by
  cases l <;> first | rfl | (cases m <;> simp [power] at h)

theorem eq_of_power_eq {l m : Layer} (h : l.power = m.power) : l = m := by
  cases l <;> cases m <;> first | rfl | cases h

end Layer

/-- An expression of a layer is one of every looser layer. -/
theorem Derives.loosen {l m : Layer} {us : List Token} {e : Expr} (h : Derives m us e)
    (hl : l.power ≤ m.power) : Derives l us e := by
  obtain ⟨d, hd⟩ := Nat.exists_eq_add_of_le hl
  induction d generalizing l with
  | zero =>
    have heq : l = m := Layer.eq_of_power_eq (by omega)
    exact heq ▸ h
  | succ d ih =>
    have hlt : l.power < m.power := by omega
    have hp := Layer.power_tighter_of_lt hlt
    exact .tighter (ih (by omega) (by omega))

def layerOf : BinaryOp → Layer
  | .coalesce => .coalesce | .or => .or | .and => .and
  | .eq | .ne | .lt | .le | .gt | .ge | .matches | .isIn => .comparison
  | .add | .sub => .sum
  | .mul | .div | .mod => .product

theorem continuation?_of_operator {l : Layer} {t : Token} {op : BinaryOp}
    (h : (t, op) ∈ l.operators) :
    continuation? t = some (.binary op l.tighter.power, l.power) ∧ l.follow = l.power := by
  cases l <;> simp only [Layer.operators, List.mem_cons, List.not_mem_nil, or_false,
    Prod.mk.injEq] at h
  case comparison =>
    rcases h with ⟨rfl, rfl⟩ | ⟨rfl, rfl⟩ | ⟨rfl, rfl⟩ | ⟨rfl, rfl⟩ | ⟨rfl, rfl⟩ | ⟨rfl, rfl⟩ |
      ⟨rfl, rfl⟩ | ⟨rfl, rfl⟩ <;> exact ⟨rfl, rfl⟩
  case sum => rcases h with ⟨rfl, rfl⟩ | ⟨rfl, rfl⟩ <;> exact ⟨rfl, rfl⟩
  case product => rcases h with ⟨rfl, rfl⟩ | ⟨rfl, rfl⟩ | ⟨rfl, rfl⟩ <;> exact ⟨rfl, rfl⟩
  all_goals
    obtain ⟨rfl, rfl⟩ := h
    exact ⟨rfl, rfl⟩

/-- What the grammar says of a token that goes on behind an operand. -/
def Continuation.Spells (t : Token) (strength : Nat) : Continuation → Prop
  | .field => t = .dot ∧ strength = 10
  | .index => t = .leftBracket ∧ strength = 10
  | .pipe => t = .pipe ∧ strength = 1
  | .ternary => t = .question ∧ strength = 2
  | .binary op right => (t, op) ∈ (layerOf op).operators ∧
    right = (layerOf op).tighter.power ∧ strength = (layerOf op).power

theorem spells_of_continuation? {t : Token} {k : Continuation} {strength : Nat}
    (h : continuation? t = some (k, strength)) : k.Spells t strength := by
  unfold continuation? at h
  split at h
  case h_15 name =>
    split at h
    · next hname =>
      cases h
      subst hname
      exact ⟨by decide, rfl, rfl⟩
    · cases h
  all_goals cases h <;> first | exact ⟨rfl, rfl⟩ | exact ⟨by decide, rfl, rfl⟩

end Sluice.Expr
