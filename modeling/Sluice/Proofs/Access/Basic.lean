import Sluice.Proofs.Grammar.Texts
import Sluice.Proofs.Json.Sublanguage
import Sluice.Query.Parser

/-!
# Accesses

An access starts at a name that every expression sees and goes on, hop by hop, to fields and items.

* `Access.chars`, `Access.tokens`, `Access.tree`: its text, the tokens of the text and the tree that
  they derive.
* `Access.find?`: the value that it leads to.

Each hop reaches what it names and nothing else, so the tree of an access has the value that the
access leads to, and no value if it leads nowhere.
-/

namespace Sluice

theorem Expr.itemOf_ofNat (items : List Json) {i : Nat} (h : i ≤ Query.largest) :
    (itemOf items (.ofNat i)).toOption = items[i]? := by
  have hlt : i < 9223372036854775808 := by
    unfold Query.largest at h
    omega
  rw [itemOf, Number.toSigned?_ofNat hlt]
  simp only [Int.not_lt.2 (Int.natCast_nonneg i), if_false, Int.toNat_natCast]
  cases items[i]? <;> rfl

/-! ## Hops -/

namespace Access

/-- A name as it can stand behind a dot: ASCII letters, digits and underscores, no digit first. -/
structure Identifier where
  first : Char
  more : List Char
  starts : Token.startsIdent first = true
  continues : ∀ c ∈ more, Token.inIdent c = true

namespace Identifier

variable (key : Identifier)

def chars : List Char := key.first :: key.more

def text : String := String.ofList key.chars

theorem inIdent_of_mem : ∀ c ∈ key.chars, Token.inIdent c = true :=
  List.forall_mem_cons.2 ⟨Token.inIdent_of_startsIdent key.starts, key.continues⟩

end Identifier

/-- A step from a value to a part of it: to a field, written in one of two ways, or to an item. -/
inductive Hop where
  | name (key : Identifier)
  | quoted (key : Identifier)
  | index (i : Nat) (inRange : i ≤ Query.largest)

namespace Hop

def chars : Hop → List Char
  | .name key => '.' :: key.chars
  | .quoted key => '[' :: ('"' :: (key.chars ++ ['"']) ++ [']'])
  | .index i _ => '[' :: (Decimal.digits i ++ [']'])

def tokens : Hop → List Token
  | .name key => [.dot, .ident key.text]
  | .quoted key => [.leftBracket, .str key.text, .rightBracket]
  | .index i _ => [.leftBracket, .number (.ofNat i), .rightBracket]

/-- The hop behind an expression. -/
def behind (e : Expr) : Hop → Expr
  | .name key => .field e key.text
  | .quoted key => .index e (.literal (.string key.text))
  | .index i _ => .index e (.literal (.number (.ofNat i)))

/-- The part of a value that a hop leads to. -/
def reach? : Hop → Json → Option Json
  | .name key, .map fields => Fields.get? key.text fields
  | .quoted key, .map fields => Fields.get? key.text fields
  | .index i _, .list items => items[i]?
  | _, _ => none

end Hop

/-- Where several hops lead. -/
def reach? : List Hop → Json → Option Json
  | [], v => some v
  | hop :: hops, v => (hop.reach? v).bind (reach? hops)

/-- The names that every expression sees. -/
inductive Root where
  | input | assigned | registered

namespace Root

def key : Root → Identifier
  | .input => ⟨'I', ['n'], rfl, List.forall_mem_singleton.2 rfl⟩
  | .assigned => ⟨'V', [], rfl, List.forall_mem_nil _⟩
  | .registered => ⟨'R', [], rfl, List.forall_mem_nil _⟩

/-- The value under a root. -/
def value (view : View) : Root → Json
  | .input => view.input
  | .assigned => view.assigned
  | .registered => view.registered

end Root

end Access

/-- A root and the hops behind it. -/
structure Access where
  root : Access.Root
  hops : List Access.Hop

namespace Access

variable (access : Access)

def chars : List Char := access.root.key.chars ++ access.hops.flatMap Hop.chars

def text : String := String.ofList access.chars

def tokens : List Token := .ident access.root.key.text :: access.hops.flatMap Hop.tokens

def tree : Expr := access.hops.foldl Hop.behind (.ident access.root.key.text)

/-- The value that an access leads to. -/
def find? (view : View) : Option Json := reach? access.hops (access.root.value view)

/-! ## Their tokens -/

open Token

/-- The end of a text, or a character that no name goes on with. -/
def Ends (rest : List Char) : Prop := ∀ c ∈ rest.head?, inIdent c = false

theorem Hop.ends (hop : Hop) (rest : List Char) : Ends (hop.chars ++ rest) := by
  intro c hc
  cases hop <;> cases hc <;> rfl

theorem Identifier.lexes (key : Identifier) : Lexes Ends key.chars [.ident key.text] := by
  refine lexes_of_lexeme ?_ fun rest hrest => lexeme_word key.starts key.continues hrest
  rw [isBlank_of_inIdent (inIdent_of_startsIdent key.starts)]
  exact Bool.false_ne_true

theorem Hop.lexes (hop : Hop) : Lexes Ends hop.chars hop.tokens := by
  have hopen : ('[', Token.leftBracket) ∈ marks := by decide
  have hclose : Lexes Ends [']'] [.rightBracket] := lexes_mark (by decide)
  cases hop with
  | name key =>
    refine lexes_dot.append key.lexes fun rest _ c hc => ?_
    cases hc
    exact not_isDigit_of_startsIdent key.starts
  | quoted key =>
    have hkey : Lexes (fun _ => True) (Json.quoted key.chars) [.str key.text] := lexes_quoted _
    rw [Json.quoted, escaped_of_inIdent key.inIdent_of_mem] at hkey
    exact Lexes.mark hopen (hkey.append hclose fun _ _ => trivial)
  | index i inRange =>
    have hlt : i < 9223372036854775808 := by
      unfold Query.largest at inRange
      omega
    refine Lexes.mark hopen ((lexes_digits hlt).append hclose fun rest _ c hc => ?_)
    cases hc
    exact .inr (.inl rfl)

variable (hops : List Hop) {rest : List Char}

theorem ends_hops (hrest : Ends rest) : Ends (hops.flatMap Hop.chars ++ rest) := by
  cases hops with
  | nil => exact hrest
  | cons hop hops =>
    have h := hop.ends (hops.flatMap Hop.chars ++ rest)
    rwa [← List.append_assoc, ← List.flatMap_cons] at h

theorem lexes_hops : Lexes Ends (hops.flatMap Hop.chars) (hops.flatMap Hop.tokens) := by
  induction hops with
  | nil => exact .nil
  | cons hop hops ih => exact hop.lexes.append ih fun rest hrest => ends_hops hops hrest

theorem lexes : Lexes Ends access.chars access.tokens :=
  access.root.key.lexes.append (lexes_hops access.hops) fun _ => ends_hops access.hops

/-! ## Their trees -/

open Sluice.Expr (Derives)

theorem Hop.derives (hop : Hop) {us : List Token} {e : Expr} (h : Derives .access us e) :
    Derives .access (us ++ hop.tokens) (hop.behind e) := by
  cases hop with
  | name key => exact .field key.text h
  | quoted key =>
    have hkey : Derives .pipe [.str key.text] (.literal (.string key.text)) :=
      (Derives.string key.text).loosen (by decide)
    exact .index h hkey
  | index i inRange =>
    have hindex : Derives .pipe [.number (.ofNat i)] (.literal (.number (.ofNat i))) :=
      (Derives.number (.ofNat i)).loosen (by decide)
    exact .index h hindex

theorem derives_hops {us : List Token} {e : Expr} (h : Derives .access us e) :
    Derives .access (us ++ hops.flatMap Hop.tokens) (hops.foldl Hop.behind e) := by
  induction hops generalizing us e with
  | nil => rwa [List.flatMap_nil, List.append_nil]
  | cons hop hops ih =>
    rw [List.flatMap_cons, ← List.append_assoc]
    exact ih (hop.derives h)

theorem derives : Derives .access access.tokens access.tree := by
  have hroot : Derives .access [.ident access.root.key.text] (.ident access.root.key.text) := by
    refine .tighter (.ident ?_)
    cases access.root <;> decide
  exact derives_hops access.hops hroot

theorem parse_text : Expr.parse access.text = .ok access.tree :=
  Expr.parse_of_lexes access.lexes (fun _ hc => by cases hc) (access.derives.loosen (by decide))

/-! ## Their values -/

variable {view : View} {subject : Option Json} {e : Expr} {v : Json}

theorem Hop.eval_behind_of_error (hop : Hop) {refusal : EvalError}
    (h : e.eval view subject = .error refusal) :
    (hop.behind e).eval view subject = .error refusal := by
  cases hop <;> (rw [Hop.behind, Expr.eval, h]; rfl)

/-- A hop behind an expression leads on from its value. -/
theorem Hop.eval_behind (hop : Hop) (h : e.eval view subject = .ok v) :
    ((hop.behind e).eval view subject).toOption = hop.reach? v := by
  cases hop with
  | name key =>
    rw [Hop.behind, Expr.eval, h]
    show (Expr.fieldOf e key.text v).toOption = _
    cases v with
    | map fields =>
      rw [Expr.fieldOf, Hop.reach?]
      cases Fields.get? key.text fields <;> rfl
    | _ => rfl
  | quoted key =>
    rw [Hop.behind, Expr.eval, h, Expr.eval]
    show (Expr.elementOf (.index e (.literal (.string key.text))) v (.string key.text)).toOption = _
    cases v with
    | map fields =>
      rw [Expr.elementOf, Hop.reach?]
      cases Fields.get? key.text fields <;> rfl
    | _ => rfl
  | index i inRange =>
    rw [Hop.behind, Expr.eval, h, Expr.eval]
    show (Expr.elementOf _ v (.number (.ofNat i))).toOption = _
    cases v with
    | list items => exact Expr.itemOf_ofNat items inRange
    | _ => rfl

theorem eval_hops (e : Expr) :
    ((hops.foldl Hop.behind e).eval view subject).toOption =
      (e.eval view subject).toOption.bind (reach? hops) := by
  induction hops generalizing e with
  | nil =>
    rw [List.foldl_nil]
    cases e.eval view subject <;> rfl
  | cons hop hops ih =>
    rw [List.foldl_cons, ih]
    cases he : e.eval view subject with
    | error refusal => rw [hop.eval_behind_of_error he]; rfl
    | ok v => rw [hop.eval_behind he]; rfl

theorem Root.find_key (root : Root) : view.find root.key.text = .ok (root.value view) := by
  cases root <;> rfl

theorem eval_tree : (access.tree.eval view subject).toOption = access.find? view := by
  have hroot : (Expr.ident access.root.key.text).eval view subject =
      .ok (access.root.value view) := by
    rw [Expr.eval, access.root.find_key]
  rw [tree, eval_hops, hroot]
  rfl

/-- An access evaluates to the value that it leads to, and to nothing if it leads nowhere. -/
theorem evaluate_text : (Expr.evaluate view ("=" ++ access.text)).toOption = access.find? view := by
  rw [Expr.evaluate_of_parse access.parse_text, eval_tree]

theorem evaluate_text_eq_ok_iff :
    Expr.evaluate view ("=" ++ access.text) = .ok v ↔ access.find? view = some v := by
  rw [← access.evaluate_text]
  cases Expr.evaluate view ("=" ++ access.text) <;> simp [Except.toOption]

end Access
end Sluice
