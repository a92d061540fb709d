import Sluice.Proofs.Access.Basic
import Sluice.Proofs.Lexing.Printing
import Sluice.Proofs.Query.Definite
import Sluice.Proofs.Query.Reading

/-!
# Accesses as queries

Behind `$.` an access is one token.  Its text is read once more, as a path into everything that is
seen, in which the root is a field like any other.  The path is definite, and each of its segments
finds what the hop reaches, so the query gives the value that the access leads to.
-/

namespace Sluice

/-! ## Names and digits -/

namespace Token

theorem quotedName_of_inIdent {cs : List Char} (h : ∀ c ∈ cs, inIdent c = true) :
    QuotedName '"' cs := by
  induction cs with
  | nil => exact .nil
  | cons c cs ih =>
    obtain ⟨hc, hcs⟩ := List.forall_mem_cons.1 h
    obtain ⟨hquote, hback, -⟩ := plain_of_inIdent hc
    exact .plain hquote hback (ih hcs)

theorem balanced_of_isDigit {ds : List Char} (h : ∀ d ∈ ds, d.isDigit = true) : Balanced ds := by
  induction ds with
  | nil => exact .nil
  | cons d ds ih =>
    obtain ⟨hd, hds⟩ := List.forall_mem_cons.1 h
    have hne : ∀ c, c.isDigit = false → d ≠ c := by
      rintro c hc rfl
      rw [hd] at hc
      cases hc
    exact .plain ⟨hne _ rfl, hne _ rfl⟩ ⟨hne _ rfl, hne _ rfl⟩ (ih hds)

theorem balanced_digits (n : Nat) : Balanced (Decimal.digits n) := by
  obtain ⟨d, ds, hn, hds⟩ := Decimal.exists_digits n
  rw [hn]
  exact balanced_of_isDigit hds

end Token

/-- In front of a text a name brings no quotes into it. -/
theorem Query.PlainlyQuoted.behind {cs rest : List Char} (hrest : PlainlyQuoted rest)
    (hcs : ∀ c ∈ cs, Token.inIdent c = true) : PlainlyQuoted (cs ++ rest) := by
  induction cs with
  | nil => exact hrest
  | cons c cs ih =>
    obtain ⟨hc, hcs⟩ := List.forall_mem_cons.1 hcs
    have hsingle : c ≠ '\'' := by
      rintro rfl
      cases hc
    exact .plain ⟨hsingle, (Token.plain_of_inIdent hc).1⟩ (ih hcs)

/-! ## Queries -/

namespace Access

/-- The text of an access as a query. -/
def query (access : Access) : String := "$." ++ access.text

/-- The hops of the query: the root is one of them. -/
def path (access : Access) : List Hop := .name access.root.key :: access.hops

def Hop.segment : Hop → Query.Segment
  | .name key => .step false [.name key.text]
  | .quoted key => .step false [.name key.text]
  | .index i _ => .step false [.index i]

variable (access : Access)

theorem toList_query : access.query.toList = '$' :: access.path.flatMap Hop.chars := by
  have htext : access.text.toList = access.chars := String.toList_ofList
  rw [query, String.toList_append, htext, path, List.flatMap_cons]
  rfl

/-! ### One token -/

section Lexing

open Token

theorem Hop.isSegment (hop : Hop) : Token.Segment hop.chars := by
  cases hop with
  | name key => exact .name (.inl rfl) (List.cons_ne_nil _ _) key.inIdent_of_mem
  | quoted key =>
    have hname : QuotedName '"' key.chars := quotedName_of_inIdent key.inIdent_of_mem
    exact .bracket (.quoted (.inr rfl) hname .nil)
  | index i _ => exact .bracket (balanced_digits i)

theorem isPath_hops (hops : List Hop) : Token.Path (hops.flatMap Hop.chars) := by
  induction hops with
  | nil => exact .nil
  | cons hop hops ih => exact .cons hop.isSegment ih

theorem lexes_query : Lexes Spaced access.query.toList [.query access.query] := by
  have hprint : Printable (.query access.query) :=
    ⟨_, access.toList_query, isPath_hops access.path⟩
  intro offset rest hrest
  refine ⟨[⟨.query access.query, offset⟩], _, rfl, tokensFrom_print hprint hrest offset⟩

theorem parse_query : Expr.parse access.query = .ok (.query access.query) := by
  have h := Expr.parse_of_lexes access.lexes_query (fun _ hc => by cases hc)
    ((Expr.Derives.query access.query).loosen (by decide))
  rwa [String.ofList_toList] at h

end Lexing

/-! ### One path -/

open Query Reader

theorem Hop.follows (hop : Hop) (rest : List Char) : Follows (hop.chars ++ rest) := by
  intro c hc
  cases hop <;> cases hc <;> simp

theorem Hop.run_segment (hop : Hop) (condition : Reader Query.Condition) {rest : List Char}
    (hrest : Follows rest) :
    (Query.segment condition).run (hop.chars ++ rest) = some (hop.segment, rest) := by
  cases hop with
  | name key => exact run_segment_name key.starts key.continues hrest
  | quoted key =>
    have htext : (Hop.quoted key).chars ++ rest =
        '[' :: ('"' :: (key.chars ++ ['"']) ++ ']' :: rest) := by simp [Hop.chars]
    rw [htext]
    exact run_segment_key key.inIdent_of_mem rest
  | index i inRange =>
    have htext : (Hop.index i inRange).chars ++ rest =
        '[' :: (Decimal.digits i ++ ']' :: rest) := by simp [Hop.chars]
    rw [htext]
    exact run_segment_index inRange rest

theorem ofText?_query : ofText? access.query = some (access.path.map Hop.segment) := by
  refine ofText?_of_segments access.toList_query (fun hop _ condition rest hrest => ?_) ?_ ?_
  · exact hop.run_segment condition hrest
  · exact fun hop _ rest => hop.follows rest
  · intro hop _
    cases hop <;> exact List.cons_ne_nil _ _

/-! ### One place -/

theorem Hop.plainlyQuoted (hop : Hop) {rest : List Char} (hrest : PlainlyQuoted rest) :
    PlainlyQuoted (hop.chars ++ rest) := by
  have hclose : PlainlyQuoted (']' :: rest) := .plain (by decide) hrest
  cases hop with
  | name key => exact .plain (by decide) (hrest.behind key.inIdent_of_mem)
  | quoted key =>
    have hend : key.chars.getLast? ≠ some '\\' := by
      intro hlast
      have hback := key.inIdent_of_mem _ (List.mem_of_getLast? hlast)
      cases hback
    have htext : (Hop.quoted key).chars ++ rest =
        '[' :: '"' :: (key.chars ++ '"' :: ']' :: rest) := by simp [Hop.chars]
    rw [htext]
    have hname : Token.QuotedName '"' key.chars := Token.quotedName_of_inIdent key.inIdent_of_mem
    exact .plain (by decide) (.quoted (.inr rfl) hname hend hclose)
  | index i _ =>
    obtain ⟨d, ds, hn, hds⟩ := Decimal.exists_digits i
    have htext : (Hop.index i ‹_›).chars ++ rest = '[' :: (d :: ds ++ ']' :: rest) := by
      simp [Hop.chars, hn]
    rw [htext]
    have hident : ∀ c ∈ d :: ds, Token.inIdent c = true := fun c hc =>
      Token.inIdent_of_isDigit (hds c hc)
    exact .plain (by decide) (hclose.behind hident)

theorem plainlyQuoted_hops (hops : List Hop) : PlainlyQuoted (hops.flatMap Hop.chars) := by
  induction hops with
  | nil => exact .nil
  | cons hop hops ih => exact hop.plainlyQuoted ih

theorem isDefinite_query : isDefinite none '\x00' access.query.toList = true := by
  have hsingular : (access.path.map Hop.segment).all Segment.isSingular = true := by
    rw [List.all_map, List.all_eq_true]
    intro hop _
    cases hop <;> rfl
  obtain ⟨cs, htext, hpath⟩ := ofText?_text access.ofText?_query
  have hquoted : PlainlyQuoted cs := by
    rw [access.toList_query] at htext
    exact List.tail_eq_of_cons_eq htext ▸ plainlyQuoted_hops access.path
  rw [htext, isDefinite_calm rfl, isDefinite_eq_all hpath (by decide) hquoted, hsingular]

/-! ### One value -/

variable (root : Json)

/-- The segment of a hop selects what the hop reaches. -/
theorem Hop.selects (hop : Hop) : ∃ s : Selector, hop.segment = .step false [s] ∧
    ∀ v, s.select root v = (hop.reach? v).toList := by
  cases hop with
  | name key => exact ⟨.name key.text, rfl, fun v => by cases v <;> rfl⟩
  | quoted key => exact ⟨.name key.text, rfl, fun v => by cases v <;> rfl⟩
  | index i _ =>
    refine ⟨.index i, rfl, fun v => ?_⟩
    cases v with
    | list items =>
      have hitem : item i items = items[i]? := by
        simp [item, Int.not_lt.2 (Int.natCast_nonneg i)]
      rw [Selector.select, hitem, Hop.reach?]
    | _ => rfl

theorem follow_hops (hops : List Hop) (found : Option Json) :
    follow root (hops.map Hop.segment) found.toList = (found.bind (reach? hops)).toList := by
  induction hops generalizing found with
  | nil => cases found <;> rfl
  | cons hop hops ih =>
    obtain ⟨s, hs, hselect⟩ := hop.selects root
    have hone : selectAll root [s] found.toList = (found.bind hop.reach?).toList := by
      cases found <;> simp [selectAll, hselect]
    rw [List.map_cons, hs, follow, if_neg Bool.false_ne_true, hone, ih, Option.bind_assoc]
    rfl

theorem run_query : Query.run access.query root =
    (reach? access.path root).elim (.error .noMatch) .ok := by
  have hfind : find (access.path.map Hop.segment) root = (reach? access.path root).toList :=
    follow_hops root access.path (some root)
  rw [Query.run, access.ofText?_query]
  simp only [hfind, access.isDefinite_query, if_true]
  cases reach? access.path root <;> rfl

theorem reach?_path (view : View) : reach? access.path view.whole = access.find? view := by
  have hroot : (Hop.name access.root.key).reach? view.whole = some (access.root.value view) := by
    cases access.root <;> rfl
  rw [path, reach?, hroot]
  rfl

theorem eval_query (view : View) : (Expr.query access.query).eval view none =
    (access.find? view).elim (.error (.query access.query .noMatch)) .ok := by
  rw [Expr.eval, Expr.evalQuery, Option.getD_none, Expr.Function.query, run_query, reach?_path]
  cases access.find? view <;> rfl

theorem evaluate_query (view : View) : Expr.evaluate view ("=" ++ access.query) =
    (access.find? view).elim (.error (.query access.query .noMatch)) .ok := by
  rw [Expr.evaluate_of_parse access.parse_query, eval_query]

/-- A path of names, quoted keys and integers behind `In`, `V` or `R` means the same as an access
and as a query: each of the two has a value exactly if the path leads to one, and then it is this
value, `null` or not. -/
theorem evaluates_like_query (view : View) (v : Json) :
    (Expr.evaluate view ("=" ++ access.text) = .ok v ↔
      Expr.evaluate view ("=$." ++ access.text) = .ok v) ∧
    (Expr.evaluate view ("=" ++ access.text) = .ok v ↔ access.find? view = some v) := by
  have hquery : Expr.evaluate view ("=$." ++ access.text) = .ok v ↔ access.find? view = some v := by
    have hsource : "=$." ++ access.text = "=" ++ access.query := by
      rw [query, ← String.append_assoc]
      rfl
    rw [hsource, access.evaluate_query]
    cases access.find? view <;> simp
  exact ⟨access.evaluate_text_eq_ok_iff.trans hquery.symm, access.evaluate_text_eq_ok_iff⟩

/-- Fields that are called like words of the language, and a null behind an item. -/
example :
    let view : View := ⟨.null, .map [("in", .list [.map [("true", .null)]])], .null⟩
    Expr.evaluate view "=V.in[0].true" = .ok .null ∧
      Expr.evaluate view "=$.V.in[0].true" = .ok .null := by
  refine ⟨by cbv, by cbv⟩

end Access
end Sluice
