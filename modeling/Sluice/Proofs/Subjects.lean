import Mathlib
import Sluice.Expr.Eval

/-!
# Subjects of queries

A query looks into the subject, the value left of the nearest `|` around it.  So an expression
depends on its subject through its free queries only: those that are not right of a `|` inside of
it.  Names, calls and whatever else stands right of a `|` see nothing of the value left of it.

* `Expr.freeQueries`: the queries that look into the subject of the whole expression.
* `Expr.eval_congr`: they are all that the value takes from the subject.
-/

namespace Sluice.Expr

mutual

/-- The texts of the queries of an expression that are not right of a `|` inside of it. -/
def freeQueries : Expr → List String
  | .literal _ => []
  | .ident _ => []
  | .query path => [path]
  | .list items => freeQueriesOfItems items
  | .map entries => freeQueriesOfEntries entries
  | .field base _ => base.freeQueries
  | .index base key => base.freeQueries ++ key.freeQueries
  | .call _ args => freeQueriesOfItems args
  | .unary _ operand => operand.freeQueries
  | .binary _ left right => left.freeQueries ++ right.freeQueries
  | .ternary condition yes no => condition.freeQueries ++ (yes.freeQueries ++ no.freeQueries)
  | .pipe left _ => left.freeQueries

def freeQueriesOfItems : List Expr → List String
  | [] => []
  | e :: rest => e.freeQueries ++ freeQueriesOfItems rest

def freeQueriesOfEntries : List (String × Expr) → List String
  | [] => []
  | (_, e) :: rest => e.freeQueries ++ freeQueriesOfEntries rest

end

/-! ## What a value takes from the subject -/

/-- Each of some queries finds the same under two subjects. -/
def SameAnswers (view : View) (subject subject' : Option Json) (paths : List String) : Prop :=
  ∀ path ∈ paths, evalQuery view subject path = evalQuery view subject' path

variable {view : View} {subject subject' : Option Json}

theorem SameAnswers.left {paths paths' : List String}
    (h : SameAnswers view subject subject' (paths ++ paths')) :
    SameAnswers view subject subject' paths :=
  fun path hpath => h path (List.mem_append_left paths' hpath)

theorem SameAnswers.right {paths paths' : List String}
    (h : SameAnswers view subject subject' (paths ++ paths')) :
    SameAnswers view subject subject' paths' :=
  fun path hpath => h path (List.mem_append_right paths hpath)

theorem sameAnswers_nil : SameAnswers view subject subject' [] := by
  intro path hpath
  cases hpath

mutual

/-- The value is the same under two subjects in which the free queries find the same. -/
theorem eval_congr : ∀ e : Expr, SameAnswers view subject subject' e.freeQueries →
    e.eval view subject = e.eval view subject'
  | .literal _, _ => rfl
  | .ident _, _ => rfl
  | .query path, h => h path (List.mem_singleton_self path)
  | .list items, h => by
    have hitems := evalItems_congr items h
    rw [eval, eval, hitems]
  | .map entries, h => by
    have hentries := evalEntries_congr entries h
    rw [eval, eval, hentries]
  | .field base name, h => by
    have hbase := eval_congr base h
    rw [eval, eval, hbase]
  | .index base key, h => by
    have hbase := eval_congr base h.left
    have hkey := eval_congr key h.right
    rw [eval, eval, hbase, hkey]
  | .call name args, h => by
    have hargs := evalItems_congr args h
    rw [eval, eval, hargs]
  | .unary op operand, h => by
    have hoperand := eval_congr operand h
    rw [eval, eval, hoperand]
  | .binary op left right, h => by
    have hleft := eval_congr left h.left
    have hright := eval_congr right h.right
    cases op <;> simp only [eval, hleft, hright]
  | .ternary condition yes no, h => by
    have hcondition := eval_congr condition h.left
    have hyes := eval_congr yes h.right.left
    have hno := eval_congr no h.right.right
    rw [eval, eval, hcondition, hyes, hno]
  | .pipe left right, h => by
    -- the right side has the same subject of its own
    have hleft := eval_congr left h
    rw [eval, eval, hleft]

theorem evalItems_congr : ∀ items : List Expr,
    SameAnswers view subject subject' (freeQueriesOfItems items) →
    evalItems view subject items = evalItems view subject' items
  | [], _ => rfl
  | e :: rest, h => by
    have he := eval_congr e h.left
    have hrest := evalItems_congr rest h.right
    rw [evalItems, evalItems, he, hrest]

theorem evalEntries_congr : ∀ entries : List (String × Expr),
    SameAnswers view subject subject' (freeQueriesOfEntries entries) →
    evalEntries view subject entries = evalEntries view subject' entries
  | [], _ => rfl
  | (_, e) :: rest, h => by
    have he := eval_congr e h.left
    have hrest := evalEntries_congr rest h.right
    rw [evalEntries, evalEntries, he, hrest]

end

theorem eval_of_no_freeQueries {e : Expr} (h : e.freeQueries = []) :
    e.eval view subject = e.eval view subject' := by
  refine eval_congr e ?_
  rw [h]
  exact sameAnswers_nil

/-! ## Pipes -/

/-- The value left of a `|` is the subject right of it, whatever the subject of both is. -/
theorem eval_pipe (left right : Expr) :
    (Expr.pipe left right).eval view subject =
      (left.eval view subject).bind fun v => right.eval view (some v) := by
  rw [eval]
  rfl

theorem eval_pipe_assoc (left middle right : Expr) :
    (Expr.pipe (.pipe left middle) right).eval view subject =
      (Expr.pipe left (.pipe middle right)).eval view subject := by
  simp only [eval_pipe]
  cases left.eval view subject with
  | error e => rfl
  | ok v => rfl

/-- Where no query right of a `|` is free, the value left of it only has to be there. -/
theorem eval_pipe_of_no_freeQueries (left : Expr) {right : Expr} (h : right.freeQueries = []) :
    (Expr.pipe left right).eval view subject =
      (left.eval view subject).bind fun _ => right.eval view subject := by
  rw [eval_pipe]
  cases left.eval view subject with
  | error e => rfl
  | ok v => exact eval_of_no_freeQueries h

/-- The subject of queries is a matter of the text: an expression gives the same value or the same
error under any two subjects if no query in it is free, and if all its free queries find the same in
both; right of a `|` everything but the free queries sees what is seen left of it; and it does not
matter how pipes are grouped. -/
theorem eval_scopes_subject (view : View) :
    (∀ (e : Expr) (subject subject' : Option Json), e.freeQueries = [] →
      e.eval view subject = e.eval view subject') ∧
    (∀ (e : Expr) (subject subject' : Option Json),
      (∀ path ∈ e.freeQueries, evalQuery view subject path = evalQuery view subject' path) →
      e.eval view subject = e.eval view subject') ∧
    (∀ (left right : Expr) (subject : Option Json), right.freeQueries = [] →
      (Expr.pipe left right).eval view subject =
        (left.eval view subject).bind fun _ => right.eval view subject) ∧
    ∀ (left middle right : Expr) (subject : Option Json),
      (Expr.pipe (.pipe left middle) right).eval view subject =
        (Expr.pipe left (.pipe middle right)).eval view subject := by
  refine ⟨fun e subject subject' h => ?_, fun e subject subject' h => ?_, ?_, ?_⟩
  · exact eval_of_no_freeQueries h
  · exact eval_congr e h
  · exact fun left right subject h => eval_pipe_of_no_freeQueries left h
  · exact fun left middle right subject => eval_pipe_assoc left middle right

/-- In `[V, 1 | $]` the query is bound inside of the list, so the subject does not matter; the free
one of `$[0] | [$]` finds the same in two lists that start alike. -/
theorem eval_scopes_bound_query :
    let view : View := ⟨.null, .map [("x", .bool true)], .null⟩
    let bound : Expr := .list [.ident "V", .pipe (.literal (.nat 1)) (.query "$")]
    let free : Expr := .pipe (.query "$[0]") (.list [.query "$"])
    let short : Option Json := some (.list [.null])
    let long : Option Json := some (.list [.null, .bool true])
    bound.freeQueries = [] ∧ bound.eval view none = bound.eval view long ∧
      free.freeQueries = ["$[0]"] ∧ free.eval view short = free.eval view long ∧
      (Expr.pipe (.ident "R") bound).eval view long =
        ((Expr.ident "R").eval view long).bind fun _ => bound.eval view long := by
  intro view bound free short long
  have hshort : evalQuery view short "$[0]" = .ok .null := by cbv
  have hlong : evalQuery view long "$[0]" = .ok .null := by cbv
  have hanswers : ∀ path ∈ free.freeQueries,
      evalQuery view short path = evalQuery view long path := by
    intro path hpath
    rw [List.mem_singleton.1 hpath, hshort, hlong]
  obtain ⟨hclosed, hcongr, hpipe, -⟩ := eval_scopes_subject view
  exact ⟨rfl, hclosed bound none long rfl, rfl, hcongr free short long hanswers,
    hpipe (.ident "R") bound long rfl⟩

end Sluice.Expr
