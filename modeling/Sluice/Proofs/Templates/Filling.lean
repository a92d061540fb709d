import Sluice.Proofs.Templates.Pieces

/-!
# Filling templates piece by piece

Each piece of a template becomes a text of its own and takes at most one argument, so a template
that is made of pieces, followed by another one, becomes what both become one behind the other, the
second one with the arguments that the first one has left.

* `filled` : what pieces become;
* `taken` : the number of arguments that pieces take.
-/

namespace Sluice.Template

/-! ## What pieces become -/

/-- What a directive becomes with the arguments that are left. -/
def Directive.filled (d : Directive) (args : List Json) : List Char :=
  if d.verb = '%' then ['%']
  else match args with
    | [] => '%' :: '!' :: d.verb :: "(MISSING)".toList
    | arg :: _ => pad (render d.verb arg d.spec) d.spec (isNumber arg)

/-- What a piece becomes; the notes of a directive stand in front of it. -/
def Piece.filled (p : Piece) (args : List Json) : List Char := match p with
  | .char c _ => [c]
  | .directive d => d.notes ++ d.filled args

/-- Whether a piece takes an argument: every directive does but those with the verb `%`. -/
def Piece.takesArgument : Piece → Bool
  | .char .. => false
  | .directive d => d.verb ≠ '%'

/-- The number of arguments that pieces take. -/
def taken (pieces : List Piece) : Nat := pieces.countP Piece.takesArgument

/-- What pieces become, one behind the other. -/
def filled : List Piece → List Json → List Char
  | [], _ => []
  | p :: pieces, args => p.filled args ++ filled pieces (args.drop (taken [p]))

section Filling

variable {c : Char} {rest : List Char} {args : List Json}

theorem fill_nil (args : List Json) : fill [] args = [] := by
  rw [fill]

theorem fill_char (plain : c ≠ '%') : fill (c :: rest) args = c :: fill rest args := by
  rw [fill, if_pos plain]

theorem fill_head_nil (h : Head) :
    fill ('%' :: h.text) args = h.notes ++ "%!(NOVERB)".toList := by
  have hread : directive h.text = (h.notes, h.spec, []) := by
    rw [← List.append_nil h.text]
    exact directive_text (by simp)
  rw [fill, if_neg (fun h => h rfl)]
  split
  · next notes spec heq =>
    rw [hread] at heq
    cases heq
    rfl
  · next heq =>
    rw [hread] at heq
    cases heq

/-- A directive leaves its notes and what it becomes, and the arguments but the one it takes. -/
theorem fill_directive (d : Directive) (rest : List Char) (args : List Json) :
    fill (d.text ++ rest) args =
      d.notes ++ d.filled args ++ fill rest (args.drop (taken [.directive d])) := by
  have hread : directive (d.toHead.text ++ d.verb :: rest) = (d.notes, d.spec, d.verb :: rest) :=
    directive_text (d.not_goesOn_of_mem rest)
  have htext : d.text ++ rest = '%' :: (d.toHead.text ++ d.verb :: rest) := by
    rw [Directive.text, List.cons_append, List.append_assoc]
    rfl
  rw [htext, fill, if_neg (fun h => h rfl)]
  split
  · next heq =>
    rw [hread] at heq
    cases heq
  · next notes spec verb more heq =>
    rw [hread] at heq
    cases heq
    by_cases hverb : d.verb = '%'
    · have htaken : taken [.directive d] = 0 := by simp [taken, Piece.takesArgument, hverb]
      rw [if_pos hverb, Directive.filled.eq_def, if_pos hverb, htaken, List.append_assoc]
      rfl
    · have htaken : taken [.directive d] = 1 := by simp [taken, Piece.takesArgument, hverb]
      rw [if_neg hverb, Directive.filled.eq_def, if_neg hverb, htaken]
      cases args with
      | nil => simp
      | cons arg args => rfl

theorem fill_piece (p : Piece) :
    fill (p.text ++ rest) args = p.filled args ++ fill rest (args.drop (taken [p])) := by
  cases p with
  | char c plain => exact fill_char plain
  | directive d => exact fill_directive d rest args

theorem taken_cons (p : Piece) (pieces : List Piece) :
    taken (p :: pieces) = taken [p] + taken pieces := by
  have happend : p :: pieces = [p] ++ pieces := rfl
  rw [happend]
  exact List.countP_append

/-- Pieces become what they become alone, and leave the arguments that they do not take. -/
theorem fill_textOf (pieces : List Piece) (rest : List Char) (args : List Json) :
    fill (textOf pieces ++ rest) args =
      filled pieces args ++ fill rest (args.drop (taken pieces)) := by
  induction pieces generalizing args with
  | nil => rfl
  | cons p pieces ih =>
    rw [textOf_cons, List.append_assoc, fill_piece, ih, List.drop_drop, ← taken_cons, filled,
      List.append_assoc]

theorem fill_textOf_nil (pieces : List Piece) (args : List Json) :
    fill (textOf pieces) args = filled pieces args := by
  have h := fill_textOf pieces [] args
  rwa [List.append_nil, fill_nil, List.append_nil] at h

theorem fill_of_not_mem {cs : List Char} (h : '%' ∉ cs) (args : List Json) : fill cs args = cs := by
  induction cs with
  | nil => exact fill_nil args
  | cons c cs ih =>
    rw [List.mem_cons, not_or] at h
    rw [fill_char (Ne.symm h.1), ih h.2]

end Filling

/-! ## Whole templates -/

section Format

variable {t : String} {pieces : List Piece}

theorem format_append (h : t.toList = textOf pieces) (t' : String) (args : List Json) :
    format (t ++ t') args = format t args ++ format t' (args.drop (taken pieces)) := by
  rw [format, format, format, String.toList_append, h, fill_textOf, fill_textOf_nil,
    String.ofList_append]

theorem format_directive_missing {d : Directive} (hverb : d.verb ≠ '%') :
    format (String.ofList d.text) [] =
      String.ofList (d.notes ++ '%' :: '!' :: d.verb :: "(MISSING)".toList) := by
  have h := fill_directive d [] []
  rw [List.append_nil, fill_nil, List.append_nil] at h
  rw [format, String.toList_ofList, h, Directive.filled.eq_def, if_neg hverb]

end Format

/-- Formatting is compositional.  A template either is made of pieces or ends inside a directive,
which leaves a note.  A template that is made of pieces, followed by any other one, becomes what it
becomes alone, followed by what the other one becomes with the arguments behind those that the
pieces have taken.  A template without `%` stays as it is.  A directive for which there is no
argument left becomes a note with its verb, behind the notes on a width or a precision that is too
large. -/
theorem format_compositional :
    (∀ t : String, (∃ pieces, t.toList = textOf pieces) ↔ ¬ BreaksOff t.toList) ∧
    (∀ (t t' : String) (pieces : List Piece) (args : List Json), t.toList = textOf pieces →
      format (t ++ t') args = format t args ++ format t' (args.drop (taken pieces))) ∧
    (∀ (t : String) (args : List Json), '%' ∉ t.toList → format t args = t) ∧
    (∀ (t t' : String) (pieces : List Piece) (d : Directive) (args : List Json),
      t.toList = textOf pieces → args.length ≤ taken pieces → d.verb ≠ '%' →
      format (t ++ String.ofList d.text ++ t') args =
        format t args ++ String.ofList (d.notes ++ '%' :: '!' :: d.verb :: "(MISSING)".toList) ++
          format t' []) ∧
    ∀ (t : String) (pieces : List Piece) (h : Head) (args : List Json), t.toList = textOf pieces →
      format (t ++ String.ofList ('%' :: h.text)) args =
        format t args ++ String.ofList (h.notes ++ "%!(NOVERB)".toList) := by
  refine ⟨fun t => ⟨?_, ?_⟩, ?_, ?_, ?_, ?_⟩
  · rintro ⟨pieces, h⟩
    rw [h]
    exact not_breaksOff_textOf pieces
  · exact (exists_textOf_or_breaksOff t.toList).resolve_right
  · intro t t' pieces args h
    exact format_append h t' args
  · intro t args h
    rw [format, fill_of_not_mem h, String.ofList_toList]
  · intro t t' pieces d args h hargs hverb
    have hdirective : (String.ofList d.text).toList = textOf [.directive d] := by
      rw [String.toList_ofList, textOf_cons]
      exact (List.append_nil _).symm
    have hdrop : args.drop (taken pieces) = [] := List.drop_eq_nil_of_le hargs
    rw [String.append_assoc, format_append h, hdrop, format_append hdirective, List.drop_nil,
      format_directive_missing hverb, String.append_assoc]
  · intro t pieces h args htext
    rw [format_append htext, format, format, String.toList_ofList, fill_head_nil]

/-- A text in front of the blanks of a field of six characters and a sign of per cent, followed by a
verb with an argument, by an integer without one whose width is too large, and by nothing but a
sign and a precision. -/
theorem format_compositional_refused_width :
    let ab : List Json := [.string "ab"]
    (∃ pieces, "[%-6s%%".toList = textOf pieces ∧ taken pieces = 1) ∧
    ¬ BreaksOff "[%-6s%%".toList ∧ '%' ∉ "]".toList ∧
    format ("[%-6s%%" ++ "%v") (ab ++ [.null]) = "[ab    %" ++ format "%v" [.null] ∧
    format ("[%-6s%%" ++ "%1000001d" ++ "]") ab = "[ab    %%!(BADWIDTH)%!d(MISSING)]" ∧
    format ("[%-6s%%" ++ "%+.2") ab = "[ab    %%!(NOVERB)" := by
  intro ab
  have hnone {p : Char → Prop} : ∀ ds ∈ (none : Option (List Char)), ∀ c ∈ ds, p c := nofun
  let text : Directive :=
    ⟨⟨['-'], ['6'], none, List.all_eq_true.1 rfl, List.all_eq_true.1 rfl, by simp, hnone⟩, 's', rfl⟩
  let percent : Directive := ⟨⟨[], [], none, nofun, nofun, nofun, hnone⟩, '%', rfl⟩
  let wide : Directive :=
    ⟨⟨[], "1000001".toList, none, nofun, List.all_eq_true.1 rfl, by simp, hnone⟩, 'd', rfl⟩
  let signed : Head :=
    ⟨['+'], [], some ['2'], List.all_eq_true.1 rfl, nofun, nofun, by simp⟩
  let pieces : List Piece := [.char '[' (by decide), .directive text, .directive percent]
  have hpieces : "[%-6s%%".toList = textOf pieces := rfl
  have hwide : String.ofList wide.text = "%1000001d" := rfl
  have hsigned : String.ofList ('%' :: signed.text) = "%+.2" := rfl
  have hlength : ab.length ≤ taken pieces := Nat.le_refl 1
  have hverb : 'd' ≠ '%' := by decide
  have hfilled (more : List Json) : format "[%-6s%%" (ab ++ more) = "[ab    %" := by
    rw [format, hpieces, fill_textOf_nil]
    rfl
  obtain ⟨hcut, happend, hplain, hmissing, hbroken⟩ := format_compositional
  refine ⟨⟨pieces, hpieces, rfl⟩, (hcut _).1 ⟨pieces, hpieces⟩, by decide, ?_, ?_, ?_⟩
  · rw [happend _ "%v" pieces _ hpieces, hfilled]
    rfl
  · rw [← hwide, hmissing _ "]" pieces wide ab hpieces hlength hverb,
      hplain "]" [] (by decide)]
    exact congrArg (· ++ "%!(BADWIDTH)%!d(MISSING)" ++ "]") (hfilled [])
  · rw [← hsigned, hbroken _ pieces signed ab hpieces]
    exact congrArg (· ++ "%!(NOVERB)") (hfilled [])

end Sluice.Template
