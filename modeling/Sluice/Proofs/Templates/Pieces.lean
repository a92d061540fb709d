import Sluice.Expr.Template
import Sluice.Proofs.Digits

/-!
# Pieces of templates

A template is a row of pieces, characters and directives, and behind them there may be a directive
that breaks off before its verb.  What stands between the `%` and the verb is the head of the
directive: it goes on as long as the next character can still belong to it, so a template is cut
into pieces in one way only.

* `Head`, `Directive`, `Piece` : pieces as they are written;
* `Head.goesOn` : the characters that a head takes to itself;
* `BreaksOff` : the templates that end inside a directive.
-/

namespace Sluice.Template

/-! ## Directives as they are written -/

def isFlag (c : Char) : Bool := c = '-' ∨ c = '0' ∨ c = '+' ∨ c = ' ' ∨ c = '#'

/-- What stands between the `%` of a directive and its verb: flags, the digits of a width, and maybe
a point with the digits of a precision.  Zeros in front of the width are flags. -/
structure Head where
  flags : List Char
  width : List Char
  precision : Option (List Char)
  isFlag_of_mem : ∀ c ∈ flags, isFlag c = true
  isDigit_of_mem : ∀ c ∈ width, c.isDigit = true
  head?_ne_zero : width.head? ≠ some '0'
  isDigit_of_mem_precision : ∀ ds ∈ precision, ∀ c ∈ ds, c.isDigit = true

namespace Head

/-- The point and the digits of a precision. -/
def precisionText (h : Head) : List Char := match h.precision with
  | none => []
  | some ds => '.' :: ds

def text (h : Head) : List Char := h.flags ++ (h.width ++ h.precisionText)

/-- Whether a character behind a head still belongs to it. -/
def goesOn (h : Head) (c : Char) : Bool :=
  c.isDigit || (h.precision.isNone && (c = '.' || (h.width.isEmpty && isFlag c)))

/-- The number that some digits stand for, unless it is too large. -/
def accepted (ds : List Char) : Option Nat :=
  if largest < Decimal.value ds then none else some (Decimal.value ds)

/-- What a head asks for. -/
def spec (h : Head) : Spec where
  left := '-' ∈ h.flags
  zero := '0' ∈ h.flags
  plus := '+' ∈ h.flags
  width := if h.width.isEmpty then none else accepted h.width
  precision := h.precision.bind accepted

def widthNote (h : Head) : List Char :=
  if largest < Decimal.value h.width then "%!(BADWIDTH)".toList else []

def precisionNote (h : Head) : List Char :=
  if h.precision.any (largest < Decimal.value ·) then "%!(BADPREC)".toList else []

/-- The notes on what is refused. -/
def notes (h : Head) : List Char := h.widthNote ++ h.precisionNote

end Head

/-- A directive: a head and a verb, which does not belong to the head. -/
structure Directive extends Head where
  verb : Char
  not_goesOn : toHead.goesOn verb = false

def Directive.text (d : Directive) : List Char := '%' :: (d.toHead.text ++ [d.verb])

/-- A piece of a template: a character that stands for itself, or a directive. -/
inductive Piece where
  | char (c : Char) (plain : c ≠ '%')
  | directive (d : Directive)

def Piece.text : Piece → List Char
  | .char c _ => [c]
  | .directive d => d.text

def textOf (pieces : List Piece) : List Char := pieces.flatMap Piece.text

/-- Whether a template ends inside a directive: behind its pieces there are a `%` and a head. -/
def BreaksOff (cs : List Char) : Prop :=
  ∃ (pieces : List Piece) (h : Head), cs = textOf pieces ++ '%' :: h.text

/-- The head of a directive ends at its verb. -/
theorem Directive.not_goesOn_of_mem (d : Directive) (rest : List Char) :
    ∀ c ∈ (d.verb :: rest).head?, d.toHead.goesOn c = false := by
  intro c hc
  cases hc
  exact d.not_goesOn

theorem textOf_cons (p : Piece) (pieces : List Piece) :
    textOf (p :: pieces) = p.text ++ textOf pieces := List.flatMap_cons

theorem textOf_char (c : Char) (plain : c ≠ '%') (pieces : List Piece) :
    textOf (.char c plain :: pieces) = c :: textOf pieces := rfl

theorem textOf_directive (d : Directive) (pieces : List Piece) :
    textOf (.directive d :: pieces) = '%' :: (d.toHead.text ++ d.verb :: textOf pieces) := by
  rw [textOf_cons, Piece.text, Directive.text, List.cons_append, List.append_assoc]
  rfl

/-! ## Reading heads -/

section Reading

variable {h : Head} {ds rest : List Char}

theorem not_isFlag_of_isDigit {c : Char} (hc : c.isDigit = true) (hzero : c ≠ '0') :
    isFlag c = false := by
  have hne (d : Char) (hd : d.isDigit = false) : c ≠ d := by
    rintro rfl
    rw [hc] at hd
    cases hd
  simp [isFlag, hzero, hne '-' rfl, hne '+' rfl, hne ' ' rfl, hne '#' rfl]

/-- Flags are taken up to the first character that is none. -/
theorem flags_append (spec : Spec) {fs : List Char} (hfs : ∀ c ∈ fs, isFlag c = true)
    (hrest : ∀ c ∈ rest.head?, isFlag c = false) :
    flags spec (fs ++ rest) =
      (⟨spec.left || '-' ∈ fs, spec.zero || '0' ∈ fs, spec.plus || '+' ∈ fs, spec.width,
        spec.precision⟩, rest) := by
  induction fs generalizing spec with
  | nil =>
    cases rest with
    | nil => simp [flags]
    | cons c rest =>
      have hc : isFlag c = false := hrest c rfl
      simp only [isFlag, decide_eq_false_iff_not, not_or] at hc
      simp [flags, hc]
  | cons c fs ih =>
    obtain ⟨hflag, hmore⟩ := List.forall_mem_cons.1 hfs
    have hc : c = '-' ∨ c = '0' ∨ c = '+' ∨ c = ' ' ∨ c = '#' := of_decide_eq_true hflag
    rcases hc with rfl | rfl | rfl | rfl | rfl <;> simp [flags, ih _ hmore]

/-- Digits are taken up to the first character that is none. -/
theorem count?_append (hds : ∀ c ∈ ds, c.isDigit = true)
    (hrest : ∀ c ∈ rest.head?, c.isDigit = false) :
    count? (ds ++ rest) = (if ds.isEmpty then none else some (Decimal.value ds), rest) := by
  obtain ⟨htake, hdrop⟩ := takeWhile_dropWhile_append hds hrest
  rw [count?, htake, hdrop]

theorem Head.not_isDigit (hrest : ∀ c ∈ rest.head?, h.goesOn c = false) :
    ∀ c ∈ rest.head?, c.isDigit = false := by
  intro c hc
  have hgoesOn := hrest c hc
  rw [goesOn, Bool.or_eq_false_iff] at hgoesOn
  exact hgoesOn.1

/-- Behind a head without a precision, neither a point nor, if there is no width, a flag comes. -/
theorem Head.not_point (hrest : ∀ c ∈ rest.head?, h.goesOn c = false)
    (hprecision : h.precision = none) :
    ∀ c ∈ rest.head?, c ≠ '.' ∧ (h.width = [] → isFlag c = false) := by
  intro c hc
  have hgoesOn := hrest c hc
  simp only [goesOn, hprecision, Option.isNone_none, Bool.true_and, Bool.or_eq_false_iff,
    decide_eq_false_iff_not] at hgoesOn
  exact ⟨hgoesOn.2.1, fun hwidth => by simpa [hwidth] using hgoesOn.2.2⟩

/-- Behind the flags of a head, no other flag comes. -/
theorem Head.not_isFlag (hrest : ∀ c ∈ rest.head?, h.goesOn c = false) :
    ∀ c ∈ (h.width ++ (h.precisionText ++ rest)).head?, isFlag c = false := by
  intro c hc
  cases hwidth : h.width with
  | cons d ds =>
    have hd : d.isDigit = true := h.isDigit_of_mem d (hwidth ▸ List.mem_cons_self)
    have hzero : d ≠ '0' := fun heq => h.head?_ne_zero (by rw [hwidth, heq]; rfl)
    rw [hwidth] at hc
    cases hc
    exact not_isFlag_of_isDigit hd hzero
  | nil =>
    rw [hwidth, List.nil_append] at hc
    cases hprecision : h.precision with
    | some ds =>
      rw [precisionText, hprecision] at hc
      cases hc
      rfl
    | none =>
      rw [precisionText, hprecision] at hc
      exact (h.not_point hrest hprecision c hc).2 hwidth

/-- Behind the width of a head, no other digit comes. -/
theorem Head.not_isDigit_precision (hrest : ∀ c ∈ rest.head?, h.goesOn c = false) :
    ∀ c ∈ (h.precisionText ++ rest).head?, c.isDigit = false := by
  intro c hc
  cases hprecision : h.precision with
  | some ds =>
    rw [precisionText, hprecision] at hc
    cases hc
    rfl
  | none =>
    rw [precisionText, hprecision] at hc
    exact Head.not_isDigit hrest c hc

/-- A width that is too large leaves a note and counts for nothing. -/
theorem Head.refuse_width (h : Head) :
    (if (if h.width.isEmpty then none else some (Decimal.value h.width)).any (largest < ·) then
      ("%!(BADWIDTH)".toList, none)
      else ([], if h.width.isEmpty then none else some (Decimal.value h.width))) =
      (h.widthNote, h.spec.width) := by
  cases hwidth : h.width with
  | nil => simp [widthNote, spec, hwidth, Decimal.value]
  | cons d ds =>
    by_cases hlarge : largest < Decimal.value (d :: ds) <;>
      simp [widthNote, spec, accepted, hwidth, hlarge]

/-- A head is taken up to the first character that does not belong to it. -/
theorem directive_text (hrest : ∀ c ∈ rest.head?, h.goesOn c = false) :
    directive (h.text ++ rest) = (h.notes, h.spec, rest) := by
  have hflags : flags .plain (h.text ++ rest) =
      (⟨'-' ∈ h.flags, '0' ∈ h.flags, '+' ∈ h.flags, none, none⟩,
        h.width ++ (h.precisionText ++ rest)) := by
    rw [Head.text, List.append_assoc, List.append_assoc,
      flags_append .plain h.isFlag_of_mem (Head.not_isFlag hrest)]
    simp [Spec.plain]
  have hwidth : count? (h.width ++ (h.precisionText ++ rest)) =
      (if h.width.isEmpty then none else some (Decimal.value h.width), h.precisionText ++ rest) :=
    count?_append h.isDigit_of_mem (Head.not_isDigit_precision hrest)
  have hspec : h.spec = ⟨'-' ∈ h.flags, '0' ∈ h.flags, '+' ∈ h.flags, h.spec.width,
      h.precision.bind Head.accepted⟩ := rfl
  unfold directive
  simp only [hflags, hwidth, h.refuse_width]
  cases hprecision : h.precision with
  | none =>
    -- without a precision no point may follow, or it would start one
    have hpoint (cs : List Char) : rest ≠ '.' :: cs := by
      rintro rfl
      exact (h.not_point hrest hprecision '.' rfl).1 rfl
    have hnotes : h.notes = h.widthNote := by
      rw [Head.notes, Head.precisionNote, hprecision]
      exact List.append_nil _
    rw [Head.precisionText, hprecision, List.nil_append, hnotes, hspec, hprecision]
    split
    · next cs => exact absurd rfl (hpoint cs)
    · rfl
  | some ds =>
    have hdigits : count? (ds ++ rest) =
        (if ds.isEmpty then none else some (Decimal.value ds), rest) :=
      count?_append (h.isDigit_of_mem_precision ds hprecision) (Head.not_isDigit hrest)
    -- a point without digits asks for the precision 0
    have hvalue : (if ds.isEmpty then none else some (Decimal.value ds)).getD 0 =
        Decimal.value ds := by
      cases ds <;> rfl
    rw [Head.precisionText, hprecision, List.cons_append]
    simp only [hdigits, hvalue]
    rw [Head.notes, Head.precisionNote, hspec, hprecision, Option.any_some, Option.bind_some,
      Head.accepted]
    by_cases hlarge : largest < Decimal.value ds
    · rw [if_pos hlarge, if_pos hlarge, if_pos (decide_eq_true hlarge)]
    · rw [if_neg hlarge, if_neg hlarge, if_neg (mt of_decide_eq_true hlarge), List.append_nil]

end Reading

/-! ## Cutting templates into pieces -/

section Cutting

variable {cs rest : List Char}

/-- A run of characters of one kind ends at a character of another kind. -/
theorem not_of_dropWhile {p : Char → Bool} : ∀ c ∈ (cs.dropWhile p).head?, p c = false := by
  intro c hc
  have h := List.head?_dropWhile_not p cs
  rw [hc] at h
  exact h

/-- Every text starts with a head, which may be empty. -/
theorem exists_head (cs : List Char) :
    ∃ (h : Head) (rest : List Char), cs = h.text ++ rest ∧
      ∀ c ∈ rest.head?, h.goesOn c = false := by
  let behindFlags := cs.dropWhile isFlag
  let width := behindFlags.takeWhile Char.isDigit
  let behindWidth := behindFlags.dropWhile Char.isDigit
  have hcs : cs.takeWhile isFlag ++ (width ++ behindWidth) = cs := by
    rw [List.takeWhile_append_dropWhile, List.takeWhile_append_dropWhile]
  have hflags : ∀ c ∈ cs.takeWhile isFlag, isFlag c = true := fun c hc =>
    List.all_eq_true.1 List.all_takeWhile c hc
  have hwidth : ∀ c ∈ width, c.isDigit = true := fun c hc =>
    List.all_eq_true.1 List.all_takeWhile c hc
  -- a zero would be one of the flags
  have hzero : width.head? ≠ some '0' := by
    intro hhead
    have hfirst : behindFlags.head? = some '0' := by
      rw [List.head?_takeWhile] at hhead
      exact (Option.filter_eq_some_iff.1 hhead).1
    exact Bool.false_ne_true (not_of_dropWhile '0' hfirst).symm
  by_cases hpoint : ∃ cs', behindWidth = '.' :: cs'
  · obtain ⟨cs', hbehind⟩ := hpoint
    refine ⟨⟨cs.takeWhile isFlag, width, some (cs'.takeWhile Char.isDigit), hflags, hwidth, hzero,
      ?_⟩, cs'.dropWhile Char.isDigit, ?_, ?_⟩
    · rintro ds ⟨⟩ c hc
      exact List.all_eq_true.1 List.all_takeWhile c hc
    · simp only [Head.text, Head.precisionText, List.append_assoc, List.cons_append,
        List.takeWhile_append_dropWhile]
      rw [← hbehind, hcs]
    · intro c hc
      simp [Head.goesOn, not_of_dropWhile c hc]
  · refine ⟨⟨cs.takeWhile isFlag, width, none, hflags, hwidth, hzero, by simp⟩, behindWidth, ?_, ?_⟩
    · simp only [Head.text, Head.precisionText, List.append_nil, List.append_assoc]
      exact hcs.symm
    · intro c hc
      have hdigit : c.isDigit = false := not_of_dropWhile c hc
      have hne : c ≠ '.' := by
        rintro rfl
        exact hpoint (List.head?_eq_some_iff.1 hc)
      have hflag : width = [] → isFlag c = false := by
        intro hwidth
        have hbehind : behindWidth = behindFlags := by
          rw [← List.nil_append behindWidth, ← hwidth, List.takeWhile_append_dropWhile]
        exact not_of_dropWhile c (hbehind ▸ hc)
      simpa [Head.goesOn, hdigit, hne] using hflag

/-- Every template is made of pieces, or breaks off. -/
theorem exists_textOf_or_breaksOff (cs : List Char) :
    (∃ pieces, cs = textOf pieces) ∨ BreaksOff cs := by
  -- a directive takes any number of characters, so the induction is on how many are left
  induction hn : cs.length using Nat.strongRecOn generalizing cs with
  | ind n ih =>
    cases cs with
    | nil => exact .inl ⟨[], rfl⟩
    | cons c cs =>
      by_cases hc : c = '%'
      · subst hc
        -- the head takes all it can: the character behind it is the verb, or the text has ended
        obtain ⟨h, rest, rfl, hrest⟩ := exists_head cs
        cases rest with
        | nil => exact .inr ⟨[], h, by simp [textOf]⟩
        | cons verb rest =>
          let d : Directive := ⟨h, verb, hrest verb rfl⟩
          have hlength : rest.length < n := by
            rw [← hn, List.length_cons, List.length_append, List.length_cons]
            omega
          rcases ih rest.length hlength rest rfl with ⟨pieces, rfl⟩ | ⟨pieces, h', rfl⟩
          · exact .inl ⟨.directive d :: pieces, (textOf_directive d pieces).symm⟩
          · refine .inr ⟨.directive d :: pieces, h', ?_⟩
            rw [textOf_directive]
            simp [d]
      · have hlength : cs.length < n := by
          rw [← hn, List.length_cons]
          omega
        rcases ih cs.length hlength cs rfl with ⟨pieces, rfl⟩ | ⟨pieces, h, rfl⟩
        · exact .inl ⟨.char c hc :: pieces, rfl⟩
        · exact .inr ⟨.char c hc :: pieces, h, rfl⟩

/-- What stands behind a head is behind it however the text is read. -/
theorem rest_eq_of_text {h h' : Head} {rest' : List Char} (heq : h.text ++ rest = h'.text ++ rest')
    (hrest : ∀ c ∈ rest.head?, h.goesOn c = false)
    (hrest' : ∀ c ∈ rest'.head?, h'.goesOn c = false) : rest = rest' := by
  have hread := directive_text hrest
  rw [heq, directive_text hrest'] at hread
  exact (congrArg (·.2.2) hread).symm

/-- A template that is made of pieces does not break off. -/
theorem not_breaksOff_textOf (pieces : List Piece) : ¬ BreaksOff (textOf pieces) := by
  rintro ⟨others, h, heq⟩
  -- both texts are cut into pieces in one way only, so the pieces are taken off in pairs
  induction pieces generalizing others with
  | nil => cases others <;> simp [textOf] at heq
  | cons p pieces ih =>
    cases p with
    | char c plain =>
      rw [textOf_char] at heq
      cases others with
      | nil => exact plain (List.cons.inj heq).1
      | cons q others =>
        cases q with
        | char c' plain' => exact ih others (List.cons.inj heq).2
        | directive d =>
          rw [textOf_directive] at heq
          exact plain (List.cons.inj heq).1
    | directive d =>
      rw [textOf_directive] at heq
      cases others with
      | nil =>
        -- the directive has a verb, and the head that breaks off has none
        have htext := (List.cons.inj heq).2.trans (List.append_nil h.text).symm
        cases rest_eq_of_text htext (d.not_goesOn_of_mem _) (by simp)
      | cons q others =>
        cases q with
        | char c plain => exact plain (List.cons.inj heq).1.symm
        | directive d' =>
          rw [textOf_directive, List.cons_append, List.append_assoc] at heq
          -- the verbs end the two heads, which are therefore the same
          have hrest := rest_eq_of_text (List.cons.inj heq).2 (d.not_goesOn_of_mem _)
            (d'.not_goesOn_of_mem _)
          exact ih others (List.cons.inj hrest).2

end Cutting

end Sluice.Template
