import Sluice.Expr.Function
import Sluice.Proofs.Arithmetic.Comparing
import Sluice.Proofs.Templates.Filling

/-!
# Integers in templates

An integer under the verb `d` or `v` becomes one numeral in a field: a sign, the digits of its
absolute value, and what fills the field up to its width.  The verb `d` takes an integer beyond 63
bits and a sign for something else than an integer.

* `signOf`, `field` : the sign of an integer, and a numeral in a field;
* `sized` : a directive with flags and a width.
-/

namespace Sluice.Template

/-- The sign of an integer under some flags: `-` below zero, otherwise `+` if there is the flag for
it. -/
def signOf (flags : List Char) (i : Int) : List Char :=
  if i < 0 then ['-'] else if '+' ∈ flags then ['+'] else []

/-- A sign and a body in a field: what is missing up to the width are blanks behind both, zeros
between them, or blanks in front of both, as the flags say. -/
def field (flags : List Char) (width : Nat) (sign body : List Char) : List Char :=
  let missing := width - (sign ++ body).length
  if '-' ∈ flags then sign ++ body ++ List.replicate missing ' '
  else if '0' ∈ flags then sign ++ List.replicate missing '0' ++ body
  else List.replicate missing ' ' ++ sign ++ body

/-- The digits of a width; the width `0` is left out. -/
def widthText (width : Nat) : List Char := if width = 0 then [] else Decimal.digits width

def sized (flags : List Char) (width : Nat) (verb : Char) : List Char :=
  '%' :: (flags ++ widthText width ++ [verb])

theorem length_field (flags : List Char) (width : Nat) (sign body : List Char) :
    (field flags width sign body).length = max width (sign ++ body).length := by
  unfold field
  split
  · simp only [List.length_append, List.length_replicate]
    omega
  · split <;>
    · simp only [List.length_append, List.length_replicate]
      omega

/-! ## Numerals -/

section Numerals

variable {i : Int} {flags : List Char}

/-- An integer as a numeral reads back. -/
theorem exponent?_signOf_digits (flags : List Char) (i : Int) :
    Decimal.exponent? (signOf flags i ++ Decimal.digits i.natAbs) = some i := by
  obtain ⟨d, ds, hdigits, hds⟩ := Decimal.exists_digits i.natAbs
  have hvalue : Decimal.value (d :: ds) = i.natAbs := hdigits ▸ Decimal.value_digits i.natAbs
  have hdigit : ¬ ((d :: ds).isEmpty = true ∨ ¬ (d :: ds).all Char.isDigit = true) := by
    rw [List.all_eq_true.2 hds]
    simp
  rw [hdigits, signOf]
  by_cases hneg : i < 0
  · rw [if_pos hneg, List.singleton_append, Decimal.exponent?, if_neg hdigit, hvalue]
    simp only [if_true, Option.some.injEq]
    omega
  · have hi : (i.natAbs : Int) = i := by omega
    rw [if_neg hneg]
    split
    · rw [List.singleton_append, Decimal.exponent?, if_neg hdigit, hvalue, hi]
      rfl
    · -- the first digit is no sign
      rw [List.nil_append, Decimal.exponent?, if_neg hdigit, hvalue, hi]
      · rfl
      · rintro rest ⟨⟩
        exact absurd (hds '-' List.mem_cons_self) (by decide)
      · rintro rest ⟨⟩
        exact absurd (hds '+' List.mem_cons_self) (by decide)

/-- An integer is below zero as a float if it is so itself. -/
theorem ofInt_lt_zero (fits : Number.Fits i) : Float.ofInt i < 0.0 ↔ i < 0 := by
  have hzero : (0.0 : Float) = Float.ofInt 0 := by decide
  have hrounded : Decimal.roundedInt 0 = 0 ∧ Decimal.roundedInt (-1) = -1 := by decide
  rw [hzero, Expr.ofInt_lt_ofInt fits (by decide), hrounded.1]
  constructor
  · intro hlt
    by_contra hnonneg
    have hle := Decimal.roundedInt_mono (Int.not_lt.1 hnonneg)
    omega
  · intro hneg
    have hle := Decimal.roundedInt_mono (show i ≤ -1 by omega)
    omega

end Numerals

/-! ## Directives with flags and a width -/

section Sized

variable {i : Int} {flags sign body : List Char} {width : Nat} {verb : Char}

/-- What flags and a width ask for. -/
def Spec.sized (flags : List Char) (width : Nat) : Spec :=
  ⟨'-' ∈ flags, '0' ∈ flags, '+' ∈ flags, if width = 0 then none else some width, none⟩

theorem isDigit_of_mem_widthText {c : Char} (hc : c ∈ widthText width) : c.isDigit = true := by
  unfold widthText at hc
  split at hc
  · cases hc
  · exact Decimal.isDigit_of_mem_digits hc

theorem head?_widthText_ne_zero (width : Nat) : (widthText width).head? ≠ some '0' := by
  unfold widthText
  split
  · simp
  · next hwidth => exact Decimal.head?_digits_ne_zero (Nat.pos_of_ne_zero hwidth)

theorem value_widthText (width : Nat) : Decimal.value (widthText width) = width := by
  unfold widthText
  split
  · next hwidth => exact hwidth.symm
  · exact Decimal.value_digits width

theorem isEmpty_widthText (width : Nat) : (widthText width).isEmpty = decide (width = 0) := by
  by_cases hwidth : width = 0
  · simp [widthText, hwidth]
  · have hdigits : Decimal.digits width ≠ [] := Nat.toDigits_ne_nil
    simp [widthText, hwidth, hdigits]

/-- The head with some flags and a width. -/
def Head.sized (flags : List Char) (width : Nat) (hflags : ∀ c ∈ flags, isFlag c = true) :
    Head where
  flags := flags
  width := widthText width
  precision := none
  isFlag_of_mem := hflags
  isDigit_of_mem _ := isDigit_of_mem_widthText
  head?_ne_zero := head?_widthText_ne_zero width
  isDigit_of_mem_precision := by simp

theorem Head.notes_sized (hflags : ∀ c ∈ flags, isFlag c = true) (hwidth : width ≤ largest) :
    (Head.sized flags width hflags).notes = [] := by
  have hnote : (Head.sized flags width hflags).widthNote = [] := by
    rw [widthNote, sized, value_widthText, if_neg (Nat.not_lt.2 hwidth)]
  rw [notes, hnote]
  rfl

theorem Head.spec_sized (hflags : ∀ c ∈ flags, isFlag c = true) (hwidth : width ≤ largest) :
    (Head.sized flags width hflags).spec = .sized flags width := by
  have haccepted : accepted (widthText width) = some width := by
    rw [accepted, value_widthText, if_neg (Nat.not_lt.2 hwidth)]
  rw [spec, Spec.sized, sized, haccepted, isEmpty_widthText]
  simp only [decide_eq_true_eq, Option.bind_none]

theorem format_sized (hflags : ∀ c ∈ flags, isFlag c = true) (hwidth : width ≤ largest)
    (hverb : verb = 'd' ∨ verb = 'v') (arg : Json) :
    format (String.ofList (sized flags width verb)) [arg] =
      String.ofList (pad (render verb arg (.sized flags width)) (.sized flags width)
        (isNumber arg)) := by
  have hgoesOn : (Head.sized flags width hflags).goesOn verb = false := by
    rcases hverb with rfl | rfl <;> simp [Head.goesOn, isFlag]
  have hpercent : verb ≠ '%' := by
    rcases hverb with rfl | rfl <;> decide
  let d : Directive := ⟨Head.sized flags width hflags, verb, hgoesOn⟩
  have htext : d.text = sized flags width verb := by
    simp [d, Directive.text, Head.text, Head.precisionText, Head.sized, Template.sized]
  have hfill := fill_directive d [] [arg]
  rw [List.append_nil, fill_nil, List.append_nil, htext, Directive.filled.eq_def, if_neg hpercent,
    Head.notes_sized hflags hwidth, List.nil_append] at hfill
  rw [format, String.toList_ofList, hfill]
  simp only [d, Head.spec_sized hflags hwidth]

/-- A sign and a body without one are padded as a field. -/
theorem pad_append (hsign : sign = [] ∨ sign = ['-'] ∨ sign = ['+'])
    (hbody : ∀ c ∈ body.head?, c ≠ '-' ∧ c ≠ '+') :
    pad (sign ++ body) (.sized flags width) true = field flags width sign body := by
  have hwidth : (Spec.sized flags width).width.getD 0 = width := by
    by_cases hzero : width = 0 <;> simp [Spec.sized, hzero]
  unfold pad field
  simp only [hwidth]
  by_cases hmissing : width - (sign ++ body).length = 0
  · simp only [hmissing, List.replicate_zero, List.append_nil, List.nil_append, if_true, ite_self]
  rw [if_neg hmissing]
  by_cases hleft : '-' ∈ flags
  · simp [Spec.sized, hleft]
  by_cases hzero : '0' ∈ flags
  · simp only [Spec.sized, hleft, hzero, decide_false, decide_true, Bool.false_eq_true, if_false,
      and_self, if_true]
    rcases hsign with rfl | rfl | rfl
    · cases body with
      | nil => simp
      | cons c cs =>
        obtain ⟨hminus, hplus⟩ := hbody c rfl
        simp [hminus, hplus]
    · simp
    · simp
  · simp [Spec.sized, hleft, hzero]

theorem signed_printInt (flags : List Char) (width : Nat) (i : Int) :
    (Spec.sized flags width).signed (decide (i < 0)) (Number.printInt i) =
      signOf flags i ++ Decimal.digits i.natAbs := by
  by_cases hneg : i < 0
  · simp [Spec.signed, Number.printInt, signOf, hneg]
  · by_cases hflag : '+' ∈ flags <;>
      simp [Spec.signed, Spec.sized, Number.printInt, signOf, hneg, hflag]

theorem render_number (verb : Char) (n : Number) (spec : Spec) :
    render verb (.number n) spec = renderNumber verb n spec := rfl

theorem isNumber_number (n : Number) : isNumber (.number n) = true := rfl

theorem render_integer (fits : Number.Fits i) (spec : Spec)
    (hverb : verb = 'v' ∨ verb = 'd' ∧ i < 9223372036854775808) :
    render verb (.number (.int i fits)) spec =
      spec.signed (decide (i < 0)) (Number.printInt i) := by
  rcases hverb with rfl | ⟨rfl, hi⟩
  · have hsign : decide ((Number.int i fits).toFloat < 0.0) = decide (i < 0) :=
      decide_eq_decide.2 (ofInt_lt_zero fits)
    rw [render_number, renderNumber.eq_def]
    simp only [hsign]
    rfl
  · have hsigned : (Number.int i fits).toSigned? = some i := if_pos hi
    rw [render_number, renderNumber.eq_def]
    simp only [hsigned]

/-- Beyond 63 bits and a sign, the verb `d` does not suit an integer. -/
theorem render_large (fits : Number.Fits i) (spec : Spec) (hi : 9223372036854775808 ≤ i) :
    render 'd' (.number (.int i fits)) spec =
      "%!d(number=".toList ++ Decimal.digits i.natAbs ++ [')'] := by
  have hsigned : (Number.int i fits).toSigned? = none := if_neg (Int.not_lt.2 hi)
  have hprint : (Json.number (.int i fits)).display.toList = Decimal.digits i.natAbs := by
    have hneg : ¬ i < 0 := by omega
    rw [Json.display, Json.text, String.toList_ofList, Json.print, Number.print, Number.printInt,
      if_neg hneg]
    intro s hs
    cases hs
  have hrender : render 'd' (.number (.int i fits)) spec =
      unsuitable 'd' (.number (.int i fits)) := by
    rw [render_number, renderNumber.eq_def]
    simp only [hsigned]
    rfl
  have hnote : "%!d(number=".toList = '%' :: '!' :: 'd' :: '(' :: "number".toList ++ ['='] := rfl
  have hkind : (Json.number (.int i fits)).kind.name = "number" := rfl
  rw [hrender, unsuitable, hprint, hkind, hnote, List.append_assoc _ ['=']]
  rfl

end Sized

/-! ## Calls -/

section Calls

variable {i : Int} {flags : List Char} {width : Nat} {verb : Char}

theorem call_format (t : String) (args : List Json) :
    Expr.Function.call "format" (.string t :: args) = .ok (.string (format t args)) := rfl

theorem call_format_integer (fits : Number.Fits i) (hflags : ∀ c ∈ flags, isFlag c = true)
    (hwidth : width ≤ largest) (hverb : verb = 'v' ∨ verb = 'd' ∧ i < 9223372036854775808) :
    Expr.Function.call "format"
        [.string (String.ofList (sized flags width verb)), .number (.int i fits)] =
      .ok (.string (String.ofList
        (field flags width (signOf flags i) (Decimal.digits i.natAbs)))) := by
  have hsign : signOf flags i = [] ∨ signOf flags i = ['-'] ∨ signOf flags i = ['+'] := by
    unfold signOf
    split
    · exact .inr (.inl rfl)
    · split
      · exact .inr (.inr rfl)
      · exact .inl rfl
  have hbody : ∀ c ∈ (Decimal.digits i.natAbs).head?, c ≠ '-' ∧ c ≠ '+' := by
    intro c hc
    have hdigit := Decimal.isDigit_of_mem_digits (List.mem_of_mem_head? hc)
    constructor
    · rintro rfl
      cases hdigit
    · rintro rfl
      cases hdigit
  rw [call_format, format_sized hflags hwidth (hverb.symm.imp_left And.left),
    render_integer fits _ hverb, signed_printInt, isNumber_number, pad_append hsign hbody]

/-- What the verb `d` makes of an integer that it does not suit is padded too. -/
theorem call_format_large (fits : Number.Fits i) (hflags : ∀ c ∈ flags, isFlag c = true)
    (hwidth : width ≤ largest) (hi : 9223372036854775808 ≤ i) :
    Expr.Function.call "format"
        [.string (String.ofList (sized flags width 'd')), .number (.int i fits)] =
      .ok (.string (String.ofList (field flags width []
        ("%!d(number=".toList ++ Decimal.digits i.natAbs ++ [')'])))) := by
  have hbody : ∀ c ∈ ("%!d(number=".toList ++ Decimal.digits i.natAbs ++ [')']).head?,
      c ≠ '-' ∧ c ≠ '+' := by
    rintro c ⟨⟩
    decide
  have hpad := @pad_append flags [] _ width (.inl rfl) hbody
  rw [List.nil_append] at hpad
  rw [call_format, format_sized hflags hwidth (.inl rfl), render_large fits _ hi, isNumber_number,
    hpad]

end Calls

/-- An integer under the verb `v`, and under `d` as long as it has 63 bits and a sign, becomes one
numeral, whatever flags and width the directive has: its sign and the digits of its absolute value,
which read back as the integer, in a field of the width, or as long as they are.  Zeros stand
between sign and digits, blanks in front of both or behind them.  Larger integers are refused by
`d`, which leaves a note in the field instead. -/
theorem format_integer_one_numeral (i : Int) (fits : Number.Fits i) (flags : List Char)
    (hflags : ∀ c ∈ flags, isFlag c = true) (width : Nat) (hwidth : width ≤ 1000000) (verb : Char)
    (hverb : verb = 'd' ∨ verb = 'v') :
    let sign := signOf flags i
    let digits := Decimal.digits i.natAbs
    let template := String.ofList (sized flags width verb)
    let formatted := Expr.Function.call "format" [.string template, .number (.int i fits)]
    Decimal.exponent? (sign ++ digits) = some i ∧
    (field flags width sign digits).length = max width (sign ++ digits).length ∧
    (verb = 'v' ∨ i < 9223372036854775808 →
      formatted = .ok (.string (String.ofList (field flags width sign digits)))) ∧
    (verb = 'd' → 9223372036854775808 ≤ i →
      formatted = .ok (.string (String.ofList
        (field flags width [] ("%!d(number=".toList ++ digits ++ [')']))))) := by
  intro sign digits template formatted
  refine ⟨exponent?_signOf_digits flags i, length_field flags width sign digits, ?_, ?_⟩
  · intro hsuits
    refine call_format_integer fits hflags hwidth ?_
    rcases hverb with rfl | rfl
    · exact .inr ⟨rfl, hsuits.resolve_left (by decide)⟩
    · exact .inl rfl
  · rintro rfl hlarge
    exact call_format_large fits hflags hwidth hlarge

/-- The lowest integer with zeros behind its sign, and the largest one under both verbs. -/
theorem format_integer_one_numeral_at_limits :
    let lowest := Json.number (.int (-9223372036854775808) (by decide))
    let greatest := Json.number (.int 18446744073709551615 (by decide))
    let format (template : String) (arg : Json) :=
      Expr.Function.call "format" [.string template, arg]
    (∀ c ∈ ['0', '+'], isFlag c = true) ∧ 24 ≤ 1000000 ∧
    format "%0+24d" lowest = .ok (.string "-00009223372036854775808") ∧
    format "%0+24v" greatest = .ok (.string "+00018446744073709551615") ∧
    format "%0+24d" greatest = .ok (.string "%!d(number=18446744073709551615)") := by
  intro lowest greatest format
  have hflags : ∀ c ∈ ['0', '+'], isFlag c = true := by simp [isFlag]
  obtain ⟨-, -, hlowest, -⟩ := format_integer_one_numeral (-9223372036854775808) (by decide)
    ['0', '+'] hflags 24 (by decide) 'd' (.inl rfl)
  obtain ⟨-, -, hgreatest, -⟩ := format_integer_one_numeral 18446744073709551615 (by decide)
    ['0', '+'] hflags 24 (by decide) 'v' (.inr rfl)
  obtain ⟨-, -, -, hrefused⟩ := format_integer_one_numeral 18446744073709551615 (by decide)
    ['0', '+'] hflags 24 (by decide) 'd' (.inl rfl)
  have htemplates : String.ofList (sized ['0', '+'] 24 'd') = "%0+24d" ∧
      String.ofList (sized ['0', '+'] 24 'v') = "%0+24v" := by decide
  have htexts :
      String.ofList (field ['0', '+'] 24 (signOf ['0', '+'] (-9223372036854775808))
        (Decimal.digits (-9223372036854775808 : Int).natAbs)) = "-00009223372036854775808" ∧
      String.ofList (field ['0', '+'] 24 (signOf ['0', '+'] 18446744073709551615)
        (Decimal.digits (18446744073709551615 : Int).natAbs)) = "+00018446744073709551615" ∧
      String.ofList (field ['0', '+'] 24 [] ("%!d(number=".toList ++
        Decimal.digits (18446744073709551615 : Int).natAbs ++ [')'])) =
          "%!d(number=18446744073709551615)" := by decide
  rw [htemplates.1, htexts.1] at hlowest
  rw [htemplates.2, htexts.2.1] at hgreatest
  rw [htemplates.1, htexts.2.2] at hrefused
  exact ⟨hflags, by decide, hlowest (.inr (by decide)), hgreatest (.inl rfl),
    hrefused rfl (by decide)⟩

/-- The verb `d` refuses the first integer beyond 63 bits and a sign, of which `v` makes a
numeral. -/
theorem format_refuses_large_integer :
    let large := Json.number (.int 9223372036854775808 (by decide))
    let format (template : String) := Expr.Function.call "format" [.string template, large]
    format "%d" = .ok (.string "%!d(number=9223372036854775808)") ∧
    format "%d" ≠ .ok (.string "9223372036854775808") ∧
    format "%v" = .ok (.string "9223372036854775808") := by
  intro large format
  have hfits : Number.Fits 9223372036854775808 := by decide
  have hrefused := @call_format_large _ [] 0 hfits (by simp) (by decide) (by decide)
  have hprinted := @call_format_integer _ [] 0 'v' hfits (by simp) (by decide) (.inl rfl)
  have htemplates : String.ofList (sized [] 0 'd') = "%d" ∧
      String.ofList (sized [] 0 'v') = "%v" := by decide
  have htexts :
      String.ofList (field [] 0 [] ("%!d(number=".toList ++
        Decimal.digits (9223372036854775808 : Int).natAbs ++ [')'])) =
          "%!d(number=9223372036854775808)" ∧
      String.ofList (field [] 0 (signOf [] 9223372036854775808)
        (Decimal.digits (9223372036854775808 : Int).natAbs)) = "9223372036854775808" := by decide
  rw [htemplates.1, htexts.1] at hrefused
  rw [htemplates.2, htexts.2] at hprinted
  refine ⟨hrefused, fun heq => ?_, hprinted⟩
  have hsame := Json.string.inj (Except.ok.inj (hrefused.symm.trans heq))
  exact absurd hsame (by decide)

end Sluice.Template
