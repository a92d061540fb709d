import Mathlib
import Sluice.Expr.Function
import Sluice.Proofs.Query.Taking

/-!
# Definite paths

The text of a path is scanned for signs outside quotes by which it can lead to several places.  What
the scan says is compared with the segments that the text is read as: first to the shape in which
these are spelled, then along this shape.

The scan looks back one character to tell a quote that ends a name from an escaped one.  A backslash
that is itself escaped misleads it, so names that end in a backslash are left out.
-/

namespace Sluice.Query

open Reader
open Token (QuotedName)

/-! ## How paths are spelled -/

/-- Whether a character outside quotes shows that a path can lead to several places. -/
def isSign (c : Char) : Bool := c = '*' ∨ c = '?' ∨ c = ':' ∨ c = ','

/-- How a selector that leads to one place is spelled. -/
inductive SelectorText : List Char → Prop
  | name {q : Char} {body : List Char} (hq : q = '\'' ∨ q = '"') (hbody : QuotedName q body) :
    SelectorText (q :: (body ++ [q]))
  | index {cs : List Char} (h : Within inInteger cs) : SelectorText cs

/-- How a segment that leads to one place is spelled. -/
inductive SegmentText : List Char → Prop
  | member {c : Char} {cs : List Char} (hc : startsName c = true) (hcs : Within inMember cs) :
    SegmentText ('.' :: c :: cs)
  | bracket {gap text gap' : List Char} (hgap : Within isBlank gap) (htext : SelectorText text)
    (hgap' : Within isBlank gap') : SegmentText ('[' :: (gap ++ (text ++ (gap' ++ [']']))))

/-- How a text starts whose first segment can lead to several places.  In brackets the first sign
stands at the beginning, or behind an integer or a quoted name. -/
inductive Forks : List Char → Prop
  | deep {cs : List Char} : Forks ('.' :: '.' :: cs)
  | star {cs : List Char} : Forks ('.' :: '*' :: cs)
  | bracket {gap text gap' : List Char} {c : Char} {cs : List Char} (hgap : Within isBlank gap)
    (htext : SelectorText text) (hgap' : Within isBlank gap') (hc : isSign c = true) :
    Forks ('[' :: (gap ++ (text ++ (gap' ++ c :: cs))))

/-- How segments are spelled, up to the first of them that can lead to several places. -/
inductive PathText : List Segment → List Char → Prop
  | nil : PathText [] []
  | one {s : Segment} {segments : List Segment} {gap text cs : List Char}
    (hs : s.isSingular = true) (hgap : Within isBlank gap) (htext : SegmentText text)
    (hcs : PathText segments cs) : PathText (s :: segments) (gap ++ (text ++ cs))
  | many {s : Segment} {segments : List Segment} {gap cs : List Char} (hs : s.isSingular = false)
    (hgap : Within isBlank gap) (hcs : Forks cs) : PathText (s :: segments) (gap ++ cs)

/-! ## Reading them -/

variable {condition : Reader Condition} {cs rest : List Char}

/-- What a slice has up to its first colon. -/
theorem slice_text {s : Selector} (h : slice.run cs = some (s, rest)) :
    s.isSingular = false ∧ ∃ text gap more, cs = text ++ (gap ++ ':' :: more) ∧
      Within inInteger text ∧ Within isBlank gap := by
  obtain ⟨start, cs₁, hstart, h₁⟩ := run_bind_eq_some h
  obtain ⟨_, cs₂, hcolon, h₂⟩ := run_bind_eq_some h₁
  obtain ⟨stop, _, -, h₃⟩ := run_bind_eq_some h₂
  obtain ⟨_, _, -, h₄⟩ := run_bind_eq_some h₃
  obtain ⟨step, _, -, h₅⟩ := run_bind_eq_some h₄
  obtain ⟨rfl, -⟩ := run_pure_eq_some h₅
  obtain ⟨text, rfl, htext⟩ :=
    Takes.option (P := fun _ t => Within inInteger t) takes_integer .nil _ _ _ hstart
  obtain ⟨_, rfl, gap, _, gap', rfl, rfl, hgap, -⟩ := (Takes.mark ':').padded _ _ _ hcolon
  exact ⟨rfl, text, gap, gap' ++ cs₂, by simp, htext, hgap⟩

theorem selector_text {s : Selector} (h : (selector condition).run cs = some (s, rest)) :
    (s.isSingular = true ∧ ∃ text, cs = text ++ rest ∧ SelectorText text) ∨
    (s.isSingular = false ∧ ∃ text gap c more, cs = text ++ (gap ++ c :: more) ∧
      SelectorText text ∧ Within isBlank gap ∧ isSign c = true) := by
  rcases run_orElse_eq_some h with hname | h
  · obtain ⟨key, hkey, rfl⟩ := run_map_eq_some hname
    obtain ⟨_, rfl, q, body, hq, hbody, rfl⟩ := takes_quotedKey _ _ _ hkey
    exact .inl ⟨rfl, _, rfl, .name hq hbody⟩
  rcases run_orElse_eq_some h with hwildcard | h
  · obtain ⟨_, more, hstar, hpure⟩ := run_bind_eq_some hwildcard
    obtain ⟨rfl, -⟩ := run_pure_eq_some hpure
    exact .inr ⟨rfl, [], [], '*', more, run_mark_eq_some hstar, .index .nil, .nil, rfl⟩
  rcases run_orElse_eq_some h with hslice | h
  · obtain ⟨hs, text, gap, more, rfl, htext, hgap⟩ := slice_text hslice
    exact .inr ⟨hs, text, gap, ':', more, rfl, .index htext, hgap, rfl⟩
  rcases run_orElse_eq_some h with hindex | hfilter
  · obtain ⟨i, hi, rfl⟩ := run_map_eq_some hindex
    obtain ⟨text, rfl, htext⟩ := takes_integer _ _ _ hi
    exact .inl ⟨rfl, text, rfl, .index htext⟩
  · obtain ⟨_, more, hmark, hmore⟩ := run_bind_eq_some hfilter
    obtain ⟨_, _, -, hcondition⟩ := run_bind_eq_some hmore
    obtain ⟨c, -, rfl⟩ := run_map_eq_some hcondition
    exact .inr ⟨rfl, [], [], '?', more, run_mark_eq_some hmark, .index .nil, .nil, rfl⟩

/-- One selector in brackets is followed by the bracket that closes them, several by a comma. -/
theorem brackets_text {selectors : List Selector}
    (h : (brackets condition).run cs = some (selectors, rest)) :
    ((Segment.step false selectors).isSingular = true ∧ ∃ text, cs = text ++ rest ∧
      SegmentText text) ∨
    ((Segment.step false selectors).isSingular = false ∧ Forks cs) := by
  obtain ⟨_, cs₁, hopen, h₁⟩ := run_bind_eq_some h
  obtain ⟨first, cs₂, hfirst, h₂⟩ := run_bind_eq_some h₁
  obtain ⟨more, cs₃, hmore, h₃⟩ := run_bind_eq_some h₂
  obtain ⟨_, cs₄, hclose, h₄⟩ := run_bind_eq_some h₃
  obtain ⟨rfl, rfl⟩ := run_pure_eq_some h₄
  -- blanks stand around the first selector
  obtain ⟨_, cs₅, hbefore, h₅⟩ := run_bind_eq_some hfirst
  obtain ⟨part, cs₆, hpart, h₆⟩ := run_bind_eq_some h₅
  obtain ⟨_, cs₇, hbehind, h₇⟩ := run_bind_eq_some h₆
  obtain ⟨rfl, rfl⟩ := run_pure_eq_some h₇
  obtain ⟨gap, rfl, hgap⟩ := takes_blanks _ _ _ hbefore
  obtain ⟨gap', rfl, hgap'⟩ := takes_blanks _ _ _ hbehind
  obtain rfl := run_mark_eq_some hopen
  rcases selector_text hpart with ⟨hone, text, rfl, htext⟩ |
    ⟨hmany, text, gap'', c, _, rfl, htext, hgap'', hc⟩
  · rcases run_times_eq_some hmore with ⟨rfl, rfl⟩ | ⟨a, as, _, _, rfl, -, hcomma, -⟩
    · obtain rfl := run_mark_eq_some hclose
      exact .inl ⟨hone, _, by simp, .bracket hgap htext hgap'⟩
    · obtain ⟨_, _, hcomma, -⟩ := run_bind_eq_some hcomma
      obtain rfl := run_mark_eq_some hcomma
      exact .inr ⟨rfl, .bracket hgap htext hgap' rfl⟩
  · refine .inr ⟨?_, .bracket hgap htext hgap'' hc⟩
    cases more with
    | nil => exact hmany
    | cons => rfl

theorem segment_text {s : Segment} (h : (segment condition).run cs = some (s, rest)) :
    (s.isSingular = true ∧ ∃ text, cs = text ++ rest ∧ SegmentText text) ∨
    (s.isSingular = false ∧ Forks cs) := by
  rcases run_orElse_eq_some h with hdeep | h
  · obtain ⟨_, more, hdots, hmore⟩ := run_bind_eq_some hdeep
    obtain ⟨_, rfl, rfl⟩ := takes_word _ _ _ _ hdots
    obtain ⟨selectors, -, rfl⟩ := run_map_eq_some hmore
    exact .inr ⟨rfl, .deep⟩
  rcases run_orElse_eq_some h with hdot | hbrackets
  · obtain ⟨_, more, hmark, hmore⟩ := run_bind_eq_some hdot
    obtain rfl := run_mark_eq_some hmark
    obtain ⟨selectors, hshorthand, rfl⟩ := run_map_eq_some hmore
    rcases run_orElse_eq_some hshorthand with hstar | hmember
    · obtain ⟨_, _, hmark, hpure⟩ := run_bind_eq_some hstar
      obtain ⟨rfl, -⟩ := run_pure_eq_some hpure
      obtain rfl := run_mark_eq_some hmark
      exact .inr ⟨rfl, .star⟩
    · obtain ⟨key, hkey, rfl⟩ := run_map_eq_some hmember
      obtain ⟨_, rfl, c, text, rfl, hc, htext⟩ := takes_memberName _ _ _ hkey
      exact .inl ⟨rfl, '.' :: c :: text, rfl, .member hc htext⟩
  · obtain ⟨selectors, hselectors, rfl⟩ := run_map_eq_some hbrackets
    exact brackets_text hselectors

/-- What is read as segments to the end of the text is spelled in their shape. -/
theorem segments_text {found : List Segment} (h : (segments condition).run cs = some (found, [])) :
    PathText found cs := by
  suffices ∀ n cs found, (times (do
      let _ ← blanks
      segment condition) n).run cs = some (found, []) → PathText found cs from
    this cs.length cs found h
  intro n
  induction n with
  | zero =>
    intro cs found h
    obtain ⟨rfl, rfl⟩ := run_pure_eq_some h
    exact .nil
  | succ n ih =>
    intro cs found h
    rcases run_times_eq_some h with ⟨rfl, rfl⟩ | ⟨s, more, mid, _, rfl, hn, hone, hmore⟩
    · exact .nil
    · cases hn
      have hmore := ih _ _ hmore
      obtain ⟨_, _, hblanks, hsegment⟩ := run_bind_eq_some hone
      obtain ⟨gap, rfl, hgap⟩ := takes_blanks _ _ _ hblanks
      rcases segment_text hsegment with ⟨hs, text, rfl, htext⟩ | ⟨hs, hforks⟩
      · exact .one hs hgap htext hmore
      · exact .many hs hgap hforks

/-- A text that is read as a path is spelled in the shape of its segments. -/
theorem ofText?_text {text : String} {found : List Segment} (h : ofText? text = some found) :
    ∃ cs, text.toList = '$' :: cs ∧ PathText found cs := by
  simp only [ofText?] at h
  split at h
  · next hrun =>
    cases h
    obtain ⟨_, cs, hmark, hsegments⟩ := run_bind_eq_some hrun
    exact ⟨cs, run_mark_eq_some hmark, segments_text hsegments⟩
  · cases h

/-! ## Scanning them -/

/-- Up to the first sign by which the path can lead to several places, no quoted name ends in a
backslash. -/
inductive PlainlyQuoted : List Char → Prop
  | nil : PlainlyQuoted []
  | plain {c : Char} {cs : List Char} (hc : c ≠ '\'' ∧ c ≠ '"') (hcs : PlainlyQuoted cs) :
    PlainlyQuoted (c :: cs)
  | quoted {q : Char} {body cs : List Char} (hq : q = '\'' ∨ q = '"') (hbody : QuotedName q body)
    (hend : body.getLast? ≠ some '\\') (hcs : PlainlyQuoted cs) :
    PlainlyQuoted (q :: (body ++ q :: cs))
  | sign {c : Char} {cs : List Char} (hc : isSign c = true) : PlainlyQuoted (c :: cs)
  | dots {cs : List Char} : PlainlyQuoted ('.' :: '.' :: cs)

/-- A character that the scan passes over, whatever stands before it. -/
def isCalm (c : Char) : Bool := ¬ (c = '\'' ∨ c = '"' ∨ c = '.' ∨ isSign c)

variable {c prev q : Char} {text body body' rest' : List Char}

theorem isCalm_of_avoids {p : Char → Bool}
    (hp : ['\'', '"', '.', '*', '?', ':', ','].any p = false) (h : p c = true) :
    isCalm c = true := by
  refine decide_eq_true fun hc => ?_
  have hmem : c ∈ ['\'', '"', '.', '*', '?', ':', ','] := by simpa [isSign] using hc
  exact List.any_eq_false.1 hp c hmem h

theorem isCalm_of_isBlank (h : isBlank c = true) : isCalm c = true := isCalm_of_avoids rfl h

theorem isCalm_of_inInteger (h : inInteger c = true) : isCalm c = true := isCalm_of_avoids rfl h

theorem isCalm_of_inName (h : inName c = true) : isCalm c = true := isCalm_of_avoids rfl h

theorem isCalm_of_inMember (h : inMember c = true) : isCalm c = true := by
  rcases Bool.or_eq_true_iff.1 h with h | h
  · exact isCalm_of_inName h
  · exact isCalm_of_isBlank h

theorem ne_of_isCalm (h : isCalm c = true) :
    c ≠ '\'' ∧ c ≠ '"' ∧ c ≠ '.' ∧ isSign c = false := by
  have h : ¬ (c = '\'' ∨ c = '"' ∨ c = '.' ∨ isSign c = true) := of_decide_eq_true h
  simpa [not_or] using h

theorem isDefinite_calm (h : isCalm c = true) :
    isDefinite none prev (c :: cs) = isDefinite none c cs := by
  obtain ⟨hsingle, hdouble, hdot, hsign⟩ := ne_of_isCalm h
  have hsign : ¬ (c = '*' ∨ c = '?' ∨ c = ':' ∨ c = ',') := of_decide_eq_false hsign
  simp [isDefinite, hsingle, hdouble, hdot, hsign]

theorem PlainlyQuoted.tail (hquote : c ≠ '\'' ∧ c ≠ '"') (hsign : isSign c = false)
    (hdots : c = '.' → cs.head? ≠ some '.') (h : PlainlyQuoted (c :: cs)) : PlainlyQuoted cs := by
  cases h with
  | plain hc hcs => exact hcs
  | quoted hq => rcases hq with rfl | rfl <;> simp at hquote
  | sign hc => rw [hc] at hsign; cases hsign
  | dots => exact absurd rfl (hdots rfl)

/-- Where a quoted name ends is determined by its text. -/
theorem QuotedName.unique (hq : q = '\'' ∨ q = '"') (h : QuotedName q body)
    (h' : QuotedName q body') (heq : body ++ q :: rest = body' ++ q :: rest') :
    body = body' ∧ rest = rest' := by
  have hback : q ≠ '\\' := by rcases hq with rfl | rfl <;> decide
  induction h generalizing body' with
  | nil =>
    cases h' with
    | nil => exact ⟨rfl, List.tail_eq_of_cons_eq heq⟩
    | plain hquote _ _ => exact absurd (List.head_eq_of_cons_eq heq).symm hquote
    | escape _ => exact absurd (List.head_eq_of_cons_eq heq) hback
  | plain hquote hplain _ ih =>
    cases h' with
    | nil => exact absurd (List.head_eq_of_cons_eq heq) hquote
    | plain _ _ h' =>
      obtain ⟨rfl, hrest⟩ := ih h' (List.tail_eq_of_cons_eq heq)
      exact ⟨by rw [List.head_eq_of_cons_eq heq], hrest⟩
    | escape _ => exact absurd (List.head_eq_of_cons_eq heq) hplain
  | escape _ ih =>
    cases h' with
    | nil => exact absurd (List.head_eq_of_cons_eq heq).symm hback
    | plain _ hplain _ => exact absurd (List.head_eq_of_cons_eq heq).symm hplain
    | escape h' =>
      have htail := List.tail_eq_of_cons_eq heq
      obtain ⟨rfl, hrest⟩ := ih h' (List.tail_eq_of_cons_eq htail)
      exact ⟨by rw [List.head_eq_of_cons_eq htail], hrest⟩

theorem PlainlyQuoted.of_name (hq : q = '\'' ∨ q = '"') (hbody : QuotedName q body)
    (h : PlainlyQuoted (q :: (body ++ q :: rest))) :
    body.getLast? ≠ some '\\' ∧ PlainlyQuoted rest := by
  generalize htext : q :: (body ++ q :: rest) = text at h
  cases h with
  | nil => cases htext
  | plain hc _ =>
    cases htext
    rcases hq with rfl | rfl <;> simp at hc
  | @quoted q' body' rest' hq' hbody' hend hrest =>
    obtain ⟨rfl, htext⟩ := List.cons_eq_cons.1 htext
    obtain ⟨rfl, rfl⟩ := QuotedName.unique hq hbody hbody' htext
    exact ⟨hend, hrest⟩
  | sign hc =>
    cases htext
    rcases hq with rfl | rfl <;> cases hc
  | dots =>
    obtain ⟨rfl, -⟩ := List.cons_eq_cons.1 htext
    rcases hq with hq | hq <;> cases hq

/-- A quoted name that does not end in a backslash is passed over. -/
theorem isDefinite_name (hq : q = '\'' ∨ q = '"') (h : QuotedName q body)
    (hprev : body = [] → prev ≠ '\\') (hend : body.getLast? ≠ some '\\') :
    isDefinite (some q) prev (body ++ q :: rest) = isDefinite none q rest := by
  have hback : '\\' ≠ q := by rcases hq with rfl | rfl <;> decide
  induction h generalizing prev with
  | nil => simp [isDefinite, hprev rfl]
  | @plain c cs hquote hplain _ ih =>
    rw [List.cons_append, isDefinite, if_neg (fun h => hquote h.1)]
    refine ih (fun _ => hplain) ?_
    cases cs with
    | nil => simp
    | cons => simpa using hend
  | @escape c cs _ ih =>
    rw [List.cons_append, isDefinite, if_neg (fun h => hback h.1), List.cons_append, isDefinite,
      if_neg (fun h => h.2 rfl)]
    refine ih ?_ ?_
    · rintro rfl
      simpa using hend
    · cases cs with
      | nil => simp
      | cons => simpa using hend

/-- The scan passes over a part, and what follows it is looked at on its own. -/
def Passes (part : List Char) : Prop :=
  ∀ prev rest, prev ≠ '.' → PlainlyQuoted (part ++ rest) → PlainlyQuoted rest ∧
    ∃ prev', prev' ≠ '.' ∧ isDefinite none prev (part ++ rest) = isDefinite none prev' rest

theorem Passes.nil : Passes [] := fun prev _ hprev h => ⟨h, prev, hprev, rfl⟩

theorem Passes.append {part part' : List Char} (h : Passes part) (h' : Passes part') :
    Passes (part ++ part') := by
  intro prev rest hprev hquoted
  rw [List.append_assoc] at hquoted ⊢
  obtain ⟨hquoted, prev', hprev', hscan⟩ := h prev _ hprev hquoted
  obtain ⟨hquoted, prev'', hprev'', hscan'⟩ := h' prev' _ hprev' hquoted
  exact ⟨hquoted, prev'', hprev'', hscan.trans hscan'⟩

theorem Passes.cons {part : List Char} (hc : isCalm c = true) (h : Passes part) :
    Passes (c :: part) := by
  intro prev rest hprev hquoted
  obtain ⟨hsingle, hdouble, hdot, hsign⟩ := ne_of_isCalm hc
  have hquoted := hquoted.tail ⟨hsingle, hdouble⟩ hsign fun hc => absurd hc hdot
  obtain ⟨hquoted, prev', hprev', hscan⟩ := h c rest hdot hquoted
  exact ⟨hquoted, prev', hprev', (isDefinite_calm hc).trans hscan⟩

theorem Passes.within {part : List Char} (h : Within isCalm part) : Passes part := by
  induction part with
  | nil => exact .nil
  | cons c part ih =>
    obtain ⟨hc, hpart⟩ := List.forall_mem_cons.1 h
    exact .cons hc (ih hpart)

theorem Passes.blanks {gap : List Char} (h : Within isBlank gap) : Passes gap :=
  .within (h.imp fun _ => isCalm_of_isBlank)

theorem SelectorText.passes (h : SelectorText text) : Passes text := by
  cases h with
  | @name q body hq hbody =>
    intro prev rest hprev hquoted
    have htext : q :: (body ++ [q]) ++ rest = q :: (body ++ q :: rest) := by simp
    rw [htext] at hquoted ⊢
    obtain ⟨hend, hrest⟩ := hquoted.of_name hq hbody
    have hq' : q ≠ '.' ∧ q ≠ '\\' := by rcases hq with rfl | rfl <;> decide
    refine ⟨hrest, q, hq'.1, ?_⟩
    rw [isDefinite, if_pos hq, isDefinite_name hq hbody (fun _ => hq'.2) hend]
  | index h => exact .within (h.imp fun _ => isCalm_of_inInteger)

theorem SegmentText.passes (h : SegmentText text) : Passes text := by
  cases h with
  | @member c cs hc hcs =>
    intro prev rest hprev hquoted
    have hname : isCalm c = true := isCalm_of_inName (by simp [inName, hc])
    obtain ⟨hsingle, hdouble, hdot, hsign⟩ := ne_of_isCalm hname
    have hbehind : PlainlyQuoted (c :: (cs ++ rest)) :=
      hquoted.tail (by decide) rfl fun _ => by simpa using hdot
    have hbehind := hbehind.tail ⟨hsingle, hdouble⟩ hsign fun h => absurd h hdot
    have hpasses : Passes cs := .within (hcs.imp fun _ => isCalm_of_inMember)
    obtain ⟨hrest, prev', hprev', hscan⟩ := hpasses c rest hdot hbehind
    have hpoint : isDefinite none prev ('.' :: c :: (cs ++ rest)) =
        isDefinite none '.' (c :: (cs ++ rest)) := by simp [isDefinite, hprev]
    exact ⟨hrest, prev', hprev', hpoint.trans ((isDefinite_calm hname).trans hscan)⟩
  | bracket hgap htext hgap' =>
    have hclose : Passes [']'] := .cons rfl .nil
    have hinside := htext.passes.append ((Passes.blanks hgap').append hclose)
    exact .cons rfl ((Passes.blanks hgap).append hinside)

theorem isDefinite_forks (h : Forks cs) (hprev : prev ≠ '.') (hquoted : PlainlyQuoted cs) :
    isDefinite none prev cs = false := by
  cases h with
  | deep => simp [isDefinite]
  | star => simp [isDefinite]
  | @bracket gap text gap' c cs hgap htext hgap' hc =>
    have hopen : Passes ('[' :: (gap ++ (text ++ gap'))) :=
      .cons rfl ((Passes.blanks hgap).append (htext.passes.append (.blanks hgap')))
    have htext : '[' :: (gap ++ (text ++ (gap' ++ c :: cs))) =
        '[' :: (gap ++ (text ++ gap')) ++ c :: cs := by simp
    rw [htext] at hquoted ⊢
    obtain ⟨-, prev', -, hscan⟩ := hopen prev _ hprev hquoted
    have hsign : c = '*' ∨ c = '?' ∨ c = ':' ∨ c = ',' := of_decide_eq_true hc
    have hquote : ¬ (c = '\'' ∨ c = '"') := by
      rcases hsign with rfl | rfl | rfl | rfl <;> decide
    rw [hscan, isDefinite, if_neg hquote, if_pos hsign]

/-- The scan finds out whether all segments of a path lead to one place. -/
theorem isDefinite_eq_all {segments : List Segment} (h : PathText segments cs) (hprev : prev ≠ '.')
    (hquoted : PlainlyQuoted cs) : isDefinite none prev cs = segments.all Segment.isSingular := by
  induction h generalizing prev with
  | nil => rfl
  | one hs hgap htext _ ih =>
    have hpasses := (Passes.blanks hgap).append htext.passes
    rw [← List.append_assoc] at hquoted ⊢
    obtain ⟨hquoted, prev', hprev', hscan⟩ := hpasses prev _ hprev hquoted
    rw [hscan, ih hprev' hquoted, List.all_cons, hs, Bool.true_and]
  | many hs hgap hforks =>
    obtain ⟨hquoted, prev', hprev', hscan⟩ := Passes.blanks hgap prev _ hprev hquoted
    rw [hscan, isDefinite_forks hforks hprev' hquoted, List.all_cons, hs, Bool.false_and]

/-! ## What is found -/

/-- A selector that leads to one place finds one value at most. -/
theorem length_select_le {s : Selector} (hs : s.isSingular = true) (root v : Json) :
    (s.select root v).length ≤ 1 := by
  cases s with
  | name key =>
    cases v <;> simp [Selector.select, Option.length_toList_le]
  | index i =>
    cases v <;> simp [Selector.select, Option.length_toList_le]
  | wildcard | slice | filter => cases hs

theorem isSingular_iff {s : Segment} :
    s.isSingular = true ↔ ∃ selector, s = .step false [selector] ∧ selector.isSingular = true := by
  obtain ⟨deep, selectors⟩ := s
  constructor
  · intro h
    cases deep with
    | true => cases h
    | false =>
      match selectors, h with
      | [selector], h => exact ⟨selector, rfl, h⟩
  · rintro ⟨selector, hs, h⟩
    rw [hs]
    exact h

/-- Segments that lead to one place find one value at most. -/
theorem length_follow_le (root : Json) {segments : List Segment}
    (h : ∀ s ∈ segments, s.isSingular = true) {vs : List Json} (hvs : vs.length ≤ 1) :
    (follow root segments vs).length ≤ 1 := by
  induction segments generalizing vs with
  | nil => simpa [follow] using hvs
  | cons s segments ih =>
    obtain ⟨hs, hsegments⟩ := List.forall_mem_cons.1 h
    obtain ⟨selector, rfl, hselector⟩ := isSingular_iff.1 hs
    rw [follow]
    refine ih hsegments ?_
    match vs, hvs with
    | [], _ => simp [selectAll]
    | [v], _ => simpa [selectAll] using length_select_le hselector root v

/-- The scan of a text that is read as a path says whether all of its segments lead to one place, as
long as no quoted name ends in a backslash.  So a query on a path with any other segment gives the
list of what is found, whatever that is, and a query on a path without such segments gives the one
value or fails. -/
theorem query_recognises_definite {text : String} {segments : List Segment}
    (h : ofText? text = some segments) (hquoted : PlainlyQuoted text.toList) :
    (isDefinite none '\x00' text.toList = true ↔ ∀ s ∈ segments, s.isSingular = true) ∧
    (∀ root, (∃ s ∈ segments, s.isSingular = false) →
      Expr.Function.query text root = .ok (.list (find segments root))) ∧
    ∀ root, (∀ s ∈ segments, s.isSingular = true) →
      (find segments root = [] ∧ Expr.Function.query text root = .error (.query text .noMatch)) ∨
      ∃ v, find segments root = [v] ∧ Expr.Function.query text root = .ok v := by
  have hdefinite : isDefinite none '\x00' text.toList = segments.all Segment.isSingular := by
    obtain ⟨cs, htext, hpath⟩ := ofText?_text h
    rw [htext] at hquoted ⊢
    rw [isDefinite_calm rfl]
    exact isDefinite_eq_all hpath (by decide) (hquoted.tail (by decide) rfl (by simp))
  refine ⟨by rw [hdefinite, List.all_eq_true], ?_, ?_⟩
  · rintro root ⟨s, hmem, hs⟩
    have hany : segments.all Segment.isSingular = false :=
      List.all_eq_false.2 ⟨s, hmem, by simp [hs]⟩
    simp only [Expr.Function.query, run, h, hdefinite, hany, if_neg Bool.false_ne_true]
    rfl
  · intro root hall
    have hone : (find segments root).length ≤ 1 := length_follow_le root hall (by simp)
    have hall : segments.all Segment.isSingular = true := List.all_eq_true.2 hall
    simp only [Expr.Function.query, run, h, hdefinite, hall, if_true]
    match find segments root, hone with
    | [], _ => exact .inl ⟨rfl, rfl⟩
    | [v], _ => exact .inr ⟨v, rfl, rfl⟩

/-- A quote and a backslash inside a name are escaped, and signs in it do not count: the path with
the index at its end is definite, the one with a star is not. -/
theorem query_recognises_escaped_names :
    let place : List Segment := [.step false [.name "\\'*"], .step false [.index 0]]
    let items : List Segment := [.step false [.name "\\'*"], .step false [.wildcard]]
    (isDefinite none '\x00' "$['\\\\\\'*'][0]".toList = true ↔ ∀ s ∈ place, s.isSingular = true) ∧
    ((find place (.map []) = [] ∧ Expr.Function.query "$['\\\\\\'*'][0]" (.map []) =
        .error (.query "$['\\\\\\'*'][0]" .noMatch)) ∨
      ∃ v, find place (.map []) = [v] ∧
        Expr.Function.query "$['\\\\\\'*'][0]" (.map []) = .ok v) ∧
    Expr.Function.query "$['\\\\\\'*'][*]" (.map []) = .ok (.list (find items (.map []))) := by
  intro place items
  have hplace : ofText? "$['\\\\\\'*'][0]" = some place := by cbv
  have hitems : ofText? "$['\\\\\\'*'][*]" = some items := by cbv
  have hname : QuotedName '\'' ['\\', '\\', '\\', '\'', '*'] :=
    .escape (.escape (.plain (by decide) (by decide) .nil))
  have hbracket {cs : List Char} (h : PlainlyQuoted cs) :
      PlainlyQuoted ('$' :: '[' :: '\'' :: (['\\', '\\', '\\', '\'', '*'] ++ '\'' :: ']' :: cs)) :=
    .plain (by decide) (.plain (by decide)
      (.quoted (.inl rfl) hname (by decide) (.plain (by decide) h)))
  have hindex : PlainlyQuoted ['[', '0', ']'] :=
    .plain (by decide) (.plain (by decide) (.plain (by decide) .nil))
  have hstar : PlainlyQuoted ['[', '*', ']'] := .plain (by decide) (.sign rfl)
  obtain ⟨hdefinite, -, hone⟩ := query_recognises_definite hplace (hbracket hindex)
  obtain ⟨-, hmany, -⟩ := query_recognises_definite hitems (hbracket hstar)
  refine ⟨hdefinite, hone _ ?_, hmany _ ?_⟩
  · simp [place, Segment.isSingular, Selector.isSingular]
  · exact ⟨.step false [.wildcard], by simp [items], rfl⟩

/-- Behind a name that ends in an escaped backslash the star is not seen. -/
theorem query_misses_star_behind_backslash :
    ofText? "$['a\\\\'][*]" = some [.step false [.name "a\\"], .step false [.wildcard]] ∧
    isDefinite none '\x00' "$['a\\\\'][*]".toList = true ∧
    Expr.Function.query "$['a\\\\'][*]" (.map []) = .error (.query "$['a\\\\'][*]" .noMatch) ∧
    Expr.Function.query "$['a\\\\'][*]" (.map [("a\\", .list [.bool true])]) =
      .ok (.bool true) := by
  refine ⟨by cbv, by decide, by cbv, by cbv⟩

end Sluice.Query
