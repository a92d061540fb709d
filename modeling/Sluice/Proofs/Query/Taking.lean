import Sluice.Query.Parser
import Sluice.Proofs.Lexing.Paths

/-!
# What the readers of queries take

A reader that succeeds takes a part off the front of the text.  `Takes` says of which shape the part
is.  There is one rule for each way to put readers together, and from these it follows how blanks,
names, quoted keys and integers are spelled.
-/

namespace Sluice

theorem Token.QuotedName.append {q : Char} {t u : List Char} (ht : QuotedName q t)
    (hu : QuotedName q u) : QuotedName q (t ++ u) := by
  induction ht with
  | nil => exact hu
  | plain hquote hback _ ih => exact .plain hquote hback ih
  | escape _ ih => exact .escape ih

namespace Query

open Token (QuotedName)

namespace Reader

variable {α β : Type} {r s : Reader α} {cs rest : List Char} {a : α}

/-! ## Running readers that are put together -/

theorem run_bind_eq_some {f : α → Reader β} {b : β} (h : (r >>= f).run cs = some (b, rest)) :
    ∃ a mid, r.run cs = some (a, mid) ∧ (f a).run mid = some (b, rest) := by
  rw [StateT.run_bind] at h
  obtain ⟨⟨a, mid⟩, hr, hf⟩ := Option.bind_eq_some_iff.1 h
  exact ⟨a, mid, hr, hf⟩

theorem run_orElse_eq_some (h : (r <|> s).run cs = some (a, rest)) :
    r.run cs = some (a, rest) ∨ s.run cs = some (a, rest) := by
  have hrun : (r <|> s).run cs = (r.run cs <|> s.run cs) := rfl
  rw [hrun] at h
  cases hr : r.run cs with
  | none =>
    rw [hr] at h
    exact .inr h
  | some x =>
    rw [hr] at h
    exact .inl h

theorem run_map_eq_some {f : α → β} {b : β} (h : (f <$> r).run cs = some (b, rest)) :
    ∃ a, r.run cs = some (a, rest) ∧ f a = b := by
  rw [StateT.run_map] at h
  obtain ⟨⟨a, mid⟩, hr, hf⟩ := Option.map_eq_some_iff.1 h
  obtain ⟨rfl, rfl⟩ := Prod.mk.inj hf
  exact ⟨a, hr, rfl⟩

theorem run_pure_eq_some {b : α} (h : (pure b : Reader α).run cs = some (a, rest)) :
    a = b ∧ rest = cs := by
  obtain ⟨rfl, rfl⟩ := Prod.mk.inj (Option.some.inj h)
  exact ⟨rfl, rfl⟩

theorem run_char_eq_some {p : Char → Bool} {c : Char} (h : (char p).run cs = some (c, rest)) :
    cs = c :: rest ∧ p c = true := by
  cases cs with
  | nil => cases h
  | cons d cs =>
    change (if p d then (do set cs; pure d) else failure : Reader Char).run (d :: cs) = _ at h
    by_cases hd : p d = true
    · rw [if_pos hd] at h
      obtain ⟨rfl, rfl⟩ := Prod.mk.inj (Option.some.inj h)
      exact ⟨rfl, hd⟩
    · rw [if_neg hd] at h
      cases h

theorem run_mark_eq_some {c d : Char} (h : (mark c).run cs = some (d, rest)) : cs = c :: rest := by
  obtain ⟨rfl, hd⟩ := run_char_eq_some h
  rw [of_decide_eq_true hd]

theorem run_times_eq_some {as : List α} {n : Nat} (h : (times r n).run cs = some (as, rest)) :
    (as = [] ∧ rest = cs) ∨ ∃ a more mid n', as = a :: more ∧ n = n' + 1 ∧
      r.run cs = some (a, mid) ∧ (times r n').run mid = some (more, rest) := by
  cases n with
  | zero => exact .inl (run_pure_eq_some h)
  | succ n =>
    rcases run_orElse_eq_some h with h | h
    · obtain ⟨a, mid, hr, h⟩ := run_bind_eq_some h
      obtain ⟨more, mid', htimes, h⟩ := run_bind_eq_some h
      obtain ⟨rfl, rfl⟩ := run_pure_eq_some h
      exact .inr ⟨a, more, mid, n, rfl, rfl, hr, htimes⟩
    · exact .inl (run_pure_eq_some h)

/-! ## Rules -/

/-- What a reader takes off the front of a text has a shape that depends on what it gives. -/
def Takes (r : Reader α) (P : α → List Char → Prop) : Prop :=
  ∀ cs a rest, r.run cs = some (a, rest) → ∃ taken, cs = taken ++ rest ∧ P a taken

variable {P : α → List Char → Prop} {Q : β → List Char → Prop}

theorem Takes.mono {P' : α → List Char → Prop} (h : Takes r P) (hP : ∀ a t, P a t → P' a t) :
    Takes r P' := by
  intro cs a rest hrun
  obtain ⟨taken, rfl, ht⟩ := h cs a rest hrun
  exact ⟨taken, rfl, hP a taken ht⟩

theorem Takes.pure (h : P a []) : Takes (pure a) P := by
  intro cs b rest hrun
  obtain ⟨rfl, rfl⟩ := run_pure_eq_some hrun
  exact ⟨[], rfl, h⟩

theorem Takes.bind {f : α → Reader β} (hr : Takes r P)
    (hf : ∀ a t, P a t → Takes (f a) fun b u => Q b (t ++ u)) : Takes (r >>= f) Q := by
  intro cs b rest hrun
  obtain ⟨a, mid, hrun, hrun'⟩ := run_bind_eq_some hrun
  obtain ⟨t, rfl, ht⟩ := hr cs a mid hrun
  obtain ⟨u, rfl, hu⟩ := hf a t ht mid b rest hrun'
  exact ⟨t ++ u, (List.append_assoc t u rest).symm, hu⟩

theorem Takes.orElse (hr : Takes r P) (hs : Takes s P) : Takes (r <|> s) P := by
  intro cs a rest hrun
  rcases run_orElse_eq_some hrun with hrun | hrun
  · exact hr cs a rest hrun
  · exact hs cs a rest hrun

theorem Takes.map {f : α → β} (hr : Takes r P) (hf : ∀ a t, P a t → Q (f a) t) :
    Takes (f <$> r) Q := by
  intro cs b rest hrun
  obtain ⟨a, hr', rfl⟩ := run_map_eq_some hrun
  obtain ⟨t, rfl, ht⟩ := hr cs a rest hr'
  exact ⟨t, rfl, hf a t ht⟩

theorem Takes.check {p : Bool} {P : Unit → List Char → Prop} (h : P () []) :
    Takes (check p) P := by
  unfold Reader.check
  split
  · exact .pure h
  · intro cs a rest hrun
    cases hrun

theorem Takes.char (p : Char → Bool) : Takes (char p) fun c t => t = [c] ∧ p c = true := by
  intro cs c rest hrun
  obtain ⟨rfl, hc⟩ := run_char_eq_some hrun
  exact ⟨[c], rfl, rfl, hc⟩

theorem Takes.mark (c : Char) : Takes (mark c) fun _ t => t = [c] := by
  intro cs d rest hrun
  exact ⟨[c], run_mark_eq_some hrun, rfl⟩

section Several

variable {S : List α → List Char → Prop} (hr : Takes r P) (hnil : S [] [])
  (hcons : ∀ a t as u, P a t → S as u → S (a :: as) (t ++ u))
include hr hnil hcons

/-- What comes several times is put together from the parts. -/
theorem Takes.times (n : Nat) : Takes (times r n) S := by
  induction n with
  | zero => exact .pure hnil
  | succ n ih =>
    refine .orElse (hr.bind fun a t ht => ih.bind fun as u hu => .pure ?_) (.pure hnil)
    rw [List.append_nil]
    exact hcons a t as u ht hu

theorem Takes.many : Takes (many r) S := by
  intro cs as rest hrun
  exact hr.times hnil hcons cs.length cs as rest hrun

end Several

theorem Takes.option {P : Option α → List Char → Prop} (hr : Takes r fun a t => P (some a) t)
    (hnone : P none []) : Takes (option r) P :=
  .orElse (hr.map fun _ _ h => h) (.pure hnone)

/-- All characters of a part are of a class. -/
def Within (p : Char → Bool) (t : List Char) : Prop := ∀ c ∈ t, p c = true

theorem Within.nil {p : Char → Bool} : Within p [] := by simp [Within]

theorem Within.append {p : Char → Bool} {t u : List Char} (ht : Within p t) (hu : Within p u) :
    Within p (t ++ u) := by
  intro c hc
  rcases List.mem_append.1 hc with hc | hc
  · exact ht c hc
  · exact hu c hc

theorem Within.singleton {p : Char → Bool} {c : Char} (h : p c = true) : Within p [c] := by
  intro d hd
  rwa [List.mem_singleton.1 hd]

theorem Within.imp {p q : Char → Bool} {t : List Char} (ht : Within p t)
    (h : ∀ c, p c = true → q c = true) : Within q t :=
  fun c hc => h c (ht c hc)

theorem Takes.char_within {p q : Char → Bool} (h : ∀ c, p c = true → q c = true) :
    Takes (Reader.char p) fun _ t => Within q t :=
  (Takes.char p).mono fun c _ h' => h'.1 ▸ .singleton (h c h'.2)

/-- What is of a class is so when it comes several times. -/
theorem Takes.times_within {p : Char → Bool} (h : Takes r fun _ t => Within p t) (n : Nat) :
    Takes (Reader.times r n) fun _ t => Within p t :=
  h.times .nil (fun _ _ _ _ ht hu => ht.append hu) n

theorem Takes.many_within {p : Char → Bool} (h : Takes r fun _ t => Within p t) :
    Takes (Reader.many r) fun _ t => Within p t :=
  h.many .nil fun _ _ _ _ ht hu => ht.append hu

end Reader

open Reader

/-! ## Blanks, names and integers -/

theorem takes_blanks : Takes blanks fun _ t => Within isBlank t :=
  (Takes.char_within fun _ h => h).many_within

theorem Reader.Takes.padded {α : Type} {r : Reader α} {P : α → List Char → Prop} (h : Takes r P) :
    Takes (padded r) fun a t => ∃ gap part gap', t = gap ++ part ++ gap' ∧ P a part ∧
      Within isBlank gap ∧ Within isBlank gap' := by
  refine takes_blanks.bind fun _ gap hgap => h.bind fun a part hpart => ?_
  refine takes_blanks.bind fun _ gap' hgap' => .pure ⟨gap, part, gap', ?_, hpart, hgap, hgap'⟩
  rw [List.append_nil, List.append_assoc]

/-- The characters of a name behind a dot, and the blanks inside it. -/
def inMember (c : Char) : Bool := inName c || isBlank c

/-- A name starts with one of its characters. -/
theorem takes_memberName : Takes memberName fun _ t =>
    ∃ c cs, t = c :: cs ∧ startsName c = true ∧ Within inMember cs := by
  have hmore : Takes (do
      let gap ← blanks
      let c ← char inName
      pure (gap ++ [c]) : Reader (List Char)) fun _ t => Within inMember t := by
    refine takes_blanks.bind fun _ gap hgap => ?_
    refine (Takes.char_within (q := inMember) fun c hc => by simp [inMember, hc]).bind
      fun c t ht => .pure ?_
    rw [List.append_nil]
    exact (hgap.imp fun c hc => by simp [inMember, hc]).append ht
  refine (Takes.char startsName).bind fun c t ⟨ht, hc⟩ =>
    hmore.many_within.bind fun _ u hu => .pure ?_
  exact ⟨c, u, by rw [ht, List.append_nil]; rfl, hc, hu⟩

def inInteger (c : Char) : Bool := c.isDigit || c = '-'

theorem takes_wholeDigits : Takes wholeDigits fun _ t => Within inInteger t := by
  have hdigit : ∀ c : Char, c.isDigit = true → inInteger c = true := by
    intro c hc
    simp [inInteger, hc]
  refine .orElse ((Takes.mark '0').bind fun _ t ht => .pure ?_) ?_
  · subst ht
    exact .singleton rfl
  · refine Takes.bind (Takes.char_within fun c hc => hdigit c (of_decide_eq_true hc).1)
      fun c t ht => ((Takes.char_within hdigit).times_within 15).bind fun _ u hu => .pure ?_
    rw [List.append_nil]
    exact ht.append hu

theorem takes_integer : Takes integer fun _ t => Within inInteger t := by
  have hsign : Takes (option (mark '-')) fun _ t => Within inInteger t :=
    .option (Takes.char_within fun c hc => by simp [inInteger, of_decide_eq_true hc]) .nil
  refine hsign.bind fun sign t ht => takes_wholeDigits.bind fun ds u hu => ?_
  refine Takes.bind (P := fun _ v => v = []) (.check rfl) fun _ v hv => .pure ?_
  subst hv
  rw [List.append_nil, List.append_nil]
  exact ht.append hu

/-! ## Quoted keys -/

theorem takes_word (w : List Char) : Takes (word w) fun _ t => t = w := by
  induction w with
  | nil => exact .pure rfl
  | cons c w ih =>
    have hmark : Takes (discard (mark c) : Reader PUnit) fun _ t => t = [c] :=
      (Takes.mark c).map fun _ _ h => h
    refine hmark.bind fun _ t ht => ih.mono fun _ u hu => ?_
    rw [ht, hu, List.singleton_append]

section

variable {q : Char} (hq : q = '\'' ∨ q = '"')
include hq

theorem takes_hexDigit : Takes hexDigit fun _ t => QuotedName q t := by
  refine (Takes.char _).mono ?_
  rintro c t ⟨rfl, hc⟩
  have hhex := of_decide_eq_true hc
  refine .plain ?_ ?_ .nil
  · rintro rfl
    rcases hq with rfl | rfl <;> revert hhex <;> decide
  · rintro rfl
    revert hhex
    decide

theorem takes_hexNumber : Takes hexNumber fun _ t => QuotedName q t := by
  refine (takes_hexDigit hq).bind fun _ t₁ h₁ => (takes_hexDigit hq).bind fun _ t₂ h₂ => ?_
  refine (takes_hexDigit hq).bind fun _ t₃ h₃ => (takes_hexDigit hq).bind fun _ t₄ h₄ => .pure ?_
  rw [List.append_nil]
  exact h₁.append (h₂.append (h₃.append h₄))

theorem takes_unicodeEscape : Takes unicodeEscape fun _ t => QuotedName q t := by
  refine (takes_hexNumber hq).bind fun n t ht => ?_
  by_cases hsurrogate : 0xD800 ≤ n ∧ n ≤ 0xDBFF
  · rw [if_pos hsurrogate]
    refine (takes_word _).bind fun _ u hu => (takes_hexNumber hq).bind fun low v hv => ?_
    refine Takes.bind (P := fun _ w => w = []) (.check rfl) fun _ w hw => .pure ?_
    subst hu hw
    rw [List.append_nil, List.append_nil]
    exact ht.append (.escape hv)
  · rw [if_neg hsurrogate]
    refine Takes.bind (P := fun _ w => w = []) (.check rfl) fun _ w hw => .pure ?_
    subst hw
    rw [List.append_nil, List.append_nil]
    exact ht

/-- A character inside quotes is given as it is spelled. -/
theorem takes_quotedChar : Takes (quotedChar q) fun a t => a.1 = t ∧ QuotedName q t := by
  intro cs a rest hrun
  -- the spelling is read off what is missing at the end
  have hspelled {meant : Char} {mid t : List Char} (hmid : cs = t ++ mid)
      (h : (do
        let after ← get
        pure (cs.take (cs.length - after.length), meant) : Reader (List Char × Char)).run mid =
          some (a, rest)) : cs = t ++ rest ∧ a.1 = t := by
    cases h
    exact ⟨hmid, by simp [hmid]⟩
  obtain ⟨_, _, hget, hrun⟩ := run_bind_eq_some hrun
  cases hget
  obtain ⟨c, mid, hchar, hrun⟩ := run_bind_eq_some hrun
  obtain ⟨hcs, hc⟩ := run_char_eq_some hchar
  have hquote : c ≠ q := (of_decide_eq_true hc).1
  by_cases hback : c = '\\'
  · subst hback
    simp only [if_pos] at hrun
    obtain ⟨e, mid', he, hmeant⟩ := run_bind_eq_some hrun
    obtain ⟨rfl, -⟩ := run_char_eq_some he
    cases hescaped : escaped? q e with
    | some meant =>
      simp only [hescaped] at hmeant
      obtain ⟨h, ha⟩ := hspelled (t := ['\\', e]) hcs hmeant
      exact ⟨['\\', e], h, ha, .escape .nil⟩
    | none =>
      simp only [hescaped] at hmeant
      obtain ⟨_, mid, hcheck, hnumber⟩ := run_bind_eq_some hmeant
      obtain ⟨_, ht, rfl⟩ := Takes.check (P := fun _ t => t = []) rfl _ _ _ hcheck
      obtain ⟨meant, mid'', hescape, hlast⟩ := run_bind_eq_some hnumber
      obtain ⟨t, hmid, hname⟩ := takes_unicodeEscape hq _ _ _ hescape
      obtain ⟨h, ha⟩ := hspelled (t := '\\' :: e :: t) (by rw [hcs, ht, hmid]; rfl) hlast
      exact ⟨'\\' :: e :: t, h, ha, .escape hname⟩
  · simp only [if_neg hback] at hrun
    obtain ⟨h, ha⟩ := hspelled (t := [c]) hcs hrun
    exact ⟨[c], h, ha, .plain hquote hback .nil⟩

end

/-- A quoted key is a name between two of the same quotes. -/
theorem takes_quoted : Takes quoted fun _ t =>
    ∃ q body, (q = '\'' ∨ q = '"') ∧ QuotedName q body ∧ t = q :: (body ++ [q]) := by
  refine (Takes.char _).bind ?_
  rintro q t ⟨rfl, hq⟩
  have hq := of_decide_eq_true hq
  have hbody : Takes (many (quotedChar q)) fun _ t => QuotedName q t :=
    Takes.many (takes_quotedChar hq) .nil fun _ _ _ _ ht hu => ht.2.append hu
  refine hbody.bind fun _ body hbody => (Takes.mark q).bind fun _ t ht => .pure ?_
  subst ht
  exact ⟨q, body, hq, hbody, by rw [List.append_nil]; rfl⟩

theorem takes_quotedKey : Takes quotedKey fun _ t =>
    ∃ q body, (q = '\'' ∨ q = '"') ∧ QuotedName q body ∧ t = q :: (body ++ [q]) := by
  refine takes_quoted.bind fun a t ht => .pure ?_
  rwa [List.append_nil]

end Query
end Sluice
