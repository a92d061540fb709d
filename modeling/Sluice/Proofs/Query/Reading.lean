import Sluice.Proofs.Json.Lexemes
import Sluice.Proofs.Query.Taking

/-!
# What the readers of queries accept

The other direction of `Takes`: a text of the right shape is read, and what comes behind it is left.
A part that may come several times is read until it fails, so what comes behind must not start with
it.  From these rules it follows that names behind dots and integers in brackets are read as the
segments that they spell.
-/

namespace Sluice

namespace Query
namespace Reader

variable {α β : Type} {r s : Reader α} {cs mid rest : List Char} {a : α}

/-! ## Rules -/

theorem run_bind {f : α → Reader β} (h : r.run cs = some (a, mid)) :
    (r >>= f).run cs = (f a).run mid := by
  rw [StateT.run_bind, h]
  rfl

theorem run_bind_eq_none {f : α → Reader β} (h : r.run cs = none) : (r >>= f).run cs = none := by
  rw [StateT.run_bind, h]
  rfl

theorem run_orElse_left (h : r.run cs = some (a, rest)) :
    (r <|> s).run cs = some (a, rest) := by
  show (r.run cs <|> s.run cs) = some (a, rest)
  rw [h]
  rfl

theorem run_orElse_right (h : r.run cs = none) : (r <|> s).run cs = s.run cs := by
  show (r.run cs <|> s.run cs) = s.run cs
  rw [h]
  rfl

theorem run_map {f : α → β} (h : r.run cs = some (a, rest)) :
    (f <$> r).run cs = some (f a, rest) := by
  rw [StateT.run_map, h]
  rfl

theorem run_map_eq_none {f : α → β} (h : r.run cs = none) : (f <$> r).run cs = none := by
  rw [StateT.run_map, h]
  rfl

theorem run_char {p : Char → Bool} {c : Char} (h : p c = true) (cs : List Char) :
    (char p).run (c :: cs) = some (c, cs) := by
  show (if p c then (do set cs; pure c) else failure : Reader Char).run (c :: cs) = _
  rw [if_pos h]
  rfl

theorem run_char_eq_none {p : Char → Bool} (h : ∀ c ∈ cs.head?, p c = false) :
    (char p).run cs = none := by
  cases cs with
  | nil => rfl
  | cons c cs =>
    show (if p c then (do set cs; pure c) else failure : Reader Char).run (c :: cs) = none
    rw [h c rfl, if_neg Bool.false_ne_true]
    rfl

theorem run_mark (c : Char) (cs : List Char) : (mark c).run (c :: cs) = some (c, cs) :=
  run_char (decide_eq_true rfl) cs

theorem run_mark_eq_none {c : Char} (h : cs.head? ≠ some c) : (mark c).run cs = none := by
  refine run_char_eq_none fun d hd => decide_eq_false ?_
  rintro rfl
  exact h hd

theorem run_option (h : r.run cs = some (a, rest)) :
    (option r).run cs = some (some a, rest) :=
  run_orElse_left (run_map h)

theorem run_option_eq_none (h : r.run cs = none) : (option r).run cs = some (none, cs) :=
  run_orElse_right (run_map_eq_none h)

theorem run_times_stop (h : r.run cs = none) (n : Nat) : (times r n).run cs = some ([], cs) := by
  cases n with
  | zero => rfl
  | succ n => exact run_orElse_right (run_bind_eq_none h)

theorem run_times_cons {as : List α} {n : Nat} (h : r.run cs = some (a, mid))
    (h' : (times r n).run mid = some (as, rest)) :
    (times r (n + 1)).run cs = some (a :: as, rest) := by
  refine run_orElse_left ?_
  rw [run_bind h, run_bind h']
  rfl

section Several

variable {text : β → List Char} {value : β → α} {Behind : List Char → Prop} {items : List β}
  (hread : ∀ item ∈ items, ∀ rest, Behind rest →
    r.run (text item ++ rest) = some (value item, rest))
  (htext : ∀ item ∈ items, ∀ rest, Behind (text item ++ rest))
  (hstop : r.run rest = none) (hrest : Behind rest)
include hread htext hstop hrest

/-- Parts that are read one by one are read together, up to what is no such part. -/
theorem run_times {n : Nat} (hn : items.length ≤ n) :
    (times r n).run (items.flatMap text ++ rest) = some (items.map value, rest) := by
  induction items generalizing n with
  | nil => exact run_times_stop hstop n
  | cons item items ih =>
    obtain ⟨hitem, hitems⟩ := List.forall_mem_cons.1 hread
    obtain ⟨-, htexts⟩ := List.forall_mem_cons.1 htext
    have hbehind : Behind (items.flatMap text ++ rest) := by
      cases items with
      | nil => exact hrest
      | cons next items =>
        rw [List.flatMap_cons, List.append_assoc]
        exact htexts next List.mem_cons_self _
    obtain ⟨m, rfl⟩ : ∃ m, n = m + 1 := ⟨n - 1, by simp only [List.length_cons] at hn; omega⟩
    rw [List.flatMap_cons, List.append_assoc, List.map_cons]
    exact run_times_cons (hitem _ hbehind) (ih hitems htexts (Nat.le_of_succ_le_succ hn))

theorem run_many (hne : ∀ item ∈ items, text item ≠ []) :
    (many r).run (items.flatMap text ++ rest) = some (items.map value, rest) := by
  refine run_times hread htext hstop hrest (n := (items.flatMap text ++ rest).length) ?_
  have hlength : items.length ≤ (items.flatMap text).length := by
    clear hread htext
    induction items with
    | nil => simp
    | cons item items ih =>
      obtain ⟨hitem, hitems⟩ := List.forall_mem_cons.1 hne
      have hpos := List.length_pos_iff.2 hitem
      have hrest := ih hitems
      simp only [List.flatMap_cons, List.length_append, List.length_cons]
      omega
  rw [List.length_append]
  omega

end Several

/-- Single characters that are read one by one. -/
theorem run_times_chars {r : Reader α} {value : Char → α} {ds : List Char} {n : Nat}
    (hread : ∀ d ∈ ds, ∀ rest, r.run (d :: rest) = some (value d, rest))
    (hstop : r.run rest = none) (hn : ds.length ≤ n) :
    (times r n).run (ds ++ rest) = some (ds.map value, rest) := by
  have hone : ∀ d ∈ ds, ∀ rest, True → r.run ([d] ++ rest) = some (value d, rest) :=
    fun d hd rest _ => hread d hd rest
  have h := run_times hone (fun _ _ _ => trivial) hstop trivial hn
  rwa [List.flatMap_singleton'] at h

theorem run_blanks (h : ∀ c ∈ cs.head?, isBlank c = false) : blanks.run cs = some ([], cs) :=
  run_times_stop (run_char_eq_none h) _

theorem run_padded (hbefore : ∀ c ∈ cs.head?, isBlank c = false)
    (h : r.run cs = some (a, rest)) (hbehind : ∀ c ∈ rest.head?, isBlank c = false) :
    (padded r).run cs = some (a, rest) := by
  unfold padded
  rw [run_bind (run_blanks hbefore), run_bind h, run_bind (run_blanks hbehind)]
  rfl

end Reader

open Reader

/-! ## Names -/

/-- The end of a path, or the start of its next segment. -/
def Follows (rest : List Char) : Prop := ∀ c ∈ rest.head?, c = '.' ∨ c = '['

variable {rest : List Char} {condition : Reader Condition}

theorem Follows.not_isBlank (h : Follows rest) : ∀ c ∈ rest.head?, Reader.isBlank c = false := by
  intro c hc
  rcases h c hc with rfl | rfl <;> rfl

theorem Follows.not_inName (h : Follows rest) : ∀ c ∈ rest.head?, inName c = false := by
  intro c hc
  rcases h c hc with rfl | rfl <;> rfl

theorem startsName_of_startsIdent {c : Char} (h : Token.startsIdent c = true) :
    startsName c = true := by
  simp only [Token.startsIdent, startsName, Bool.decide_or, Bool.or_eq_true] at h ⊢
  rcases h with h | h
  · exact .inl h
  · exact .inr (.inl h)

theorem inName_of_inIdent {c : Char} (h : Token.inIdent c = true) : inName c = true := by
  simp only [Token.inIdent, Char.isAlphanum, inName, startsName, Bool.decide_or, Bool.or_eq_true,
    Bool.decide_eq_true, decide_eq_true_eq] at h ⊢
  rcases h with (h | h) | h
  · exact .inl (.inl h)
  · exact .inr h
  · exact .inl (.inr (.inl h))

theorem isBlank_of_inIdent {c : Char} (h : Token.inIdent c = true) : Reader.isBlank c = false := by
  refine decide_eq_false ?_
  rintro (rfl | rfl | rfl | rfl) <;> cases h

/-- A character of a name, and the blanks in front of it. -/
def memberPart : Reader (List Char) := do
  let gap ← blanks
  let c ← char inName
  pure (gap ++ [c])

theorem memberName_eq : memberName = (do
    let first ← char startsName
    let more ← many memberPart
    pure (String.ofList (first :: more.flatten))) := rfl

/-- A name behind a dot goes on to the next segment. -/
theorem run_memberName {c : Char} {cs : List Char} (hc : Token.startsIdent c = true)
    (hcs : ∀ d ∈ cs, Token.inIdent d = true) (hrest : Follows rest) :
    memberName.run (c :: cs ++ rest) = some (String.ofList (c :: cs), rest) := by
  have hread : ∀ d ∈ cs, ∀ rest, memberPart.run (d :: rest) = some ([d], rest) := by
    intro d hd rest
    have hblank : ∀ b ∈ (d :: rest).head?, Reader.isBlank b = false := by
      intro b hb
      cases hb
      exact isBlank_of_inIdent (hcs d hd)
    unfold memberPart
    rw [run_bind (run_blanks hblank), run_bind (run_char (inName_of_inIdent (hcs d hd)) rest)]
    rfl
  have hstop : memberPart.run rest = none := by
    unfold memberPart
    rw [run_bind (run_blanks hrest.not_isBlank)]
    exact run_bind_eq_none (run_char_eq_none hrest.not_inName)
  have hmore : (many memberPart).run (cs ++ rest) = some (cs.map fun d => [d], rest) := by
    refine run_times_chars hread hstop (n := (cs ++ rest).length) ?_
    rw [List.length_append]
    omega
  have hflatten : (cs.map fun d => [d]).flatten = cs := by
    rw [← List.flatMap_def, List.flatMap_singleton']
  rw [memberName_eq, List.cons_append, run_bind (run_char (startsName_of_startsIdent hc) _),
    run_bind hmore, hflatten]
  rfl

theorem run_segment_name {c : Char} {cs : List Char} (hc : Token.startsIdent c = true)
    (hcs : ∀ d ∈ cs, Token.inIdent d = true) (hrest : Follows rest) :
    (segment condition).run ('.' :: (c :: cs ++ rest)) =
      some (.step false [.name (String.ofList (c :: cs))], rest) := by
  have hne : ∀ d, Token.inIdent d = false → (c :: cs ++ rest).head? ≠ some d := by
    rintro d hd heq
    cases heq
    rw [Token.inIdent_of_startsIdent hc] at hd
    cases hd
  have hdeep : (word ['.', '.']).run ('.' :: (c :: cs ++ rest)) = none := by
    have hfirst : (discard (mark '.') : Reader PUnit).run ('.' :: (c :: cs ++ rest)) =
        some ((), c :: cs ++ rest) := run_map (run_mark '.' _)
    have hsecond : (discard (mark '.') : Reader PUnit).run (c :: cs ++ rest) = none :=
      run_map_eq_none (run_mark_eq_none (hne '.' rfl))
    show ((discard (mark '.') : Reader PUnit) >>= fun _ => word ['.']).run _ = none
    rw [run_bind hfirst]
    exact run_bind_eq_none hsecond
  have hshorthand : shorthand.run (c :: cs ++ rest) =
      some ([.name (String.ofList (c :: cs))], rest) := by
    refine (run_orElse_right (run_bind_eq_none (run_mark_eq_none (hne '*' rfl)))).trans ?_
    exact run_map (run_memberName hc hcs hrest)
  refine (run_orElse_right (run_bind_eq_none hdeep)).trans (run_orElse_left ?_)
  rw [run_bind (run_mark '.' _)]
  exact run_map hshorthand

/-! ## Indices -/

theorem run_wholeDigits {n : Nat} (hn : n ≤ largest) (hrest : ∀ c ∈ rest.head?, c.isDigit = false) :
    wholeDigits.run (Decimal.digits n ++ rest) = some (Decimal.digits n, rest) := by
  -- zero has a branch of its own, since no other number starts with `0`
  by_cases hzero : n = 0
  · subst hzero
    refine run_orElse_left ?_
    rw [Decimal.digits_zero, List.singleton_append, run_bind (run_mark '0' rest)]
    rfl
  · have hhead := Decimal.head?_digits_ne_zero (Nat.pos_of_ne_zero hzero)
    -- one digit is read first, and fifteen at most behind it
    have hlength : (Decimal.digits n).length ≤ 16 := by
      have hlt : n < 10 ^ 16 := by unfold largest at hn; omega
      exact (Nat.length_toDigits_le_iff (by decide) (by decide)).2 hlt
    obtain ⟨d, ds, hdigits, hds⟩ := Decimal.exists_digits n
    rw [hdigits] at hhead hlength ⊢
    have hd : d ≠ '0' := fun heq => hhead (congrArg some heq)
    obtain ⟨hfirst, hmore⟩ := List.forall_mem_cons.1 hds
    have hfail : (mark '0').run (d :: ds ++ rest) = none := by
      refine run_mark_eq_none fun heq => hd ?_
      exact Option.some.inj heq
    refine (run_orElse_right (run_bind_eq_none hfail)).trans ?_
    have htimes : (times (char Char.isDigit) 15).run (ds ++ rest) = some (ds, rest) := by
      have hread : ∀ d ∈ ds, ∀ rest, (char Char.isDigit).run (d :: rest) = some (id d, rest) :=
        fun d hd rest => run_char (hmore d hd) rest
      have h := run_times_chars hread (run_char_eq_none hrest) (Nat.le_of_succ_le_succ hlength)
      rwa [List.map_id] at h
    rw [List.cons_append, run_bind (run_char (decide_eq_true ⟨hfirst, hd⟩) _), run_bind htimes]
    rfl

theorem run_integer {n : Nat} (hn : n ≤ largest) (hrest : ∀ c ∈ rest.head?, c.isDigit = false) :
    integer.run (Decimal.digits n ++ rest) = some ((n : Int), rest) := by
  obtain ⟨d, ds, hdigits, hds⟩ := Decimal.exists_digits n
  have hsign : (mark '-').run (Decimal.digits n ++ rest) = none := by
    refine run_mark_eq_none ?_
    rw [hdigits]
    rintro heq
    cases heq
    exact absurd (hds '-' List.mem_cons_self) (by decide)
  unfold integer
  rw [run_bind (run_option_eq_none hsign), run_bind (run_wholeDigits hn hrest),
    Decimal.value_digits]
  have hcheck : (check (n ≤ largest ∧ ¬ ((none : Option Char).isSome ∧ n = 0))).run rest =
      some ((), rest) := by
    unfold check
    rw [if_pos (decide_eq_true ⟨hn, by simp⟩)]
    rfl
  rw [run_bind hcheck]
  rfl

/-- One selector in brackets is a segment. -/
theorem run_segment_brackets {s : Selector} {text : List Char}
    (htext : ∀ c ∈ (text ++ ']' :: rest).head?, Reader.isBlank c = false)
    (h : (selector condition).run (text ++ ']' :: rest) = some (s, ']' :: rest)) :
    (segment condition).run ('[' :: (text ++ ']' :: rest)) = some (.step false [s], rest) := by
  have hclose : ∀ c ∈ (']' :: rest).head?, Reader.isBlank c = false := by
    intro c hc
    cases hc
    rfl
  have hpadded : (padded (selector condition)).run (text ++ ']' :: rest) = some (s, ']' :: rest) :=
    run_padded htext h hclose
  have hmore : (many (do
      let _ ← mark ','
      padded (selector condition))).run (']' :: rest) = some ([], ']' :: rest) :=
    run_times_stop (run_bind_eq_none (run_mark_eq_none (by simp))) _
  have hbrackets : (brackets condition).run ('[' :: (text ++ ']' :: rest)) = some ([s], rest) := by
    unfold brackets
    rw [run_bind (run_mark '[' _), run_bind hpadded, run_bind hmore, run_bind (run_mark ']' rest)]
    rfl
  have hdots : (word ['.', '.']).run ('[' :: (text ++ ']' :: rest)) = none :=
    run_bind_eq_none (run_map_eq_none (run_mark_eq_none (by simp)))
  refine (run_orElse_right (run_bind_eq_none hdots)).trans ?_
  refine (run_orElse_right (run_bind_eq_none (run_mark_eq_none (by simp)))).trans ?_
  exact run_map hbrackets

theorem run_segment_index {n : Nat} (hn : n ≤ largest) (rest : List Char) :
    (segment condition).run ('[' :: (Decimal.digits n ++ ']' :: rest)) =
      some (.step false [.index n], rest) := by
  have hclose : ∀ c ∈ (']' :: rest).head?, c.isDigit = false := by
    intro c hc
    cases hc
    rfl
  have hinteger := run_integer hn hclose
  obtain ⟨d, ds, hdigits, hds⟩ := Decimal.exists_digits n
  have hd : d.isDigit = true := hds d List.mem_cons_self
  have hfirst : ∀ c ∈ (Decimal.digits n ++ ']' :: rest).head?, c = d := by
    intro c hc
    rw [hdigits] at hc
    cases hc
    rfl
  have hne : ∀ c, c.isDigit = false → (Decimal.digits n ++ ']' :: rest).head? ≠ some c := by
    rintro c hc heq
    rw [hfirst c heq, hd] at hc
    cases hc
  -- a digit starts no key and no wildcard, and behind the integer there is no colon
  have hkey : quotedKey.run (Decimal.digits n ++ ']' :: rest) = none := by
    have hquote : (char fun c => c = '\'' ∨ c = '"').run (Decimal.digits n ++ ']' :: rest) =
        none := by
      refine run_char_eq_none fun c hc => decide_eq_false ?_
      rintro (rfl | rfl)
      · exact hne _ rfl hc
      · exact hne _ rfl hc
    exact run_bind_eq_none (run_bind_eq_none hquote)
  have hslice : slice.run (Decimal.digits n ++ ']' :: rest) = none := by
    have hcolon : (padded (mark ':')).run (']' :: rest) = none := by
      have hblanks : blanks.run (']' :: rest) = some ([], ']' :: rest) := by
        refine run_blanks ?_
        intro c hc
        cases hc
        rfl
      unfold padded
      rw [run_bind hblanks]
      exact run_bind_eq_none (run_mark_eq_none (by simp))
    unfold slice
    rw [run_bind (run_option hinteger)]
    exact run_bind_eq_none hcolon
  have hselector : (selector condition).run (Decimal.digits n ++ ']' :: rest) =
      some (.index n, ']' :: rest) := by
    refine (run_orElse_right (run_map_eq_none hkey)).trans ?_
    refine (run_orElse_right (run_bind_eq_none (run_mark_eq_none (hne '*' rfl)))).trans ?_
    exact (run_orElse_right hslice).trans (run_orElse_left (run_map hinteger))
  refine run_segment_brackets (fun c hc => ?_) hselector
  rw [hfirst c hc]
  exact isBlank_of_inIdent (Token.inIdent_of_isDigit hd)

/-! ## Quoted keys -/

/-- A character that stands for itself between quotes. -/
theorem run_quotedChar {quote c : Char} (hquote : c ≠ quote) (hback : c ≠ '\\')
    (hcontrol : 0x20 ≤ c.toNat) (rest : List Char) :
    (quotedChar quote).run (c :: rest) = some (([c], c), rest) := by
  have hchar : (char fun c => c ≠ quote ∧ 0x20 ≤ c.toNat).run (c :: rest) = some (c, rest) :=
    run_char (decide_eq_true ⟨hquote, hcontrol⟩) rest
  have hget : (get : Reader (List Char)).run (c :: rest) = some (c :: rest, c :: rest) := rfl
  unfold quotedChar
  rw [run_bind hget, run_bind hchar, if_neg hback]
  show some (((c :: rest).take ((c :: rest).length - rest.length), c), rest) = _
  rw [List.length_cons, Nat.add_sub_cancel_left]
  rfl

theorem strip_of_not_mem {c : Char} {cs : List Char} (h : c ∉ cs) : strip c cs = cs := by
  have hdrop : ∀ ds : List Char, c ∉ ds → ds.dropWhile (· = c) = ds := by
    intro ds hds
    cases ds with
    | nil => rfl
    | cons d ds =>
      have hne : d ≠ c := by
        rintro rfl
        exact hds List.mem_cons_self
      rw [List.dropWhile_cons_of_neg (by simpa using hne)]
  unfold strip
  rw [hdrop cs h, hdrop cs.reverse (by simpa using h), List.reverse_reverse]

theorem run_segment_key {cs : List Char} (hcs : ∀ d ∈ cs, Token.inIdent d = true)
    (rest : List Char) :
    (segment condition).run ('[' :: ('"' :: (cs ++ ['"']) ++ ']' :: rest)) =
      some (.step false [.name (String.ofList cs)], rest) := by
  have hquoted : quoted.run ('"' :: (cs ++ '"' :: ']' :: rest)) =
      some (('"', cs, cs), ']' :: rest) := by
    have hbody : (many (quotedChar '"')).run (cs ++ '"' :: ']' :: rest) =
        some (cs.map fun d => ([d], d), '"' :: ']' :: rest) := by
      refine run_times_chars (fun d hd rest => ?_) ?_ (by simp)
      · obtain ⟨hquote, hback, hcontrol⟩ := Token.plain_of_inIdent (hcs d hd)
        exact run_quotedChar hquote hback hcontrol rest
      -- the quote that ends the key is none of its characters
      · have hget : (get : Reader (List Char)).run ('"' :: ']' :: rest) =
            some ('"' :: ']' :: rest, '"' :: ']' :: rest) := rfl
        unfold quotedChar
        rw [run_bind hget]
        refine run_bind_eq_none (run_char_eq_none fun c hc => ?_)
        cases hc
        rfl
    unfold quoted
    rw [run_bind (run_char (by decide) _), run_bind hbody, run_bind (run_mark '"' _)]
    simp only [List.flatMap_map, List.map_map]
    show some (('"', cs.flatMap fun d => [d], cs.map fun d => d), ']' :: rest) = _
    rw [List.flatMap_singleton', List.map_id']
  have hkey : quotedKey.run ('"' :: (cs ++ '"' :: ']' :: rest)) =
      some (String.ofList cs, ']' :: rest) := by
    have hquote : '"' ∉ cs := fun hmem => (Token.plain_of_inIdent (hcs _ hmem)).1 rfl
    unfold quotedKey
    rw [run_bind hquoted]
    show some (String.ofList (strip '"' cs), ']' :: rest) = _
    rw [strip_of_not_mem hquote]
  have htext : '"' :: (cs ++ ['"']) ++ ']' :: rest = '"' :: (cs ++ '"' :: ']' :: rest) := by simp
  refine run_segment_brackets (fun c hc => ?_) ?_
  · cases hc
    rfl
  · rw [htext]
    exact run_orElse_left (run_map hkey)

/-! ## Paths -/

/-- A segment, and the blanks in front of it. -/
def segmentPart (condition : Reader Condition) : Reader Segment := do
  let _ ← blanks
  segment condition

/-- A path whose segments are read one by one is read as a whole. -/
theorem ofText?_of_segments {β : Type} {text : β → List Char} {value : β → Segment}
    {items : List β} {path : String} (hpath : path.toList = '$' :: items.flatMap text)
    (hread : ∀ item ∈ items, ∀ condition rest, Follows rest →
      (segment condition).run (text item ++ rest) = some (value item, rest))
    (htext : ∀ item ∈ items, ∀ rest, Follows (text item ++ rest))
    (hne : ∀ item ∈ items, text item ≠ []) : ofText? path = some (items.map value) := by
  have hsegments : ∀ condition,
      (segments condition).run (items.flatMap text) = some (items.map value, []) := by
    intro condition
    have hpart : ∀ item ∈ items, ∀ rest, Follows rest →
        (segmentPart condition).run (text item ++ rest) = some (value item, rest) := by
      intro item hitem rest hrest
      have hblanks := run_blanks (htext item hitem rest).not_isBlank
      exact (run_bind hblanks).trans (hread item hitem condition rest hrest)
    have hstop : (segmentPart condition).run [] = none := rfl
    have hend : Follows [] := fun _ hc => by cases hc
    have hmany := run_many hpart htext hstop hend hne
    rwa [List.append_nil] at hmany
  unfold ofText?
  rw [hpath]
  simp only [run_bind (run_mark '$' _), hsegments]

end Query
end Sluice
