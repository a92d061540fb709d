import Sluice.Proofs.Mappings
import Sluice.Proofs.Utf8
import Sluice.Request
import Sluice.Url.Basic

/-!
# Query parameters

Pairs that are written as a form are read back in their order.  A written name or value holds no
separator, every byte of it is read from the characters it is written with, and the bytes give the
text.

* `Form.IsSafe`: the characters that names and values are written with.
* `Form.valuesOf`: the values that pairs give a name.
-/

namespace Sluice

/-! ## Splitting -/

namespace Text

section Splitting

variable {p : Char → Bool} {c : Char} {cs : List Char}

theorem splitWhen_ne_nil (p : Char → Bool) (cs : List Char) : splitWhen p cs ≠ [] := by
  induction cs with
  | nil => exact List.cons_ne_nil _ _
  | cons d cs ih =>
    rw [splitWhen]
    split
    · exact List.cons_ne_nil _ _
    · split <;> exact List.cons_ne_nil _ _

theorem splitWhen_append_cons (hc : p c) (cs rest : List Char) :
    splitWhen p (cs ++ c :: rest) = splitWhen p cs ++ splitWhen p rest := by
  induction cs with
  | nil =>
    rw [List.nil_append, splitWhen.eq_def p (c :: rest)]
    exact if_pos hc
  | cons d cs ih =>
    rw [List.cons_append, splitWhen, splitWhen]
    by_cases hd : p d
    · rw [if_pos hd, if_pos hd, ih, List.cons_append]
    · obtain ⟨part, parts, hparts⟩ := List.exists_cons_of_ne_nil (splitWhen_ne_nil p cs)
      rw [if_neg hd, if_neg hd, ih, hparts, List.cons_append, List.cons_append]

theorem splitWhen_of_forall (h : ∀ d ∈ cs, ¬ p d) : splitWhen p cs = [cs] := by
  induction cs with
  | nil => rfl
  | cons d cs ih =>
    rw [splitWhen, if_neg (h d List.mem_cons_self), ih fun e he => h e (List.mem_cons_of_mem d he)]

theorem splitOnce?_append_cons (h : c ∉ cs) (rest : List Char) :
    splitOnce? c (cs ++ c :: rest) = some (cs, rest) := by
  have hne : ∀ d ∈ cs, decide (d ≠ c) = true := by
    intro d hd
    exact decide_eq_true fun heq => h (heq ▸ hd)
  rw [splitOnce?, List.dropWhile_append_of_pos hne, List.takeWhile_append_of_pos hne]
  simp

end Splitting

end Text

namespace Form

open Text

/-! ## Bytes -/

/-- The characters that names and values are written with. -/
def IsSafe (c : Char) : Prop := c.isAlphanum ∨ c ∈ ['*', '-', '.', '_', '+', '%']

instance : DecidablePred IsSafe := fun _ => inferInstanceAs (Decidable (_ ∨ _))

theorem isAlphanum_digitChar : ∀ n < 16, (Nat.digitChar n).toUpper.isAlphanum := by decide

/-- The digits that a byte is written with have their values. -/
theorem digit?_digitChar :
    ∀ n < 16, digit? (UInt8.ofNat (Nat.digitChar n).toUpper.toNat) = some (UInt8.ofNat n) := by
  decide

/-- A plain byte is the number of a character that does not stand for another one. -/
theorem plain_byte {b : UInt8} (h : isPlain b) :
    IsSafe (Char.ofNat b.toNat) ∧ (Char.ofNat b.toNat).toNat < 128 ∧
      Char.ofNat b.toNat ∉ ['+', '%'] := by
  have hbytes : ∀ n < 256, isPlain (UInt8.ofNat n) →
      IsSafe (Char.ofNat n) ∧ (Char.ofNat n).toNat < 128 ∧ Char.ofNat n ∉ ['+', '%'] := by
    decide +kernel
  refine hbytes b.toNat b.toNat_lt ?_
  rwa [UInt8.ofNat_toNat]

theorem isSafe_of_mem_escape {b : UInt8} {c : Char} (h : c ∈ escape b) : IsSafe c := by
  have hb := b.toNat_lt
  rw [escape] at h
  split at h
  · case isTrue hplain =>
    rw [List.mem_singleton.1 h]
    exact (plain_byte hplain).1
  · split at h
    · rw [List.mem_singleton.1 h]
      exact .inr (by decide)
    · simp only [hexByte, List.map_cons, List.map_nil, List.mem_cons, List.not_mem_nil,
        or_false] at h
      rcases h with rfl | rfl | rfl
      · exact .inr (by decide)
      · exact .inl (isAlphanum_digitChar _ (by omega))
      · exact .inl (isAlphanum_digitChar _ (by omega))

theorem unescape_cons {b : UInt8} (h : b ≠ 0x25) (rest : List UInt8) :
    unescape (b :: rest) = b :: unescape rest := by
  match rest with
  | [] => rfl
  | [_] => rfl
  | _ :: _ :: _ => rw [unescape, if_neg h]

theorem unescape_escaped {a b high low : UInt8} (ha : digit? a = some high)
    (hb : digit? b = some low) (rest : List UInt8) :
    unescape (0x25 :: a :: b :: rest) = (high * 16 + low) :: unescape rest := by
  rw [unescape, if_pos rfl, ha, hb]

/-- What `+` is read as. -/
def blank (c : Char) : Char := if c = '+' then ' ' else c

theorem blank_digitChar :
    ∀ n < 16, blank (Nat.digitChar n).toUpper = (Nat.digitChar n).toUpper := by decide

theorem toNat_digitChar_lt : ∀ n < 16, (Nat.digitChar n).toUpper.toNat < 128 := by decide

theorem bytes_cons_of_ascii {c : Char} (h : c.toNat < 128) (cs : List Char) :
    bytes (c :: cs) = UInt8.ofNat c.toNat :: bytes cs := by
  change String.utf8EncodeChar c ++ bytes cs = _
  rw [utf8EncodeChar_of_ascii h, List.singleton_append]

theorem unescape_plain {b : UInt8} (h : isPlain b) (rest : List UInt8) :
    unescape (bytes ([Char.ofNat b.toNat].map blank) ++ rest) = b :: unescape rest := by
  obtain ⟨-, hascii, hsign⟩ := plain_byte h
  have hplus : Char.ofNat b.toNat ≠ '+' := fun heq => hsign (by simp [heq])
  have hpercent : b ≠ 0x25 := by
    rintro rfl
    exact absurd h (by decide)
  rw [List.map_singleton, blank, if_neg hplus, bytes_cons_of_ascii hascii, toNat_ofNat_byte,
    UInt8.ofNat_toNat]
  exact unescape_cons hpercent rest

theorem unescape_hexByte (b : UInt8) (rest : List UInt8) :
    unescape (bytes (('%' :: (hexByte b).map Char.toUpper).map blank) ++ rest) =
      b :: unescape rest := by
  have hhigh : b.toNat / 16 < 16 := by
    have := b.toNat_lt
    omega
  have hlow : b.toNat % 16 < 16 := Nat.mod_lt _ (by decide)
  -- the digits are the sixteens and the ones of the byte, and `+` is none of them
  have hvalue : UInt8.ofNat (b.toNat / 16) * 16 + UInt8.ofNat (b.toNat % 16) = b := by
    change UInt8.ofNat (b.toNat / 16) * UInt8.ofNat 16 + UInt8.ofNat (b.toNat % 16) = b
    rw [← UInt8.ofNat_mul, ← UInt8.ofNat_add, Nat.div_add_mod', UInt8.ofNat_toNat]
  simp only [hexByte, List.map_cons, List.map_nil, blank_digitChar _ hhigh, blank_digitChar _ hlow]
  rw [bytes_cons_of_ascii (by decide), bytes_cons_of_ascii (toNat_digitChar_lt _ hhigh),
    bytes_cons_of_ascii (toNat_digitChar_lt _ hlow)]
  change unescape (0x25 :: _ :: _ :: rest) = _
  rw [unescape_escaped (digit?_digitChar _ hhigh) (digit?_digitChar _ hlow), hvalue]

/-- A byte is read from how it is written, whatever follows. -/
theorem unescape_escape (b : UInt8) (rest : List UInt8) :
    unescape (bytes ((escape b).map blank) ++ rest) = b :: unescape rest := by
  rw [escape]
  split
  · case isTrue hplain => exact unescape_plain hplain rest
  · split
    · case isTrue hblank =>
      subst hblank
      exact unescape_cons (by decide) rest
    · exact unescape_hexByte b rest

theorem unescape_flatMap_escape (bs : List UInt8) :
    unescape (bytes ((bs.flatMap escape).map blank)) = bs := by
  induction bs with
  | nil => rfl
  | cons b bs ih =>
    have hbytes : ∀ cs ds : List Char, bytes (cs ++ ds) = bytes cs ++ bytes ds :=
      fun cs ds => List.flatMap_append
    rw [List.flatMap_cons, List.map_append, hbytes, unescape_escape, ih]

/-- A name or a value is read from how it is written. -/
theorem decode_encode (s : String) : decode (encode s) = s := by
  have hspaced : Text.encode (String.ofList ((encode s).map blank)) =
      bytes ((encode s).map blank) := by
    rw [encode_eq, String.toList_ofList]
  change Text.decode (unescape (Text.encode (String.ofList ((encode s).map blank)))) = s
  rw [hspaced, encode, unescape_flatMap_escape, Text.decode_encode]

/-! ## Pairs -/

theorem isSafe_of_mem_encode {s : String} {c : Char} (h : c ∈ encode s) : IsSafe c := by
  obtain ⟨b, -, hc⟩ := List.mem_flatMap.1 h
  exact isSafe_of_mem_escape hc

theorem isSafe_or_of_mem_writePair {entry : String × String} {c : Char}
    (h : c ∈ writePair entry) : IsSafe c ∨ c = '=' := by
  rcases List.mem_append.1 h with hname | hrest
  · exact .inl (isSafe_of_mem_encode hname)
  · rcases List.mem_cons.1 hrest with heq | hvalue
    · exact .inr heq
    · exact .inl (isSafe_of_mem_encode hvalue)

theorem isSafe_or_of_mem_write {pairs : List (String × String)} {c : Char}
    (h : c ∈ write pairs) : IsSafe c ∨ c = '=' ∨ c = '&' := by
  induction pairs using write.induct with
  | case1 => exact absurd h List.not_mem_nil
  | case2 entry => exact (isSafe_or_of_mem_writePair h).imp_right .inl
  | case3 entry next rest ih =>
    rcases List.mem_append.1 h with hentry | hrest
    · exact (isSafe_or_of_mem_writePair hentry).imp_right .inl
    · rcases List.mem_cons.1 hrest with heq | hmem
      · exact .inr (.inr heq)
      · exact ih hmem

theorem pair_writePair (entry : String × String) : pair (writePair entry) = entry := by
  have hname : '=' ∉ encode entry.1 := fun h => absurd (isSafe_of_mem_encode h) (by decide)
  rw [pair, writePair, splitOnce?_append_cons hname]
  exact Prod.ext (decode_encode _) (decode_encode _)

/-- Between two queries with `&` the pairs of the first come first. -/
theorem read_append (first second : String) :
    read (first ++ "&" ++ second) = read first ++ read second := by
  have hjoined : (first ++ "&" ++ second).toList = first.toList ++ '&' :: second.toList := by
    simp
  rw [read, hjoined, splitAt, splitWhen_append_cons (by simp), List.filter_append, List.map_append]
  rfl

theorem read_writePair (entry : String × String) :
    read (String.ofList (writePair entry)) = [entry] := by
  have hseparator : ∀ c ∈ writePair entry, ¬ decide (c = '&') = true := by
    intro c hc heq
    obtain rfl := of_decide_eq_true heq
    exact absurd (isSafe_or_of_mem_writePair hc) (by decide)
  have hfilled : [writePair entry].filter (fun cs => ¬ cs.isEmpty) = [writePair entry] := by
    simp [writePair]
  rw [read, String.toList_ofList, splitAt, splitWhen_of_forall hseparator, hfilled,
    List.map_singleton, pair_writePair]

theorem read_write (pairs : List (String × String)) :
    read (String.ofList (write pairs)) = pairs := by
  induction pairs using write.induct with
  | case1 => rfl
  | case2 entry => exact read_writePair entry
  | case3 entry next rest ih =>
    have hjoined : String.ofList (write (entry :: next :: rest)) =
        String.ofList (writePair entry) ++ "&" ++ String.ofList (write (next :: rest)) := by
      rw [← String.toList_inj]
      simp [write]
    rw [hjoined, read_append, read_writePair, ih, List.singleton_append]

/-- Pairs added to a URL are read behind those it has. -/
theorem read_withQuery (u : Url) (pairs : List (String × String)) :
    read ((u.withQuery pairs).query.getD "") = read (u.query.getD "") ++ pairs := by
  rw [Url.withQuery]
  split
  · case isTrue hempty =>
    rw [List.isEmpty_iff.1 hempty, List.append_nil]
  · dsimp only
    split
    · case h_1 hquery =>
      rw [hquery]
      exact read_write pairs
    · case h_2 hquery =>
      rw [hquery]
      exact read_write pairs
    · case h_3 q _ hquery =>
      rw [hquery, Option.getD_some, Option.getD_some, read_append, read_write]

/-- The values that pairs give a name, in their order. -/
def valuesOf (name : String) (pairs : List (String × String)) : List String :=
  (pairs.filter fun entry => entry.1 = name).map (·.2)

theorem valuesOf_cons (name : String) (entry : String × String) (pairs : List (String × String)) :
    valuesOf name (entry :: pairs) =
      if entry.1 = name then entry.2 :: valuesOf name pairs else valuesOf name pairs := by
  by_cases h : entry.1 = name <;> simp [valuesOf, h]

theorem valuesOf_of_not_mem {name : String} {pairs : List (String × String)}
    (h : name ∉ pairs.map (·.1)) : valuesOf name pairs = [] := by
  have hother : ∀ entry ∈ pairs, ¬ decide (entry.1 = name) = true := by
    intro entry hentry heq
    exact h (List.mem_map.2 ⟨entry, hentry, of_decide_eq_true heq⟩)
  rw [valuesOf, List.filter_eq_nil_iff.2 hother, List.map_nil]

end Form

namespace Request

theorem get?_foldl_withQuery (pairs : List (String × String)) (r : Request) (name : String) :
    (pairs.foldl (fun r entry => r.withQuery entry.1 entry.2) r).query.get? name =
      if name ∈ pairs.map (·.1) then some ((r.query.get? name).getD [] ++ Form.valuesOf name pairs)
      else r.query.get? name := by
  induction pairs generalizing r with
  | nil => rfl
  | cons entry pairs ih =>
    have hfirst : (r.withQuery entry.1 entry.2).query.get? name =
        if entry.1 = name then some ((r.query.get? entry.1).getD [] ++ [entry.2])
        else r.query.get? name := Index.get?_adjust _ _ _ _
    rw [List.foldl_cons, ih, hfirst]
    by_cases hname : entry.1 = name
    · subst hname
      by_cases hmem : entry.1 ∈ pairs.map (·.1)
      · simp [hmem, Form.valuesOf_cons]
      · simp [hmem, Form.valuesOf_cons, Form.valuesOf_of_not_mem hmem]
    · have hne : ¬ name = entry.1 := fun h => hname h.symm
      simp only [if_neg hname, List.map_cons, List.mem_cons, hne, false_or, Form.valuesOf_cons]

/-- Pairs that are written as a form, or sent behind the query of a URL, are read in their order:
each name has its values and no other name has any. -/
theorem withQueryString_write (method path : String) (pairs : List (String × String)) :
    (∀ name, ((Request.of method path).withQueryString
        (String.ofList (Form.write pairs))).query.get? name =
      if name ∈ pairs.map (·.1) then some (Form.valuesOf name pairs) else none) ∧
    (∀ c ∈ Form.write pairs, Form.IsSafe c ∨ c = '=' ∨ c = '&') ∧
    ∀ u : Url, Form.read ((u.withQuery pairs).query.getD "") =
      Form.read (u.query.getD "") ++ pairs := by
  refine ⟨fun name => ?_, ?_, fun u => Form.read_withQuery u pairs⟩
  · have hnone : (Request.of method path).query.get? name = none := rfl
    rw [withQueryString, Form.read_write, get?_foldl_withQuery, hnone]
    rfl
  · exact fun c hc => Form.isSafe_or_of_mem_write hc

end Request

end Sluice
