import Sluice.Expr.Lexer

/-!
# Positions among the bytes of a text

A scanner over UTF-8 can look at any byte (`peek`), but it can cut the text only between characters
(`slice?`, `tail?`).  `At source pos rest` says that `pos` is such a place, with `rest` behind it.
There the byte that `peek` shows is the next character if that is ASCII, and all bytes of other
characters are at least 128.
-/

namespace Sluice.Text

/-! ## Lengths -/

@[simp]
theorem byteLength_nil : byteLength [] = 0 := rfl

theorem foldl_utf8Size (cs : List Char) (n : Nat) :
    cs.foldl (fun n c => n + c.utf8Size) n = n + byteLength cs := by
  induction cs generalizing n with
  | nil => rfl
  | cons c cs ih =>
    rw [byteLength, List.foldl_cons, List.foldl_cons, ih, ih (0 + c.utf8Size)]
    omega

@[simp]
theorem byteLength_cons (c : Char) (cs : List Char) :
    byteLength (c :: cs) = c.utf8Size + byteLength cs := by
  rw [byteLength, List.foldl_cons, foldl_utf8Size, Nat.zero_add]

@[simp]
theorem byteLength_append (cs ds : List Char) :
    byteLength (cs ++ ds) = byteLength cs + byteLength ds := by
  induction cs with
  | nil => simp
  | cons c cs ih => simp [ih, Nat.add_assoc]

theorem byteLength_append_sub (cs ds : List Char) :
    byteLength (cs ++ ds) - byteLength ds = byteLength cs := by
  rw [byteLength_append, Nat.add_sub_cancel]

theorem byteLength_pos {cs : List Char} (h : cs ≠ []) : 0 < byteLength cs := by
  cases cs with
  | nil => exact absurd rfl h
  | cons c cs =>
    have := c.utf8Size_pos
    rw [byteLength_cons]
    omega

/-! ## Cutting -/

/-- Splits a text behind its first `n` bytes, if these are whole characters. -/
def splitAt? : Nat → List Char → Option (List Char × List Char)
  | 0, cs => some ([], cs)
  | _ + 1, [] => none
  | n + 1, c :: cs =>
    if c.utf8Size ≤ n + 1 then
      (splitAt? (n + 1 - c.utf8Size) cs).map fun p => (c :: p.1, p.2)
    else none

/-- The text behind a position, if that lies between characters. -/
def tail? (source : List Char) (pos : Nat) : Option (List Char) :=
  (splitAt? pos source).map (·.2)

/-- The text between two positions, if these lie between characters and in this order. -/
def slice? (source : List Char) (start stop : Nat) : Option (List Char) :=
  if start ≤ stop then do
    let (_, tail) ← splitAt? start source
    let (text, _) ← splitAt? (stop - start) tail
    some text
  else none

theorem splitAt?_byteLength (before after : List Char) :
    splitAt? (byteLength before) (before ++ after) = some (before, after) := by
  induction before with
  | nil => simp [splitAt?]
  | cons c before ih =>
    have hpos := c.utf8Size_pos
    obtain ⟨n, hn⟩ : ∃ n, byteLength (c :: before) = n + 1 :=
      ⟨c.utf8Size + byteLength before - 1, by rw [byteLength_cons]; omega⟩
    have hrest : n + 1 - c.utf8Size = byteLength before := by
      rw [byteLength_cons] at hn
      omega
    have hle : c.utf8Size ≤ n + 1 := by
      rw [byteLength_cons] at hn
      omega
    rw [hn, List.cons_append, splitAt?, if_pos hle, hrest, ih]
    rfl

/-- A text splits where a character ends, and nowhere else. -/
theorem splitAt?_eq_some_iff {n : Nat} {cs before after : List Char} :
    splitAt? n cs = some (before, after) ↔ cs = before ++ after ∧ n = byteLength before := by
  constructor
  · intro h
    induction cs generalizing n before with
    | nil =>
      cases n with
      | zero => cases h; exact ⟨rfl, rfl⟩
      | succ n => cases h
    | cons c cs ih =>
      cases n with
      | zero => cases h; exact ⟨rfl, rfl⟩
      | succ n =>
        rw [splitAt?] at h
        split at h
        · obtain ⟨⟨before', after'⟩, hsplit, hp⟩ := Option.map_eq_some_iff.1 h
          cases hp
          obtain ⟨rfl, hn⟩ := ih hsplit
          refine ⟨rfl, ?_⟩
          rw [byteLength_cons, ← hn, Nat.add_sub_cancel' ‹_›]
        · cases h
  · rintro ⟨rfl, rfl⟩
    exact splitAt?_byteLength before after

theorem slice?_eq_some_iff {source text : List Char} {start stop : Nat} :
    slice? source start stop = some text ↔
      ∃ before after, source = before ++ text ++ after ∧ start = byteLength before ∧
        stop = byteLength (before ++ text) := by
  constructor
  · intro h
    rw [slice?] at h
    split at h
    · obtain ⟨⟨before, tail⟩, hstart, h⟩ := Option.bind_eq_some_iff.1 h
      obtain ⟨⟨text', after⟩, hstop, h⟩ := Option.bind_eq_some_iff.1 h
      cases h
      obtain ⟨rfl, hbefore⟩ := splitAt?_eq_some_iff.1 hstart
      obtain ⟨rfl, htext⟩ := splitAt?_eq_some_iff.1 hstop
      refine ⟨before, after, (List.append_assoc before text after).symm, hbefore, ?_⟩
      rw [byteLength_append]
      omega
    · cases h
  · rintro ⟨before, after, rfl, rfl, rfl⟩
    have hlen : byteLength (before ++ text) - byteLength before = byteLength text := by
      rw [byteLength_append, Nat.add_sub_cancel_left]
    have hle : byteLength before ≤ byteLength (before ++ text) := by
      rw [byteLength_append]
      exact Nat.le_add_right _ _
    simp only [slice?, if_pos hle, List.append_assoc, splitAt?_byteLength, Option.bind_eq_bind,
      Option.bind_some, hlen]

/-! ## Looking -/

def bytes (source : List Char) : List UInt8 := source.flatMap String.utf8EncodeChar

/-- The byte at a position, taken for the character of its number. -/
def peek (source : List Char) (pos : Nat) : Option Char :=
  (bytes source)[pos]?.map fun b => Char.ofNat b.toNat

theorem length_bytes (source : List Char) : (bytes source).length = byteLength source := by
  induction source with
  | nil => rfl
  | cons c source ih =>
    rw [byteLength_cons, ← ih, bytes, List.flatMap_cons, List.length_append,
      String.length_utf8EncodeChar, bytes]

theorem lt_of_peek {source : List Char} {pos : Nat} {c : Char} (h : peek source pos = some c) :
    pos < byteLength source := by
  obtain ⟨b, hb, -⟩ := Option.map_eq_some_iff.1 h
  rw [← length_bytes]
  exact (List.getElem?_eq_some_iff.1 hb).1

theorem toByteArray_bytes (s : String) : (bytes s.toList).toByteArray = s.toByteArray := by
  conv => rhs; rw [← String.ofList_toList (s := s)]
  rfl

theorem byteLength_toList (s : String) : byteLength s.toList = s.utf8ByteSize := by
  rw [← length_bytes, ← List.size_toByteArray, toByteArray_bytes]
  rfl

/-- Only ASCII characters have bytes below 128. -/
theorem le_of_mem_utf8EncodeChar {c : Char} {b : UInt8} (hc : 128 ≤ c.toNat)
    (hb : b ∈ String.utf8EncodeChar c) : 128 ≤ b.toNat := by
  have hval : ¬ c.val.toNat ≤ 0x7f := by
    have : c.toNat = c.val.toNat := rfl
    omega
  simp only [String.utf8EncodeChar, if_neg hval] at hb
  split at hb
  · simp only [List.mem_cons, List.not_mem_nil, or_false] at hb
    rcases hb with rfl | rfl <;> (rw [UInt8.toNat_ofNat']; omega)
  · split at hb
    · simp only [List.mem_cons, List.not_mem_nil, or_false] at hb
      rcases hb with rfl | rfl | rfl <;> (rw [UInt8.toNat_ofNat']; omega)
    · simp only [List.mem_cons, List.not_mem_nil, or_false] at hb
      rcases hb with rfl | rfl | rfl | rfl <;> (rw [UInt8.toNat_ofNat']; omega)

theorem utf8Size_of_ascii {c : Char} (hc : c.toNat < 128) : c.utf8Size = 1 := by
  rw [Char.utf8Size_eq_one_iff, UInt32.le_iff_toNat_le]
  exact Nat.le_of_lt_succ hc

theorem utf8EncodeChar_of_ascii {c : Char} (hc : c.toNat < 128) :
    String.utf8EncodeChar c = [UInt8.ofNat c.toNat] := by
  rw [String.utf8EncodeChar]
  exact if_pos (Nat.le_of_lt_succ hc)

/-! ## Places between characters -/

/-- `pos` lies between characters, and `rest` is the text behind it. -/
def At (source : List Char) (pos : Nat) (rest : List Char) : Prop :=
  ∃ before, source = before ++ rest ∧ pos = byteLength before

variable {source cs text rest : List Char} {c : Char} {pos stop : Nat}

theorem At.start (source : List Char) : At source 0 source := ⟨[], rfl, rfl⟩

theorem At.append (h : At source pos (text ++ rest)) : At source (pos + byteLength text) rest := by
  obtain ⟨before, rfl, rfl⟩ := h
  exact ⟨before ++ text, (List.append_assoc before text rest).symm,
    (byteLength_append before text).symm⟩

theorem At.tail (h : At source pos (c :: cs)) : At source (pos + c.utf8Size) cs := by
  rw [← List.singleton_append] at h
  have htail := h.append
  rwa [byteLength_cons, byteLength_nil, Nat.add_zero] at htail

theorem At.tail_ascii (hc : c.toNat < 128) (h : At source pos (c :: cs)) :
    At source (pos + 1) cs := by
  have htail := h.tail
  rwa [utf8Size_of_ascii hc] at htail

/-- The text behind a position tells the position. -/
theorem At.pos_eq (h : At source pos rest) : pos = byteLength source - byteLength rest := by
  obtain ⟨before, rfl, rfl⟩ := h
  exact (byteLength_append_sub before rest).symm

theorem At.stop_eq (h : At source pos (text ++ rest)) (hstop : At source stop rest) :
    stop = pos + byteLength text := by
  rw [hstop.pos_eq, h.append.pos_eq]

theorem At.le_byteLength (h : At source pos rest) : pos ≤ byteLength source :=
  h.pos_eq ▸ Nat.sub_le _ _

/-- A position with less of the text behind it is further on. -/
theorem At.lt_of_length_lt (h : At source pos cs) (hstop : At source stop rest)
    (hlt : rest.length < cs.length) : pos < stop := by
  obtain ⟨before, rfl, rfl⟩ := h
  obtain ⟨before', heq, rfl⟩ := hstop
  rcases List.append_eq_append_iff.1 heq with ⟨text, rfl, rfl⟩ | ⟨text, rfl, rfl⟩
  · have htext : text ≠ [] := by
      rintro rfl
      exact absurd hlt (Nat.lt_irrefl _)
    rw [byteLength_append]
    exact Nat.lt_add_of_pos_right (byteLength_pos htext)
  · rw [List.length_append] at hlt
    omega

theorem At.slice? (h : At source pos (text ++ rest)) (hstop : At source stop rest) :
    slice? source pos stop = some text := by
  have hlen := h.stop_eq hstop
  obtain ⟨before, rfl, rfl⟩ := h
  refine slice?_eq_some_iff.2 ⟨before, rest, (List.append_assoc before text rest).symm, rfl, ?_⟩
  rw [hlen, byteLength_append]

theorem At.tail? (h : At source pos rest) : tail? source pos = some rest := by
  obtain ⟨before, rfl, rfl⟩ := h
  rw [Text.tail?, splitAt?_byteLength]
  rfl

/-- The bytes of the next character. -/
theorem At.peek_add (h : At source pos (c :: cs)) {i : Nat} (hi : i < c.utf8Size) :
    ∃ b ∈ String.utf8EncodeChar c, peek source (pos + i) = some (Char.ofNat b.toNat) := by
  obtain ⟨before, rfl, rfl⟩ := h
  have hlt : i < (String.utf8EncodeChar c).length := by rwa [String.length_utf8EncodeChar]
  refine ⟨(String.utf8EncodeChar c)[i], List.getElem_mem hlt, ?_⟩
  have hbytes : bytes (before ++ c :: cs) =
      bytes before ++ (String.utf8EncodeChar c ++ bytes cs) := by
    simp [bytes]
  rw [peek, hbytes, ← length_bytes, List.getElem?_append_right (Nat.le_add_right _ _),
    Nat.add_sub_cancel_left, List.getElem?_append_left hlt, List.getElem?_eq_getElem hlt]
  rfl

theorem At.peek_ascii (hc : c.toNat < 128) (h : At source pos (c :: cs)) :
    peek source pos = some c := by
  have hpos : 0 < c.utf8Size := c.utf8Size_pos
  obtain ⟨b, hb, hpeek⟩ := h.peek_add hpos
  rw [utf8EncodeChar_of_ascii hc, List.mem_singleton] at hb
  have hbyte : b.toNat = c.toNat := by
    rw [hb, UInt8.toNat_ofNat']
    omega
  rw [Nat.add_zero] at hpeek
  rw [hpeek, hbyte, Char.ofNat_toNat]

theorem toNat_ofNat_byte (b : UInt8) : (Char.ofNat b.toNat).toNat = b.toNat := by
  have hvalid : b.toNat.isValidChar := .inl (Nat.lt_trans b.toNat_lt (by decide))
  rw [Char.ofNat, dif_pos hvalid]
  rfl

theorem At.peek_wide (hc : 128 ≤ c.toNat) (h : At source pos (c :: cs)) {i : Nat}
    (hi : i < c.utf8Size) : ∃ d, peek source (pos + i) = some d ∧ 128 ≤ d.toNat := by
  obtain ⟨b, hb, hpeek⟩ := h.peek_add hi
  exact ⟨_, hpeek, (toNat_ofNat_byte b).symm ▸ le_of_mem_utf8EncodeChar hc hb⟩

theorem At.peek_wide_head (hc : 128 ≤ c.toNat) (h : At source pos (c :: cs)) :
    ∃ d, peek source pos = some d ∧ 128 ≤ d.toNat :=
  h.peek_wide hc c.utf8Size_pos

theorem At.peek_end (h : At source pos []) {n : Nat} (hn : pos ≤ n) : peek source n = none := by
  obtain ⟨before, rfl, rfl⟩ := h
  rw [peek, List.getElem?_eq_none (by rwa [List.append_nil, length_bytes])]
  rfl

/-- What cannot tell a character above ASCII from the end cannot tell the next byte from the next
character. -/
theorem At.peek_head? {α : Type} {f : Option Char → α}
    (hf : ∀ c : Char, 128 ≤ c.toNat → f (some c) = f none) (h : At source pos rest) :
    f (peek source pos) = f rest.head? := by
  cases rest with
  | nil => rw [h.peek_end (Nat.le_refl pos), List.head?_nil]
  | cons c cs =>
    rw [List.head?_cons]
    by_cases hc : c.toNat < 128
    · rw [h.peek_ascii hc]
    · obtain ⟨d, hpeek, hd⟩ := h.peek_wide_head (Nat.le_of_not_lt hc)
      rw [hpeek, hf d hd, hf c (Nat.le_of_not_lt hc)]

end Sluice.Text
