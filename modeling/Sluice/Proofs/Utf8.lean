import Sluice.Proofs.Lexing.Bytes

/-!
# Reading UTF-8 back

Reading the bytes of a text gives the text: `decode_encode`.  A character is read from its first
byte, which says how many follow and in which range the next one lies, and from six bits of each
byte behind it.
-/

namespace Sluice.Text

/-! ## Single bytes -/

section Bytes

variable {b : UInt8}

theorem decodeFrom_ascii (h : b.toNat < 128) (rest : List UInt8) :
    decodeFrom none (b :: rest) = Char.ofNat b.toNat :: decodeFrom none rest := by
  rw [decodeFrom, decodeFirst, if_pos h]
  rfl

theorem decodeFrom_lead {bits following low high : Nat} (h : 128 ≤ b.toNat)
    (hlead : lead? b.toNat = some ⟨bits, following, low, high⟩) (rest : List UInt8) :
    decodeFrom none (b :: rest) = decodeFrom (some ⟨bits, following, low, high⟩) rest := by
  rw [decodeFrom, decodeFirst, if_neg (Nat.not_lt.2 h), hlead]
  rfl

theorem decodeFrom_last {bits low high : Nat} (hlow : low ≤ b.toNat) (hhigh : b.toNat ≤ high)
    (rest : List UInt8) :
    decodeFrom (some ⟨bits, 1, low, high⟩) (b :: rest) =
      Char.ofNat (bits * 64 + (b.toNat - 0x80)) :: decodeFrom none rest := by
  rw [decodeFrom]
  simp only [hlow, hhigh, and_self, if_true, Nat.le_refl]

theorem decodeFrom_more {bits needed low high : Nat} (hlow : low ≤ b.toNat) (hhigh : b.toNat ≤ high)
    (rest : List UInt8) :
    decodeFrom (some ⟨bits, needed + 2, low, high⟩) (b :: rest) =
      decodeFrom (some ⟨bits * 64 + (b.toNat - 0x80), needed + 1, 0x80, 0xBF⟩) rest := by
  rw [decodeFrom]
  have hneeded : ¬ needed + 2 ≤ 1 := by omega
  simp only [hlow, hhigh, and_self, if_true, hneeded, if_false]
  rfl

end Bytes

/-! ## First bytes -/

section Leads

variable {n : Nat}

theorem lead?_two (h : 0x80 ≤ n) (h' : n < 0x800) :
    lead? (n / 64 % 32 + 192) = some ⟨n / 64, 1, 0x80, 0xBF⟩ := by
  have hbits : n / 64 % 32 + 192 - 192 = n / 64 := by omega
  rw [lead?, if_pos (by omega), hbits]

/-- The first byte of three excludes what two bytes can write, and the surrogates. -/
theorem lead?_three (h : 0x800 ≤ n) (h' : n < 0x10000) (hs : n < 0xD800 ∨ 0xDFFF < n) :
    ∃ low high, lead? (n / 4096 % 16 + 224) = some ⟨n / 4096, 2, low, high⟩ ∧
      low ≤ n / 64 % 64 + 128 ∧ n / 64 % 64 + 128 ≤ high := by
  by_cases hfirst : n < 0x1000
  · -- behind `E0`, a byte below `A0` would write what two bytes can
    obtain hbits : n / 4096 = 0 := by omega
    refine ⟨0xA0, 0xBF, ?_, by omega, by omega⟩
    rw [hbits]
    rfl
  · by_cases hsurrogates : 0xD000 ≤ n ∧ n < 0xE000
    · -- behind `ED`, a byte above `9F` would write a surrogate
      obtain hbits : n / 4096 = 13 := by omega
      refine ⟨0x80, 0x9F, ?_, by omega, by omega⟩
      rw [hbits]
      rfl
    · refine ⟨0x80, 0xBF, ?_, by omega, by omega⟩
      have hbits : n / 4096 % 16 + 224 - 224 = n / 4096 := by omega
      rw [lead?, if_neg (by omega), if_neg (by omega), if_neg (by omega), if_pos (by omega), hbits]

/-- The first byte of four excludes what three bytes can write, and what is no character. -/
theorem lead?_four (h : 0x10000 ≤ n) (h' : n < 0x110000) :
    ∃ low high, lead? (n / 262144 % 8 + 240) = some ⟨n / 262144, 3, low, high⟩ ∧
      low ≤ n / 4096 % 64 + 128 ∧ n / 4096 % 64 + 128 ≤ high := by
  by_cases hfirst : n < 0x40000
  · -- behind `F0`, a byte below `90` would write what three bytes can
    obtain hbits : n / 262144 = 0 := by omega
    refine ⟨0x90, 0xBF, ?_, by omega, by omega⟩
    rw [hbits]
    rfl
  · by_cases hlast : 0x100000 ≤ n
    · -- behind `F4`, a byte above `8F` would write more than the last character
      obtain hbits : n / 262144 = 4 := by omega
      refine ⟨0x80, 0x8F, ?_, by omega, by omega⟩
      rw [hbits]
      rfl
    · refine ⟨0x80, 0xBF, ?_, by omega, by omega⟩
      have hbits : n / 262144 % 8 + 240 - 240 = n / 262144 := by omega
      rw [lead?, if_neg (by omega), if_neg (by omega), if_neg (by omega), if_neg (by omega),
        if_neg (by omega), if_pos (by omega), hbits]

end Leads

/-! ## Characters -/

section Characters

variable {n : Nat} (rest : List UInt8)

theorem toNat_ofNat_of_lt {k : Nat} (h : k < 256) : (UInt8.ofNat k).toNat = k := by
  rw [UInt8.toNat_ofNat', Nat.mod_eq_of_lt h]

theorem decodeFrom_one (h : n < 0x80) :
    decodeFrom none (UInt8.ofNat n :: rest) = Char.ofNat n :: decodeFrom none rest := by
  have hb : (UInt8.ofNat n).toNat = n := toNat_ofNat_of_lt (by omega)
  rw [decodeFrom_ascii (by omega), hb]

theorem decodeFrom_two (h : 0x80 ≤ n) (h' : n < 0x800) :
    decodeFrom none (UInt8.ofNat (n / 64 % 32 + 192) :: UInt8.ofNat (n % 64 + 128) :: rest) =
      Char.ofNat n :: decodeFrom none rest := by
  have hb₀ : (UInt8.ofNat (n / 64 % 32 + 192)).toNat = n / 64 % 32 + 192 :=
    toNat_ofNat_of_lt (by omega)
  have hb₁ : (UInt8.ofNat (n % 64 + 128)).toNat = n % 64 + 128 := toNat_ofNat_of_lt (by omega)
  have hbits : n / 64 * 64 + (n % 64 + 128 - 0x80) = n := by omega
  rw [decodeFrom_lead (by omega) (hb₀ ▸ lead?_two h h'), decodeFrom_last (by omega) (by omega), hb₁,
    hbits]

theorem decodeFrom_three (h : 0x800 ≤ n) (h' : n < 0x10000) (hs : n < 0xD800 ∨ 0xDFFF < n) :
    decodeFrom none (UInt8.ofNat (n / 4096 % 16 + 224) :: UInt8.ofNat (n / 64 % 64 + 128) ::
      UInt8.ofNat (n % 64 + 128) :: rest) = Char.ofNat n :: decodeFrom none rest := by
  have hb₀ : (UInt8.ofNat (n / 4096 % 16 + 224)).toNat = n / 4096 % 16 + 224 :=
    toNat_ofNat_of_lt (by omega)
  have hb₁ : (UInt8.ofNat (n / 64 % 64 + 128)).toNat = n / 64 % 64 + 128 :=
    toNat_ofNat_of_lt (by omega)
  have hb₂ : (UInt8.ofNat (n % 64 + 128)).toNat = n % 64 + 128 := toNat_ofNat_of_lt (by omega)
  obtain ⟨low, high, hlead, hlow, hhigh⟩ := lead?_three h h' hs
  have hbits : (n / 4096 * 64 + (n / 64 % 64 + 128 - 0x80)) * 64 + (n % 64 + 128 - 0x80) = n := by
    omega
  rw [decodeFrom_lead (by omega) (hb₀ ▸ hlead), decodeFrom_more (by omega) (by omega), hb₁,
    decodeFrom_last (by omega) (by omega), hb₂, hbits]

theorem decodeFrom_four (h : 0x10000 ≤ n) (h' : n < 0x110000) :
    decodeFrom none (UInt8.ofNat (n / 262144 % 8 + 240) :: UInt8.ofNat (n / 4096 % 64 + 128) ::
      UInt8.ofNat (n / 64 % 64 + 128) :: UInt8.ofNat (n % 64 + 128) :: rest) =
      Char.ofNat n :: decodeFrom none rest := by
  have hb₀ : (UInt8.ofNat (n / 262144 % 8 + 240)).toNat = n / 262144 % 8 + 240 :=
    toNat_ofNat_of_lt (by omega)
  have hb₁ : (UInt8.ofNat (n / 4096 % 64 + 128)).toNat = n / 4096 % 64 + 128 :=
    toNat_ofNat_of_lt (by omega)
  have hb₂ : (UInt8.ofNat (n / 64 % 64 + 128)).toNat = n / 64 % 64 + 128 :=
    toNat_ofNat_of_lt (by omega)
  have hb₃ : (UInt8.ofNat (n % 64 + 128)).toNat = n % 64 + 128 := toNat_ofNat_of_lt (by omega)
  obtain ⟨low, high, hlead, hlow, hhigh⟩ := lead?_four h h'
  have hbits : ((n / 262144 * 64 + (n / 4096 % 64 + 128 - 0x80)) * 64 +
      (n / 64 % 64 + 128 - 0x80)) * 64 + (n % 64 + 128 - 0x80) = n := by omega
  rw [decodeFrom_lead (by omega) (hb₀ ▸ hlead), decodeFrom_more (by omega) (by omega), hb₁,
    decodeFrom_more (by omega) (by omega), hb₂, decodeFrom_last (by omega) (by omega), hb₃, hbits]

/-- Reading the bytes of a character gives the character, whatever follows. -/
theorem decodeFrom_utf8EncodeChar (c : Char) :
    decodeFrom none (String.utf8EncodeChar c ++ rest) = c :: decodeFrom none rest := by
  have hvalid : c.val.toNat < 0xD800 ∨ 0xDFFF < c.val.toNat ∧ c.val.toNat < 0x110000 := c.valid
  have hread : Char.ofNat c.val.toNat = c := Char.ofNat_toNat c
  conv => rhs; rw [← hread]
  unfold String.utf8EncodeChar
  dsimp only
  split
  · exact decodeFrom_one rest (by omega)
  · split
    · exact decodeFrom_two rest (by omega) (by omega)
    · split
      · exact decodeFrom_three rest (by omega) (by omega) (by omega)
      · exact decodeFrom_four rest (by omega) (by omega)

end Characters

/-! ## Texts -/

/-- The bytes of an array are read from the front, with those that have been read in reverse. -/
theorem loop_reads (bs : ByteArray) {read unread : List UInt8}
    (h : bs.data.toList = read ++ unread) :
    ByteArray.toList.loop bs read.length read.reverse = bs.data.toList := by
  have hsize : bs.size = bs.data.toList.length := rfl
  induction unread generalizing read with
  | nil =>
    rw [List.append_nil] at h
    have hend : ¬ read.length < bs.size := by
      rw [hsize, h]
      exact Nat.lt_irrefl _
    rw [ByteArray.toList.loop, if_neg hend, List.reverse_reverse, h]
  | cons b unread ih =>
    have hmore : read.length < bs.size := by
      rw [hsize, h, List.length_append, List.length_cons]
      omega
    have hb : bs.get! read.length = b := by
      have hget : bs.data[read.length]? = some b := by
        rw [← Array.getElem?_toList, h, List.getElem?_append_right (Nat.le_refl _), Nat.sub_self]
        rfl
      change bs.data[read.length]! = b
      rw [getElem!_def, hget]
    have hrest := ih (h.trans (List.append_cons read b unread))
    rw [List.length_append, List.reverse_append] at hrest
    rw [ByteArray.toList.loop, if_pos hmore, hb]
    exact hrest

theorem encode_eq (s : String) : encode s = bytes s.toList := by
  have hdata : s.toUTF8.data.toList = bytes s.toList := by
    rw [String.toUTF8_eq_toByteArray, ← toByteArray_bytes, List.toList_data_toByteArray]
  exact (loop_reads s.toUTF8 (List.nil_append _).symm).trans hdata

theorem decodeFrom_bytes (cs : List Char) : decodeFrom none (bytes cs) = cs := by
  induction cs with
  | nil => rw [bytes, List.flatMap_nil, decodeFrom]
  | cons c cs ih =>
    change decodeFrom none (String.utf8EncodeChar c ++ bytes cs) = c :: cs
    rw [decodeFrom_utf8EncodeChar, ih]

/-- Reading the bytes of a text gives the text. -/
theorem decode_encode (s : String) : decode (encode s) = s := by
  rw [decode, encode_eq, decodeFrom_bytes, String.ofList_toList]

end Sluice.Text
