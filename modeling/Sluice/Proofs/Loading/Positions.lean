import Sluice.Config.Position

/-!
# The way to an entry

The way that a position stands for leads through a document step by step, and its text tells it from
every other way to an entry: `pointer_inj`.

* `Place.Enters` — the places on the way to an entry: items, and what stands under `pipe` or `init`;
* `Position.numbers` — the indices on the way;
* `Position.pointer` — the text of the way.
-/

namespace Sluice

/-- Whether a place is on the way to an entry. -/
def Place.Enters : Place → Prop
  | .item _ => True
  | .field name => name = "pipe" ∨ name = "init"

namespace Position

variable {p q : Position} {document : Json}

/-! ## Going on -/

theorem find?_item {items : List Json} {index : Nat} {v : Json}
    (h : p.find? document = some (.list items)) (hv : items[index]? = some v) :
    (p.item index).find? document = some v := by
  rw [find?, item, List.foldlM_append]
  rw [find?] at h
  rw [h]
  simpa [go?] using hv

theorem find?_field {fields : Fields Json} {key : String} {v : Json}
    (h : p.find? document = some (.map fields)) (hv : Fields.get? key fields = some v) :
    (p.field key).find? document = some v := by
  rw [find?, field, List.foldlM_append]
  rw [find?] at h
  rw [h]
  simpa [go?] using hv

def numbers (p : Position) : List Nat :=
  p.path.filterMap fun
    | .item index => some index
    | .field _ => none

theorem numbers_item (p : Position) (index : Nat) : (p.item index).numbers = p.numbers ++ [index] :=
  List.filterMap_append

theorem numbers_field (p : Position) (name : String) : (p.field name).numbers = p.numbers := by
  rw [numbers, field, List.filterMap_append]
  exact List.append_nil _

/-! ## The text of a way -/

def pointer (p : Position) : String := String.join (p.path.map placeText)

theorem text_eq (h : p.path ≠ []) : p.text = p.source ++ ":" ++ p.pointer := by
  rw [text, if_neg (by simpa using h), pointer]

def placeName : Place → List Char
  | .item index => Nat.toDigits 10 index
  | .field name => name.toList

theorem toList_placeText (place : Place) : (placeText place).toList = '/' :: placeName place := by
  cases place with
  | item index =>
    rw [placeText, String.toList_append, Nat.toString_eq_repr, Nat.toList_repr]
    rfl
  | field name =>
    rw [placeText, String.toList_append]
    rfl

theorem toList_pointer (p : Position) :
    p.pointer.toList = p.path.flatMap fun place => '/' :: placeName place := by
  rw [pointer, String.toList_join, List.flatMap_map]
  simp only [toList_placeText]

theorem slash_not_mem_placeName {place : Place} (h : place.Enters) : '/' ∉ placeName place := by
  cases place with
  | item index =>
    intro hmem
    have hdigit := Nat.isDigit_of_mem_toDigits (by decide) (by decide) hmem
    exact absurd hdigit (by decide)
  | field name => rcases h with rfl | rfl <;> decide

theorem placeName_inj {a b : Place} (ha : a.Enters) (hb : b.Enters)
    (h : placeName a = placeName b) : a = b := by
  have hdigits {index : Nat} {name : String} (hn : (Place.field name).Enters) :
      Nat.toDigits 10 index ≠ name.toList := by
    intro heq
    have hmem : 'i' ∈ Nat.toDigits 10 index := by
      rw [heq]
      rcases hn with rfl | rfl <;> decide
    exact absurd (Nat.isDigit_of_mem_toDigits (by decide) (by decide) hmem) (by decide)
  cases a with
  | item i => cases b with
    | item j =>
      have hdigits : Nat.toDigits 10 i = Nat.toDigits 10 j := h
      have hindex : i = j := by
        rw [← Nat.ofDigitChars_ten_toDigits (n := i), hdigits, Nat.ofDigitChars_ten_toDigits]
      rw [hindex]
    | field name => exact absurd h (hdigits hb)
  | field name => cases b with
    | item j => exact absurd h.symm (hdigits ha)
    | field name' => rw [String.toList_inj.1 h]

/-- Names without a slash, and ways behind them, that read the same. -/
theorem append_pointer_inj {a b : List Char} {ps qs : List Place} (ha : '/' ∉ a) (hb : '/' ∉ b)
    (h : a ++ ps.flatMap (fun place => '/' :: placeName place) =
      b ++ qs.flatMap (fun place => '/' :: placeName place)) : a = b := by
  have htake {c : List Char} {rs : List Place} (hc : '/' ∉ c) :
      (c ++ rs.flatMap fun place => '/' :: placeName place).takeWhile (· ≠ '/') = c := by
    rw [List.takeWhile_append_of_pos fun x hx => by simpa using fun heq : x = '/' => hc (heq ▸ hx)]
    cases rs <;> simp
  rw [← htake ha, h, htake hb]

theorem path_eq_of_pointer {ps qs : List Place} (hps : ∀ place ∈ ps, place.Enters)
    (hqs : ∀ place ∈ qs, place.Enters)
    (h : ps.flatMap (fun place => '/' :: placeName place) =
      qs.flatMap fun place => '/' :: placeName place) : ps = qs := by
  induction ps generalizing qs with
  | nil => cases qs with
    | nil => rfl
    | cons b qs => simp at h
  | cons a ps ih => cases qs with
    | nil => simp at h
    | cons b qs =>
      obtain ⟨ha, hps⟩ := List.forall_mem_cons.1 hps
      obtain ⟨hb, hqs⟩ := List.forall_mem_cons.1 hqs
      simp only [List.flatMap_cons, List.cons_append, List.cons.injEq, true_and] at h
      have hname := append_pointer_inj (slash_not_mem_placeName ha) (slash_not_mem_placeName hb) h
      rw [hname, List.append_cancel_left_eq] at h
      rw [placeName_inj ha hb hname, ih hps hqs h]

/-- Ways to entries that read the same are the same. -/
theorem pointer_inj (hp : ∀ place ∈ p.path, place.Enters) (hq : ∀ place ∈ q.path, place.Enters)
    (h : p.pointer = q.pointer) : p.path = q.path := by
  refine path_eq_of_pointer hp hq ?_
  rw [← toList_pointer, ← toList_pointer, h]

end Position

end Sluice
