import Mathlib
import Sluice.Proofs.Mappings
import Sluice.Proofs.Parameters.Reading
import Sluice.Request

/-!
# Looking headers up

Headers arrive one after the other under names in any case.  The first one of a name counts,
wherever it is looked up: in the request, in what expressions see of it, or by the plugin `header`.

* `SameButCase` : texts that are the same up to case;
* `Request.withHeaders` : a request with the headers that have arrived;
* `Request.FirstValue` : the value that counts, said of the headers as they have arrived.
-/

namespace Sluice

/-! ## Texts up to case

Names of headers and media types are compared in lower case.  That is a comparison character by
character: the letters from `A` to `Z` count as their lower case forms, and no other letters do. -/

/-- Whether two characters are the same, or two cases of one letter from `A` to `Z`. -/
def SameLetter (c d : Char) : Prop :=
  c = d ∨ (c.isUpper = true ∧ d.toNat = c.toNat + 32) ∨
    (d.isUpper = true ∧ c.toNat = d.toNat + 32)

/-- Whether two texts are the same up to the case of the letters from `A` to `Z`. -/
def SameButCase (s t : List Char) : Prop := List.Forall₂ SameLetter s t

theorem isUpper_iff (c : Char) : c.isUpper = true ↔ 65 ≤ c.toNat ∧ c.toNat ≤ 90 := by
  simp [Char.isUpper, UInt32.le_iff_toNat_le]

theorem toNat_toLower (c : Char) :
    c.toLower.toNat = if c.isUpper = true then c.toNat + 32 else c.toNat := by
  split
  · next h =>
    have hrange := (isUpper_iff c).1 h
    have hvalid : (c.toNat + 32).isValidChar := by omega
    rw [Char.toLower_eq_of_isUpper h, Char.toNat_ofNat, if_pos hvalid]
  · next h => rw [Char.toLower_eq_of_not_isUpper h]

theorem toLower_eq_toLower_iff (c d : Char) : c.toLower = d.toLower ↔ SameLetter c d := by
  rw [← Char.toNat_inj, toNat_toLower, toNat_toLower, SameLetter, ← Char.toNat_inj]
  simp only [isUpper_iff]
  split <;> split <;> omega

theorem map_toLower_eq_iff (s t : List Char) :
    s.map Char.toLower = t.map Char.toLower ↔ SameButCase s t := by
  rw [← List.forall₂_eq_eq_eq, List.forall₂_map_left_iff, List.forall₂_map_right_iff, SameButCase]
  simp only [toLower_eq_toLower_iff]

instance (s t : List Char) : Decidable (SameButCase s t) :=
  decidable_of_iff _ (map_toLower_eq_iff s t)

theorem Request.lower_eq_lower_iff (s t : String) :
    lower s = lower t ↔ SameButCase s.toList t.toList := by
  rw [← map_toLower_eq_iff, lower, lower, ← String.toList_inj, String.toList_map, String.toList_map]

namespace Request

/-- A request with headers that arrive one after the other. -/
def withHeaders (r : Request) (arrived : List (String × String)) : Request :=
  arrived.foldl (fun r header => r.withHeader header.1 header.2) r

/-- Whether a value is that of the first header of a name, up to case. -/
def FirstValue (arrived : List (String × String)) (name value : String) : Prop :=
  ∃ before own after, arrived = before ++ (own, value) :: after ∧
    SameButCase own.toList name.toList ∧
    ∀ header ∈ before, ¬ SameButCase header.1.toList name.toList

section Lookup

variable {r : Request} {arrived : List (String × String)}

/-! ## In the request -/

/-- A header is there if one of its name has arrived; what was there before comes first. -/
theorem get?_headers_withHeaders (r : Request) (arrived : List (String × String)) (key : String) :
    (r.withHeaders arrived).headers.get? key =
      (r.headers.get? key).or ((arrived.find? fun header => lower header.1 = key).map (·.2)) := by
  induction arrived generalizing r with
  | nil => simp [withHeaders]
  | cons header arrived ih =>
    obtain ⟨name, value⟩ := header
    have hone : (r.withHeader name value).headers.get? key =
        if lower name = key then some ((r.headers.get? (lower name)).getD value)
        else r.headers.get? key := Index.get?_adjust _ _ _ _
    rw [withHeaders, List.foldl_cons, ← withHeaders, ih, hone, List.find?_cons]
    by_cases hname : lower name = key
    · cases hget : r.headers.get? key <;> simp [hname, hget]
    · simp [hname]

theorem firstValue_iff (arrived : List (String × String)) (name value : String) :
    (arrived.find? fun header => lower header.1 = lower name).map (·.2) = some value ↔
      FirstValue arrived name value := by
  simp only [Option.map_eq_some_iff, List.find?_eq_some_iff_append, lower_eq_lower_iff,
    decide_eq_true_eq, Bool.not_eq_true', decide_eq_false_iff_not]
  constructor
  · rintro ⟨⟨own, value⟩, ⟨hown, before, after, rfl, hbefore⟩, rfl⟩
    exact ⟨before, own, after, rfl, hown, hbefore⟩
  · rintro ⟨before, own, after, rfl, hown, hbefore⟩
    exact ⟨(own, value), ⟨hown, before, after, rfl, hbefore⟩, rfl⟩

theorem header?_withHeaders (hr : r.headers = .empty) (arrived : List (String × String))
    (name : String) : (r.withHeaders arrived).header? name =
      (arrived.find? fun header => lower header.1 = lower name).map (·.2) := by
  rw [header?, get?_headers_withHeaders, hr]
  rfl

/-! ## In what expressions see -/

/-- The headers of a request, as expressions see them. -/
def seenHeaders (r : Request) : Fields Json :=
  r.headers.entries.map fun header => (header.1, .string header.2)

theorem get?_seenHeaders (r : Request) (key : String) :
    Fields.get? key r.seenHeaders = (r.headers.get? key).map .string := by
  rw [seenHeaders, Index.get?]
  induction r.headers.entries with
  | nil => rfl
  | cons header headers ih =>
    rw [List.map_cons, Fields.get?, List.find?_cons, ih]
    by_cases hkey : header.1 = key <;> simp [hkey]

theorem nodup_seenHeaders (r : Request) : (Fields.keys r.seenHeaders).Nodup := by
  rw [Fields.keys, seenHeaders, List.map_map, List.Nodup, List.pairwise_map]
  exact r.headers.ascending.imp fun {a b} hlt (heq : a.1 = b.1) => String.lt_irrefl _ (heq ▸ hlt)

theorem mem_keys_seenHeaders (hr : r.headers = .empty) (key : String) :
    key ∈ Fields.keys (r.withHeaders arrived).seenHeaders ↔
      ∃ header ∈ arrived, lower header.1 = key := by
  rw [← Fields.get?_isSome_iff, get?_seenHeaders, get?_headers_withHeaders, hr]
  simp [Index.get?, Index.empty]

end Lookup

/-- The expression that looks a header up. -/
theorem eval_header (ctx : Context) (name : String) (subject : Option Json) :
    let found := Expr.index (.field (.ident "In") "Header") (.literal (.string (lower name)))
    found.eval ctx.view subject = (ctx.request.header? name).elim
      (.error (.pathNotFound found.render)) fun value => .ok (.string value) := by
  intro found
  have hseen : found.eval ctx.view subject =
      Expr.elementOf found (.map ctx.request.seenHeaders) (.string (lower name)) := rfl
  rw [hseen, Expr.elementOf, get?_seenHeaders, header?]
  cases ctx.request.headers.get? (lower name) <;> rfl

/-! ## As requests arrive -/

theorem headers_withQueryString (r : Request) (query : String) :
    (r.withQueryString query).headers = r.headers := by
  rw [withQueryString]
  induction Form.read query generalizing r with
  | nil => rfl
  | cons entry entries ih => exact ih (r.withQuery entry.1 entry.2)

/-- The headers of a request that arrives are added to one without headers. -/
theorem exists_receive_eq_withHeaders (method target : String)
    (headers : List (String × List UInt8)) (body : List UInt8) : ∃ bare : Request, bare.headers = .empty ∧
      receive method target headers body =
        bare.withHeaders (headers.map fun header => (header.1, Text.decode header.2)) := by
  cases htarget : splitTarget target with
  | mk path query =>
    refine ⟨{ (of method path).withQueryString query with body }, headers_withQueryString _ _, ?_⟩
    simp only [receive, htarget, withHeaders, List.foldl_map]

/-- Of all headers that arrive under one name, whatever the case of its letters from `A` to `Z`, the
first one counts.  Expressions see each name once, in lower case, with this value, and the plugin
`header` gives this value and compares with it. -/
theorem header?_first (r : Request) (hr : r.headers = .empty) (arrived : List (String × String)) :
    let received := r.withHeaders arrived
    (∀ name,
      (∀ value, received.header? name = some value ↔ FirstValue arrived name value) ∧
      (received.header? name = none ↔
        ∀ header ∈ arrived, ¬ SameButCase header.1.toList name.toList)) ∧
    (∃ fields, received.view.get? "Header" = some (.map fields) ∧ (Fields.keys fields).Nodup ∧
      (∀ key, key ∈ Fields.keys fields ↔ ∃ header ∈ arrived, lower header.1 = key) ∧
      ∀ name, Fields.get? (lower name) fields = (received.header? name).map .string) ∧
    (∀ (ctx : Context) (name : String),
      let seen := { ctx with request := received }
      let found := Expr.index (.field (.ident "In") "Header") (.literal (.string (lower name)))
      (∀ subject, found.eval seen.view subject = (received.header? name).elim
        (.error (.pathNotFound found.render)) fun value => .ok (.string value)) ∧
      ∀ params expected, name ≠ "" → Fields.get? "name" params = some (.string name) →
        (Fields.get? "value" params = some (.string expected) ∨
          Fields.get? "value" params = none ∧ expected = "") →
        let value := (received.header? name).getD ""
        Header.call params seen =
          ⟨.ok (decide (expected = "" ∨ value = expected)), some [("value", .string value)], seen,
            []⟩) ∧
    ∀ method target headers body name value,
      (receive method target headers body).header? name = some value ↔
        FirstValue (headers.map fun header => (header.1, Text.decode header.2)) name value := by
  intro received
  have hfind : ∀ name, received.header? name =
      (arrived.find? fun header => lower header.1 = lower name).map (·.2) :=
    header?_withHeaders hr arrived
  refine ⟨fun name => ⟨fun value => ?_, ?_⟩, ⟨received.seenHeaders, rfl, received.nodup_seenHeaders,
    mem_keys_seenHeaders hr, fun name => received.get?_seenHeaders (lower name)⟩,
    fun ctx name => ⟨eval_header { ctx with request := received } name, ?_⟩,
    fun method target headers body name value => ?_⟩
  · rw [hfind, firstValue_iff]
  · rw [hfind, Option.map_eq_none_iff, List.find?_eq_none]
    simp only [decide_eq_true_eq, lower_eq_lower_iff]
  · intro params expected hname hparam hvalue value
    have hread : Header.Params.read params = .ok ⟨name, expected⟩ :=
      Header.Params.read_eq_ok_iff.2 ⟨hparam, hname, hvalue⟩
    rw [Header.call, hread]
    rfl
  -- a received request is one without headers whose headers then arrive
  · obtain ⟨bare, hbare, hreceive⟩ := exists_receive_eq_withHeaders method target headers body
    rw [hreceive, header?_withHeaders hbare, firstValue_iff]

/-- The first of two headers of one name counts, and letters beyond `Z` have one case only. -/
theorem header?_first_repeated :
    let bare := Request.of "GET" "/"
    let received := bare.withHeaders [("X-Key", "first"), ("x-KEY", "second"), ("Ñ", "third")]
    let seen := { Context.empty with request := received }
    bare.headers = .empty ∧ received.header? "x-key" = some "first" ∧
    received.header? "ñ" = none ∧
    (Header.call [("name", .string "X-KEY"), ("value", .string "second")] seen).outcome =
      .ok false ∧
    (receive "GET" "/" [("X-Key", [0x31]), ("x-key", [0x32])] []).header? "X-KEY" = some "1" := by
  intro bare received seen
  obtain ⟨hlookup, -, hcall, hreceive⟩ := header?_first bare rfl
    [("X-Key", "first"), ("x-KEY", "second"), ("Ñ", "third")]
  refine ⟨rfl, ((hlookup "x-key").1 _).2 ?_, (hlookup "ñ").2.2 (by decide), ?_,
    (hreceive _ _ _ _ _ _).2 ?_⟩
  · exact ⟨[], "X-Key", _, rfl, by decide, by simp⟩
  · have hvalue : received.header? "X-KEY" = some "first" :=
      ((hlookup "X-KEY").1 _).2 ⟨[], "X-Key", _, rfl, by decide, by simp⟩
    rw [(hcall Context.empty "X-KEY").2 _ "second" (by decide) rfl (.inl rfl), hvalue]
    rfl
  · exact ⟨[], "X-Key", _, rfl, by decide, by simp⟩

end Request

end Sluice
