import Sluice.Schema.Check

/-!
# What schemas accept

Acceptance without lists of violations: a schema accepts what has nothing against each of its
keywords.  The keywords that speak of the fields of a map are read as facts on lookups.
-/

namespace Sluice.Schema

/-- Whether a keyword has nothing against a value. -/
def Keyword.Met (k : Keyword) (v : Json) : Prop := ofKeyword k v = []

theorem ofKeywords_eq_nil_iff (ks : List Keyword) (v : Json) :
    ofKeywords ks v = [] ↔ ∀ k ∈ ks, k.Met v := by
  induction ks with
  | nil => simp [ofKeywords]
  | cons k rest ih => simp [ofKeywords, ih, Keyword.Met]

theorem accepts_iff (s : Schema) (v : Json) : s.accepts v = true ↔ violations s v = [] := by
  rw [accepts, List.isEmpty_iff]

theorem accepts_keywords_iff (ks : List Keyword) (v : Json) :
    (Schema.keywords ks).accepts v = true ↔ ∀ k ∈ ks, k.Met v := by
  rw [accepts_iff, violations, ofKeywords_eq_nil_iff]

theorem demand_eq_nil_iff (met : Bool) (violation : Violation) :
    demand met violation = [] ↔ met = true := by
  cases met <;> simp [demand]

theorem accepts_of_iff (kind : Kind) (more : List Keyword) (v : Json) :
    (Schema.of kind more).accepts v = true ↔ kind.has v = true ∧ ∀ k ∈ more, k.Met v := by
  rw [Schema.of, accepts_keywords_iff, List.forall_mem_cons, Keyword.Met, ofKeyword,
    demand_eq_nil_iff, List.any_cons, List.any_nil, Bool.or_false]

example : (Schema.of .integer [.minimum (.ofNat 0)]).accepts (.number (.ofNat 3)) = true := by cbv

/-! ## Texts and truth values -/

theorem kind_has_string_iff (v : Json) : Kind.string.has v = true ↔ ∃ s, v = .string s := by
  cases v <;> simp [Kind.has]

theorem kind_has_boolean_iff (v : Json) : Kind.boolean.has v = true ↔ ∃ b, v = .bool b := by
  cases v <;> simp [Kind.has]

theorem kind_has_array_iff (v : Json) : Kind.array.has v = true ↔ ∃ items, v = .list items := by
  cases v <;> simp [Kind.has]

theorem kind_has_object_iff (v : Json) : Kind.object.has v = true ↔ ∃ fields, v = .map fields := by
  cases v <;> simp [Kind.has]

theorem kind_has_integer_iff (v : Json) :
    Kind.integer.has v = true ↔ ∃ n, v = .number n ∧ isWhole n = true := by
  cases v <;> simp [Kind.has]

theorem accepts_text_iff (v : Json) : Schema.text.accepts v = true ↔ ∃ s, v = .string s := by
  rw [Schema.text, accepts_of_iff, kind_has_string_iff]
  simp

theorem accepts_someText_iff (v : Json) :
    Schema.someText.accepts v = true ↔ ∃ s, v = .string s ∧ s ≠ "" := by
  rw [someText, accepts_of_iff, kind_has_string_iff]
  constructor
  · rintro ⟨⟨s, rfl⟩, h⟩
    have hlen : 1 ≤ s.length := by
      simpa [Keyword.Met, ofKeyword, demand_eq_nil_iff] using h
    refine ⟨s, rfl, fun hs => ?_⟩
    subst hs
    simp at hlen
  · rintro ⟨s, rfl, hs⟩
    have hpos : 1 ≤ s.length := Nat.pos_of_ne_zero fun hlen => hs (String.length_eq_zero_iff.1 hlen)
    have hmet : (Keyword.minLength 1).Met (.string s) := by
      simpa [Keyword.Met, ofKeyword, demand_eq_nil_iff] using hpos
    exact ⟨⟨s, rfl⟩, by simpa using hmet⟩

/-! ## Maps -/

/-- Whether the field of a name, if it is there, is one that a schema accepts. -/
def Typed (fields : Fields Json) (name : String) (s : Schema) : Prop :=
  ∀ v, Fields.get? name fields = some v → s.accepts v = true

theorem ofNamed_eq_nil_iff (schemas : List (String × Schema)) (fields : Fields Json) :
    ofNamed schemas fields = [] ↔ ∀ entry ∈ schemas, Typed fields entry.1 entry.2 := by
  induction schemas with
  | nil => simp [ofNamed]
  | cons entry rest ih =>
    obtain ⟨name, s⟩ := entry
    rw [ofNamed, List.append_eq_nil_iff, ih, List.forall_mem_cons]
    refine and_congr_left fun _ => ?_
    cases h : Fields.get? name fields <;> simp [Typed, h, accepts_iff]

theorem met_fields_iff (schemas : List (String × Schema)) (fields : Fields Json) :
    (Keyword.fields schemas).Met (.map fields) ↔
      ∀ entry ∈ schemas, Typed fields entry.1 entry.2 := by
  rw [Keyword.Met, ofKeyword, ofNamed_eq_nil_iff]

theorem met_required_iff (names : List String) (fields : Fields Json) :
    (Keyword.required names).Met (.map fields) ↔
      ∀ name ∈ names, ∃ v, Fields.get? name fields = some v := by
  simp [Keyword.Met, ofKeyword, Fields.has, Option.ne_none_iff_exists']

theorem accepts_having_iff (name : String) (fields : Fields Json) :
    (having [name]).accepts (.map fields) = true ↔ ∃ v, Fields.get? name fields = some v := by
  rw [having, accepts_keywords_iff]
  simp [met_required_iff]

/-- The fields of an accepted map, and what else is demanded of it. -/
theorem accepts_object_iff (schemas : List (String × Schema)) (more : List Keyword)
    (fields : Fields Json) :
    (Schema.of .object (.fields schemas :: more)).accepts (.map fields) = true ↔
      (∀ entry ∈ schemas, Typed fields entry.1 entry.2) ∧ ∀ k ∈ more, k.Met (.map fields) := by
  rw [accepts_of_iff, List.forall_mem_cons, met_fields_iff]
  simp [Kind.has]

/-- A map without strange fields: every field has a name among those that are declared. -/
theorem met_otherFields_none_iff (named : List (String × Schema)) (fields : Fields Json) :
    (Keyword.otherFields named [] none).Met (.map fields) ↔
      ∀ entry ∈ fields, Fields.has entry.1 named = true ∧
        ∀ declared ∈ named, Typed [entry] declared.1 declared.2 := by
  simp only [Keyword.Met, ofKeyword, ofMatching, List.append_nil, List.append_eq_nil_iff,
    List.flatMap_eq_nil_iff, ofNamed_eq_nil_iff, demand_eq_nil_iff, isOther, List.any_nil,
    List.isEmpty_iff, List.filter_eq_nil_iff, List.mem_map, Bool.not_eq_true]
  constructor
  · rintro ⟨htyped, hnamed⟩ entry hentry
    refine ⟨?_, htyped entry hentry⟩
    have := hnamed entry.1 ⟨entry, hentry, rfl⟩
    simpa using this
  · intro h
    refine ⟨fun entry hentry => (h entry hentry).2, ?_⟩
    rintro name ⟨entry, hentry, rfl⟩
    simp [(h entry hentry).1]

/-- A map all of whose fields are accepted by one schema. -/
theorem met_otherFields_some_iff (s : Schema) (fields : Fields Json) :
    (Keyword.otherFields [] [] (some s)).Met (.map fields) ↔
      ∀ entry ∈ fields, s.accepts entry.2 = true := by
  simp [Keyword.Met, ofKeyword, ofNamed, ofMatching, isOther, Fields.has, Fields.get?, accepts_iff]

theorem typed_singleton_iff (name key : String) (v : Json) (s : Schema) :
    Typed [(key, v)] name s ↔ (key = name → s.accepts v = true) := by
  by_cases h : key = name <;> simp [Typed, Fields.get?, h]

/-- Exactly one of two schemas accepts a value. -/
theorem met_oneOf_pair_iff (s t : Schema) (v : Json) :
    (Keyword.oneOf [s, t]).Met v ↔ (s.accepts v = true ↔ ¬ t.accepts v = true) := by
  simp only [Keyword.Met, ofKeyword, accepting, accepts]
  cases (violations s v).isEmpty <;> cases (violations t v).isEmpty <;> simp

end Sluice.Schema
