import Sluice.Proofs.Loading.Basic
import Sluice.Proofs.Mappings

/-!
# No key twice

Of a key that is repeated in a YAML map only the last value stays, so no map inside a document has a
key twice (`Yaml.wellFormed_of_read?`).  A value under a key is then the only one under this key.
-/

namespace Sluice

namespace Yaml

/-! ## Scalars -/

theorem wellFormed_of_decimal? {text : String} {v : Json} (h : decimal? text = some v) :
    v.WellFormed := by
  unfold decimal? at h
  split at h
  · cases h
    trivial
  · obtain ⟨n, -, h⟩ := Option.bind_eq_some_iff.1 h
    obtain ⟨x, -, rfl⟩ := Option.map_eq_some_iff.1 h
    trivial

theorem wellFormed_of_number? {text : String} {v : Json} (h : number? text = some (some v)) :
    v.WellFormed := by
  have hfloat (hf : (if hasLeadingZero text.toList then none else (decimal? text).map some) =
      some (some v)) : v.WellFormed := by
    split at hf
    · cases hf
    · obtain ⟨x, hx, hsome⟩ := Option.map_eq_some_iff.1 hf
      cases hsome
      exact wellFormed_of_decimal? hx
  unfold number? at h
  dsimp only at h
  split at h
  · split at h
    · cases h
      trivial
    · split at h
      · cases h
      · exact hfloat h
  · exact hfloat h

theorem wellFormed_of_plainValue {text : String} {v : Json} (h : plainValue text = some v) :
    v.WellFormed := by
  unfold plainValue at h
  split at h
  · cases h
    trivial
  · split at h
    · cases h
      trivial
    · cases hn : number? text with
      | none =>
        rw [hn] at h
        cases h
        trivial
      | some value =>
        rw [hn, Option.getD_some] at h
        exact wellFormed_of_number? (hn.trans (congrArg some h))

theorem wellFormed_of_scalarValue {tag : Option String} {text : String} {plain : Bool} {v : Json}
    (h : scalarValue tag text plain = some v) : v.WellFormed := by
  unfold scalarValue at h
  split at h
  · split at h
    · exact wellFormed_of_plainValue h
    · cases h
      trivial
  · obtain ⟨b, -, rfl⟩ := Option.map_eq_some_iff.1 h
    trivial
  · obtain ⟨n, -, rfl⟩ := Option.map_eq_some_iff.1 h
    trivial
  · exact wellFormed_of_decimal? h
  · split at h <;> cases h
    trivial
  · split at h <;> cases h
    trivial

/-! ## Nodes -/

/-- Whether the value of a node, if it has one, has no map with a key twice. -/
def Meaning.WellFormed (m : Meaning) : Prop := ∀ v, m.value = some v → v.WellFormed

def Anchors.WellFormed (anchors : Anchors) : Prop :=
  ∀ name m, anchors.lookup name = some (some m) → m.WellFormed

theorem Anchors.WellFormed.note {anchors : Anchors} (h : anchors.WellFormed)
    (anchor : Option String) {m : Option Meaning} (hm : ∀ m', m = some m' → m'.WellFormed) :
    (anchors.note anchor m).WellFormed := by
  cases anchor with
  | none => exact h
  | some name =>
    intro name' m' hm'
    rw [Anchors.note, List.lookup_cons] at hm'
    split at hm'
    · exact hm m' (Option.some.inj hm')
    · exact h name' m' hm'

mutual

theorem wellFormed_of_meaning {anchors : Anchors} (h : anchors.WellFormed) : ∀ {n : Node}
    {m : Meaning} {anchors' : Anchors}, meaning anchors n = some (m, anchors') →
    m.WellFormed ∧ anchors'.WellFormed
  | .alias name, m, anchors', hm => by
    rw [meaning] at hm
    obtain ⟨m₁, hlookup, hm⟩ := Option.bind_eq_some_iff.1 hm
    obtain ⟨m₂, rfl, hm⟩ := Option.bind_eq_some_iff.1 hm
    cases hm
    -- an alias repeats what has been found well-formed before
    exact ⟨h name m₂ hlookup, h⟩
  | .scalar anchor tag text plain, m, anchors', hm => by
    rw [meaning] at hm
    cases hm
    have hscalar : (Meaning.mk (scalarValue tag text plain) (some text) 0 0).WellFormed :=
      fun v hv => wellFormed_of_scalarValue hv
    refine ⟨hscalar, h.note anchor fun m' hm' => ?_⟩
    cases hm'
    exact hscalar
  | .list anchor tag items, m, anchors', hm => by
    rw [meaning] at hm
    split at hm
    · cases hm
    · obtain ⟨⟨values, depth, aliases, anchors₁⟩, hitems, hm⟩ := Option.bind_eq_some_iff.1 hm
      obtain ⟨hvalues, h₁⟩ := wellFormed_of_itemMeanings (h.note anchor (by simp)) hitems
      cases hm
      have hlist : (Meaning.mk (some (.list values)) none (depth + 1) aliases).WellFormed := by
        intro v hv
        cases hv
        exact hvalues
      refine ⟨hlist, h₁.note anchor fun m' hm' => ?_⟩
      cases hm'
      exact hlist
  | .map anchor tag entries, m, anchors', hm => by
    rw [meaning] at hm
    split at hm
    · cases hm
    · obtain ⟨⟨fields, depth, aliases, anchors₁⟩, hentries, hm⟩ := Option.bind_eq_some_iff.1 hm
      obtain ⟨hfields, h₁⟩ :=
        wellFormed_of_entryMeanings (h.note anchor (by simp)) (by simp [Json.WellFormed,
          Json.WellFormedFields, Fields.keys]) hentries
      cases hm
      have hmap : (Meaning.mk (some (.map fields)) none (depth + 1) aliases).WellFormed := by
        intro v hv
        cases hv
        exact hfields
      refine ⟨hmap, h₁.note anchor fun m' hm' => ?_⟩
      cases hm'
      exact hmap

theorem wellFormed_of_itemMeanings {anchors : Anchors} (h : anchors.WellFormed) : ∀ {ns : List Node}
    {items : List Json} {depth aliases : Nat} {anchors' : Anchors},
    itemMeanings anchors ns = some (items, depth, aliases, anchors') →
    Json.WellFormedItems items ∧ anchors'.WellFormed
  | [], items, depth, aliases, anchors', hm => by
    rw [itemMeanings] at hm
    cases hm
    exact ⟨trivial, h⟩
  | n :: rest, items, depth, aliases, anchors', hm => by
    rw [itemMeanings] at hm
    obtain ⟨⟨m, anchors₁⟩, hfirst, hm⟩ := Option.bind_eq_some_iff.1 hm
    obtain ⟨first, hvalue, hm⟩ := Option.bind_eq_some_iff.1 hm
    obtain ⟨⟨more, depth', aliases', anchors₂⟩, hmore, hm⟩ := Option.bind_eq_some_iff.1 hm
    cases hm
    obtain ⟨hfirst, h₁⟩ := wellFormed_of_meaning h hfirst
    obtain ⟨hmore, h₂⟩ := wellFormed_of_itemMeanings h₁ hmore
    exact ⟨⟨hfirst first hvalue, hmore⟩, h₂⟩

theorem wellFormed_of_entryMeanings {anchors : Anchors} {before : Fields Json}
    (h : anchors.WellFormed) (hbefore : (Json.map before).WellFormed) :
    ∀ {entries : List (Node × Node)} {fields : Fields Json} {depth aliases : Nat}
    {anchors' : Anchors},
    entryMeanings anchors before entries = some (fields, depth, aliases, anchors') →
    (Json.map fields).WellFormed ∧ anchors'.WellFormed
  | [], fields, depth, aliases, anchors', hm => by
    rw [entryMeanings] at hm
    cases hm
    exact ⟨hbefore, h⟩
  | (k, v) :: rest, fields, depth, aliases, anchors', hm => by
    rw [entryMeanings] at hm
    obtain ⟨⟨key, anchors₁⟩, hkey, hm⟩ := Option.bind_eq_some_iff.1 hm
    obtain ⟨name, -, hm⟩ := Option.bind_eq_some_iff.1 hm
    obtain ⟨⟨m, anchors₂⟩, hvalue, hm⟩ := Option.bind_eq_some_iff.1 hm
    obtain ⟨value, hvalue', hm⟩ := Option.bind_eq_some_iff.1 hm
    obtain ⟨⟨more, depth', aliases', anchors₃⟩, hmore, hm⟩ := Option.bind_eq_some_iff.1 hm
    cases hm
    obtain ⟨-, h₁⟩ := wellFormed_of_meaning h hkey
    obtain ⟨hm, h₂⟩ := wellFormed_of_meaning h₁ hvalue
    exact wellFormed_of_entryMeanings h₂ (hbefore.set (hm value hvalue') name) hmore

end

/-- No map of a document has a key twice. -/
theorem wellFormed_of_read? {text : List Char} {document : Json} (h : read? text = some document) :
    document.WellFormed := by
  obtain ⟨tokens, -, h⟩ := Option.bind_eq_some_iff.1 h
  obtain ⟨node, -, h⟩ := Option.bind_eq_some_iff.1 h
  obtain ⟨⟨m, anchors⟩, hm, h⟩ := Option.bind_eq_some_iff.1 h
  have hnone : Anchors.WellFormed [] := fun name m' hm' => by cases hm'
  dsimp only at h
  split at h
  · cases h
  · exact (wellFormed_of_meaning hnone hm).1 document h

end Yaml

theorem FileTree.wellFormed_of_documentAt? {tree : FileTree} {file : Location} {document : Json}
    (h : tree.documentAt? file = some document) : document.WellFormed := by
  unfold documentAt? at h
  split at h
  · exact Yaml.wellFormed_of_read? h
  · cases h

end Sluice
