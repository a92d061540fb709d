import Sluice.Context
import Sluice.Index

/-!
# Entries of mappings

What `Index` gives back after a write, by key, and what entries that arrive one after the other make
of a mapping that remembers their order; so the default parameters of one plugin after a write to
those of another.  No map inside of a well-formed JSON value has a key twice.
-/

namespace Sluice

variable {α : Type}

theorem eraseDups_of_nodup [BEq α] [LawfulBEq α] {l : List α} (h : l.Nodup) : l.eraseDups = l := by
  induction l with
  | nil => rfl
  | cons a l ih =>
    obtain ⟨ha, hl⟩ := List.nodup_cons.1 h
    have hfilter : l.filter (fun b => !b == a) = l :=
      List.filter_eq_self.2 fun b hb => by simpa using fun heq : b = a => ha (heq ▸ hb)
    rw [List.eraseDups_cons, hfilter, ih hl]

namespace Fields

theorem mem_of_get?_eq_some {key : String} {m : Fields α} {value : α}
    (h : get? key m = some value) : (key, value) ∈ m := by
  induction m with
  | nil => cases h
  | cons entry rest ih =>
    obtain ⟨k, v⟩ := entry
    rw [get?] at h
    split at h
    · next hk =>
      cases h
      rw [hk]
      exact List.mem_cons_self
    · exact List.mem_cons_of_mem _ (ih h)

/-- Where keys differ, an entry has the value under its key. -/
theorem get?_of_mem {key : String} {m : Fields α} {value : α} (h : (keys m).Nodup)
    (hm : (key, value) ∈ m) : get? key m = some value := by
  induction m with
  | nil => cases hm
  | cons entry rest ih =>
    obtain ⟨k, v⟩ := entry
    obtain ⟨hk, hrest⟩ := List.nodup_cons.1 h
    rcases List.mem_cons.1 hm with heq | hmem
    · cases heq
      rw [get?, if_pos rfl]
    · rw [get?, if_neg, ih hrest hmem]
      rintro rfl
      exact hk (List.mem_map.2 ⟨_, hmem, rfl⟩)

theorem get?_append (key : String) (m n : Fields α) :
    get? key (m ++ n) = (get? key m).or (get? key n) := by
  induction m with
  | nil => rfl
  | cons entry rest ih =>
    rw [List.cons_append, get?, get?]
    split
    · rfl
    · exact ih

theorem get?_eq_none {key : String} {m : Fields α} (h : key ∉ keys m) : get? key m = none := by
  rw [← Option.not_isSome_iff_eq_none, get?_isSome_iff]
  exact h

/-- What stands under a key does not depend on the order, where keys differ. -/
theorem get?_perm {m n : Fields α} (h : m.Perm n) (hkeys : (keys m).Nodup) (key : String) :
    get? key m = get? key n := by
  have hkeys' : (keys n).Nodup := (h.map _).nodup_iff.1 hkeys
  cases hn : get? key n with
  | some value => exact get?_of_mem hkeys (h.mem_iff.2 (mem_of_get?_eq_some hn))
  | none =>
    rw [← Option.not_isSome_iff_eq_none, get?_isSome_iff] at hn
    exact get?_eq_none fun hm => hn ((h.map _).mem_iff.1 hm)

/-- A key that is alone has the only entry. -/
theorem eq_singleton_of_get? {key : String} {m : Fields α} {value : α}
    (hget : get? key m = some value) (hlength : m.length = 1) : m = [(key, value)] := by
  obtain ⟨entry, rfl⟩ := List.length_eq_one_iff.1 hlength
  rw [List.mem_singleton.1 (mem_of_get?_eq_some hget)]

theorem set_of_not_mem {key : String} {value : α} {m : Fields α} (h : key ∉ keys m) :
    set key value m = m ++ [(key, value)] := by
  induction m with
  | nil => rfl
  | cons entry rest ih =>
    obtain ⟨k, v⟩ := entry
    rw [keys, List.map_cons, List.mem_cons, not_or] at h
    rw [set, if_neg (fun hk => h.1 hk.symm), ih h.2]
    rfl

theorem overlay_of_nodup {base later : Fields α} (h : (keys (base ++ later)).Nodup) :
    overlay base later = base ++ later := by
  induction later generalizing base with
  | nil => exact (List.append_nil base).symm
  | cons entry rest ih =>
    obtain ⟨key, value⟩ := entry
    have happ : base ++ (key, value) :: rest = base ++ [(key, value)] ++ rest := by simp
    have hkey : key ∉ keys base := by
      rw [keys, List.map_append, List.map_cons] at h
      exact fun hmem => (List.nodup_append.1 h).2.2 key hmem key List.mem_cons_self rfl
    rw [happ] at h
    rw [overlay, List.foldl_cons, set_of_not_mem hkey, happ]
    exact ih h

/-- A mapping whose keys differ arises from its own entries. -/
theorem ofList_of_nodup {m : Fields α} (h : (keys m).Nodup) : ofList m = m :=
  overlay_of_nodup h

/-! ### Writing keeps the keys -/

theorem keys_prefix_keys_set (key : String) (value : α) (m : Fields α) :
    keys m <+: keys (set key value m) := by
  rw [keys_set]
  split
  · exact List.prefix_rfl
  · exact List.prefix_append _ _

theorem nodup_keys_set {m : Fields α} (h : (keys m).Nodup) (key : String) (value : α) :
    (keys (set key value m)).Nodup := by
  rw [keys_set]
  split
  · exact h
  · next hkey =>
    refine List.nodup_append.2 ⟨h, List.pairwise_singleton _ key, fun a ha b hb => ?_⟩
    rw [List.mem_singleton.1 hb]
    exact fun heq => hkey (heq ▸ ha)

theorem mem_set {key : String} {value : α} {m : Fields α} {entry : String × α}
    (h : entry ∈ set key value m) : entry ∈ m ∨ entry = (key, value) := by
  induction m with
  | nil => exact .inr (List.mem_singleton.1 h)
  | cons first rest ih =>
    obtain ⟨k, v⟩ := first
    rw [set] at h
    split at h
    · next hk =>
      rcases List.mem_cons.1 h with rfl | h
      · exact .inr (by rw [hk])
      · exact .inl (List.mem_cons_of_mem _ h)
    · rcases List.mem_cons.1 h with rfl | h
      · exact .inl List.mem_cons_self
      · exact (ih h).imp_left (List.mem_cons_of_mem _)

/-! ### What an overlay holds -/

section Overlay

variable {base later m n : Fields α}

theorem mem_overlay {entry : String × α} (h : entry ∈ overlay base later) :
    entry ∈ base ∨ entry ∈ later := by
  induction later generalizing base with
  | nil => exact .inl h
  | cons first rest ih =>
    rcases ih h with h | h
    · rcases mem_set h with h | rfl
      · exact .inl h
      · exact .inr List.mem_cons_self
    · exact .inr (List.mem_cons_of_mem _ h)

theorem overlay_append (base xs ys : Fields α) :
    overlay base (xs ++ ys) = overlay (overlay base xs) ys := List.foldl_append

/-- The last value that is written under a key stays. -/
theorem get?_overlay_of_last (base later : Fields α) (key : String) :
    get? key (overlay base later) = (get? key later.reverse).or (get? key base) := by
  induction later generalizing base with
  | nil => rfl
  | cons entry rest ih =>
    obtain ⟨k, value⟩ := entry
    rw [overlay, List.foldl_cons, ← overlay, ih, get?_set, List.reverse_cons, get?_append,
      Option.or_assoc, get?, get?]
    split
    · rw [Option.some_or]
    · rw [Option.none_or]

theorem get?_overlay (h : (keys later).Nodup) (key : String) :
    get? key (overlay base later) = (get? key later).or (get? key base) := by
  rw [get?_overlay_of_last, get?_perm (List.reverse_perm later).symm h]

/-- The keys of the base come first, and then the new ones as they come for the first time. -/
theorem keys_overlay_of_first (base later : Fields α) :
    keys (overlay base later) = keys base ++ ((keys later).filter (· ∉ keys base)).eraseDups := by
  induction later generalizing base with
  | nil => exact (List.append_nil _).symm
  | cons entry rest ih =>
    obtain ⟨k, value⟩ := entry
    have hcons : keys ((k, value) :: rest) = k :: keys rest := rfl
    rw [overlay, List.foldl_cons, ← overlay, ih, keys_set, hcons, List.filter_cons]
    split
    · next hmem => simp [hmem]
    · next hmem =>
      -- the key that was added is not new again
      have hfilter : (keys rest).filter (· ∉ keys base ++ [k]) =
          ((keys rest).filter (· ∉ keys base)).filter fun a => !a == k := by
        rw [List.filter_filter]
        exact List.filter_congr fun a _ => Bool.eq_iff_iff.2 (by simp [and_comm])
      rw [hfilter, if_pos (by simpa using hmem), List.eraseDups_cons, List.append_assoc,
        List.singleton_append]

/-- The keys of the base come first, and then the new ones. -/
theorem keys_overlay (h : (keys later).Nodup) :
    keys (overlay base later) = keys base ++ (keys later).filter (· ∉ keys base) := by
  have hnew : ((keys later).filter (· ∉ keys base)).Nodup := h.filter _
  rw [keys_overlay_of_first, eraseDups_of_nodup hnew]

theorem nodup_keys_overlay (h : (keys base).Nodup) (later : Fields α) :
    (keys (overlay base later)).Nodup := by
  induction later generalizing base with
  | nil => exact h
  | cons entry rest ih => exact ih (nodup_keys_set h entry.1 entry.2)

theorem mem_iff_get? (h : (keys m).Nodup) {key : String} {value : α} :
    (key, value) ∈ m ↔ get? key m = some value :=
  ⟨get?_of_mem h, mem_of_get?_eq_some⟩

/-- Mappings that hold the same differ in the order of their entries at most. -/
theorem perm_of_get? (hm : (keys m).Nodup) (hn : (keys n).Nodup)
    (h : ∀ key, get? key m = get? key n) : m.Perm n := by
  have hnodup {m : Fields α} (hm : (keys m).Nodup) : m.Nodup :=
    List.Pairwise.of_map _ (fun _ _ hne heq => hne (congrArg _ heq)) hm
  refine (List.perm_ext_iff_of_nodup (hnodup hm) (hnodup hn)).2 fun entry => ?_
  obtain ⟨key, value⟩ := entry
  rw [mem_iff_get? hm, mem_iff_get? hn, h key]

/-- Mappings that hold the same under the same keys are the same. -/
theorem eq_of_get? (hm : (keys m).Nodup) (hkeys : keys m = keys n)
    (h : ∀ key, get? key m = get? key n) : m = n := by
  induction m generalizing n with
  | nil => exact (List.map_eq_nil_iff.1 hkeys.symm).symm
  | cons entry rest ih =>
    obtain ⟨k, value⟩ := entry
    cases n with
    | nil => cases hkeys
    | cons entry' rest' =>
      obtain ⟨k', value'⟩ := entry'
      obtain ⟨rfl, hrest⟩ := List.cons.inj hkeys
      obtain ⟨hk, hnodup⟩ := List.nodup_cons.1 hm
      have hvalue := h k
      rw [get?, get?, if_pos rfl, if_pos rfl] at hvalue
      cases hvalue
      rw [ih hnodup hrest fun key => ?_]
      by_cases hkey : k = key
      · have hk' : k ∉ keys rest' := fun hmem => hk (hrest.symm.subst hmem)
        rw [← hkey, get?_eq_none hk, get?_eq_none hk']
      · have hget := h key
        rwa [get?, get?, if_neg hkey, if_neg hkey] at hget

end Overlay

end Fields

namespace Json

theorem wellFormedItems_iff {items : List Json} :
    WellFormedItems items ↔ ∀ v ∈ items, v.WellFormed := by
  induction items with
  | nil => simp [WellFormedItems]
  | cons v rest ih => simp [WellFormedItems, ih]

theorem wellFormedFields_iff {fields : Fields Json} :
    WellFormedFields fields ↔ ∀ entry ∈ fields, entry.2.WellFormed := by
  induction fields with
  | nil => simp [WellFormedFields]
  | cons entry rest ih => simp [WellFormedFields, ih]

theorem WellFormedFields.of_get? {name : String} {v : Json} {fields : Fields Json}
    (h : WellFormedFields fields) (hv : Fields.get? name fields = some v) : v.WellFormed :=
  wellFormedFields_iff.1 h _ (Fields.mem_of_get?_eq_some hv)

/-- Writing a value without a repeated key repeats none. -/
theorem WellFormed.set {fields : Fields Json} {v : Json} (h : (map fields).WellFormed)
    (hv : v.WellFormed) (key : String) : (map (Fields.set key v fields)).WellFormed := by
  rw [WellFormed, wellFormedFields_iff] at h ⊢
  refine ⟨Fields.nodup_keys_set h.1 key v, fun entry hentry => ?_⟩
  rcases Fields.mem_set hentry with hmem | rfl
  · exact h.2 entry hmem
  · exact hv

end Json

namespace Index

theorem find?_adjustEntries (key k : String) (f : Option α → α) (entries : List (String × α))
    (h : Ascending entries) :
    ((adjustEntries key f entries).find? fun e => e.1 = k).map (·.2) =
      if key = k then some (f ((entries.find? fun e => e.1 = key).map (·.2)))
      else (entries.find? fun e => e.1 = k).map (·.2) := by
  induction entries with
  | nil => by_cases hk : key = k <;> simp [adjustEntries, hk]
  | cons entry rest ih =>
    obtain ⟨k', v⟩ := entry
    have hrest := (List.pairwise_cons.1 h).1
    have ih := ih (List.pairwise_cons.1 h).2
    unfold adjustEntries
    by_cases hlt : key < k'
    · -- all keys are larger than the new one
      have hne : ∀ e ∈ (k', v) :: rest, e.1 ≠ key := by
        intro e he heq
        rcases List.mem_cons.1 he with rfl | he
        · exact String.lt_irrefl _ (heq ▸ hlt)
        · exact String.lt_irrefl _ (String.lt_trans hlt (heq ▸ hrest e he))
      have hnone : ((k', v) :: rest).find? (fun e => e.1 = key) = none := by
        rw [List.find?_eq_none]
        intro e he
        simpa using hne e he
      rw [if_pos hlt, hnone]
      by_cases hk : key = k <;> simp [hk]
    · by_cases heq : key = k'
      · rw [if_neg hlt, if_pos heq]
        by_cases hk : key = k
        · simp [← heq, hk]
        · simp [← heq, hk]
      · rw [if_neg hlt, if_neg heq]
        have heq' : k' ≠ key := fun h => heq h.symm
        by_cases hk : k' = k
        · have : key ≠ k := fun h => heq (h.trans hk.symm)
          simp [hk, this]
        · simp [hk, heq', ih]

theorem get?_adjust (key k : String) (f : Option α → α) (m : Index α) :
    (m.adjust key f).get? k = if key = k then some (f (m.get? key)) else m.get? k :=
  find?_adjustEntries key k f m.entries m.ascending

theorem get?_insert (key k : String) (value : α) (m : Index α) :
    (m.insert key value).get? k = if key = k then some value else m.get? k :=
  get?_adjust key k (fun _ => value) m

theorem mem_of_get? {key : String} {value : α} {m : Index α}
    (h : m.get? key = some value) : (key, value) ∈ m.entries := by
  obtain ⟨entry, hentry, rfl⟩ := Option.map_eq_some_iff.1 h
  have hk : entry.1 = key := by simpa using List.find?_some hentry
  rw [← hk]
  exact List.mem_of_find?_eq_some hentry

end Index

theorem Context.defaultsFor_mergeDefaults (ctx : Context) (plugin other : String)
    (fields : Fields Json) :
    (ctx.mergeDefaults plugin fields).defaultsFor other =
      if plugin = other then Fields.overlay (ctx.defaultsFor plugin) fields
      else ctx.defaultsFor other := by
  rw [defaultsFor, mergeDefaults, Index.get?_adjust]
  split <;> rfl

end Sluice
