/-!
# Mappings in the order of their keys

`Index α` is a mapping from texts to values whose entries are kept in increasing order of their keys
(by code points).  Two of them with the same entries are equal, whatever order they were filled in.
-/

namespace Sluice

/-- Entries in strictly increasing order of their keys. -/
def Ascending {α : Type} (entries : List (String × α)) : Prop :=
  entries.Pairwise (fun a b => a.1 < b.1)

/-- A mapping kept in the order of its keys. -/
structure Index (α : Type) where
  entries : List (String × α)
  ascending : Ascending entries

namespace Index

variable {α : Type}

def empty : Index α := ⟨[], .nil⟩

instance : Inhabited (Index α) := ⟨empty⟩

/-- Replaces what stands under a key by a function of it. -/
def adjustEntries (key : String) (f : Option α → α) : List (String × α) → List (String × α)
  | [] => [(key, f none)]
  | (k, v) :: rest =>
    if key < k then (key, f none) :: (k, v) :: rest
    else if key = k then (k, f (some v)) :: rest
    else (k, v) :: adjustEntries key f rest

theorem mem_keys_adjustEntries (key k : String) (f : Option α → α) (entries : List (String × α)) :
    k ∈ (adjustEntries key f entries).map (·.1) ↔ k = key ∨ k ∈ entries.map (·.1) := by
  induction entries with
  | nil => simp [adjustEntries]
  | cons entry rest ih =>
    obtain ⟨k', v⟩ := entry
    by_cases h : key < k' <;> by_cases h' : key = k' <;> grind [adjustEntries]

theorem ascending_adjustEntries (key : String) (f : Option α → α) (entries : List (String × α))
    (h : Ascending entries) : Ascending (adjustEntries key f entries) := by
  induction entries with
  | nil => simp [adjustEntries, Ascending]
  | cons entry rest ih =>
    obtain ⟨k', v⟩ := entry
    have htail : Ascending rest := (List.pairwise_cons.1 h).2
    have hhead := (List.pairwise_cons.1 h).1
    by_cases hlt : key < k'
    · simp only [adjustEntries, hlt, if_true]
      refine List.pairwise_cons.2 ⟨fun e he => ?_, h⟩
      rcases List.mem_cons.1 he with rfl | he
      · exact hlt
      · exact String.lt_trans hlt (hhead e he)
    · by_cases heq : key = k'
      · subst heq
        simp only [adjustEntries, hlt, if_false, if_true]
        exact List.pairwise_cons.2 ⟨hhead, htail⟩
      · simp only [adjustEntries, hlt, heq, if_false]
        refine List.pairwise_cons.2 ⟨fun e he => ?_, ih htail⟩
        have hk : e.1 ∈ (adjustEntries key f rest).map (·.1) := List.mem_map.2 ⟨e, he, rfl⟩
        rcases (mem_keys_adjustEntries key e.1 f rest).1 hk with h1 | h1
        · have : k' < key := by
            rcases Std.lt_trichotomy k' key with h2 | h2 | h2
            · exact h2
            · exact absurd h2.symm heq
            · exact absurd h2 hlt
          exact h1 ▸ this
        · obtain ⟨e', he', heq'⟩ := List.mem_map.1 h1
          exact heq' ▸ hhead e' he'

/-- Replaces what stands under a key by a function of it. -/
def adjust (key : String) (f : Option α → α) (m : Index α) : Index α :=
  ⟨adjustEntries key f m.entries, ascending_adjustEntries key f m.entries m.ascending⟩

def insert (key : String) (value : α) (m : Index α) : Index α := m.adjust key (fun _ => value)

def get? (key : String) (m : Index α) : Option α :=
  (m.entries.find? (fun entry => entry.1 = key)).map (·.2)

def has (key : String) (m : Index α) : Bool := (m.get? key).isSome

def keys (m : Index α) : List String := m.entries.map (·.1)

/-- Entries that arrive one after the other; a later one replaces an earlier one of its key. -/
def ofList (entries : List (String × α)) : Index α :=
  entries.foldl (fun m entry => m.insert entry.1 entry.2) empty

end Index

end Sluice
