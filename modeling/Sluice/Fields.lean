/-!
# Mappings that remember the order of their keys

`Fields α` is a mapping from texts to values, written as the list of its entries.  The order is part
of the value: printing follows it, and `set` keeps the place of a key that is already there.
-/

namespace Sluice

/-- A mapping as the list of its entries, in the order of arrival. -/
abbrev Fields (α : Type) := List (String × α)

namespace Fields

variable {α β : Type}

/-- The value under a key: that of the first entry with this key. -/
def get? (key : String) : Fields α → Option α
  | [] => none
  | (k, v) :: rest => if k = key then some v else get? key rest

def has (key : String) (m : Fields α) : Bool := (get? key m).isSome

def keys (m : Fields α) : List String := m.map (·.1)

/-- Writes a value: a present key keeps its place, a new one goes to the end. -/
def set (key : String) (value : α) : Fields α → Fields α
  | [] => [(key, value)]
  | (k, v) :: rest => if k = key then (k, value) :: rest else (k, v) :: set key value rest

/-- Writes the entries of `later` into `base`, one after the other. -/
def overlay (base later : Fields α) : Fields α :=
  later.foldl (fun m entry => set entry.1 entry.2 m) base

/-- The mapping that arises when the entries arrive one after the other. -/
def ofList (entries : List (String × α)) : Fields α := overlay [] entries

theorem get?_set (key k : String) (value : α) (m : Fields α) :
    get? k (set key value m) = if key = k then some value else get? k m := by
  induction m with
  | nil => simp [set, get?]
  | cons entry rest ih =>
    obtain ⟨k', v⟩ := entry
    by_cases h : k' = key <;> by_cases hk : k' = k <;> grind [set, get?]

theorem keys_set (key : String) (value : α) (m : Fields α) :
    keys (set key value m) = if key ∈ keys m then keys m else keys m ++ [key] := by
  induction m with
  | nil => simp [set, keys]
  | cons entry rest ih =>
    obtain ⟨k', v⟩ := entry
    by_cases h : k' = key <;> grind [set, keys]

theorem get?_isSome_iff (key : String) (m : Fields α) : (get? key m).isSome ↔ key ∈ keys m := by
  induction m with
  | nil => simp [get?, keys]
  | cons entry rest ih =>
    obtain ⟨k', v⟩ := entry
    by_cases h : k' = key <;> grind [get?, keys]

end Fields

end Sluice
