import Sluice.Fields

/-!
# JSON values

The values that flow through a pipe.  A number is an integer of 64 bits, signed or unsigned, or a
finite binary64 number; `1` and `1.0` are different values.  A map remembers the order of its keys.
-/

namespace Sluice

/-- The integers that a number can hold: from `-2 ^ 63` to `2 ^ 64 - 1`. -/
def Number.Fits (i : Int) : Prop := -9223372036854775808 ≤ i ∧ i < 18446744073709551616

instance (i : Int) : Decidable (Number.Fits i) := by unfold Number.Fits; infer_instance

/-- A number: an integer of 64 bits or a finite binary64 number. -/
inductive Number where
  | int (i : Int) (fits : Number.Fits i)
  | float (x : Float) (finite : x.isFinite = true)
deriving DecidableEq

/-- A JSON value. -/
inductive Json where
  | null | bool (b : Bool) | number (n : Number) | string (s : String)
  | list (items : List Json) | map (fields : List (String × Json))

/-- The kind of a value. -/
inductive Json.Kind where
  | null | boolean | number | string | list | map
deriving DecidableEq, Repr

namespace Number

/-- The number that holds an integer, if one does. -/
def ofInt? (i : Int) : Option Number := if h : Fits i then some (.int i h) else none

/-- The number that holds a binary64 number, if it is finite. -/
def ofFloat? (x : Float) : Option Number :=
  if h : x.isFinite = true then some (.float x h) else none

/-- A natural below `2 ^ 64`; larger ones are cut at that bound. -/
def ofNat (n : Nat) : Number :=
  .int (min n 18446744073709551615) (by unfold Fits; omega)

/-- The value as a signed integer of 64 bits, if the number is an integer in that range. -/
def toSigned? : Number → Option Int
  | .int i _ => if i < 9223372036854775808 then some i else none
  | .float .. => none

def toFloat : Number → Float
  | .int i _ => Float.ofInt i
  | .float x _ => x

/-- Same value of the same kind: `1` and `1.0` differ, `0.0` and `-0.0` do not. -/
def same : Number → Number → Bool
  | .int i _, .int j _ => i = j
  | .float x _, .float y _ => x == y
  | _, _ => false

end Number

namespace Json

instance : Inhabited Json := ⟨.null⟩

def kind : Json → Kind
  | .null => .null
  | .bool _ => .boolean
  | .number _ => .number
  | .string _ => .string
  | .list _ => .list
  | .map _ => .map

def Kind.name : Kind → String
  | .null => "null"
  | .boolean => "boolean"
  | .number => "number"
  | .string => "string"
  | .list => "list"
  | .map => "map"

def nat (n : Nat) : Json := .number (.ofNat n)

def bool? : Json → Option Bool
  | .bool b => some b
  | _ => none

def string? : Json → Option String
  | .string s => some s
  | _ => none

def map? : Json → Option (Fields Json)
  | .map fields => some fields
  | _ => none

def get? (key : String) : Json → Option Json
  | .map fields => Fields.get? key fields
  | _ => none

mutual

/-- Equality by structure: numbers of the same kind by value, lists item by item, maps as sets of
entries, whatever their order. -/
def same : Json → Json → Bool
  | .null, .null => true
  | .bool a, .bool b => a = b
  | .number a, .number b => a.same b
  | .string a, .string b => a = b
  | .list as, .list bs => sameItems as bs
  | .map as, .map bs => as.length = bs.length && sameFields as bs
  | _, _ => false

def sameItems : List Json → List Json → Bool
  | [], [] => true
  | a :: as, b :: bs => same a b && sameItems as bs
  | _, _ => false

/-- Whether every field of the first map stands in the second one too. -/
def sameFields : List (String × Json) → List (String × Json) → Bool
  | [], _ => true
  | (key, a) :: as, bs =>
    (match Fields.get? key bs with
      | some b => same a b
      | none => false) && sameFields as bs

end

mutual

/-- Whether no map inside the value has a key twice. -/
def WellFormed : Json → Prop
  | .list items => WellFormedItems items
  | .map fields => (Fields.keys fields).Nodup ∧ WellFormedFields fields
  | _ => True

def WellFormedItems : List Json → Prop
  | [] => True
  | v :: rest => WellFormed v ∧ WellFormedItems rest

def WellFormedFields : List (String × Json) → Prop
  | [] => True
  | (_, v) :: rest => WellFormed v ∧ WellFormedFields rest

end

end Json

end Sluice
