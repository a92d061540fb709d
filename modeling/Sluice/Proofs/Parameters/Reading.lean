import Sluice.Plugin.Body
import Sluice.Plugin.Header
import Sluice.Proofs.Failing

/-!
# What parameters are read as

The readers of parameters succeed exactly for values of their kinds, and what they give says what
the fields hold.

* `Params.Absent` : a field that is not there, or null;
* `Header.Params.read_eq_ok_iff`, `Body.Params.read_eq_ok_iff` : all parameters of a plugin.
-/

namespace Sluice

namespace Params

variable {α : Type} {reader : Json → Except ParamFlaw α} {name : String} {params : Fields Json}
  {a : α} {v : Json}

/-- Whether a field is not there, or null. -/
def Absent (name : String) (params : Fields Json) : Prop :=
  Fields.get? name params = none ∨ Fields.get? name params = some .null

theorem text_eq_ok_iff {s : String} : text v = .ok s ↔ v = .string s := by
  cases v <;> simp [text]

theorem nat_eq_ok_iff {n : Nat} : nat v = .ok n ↔ ∃ fits, v = .number (.int n fits) := by
  cases v with
  | number m =>
    cases m with
    | float x finite => simp [nat]
    | int i fits =>
      rw [nat]
      split
      · next hi =>
        simp only [Except.ok.injEq, Json.number.injEq, Number.int.injEq]
        constructor
        · rintro rfl
          simpa [Int.toNat_of_nonneg hi] using fits
        · rintro ⟨_, h⟩
          omega
      · next hi =>
        simp only [reduceCtorEq, Json.number.injEq, Number.int.injEq, false_iff]
        rintro ⟨_, h⟩
        omega
  | _ => simp [nat]

theorem required_eq_ok_iff : required reader name params = .ok a ↔
    ∃ v, Fields.get? name params = some v ∧ reader v = .ok a := by
  unfold required
  cases Fields.get? name params <;> simp

theorem usually_eq_ok_iff {usual : α} : usually usual reader name params = .ok a ↔
    (Fields.get? name params = none ∧ a = usual) ∨
      ∃ v, Fields.get? name params = some v ∧ reader v = .ok a := by
  unfold usually
  cases Fields.get? name params <;> simp [eq_comm]

theorem map_some_eq_ok_iff {x : Except ParamFlaw α} {o : Option α} :
    x.map some = .ok o ↔ ∃ a, x = .ok a ∧ o = some a := by
  cases x <;> simp [Except.map, eq_comm]

theorem optional_eq_ok_iff {o : Option α} : optional reader name params = .ok o ↔
    (Absent name params ∧ o = none) ∨
      ∃ v a, Fields.get? name params = some v ∧ v ≠ .null ∧ reader v = .ok a ∧ o = some a := by
  unfold optional Absent
  cases Fields.get? name params with
  | none => simp [eq_comm]
  | some v =>
    cases v with
    | null => simp [eq_comm]
    | _ => simp [map_some_eq_ok_iff]

theorem filled_eq_ok_iff {s t : String} : filled name s = .ok t ↔ s = t ∧ s ≠ "" := by
  unfold filled
  split <;> simp_all

theorem filled?_eq_ok_iff {o p : Option String} :
    filled? name o = .ok p ↔ o = p ∧ o ≠ some "" := by
  cases o with
  | none => simp [filled?, eq_comm]
  | some s => by_cases hs : s = "" <;> simp [filled?, filled, hs, Except.map]

end Params

/-- The parameters of `header` can be read if there is a name that is not empty, and a text as value
or no value. -/
theorem Header.Params.read_eq_ok_iff {params : Fields Json} {p : Header.Params} :
    Header.Params.read params = .ok p ↔
      Fields.get? "name" params = some (.string p.name) ∧ p.name ≠ "" ∧
        (Fields.get? "value" params = some (.string p.value) ∨
          Fields.get? "value" params = none ∧ p.value = "") := by
  simp only [Header.Params.read, bind_eq_ok_iff, Params.required_eq_ok_iff,
    Params.usually_eq_ok_iff, Params.text_eq_ok_iff, Params.filled_eq_ok_iff]
  constructor
  · rintro ⟨name, ⟨v, hname, rfl⟩, value, hvalue, _, ⟨rfl, hne⟩, hp⟩
    obtain rfl := Except.ok.inj hp
    refine ⟨hname, hne, ?_⟩
    rcases hvalue with hnone | ⟨v, hvalue, rfl⟩
    · exact .inr hnone
    · exact .inl hvalue
  · rintro ⟨hname, hne, hvalue⟩
    refine ⟨p.name, ⟨_, hname, rfl⟩, p.value, ?_, p.name, ⟨rfl, hne⟩, rfl⟩
    rcases hvalue with hvalue | hnone
    · exact .inr ⟨_, hvalue, rfl⟩
    · exact .inl hnone

theorem Body.reading_eq_ok_iff {v : Json} {kind : Body.Reading} : Body.reading v = .ok kind ↔
    v = .string (match kind with | .json => "json" | .string => "string") := by
  unfold reading
  split <;> cases kind <;> simp_all

/-- What the parameters of `body` hold: `type` names a way to read it, `mime` is a text that is not
empty, and `limit` is an integer of 64 bits that is not below zero; each of them may be missing. -/
structure Body.Params.Given (params : Fields Json) (p : Body.Params) : Prop where
  kind : (Params.Absent "type" params ∧ p.kind = none) ∨
    (Fields.get? "type" params = some (.string "json") ∧ p.kind = some .json) ∨
    (Fields.get? "type" params = some (.string "string") ∧ p.kind = some .string)
  mime : (Params.Absent "mime" params ∧ p.mime = none) ∨
    ∃ mime, Fields.get? "mime" params = some (.string mime) ∧ mime ≠ "" ∧ p.mime = some mime
  limit : (Fields.get? "limit" params = none ∧ p.limit = usualLimit) ∨
    ∃ fits, Fields.get? "limit" params = some (.number (.int p.limit fits))

theorem Body.Params.read_eq_ok_iff {params : Fields Json} {p : Body.Params} :
    Body.Params.read params = .ok p ↔ Body.Params.Given params p := by
  simp only [Body.Params.read, bind_eq_ok_iff, Params.optional_eq_ok_iff,
    Params.usually_eq_ok_iff, Params.text_eq_ok_iff, Params.nat_eq_ok_iff,
    Params.filled?_eq_ok_iff, Body.reading_eq_ok_iff]
  constructor
  · rintro ⟨kind, hkind, mime, hmime, limit, hlimit, _, ⟨rfl, hne⟩, hp⟩
    obtain rfl := Except.ok.inj hp
    refine ⟨?_, ?_, ?_⟩
    · rcases hkind with hnone | ⟨v, kind, hget, -, rfl, rfl⟩
      · exact .inl hnone
      · cases kind with
        | json => exact .inr (.inl ⟨hget, rfl⟩)
        | string => exact .inr (.inr ⟨hget, rfl⟩)
    · rcases hmime with hnone | ⟨v, mime, hget, -, rfl, rfl⟩
      · exact .inl hnone
      · exact .inr ⟨mime, hget, fun h => hne (congrArg some h), rfl⟩
    · rcases hlimit with hnone | ⟨v, hget, fits, rfl⟩
      · exact .inl hnone
      · exact .inr ⟨fits, hget⟩
  · rintro ⟨hkind, hmime, hlimit⟩
    refine ⟨p.kind, ?_, p.mime, ?_, p.limit, ?_, p.mime, ⟨rfl, ?_⟩, rfl⟩
    · rcases hkind with hnone | ⟨hget, hp⟩ | ⟨hget, hp⟩
      · exact .inl hnone
      · exact .inr ⟨_, .json, hget, by simp, rfl, hp⟩
      · exact .inr ⟨_, .string, hget, by simp, rfl, hp⟩
    · rcases hmime with hnone | ⟨mime, hget, -, hp⟩
      · exact .inl hnone
      · exact .inr ⟨_, mime, hget, by simp, rfl, hp⟩
    · rcases hlimit with hnone | ⟨fits, hget⟩
      · exact .inl hnone
      · exact .inr ⟨_, hget, fits, rfl⟩
    · rcases hmime with ⟨-, hp⟩ | ⟨mime, -, hne, hp⟩
      · simp [hp]
      · simp [hp, hne]

end Sluice
