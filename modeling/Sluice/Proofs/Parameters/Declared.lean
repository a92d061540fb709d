import Sluice.Plugin.Builtin
import Sluice.Proofs.Failing
import Sluice.Proofs.Parameters.Accepted
import Sluice.Proofs.Scope.Builtin

/-!
# Parameters are declared twice

A plugin declares its parameters once as a schema, which is checked before the plugin is called, and
once more as what it reads.  Whatever the schema accepts can be read, with two exceptions, both of
`body`: its schema lets an empty `mime` pass, which may not be read, and a `limit` like `1.0`, which
is an integer for the schema but not for the reader.
-/

namespace Sluice

open Schema (Typed)

namespace Params

variable {α : Type} {reader : Json → Except ParamFlaw α} {s : Schema} {params : Fields Json}
  {name : String}

/-- Whether a reader can read what stands under a name, if something does. -/
def Readable (reader : Json → Except ParamFlaw α) (name : String) (params : Fields Json) : Prop :=
  ∀ v, Fields.get? name params = some v → ∃ a, reader v = .ok a

/-- Whether a reader can read whatever a schema accepts. -/
def Reads (reader : Json → Except ParamFlaw α) (s : Schema) : Prop :=
  ∀ v, s.accepts v = true → ∃ a, reader v = .ok a

theorem Reads.readable (hr : Reads reader s) (ht : Typed params name s) :
    Readable reader name params :=
  fun v hv => hr v (ht v hv)

theorem Readable.required (hr : Readable reader name params)
    (hname : ∃ v, Fields.get? name params = some v) :
    ∃ a, Params.required reader name params = .ok a := by
  obtain ⟨v, hv⟩ := hname
  obtain ⟨a, ha⟩ := hr v hv
  refine ⟨a, ?_⟩
  unfold Params.required
  rw [hv]
  exact ha

theorem Readable.optional (hr : Readable reader name params) :
    ∃ a, Params.optional reader name params = .ok a := by
  unfold Params.optional
  split
  · exact ⟨none, rfl⟩
  · exact ⟨none, rfl⟩
  · next v _ hv =>
    obtain ⟨a, ha⟩ := hr v hv
    exact ⟨some a, by rw [ha]; rfl⟩

theorem Readable.usually (usual : α) (hr : Readable reader name params) :
    ∃ a, Params.usually usual reader name params = .ok a := by
  unfold Params.usually
  split
  · next v hv => exact hr v hv
  · exact ⟨usual, rfl⟩

/-! ## Readers and their schemas -/

theorem reads_text : Reads text Schema.text := by
  intro v h
  obtain ⟨s, rfl⟩ := (Schema.accepts_text_iff v).1 h
  exact ⟨s, rfl⟩

theorem reads_bool : Reads bool (.of .boolean []) := by
  intro v h
  obtain ⟨b, rfl⟩ := (Schema.kind_has_boolean_iff v).1 ((Schema.accepts_of_iff _ _ v).1 h).1
  exact ⟨b, rfl⟩

theorem reads_texts : Reads texts (.of .array [.items 0 .text]) := by
  intro v h
  obtain ⟨hkind, hitems⟩ := (Schema.accepts_of_iff _ _ v).1 h
  obtain ⟨items, rfl⟩ := (Schema.kind_has_array_iff v).1 hkind
  refine exists_mapM_eq_ok_iff.2 fun item hitem => reads_text item ?_
  have hmet := hitems _ List.mem_cons_self
  simp only [Schema.Keyword.Met, Schema.ofKeyword, List.drop_zero,
    List.flatMap_eq_nil_iff] at hmet
  exact (Schema.accepts_iff _ item).2 (hmet item hitem)

theorem reads_textsByName : Reads textsByName Http.textsByName := by
  intro v h
  obtain ⟨hkind, hmore⟩ := (Schema.accepts_of_iff _ _ v).1 h
  obtain ⟨fields, rfl⟩ := (Schema.kind_has_object_iff v).1 hkind
  have htexts := (Schema.met_otherFields_some_iff _ _).1
    (hmore _ (List.mem_cons_of_mem _ List.mem_cons_self))
  have hread : ∃ entries, fields.mapM (fun entry : String × Json =>
      do return (entry.1, ← text entry.2) : _ → Except ParamFlaw (String × String)) =
        .ok entries := by
    refine exists_mapM_eq_ok_iff.2 fun entry hentry => ?_
    obtain ⟨s, hs⟩ := reads_text entry.2 (htexts entry hentry)
    exact ⟨(entry.1, s), by rw [hs]; rfl⟩
  obtain ⟨entries, hentries⟩ := hread
  exact ⟨(Index.ofList entries).entries, by rw [textsByName, hentries]; rfl⟩

theorem reads_credentials : Reads Outgoing.readCredentials Outgoing.credentialsSchema := by
  intro v h
  obtain ⟨fields, rfl⟩ := (Schema.kind_has_object_iff v).1 ((Schema.accepts_of_iff _ _ v).1 h).1
  obtain ⟨htyped, -⟩ := (Schema.accepts_object_iff _ _ fields).1 h
  obtain ⟨username, hu⟩ := (reads_text.readable (htyped ("username", .text) (by simp))).usually ""
  obtain ⟨password, hp⟩ := (reads_text.readable (htyped ("password", .text) (by simp))).usually ""
  exact ⟨(username, password), by rw [Outgoing.readCredentials, hu, hp]; rfl⟩

/-! ## Texts that must not be empty -/

/-- A field that has to be there and to be a text that is not empty is read, and passes as such. -/
theorem exists_required_filled (ht : Typed params name .someText)
    (hname : ∃ v, Fields.get? name params = some v) :
    ∃ s, required text name params = .ok s ∧ filled name s = .ok s := by
  obtain ⟨v, hv⟩ := hname
  obtain ⟨s, rfl, hs⟩ := (Schema.accepts_someText_iff v).1 (ht v hv)
  exact ⟨s, by rw [Params.required, hv]; rfl, if_neg hs⟩

theorem exists_optional_filled (ht : Typed params name .someText) :
    ∃ o, optional text name params = .ok o ∧ filled? name o = .ok o := by
  cases hv : Fields.get? name params with
  | none => exact ⟨none, by rw [optional, hv], rfl⟩
  | some v =>
    obtain ⟨s, rfl, hs⟩ := (Schema.accepts_someText_iff v).1 (ht v hv)
    exact ⟨some s, by rw [optional, hv]; rfl, by rw [filled?, filled, if_neg hs]; rfl⟩

end Params

open Params

/-! ## Plugin by plugin -/

section Plugins

variable {params : Fields Json}

theorem Match.exists_read (h : Match.schema.accepts (.map params) = true) :
    ∃ p, Match.Params.read params = .ok p := by
  obtain ⟨htyped, hmore⟩ := (Schema.accepts_object_iff _ _ params).1 h
  have hreq := (Schema.met_required_iff ["string"] params).1 (hmore _ (by simp))
  obtain ⟨string, h1⟩ := (reads_text.readable (htyped ("string", .text) (by simp))).required
    (hreq "string" (by simp))
  obtain ⟨value, h2, h2'⟩ := exists_optional_filled (htyped ("value", .someText) (by simp))
  obtain ⟨regexp, h3, h3'⟩ := exists_optional_filled (htyped ("regexp", .someText) (by simp))
  refine ⟨⟨string, value, regexp⟩, ?_⟩
  simp only [Match.Params.read, h1, h2, h3, h2', h3', bind, Except.bind, pure, Except.pure]

theorem Header.exists_read (h : Header.schema.accepts (.map params) = true) :
    ∃ p, Header.Params.read params = .ok p := by
  obtain ⟨htyped, hmore⟩ := (Schema.accepts_object_iff _ _ params).1 h
  have hreq := (Schema.met_required_iff ["name"] params).1 (hmore _ (by simp))
  obtain ⟨name, h1, h1'⟩ := exists_required_filled (htyped ("name", .someText) (by simp))
    (hreq "name" (by simp))
  obtain ⟨value, h2⟩ := (reads_text.readable (htyped ("value", .text) (by simp))).usually ""
  refine ⟨⟨name, value⟩, ?_⟩
  simp only [Header.Params.read, h1, h2, h1', bind, Except.bind, pure, Except.pure]

theorem ReadFile.exists_read (h : ReadFile.schema.accepts (.map params) = true) :
    ∃ p, ReadFile.Params.read params = .ok p := by
  obtain ⟨htyped, -⟩ := (Schema.accepts_object_iff _ _ params).1 h
  obtain ⟨json, h1, h1'⟩ := exists_optional_filled (htyped ("json", .someText) (by simp))
  obtain ⟨yaml, h2, h2'⟩ := exists_optional_filled (htyped ("yaml", .someText) (by simp))
  refine ⟨⟨json, yaml⟩, ?_⟩
  simp only [ReadFile.Params.read, h1, h2, h1', h2', bind, Except.bind, pure, Except.pure]

theorem Command.exists_read (h : Command.schema.accepts (.map params) = true) :
    ∃ p, Command.Params.read params = .ok p := by
  obtain ⟨htyped, hmore⟩ := (Schema.accepts_object_iff _ _ params).1 h
  have hreq := (Schema.met_required_iff ["command"] params).1 (hmore _ (by simp))
  obtain ⟨command, h1, h1'⟩ := exists_required_filled (htyped ("command", .someText) (by simp))
    (hreq "command" (by simp))
  obtain ⟨args, h2⟩ :=
    (reads_texts.readable (htyped ("args", .of .array [.items 0 .text]) (by simp))).usually []
  obtain ⟨chdir, h3⟩ := (reads_text.readable (htyped ("chdir", .text) (by simp))).optional
  obtain ⟨stdin, h4⟩ := (reads_text.readable (htyped ("stdin", .text) (by simp))).optional
  obtain ⟨background, h5⟩ :=
    (reads_bool.readable (htyped ("background", .of .boolean []) (by simp))).usually false
  refine ⟨⟨command, args, chdir, stdin, background⟩, ?_⟩
  simp only [Command.Params.read, h1, h2, h3, h4, h5, h1', bind, Except.bind, pure, Except.pure]

theorem JsonRpc.exists_read (h : JsonRpc.schema.accepts (.map params) = true) :
    ∃ p, JsonRpc.Params.read params = .ok p := by
  obtain ⟨htyped, hmore⟩ := (Schema.accepts_object_iff _ _ params).1 h
  have hreq := (Schema.met_required_iff ["url", "procedure"] params).1 (hmore _ (by simp))
  obtain ⟨url, h1, h1'⟩ := exists_required_filled (htyped ("url", .someText) (by simp))
    (hreq "url" (by simp))
  obtain ⟨procedure, h2, h2'⟩ := exists_required_filled
    (htyped ("procedure", .someText) (by simp)) (hreq "procedure" (by simp))
  have hany : Readable (fun v => .ok v) "params" params := fun v _ => ⟨v, rfl⟩
  obtain ⟨args, h3⟩ := hany.optional
  obtain ⟨credentials, h4⟩ :=
    (reads_credentials.readable
      (htyped ("basic_auth", Outgoing.credentialsSchema) (by simp))).optional
  refine ⟨⟨url, procedure, args, credentials⟩, ?_⟩
  simp only [JsonRpc.Params.read, h1, h2, h3, h4, h1', h2', bind, Except.bind, pure, Except.pure]

theorem Fields.exists_get?_iff {α : Type} (name : String) (fields : Fields α) :
    (∃ v, Fields.get? name fields = some v) ↔ name ∈ Fields.keys fields := by
  rw [← Option.isSome_iff_exists, Fields.get?_isSome_iff]

/-- A mapping that has one of two keys, but not both, and no others. -/
theorem Fields.eq_singleton_of_keys {α : Type} {first second : String} {fields : Fields α}
    (hnodup : (Fields.keys fields).Nodup)
    (hkeys : ∀ k ∈ Fields.keys fields, k = first ∨ k = second)
    (hone : first ∈ Fields.keys fields ↔ second ∉ Fields.keys fields) :
    ∃ v, fields = [(first, v)] ∨ fields = [(second, v)] := by
  match fields with
  | [] => simp [Fields.keys] at hone
  | [(k, v)] =>
    rcases hkeys k (by simp [Fields.keys]) with rfl | rfl
    · exact ⟨v, .inl rfl⟩
    · exact ⟨v, .inr rfl⟩
  | (k, v) :: (l, w) :: rest =>
    have hk := hkeys k (by simp [Fields.keys])
    have hl := hkeys l (by simp [Fields.keys])
    have hne : k ≠ l := fun h => by simp [Fields.keys, h] at hnodup
    have hboth : first ∈ Fields.keys ((k, v) :: (l, w) :: rest) ∧
        second ∈ Fields.keys ((k, v) :: (l, w) :: rest) := by
      simp only [Fields.keys, List.map_cons, List.mem_cons]
      grind
    exact absurd hboth.2 (hone.1 hboth.1)

/-- The schema of bodies lets one field pass, and it is `json`, or `string` with a text. -/
theorem Http.exists_readBody {fields : Fields Json} (hkeys : (Fields.keys fields).Nodup)
    (h : (Schema.of .object [
      .oneOf [.having ["json"], .having ["string"]],
      .otherFields [("json", .keywords []), ("string", .text)] [] none]).accepts (.map fields) =
        true) :
    ∃ body, Http.readBody (.map fields) = .ok body := by
  have hmore := ((Schema.accepts_of_iff _ _ _).1 h).2
  have hone := (Schema.met_oneOf_pair_iff _ _ _).1 (hmore _ List.mem_cons_self)
  rw [Schema.accepts_having_iff, Schema.accepts_having_iff, Fields.exists_get?_iff,
    Fields.exists_get?_iff] at hone
  have hother := (Schema.met_otherFields_none_iff _ _).1
    (hmore _ (List.mem_cons_of_mem _ List.mem_cons_self))
  have hnames : ∀ k ∈ Fields.keys fields, k = "json" ∨ k = "string" := by
    intro k hk
    obtain ⟨entry, hentry, rfl⟩ := List.mem_map.1 hk
    have hhas := (Fields.get?_isSome_iff _ _).1 (hother entry hentry).1
    simpa [Fields.keys] using hhas
  obtain ⟨v, rfl | rfl⟩ := Fields.eq_singleton_of_keys hkeys hnames hone
  · exact ⟨.json v, rfl⟩
  · have htyped := (hother ("string", v) (by simp)).2 ("string", .text) (by simp)
    obtain ⟨s, rfl⟩ := (Schema.accepts_text_iff v).1
      ((Schema.typed_singleton_iff _ _ _ _).1 htyped rfl)
    exact ⟨.string s, rfl⟩

theorem Http.exists_read (hw : (Json.map params).WellFormed)
    (h : Http.schema.accepts (.map params) = true) : ∃ p, Http.Params.read params = .ok p := by
  obtain ⟨htyped, hmore⟩ := (Schema.accepts_object_iff _ _ params).1 h
  have hreq := (Schema.met_required_iff ["url"] params).1 (hmore _ (by simp))
  obtain ⟨url, h1, h1'⟩ := exists_required_filled (htyped ("url", .someText) (by simp))
    (hreq "url" (by simp))
  obtain ⟨method, h2⟩ := (reads_text.readable (htyped ("method", .text) (by simp))).usually "GET"
  obtain ⟨headers, h3⟩ :=
    (reads_textsByName.readable (htyped ("headers", Http.textsByName) (by simp))).usually []
  obtain ⟨query, h4⟩ :=
    (reads_textsByName.readable (htyped ("params", Http.textsByName) (by simp))).usually []
  have hbody : Readable Http.readBody "body" params := by
    intro v hv
    have haccepts := htyped ("body", .of .object [
      .oneOf [.having ["json"], .having ["string"]],
      .otherFields [("json", .keywords []), ("string", .text)] [] none]) (by simp) v hv
    obtain ⟨fields, rfl⟩ :=
      (Schema.kind_has_object_iff v).1 ((Schema.accepts_of_iff _ _ v).1 haccepts).1
    exact Http.exists_readBody (hw.2.of_get? hv).1 haccepts
  obtain ⟨body, h5⟩ := hbody.optional
  obtain ⟨response, h6⟩ :=
    (reads_text.readable (htyped ("response", .text) (by simp))).usually "STRING"
  obtain ⟨credentials, h7⟩ :=
    (reads_credentials.readable
      (htyped ("basic_auth", Outgoing.credentialsSchema) (by simp))).optional
  refine ⟨⟨url, method, headers, query, body, response, credentials⟩, ?_⟩
  simp only [Http.Params.read, h1, h2, h3, h4, h5, h6, h7, h1', bind, Except.bind, pure,
    Except.pure]

/-! ## The body of requests -/

/-- Whether neither of the two parameters is there that the schema of `body` lets pass by
mistake. -/
def Body.Sound (params : Fields Json) : Prop :=
  Fields.get? "mime" params ≠ some (.string "") ∧
    ∀ x finite, Fields.get? "limit" params ≠ some (.number (.float x finite))

theorem Body.reads_reading :
    Reads Body.reading (.keywords [.oneOfValues [.string "json", .string "string"]]) := by
  intro v h
  have hmet := (Schema.accepts_keywords_iff _ v).1 h _ List.mem_cons_self
  simp only [Schema.Keyword.Met, Schema.ofKeyword, Schema.demand_eq_nil_iff, List.any_cons,
    List.any_nil, Bool.or_false, Bool.or_eq_true] at hmet
  cases v with
  | string s =>
    simp only [Json.equals, Json.same, decide_eq_true_eq] at hmet
    rcases hmet with rfl | rfl
    · exact ⟨.json, rfl⟩
    · exact ⟨.string, rfl⟩
  | _ => simp [Json.equals, Json.same] at hmet

theorem Number.zero_le_of_ordering {i : Int} {fits : Number.Fits i}
    (h : (Number.int i fits).ordering (.ofNat 0) ≠ .lt) : 0 ≤ i := by
  by_cases hsmall : i < 9223372036854775808
  · have hleft : (Number.int i fits).toSigned? = some i := if_pos hsmall
    have hright : (Number.ofNat 0).toSigned? = some 0 := rfl
    rw [Number.ordering, hleft, hright] at h
    rw [Ne, Std.compare_eq_lt] at h
    omega
  · omega

/-- An integer that is not below zero is read as a natural number, a float never is. -/
theorem Body.exists_nat_iff {v : Json}
    (h : (Schema.of .integer [.minimum (.ofNat 0)]).accepts v = true) :
    (∃ n, nat v = .ok n) ↔ ∀ x finite, v ≠ .number (.float x finite) := by
  obtain ⟨hkind, hmin⟩ := (Schema.accepts_of_iff _ _ v).1 h
  obtain ⟨n, rfl, -⟩ := (Schema.kind_has_integer_iff v).1 hkind
  cases n with
  | float x finite => simp [nat, finite]
  | int i fits =>
    have hmet := hmin _ List.mem_cons_self
    simp only [Schema.Keyword.Met, Schema.ofKeyword, Schema.demand_eq_nil_iff,
      decide_eq_true_eq] at hmet
    simp [nat, Number.zero_le_of_ordering hmet]

theorem Body.exists_limit_iff
    (ht : Typed params "limit" (.of .integer [.minimum (.ofNat 0)])) :
    (∃ n, usually Body.usualLimit nat "limit" params = .ok n) ↔
      ∀ x finite, Fields.get? "limit" params ≠ some (.number (.float x finite)) := by
  unfold usually
  cases hv : Fields.get? "limit" params with
  | none => simp
  | some v => simpa using Body.exists_nat_iff (ht v hv)

theorem Body.exists_mime_iff (ht : Typed params "mime" .text) :
    (∃ o m, optional text "mime" params = .ok o ∧ filled? "mime" o = .ok m) ↔
      Fields.get? "mime" params ≠ some (.string "") := by
  unfold Params.optional
  cases hv : Fields.get? "mime" params with
  | none => simp [filled?]
  | some v =>
    obtain ⟨s, rfl⟩ := (Schema.accepts_text_iff v).1 (ht v hv)
    by_cases hs : s = "" <;> simp [text, Except.map, filled?, filled, hs]

theorem Body.exists_read_iff (h : Body.schema.accepts (.map params) = true) :
    (∃ p, Body.Params.read params = .ok p) ↔ Body.Sound params := by
  obtain ⟨htyped, -⟩ := (Schema.accepts_object_iff _ _ params).1 h
  obtain ⟨kind, h1⟩ := (Body.reads_reading.readable
    (htyped ("type", .keywords [.oneOfValues [.string "json", .string "string"]])
      (by simp))).optional
  rw [Body.Sound, ← Body.exists_mime_iff (htyped ("mime", .text) (by simp)),
    ← Body.exists_limit_iff (htyped ("limit", .of .integer [.minimum (.ofNat 0)]) (by simp))]
  constructor
  · rintro ⟨p, hp⟩
    simp only [Body.Params.read, h1, bind, Except.bind] at hp
    cases h2 : optional text "mime" params with
    | error e => simp [h2] at hp
    | ok o =>
      cases h3 : usually Body.usualLimit nat "limit" params with
      | error e => simp [h2, h3] at hp
      | ok n =>
        cases h2' : filled? "mime" o with
        | error e => simp [h2, h3, h2'] at hp
        | ok m => exact ⟨⟨o, m, rfl, h2'⟩, n, rfl⟩
  · rintro ⟨⟨o, m, h2, h2'⟩, n, h3⟩
    refine ⟨⟨kind, m, n⟩, ?_⟩
    simp only [Body.Params.read, h1, h2, h3, h2', bind, Except.bind, pure, Except.pure]

end Plugins

/-! ## Through the registry -/

/-- Whether the plugin of a name can read its parameters; `log` takes them as they are. -/
def Plugin.CanRead (name : String) (params : Fields Json) : Prop :=
  match name with
  | "match" => ∃ p, Match.Params.read params = .ok p
  | "header" => ∃ p, Header.Params.read params = .ok p
  | "body" => ∃ p, Body.Params.read params = .ok p
  | "readfile" => ∃ p, ReadFile.Params.read params = .ok p
  | "command" => ∃ p, Command.Params.read params = .ok p
  | "http" => ∃ p, Http.Params.read params = .ok p
  | "jsonrpc" => ∃ p, JsonRpc.Params.read params = .ok p
  | _ => True

theorem Registry.accepts_of_select {registry : Registry} {name : String} {params : Fields Json}
    {plugin : Plugin} (h : registry.select name params = .ok (some plugin)) :
    plugin.schema.accepts (.map params) = true := by
  have hget := get?_of_select h
  unfold select at h
  rw [hget] at h
  dsimp only at h
  split at h
  · next hnone => rw [Schema.accepts_iff, hnone]
  · cases h

theorem Body.call_of_not_readable {params : Fields Json}
    (h : ¬ ∃ p, Body.Params.read params = .ok p) (ctx : Context) :
    ∃ flaw, (Body.call params ctx).outcome = .error (.invalidParams flaw) := by
  cases hread : Body.Params.read params with
  | ok p => exact absurd ⟨p, hread⟩ h
  | error flaw => exact ⟨flaw, by rw [Body.call, hread]; rfl⟩

/-- A plugin of the library that is handed out for some parameters can read them, unless it is
`body` and they hold an empty `mime` or a `limit` with a decimal point; then the call fails. -/
theorem Registry.select_canRead_iff (host : Host) {name : String} {plugin : Plugin}
    {params : Fields Json} (hw : (Json.map params).WellFormed)
    (h : (Registry.builtin host).select name params = .ok (some plugin)) :
    (Plugin.CanRead name params ↔ (name = "body" → Body.Sound params)) ∧
      (¬ Plugin.CanRead name params →
        ∀ ctx, ∃ flaw, (plugin.call params ctx).outcome = .error (.invalidParams flaw)) := by
  obtain ⟨hmem, rfl⟩ := Registry.named_of_get?_ofList (Registry.get?_of_select h)
  have haccepts := Registry.accepts_of_select h
  have hright {p : Prop} (name : String) (hp : p) (hne : name ≠ "body") :
      (p ↔ (name = "body" → Body.Sound params)) ∧
        (¬ p → ∀ ctx, ∃ flaw, (plugin.call params ctx).outcome = .error (.invalidParams flaw)) :=
    ⟨iff_of_true hp fun heq => absurd heq hne, fun hn => absurd hp hn⟩
  simp only [Plugin.builtins, List.mem_cons, List.not_mem_nil, or_false] at hmem
  rcases hmem with rfl | rfl | rfl | rfl | rfl | rfl | rfl | rfl
  · exact hright "match" (Match.exists_read haccepts) (by decide)
  · exact hright "log" trivial (by decide)
  · exact hright "header" (Header.exists_read haccepts) (by decide)
  · have hiff := Body.exists_read_iff haccepts
    exact ⟨hiff.trans ⟨fun hs _ => hs, fun hs => hs rfl⟩, Body.call_of_not_readable⟩
  · exact hright "readfile" (ReadFile.exists_read haccepts) (by decide)
  · exact hright "command" (Command.exists_read haccepts) (by decide)
  · exact hright "http" (Http.exists_read hw haccepts) (by decide)
  · exact hright "jsonrpc" (JsonRpc.exists_read haccepts) (by decide)

/-- A host with no files, programs and servers. -/
def Host.bare : Host := ⟨⟨[], [], ""⟩, fun _ => .error .missing, fun _ => .error ""⟩

/-- All parameters of `body`, with the largest limit of 64 bits. -/
theorem Registry.select_canRead_body :
    let params : Fields Json := [("type", .string "json"), ("mime", .string "text/json"),
      ("limit", .number (.int 18446744073709551615 (by decide))), ("more", .null)]
    (Json.map params).WellFormed ∧
    (Registry.builtin Host.bare).select "body" params = .ok (some Body.plugin) ∧
    (Plugin.CanRead "body" params ↔ Body.Sound params) ∧ Plugin.CanRead "body" params := by
  intro params
  have hw : (Json.map params).WellFormed := by
    simp [params, Json.WellFormed, Json.WellFormedFields, Fields.keys]
  have hselect : (Registry.builtin Host.bare).select "body" params = .ok (some Body.plugin) := rfl
  have hiff := (Registry.select_canRead_iff Host.bare hw hselect).1
  have hsound : Body.Sound params := by
    simp [Body.Sound, params, Fields.get?]
  exact ⟨hw, hselect, hiff.trans (by simp), hiff.2 fun _ => hsound⟩

/-- The schema of `body` accepts an empty `mime`, which `body` refuses. -/
theorem Registry.select_body_empty_mime :
    let params : Fields Json := [("mime", .string "")]
    (Registry.builtin Host.bare).select "body" params = .ok (some Body.plugin) ∧
    ¬ Plugin.CanRead "body" params ∧
    (Body.plugin.call params .empty).outcome = .error (.invalidParams (.empty "mime")) := by
  intro params
  refine ⟨rfl, ?_, rfl⟩
  rintro ⟨p, hp⟩
  cases hp

end Sluice
