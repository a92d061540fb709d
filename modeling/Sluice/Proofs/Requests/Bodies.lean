import Sluice.Proofs.Digits
import Sluice.Proofs.Parameters.Reading
import Sluice.Proofs.Requests.Headers

/-!
# Looking at bodies

The plugin `body` holds for a request if its method has a body, if it has the demanded media type,
and if the start of its body can be read in the demanded way.  Then, and only then, it gives what it
has read.

* `Body.NamesType` : a `Content-Type` header names a media type;
* `Body.Reading.Gives` : what bytes are read as;
* `Body.slice?` : the start of a body, which gets stuck behind its end.
-/

namespace Sluice

/-! ## Blanks around a text -/

/-- The blanks: the control characters from the tab to the carriage return, the next line, and the
spaces. -/
theorem Text.Property.whiteSpace_eq : whiteSpace = ⟨#[(0x9, 0xd), (0x20, 0x20), (0x85, 0x85),
    (0xa0, 0xa0), (0x1680, 0x1680), (0x2000, 0x200a), (0x2028, 0x2029), (0x202f, 0x202f),
    (0x205f, 0x205f), (0x3000, 0x3000)]⟩ := by
  have htext : whiteSpace =
      .ofText "\n  9-d 20 85 a0 1680 2000-200a 2028-2029 202f 205f 3000" := by
    simp [whiteSpace, named, table]
  rw [htext]
  rfl

/-- Whether a text is another one without what is blank around it. -/
def IsTrimmed (isBlank : Char → Bool) (core whole : List Char) : Prop :=
  ∃ left right, whole = left ++ (core ++ right) ∧ (∀ c ∈ left, isBlank c = true) ∧
    (∀ c ∈ right, isBlank c = true) ∧ (∀ c ∈ core.head?, isBlank c = false) ∧
    ∀ c ∈ core.getLast?, isBlank c = false

section Trimming

variable {isBlank : Char → Bool} {core whole : List Char}

theorem head?_dropWhile_eq_false {p : Char → Bool} {cs : List Char} :
    ∀ c ∈ (cs.dropWhile p).head?, p c = false := by
  intro c hc
  have h := List.head?_dropWhile_not p cs
  rwa [Option.mem_def.1 hc] at h

/-- Blanks are taken off in front, then behind. -/
theorem isTrimmed_dropWhile (isBlank : Char → Bool) (whole : List Char) : IsTrimmed isBlank
    ((whole.dropWhile isBlank).reverse.dropWhile isBlank).reverse whole := by
  have htail : whole.dropWhile isBlank =
      ((whole.dropWhile isBlank).reverse.dropWhile isBlank).reverse ++
        ((whole.dropWhile isBlank).reverse.takeWhile isBlank).reverse := by
    rw [← List.reverse_append, List.takeWhile_append_dropWhile, List.reverse_reverse]
  refine ⟨whole.takeWhile isBlank,
    ((whole.dropWhile isBlank).reverse.takeWhile isBlank).reverse, ?_,
    fun c hc => List.mem_takeWhile_imp hc,
    fun c hc => List.mem_takeWhile_imp (List.mem_reverse.1 hc), fun c hc => ?_, fun c hc => ?_⟩
  · rw [← htail, List.takeWhile_append_dropWhile]
  · -- what is left starts as the text does behind its first blanks
    have hfirst : c ∈ (whole.dropWhile isBlank).head? := by
      rw [htail, List.head?_append, Option.mem_def.1 hc]
      rfl
    exact head?_dropWhile_eq_false c hfirst
  · rw [List.getLast?_reverse] at hc
    exact head?_dropWhile_eq_false c hc

theorem IsTrimmed.eq (h : IsTrimmed isBlank core whole) :
    ((whole.dropWhile isBlank).reverse.dropWhile isBlank).reverse = core := by
  obtain ⟨left, right, rfl, hleft, hright, hfirst, hlast⟩ := h
  cases core with
  | nil =>
    have hblank : (left ++ ([] ++ right)).dropWhile isBlank = [] := by
      rw [List.dropWhile_eq_nil_iff]
      simpa [or_imp, forall_and] using ⟨hleft, hright⟩
    rw [hblank]
    rfl
  | cons c core =>
    rw [(takeWhile_dropWhile_append hleft (by simpa using hfirst)).2, List.reverse_append,
      (takeWhile_dropWhile_append (fun c hc => hright c (List.mem_reverse.1 hc))
        (by rwa [List.head?_reverse])).2, List.reverse_reverse]

end Trimming

namespace Body

/-! ## Media types -/

/-- Whether a `Content-Type` header names a media type: what stands before its first `;`, without
the blanks around it, is the media type up to case. -/
def NamesType (contentType mime : String) : Prop :=
  ∃ before after core, contentType.toList = before ++ after ∧ ';' ∉ before ∧
    (∀ c ∈ after.head?, c = ';') ∧ IsTrimmed Text.Property.whiteSpace.has core before ∧
    SameButCase core mime.toList

theorem mediaType_eq_lower_iff (contentType mime : String) :
    mediaType contentType = Request.lower mime ↔ NamesType contentType mime := by
  have hlower : ∀ core : List Char, String.ofList (core.map Char.toLower) = Request.lower mime ↔
      SameButCase core mime.toList := by
    intro core
    rw [← map_toLower_eq_iff, Request.lower, ← String.toList_inj, String.toList_map,
      String.toList_ofList]
  rw [mediaType, hlower]
  constructor
  · intro h
    refine ⟨_, _, _, (List.takeWhile_append_dropWhile (p := (· ≠ ';'))).symm, fun hmem => ?_,
      fun c hc => ?_, isTrimmed_dropWhile _ _, h⟩
    · simpa using List.mem_takeWhile_imp hmem
    · simpa using head?_dropWhile_eq_false c hc
  · rintro ⟨before, after, core, htext, hbefore, hafter, htrimmed, hsame⟩
    have htake : contentType.toList.takeWhile (· ≠ ';') = before := by
      rw [htext]
      refine (takeWhile_dropWhile_append (fun c hc => ?_) fun c hc => ?_).1
      · exact decide_eq_true fun heq => hbefore (heq ▸ hc)
      · simpa using hafter c hc
    rwa [htake, htrimmed.eq]

/-! ## Payloads -/

/-- Whether bytes are read as a value: as a JSON text, or as a text in which what is no UTF-8 is
replaced. -/
def Reading.Gives : Reading → List UInt8 → Json → Prop
  | .json, bytes, v => ∃ text, Text.decode? bytes = some text ∧ Json.read text.toList = .ok v
  | .string, bytes, v => v = .string (Text.decode bytes)

theorem payload?_eq_some_iff {kind : Reading} {bytes : List UInt8} {v : Json} :
    payload? kind bytes = some v ↔ kind.Gives bytes v := by
  cases kind with
  | string => simp [payload?, Reading.Gives, eq_comm]
  | json =>
    have htoOption : ∀ cs, (Json.read cs).toOption = some v ↔ Json.read cs = .ok v := by
      intro cs
      cases Json.read cs <;> simp [Except.toOption]
    simp [payload?, Reading.Gives, Option.bind_eq_some_iff, htoOption]

/-- The start of a body, if it has so many bytes. -/
def slice? (bytes : List UInt8) (stop : Nat) : Option (List UInt8) :=
  if stop ≤ bytes.length then some (bytes.take stop) else none

/-- A limit never leads behind the end of a body, not even one beyond the largest index. -/
theorem slice?_eq {bytes : List UInt8} {most : Nat} (h : bytes.length ≤ most) (limit : Nat) :
    slice? bytes (min bytes.length (min limit most)) = some (bytes.take limit) := by
  rw [slice?, if_pos (Nat.min_le_left _ _)]
  rcases Nat.le_total limit bytes.length with hle | hge
  · rw [Nat.min_eq_left (Nat.le_trans hle h), Nat.min_eq_right hle]
  · rw [Nat.min_eq_left (Nat.le_min.2 ⟨hge, h⟩), List.take_of_length_le (Nat.le_refl _),
      List.take_of_length_le hge]

/-! ## The answer -/

/-- What the plugin demands of a request. -/
def Accepts (p : Params) (request : Request) : Prop :=
  request.method ∉ ["GET", "HEAD", "DELETE"] ∧
  (∀ mime, p.mime = some mime → ∃ contentType,
    request.header? "content-type" = some contentType ∧ NamesType contentType mime) ∧
  (p.kind = some .json → ∃ v, Reading.json.Gives (request.body.take p.limit) v)

theorem hasMediaType_iff (request : Request) (demanded : Option String) :
    hasMediaType request demanded = true ↔ ∀ mime, demanded = some mime → ∃ contentType,
      request.header? "content-type" = some contentType ∧ NamesType contentType mime := by
  cases demanded with
  | none => simp [hasMediaType]
  | some mime => simp [hasMediaType, mediaType_eq_lower_iff]

theorem isBodiless_iff (method : String) :
    isBodiless method = true ↔ method ∈ ["GET", "HEAD", "DELETE"] := by
  rw [isBodiless, List.contains_iff_mem]

/-- As a text any bytes can be read. -/
theorem accepts_iff {p : Params} {request : Request} : Accepts p request ↔
    ¬ (isBodiless request.method = true ∨ ¬ hasMediaType request p.mime = true) ∧
      ∀ kind, p.kind = some kind → ∃ v, payload? kind (request.body.take p.limit) = some v := by
  have hkinds : (∀ kind, p.kind = some kind →
      ∃ v, payload? kind (request.body.take p.limit) = some v) ↔
        (p.kind = some .json → ∃ v, Reading.json.Gives (request.body.take p.limit) v) := by
    simp only [payload?_eq_some_iff]
    refine ⟨fun h => h .json, fun h kind hkind => ?_⟩
    cases kind with
    | json => exact h hkind
    | string => exact ⟨_, rfl⟩
  rw [hkinds, Accepts, isBodiless_iff, hasMediaType_iff, not_or, not_not, and_assoc]

/-- What the plugin can answer: it refuses, it holds, or it holds and gives a payload. -/
theorem call_cases {params : Fields Json} {p : Params} (h : Params.read params = .ok p)
    (ctx : Context) :
    (¬ Accepts p ctx.request ∧ call params ctx = .of ctx false none) ∨
    (Accepts p ctx.request ∧ p.kind = none ∧ call params ctx = .of ctx true none) ∨
    (Accepts p ctx.request ∧ ∃ kind v, p.kind = some kind ∧
      kind.Gives (ctx.request.body.take p.limit) v ∧
      call params ctx = .of ctx true (some [("payload", v)])) := by
  rw [accepts_iff, call, h]
  dsimp only
  split
  · next hrefused => exact .inl ⟨fun haccepts => haccepts.1 hrefused, rfl⟩
  · next hpasses =>
    cases hkind : p.kind with
    | none => exact .inr (.inl ⟨⟨hpasses, by simp⟩, rfl, rfl⟩)
    | some kind =>
      cases hpayload : payload? kind (ctx.request.body.take p.limit) with
      | none =>
        refine .inl ⟨fun haccepts => ?_, by simp [hpayload]⟩
        obtain ⟨v, hv⟩ := haccepts.2 kind rfl
        cases hpayload.symm.trans hv
      | some v =>
        refine .inr (.inr ⟨⟨hpasses, fun k hk => ?_⟩, kind, v, rfl,
          payload?_eq_some_iff.1 hpayload, by simp [hpayload]⟩)
        obtain rfl := Option.some.inj hk
        exact ⟨v, hpayload⟩

/-- The plugin `body` holds exactly for requests whose method has a body, which have the demanded
media type, and the start of whose body is a JSON text if it is to be one.  It gives a payload
exactly if it holds and is told how to read the body, and then it gives what the bytes up to the
limit are read as; these never lead behind the end of the body. -/
theorem call_decides {params : Fields Json} {p : Params} (h : Params.read params = .ok p)
    (ctx : Context) :
    let start := ctx.request.body.take p.limit
    let answer := call params ctx
    Params.Given params p ∧
    (∀ most, ctx.request.body.length ≤ most →
      slice? ctx.request.body (min ctx.request.body.length (min p.limit most)) = some start) ∧
    (answer.outcome = .ok true ↔ Accepts p ctx.request) ∧
    (answer.outcome = .ok false ↔ ¬ Accepts p ctx.request) ∧
    (answer.result.isSome = true ↔ answer.outcome = .ok true ∧ p.kind.isSome = true) ∧
    ∀ result, answer.result = some result → ∃ kind v, p.kind = some kind ∧ kind.Gives start v ∧
      result = [("payload", v)] := by
  intro start answer
  refine ⟨Params.read_eq_ok_iff.1 h, fun most hmost => slice?_eq hmost p.limit, ?_⟩
  rcases call_cases h ctx with ⟨hrefuses, hcall⟩ | ⟨haccepts, hkind, hcall⟩ |
    ⟨haccepts, kind, v, hkind, hgives, hcall⟩
  · simp [answer, hcall, Answer.of, hrefuses]
  · simp [answer, hcall, Answer.of, haccepts, hkind]
  · have hresult : ∀ result, answer.result = some result → ∃ k w, p.kind = some k ∧
        k.Gives start w ∧ result = [("payload", w)] := fun result hresult =>
      ⟨kind, v, hkind, hgives, by simpa [answer, hcall, Answer.of, eq_comm] using hresult⟩
    refine ⟨?_, ?_, ?_, hresult⟩ <;> simp [answer, hcall, Answer.of, haccepts, hkind]

/-- A media type in another case between blanks, and a limit far behind the end of the body, which
is read as JSON.  A limit inside it leaves a start that is no JSON text. -/
theorem call_decides_at_limits :
    let contentType := " Application/JSON ; charset=utf-8"
    let ctx := Context.start { (Request.of "POST" "/").withHeader "Content-Type" contentType with
      body := [0x5b, 0x5d] }
    let whole : Fields Json := [("type", .string "json"), ("mime", .string "application/json"),
      ("limit", .number (.int 18446744073709551615 (by decide)))]
    let part : Fields Json := [("type", .string "json"), ("limit", .number (.int 1 (by decide)))]
    (call whole ctx).outcome = .ok true ∧ (call whole ctx).result = some [("payload", .list [])] ∧
    (call part ctx).outcome = .ok false ∧ (call part ctx).result = none := by
  intro contentType ctx whole part
  have hwhole : Params.read whole =
      .ok ⟨some .json, some "application/json", 18446744073709551615⟩ := rfl
  have hpart : Params.read part = .ok ⟨some .json, none, 1⟩ := rfl
  obtain ⟨-, -, hholds, -, hsome, hgiven⟩ := call_decides hwhole ctx
  obtain ⟨-, -, -, hrefuses, hnone, -⟩ := call_decides hpart ctx
  have hbody : ctx.request.body = [0x5b, 0x5d] := rfl
  have hnames : NamesType contentType "application/json" := by
    have hblank : Text.Property.whiteSpace.has ' ' = true := by
      rw [Text.Property.whiteSpace_eq]
      cbv
    have hfirst : Text.Property.whiteSpace.has 'A' = false := by
      rw [Text.Property.whiteSpace_eq]
      cbv
    have hlast : Text.Property.whiteSpace.has 'N' = false := by
      rw [Text.Property.whiteSpace_eq]
      cbv
    have htrimmed : IsTrimmed Text.Property.whiteSpace.has "Application/JSON".toList
        " Application/JSON ".toList :=
      ⟨[' '], [' '], by simp, by simpa, by simpa, by simpa, by simpa⟩
    refine ⟨" Application/JSON ".toList, "; charset=utf-8".toList, "Application/JSON".toList, ?_,
      ?_, ?_, htrimmed, ?_⟩
    · simp [contentType]
    · simp
    · simp
    · decide
  have hread : Json.read "[]".toList = .ok (.list []) := by cbv
  have htext : Text.decode? (ctx.request.body.take 18446744073709551615) = some "[]" := by
    rw [hbody, List.take_of_length_le (by decide)]
    rfl
  have houtcome : (call whole ctx).outcome = .ok true := by
    refine hholds.2 ⟨by decide, fun mime hmime => ⟨contentType, by cbv, ?_⟩,
      fun _ => ⟨_, "[]", htext, hread⟩⟩
    cases hmime
    exact hnames
  have hrefused : (call part ctx).outcome = .ok false := by
    refine hrefuses.2 fun haccepts => ?_
    obtain ⟨v, text, hpartText, hv⟩ := haccepts.2.2 rfl
    have hbracket : Text.decode? (ctx.request.body.take 1) = some "[" := by
      rw [hbody]
      rfl
    obtain rfl : "[" = text := Option.some.inj (hbracket.symm.trans hpartText)
    have hfails : ∃ e, Json.read "[".toList = .error e := ⟨_, by cbv⟩
    obtain ⟨e, he⟩ := hfails
    cases he.symm.trans hv
  refine ⟨houtcome, ?_, hrefused, ?_⟩
  · obtain ⟨result, hresult⟩ := Option.isSome_iff_exists.1 (hsome.2 ⟨houtcome, rfl⟩)
    obtain ⟨kind, v, hkind, hgives, rfl⟩ := hgiven result hresult
    obtain rfl : Reading.json = kind := Option.some.inj hkind
    obtain ⟨text, hwholeText, hv⟩ := hgives
    obtain rfl : "[]" = text := Option.some.inj (htext.symm.trans hwholeText)
    obtain rfl : Json.list [] = v := Except.ok.inj (hread.symm.trans hv)
    exact hresult
  · refine Option.not_isSome_iff_eq_none.1 fun hresult => ?_
    cases hrefused.symm.trans (hnone.1 hresult).1

end Body

end Sluice
