import Mathlib.Data.List.Forall2
import Mathlib.Data.List.Nodup
import Sluice.Proofs.Loading.Spots

/-!
# Positions lead back to entries

Every pipe and every step of a loaded configuration, at whatever depth, comes from the mapping that
stands at its position: in the document that is read under the name of the source, at the end of
the way.  Loading this mapping at this place gives the entry (`Spot.Gives`).  In one reading of a
file no two entries have the same position.

A list gives its entries in the order of the document (`Listing.Gives`).  This is shown for lists of
steps and for documents whose includes are known to do so (`gives_readSteps`, `gives_readEntries`),
and then for includes (`givesSteps_stepsOf`, `givesPipes_pipesOf`).
-/

namespace Sluice

open Config Loading

/-! ## Entries -/

/-- An entry of a configuration. -/
inductive Entry where
  | pipe (p : Pipe)
  | step (s : Step)

def Entry.position : Entry → Position
  | .pipe p => p.position
  | .step s => s.position

mutual

/-- A step and the steps inside of it, at any depth, in order. -/
def Step.within : Step → List Step
  | .invalid position cause => [.invalid position cause]
  | .valid position control content => .valid position control content :: content.within

def Content.within : Content → List Step
  | .plugin .. | .assign _ | .defaults _ => []
  | .pipe steps => stepsWithin steps

def stepsWithin : List Step → List Step
  | [] => []
  | s :: rest => s.within ++ stepsWithin rest

end

/-- The steps of a list and those inside of them, as entries. -/
def stepEntries (steps : List Step) : List Entry := (stepsWithin steps).map .step

def Pipe.entries (p : Pipe) : List Entry := .pipe p :: stepEntries p.steps

/-- The entries of a configuration at any depth: the steps of its `init` block, and its pipes with
their steps. -/
def Config.entries (c : Config) : List Entry :=
  stepEntries (c.init.getD []) ++ c.pipes.flatMap Pipe.entries

theorem Step.within_eq (s : Step) : s.within = s :: stepsWithin s.inner := by
  cases s with
  | invalid position cause => rw [Step.within, Step.inner, stepsWithin]
  | valid position control content =>
    cases content <;>
      simp only [Step.within, Content.within, Step.inner, Content.inner, stepsWithin]

theorem stepsWithin_append (a b : List Step) :
    stepsWithin (a ++ b) = stepsWithin a ++ stepsWithin b := by
  induction a with
  | nil => rfl
  | cons s rest ih => rw [List.cons_append, stepsWithin, stepsWithin, ih, List.append_assoc]

theorem stepEntries_append (a b : List Step) :
    stepEntries (a ++ b) = stepEntries a ++ stepEntries b := by
  rw [stepEntries, stepsWithin_append, List.map_append, stepEntries, stepEntries]

theorem stepEntries_singleton (s : Step) : stepEntries [s] = .step s :: stepEntries s.inner := by
  rw [stepEntries, stepsWithin, stepsWithin, List.append_nil, Step.within_eq, List.map_cons,
    stepEntries]

theorem Config.entries_append {a b : Config} (h : b.init = none) :
    (a.append b).entries = a.entries ++ b.entries := by
  simp [entries, append, h, stepEntries, stepsWithin]

/-! ## What mappings and lists give -/

section Gives

variable (tree : FileTree) (known : String → Bool) (openings : List Opening)

/-- Whether loading a mapping at its place gives an entry. -/
def Spot.Loads (s : Spot) : Entry → Prop
  | .pipe p => ∀ first, ∃ opened,
    (readEntry known (stepsOf tree known s.source) (pipesOf tree known s.source) first s.position
      (.map s.fields)).run [] = .ok (⟨none, [p]⟩, opened)
  | .step step => ∃ opened,
    (readStep known (stepsOf tree known s.source) s.position (.map s.fields)).run [] =
      .ok ([step], opened)

/-- Whether an entry comes from a mapping: the mapping stands at the position of the entry, and
loading it there gives the entry. -/
structure Spot.Gives (s : Spot) (e : Entry) : Prop where
  position_eq : e.position = s.position
  stands : Stands tree openings s.via s.source s.position (.map s.fields)
  loads : s.Loads tree known e

/-- Whether entries come from the mappings that are found at addresses, in the order of these. -/
structure Locates (find : Address → Option Spot) (addresses : List Address) (entries : List Entry) :
    Prop where
  increasing : addresses.Pairwise (· < ·)
  gives : List.Forall₂ (fun a e => ∃ s, find a = some s ∧ s.Gives tree known openings e) addresses
    entries

/-- Whether the items of a list, from an index on, give some entries. -/
def Listing.Gives (l : Listing) (index : Nat) (entries : List Entry) : Prop :=
  ∃ addresses, HeadsFrom index addresses ∧
    Locates tree known openings (l.spot? tree) addresses entries

/-- Whether the item of a list at an index gives some entries. -/
def Listing.ItemGives (l : Listing) (index : Nat) (entries : List Entry) : Prop :=
  ∃ addresses,
    Locates tree known openings (fun a => l.spot? tree (index :: a)) addresses entries

end Gives

section Locating

variable {tree : FileTree} {known : String → Bool} {openings : List Opening} {l l' : Listing}
  {s : Spot} {index : Nat} {e : Entry} {entries later : List Entry}

theorem locates_nil (find : Address → Option Spot) : Locates tree known openings find [] [] :=
  ⟨.nil, .nil⟩

namespace Listing

theorem gives_nil (index : Nat) : l.Gives tree known openings index [] :=
  ⟨[], headsFrom_nil index, locates_nil _⟩

/-- What an item gives, and then what the items behind it give. -/
theorem Gives.cons (hitem : l.ItemGives tree known openings index entries)
    (hlater : l.Gives tree known openings (index + 1) later) :
    l.Gives tree known openings index (entries ++ later) := by
  obtain ⟨here, hhere⟩ := hitem
  obtain ⟨behind, hheads, hbehind⟩ := hlater
  refine ⟨here.map (index :: ·) ++ behind, headsFrom_append hheads, ?_, ?_⟩
  · exact pairwise_lt_append hhere.increasing hbehind.increasing hheads
  · exact List.rel_append (List.forall₂_map_left_iff.2 hhere.gives) hbehind.gives

/-- What the list below an item gives, the item gives too. -/
theorem locates_below {addresses : List Address} (hitem : l.item? index = some s)
    (hlist : s.list? tree = some l') (hheads : HeadsFrom 0 addresses)
    (h : Locates tree known openings (l'.spot? tree) addresses entries) :
    Locates tree known openings (fun a => l.spot? tree (index :: a)) addresses entries := by
  refine ⟨h.increasing, ?_⟩
  have hne : ∀ a ∈ addresses, a ≠ [] := by
    intro a ha
    obtain ⟨j, rest, rfl, -⟩ := hheads a ha
    exact List.cons_ne_nil j rest
  refine ((List.forall₂_and_left _ _).2 ⟨hne, h.gives⟩).imp fun a e ⟨ha, t, hfind, ht⟩ => ?_
  exact ⟨t, (spot?_cons hitem hlist ha).trans hfind, ht⟩

theorem itemGives_of_list (hitem : l.item? index = some s) (hlist : s.list? tree = some l')
    (h : l'.Gives tree known openings 0 entries) :
    l.ItemGives tree known openings index entries := by
  obtain ⟨addresses, hheads, haddresses⟩ := h
  exact ⟨addresses, locates_below hitem hlist hheads haddresses⟩

/-- An item that gives an entry of its own gives what is inside of it behind it. -/
theorem itemGives_cons (hitem : l.item? index = some s) (he : s.Gives tree known openings e)
    (h : entries = [] ∨ ∃ l', s.list? tree = some l' ∧ l'.Gives tree known openings 0 entries) :
    l.ItemGives tree known openings index (e :: entries) := by
  obtain ⟨inside, hheads, hinside⟩ : ∃ inside, HeadsFrom 0 inside ∧
      Locates tree known openings (fun a => l.spot? tree (index :: a)) inside entries := by
    obtain rfl | ⟨l', hlist, addresses, hheads, haddresses⟩ := h
    · exact ⟨[], headsFrom_nil 0, locates_nil _⟩
    · exact ⟨addresses, hheads, locates_below hitem hlist hheads haddresses⟩
  refine ⟨[] :: inside, List.pairwise_cons.2 ⟨fun a ha => ?_, hinside.increasing⟩,
    .cons ⟨s, hitem, he⟩ hinside.gives⟩
  obtain ⟨j, rest, rfl, -⟩ := hheads a ha
  exact List.nil_lt_cons j rest

end Listing

end Locating

/-! ## Lists of steps -/

section Steps

variable {tree : FileTree} {known : String → Bool} {openings : List Opening}

/-- Whether an include in a file that is being read leads to a list that gives what the steps which
it stands for are and hold. -/
def GivesSteps (tree : FileTree) (known : String → Bool) (openings : List Opening)
    (source : Source) : Prop :=
  ∀ {via position fields target steps o o'}, source.stack.length = via.length + 1 →
    (stepsOf tree known source target position).run o = .ok (steps, o') → o' <+: openings →
    ∃ l, Spot.included? tree ⟨via, source, position, fields⟩ target = some l ∧
      l.Gives tree known openings 0 (stepEntries steps)

theorem sizeOf_items_lt {key : String} {items : List Json} {fields : Fields Json}
    (h : (key, .list items) ∈ fields) : sizeOf items < sizeOf (Json.map fields) := by
  have hmem := List.sizeOf_lt_of_mem h
  simp only [Prod.mk.sizeOf_spec, Json.list.sizeOf_spec, Json.map.sizeOf_spec] at hmem ⊢
  omega

/-- The items of a list of steps give its steps, if its includes do.  The recursion goes from item
to item and from an item to the list under `pipe`. -/
theorem gives_readSteps {l : Listing} (hs : GivesSteps tree known openings l.source)
    (hl : Stands tree openings l.via l.source l.position (.list l.items)) {index : Nat} :
    ∀ {items : List Json} {steps : List Step} {o o' : List Opening}, l.items.drop index = items →
    (readSteps known (stepsOf tree known l.source) l.position index items).run o =
      .ok (steps, o') → o' <+: openings →
    l.Gives tree known openings index (stepEntries steps)
  | [], steps, o, o', _, hr, _ => by
    rw [readSteps] at hr
    cases hr
    exact Listing.gives_nil index
  | entry :: rest, steps, o, o', hitems, hr, hsub => by
    rw [readSteps] at hr
    obtain ⟨first, o₁, hfirst, hr⟩ := run_bind_eq_ok.1 hr
    obtain ⟨more, o₂, hmore, hr⟩ := run_bind_eq_ok.1 hr
    cases hr
    have hs' : Splices Appending .steps (stepsOf tree known l.source)
        (stepsOf tree known l.source) := appending_stepsOf l.source
    have hsub₁ : o₁ <+: openings := (opened_of_run_readSteps hmore).trans hsub
    obtain ⟨hentry, hrest⟩ := getElem?_of_drop_eq_cons hitems
    rw [stepEntries_append]
    refine .cons ?_ (gives_readSteps hs hl hrest hmore hsub)
    obtain ⟨fields, rfl, hcases⟩ := run_readStep_eq_ok hs' hfirst
    let s : Spot := ⟨l.via, l.source, l.position.item index, fields⟩
    have hitem : l.item? index = some s := Listing.item?_eq_some hentry
    have hstands : Stands tree openings s.via s.source s.position (.map s.fields) := hl.item hentry
    obtain ⟨target, hinclude, hsplice⟩ | ⟨hinclude, step, rfl, hposition, hinner⟩ := hcases
    · obtain ⟨below, hbelow, hgives⟩ := hs hl.depth_eq hsplice hsub₁
      exact Listing.itemGives_of_list hitem ((Spot.list?_of_include hinclude).trans hbelow) hgives
    · rw [stepEntries_singleton]
      obtain ⟨opened, hloads, -⟩ :=
        (carries_appending.readStep known hs' s.position (.map fields)).exists_run_nil hfirst
      refine Listing.itemGives_cons hitem ⟨hposition, hstands, opened, hloads⟩ ?_
      refine hinner.imp (fun hnil => by rw [hnil]; rfl) ?_
      rintro ⟨inside, o₃, o₄, hmem, hread, hsub₂⟩
      -- the list under `pipe` is a part of the entry, so the recursion may go into it
      have hsize : sizeOf inside < sizeOf (Json.map fields) := sizeOf_items_lt hmem
      let below : Listing := ⟨l.via, l.source, s.position.field "pipe", inside⟩
      have hbelow : Stands tree openings below.via below.source below.position (.list inside) :=
        hstands.field (.inl rfl) hmem
      exact ⟨below, Spot.list?_of_pipe hstands.wellFormed.1 hinclude hmem,
        gives_readSteps (l := below) hs hbelow rfl hread (hsub₂.trans hsub₁)⟩
termination_by items => sizeOf items

theorem givesSteps_stepsOf (source : Source) : GivesSteps tree known openings source := by
  intro via position fields target steps o o' hdepth hr hsub
  rw [stepsOf] at hr
  obtain ⟨i, o₁, hfollow, hread⟩ := run_bind_eq_ok.1 hr
  have hfewer := i.fewer
  let s : Spot := ⟨via, source, position, fields⟩
  obtain ⟨hincluded, hstands⟩ :=
    Spot.exists_included? (s := s) hdepth hfollow ((opened_of_run_readSteps hread).trans hsub)
  exact ⟨_, hincluded, gives_readSteps (givesSteps_stepsOf i.source) hstands rfl hread hsub⟩
termination_by source.unread tree

/-- A list of steps under a key of a mapping gives its steps. -/
theorem gives_field {s : Spot} {key : String} {items : List Json} {steps : List Step}
    {o o' : List Opening} (hs : Stands tree openings s.via s.source s.position (.map s.fields))
    (hkey : key = "pipe" ∨ key = "init") (hmem : (key, .list items) ∈ s.fields)
    (hr : (readSteps known (stepsOf tree known s.source) (s.position.field key) 0 items).run o =
      .ok (steps, o'))
    (hsub : o' <+: openings) :
    Listing.Gives tree known openings ⟨s.via, s.source, s.position.field key, items⟩ 0
      (stepEntries steps) :=
  gives_readSteps (l := ⟨s.via, s.source, s.position.field key, items⟩)
    (givesSteps_stepsOf s.source) (hs.field hkey hmem) rfl hr hsub

end Steps

/-! ## Documents -/

section Documents

variable {tree : FileTree} {known : String → Bool} {openings : List Opening}

/-- Whether an include in a file that is being read leads to a list that gives the pipes which it
stands for. -/
def GivesPipes (tree : FileTree) (known : String → Bool) (openings : List Opening)
    (source : Source) : Prop :=
  ∀ {via position fields target pipes o o'}, source.stack.length = via.length + 1 →
    (pipesOf tree known source target position).run o = .ok (pipes, o') → o' <+: openings →
    ∃ l, Spot.included? tree ⟨via, source, position, fields⟩ target = some l ∧
      l.Gives tree known openings 0 (Config.entries ⟨none, pipes⟩)

theorem readEntry_eq_of_get?_init {splice : Splice Loading Step} {splicePipes : Splice Loading Pipe}
    {position : Position} {fields : Fields Json} (h : Fields.get? "init" fields = none)
    (first first' : Bool) :
    readEntry known splice splicePipes first position (.map fields) =
      readEntry known splice splicePipes first' position (.map fields) := by
  simp only [readEntry, h]
  cases Fields.get? "include" fields <;> rfl

/-- The entries behind the first one have no `init` block, whether one is allowed or not. -/
theorem init_eq_none_of_run_readEntries {splice : Splice Loading Step}
    {splicePipes : Splice Loading Pipe} {mayInit : Bool} {root : Position} {index : Nat}
    {items : List Json} {c : Config} {o o' : List Opening}
    (hr : (readEntries known splice splicePipes mayInit root (index + 1) items).run o =
      .ok (c, o')) : c.init = none := by
  induction items generalizing index c o with
  | nil =>
    cases hr
    rfl
  | cons entry rest ih =>
    obtain ⟨first, o₁, hfirst, hr⟩ := run_bind_eq_ok.1 hr
    obtain ⟨more, o₂, hmore, hr⟩ := run_bind_eq_ok.1 hr
    cases hr
    have hlater : (mayInit && decide (index + 1 = 0)) = false := by simp
    rw [hlater] at hfirst
    simp [append, (noInit_of_run_readEntry hfirst).2, ih hmore]

/-- The entries of a document give what it is read as, if its includes do. -/
theorem gives_readEntries {l : Listing} (hp : GivesPipes tree known openings l.source)
    (hl : Stands tree openings l.via l.source l.position (.list l.items)) {mayInit : Bool}
    {index : Nat} {items : List Json} (hitems : l.items.drop index = items) {c : Config}
    {o o' : List Opening}
    (hr : (readEntries known (stepsOf tree known l.source) (pipesOf tree known l.source) mayInit
      l.position index items).run o = .ok (c, o'))
    (hsub : o' <+: openings) : l.Gives tree known openings index c.entries := by
  -- the index runs along with the items that are left, so that each entry finds its own number
  induction items generalizing index c o with
  | nil =>
    cases hr
    exact Listing.gives_nil index
  | cons entry rest ih =>
    obtain ⟨first, o₁, hfirst, hr⟩ := run_bind_eq_ok.1 hr
    obtain ⟨more, o₂, hmore, hr⟩ := run_bind_eq_ok.1 hr
    cases hr
    have hs' : Splices Appending .steps (stepsOf tree known l.source)
        (stepsOf tree known l.source) := appending_stepsOf l.source
    have hp' : Splices Appending .entries (pipesOf tree known l.source)
        (pipesOf tree known l.source) := appending_pipesOf l.source
    have hsub₁ : o₁ <+: openings := (opened_of_run_readEntries hmore).trans hsub
    obtain ⟨hentry, hrest⟩ := getElem?_of_drop_eq_cons hitems
    rw [Config.entries_append (init_eq_none_of_run_readEntries hmore)]
    refine .cons ?_ (ih hrest hmore)
    obtain ⟨fields, rfl, hcases⟩ := run_readEntry_eq_ok hs' hfirst
    let s : Spot := ⟨l.via, l.source, l.position.item index, fields⟩
    have hitem : l.item? index = some s := Listing.item?_eq_some hentry
    have hstands : Stands tree openings s.via s.source s.position (.map s.fields) := hl.item hentry
    -- an include leads into another file, an `init` block and a pipe into a list of their own
    obtain ⟨target, pipes, hinclude, rfl, hsplice⟩ | ⟨inside, steps, hinit, rfl, hread⟩ |
      ⟨hinclude, hinit, p, rfl, hposition, inside, o₃, o₄, hmem, hread, hsub₂⟩ := hcases
    · obtain ⟨below, hbelow, hgives⟩ := hp hl.depth_eq hsplice hsub₁
      exact Listing.itemGives_of_list hitem ((Spot.list?_of_include hinclude).trans hbelow) hgives
    · have hgives := gives_field hstands (.inr rfl) (by simp [s, hinit]) hread hsub₁
      have hentries : Config.entries ⟨some steps, []⟩ = stepEntries steps := by
        simp [Config.entries]
      rw [hentries]
      exact Listing.itemGives_of_list hitem (Spot.list?_of_init hinit) hgives
    · have hgives := gives_field hstands (.inl rfl) hmem hread (hsub₂.trans hsub₁)
      have hloads : s.Loads tree known (.pipe p) := by
        intro first
        rw [readEntry_eq_of_get?_init hinit (mayInit && decide (index = 0)) first] at hfirst
        obtain ⟨opened, hloads, -⟩ := (carries_appending.readEntry known hs' hp' first s.position
          (.map fields)).exists_run_nil hfirst
        exact ⟨opened, hloads⟩
      have hentries : Config.entries ⟨none, [p]⟩ = .pipe p :: stepEntries p.steps := by
        simp [Config.entries, Pipe.entries, stepEntries, stepsWithin]
      rw [hentries]
      exact Listing.itemGives_cons hitem ⟨hposition, hstands, hloads⟩
        (.inr ⟨_, Spot.list?_of_pipe hstands.wellFormed.1 hinclude hmem, hgives⟩)

theorem givesPipes_pipesOf (source : Source) : GivesPipes tree known openings source := by
  intro via position fields target pipes o o' hdepth hr hsub
  rw [pipesOf] at hr
  obtain ⟨i, o₁, hfollow, hr⟩ := run_bind_eq_ok.1 hr
  obtain ⟨c, o₂, hread, hr⟩ := run_bind_eq_ok.1 hr
  cases hr
  have hfewer := i.fewer
  let s : Spot := ⟨via, source, position, fields⟩
  obtain ⟨hincluded, hstands⟩ :=
    Spot.exists_included? (s := s) hdepth hfollow ((opened_of_run_readEntries hread).trans hsub)
  have hgives := gives_readEntries (givesPipes_pipesOf i.source) hstands rfl hread hsub
  have hc : Config.entries ⟨none, c.pipes⟩ = c.entries := by
    rw [Config.entries, Config.entries, (noInit_of_run_readEntries hread).2]
  exact ⟨_, hincluded, hc ▸ hgives⟩
termination_by source.unread tree

end Documents

/-! ## Loaded files -/

section Loaded

variable {tree : FileTree} {known : String → Bool} {openings : List Opening}

/-- Entries that come from what is found at addresses of a list come from spots at these
addresses. -/
theorem Locates.exists_spots {l : Listing} {addresses : List Address} {entries : List Entry}
    (h : Locates tree known openings (l.spot? tree) addresses entries)
    (hbase : (l.via ++ [l.position]).flatMap Position.numbers = []) :
    ∃ spots, List.Forall₂ (Spot.Gives tree known openings) spots entries ∧
      spots.map Spot.address = addresses ∧ ∀ s ∈ spots, l.spot? tree s.address = some s := by
  obtain ⟨-, hgives⟩ := h
  induction hgives with
  | nil => exact ⟨[], .nil, rfl, by simp⟩
  | cons hfirst _ ih =>
    obtain ⟨s, hfind, hs⟩ := hfirst
    obtain ⟨spots, hspots, haddresses, hfound⟩ := ih
    have haddress := Listing.address_of_spot? hfind
    rw [hbase, List.nil_append] at haddress
    exact ⟨s :: spots, .cons hs hspots, by rw [List.map_cons, haddress, haddresses],
      List.forall_mem_cons.2 ⟨haddress ▸ hfind, hfound⟩⟩

/-- Entries in one reading of a file whose positions read the same have the same address. -/
theorem Spot.address_eq_of_pointer {s t : Spot} {e e' : Entry}
    (hs : s.Gives tree known openings e) (ht : t.Gives tree known openings e')
    (hvia : s.via = t.via) (hpointer : s.position.pointer = t.position.pointer) :
    s.address = t.address := by
  have hpath := Position.pointer_inj hs.stands.enters ht.stands.enters hpointer
  have hnumbers : s.position.numbers = t.position.numbers := by
    rw [Position.numbers, hpath, Position.numbers]
  simp [Spot.address, hvia, hnumbers]

/-- In one reading of a file, entries at addresses one behind the other have different positions. -/
theorem nodup_pointers {spots : List Spot} {entries : List Entry}
    (h : List.Forall₂ (Spot.Gives tree known openings) spots entries)
    (hincreasing : (spots.map Spot.address).Pairwise (· < ·)) :
    (spots.map fun s => (s.via, s.position.pointer)).Nodup := by
  have hnodup : (spots.map Spot.address).Nodup := by
    refine hincreasing.imp fun hlt => ?_
    rintro rfl
    exact List.lt_irrefl _ hlt
  have hgives : ∀ s ∈ spots, ∃ e, s.Gives tree known openings e :=
    ((List.forall₂_and_left _ _).1 (h.imp fun s e hs => ⟨⟨e, hs⟩, hs⟩)).1
  refine (List.Nodup.of_map _ hnodup).map_on fun s hs t ht heq => ?_
  obtain ⟨e, he⟩ := hgives s hs
  obtain ⟨e', he'⟩ := hgives t ht
  have hvia : s.via = t.via := congrArg Prod.fst heq
  have hpointer : s.position.pointer = t.position.pointer := congrArg Prod.snd heq
  exact List.inj_on_of_nodup_map hnodup hs ht (Spot.address_eq_of_pointer he he' hvia hpointer)

/-- Every entry of a loaded configuration comes from the mapping at its position, which is found
where the addresses of the entries, in order, lead from the document that has been loaded.  In one
reading of a file no two entries have the same position. -/
theorem load_leads_back {path : String} {c : Config}
    (h : load tree known path = .ok (c, openings)) :
    ∃ file items, tree.locate path = .ok file ∧ tree.documentAt? file = some (.list items) ∧
      let start : Listing := ⟨[], ⟨path, FileTree.directoryOf file, [file]⟩, ⟨path, []⟩, items⟩
      ∃ spots : List Spot,
        List.Forall₂ (Spot.Gives tree known openings) spots c.entries ∧
        (∀ s ∈ spots, start.spot? tree s.address = some s) ∧
        (spots.map Spot.address).Pairwise (· < ·) ∧
        (spots.map fun s => (s.via, s.position.pointer)).Nodup := by
  obtain ⟨file, items, hfile, hdocument, hr⟩ := run_readEntries_of_load h
  refine ⟨file, items, hfile, hdocument, ?_⟩
  intro start
  have hopened : [⟨file, 0⟩] <+: openings := opened_of_run_readEntries hr
  have hstands : Stands tree openings start.via start.source start.position (.list items) :=
    .root hfile hdocument rfl (hopened.subset (by simp))
  obtain ⟨addresses, -, hlocates⟩ : start.Gives tree known openings 0 c.entries :=
    gives_readEntries (givesPipes_pipesOf start.source) hstands rfl hr List.prefix_rfl
  obtain ⟨spots, hspots, rfl, hfound⟩ := hlocates.exists_spots rfl
  exact ⟨spots, hspots, hfound, hlocates.increasing, nodup_pointers hspots hlocates.increasing⟩

/-- A file of steps that is read three times, once in the `init` block: its steps have the same
positions each time, and come from different readings. -/
theorem load_leads_back_thrice :
    let tree : FileTree :=
      ⟨[(["main"], ("- init:\n  - include: a\n" ++
          "- pipe:\n  - pipe:\n    - include: a\n    - include: a\n").toUTF8.toList),
        (["a"], "- pipe:\n  - name: last\n".toUTF8.toList)], [], "/"⟩
    let known : String → Bool := fun _ => false
    ∃ c openings spots, load tree known "main" = .ok (c, openings) ∧
      c.entries.map (·.position.text) = ["/a:/0", "/a:/0/pipe/0", "main:/1", "main:/1/pipe/0",
        "/a:/0", "/a:/0/pipe/0", "/a:/0", "/a:/0/pipe/0"] ∧
      List.Forall₂ (Spot.Gives tree known openings) spots c.entries ∧
      (spots.map fun s => (s.via, s.position.pointer)).Nodup := by
  intro tree known
  have htexts : (load tree known "main").toOption.map (·.1.entries.map (·.position.text)) =
      some ["/a:/0", "/a:/0/pipe/0", "main:/1", "main:/1/pipe/0", "/a:/0", "/a:/0/pipe/0",
        "/a:/0", "/a:/0/pipe/0"] := by
    decide +kernel
  cases hload : load tree known "main" with
  | error e =>
    rw [hload] at htexts
    cases htexts
  | ok r =>
    obtain ⟨c, openings⟩ := r
    rw [hload] at htexts
    obtain ⟨file, items, -, -, spots, hspots, -, -, hnodup⟩ := load_leads_back hload
    exact ⟨c, openings, spots, rfl, Option.some.inj htexts, hspots, hnodup⟩

end Loaded

end Sluice
