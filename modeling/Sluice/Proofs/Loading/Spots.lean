import Sluice.Proofs.Loading.Documents
import Sluice.Proofs.Loading.Entries
import Sluice.Proofs.Loading.Positions

/-!
# Places in the files that are read

The lists and mappings that loading goes through stand in files, and a file is read as often as
includes lead to it.

* `Listing`, `Spot` — a list, or a mapping, in a reading of a file.  The includes that have led to
  the file tell its readings apart;
* `Listing.spot?` — the mapping at an address: item by item, through the list that an include leads
  to or that stands under `pipe` or `init`;
* `Stands` — what stands at a position of a document that has been read.

The address of a mapping is that of its reading and then the indices of its position
(`Listing.address_of_spot?`), so mappings at different addresses of one reading have different
positions.
-/

namespace Sluice

open Config Loading

/-- A list in a reading of a file: the positions of the includes that have led to the file,
outermost first, the source that the file is read as, the position of the list and its items. -/
structure Listing where
  via : List Position
  source : Source
  position : Position
  items : List Json

/-- A mapping in a reading of a file. -/
structure Spot where
  via : List Position
  source : Source
  position : Position
  fields : Fields Json

/-! ## From one to the next -/

namespace Spot

/-- The list that an include of a spot leads to. -/
def included? (tree : FileTree) (s : Spot) (target : Json) : Option Listing :=
  match (s.source.follow tree target s.position).run [] with
  | .ok (i, _) => some ⟨s.via ++ [s.position], i.source, i.source.root, i.items⟩
  | .error _ => none

/-- The list under a key. -/
def under? (s : Spot) (key : String) : Option Listing :=
  match Fields.get? key s.fields with
  | some (.list items) => some ⟨s.via, s.source, s.position.field key, items⟩
  | _ => none

/-- The list that a spot leads to: that in the file which it includes, or the one under `pipe` or
else under `init`. -/
def list? (tree : FileTree) (s : Spot) : Option Listing :=
  match Fields.get? "include" s.fields with
  | some target => s.included? tree target
  | none => (s.under? "pipe").or (s.under? "init")

/-- The indices on the way to a spot, through the includes that have led to its file. -/
def address (s : Spot) : Address := (s.via ++ [s.position]).flatMap Position.numbers

end Spot

namespace Listing

/-- The mapping at an index. -/
def item? (l : Listing) (index : Nat) : Option Spot :=
  match l.items[index]? with
  | some (.map fields) => some ⟨l.via, l.source, l.position.item index, fields⟩
  | _ => none

/-- The mapping at an address. -/
def spot? (tree : FileTree) : Listing → Address → Option Spot
  | _, [] => none
  | l, [index] => l.item? index
  | l, index :: next :: rest => do
    let below ← (← l.item? index).list? tree
    below.spot? tree (next :: rest)

variable {tree : FileTree} {l l' : Listing} {s : Spot} {index : Nat} {address : Address}

theorem item?_eq_some {fields : Fields Json} (h : l.items[index]? = some (.map fields)) :
    l.item? index = some ⟨l.via, l.source, l.position.item index, fields⟩ := by
  rw [item?, h]

theorem spot?_cons (hitem : l.item? index = some s) (hlist : s.list? tree = some l')
    (haddress : address ≠ []) : l.spot? tree (index :: address) = l'.spot? tree address := by
  cases address with
  | nil => exact absurd rfl haddress
  | cons next rest =>
    rw [spot?, hitem]
    change (s.list? tree).bind (fun below => below.spot? tree (next :: rest)) = _
    rw [hlist]
    rfl

/-! ### Addresses -/

theorem address_of_item? (h : l.item? index = some s) :
    s.address = (l.via ++ [l.position]).flatMap Position.numbers ++ [index] := by
  unfold item? at h
  split at h
  · cases h
    simp [Spot.address, Position.numbers_item]
  · cases h

theorem address_of_under? {key : String} (h : s.under? key = some l) :
    (l.via ++ [l.position]).flatMap Position.numbers = s.address := by
  unfold Spot.under? at h
  split at h
  · cases h
    simp [Spot.address, Position.numbers_field]
  · cases h

theorem address_of_list? (h : s.list? tree = some l) :
    (l.via ++ [l.position]).flatMap Position.numbers = s.address := by
  unfold Spot.list? at h
  split at h
  · unfold Spot.included? at h
    split at h
    · cases h
      simp [Spot.address, Source.root, Position.numbers]
    · cases h
  · obtain h | ⟨-, h⟩ := Option.or_eq_some_iff.1 h
    · exact address_of_under? h
    · exact address_of_under? h

/-- The address of a spot is the one it is found at. -/
theorem address_of_spot? (h : l.spot? tree address = some s) :
    s.address = (l.via ++ [l.position]).flatMap Position.numbers ++ address := by
  induction address generalizing l with
  | nil => cases h
  | cons index rest ih => cases rest with
    | nil => exact address_of_item? h
    | cons next rest =>
      obtain ⟨t, hitem, h⟩ := Option.bind_eq_some_iff.1 h
      obtain ⟨below, hlist, h⟩ := Option.bind_eq_some_iff.1 h
      rw [ih h, address_of_list? hlist, address_of_item? hitem, List.append_assoc]
      rfl

end Listing

/-! ## What stands at a position -/

/-- What stands at a position of a document that has been read.  The way there is one to an entry,
and the name of the source leads to the file, which has been opened below the includes. -/
structure Stands (tree : FileTree) (openings : List Opening) (via : List Position) (source : Source)
    (position : Position) (value : Json) : Prop where
  source_eq : source.name = position.source
  depth_eq : source.stack.length = via.length + 1
  enters : ∀ place ∈ position.path, place.Enters
  wellFormed : value.WellFormed
  found : ∃ file document, tree.locate position.source = .ok file ∧
    ⟨file, via.length⟩ ∈ openings ∧ tree.documentAt? file = some document ∧
    position.find? document = some value

namespace Stands

variable {tree : FileTree} {openings : List Opening} {via : List Position}
  {source : Source} {position : Position}

theorem item {items : List Json} {index : Nat} {value : Json}
    (h : Stands tree openings via source position (.list items))
    (hvalue : items[index]? = some value) :
    Stands tree openings via source (position.item index) value where
  source_eq := h.source_eq
  depth_eq := h.depth_eq
  enters place hplace := by
    rcases List.mem_append.1 hplace with hplace | hplace
    · exact h.enters place hplace
    · rw [List.mem_singleton.1 hplace]
      trivial
  wellFormed := Json.wellFormedItems_iff.1 h.wellFormed value (List.mem_of_getElem? hvalue)
  found := by
    obtain ⟨file, document, hfile, hopening, hdocument, hfind⟩ := h.found
    exact ⟨file, document, hfile, hopening, hdocument, Position.find?_item hfind hvalue⟩

theorem field {fields : Fields Json} {key : String} {value : Json}
    (h : Stands tree openings via source position (.map fields))
    (hkey : key = "pipe" ∨ key = "init") (hvalue : (key, value) ∈ fields) :
    Stands tree openings via source (position.field key) value where
  source_eq := h.source_eq
  depth_eq := h.depth_eq
  enters place hplace := by
    rcases List.mem_append.1 hplace with hplace | hplace
    · exact h.enters place hplace
    · rw [List.mem_singleton.1 hplace]
      exact hkey
  wellFormed := Json.wellFormedFields_iff.1 h.wellFormed.2 _ hvalue
  found := by
    obtain ⟨file, document, hfile, hopening, hdocument, hfind⟩ := h.found
    have hget := Fields.get?_of_mem h.wellFormed.1 hvalue
    exact ⟨file, document, hfile, hopening, hdocument, Position.find?_field hfind hget⟩

/-- The document of a file that has just been opened. -/
theorem root {name directory : String} {file : Location} {below : List Location} {document : Json}
    (hfile : tree.locate name = .ok file) (hdocument : tree.documentAt? file = some document)
    (hdepth : below.length = via.length) (hopening : ⟨file, below.length⟩ ∈ openings) :
    Stands tree openings via ⟨name, directory, file :: below⟩ ⟨name, []⟩ document where
  source_eq := rfl
  depth_eq := congrArg (· + 1) hdepth
  enters _ hplace := absurd hplace List.not_mem_nil
  wellFormed := FileTree.wellFormed_of_documentAt? hdocument
  found := ⟨file, document, hfile, hdepth ▸ hopening, hdocument, rfl⟩

end Stands

/-- What an include of a spot leads to stands in a file that has been opened below it. -/
theorem Spot.exists_included? {tree : FileTree} {openings o o' : List Opening} {s : Spot}
    {target : Json} {i : s.source.Included tree}
    (hdepth : s.source.stack.length = s.via.length + 1)
    (hr : (s.source.follow tree target s.position).run o = .ok (i, o'))
    (hsub : o' <+: openings) :
    let l : Listing := ⟨s.via ++ [s.position], i.source, i.source.root, i.items⟩
    s.included? tree target = some l ∧
      Stands tree openings l.via l.source l.position (.list l.items) := by
  intro l
  constructor
  · obtain ⟨opened, hnil, -⟩ := (appends_follow s.source target s.position).exists_run_nil hr
    rw [included?, hnil]
  · obtain ⟨path, file, rfl, htarget, -, hdocument, hsource, rfl⟩ := run_follow_eq_ok hr
    have hroot : i.source.root = ⟨FileTree.join s.source.directory path, []⟩ := by rw [hsource]; rfl
    simp only [l, hroot]
    rw [hsource]
    refine .root (target?_string_eq_some_iff.1 htarget) hdocument ?_ (hsub.subset (by simp))
    rw [hdepth, List.length_append, List.length_singleton]

/-! ### The list below a mapping -/

namespace Spot

variable {tree : FileTree} {s : Spot} {items : List Json}

theorem list?_of_include {target : Json} (h : Fields.get? "include" s.fields = some target) :
    s.list? tree = s.included? tree target := by
  rw [list?, h]

theorem list?_of_pipe (hkeys : (Fields.keys s.fields).Nodup)
    (hinclude : Fields.get? "include" s.fields = none) (h : ("pipe", .list items) ∈ s.fields) :
    s.list? tree = some ⟨s.via, s.source, s.position.field "pipe", items⟩ := by
  rw [list?, hinclude]
  simp only [under?, Fields.get?_of_mem hkeys h, Option.some_or]

theorem list?_of_init (h : s.fields = [("init", .list items)]) :
    s.list? tree = some ⟨s.via, s.source, s.position.field "init", items⟩ := by
  have hinclude : Fields.get? "include" s.fields = none := by simp [h, Fields.get?]
  have hpipe : Fields.get? "pipe" s.fields = none := by simp [h, Fields.get?]
  have hinit : Fields.get? "init" s.fields = some (.list items) := by simp [h, Fields.get?]
  rw [list?, hinclude]
  simp only [under?, hpipe, hinit, Option.none_or]

end Spot

end Sluice
