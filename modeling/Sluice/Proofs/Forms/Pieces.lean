import Sluice.Proofs.Forms

/-!
# The pieces of a query

A query is cut at every `&`; each piece that is not empty gives one value to one name, whatever it
looks like.  So queries that are read one after the other give what they give together, and the
number of values grows by the number of pieces.

* `Form.pieces`, `Form.nameOf`, `Form.valueOf`: what is cut, and what a piece stands for.
* `Request.values`: the values of all names.
-/

namespace Sluice

/-! ## Cutting -/

theorem Text.splitWhen_eq_splitOnP (p : Char → Bool) (cs : List Char) :
    splitWhen p cs = cs.splitOnP p := by
  induction cs with
  | nil => rfl
  | cons c cs ih =>
    obtain ⟨part, parts, hparts⟩ := List.exists_cons_of_ne_nil (List.splitOnP_ne_nil p cs)
    rw [splitWhen, List.splitOnP_cons_eq_if_modifyHead, ih, hparts]
    rfl

namespace Form

/-- The parts of a query between its `&`, without the empty ones. -/
def pieces (query : String) : List (List Char) :=
  (query.toList.splitOn '&').filter fun piece => ¬ piece.isEmpty

/-- The name of a piece: what stands in front of its first `=`, or all of it. -/
def nameOf (piece : List Char) : String := decode (piece.takeWhile (· ≠ '='))

/-- The value of a piece: what stands behind its first `=`. -/
def valueOf (piece : List Char) : String := decode (piece.dropWhile (· ≠ '=')).tail

theorem decode_nil : decode [] = "" := by
  have hempty : Text.encode (String.ofList []) = [] := by rw [Text.encode_eq]; rfl
  have hdecode : Text.decode (Text.encode "") = "" := Text.decode_encode ""
  unfold decode
  rw [List.map_nil, hempty]
  rwa [show Text.encode "" = [] from hempty] at hdecode

theorem pair_eq (piece : List Char) : pair piece = (nameOf piece, valueOf piece) := by
  unfold pair nameOf valueOf Text.splitOnce?
  cases hrest : piece.dropWhile (· ≠ '=') with
  | nil =>
    -- without `=` the name is the whole piece
    have hwhole : piece.takeWhile (· ≠ '=') = piece := by
      have hsplit := List.takeWhile_append_dropWhile (p := fun c => decide (c ≠ '=')) (l := piece)
      rwa [hrest, List.append_nil] at hsplit
    rw [hwhole]
    exact congrArg (Prod.mk (decode piece)) decode_nil.symm
  | cons c rest => rfl

/-- What is read of a query, piece by piece. -/
theorem read_eq (query : String) :
    read query = (pieces query).map fun piece => (nameOf piece, valueOf piece) := by
  unfold read pieces Text.splitAt
  rw [Text.splitWhen_eq_splitOnP]
  exact List.map_congr_left fun piece _ => pair_eq piece

theorem keys_read (query : String) : (read query).map (·.1) = (pieces query).map nameOf := by
  rw [read_eq, List.map_map]
  rfl

theorem valuesOf_read (name query : String) :
    valuesOf name (read query) =
      ((pieces query).filter fun piece => nameOf piece = name).map valueOf := by
  rw [valuesOf, read_eq, List.filter_map, List.map_map]
  rfl

end Form

/-! ## Counting -/

namespace Request

def values (r : Request) : List String := r.query.entries.flatMap (·.2)

theorem flatMap_adjustEntries_perm (name value : String) (entries : List (String × List String)) :
    ((Index.adjustEntries name (fun values => values.getD [] ++ [value]) entries).flatMap
      (·.2)).Perm (entries.flatMap (·.2) ++ [value]) := by
  induction entries with
  | nil => exact .refl _
  | cons entry rest ih =>
    obtain ⟨key, old⟩ := entry
    unfold Index.adjustEntries
    by_cases hbefore : name < key
    · rw [if_pos hbefore]
      have hcomm : ([value] ++ ((key, old) :: rest).flatMap (·.2)).Perm
          (((key, old) :: rest).flatMap (·.2) ++ [value]) := List.perm_append_comm
      exact hcomm
    · rw [if_neg hbefore]
      by_cases hsame : name = key
      · rw [if_pos hsame]
        simp only [List.flatMap_cons, Option.getD_some, List.append_assoc]
        exact .append_left old List.perm_append_comm
      · rw [if_neg hsame]
        simp only [List.flatMap_cons, List.append_assoc]
        exact .append_left old ih

/-- A value that is added is there, and so are those that were. -/
theorem values_withQuery_perm (r : Request) (name value : String) :
    (r.withQuery name value).values.Perm (r.values ++ [value]) :=
  flatMap_adjustEntries_perm name value r.query.entries

theorem values_foldl_withQuery_perm (pairs : List (String × String)) (r : Request) :
    (pairs.foldl (fun r entry => r.withQuery entry.1 entry.2) r).values.Perm
      (r.values ++ pairs.map (·.2)) := by
  induction pairs generalizing r with
  | nil => simp
  | cons entry pairs ih =>
    have hfirst := (values_withQuery_perm r entry.1 entry.2).append_right (pairs.map (·.2))
    rw [List.append_assoc, List.singleton_append] at hfirst
    exact (ih (r.withQuery entry.1 entry.2)).trans hfirst

theorem withQueryString_append (r : Request) (first second : String) :
    (r.withQueryString first).withQueryString second =
      r.withQueryString (first ++ "&" ++ second) := by
  unfold withQueryString
  rw [Form.read_append, List.foldl_append]

/-- Queries that are read one after the other give what they give with `&` between them.  Each piece
of a query adds one value, behind those that its name has, and the names of no piece keep theirs. -/
theorem withQueryString_adds_pieces :
    (∀ (r : Request) (first second : String),
      (r.withQueryString first).withQueryString second =
        r.withQueryString (first ++ "&" ++ second)) ∧
    ∀ (r : Request) (query : String),
      (r.withQueryString query).values.length = r.values.length + (Form.pieces query).length ∧
      (r.withQueryString query).values.Perm (r.values ++ (Form.pieces query).map Form.valueOf) ∧
      ∀ name, (r.withQueryString query).query.get? name =
        if name ∈ (Form.pieces query).map Form.nameOf then
          some ((r.query.get? name).getD [] ++
            ((Form.pieces query).filter fun piece => Form.nameOf piece = name).map Form.valueOf)
        else r.query.get? name := by
  refine ⟨withQueryString_append, fun r query => ?_⟩
  have hperm : (r.withQueryString query).values.Perm
      (r.values ++ (Form.pieces query).map Form.valueOf) := by
    have hpairs := values_foldl_withQuery_perm (Form.read query) r
    rwa [Form.read_eq, List.map_map, ← Form.read_eq] at hpairs
  refine ⟨?_, hperm, fun name => ?_⟩
  · have hlength := hperm.length_eq
    rwa [List.length_append, List.length_map] at hlength
  · rw [withQueryString, get?_foldl_withQuery, Form.keys_read, Form.valuesOf_read]

/-- Names that are the same once they are decoded, a piece without `=`, one with two, an empty one,
and an escape that is none. -/
example :
    let r := (Request.of "GET" "/").withQueryString "a&&%61=b=c&=%zz"
    r.query.entries = [("", ["%zz"]), ("a", ["", "b=c"])] := by
  cbv

end Request

end Sluice
