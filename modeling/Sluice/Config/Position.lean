import Sluice.Json.Basic

/-!
# Positions

Where an entry of a configuration stands: the name of its document and the way through lists and
mappings that leads to it.  `Position.find?` goes that way.
-/

namespace Sluice

/-- One step into a document: the item of a list or the field of a mapping. -/
inductive Place where
  | item (index : Nat)
  | field (name : String)
deriving DecidableEq, Repr

/-- A document and a way into it. -/
structure Position where
  source : String
  path : List Place
deriving DecidableEq, Repr

namespace Position

def item (p : Position) (index : Nat) : Position := { p with path := p.path ++ [.item index] }

def field (p : Position) (name : String) : Position := { p with path := p.path ++ [.field name] }

def placeText : Place → String
  | .item index => "/" ++ toString index
  | .field name => "/" ++ name

/-- The text of a position: the name of the document, a colon and the way. -/
def text (p : Position) : String :=
  p.source ++ ":" ++ if p.path.isEmpty then "/" else String.join (p.path.map placeText)

def go? : Json → Place → Option Json
  | .list items, .item index => items[index]?
  | .map fields, .field name => Fields.get? name fields
  | _, _ => none

/-- What stands at a position of a document. -/
def find? (p : Position) (document : Json) : Option Json := p.path.foldlM go? document

end Position

end Sluice
