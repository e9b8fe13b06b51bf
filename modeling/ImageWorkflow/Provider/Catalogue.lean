import ImageWorkflow.Provider.Basic

/-!
# Catalogues of models and adapters

`Catalogue` : one of the two catalogues that a backend has.  `Catalogue.entries` : the entries of
the value that the backend answers with.  The value is a list of entries, or an object with a list
of names or a list of objects with names; whatever is of another shape is passed over.
-/

namespace ImageWorkflow

namespace Members

/-- The text of the member `key`. -/
def text? (members : Members) (key : String) : Option String := (members.get? key).bind Json.str?

/-- The items of the member `key`. -/
def items? (members : Members) (key : String) : Option (List Json) :=
  match members.get? key with
  | some (.array items) => some items
  | _ => none

/-- The member `key`, or the given text where it counts as nothing. -/
def valueOr (members : Members) (key fallback : String) : Json :=
  match members.get? key with
  | some value => if value.isTruthy then value else .str fallback
  | none => .str fallback

end Members

/-- The catalogues that a backend has. -/
inductive Catalogue where
  | models
  | loras
  deriving DecidableEq, Repr

namespace Catalogue

/-- The path of a catalogue. -/
def path : Catalogue → String
  | .models => "/sdapi/v1/sd-models"
  | .loras => "/sdapi/v1/loras"

/-- The member with the names, where the answer is an object. -/
def listKey : Catalogue → String
  | .models => "models"
  | .loras => "loras"

/-- The entry for a model's members. -/
def modelOf? (m : Members) : Option CatalogueEntry :=
  match m.text? "title", m.text? "model_name", m.text? "name" with
  | some title, _, _ => some { filename := m.valueOr "model_name" title, name := .str title }
  | none, some file, _ => some { filename := .str file }
  | none, none, some name => some { filename := m.valueOr "filename" name, name := .str name }
  | none, none, none => none

/-- The entry for an adapter's members. -/
def loraOf? (m : Members) : Option CatalogueEntry :=
  match m.text? "name", m.text? "alias" with
  | some name, _ => some { filename := m.valueOr "path" name, name := .str name }
  | none, some file => some { filename := .str file }
  | none, none => none

/-- The entry for an item of a list. -/
def itemOf? (c : Catalogue) : Json → Option CatalogueEntry
  | .str file => some { filename := .str file }
  | .object m => match c with
    | .models => modelOf? m
    | .loras => loraOf? m
  | _ => none

/-- The entry for a name in a list of names. -/
def nameOf? (item : Json) : Option CatalogueEntry :=
  item.str?.map fun file => { filename := .str file }

/-- The entry for an object with a name. -/
def datumOf? (item : Json) : Option CatalogueEntry :=
  (item.get? "name").bind nameOf?

/-- The entries of a backend's answer. -/
def entries (c : Catalogue) : Json → List CatalogueEntry
  | .array items => items.filterMap c.itemOf?
  | .object m =>
    match Members.items? m c.listKey, Members.items? m "data" with
    | some names, _ => names.filterMap nameOf?
    | none, some data => data.filterMap datumOf?
    | none, none => []
  | _ => []

end Catalogue

end ImageWorkflow
