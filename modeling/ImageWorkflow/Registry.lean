import ImageWorkflow.Text.Quoted

/-!
# Registries

`Registry α` : things of one kind by name.  A later registration under a name replaces the earlier
one.  `Registry.find` gives the thing with a name, or says which names there are.
-/

namespace ImageWorkflow

/-- Things of one kind by name. -/
structure Registry (α : Type) where
  /-- What the things are called. -/
  noun : String
  entries : List (String × α) := []

/-- Nothing has the name. -/
structure UnknownName where
  /-- What the things are called. -/
  noun : String
  name : String
  available : List String
  deriving DecidableEq, Repr

/-- The wording, between quotes. -/
def UnknownName.message (u : UnknownName) : String :=
  let noun := u.noun.toList
  let capital := String.ofList (noun.take 1 |>.map Char.toUpper) ++ String.ofList (noun.drop 1)
  Text.quote <| s!"{capital} '{u.name}' not found. Available {u.noun}s: " ++
    ", ".intercalate u.available

namespace Registry
variable {α : Type}

/-- Add a thing, in place of the one that has the name already. -/
def register (r : Registry α) (name : String) (thing : α) : Registry α :=
  { r with entries := (name, thing) :: r.entries.filter (·.1 ≠ name) }

/-- The names in code point order. -/
def names (r : Registry α) : List String := (r.entries.map (·.1)).mergeSort fun a b => a ≤ b

/-- The thing with a name. -/
def get? (r : Registry α) (name : String) : Option α := r.entries.lookup name

/-- The thing with a name, or which names there are. -/
def find (r : Registry α) (name : String) : Except UnknownName α :=
  match r.get? name with
  | some thing => .ok thing
  | none => .error ⟨r.noun, name, r.names⟩

end Registry

end ImageWorkflow
