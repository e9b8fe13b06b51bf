import ImageWorkflow.Json.Basic
import ImageWorkflow.Number.Shortest
import ImageWorkflow.Text.Quoted

/-!
# Values in messages

`Json.literal` : a value as it is quoted in messages, strings in quotes.  `Json.display` : the same,
but a value that is itself a string stands without quotes.
-/

namespace ImageWorkflow.Json

mutual

/-- A value as a literal. -/
def literal : Json → String
  | .null => "None"
  | .bool b => if b then "True" else "False"
  | .int n => toString n
  | .float x => x.text
  | .str s => Text.quote s
  | .array items => "[" ++ ", ".intercalate (literalItems items) ++ "]"
  | .object members => "\x7b" ++ ", ".intercalate (literalMembers members) ++ "\x7d"

/-- The literals of the items. -/
def literalItems : List Json → List String
  | [] => []
  | item :: rest => literal item :: literalItems rest

/-- The literals of the members. -/
def literalMembers : List (String × Json) → List String
  | [] => []
  | (key, value) :: rest => (Text.quote key ++ ": " ++ literal value) :: literalMembers rest

end

/-- A value in running text. -/
def display : Json → String
  | .str s => s
  | value => value.literal

end ImageWorkflow.Json
