import ImageWorkflow.Json.Basic
import ImageWorkflow.Number.Shortest
import ImageWorkflow.Text.Quoted

/-!
# Writing JSON text

`Json.compact` : no white space, members in their order.  `Json.pretty` : two spaces of indentation
for each level, members in their order or (`sorted`) by key, in code point order.  Both escape the
quote, the backslash and the characters below U+0020 only.
-/

namespace ImageWorkflow

namespace Json

/-- One character inside a JSON string. -/
def escapedChar (c : Char) : String :=
  match c with
  | '"' => "\\\""
  | '\\' => "\\\\"
  | '\n' => "\\n"
  | '\r' => "\\r"
  | '\t' => "\\t"
  | '\x0c' => "\\f"
  | '\x08' => "\\b"
  | c => if c.toNat < 32 then "\\u" ++ Text.hexPadded 4 c.toNat else c.toString

/-- A JSON string. -/
def stringText (s : String) : String :=
  "\"" ++ s.foldl (fun acc c => acc ++ escapedChar c) "" ++ "\""

/-- A JSON number, with the three words for the values that have no digits. -/
def floatText : Binary64 → String
  | .nan => "NaN"
  | .infinity negative => if negative then "-Infinity" else "Infinity"
  | x => x.text

mutual

/-- The text without white space. -/
def compact : Json → String
  | .null => "null"
  | .bool b => if b then "true" else "false"
  | .int n => toString n
  | .float x => floatText x
  | .str s => stringText s
  | .array items => "[" ++ ",".intercalate (compactItems items) ++ "]"
  | .object members => "\x7b" ++ ",".intercalate (compactMembers members) ++ "\x7d"

/-- The texts of the items. -/
def compactItems : List Json → List String
  | [] => []
  | item :: rest => compact item :: compactItems rest

/-- The texts of the members. -/
def compactMembers : List (String × Json) → List String
  | [] => []
  | (key, value) :: rest => (stringText key ++ ":" ++ compact value) :: compactMembers rest

end

mutual

/-- The value with the members of every object in key order. -/
def sortKeys : Json → Json
  | .array items => .array (sortItems items)
  | .object members => .object ((sortMembers members).mergeSort fun a b => a.1 ≤ b.1)
  | value => value

/-- `sortKeys` on each item. -/
def sortItems : List Json → List Json
  | [] => []
  | item :: rest => sortKeys item :: sortItems rest

/-- `sortKeys` on each member's value. -/
def sortMembers : List (String × Json) → List (String × Json)
  | [] => []
  | (key, value) :: rest => (key, sortKeys value) :: sortMembers rest

end

/-- A line feed and the indentation of a level. -/
def lineStart (depth : Nat) : String := "\n" ++ String.ofList (List.replicate (2 * depth) ' ')

mutual

/-- The indented text of a value that stands at level `depth`. -/
def prettyAt (depth : Nat) : Json → String
  | .array [] => "[]"
  | .array items =>
    let start := lineStart (depth + 1)
    "[" ++ start ++ ("," ++ start).intercalate (prettyItems (depth + 1) items) ++
      lineStart depth ++ "]"
  | .object [] => "\x7b\x7d"
  | .object members =>
    let start := lineStart (depth + 1)
    "\x7b" ++ start ++ ("," ++ start).intercalate (prettyMembers (depth + 1) members) ++
      lineStart depth ++ "\x7d"
  | .null => "null"
  | .bool b => if b then "true" else "false"
  | .int n => toString n
  | .float x => floatText x
  | .str s => stringText s

/-- The indented texts of the items. -/
def prettyItems (depth : Nat) : List Json → List String
  | [] => []
  | item :: rest => prettyAt depth item :: prettyItems depth rest

/-- The indented texts of the members. -/
def prettyMembers (depth : Nat) : List (String × Json) → List String
  | [] => []
  | (key, value) :: rest =>
    (stringText key ++ ": " ++ prettyAt depth value) :: prettyMembers depth rest

end

/-- The indented text, members in their order. -/
def pretty (value : Json) : String := prettyAt 0 value

/-- The indented text, members in key order. -/
def prettySorted (value : Json) : String := prettyAt 0 value.sortKeys

end Json

end ImageWorkflow
