/-!
# Ends of lines

`unixLines s` : `s` with every end of a line, whether a carriage return, a line feed or both, as one
line feed.
-/

namespace ImageWorkflow.Text

/-- Every end of a line as a line feed. -/
def unixLineChars : List Char → List Char
  | [] => []
  | '\r' :: '\n' :: rest => '\n' :: unixLineChars rest
  | '\r' :: rest => '\n' :: unixLineChars rest
  | c :: rest => c :: unixLineChars rest

/-- `s` with every end of a line as a line feed. -/
def unixLines (s : String) : String := String.ofList (unixLineChars s.toList)

end ImageWorkflow.Text
