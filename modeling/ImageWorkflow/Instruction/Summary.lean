import ImageWorkflow.Instruction.Wire

/-!
# Summaries of instructions

`Instruction.summary i limit` : the parameters of `i` in one line, cut after `limit` characters.
-/

namespace ImageWorkflow

namespace Text

/-- `s` itself when it has at most `limit` characters; else its start and three dots.  A negative
limit counts the characters dropped at the end. -/
def abbreviate (s : String) (limit : Int) : String :=
  let cs := s.toList
  if (cs.length : Int) ≤ limit then s
  else
    let kept := if 0 ≤ limit then limit.toNat else cs.length - limit.natAbs
    String.ofList (cs.take kept) ++ "..."

end Text

/-- How many characters of a summary are shown when no limit is given. -/
def defaultSummaryLimit : Int := 50

/-- The parameters of an instruction in one line. -/
def Instruction.summary (i : Instruction) (limit : Int := defaultSummaryLimit) : String :=
  match i.payload with
  | .bool true => i.kind.title
  | .str s => if s = "" then "(empty)" else Text.abbreviate s limit
  | .object [] => "(default)"
  | .object members =>
    let items := members.map fun member => member.1 ++ ": " ++ member.2.display
    Text.abbreviate (", ".intercalate items) limit
  | value => value.display

end ImageWorkflow
