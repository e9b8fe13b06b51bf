import ImageWorkflow.Engine.Report

/-!
# The log of a run

`Event.logLines` : one line for each visit that has ended.  `Event.lastFractions` : how far the
generation of each instruction has got, by what was reported last.
-/

namespace ImageWorkflow.Event

/-- The lines of the log; `time` is the time of day. -/
def logLines (events : List Event) (time : String) : List String :=
  events.filterMap fun event => match event with
    | .completed entry _ => some (entry.logLine time)
    | _ => none

/-- Take note of how far the generation of an instruction has got. -/
def noteFraction (fractions : List (Nat × Binary64)) : Event → List (Nat × Binary64)
  | .progress index p =>
    match p.fraction? with
    | some fraction => (index, fraction) :: fractions.filter (·.1 ≠ index)
    | none => fractions
  | _ => fractions

/-- How far the generation of each instruction has got, in the order of the instructions. -/
def lastFractions (events : List Event) : List (Nat × Binary64) :=
  (events.foldl noteFraction []).mergeSort fun a b => a.1 ≤ b.1

end ImageWorkflow.Event
