import ImageWorkflow.Number.Binary64

/-!
# Progress of a generation

`Progress` : the stage a generation has reached.  `Progress.fraction?` : the part of it that is
done; the quotient of two steps may lie past every number.  `Progress.description` : the stage in
words.
-/

namespace ImageWorkflow

/-- The stages of a generation. -/
inductive Stage where
  | starting
  | sampling
  | decoding
  | complete
  | failed
  deriving DecidableEq, Repr

namespace Stage

/-- The word for a stage. -/
def word : Stage → String
  | .starting => "starting"
  | .sampling => "sampling"
  | .decoding => "decoding"
  | .complete => "complete"
  | .failed => "failed"

/-- The stage with a word. -/
def ofWord? (word : String) : Option Stage :=
  [starting, sampling, decoding, complete, failed].find? (·.word == word)

end Stage

/-- The complaint about a quotient past every number. -/
def quotientTooLargeMessage : String := "integer division result too large for a float"

/-- The stage a generation has reached. -/
structure Progress where
  stage : Stage
  step : Int := 0
  totalSteps : Int := 0
  message : String := ""
  deriving DecidableEq, Repr

namespace Progress

/-- The part of the generation that is done. -/
def fraction? (p : Progress) : Option Binary64 :=
  match p.stage with
  | .sampling =>
    let x := Binary64.ofRat (p.step / max p.totalSteps 1 : Rat)
    if x.isFinite then some x else none
  | .decoding => some (Binary64.ofRat (95 / 100))
  | .complete => some (Binary64.ofRat 1)
  | .starting | .failed => some Binary64.zero

/-- The stage in words. -/
def description (p : Progress) : String :=
  match p.stage with
  | .starting => "Starting..."
  | .sampling => s!"Sampling {p.step}/{p.totalSteps}"
  | .decoding => "Decoding image..."
  | .complete => "Complete"
  | .failed => s!"Failed: {p.message}"

end Progress

end ImageWorkflow
