import ImageWorkflow.Workflow.Basic
import ImageWorkflow.Text.Blank
import ImageWorkflow.Text.Extension

/-!
# Validation

`Workflow.validate` : one walk over the instructions, in order, each loop body once.  The walk keeps
what is known so far (`Walk`): the loops still open, whether there is a prompt, a canvas, how many
moodboard entries.  Problems are `Issue`s: errors, which may stop a run, and warnings.
`validatePayload` decodes the items of an array first; an item that is refused is an error at its
index.
-/

namespace ImageWorkflow

/-- A problem found in a workflow. -/
inductive Issue where
  /-- The payload is not an array. -/
  | notAnArray
  /-- An item is no instruction. -/
  | invalidInstruction (error : DecodeError)
  | unsupported (kind : Kind)
  /-- The loop runs its body zero times. -/
  | emptyLoop (count : Int)
  | unexpectedLoopEnd
  | outsideLoop (kind : Kind)
  | unclosedLoop
  /-- A config between a generation and the next prompt of one loop body. -/
  | configAfterGeneration
  | missingPath (kind : Kind)
  | notAnImage (path : String)
  | missingWeights (indices : List Nat)
  | saveNotPng (filename : String)
  | stemWithExtension (stem : String)
  | nothingToGenerate (kind : Kind)
  | noPrompt
  | noGeneration
  | noConfig

namespace Issue

/-- The code of a problem. -/
def code : Issue → String
  | .notAnArray => "invalid_structure"
  | .invalidInstruction _ => "invalid_instruction"
  | .unsupported _ => "unsupported"
  | .emptyLoop _ => "loop_count"
  | .unexpectedLoopEnd => "unexpected_loop_end"
  | .outsideLoop _ => "outside_loop"
  | .unclosedLoop => "unclosed_loop"
  | .configAfterGeneration => "config_after_generation"
  | .missingPath _ | .notAnImage _ => "invalid_file_path"
  | .missingWeights _ => "moodboard_index"
  | .saveNotPng _ | .stemWithExtension _ => "invalid_filename"
  | .nothingToGenerate _ => "nothing_to_generate"
  | .noPrompt => "no_prompt"
  | .noGeneration => "no_generation"
  | .noConfig => "no_config"

/-- The wording of a problem. -/
def message : Issue → String
  | .notAnArray => "Workflow must be a list of instructions"
  | .invalidInstruction error => error.message
  | .unsupported kind => s!"'{kind.key}' will be skipped: {kind.supportReason}"
  | .emptyLoop count => s!"Loop count {count} runs the body zero times"
  | .unexpectedLoopEnd => "loopEnd without matching loop"
  | .outsideLoop kind => s!"'{kind.key}' must be inside a loop"
  | .unclosedLoop => "Loop is never closed by loopEnd"
  | .configAfterGeneration =>
    "Config change after a generation in the same loop body applies from the next generation"
  | .missingPath kind => s!"'{kind.key}' requires a file path"
  | .notAnImage path => s!"'{path}' is not an image file"
  | .missingWeights indices =>
    "No moodboard entry for index " ++ ", ".intercalate (indices.map toString) ++ " at this point"
  | .saveNotPng filename => s!"Save filename '{filename}' must end in .png"
  | .stemWithExtension stem =>
    s!"loopSave prefix '{stem}' already has an extension; '<index>.png' is appended"
  | .nothingToGenerate kind => s!"'{kind.key}' has no prompt, canvas or moodboard to work from"
  | .noPrompt => "Workflow sets no prompt"
  | .noGeneration => "Workflow never generates or saves an image"
  | .noConfig => "Workflow never sets a generation config"

end Issue

/-- A problem and the index of the instruction it is about, if it is about one. -/
structure Located where
  issue : Issue
  index : Option Nat

/-- A problem in one line. -/
def Located.line (l : Located) : String :=
  match l.index with
  | none => l.issue.message
  | some index => s!"Instruction {index}: {l.issue.message}"

/-- The problems of a workflow. -/
structure Report where
  errors : List Located := []
  warnings : List Located := []

namespace Report

/-- No errors. -/
def isValid (r : Report) : Bool := r.errors.isEmpty

/-- No problems at all. -/
def isPerfect (r : Report) : Bool := r.errors.isEmpty && r.warnings.isEmpty

/-- The numbers of problems in words. -/
def summary (r : Report) : String :=
  if r.isPerfect then "Valid"
  else if r.isValid then s!"{r.warnings.length} warning(s)"
  else s!"{r.errors.length} error(s), {r.warnings.length} warning(s)"

/-- Why a run is refused. -/
def refusal (r : Report) : String :=
  let first := match r.errors with
    | [] => "unknown error"
    | error :: _ => error.line
  s!"Workflow has {r.errors.length} validation error(s); first: {first}"

/-- One more error. -/
def error (r : Report) (issue : Issue) (index : Option Nat) : Report :=
  { r with errors := r.errors ++ [⟨issue, index⟩] }

/-- One more warning. -/
def warn (r : Report) (issue : Issue) (index : Option Nat) : Report :=
  { r with warnings := r.warnings ++ [⟨issue, index⟩] }

/-- A problem's object. -/
def itemJson (severity : String) (l : Located) : Json :=
  .object [("code", .str l.issue.code), ("message", .str l.issue.message),
    ("index", match l.index with
      | none => .null
      | some index => .int index),
    ("severity", .str severity)]

/-- The report's object. -/
def toJson (r : Report) : Json :=
  .object [("is_valid", .bool r.isValid), ("is_perfect", .bool r.isPerfect),
    ("summary", .str r.summary), ("errors", .array (r.errors.map (itemJson "error"))),
    ("warnings", .array (r.warnings.map (itemJson "warning")))]

end Report

/-- A loop still open in the walk. -/
structure OpenLoop where
  /-- Where the loop starts. -/
  index : Nat
  /-- Whether its own body has a generation after its last own prompt. -/
  generated : Bool := false
  deriving DecidableEq, Repr

/-- What the walk knows before an instruction. -/
structure Walk where
  /-- The loops still open, innermost first. -/
  openLoops : List OpenLoop := []
  hasPrompt : Bool := false
  hasCanvas : Bool := false
  moodboardSize : Nat := 0
  sawPrompt : Bool := false
  sawTrigger : Bool := false
  sawConfig : Bool := false

namespace Walk

/-- Note in the innermost open loop whether a generation counts as pending. -/
def setGenerated (w : Walk) (generated : Bool) : Walk :=
  match w.openLoops with
  | [] => w
  | innermost :: outer => { w with openLoops := { innermost with generated } :: outer }

/-- What is known after an instruction. -/
def next (w : Walk) (index : Nat) (i : Instruction) : Walk :=
  match i with
  | .loop .. => { w with openLoops := { index } :: w.openLoops }
  | .loopEnd => { w with openLoops := w.openLoops.tail }
  | .prompt text =>
    let hasPrompt := !Text.isBlankText text
    { w with hasPrompt, sawPrompt := w.sawPrompt || hasPrompt }.setGenerated false
  | .config _ => { w with sawConfig := true }
  | .canvasLoad _ | .loopLoad _ | .depthToCanvas => { w with hasCanvas := true }
  | .canvasClear => { w with hasCanvas := false }
  | .moodboardAdd _ | .loopAddMoodboard _ => { w with moodboardSize := w.moodboardSize + 1 }
  | .moodboardCanvas =>
    { w with moodboardSize := w.moodboardSize + if w.hasCanvas then 1 else 0 }
  | .moodboardRemove _ => { w with moodboardSize := w.moodboardSize - 1 }
  | .moodboardClear => { w with moodboardSize := 0 }
  | .generate | .canvasSave _ | .loopSave _ =>
    { w with sawTrigger := true, hasCanvas := true }.setGenerated true
  | _ => w

/-- The errors at an instruction. -/
def errors (w : Walk) (i : Instruction) : List Issue :=
  (match i with
    | .loopEnd => if w.openLoops.isEmpty then [.unexpectedLoopEnd] else []
    | i => if i.isLoopScoped && w.openLoops.isEmpty then [.outsideLoop i.kind] else []) ++
  (match i.loadedFile? with
    | some path =>
      if Text.isBlankText path then [.missingPath i.kind]
      else if !Text.hasImageExtension path then [.notAnImage path]
      else []
    | none => []) ++
  (match i with
    | .canvasSave filename => if Text.endsIn filename ".png" then [] else [.saveNotPng filename]
    | .loopSave stem => if Text.hasImageExtension stem then [.stemWithExtension stem] else []
    | _ => []) ++
  if i.isTrigger && !w.hasPrompt && !w.hasCanvas && w.moodboardSize == 0 then
    [.nothingToGenerate i.kind]
  else []

/-- The warnings at an instruction. -/
def warnings (w : Walk) (i : Instruction) : List Issue :=
  (if i.kind.support = .unsupported then [.unsupported i.kind] else []) ++
  match i with
  | .loop count _ => if count < 1 then [.emptyLoop count] else []
  | .config _ =>
    match w.openLoops with
    | innermost :: _ => if innermost.generated then [.configAfterGeneration] else []
    | [] => []
  | .moodboardWeights weights =>
    let missing := (weights.map (·.1)).filter (w.moodboardSize ≤ ·)
    if missing.isEmpty then [] else [.missingWeights missing]
  | _ => []

end Walk

namespace Workflow

/-- The walk over the instructions from index `index` on: what is known at the end, the errors and
the warnings. -/
def walk (w : Walk) (index : Nat) : Workflow → Walk × List Located × List Located
  | [] => (w, [], [])
  | i :: rest =>
    let place := fun issue => (⟨issue, some index⟩ : Located)
    let (last, errors, warnings) := walk (w.next index i) (index + 1) rest
    (last, (w.errors i).map place ++ errors, (w.warnings i).map place ++ warnings)

/-- The problems of a workflow. -/
def validate (w : Workflow) : Report :=
  let (last, errors, warnings) := walk {} 0 w
  let unclosed := last.openLoops.reverse.map fun l => (⟨.unclosedLoop, some l.index⟩ : Located)
  let missing (seen : Bool) (issue : Issue) : List Located :=
    if w.isEmpty || seen then [] else [⟨issue, none⟩]
  { errors := errors ++ unclosed
    warnings := warnings ++ missing last.sawPrompt .noPrompt ++
      missing last.sawTrigger .noGeneration ++ missing last.sawConfig .noConfig }

/-- Decode items from index `index` on: the instructions, and an error for each that is refused. -/
def decodeItems (index : Nat) : List Json → Except DecodeFailure (Workflow × List Located)
  | [] => .ok ([], [])
  | item :: rest =>
    match Instruction.ofWire item with
    | .ok i => do
      let (instructions, errors) ← decodeItems (index + 1) rest
      return (i :: instructions, errors)
    | .error (.refused error) => do
      let (instructions, errors) ← decodeItems (index + 1) rest
      return (instructions, ⟨.invalidInstruction error, some index⟩ :: errors)
    | .error cause => .error cause

/-- Decode and validate a wire value; without instructions if an item is refused. -/
def validatePayload : Json → Except DecodeFailure (Option Workflow × Report)
  | .array items => do
    let (instructions, errors) ← decodeItems 0 items
    if errors.isEmpty then return (some instructions, validate instructions)
    else return (none, { errors })
  | _ => .ok (none, { errors := [⟨.notAnArray, none⟩] })

end Workflow

end ImageWorkflow
