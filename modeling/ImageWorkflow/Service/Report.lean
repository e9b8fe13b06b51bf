import ImageWorkflow.Engine.Report

/-!
# Reports as objects

`RunReport.toJson` : the object of a report.  What only the clock and chance decide, times and the
names of instructions, comes from outside (`Stamps`).
-/

namespace ImageWorkflow

/-- What the clock and chance decide in a report. -/
structure Stamps where
  /-- The name of the instruction at an index. -/
  instruction : Nat → String
  /-- The time of a visit, or of an image. -/
  time : String
  /-- How long something took. -/
  duration : Json
  /-- How long the run took, in seconds. -/
  seconds : String

/-- The object of an entry. -/
def Entry.toJson (e : Entry) (stamps : Stamps) : Json :=
  .object [("index", .int e.index), ("id", .str (stamps.instruction e.index)),
    ("key", .str e.kind.key), ("title", .str e.kind.title), ("icon", .str e.kind.icon),
    ("outcome", .str e.outcome.word), ("message", .str e.message),
    ("iteration", match e.iteration with
      | some k => .int k
      | none => .null),
    ("timestamp", .str stamps.time), ("duration", stamps.duration)]

/-- The object of an image. -/
def GeneratedImage.toJson (i : GeneratedImage) (stamps : Stamps) : Json :=
  .object [("prompt", .str i.prompt), ("negative_prompt", .str i.negativePrompt),
    ("config", .object i.parameters), ("instruction_index", .int i.index),
    ("file_path", match i.savedAt with
      | some path => .str path.text
      | none => .null),
    ("width", .int i.image.width), ("height", .int i.image.height),
    ("generated_at", .str stamps.time)]

/-- The object of a report. -/
def RunReport.toJson (r : RunReport) (stamps : Stamps) : Json :=
  .object [("status", .str r.status.word), ("success", .bool r.succeeded),
    ("executed_count", .int (r.count .executed)), ("skipped_count", .int (r.count .skipped)),
    ("failed_count", .int (r.count .failed)), ("duration", stamps.duration),
    ("fatal_error", match r.fatalError with
      | some error => .str error
      | none => .null),
    ("summary", .str (r.summary stamps.seconds)),
    ("results", .array (r.entries.map (·.toJson stamps))),
    ("images", .array (r.images.map (·.toJson stamps)))]

end ImageWorkflow
