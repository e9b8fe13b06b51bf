import Mathlib
import ImageWorkflow.Proofs.Steering

/-!
# What visits do to the state

Each part of a visit, with everything it can do to the state said once.
* `RunState.Performed s i s'` : what a local instruction makes of a state
  (`RunState.performed_of_perform`);
* `Engine.render_cases`, `Engine.settleSave_cases` : what a render, and what a save before it writes,
  can come to;
* `RunState.Conducted s i done s'` : what an instruction makes of a state, whatever comes of it
  (`Engine.conducted_conduct`);
* `Engine.visit_conducted` : the same for a visit, which moves the counter and fits the mask;
  `Engine.visit_of_isDone` : what a visit that succeeds leaves.
-/

namespace ImageWorkflow

/-! ## Kinds of instructions -/

namespace Instruction

/-- The instructions that load an image onto the canvas. -/
def isLoad : Instruction → Bool
  | .canvasLoad _ | .loopLoad _ => true
  | _ => false

/-- The instructions that save the canvas. -/
def isSave : Instruction → Bool
  | .canvasSave _ | .loopSave _ => true
  | _ => false

theorem isTrigger_of_isSave {i : Instruction} (hi : i.isSave = true) : i.isTrigger = true := by
  cases i <;> first | rfl | cases hi

theorem support_of_isTrigger {i : Instruction} (hi : i.isTrigger = true) :
    i.kind.support = .full := by
  cases i <;> first | rfl | cases hi

theorem trigger_cases {i : Instruction} (hi : i.isTrigger = true) :
    i = .generate ∨ i.isSave = true := by
  cases i with
  | generate => exact .inl rfl
  | canvasSave | loopSave => exact .inr rfl
  | _ => cases hi

/-- The local instructions that change the moodboard. -/
def isMoodboard : Instruction → Bool
  | .moodboardClear | .moodboardCanvas | .moodboardAdd _ | .moodboardRemove _ | .moodboardWeights _
  | .loopAddMoodboard _ => true
  | _ => false

/-- The local instructions that replace the mask. -/
def isMask : Instruction → Bool
  | .maskClear | .maskLoad _ | .maskGet => true
  | _ => false

/-- The instructions that are carried out by `RunState.perform`. -/
def isLocal (i : Instruction) : Bool :=
  (Engine.toolTarget? i.kind).isNone && !i.isSave && i.kind != .generate

/-- Who carries out an instruction: the state itself, a tool, a render or a save. -/
theorem carrier_cases (i : Instruction) :
    i.isLocal = true ∨ (∃ target, Engine.toolTarget? i.kind = some target) ∨ i = .generate ∨
      (∃ name, i = .canvasSave name) ∨ ∃ stem, i = .loopSave stem := by
  cases i with
  | generate => exact .inr (.inr (.inl rfl))
  | canvasSave name => exact .inr (.inr (.inr (.inl ⟨name, rfl⟩)))
  | loopSave stem => exact .inr (.inr (.inr (.inr ⟨stem, rfl⟩)))
  | maskBackground | maskForeground | maskBody | maskAsk | depthExtract | poseExtract
  | removeBackground | faceZoom | askZoom => exact .inr (.inl ⟨_, rfl⟩)
  | _ => exact .inl rfl

end Instruction

/-! ## Local instructions -/

namespace RunState

/-- The size of the generations after the canvas was adapted to an image. -/
def adaptedSize (image : Image) : Settings :=
  let side (n : Nat) : Int := (max 64 (n / 64 * 64) : Nat)
  { width := some (side image.width), height := some (side image.height) }

/-- The inpainting options of an instruction. -/
def inpaintingOptions (maskBlur maskBlurOutset : Option Int) (restoreOriginal : Option Bool) :
    Inpainting :=
  { maskBlur := maskBlur.map .whole, maskBlurOutset := maskBlurOutset.map .whole, restoreOriginal }

/-- What a local instruction makes of a state when it succeeds. -/
inductive Performed (s : RunState) : Instruction → RunState → Prop
  | loop {count start : Int} (counter : Nat) (loops : List LoopFrame) :
      Performed s (.loop count start) { s with counter, loops }
  | loopEnd (counter : Nat) (loops : List LoopFrame) :
      Performed s .loopEnd { s with counter, loops, fresh := false }
  | stop (counter : Nat) : Performed s .stop { s with counter }
  | prompt (text : String) : Performed s (.prompt text) { s with prompt := text }
  | negativePrompt (text : String) :
      Performed s (.negativePrompt text) { s with negativePrompt := text }
  | config (settings : Settings) : Performed s (.config settings) (s.addSettings settings)
  | frames {count : Int} : 1 ≤ count →
      Performed s (.frames count) (s.addSettings { numFrames := some count })
  | canvasClear : Performed s .canvasClear { s with canvas := none }
  | load {i : Instruction} (image : Image) : i.isLoad = true → Performed s i (s.loadCanvas image)
  | moveScale {x y scale : Binary64} (image : Image) (mask : Option Image) :
      s.canvas.isSome = true → Performed s (.moveScale x y scale) { s.setCanvas image with mask }
  | adaptSize {maxWidth maxHeight : Int} (image : Image) : s.canvas.isSome = true →
      Performed s (.adaptSize maxWidth maxHeight)
        ((s.setCanvas image).addSettings (adaptedSize image))
  | crop (image : Image) (mask : Option Image) :
      s.canvas.isSome = true → Performed s .crop { s.setCanvas image with mask }
  | moodboard {i : Instruction} (moodboard : List MoodboardEntry) :
      i.isMoodboard = true → Performed s i { s with moodboard }
  | mask {i : Instruction} (mask : Option Image) : i.isMask = true → Performed s i { s with mask }
  | depthCanvas (depth : Option Image) : Performed s .depthCanvas { s with depth }
  | depthToCanvas (image : Image) : s.depth = some image →
      Performed s .depthToCanvas (s.setCanvas image)
  | poseJson (data : Members) : Performed s (.poseJson data) { s with pose := some data }
  | inpaintTools {strength : Option Binary64} {blur outset : Option Int} {restore : Option Bool} :
      Performed s (.inpaintTools strength blur outset restore)
        { s.addSettings { strength } with
          inpainting := s.inpainting.merge (inpaintingOptions blur outset restore) }
  | idle {i : Instruction} : i.kind = .note ∨ i.kind = .xlMagic → Performed s i s

variable {s s' : RunState} {i : Instruction}

theorem isSome_of_requireCanvas {kind : Kind} {image : Image}
    (h : s.requireCanvas kind = .ok image) : s.canvas.isSome = true := by
  unfold requireCanvas at h
  split at h
  · rename_i canvas hc
    rw [hc, Option.isSome_some]
  · cases h

theorem performed_of_moveScale {x y scale : Binary64} (h : s.moveScale x y scale = .ok s') :
    Performed s (.moveScale x y scale) s' := by
  obtain ⟨canvas, hcanvas, h⟩ := bind_eq_ok.mp h
  split at h
  · obtain ⟨size, -, h⟩ := bind_eq_ok.mp h
    obtain ⟨-, -, h⟩ := bind_eq_ok.mp h
    cases h
    exact .moveScale _ _ (isSome_of_requireCanvas hcanvas)
  · cases h

theorem performed_of_adaptSize {maxWidth maxHeight : Int} {message : String}
    (h : s.adaptSize maxWidth maxHeight = .ok (s', message)) :
    Performed s (.adaptSize maxWidth maxHeight) s' := by
  obtain ⟨canvas, hcanvas, h⟩ := bind_eq_ok.mp h
  split at h
  · cases h
  · dsimp only at h
    split at h <;> cases h
    exact .adaptSize _ (isSome_of_requireCanvas hcanvas)

theorem performed_of_crop {message : String} (h : s.crop = .ok (s', message)) :
    Performed s .crop s' := by
  obtain ⟨canvas, hcanvas, h⟩ := bind_eq_ok.mp h
  split at h
  · cases h
  · cases h
    exact .crop _ _ (isSome_of_requireCanvas hcanvas)

theorem performed_of_enterLoop {w : Workflow} {index : Nat} {count start : Int} {message : String}
    (h : s.enterLoop w index count start = (s', message)) :
    Performed s (.loop count start) s' := by
  unfold enterLoop at h
  split at h
  · cases h
    exact .loop _ s.loops
  · cases h
    exact .loop s.counter _

theorem performed_of_closeLoop {message : String} (h : s.closeLoop = .ok (s', message)) :
    Performed s .loopEnd s' := by
  unfold closeLoop at h
  split at h
  · cases h
  · dsimp only at h
    split at h
    · cases h
      exact .loopEnd _ _
    · cases h
      exact .loopEnd s.counter _

theorem performed_of_perform {w : Workflow} {directory : FilePath} {files : FileTree} {index : Nat}
    {message : String} (hi : i.isLocal = true)
    (h : s.perform w directory files index i = .ok (s', message)) : Performed s i s' := by
  cases i with
  | loop count start => exact performed_of_enterLoop (Except.ok.inj h)
  | loopEnd => exact performed_of_closeLoop h
  | moveScale x y scale =>
    obtain ⟨t, ht, h⟩ := bind_eq_ok.mp h
    cases h
    exact performed_of_moveScale ht
  | adaptSize maxWidth maxHeight => exact performed_of_adaptSize h
  | crop => exact performed_of_crop h
  | frames count =>
    simp only [perform] at h
    split at h
    · cases h
    · rename_i hcount
      cases h
      exact .frames (Int.not_lt.mp hcount)
  | moodboardRemove =>
    simp only [perform] at h
    split at h
    · cases h
      exact .moodboard _ rfl
    · cases h
  | depthToCanvas =>
    simp only [perform] at h
    split at h
    · rename_i depth hdepth
      cases h
      exact .depthToCanvas depth hdepth
    · cases h
  | canvasLoad =>
    obtain ⟨image, -, h⟩ := bind_eq_ok.mp h
    cases h
    exact .load image rfl
  | loopLoad =>
    obtain ⟨frame, -, h⟩ := bind_eq_ok.mp h
    obtain ⟨image, -, h⟩ := bind_eq_ok.mp h
    cases h
    exact .load _ rfl
  | moodboardCanvas | moodboardAdd =>
    obtain ⟨image, -, h⟩ := bind_eq_ok.mp h
    cases h
    exact .moodboard _ rfl
  | loopAddMoodboard =>
    obtain ⟨frame, -, h⟩ := bind_eq_ok.mp h
    obtain ⟨image, -, h⟩ := bind_eq_ok.mp h
    cases h
    exact .moodboard _ rfl
  | moodboardClear | moodboardWeights =>
    cases h
    exact .moodboard _ rfl
  | maskLoad | maskGet =>
    obtain ⟨image, -, h⟩ := bind_eq_ok.mp h
    cases h
    exact .mask _ rfl
  | maskClear =>
    cases h
    exact .mask none rfl
  | depthCanvas =>
    obtain ⟨image, -, h⟩ := bind_eq_ok.mp h
    cases h
    exact .depthCanvas _
  | note =>
    cases h
    exact .idle (.inl rfl)
  | xlMagic =>
    cases h
    exact .idle (.inr rfl)
  | stop | prompt | negativePrompt | config | canvasClear | poseJson | inpaintTools =>
    cases h
    constructor
  | _ => cases hi

theorem canGenerate_of_hasPrompt (h : s.hasPrompt = true) : s.canGenerate = true := by
  rw [canGenerate, h, Bool.true_or, Bool.true_or]

theorem fitMask_eq (s : RunState) : ∃ mask, s.fitMask = { s with mask } := by
  unfold fitMask
  split
  · split
    · exact ⟨s.mask, rfl⟩
    · exact ⟨_, rfl⟩
  · exact ⟨s.mask, rfl⟩

/-! ## All instructions -/

/-- What an instruction makes of a state, and whether it succeeds. -/
inductive Conducted (s : RunState) : Instruction → Bool → RunState → Prop
  /-- Without success; before a render the mask was fitted. -/
  | failed {i : Instruction} (mask : Option Image) : Conducted s i false { s with mask }
  | performed {i : Instruction} {s' : RunState} :
      i.isLocal = true → Performed s i s' → Conducted s i true s'
  | toolMask {i : Instruction} (image : Image) :
      Engine.toolTarget? i.kind = some .mask → Conducted s i true { s with mask := some image }
  | toolDepth {i : Instruction} (image : Image) :
      Engine.toolTarget? i.kind = some .depth → Conducted s i true { s with depth := some image }
  | toolPose {i : Instruction} (data : Members) :
      Engine.toolTarget? i.kind = some .pose → Conducted s i true { s with pose := some data }
  | toolCanvas {i : Instruction} (image : Image) : Engine.toolTarget? i.kind = some .canvas →
      s.canvas.isSome = true → Conducted s i true (s.setCanvas image)
  | generated (canvas : Canvas) (mask : Option Image) :
      Conducted s .generate true { s with canvas := some canvas, mask, fresh := true }
  /-- A generated image no longer waits, even if it cannot be written. -/
  | taken {i : Instruction} {done : Bool} : i.isSave = true → s.fresh = true →
      s.canvas.isSome = true → Conducted s i done { s with fresh := false }
  /-- A save renders, even if it cannot write the image. -/
  | rendered {i : Instruction} {done : Bool} (canvas : Canvas) (mask : Option Image) :
      i.isSave = true → (s.fresh && s.canvas.isSome) = false →
        Conducted s i done { s with canvas := some canvas, mask }
  /-- A save takes the canvas as it is. -/
  | kept {i : Instruction} {done : Bool} : i.isSave = true → s.fresh = false →
      s.canvas.isSome = true → Conducted s i done s

end RunState

/-! ## Renders and saves -/

/-- Whether a failure can come of writing a file. -/
def VisitFailure.ofWriting : VisitFailure → Bool
  | .fault .emptyPath | .fault (.escapingPath _) | .fault (.unwritableImage ..)
  | .unforeseen _ => true
  | _ => false

theorem insidePath_ofWriting {directory : FilePath} {name : String} {failure : VisitFailure}
    (h : insidePath directory name = .error failure) : failure.ofWriting = true := by
  unfold insidePath at h
  split at h
  · cases h
    rfl
  · split at h
    · cases h
      rfl
    · dsimp only at h
      split at h <;> cases h
      rfl

namespace Engine
open RunState
variable {σ : Type} (e : Engine σ) (w : Workflow) (scene : Scene σ) (index : Nat)

/-- What a render comes to: no image, or a first one that becomes the canvas. -/
theorem render_cases :
    (∃ mask failure, (e.render scene index).1.state = { scene.state with mask } ∧
      (e.render scene index).2 = .error failure) ∨
    ∃ mask mode first rest, scene.state.canGenerate = true ∧
      (e.provider.generate scene.memory
        (scene.state.fitMask.generateCall e.baseline)).1.result = .ok (first :: rest) ∧
      (e.render scene index).1.state = { scene.state with
        canvas := some { image := first, origin := some scene.images.length }, mask } ∧
      (e.render scene index).2 = .ok (mode, rest.length + 1) := by
  obtain ⟨mask, hmask⟩ := scene.state.fitMask_eq
  unfold render
  split
  · rename_i hcan
    split
    · dsimp only
      split
      · exact .inl ⟨mask, _, hmask, rfl⟩
      · exact .inl ⟨mask, _, hmask, rfl⟩
      · rename_i first rest hresult
        exact .inr ⟨mask, _, first, rest, hcan, hresult, by rw [hmask], rfl⟩
    · exact .inl ⟨scene.state.mask, _, rfl, rfl⟩
  · exact .inl ⟨scene.state.mask, _, rfl, rfl⟩

/-- Why a render fails: there is nothing to render from, the mask cannot be fitted, no image came, or
the call failed. -/
theorem render_eq_error {failure : VisitFailure} (h : (e.render scene index).2 = .error failure) :
    (failure = .fault .nothingToGenerate ∧ scene.state.canGenerate = false) ∨
      failure = .unforeseen (.extent .noPixels) ∨ failure = .fault .noImageGenerated ∨
      ∃ cause, failure = .ofCall cause := by
  unfold render at h
  split at h
  · split at h
    · dsimp only at h
      split at h
      · rename_i cause _
        cases h
        exact .inr (.inr (.inr ⟨cause, rfl⟩))
      · cases h
        exact .inr (.inr (.inl rfl))
      · cases h
    · cases h
      exact .inr (.inl rfl)
  · rename_i hcan
    cases h
    exact .inl ⟨rfl, Bool.not_eq_true _ ▸ hcan⟩

theorem save_ofWriting {files : FileTree} {image : Image} {name : String} {parameters : Members}
    {failure : VisitFailure} (h : (e.save files image name parameters).2 = .error failure) :
    failure.ofWriting = true := by
  unfold save at h
  dsimp only at h
  split at h
  · rename_i hpath
    cases h
    exact insidePath_ofWriting hpath
  · split at h
    · cases h
      rfl
    · split at h
      · cases h
        rfl
      · split at h <;> cases h
        rfl

/-- What a save comes to before it writes: an image that waits is taken, else there may be a render,
or the canvas is taken as it is. -/
theorem settleSave_cases :
    (scene.state.fresh = true ∧ scene.state.canvas.isSome = true ∧
      (e.settleSave scene index).1.state = { scene.state with fresh := false } ∧
      (e.settleSave scene index).2 = .ok .pending) ∨
    (scene.state.fresh && scene.state.canvas.isSome) = false ∧
      ((∃ mask failure, (e.settleSave scene index).1.state = { scene.state with mask } ∧
          (e.settleSave scene index).2 = .error failure) ∨
        (∃ canvas mask mode,
          (e.settleSave scene index).1.state = { scene.state with canvas := some canvas, mask } ∧
          (e.settleSave scene index).2 = .ok (.rendered mode)) ∨
        (scene.state.fresh = false ∧ scene.state.canvas.isSome = true ∧
          (e.settleSave scene index).1.state = scene.state ∧
          (e.settleSave scene index).2 = .ok .canvas)) := by
  unfold settleSave
  split
  · rename_i h
    obtain ⟨hfresh, hcanvas⟩ := Bool.and_eq_true_iff.mp h
    exact .inl ⟨hfresh, hcanvas, rfl, rfl⟩
  · rename_i h
    refine .inr ⟨by simpa using h, ?_⟩
    split
    · have hcases := render_cases e scene index
      generalize e.render scene index = answer at hcases ⊢
      obtain ⟨after, answer⟩ := answer
      obtain ⟨mask, failure, hstate, hanswer⟩ |
      ⟨mask, mode, first, rest, -, -, hstate, hanswer⟩ := hcases
      · cases hanswer
        exact .inl ⟨mask, failure, hstate, rfl⟩
      · cases hanswer
        exact .inr (.inl ⟨_, mask, mode, hstate, rfl⟩)
    · split
      · rename_i hcanvas
        refine .inr (.inr ⟨?_, hcanvas, rfl, rfl⟩)
        simpa [hcanvas] using h
      · exact .inl ⟨scene.state.mask, _, rfl, rfl⟩

theorem settleSave_eq_pending (h : (e.settleSave scene index).2 = .ok .pending) :
    scene.state.fresh = true ∧
      e.settleSave scene index = ({ scene with state.fresh := false }, .ok .pending) := by
  cases hwaits : scene.state.fresh && scene.state.canvas.isSome with
  | true =>
    refine ⟨(Bool.and_eq_true_iff.mp hwaits).1, ?_⟩
    rw [settleSave, if_pos hwaits]
  | false =>
    obtain ⟨hfresh, hcanvas, -⟩ | ⟨-, ⟨mask, failure, -, hresult⟩ |
      ⟨canvas, mask, mode, -, hresult⟩ | ⟨-, -, -, hresult⟩⟩ := settleSave_cases e scene index
    · rw [hfresh, hcanvas] at hwaits
      cases hwaits
    all_goals
      rw [hresult] at h
      cases h

/-- Why nothing can be saved: the render that was due failed, or there is neither prompt nor
canvas. -/
theorem settleSave_eq_error {failure : VisitFailure}
    (h : (e.settleSave scene index).2 = .error failure) :
    (scene.state.hasPrompt = true ∧ (e.render scene index).2 = .error failure) ∨
      (scene.state.hasPrompt = false ∧ scene.state.canvas = none ∧
        failure = .fault .nothingToSave) := by
  unfold settleSave at h
  split at h
  · cases h
  · split at h
    · rename_i hprompt
      generalize e.render scene index = answer at h ⊢
      obtain ⟨after, answer⟩ := answer
      cases answer with
      | ok => cases h
      | error =>
        cases h
        exact .inl ⟨hprompt, rfl⟩
    · rename_i hprompt
      split at h
      · cases h
      · rename_i hcanvas
        cases h
        exact .inr ⟨Bool.not_eq_true _ ▸ hprompt, Option.not_isSome_iff_eq_none.mp hcanvas, rfl⟩

/-- Once it is settled what is saved, there is a canvas. -/
theorem isSome_canvas_of_settleSave {source : SaveSource}
    (h : (e.settleSave scene index).2 = .ok source) :
    (e.settleSave scene index).1.state.canvas.isSome = true := by
  obtain ⟨-, hcanvas, hstate, -⟩ | ⟨-, ⟨mask, failure, -, hresult⟩ |
    ⟨canvas, mask, mode, hstate, -⟩ | ⟨-, hcanvas, hstate, -⟩⟩ := settleSave_cases e scene index
  · rw [hstate]
    exact hcanvas
  · rw [hresult] at h
    cases h
  · rw [hstate]
    rfl
  · rw [hstate]
    exact hcanvas

/-- The state that a save leaves is the one in which it was settled what is saved. -/
theorem renderAndSave_state (name : String) :
    (e.renderAndSave scene index name).1.state = (e.settleSave scene index).1.state := by
  unfold renderAndSave
  split
  · rename_i hsettled
    rw [hsettled]
  · rename_i hsettled
    rw [hsettled]
    split
    · rfl
    · split <;> rfl

theorem renderAndSave_of_settleSave_error {failure : VisitFailure} (name : String)
    (h : (e.settleSave scene index).2 = .error failure) :
    (e.renderAndSave scene index name).2 = .error failure := by
  unfold renderAndSave
  split
  · rename_i hsettled
    rw [hsettled] at h
    cases h
    rfl
  · rename_i hsettled
    rw [hsettled] at h
    cases h

/-- Why a save fails: nothing can be saved, or it cannot be written. -/
theorem renderAndSave_eq_error {name : String} {failure : VisitFailure}
    (h : (e.renderAndSave scene index name).2 = .error failure) :
    (e.settleSave scene index).2 = .error failure ∨ failure.ofWriting = true := by
  have hcanvas (source : SaveSource) (hsource : (e.settleSave scene index).2 = .ok source) :
      (e.settleSave scene index).1.state.canvas.isSome = true :=
    isSome_canvas_of_settleSave e scene index hsource
  unfold renderAndSave at h
  generalize e.settleSave scene index = settled at h hcanvas ⊢
  obtain ⟨after, answer⟩ := settled
  cases answer with
  | error =>
    cases h
    exact .inl rfl
  | ok source =>
    obtain ⟨canvas, hcanvas⟩ := Option.isSome_iff_exists.mp (hcanvas source rfl)
    have hcanvas : after.state.canvas = some canvas := hcanvas
    dsimp only at h
    rw [hcanvas] at h
    dsimp only at h
    split at h
    · rename_i hsave
      cases h
      exact .inr (save_ofWriting e (congrArg Prod.snd hsave))
    · cases h

/-- What a save that succeeds wrote, what it notes of it, and what it says. -/
theorem renderAndSave_eq_ok {name message : String}
    (h : (e.renderAndSave scene index name).2 = .ok message) :
    ∃ source canvas path, (e.settleSave scene index).2 = .ok source ∧
      (e.settleSave scene index).1.state.canvas = some canvas ∧
      e.save (e.settleSave scene index).1.files canvas.image name
          (e.saveParameters (e.settleSave scene index).1.state index) =
        ((e.renderAndSave scene index name).1.files, .ok path) ∧
      (e.renderAndSave scene index name).1.images = noteSaved (e.settleSave scene index).1.images
        (if source = .canvas then none else canvas.origin) path ∧
      message = s!"Saved {source.word} image: {name}" := by
  unfold renderAndSave at h ⊢
  generalize e.settleSave scene index = settled at h ⊢
  obtain ⟨after, answer⟩ := settled
  cases answer with
  | error failure => cases h
  | ok source =>
    dsimp only at h ⊢
    cases hcanvas : after.state.canvas with
    | none =>
      rw [hcanvas] at h
      cases h
    | some canvas =>
      rw [hcanvas] at h
      dsimp only at h ⊢
      generalize hsave : e.save after.files canvas.image name
        (e.saveParameters after.state index) = saved at h
      obtain ⟨files, answer⟩ := saved
      cases answer with
      | error failure => cases h
      | ok path =>
        cases h
        exact ⟨source, canvas, path, rfl, rfl, hsave, rfl, rfl⟩

theorem conducted_renderAndSave {i : Instruction} (hi : i.isSave = true) (name : String) :
    Conducted scene.state i (e.renderAndSave scene index name).2.isOk
      (e.renderAndSave scene index name).1.state := by
  rw [renderAndSave_state]
  obtain ⟨hfresh, hcanvas, hstate, -⟩ | ⟨hwaits, h⟩ := settleSave_cases e scene index
  · rw [hstate]
    exact .taken hi hfresh hcanvas
  obtain ⟨mask, failure, hstate, hfailure⟩ | ⟨canvas, mask, mode, hstate, -⟩ |
    ⟨hfresh, hcanvas, hstate, -⟩ := h
  · rw [hstate, renderAndSave_of_settleSave_error e scene index name hfailure]
    exact .failed mask
  · rw [hstate]
    exact .rendered canvas mask hi hwaits
  · rw [hstate]
    exact .kept hi hfresh hcanvas

/-! ## Tools -/

theorem conducted_of_receive {s s' : RunState} {i : Instruction} {target : ToolTarget}
    {answer : ToolResult} (hi : toolTarget? i.kind = some target) (hs : s.canvas.isSome = true)
    (h : receive s i.kind target answer = .ok s') : Conducted s i true s' := by
  unfold receive at h
  split at h
  · cases h
    exact .toolPose _ hi
  · cases h
  · cases h
    exact .toolMask _ hi
  · cases h
    exact .toolDepth _ hi
  · cases h
    exact .toolCanvas _ hi hs

theorem conducted_applyTool {i : Instruction} {target : ToolTarget}
    (hi : toolTarget? i.kind = some target) :
    Conducted scene.state i (e.applyTool scene i target).2.isOk
      (e.applyTool scene i target).1.state := by
  unfold applyTool
  split
  · exact .failed scene.state.mask
  · rename_i image hcanvas
    dsimp only
    split
    · exact .failed scene.state.mask
    · split
      · exact .failed scene.state.mask
      · rename_i hreceive
        exact conducted_of_receive hi (isSome_of_requireCanvas hcanvas) hreceive

/-! ## All instructions -/

theorem conduct_of_tool {i : Instruction} {target : ToolTarget}
    (hi : toolTarget? i.kind = some target) :
    e.conduct w scene index i = e.applyTool scene i target := by
  simp only [conduct, hi]

theorem conduct_of_isLocal {i : Instruction} (hi : i.isLocal = true) :
    e.conduct w scene index i =
      match scene.state.perform w e.workingDirectory scene.files index i with
      | .ok (state, message) => ({ scene with state }, .ok message)
      | .error failure => (scene, .error failure) := by
  cases i <;> first | rfl | cases hi

theorem visit_of_isLocal {i : Instruction} (hi : i.isLocal = true)
    (hsupport : i.kind.support ≠ .unsupported) : e.visit w scene index i =
      match (atVisit index scene).state.perform w e.workingDirectory scene.files index i with
      | .ok (state, message) => ({ atVisit index scene with state := state.fitMask }, .done message)
      | .error failure => (atVisit index scene, .failed failure) := by
  have hfiles : (atVisit index scene).files = scene.files := rfl
  rw [visit_of_not_unsupported e w scene index hsupport, conduct_of_isLocal e w _ index hi, hfiles]
  cases (atVisit index scene).state.perform w e.workingDirectory scene.files index i <;> rfl

theorem conduct_generate : e.conduct w scene index .generate =
    match e.render scene index with
    | (scene, .ok (mode, count)) =>
      ({ scene with state.fresh := true }, .ok s!"Generated {count} image(s) via {mode.word}")
    | (scene, .error failure) => (scene, .error failure) := rfl

theorem conduct_generate_of_ok {mode : GenerationMode} {count : Nat}
    (h : (e.render scene index).2 = .ok (mode, count)) : e.conduct w scene index .generate =
      ({ (e.render scene index).1 with state.fresh := true },
        .ok s!"Generated {count} image(s) via {mode.word}") := by
  rw [conduct_generate]
  generalize e.render scene index = answer at h ⊢
  obtain ⟨after, answer⟩ := answer
  cases h
  rfl

theorem conduct_generate_of_error {failure : VisitFailure}
    (h : (e.render scene index).2 = .error failure) :
    e.conduct w scene index .generate = ((e.render scene index).1, .error failure) := by
  rw [conduct_generate]
  generalize e.render scene index = answer at h ⊢
  obtain ⟨after, answer⟩ := answer
  cases h
  rfl

theorem conduct_generate_eq_error_iff {failure : VisitFailure} :
    (e.conduct w scene index .generate).2 = .error failure ↔
      (e.render scene index).2 = .error failure := by
  rw [conduct_generate]
  generalize e.render scene index = answer
  obtain ⟨after, answer⟩ := answer
  cases answer <;> simp

theorem conduct_loopSave (stem : String) : e.conduct w scene index (.loopSave stem) =
    match scene.state.requireFrame .loopSave with
    | .ok frame => e.renderAndSave scene index s!"{stem}{frame.current}.png"
    | .error failure => (scene, .error failure) := rfl

theorem conduct_of_isSave {i : Instruction} {message : String} (hi : i.isSave = true)
    (h : (e.conduct w scene index i).2 = .ok message) :
    ∃ name, e.conduct w scene index i = e.renderAndSave scene index name := by
  cases i with
  | canvasSave name => exact ⟨name, rfl⟩
  | loopSave stem =>
    rw [conduct_loopSave] at h ⊢
    split at h
    · exact ⟨_, rfl⟩
    · cases h
  | _ => cases hi

theorem conducted_conduct (i : Instruction) :
    Conducted scene.state i (e.conduct w scene index i).2.isOk
      (e.conduct w scene index i).1.state := by
  obtain hlocal | ⟨target, htarget⟩ | rfl | ⟨name, rfl⟩ | ⟨stem, rfl⟩ := i.carrier_cases
  · rw [conduct_of_isLocal e w scene index hlocal]
    split
    · rename_i hperform
      exact .performed hlocal (performed_of_perform hlocal hperform)
    · exact .failed scene.state.mask
  · rw [conduct_of_tool e w scene index htarget]
    exact conducted_applyTool e scene htarget
  · obtain ⟨mask, failure, hstate, hanswer⟩ |
      ⟨mask, mode, first, rest, -, -, hstate, hanswer⟩ := render_cases e scene index
    · rw [conduct_generate_of_error e w scene index hanswer]
      dsimp only
      rw [hstate]
      exact .failed mask
    · rw [conduct_generate_of_ok e w scene index hanswer]
      dsimp only
      rw [hstate]
      exact .generated _ mask
  · exact conducted_renderAndSave e scene index rfl name
  · rw [conduct_loopSave]
    split
    · exact conducted_renderAndSave e scene index rfl _
    · exact .failed scene.state.mask

/-! ## Visits -/

/-- The visit is a success. -/
def Verdict.isDone : Verdict → Bool
  | .done _ => true
  | _ => false

theorem Verdict.eq_done {v : Verdict} (h : v.isDone = true) : v = .done v.message := by
  cases v with
  | done message => rfl
  | passedOver | failed => cases h

/-- A visit fails as its instruction does. -/
theorem visit_eq_failed_iff {i : Instruction} {failure : VisitFailure}
    (hi : i.kind.support ≠ .unsupported) : (e.visit w scene index i).2 = .failed failure ↔
      (e.conduct w (atVisit index scene) index i).2 = .error failure := by
  rw [visit_of_not_unsupported e w scene index hi]
  generalize e.conduct w (atVisit index scene) index i = result
  obtain ⟨after, answer⟩ := result
  cases answer <;> simp

/-- A visit that succeeds leaves what its instruction left, but for the mask. -/
theorem visit_of_isDone {i : Instruction} (h : (e.visit w scene index i).2.isDone = true) :
    ∃ message mask, (e.conduct w (atVisit index scene) index i).2 = .ok message ∧
      e.visit w scene index i =
        ({ (e.conduct w (atVisit index scene) index i).1 with
            state := { (e.conduct w (atVisit index scene) index i).1.state with mask } },
          .done message) := by
  by_cases hi : i.kind.support = .unsupported
  · rw [visit, if_pos hi] at h
    cases h
  · rw [visit_of_not_unsupported e w scene index hi] at h ⊢
    generalize e.conduct w (atVisit index scene) index i = result at h ⊢
    obtain ⟨after, answer⟩ := result
    cases answer with
    | error failure => cases h
    | ok message =>
      obtain ⟨mask, hmask⟩ := after.state.fitMask_eq
      refine ⟨message, mask, rfl, ?_⟩
      dsimp only
      rw [hmask]

/-- A save that succeeds wrote the canvas. -/
theorem visit_of_isSave {i : Instruction} {message : String} (hi : i.isSave = true)
    (h : (e.visit w scene index i).2 = .done message) :
    ∃ name, (e.renderAndSave (atVisit index scene) index name).2 = .ok message ∧
      (e.visit w scene index i).1.files =
        (e.renderAndSave (atVisit index scene) index name).1.files := by
  obtain ⟨message', mask, hconduct, hvisit⟩ := visit_of_isDone e w scene index (by rw [h]; rfl)
  rw [hvisit] at h ⊢
  cases h
  obtain ⟨name, hname⟩ := conduct_of_isSave e w _ _ hi hconduct
  exact ⟨name, hname ▸ hconduct, by rw [← hname]⟩

/-- What a visit makes of a state: the counter moves on before the instruction, and the mask is
fitted after it. -/
theorem visit_conducted (i : Instruction) :
    ∃ s, Conducted { scene.state with counter := index + 1 } i (e.visit w scene index i).2.isDone s ∧
      ∃ mask, (e.visit w scene index i).1.state = { s with mask } := by
  by_cases hi : i.kind.support = .unsupported
  · rw [visit, if_pos hi]
    exact ⟨_, .failed scene.state.mask, scene.state.mask, rfl⟩
  · have h := conducted_conduct e w (atVisit index scene) index i
    rw [visit_of_not_unsupported e w scene index hi]
    generalize e.conduct w (atVisit index scene) index i = result at h ⊢
    obtain ⟨after, answer⟩ := result
    cases answer with
    | ok message => exact ⟨after.state, h, after.state.fitMask_eq⟩
    | error failure => exact ⟨after.state, h, after.state.mask, rfl⟩

end Engine

end ImageWorkflow
