import Mathlib
import ImageWorkflow.Proofs.Effects
import ImageWorkflow.Proofs.Nesting

/-!
# What validation foresees

Validation walks through the instructions once and notes before each of them whether there will be a
prompt, whether there will be a canvas, and how many entries the moodboard will have.
* `Walk.Describes` : it is so in a state; `Walk.Describes.visit` : every visit that does not fail
  keeps it;
* `Run.Straight` : visits of which none fails, each at the index after the one before;
* `Run.walk_describes` : after such visits the walk is right, and its warning about the moodboard
  names the indices that the visit names;
* `Run.trigger_foreseen` : in a valid workflow, a generation after such visits has something to work
  from, but for a save that has the moodboard only.
-/

namespace ImageWorkflow

/-! ## What the walk notes is so -/

/-- What the walk notes of prompt, canvas and moodboard is so in the state. -/
structure Walk.Describes (v : Walk) (s : RunState) : Prop where
  hasPrompt : v.hasPrompt = s.hasPrompt
  hasCanvas : v.hasCanvas = s.canvas.isSome
  moodboardSize : v.moodboardSize = s.moodboard.length

/-- Weights that are set leave the moodboard's size as it is. -/
theorem RunState.length_setWeights (moodboard : List MoodboardEntry)
    (weights : List (Nat × Binary64)) :
    (setWeights moodboard weights).1.length = moodboard.length := by
  unfold setWeights
  dsimp only
  induction weights generalizing moodboard with
  | nil => rfl
  | cons weight weights ih => rw [List.foldl_cons, ih, List.length_modify]

namespace Walk
open RunState
variable {v : Walk} {s s' : RunState} {n : Nat} {i : Instruction}

theorem describes_start : ({} : Walk).Describes {} := ⟨by decide, rfl, rfl⟩

theorem Describes.setGenerated (h : v.Describes s) (generated : Bool) :
    (v.setGenerated generated).Describes s := by
  unfold Walk.setGenerated
  split
  · exact h
  · exact ⟨h.hasPrompt, h.hasCanvas, h.moodboardSize⟩

/-- The walk notes nothing of the mask. -/
theorem Describes.mask (h : v.Describes s) (mask : Option Image) : v.Describes { s with mask } :=
  ⟨h.hasPrompt, h.hasCanvas, h.moodboardSize⟩

theorem Describes.addEntry (h : v.Describes s) (image : Image) (source : String) :
    Describes { v with moodboardSize := v.moodboardSize + 1 } (s.addEntry image source) := by
  refine ⟨h.hasPrompt, h.hasCanvas, ?_⟩
  simp only [RunState.addEntry, List.length_append, List.length_singleton, h.moodboardSize]

/-! ## Instruction by instruction -/

theorem next_of_tool {target : Engine.ToolTarget} (hi : Engine.toolTarget? i.kind = some target) :
    v.next n i = v := by
  cases i <;> first | rfl | cases hi

theorem next_of_unsupported (hi : i.kind.support = .unsupported) : v.next n i = v := by
  cases i <;> first | rfl | cases hi

/-- After a generation or a save there is a canvas. -/
theorem Describes.trigger (h : v.Describes s) (hi : i.isTrigger = true)
    (hprompt : s'.prompt = s.prompt) (hcanvas : s'.canvas.isSome = true)
    (hmoodboard : s'.moodboard = s.moodboard) : (v.next n i).Describes s' := by
  have hnext : v.next n i = { v with sawTrigger := true, hasCanvas := true }.setGenerated true := by
    cases i <;> first | rfl | cases hi
  have hkept : s'.hasPrompt = s.hasPrompt := by
    rw [RunState.hasPrompt, hprompt]
    rfl
  have hnoted : Describes { v with sawTrigger := true, hasCanvas := true } s' :=
    ⟨h.hasPrompt.trans hkept.symm, hcanvas.symm, by rw [hmoodboard]; exact h.moodboardSize⟩
  rw [hnext]
  exact hnoted.setGenerated true

theorem Describes.moodboard {w : Workflow} {directory : FilePath} {files : FileTree} {index : Nat}
    {message : String} (h : v.Describes s) (hi : i.isMoodboard = true)
    (hs : s.perform w directory files index i = .ok (s', message)) : (v.next n i).Describes s' := by
  cases i with
  | moodboardClear =>
    cases hs
    exact ⟨h.hasPrompt, h.hasCanvas, rfl⟩
  | moodboardCanvas =>
    obtain ⟨image, hcanvas, hs⟩ := bind_eq_ok.mp hs
    cases hs
    have hnoted : v.hasCanvas = true := h.hasCanvas.trans (isSome_of_requireCanvas hcanvas)
    have hnext : v.next n .moodboardCanvas = { v with moodboardSize := v.moodboardSize + 1 } := by
      simp only [Walk.next, hnoted, if_true]
    rw [hnext]
    exact h.addEntry image "canvas"
  | moodboardAdd name =>
    obtain ⟨image, -, hs⟩ := bind_eq_ok.mp hs
    cases hs
    exact h.addEntry image name
  | loopAddMoodboard folder =>
    obtain ⟨frame, -, hs⟩ := bind_eq_ok.mp hs
    obtain ⟨image, -, hs⟩ := bind_eq_ok.mp hs
    cases hs
    exact h.addEntry _ _
  | moodboardRemove item =>
    simp only [perform] at hs
    split at hs
    · rename_i hitem
      cases hs
      -- with an entry to remove, one less is no less than none
      have hlt : item.toNat < s.moodboard.length := by omega
      refine ⟨h.hasPrompt, h.hasCanvas, ?_⟩
      simp only [Walk.next, List.length_eraseIdx_of_lt hlt, h.moodboardSize]
    · cases hs
  | moodboardWeights weights =>
    cases hs
    exact ⟨h.hasPrompt, h.hasCanvas, h.moodboardSize.trans (length_setWeights _ _).symm⟩
  | _ => cases hi

theorem Describes.performed (h : v.Describes s) (hi : i.isMoodboard = false)
    (hs : Performed s i s') : (v.next n i).Describes s' := by
  cases hs with
  | prompt text =>
    let noted : Walk := { v with
      hasPrompt := !Text.isBlankText text, sawPrompt := v.sawPrompt || !Text.isBlankText text }
    have hnoted : noted.Describes { s with prompt := text } := ⟨rfl, h.hasCanvas, h.moodboardSize⟩
    exact hnoted.setGenerated false
  | canvasClear => exact ⟨h.hasPrompt, rfl, h.moodboardSize⟩
  | load image hload =>
    cases i with
    | canvasLoad | loopLoad => exact ⟨h.hasPrompt, rfl, h.moodboardSize⟩
    | _ => cases hload
  | moveScale image mask hcanvas | crop image mask hcanvas | adaptSize image hcanvas =>
    exact ⟨h.hasPrompt, h.hasCanvas.trans hcanvas, h.moodboardSize⟩
  | depthToCanvas image => exact ⟨h.hasPrompt, rfl, h.moodboardSize⟩
  | moodboard _ hmoodboard =>
    rw [hmoodboard] at hi
    cases hi
  | mask mask hmask =>
    cases i with
    | maskClear | maskLoad | maskGet => exact h.mask mask
    | _ => cases hmask
  | idle hidle =>
    cases i with
    | note | xlMagic => exact h
    | _ => simp [Instruction.kind] at hidle
  | _ => exact ⟨h.hasPrompt, h.hasCanvas, h.moodboardSize⟩

theorem Describes.conducted (h : v.Describes s) (hi : i.isMoodboard = false)
    (hs : Conducted s i true s') : (v.next n i).Describes s' := by
  cases hs with
  | performed _ hs => exact h.performed hi hs
  | toolMask _ htool | toolDepth _ htool | toolPose _ htool =>
    rw [next_of_tool htool]
    exact ⟨h.hasPrompt, h.hasCanvas, h.moodboardSize⟩
  | toolCanvas image htool hcanvas =>
    rw [next_of_tool htool]
    exact ⟨h.hasPrompt, h.hasCanvas.trans hcanvas, h.moodboardSize⟩
  | generated canvas mask => exact h.trigger rfl rfl rfl rfl
  | rendered canvas mask hsave =>
    exact h.trigger (Instruction.isTrigger_of_isSave hsave) rfl rfl rfl
  | taken hsave _ hcanvas | kept hsave _ hcanvas =>
    exact h.trigger (Instruction.isTrigger_of_isSave hsave) rfl hcanvas rfl

theorem Describes.conduct {σ : Type} {e : Engine σ} {w : Workflow} {scene : Scene σ} {index : Nat}
    {message : String} (h : v.Describes scene.state)
    (hdone : (e.conduct w scene index i).2 = .ok message) :
    (v.next n i).Describes (e.conduct w scene index i).1.state := by
  cases hi : i.isMoodboard with
  | false =>
    have hs := e.conducted_conduct w scene index i
    rw [hdone] at hs
    exact h.conducted hi hs
  | true =>
    have hlocal : i.isLocal = true := by cases i <;> first | rfl | cases hi
    rw [e.conduct_of_isLocal w scene index hlocal] at hdone ⊢
    split at hdone
    · rename_i hperform
      exact h.moodboard hi hperform
    · cases hdone

/-- Every visit that neither fails nor ends the run keeps it. -/
theorem Describes.visit {σ : Type} {e : Engine σ} {w : Workflow} {scene : Scene σ} {index : Nat}
    (h : v.Describes scene.state) (hout : (e.visit w scene index i).2.outcome i ≠ .failed)
    (hgoing : (e.visit w scene index i).2.fatalError = none) :
    (v.next n i).Describes (e.visit w scene index i).1.state := by
  have hat : v.Describes (Engine.atVisit index scene).state :=
    ⟨h.hasPrompt, h.hasCanvas, h.moodboardSize⟩
  by_cases hi : i.kind.support = .unsupported
  · rw [Engine.visit, if_pos hi, next_of_unsupported hi]
    exact hat
  cases hverdict : (e.visit w scene index i).2 with
  | done message =>
    have hdone : (e.visit w scene index i).2.isDone = true := by
      rw [hverdict]
      rfl
    obtain ⟨message, mask, hconduct, hvisit⟩ := e.visit_of_isDone w scene index hdone
    rw [hvisit]
    exact (hat.conduct hconduct).mask mask
  | passedOver reason =>
    rw [e.visit_of_not_unsupported w scene index hi] at hverdict
    split at hverdict <;> cases hverdict
  | failed failure =>
    rw [hverdict] at hout hgoing
    -- an interrupted visit does not count as failed, but it ends the run
    cases failure with
    | interrupted source => cases hgoing
    | fault | reported | unforeseen => exact absurd rfl hout

end Walk

/-! ## Generations that have nothing to work from -/

namespace Engine
open RunState
variable {σ : Type} (e : Engine σ) (w : Workflow) (scene : Scene σ) (index : Nat)

theorem render_ne_nothingToSave : (e.render scene index).2 ≠ .error (.fault .nothingToSave) := by
  intro h
  obtain ⟨h, -⟩ | h | h | ⟨cause, h⟩ := e.render_eq_error scene index h
  · cases h
  · cases h
  · cases h
  · cases cause <;> cases h

theorem render_ne_nothingToGenerate (hcan : scene.state.canGenerate = true) :
    (e.render scene index).2 ≠ .error (.fault .nothingToGenerate) := by
  intro h
  obtain ⟨-, hcannot⟩ | h | h | ⟨cause, h⟩ := e.render_eq_error scene index h
  · rw [hcan] at hcannot
    cases hcannot
  · cases h
  · cases h
  · cases cause <;> cases h

/-- A save renders with a prompt only, so it never finds that there is nothing to generate from. -/
theorem renderAndSave_ne_nothingToGenerate (name : String) :
    (e.renderAndSave scene index name).2 ≠ .error (.fault .nothingToGenerate) := by
  intro h
  rcases e.renderAndSave_eq_error scene index h with h | h
  · obtain ⟨hprompt, h⟩ | ⟨-, -, h⟩ := e.settleSave_eq_error scene index h
    · exact e.render_ne_nothingToGenerate scene index (canGenerate_of_hasPrompt hprompt) h
    · cases h
  · cases h

/-- A save has nothing to save just if there is neither prompt nor canvas. -/
theorem renderAndSave_eq_nothingToSave_iff (name : String) :
    (e.renderAndSave scene index name).2 = .error (.fault .nothingToSave) ↔
      scene.state.hasPrompt = false ∧ scene.state.canvas = none := by
  constructor
  · intro h
    rcases e.renderAndSave_eq_error scene index h with h | h
    · obtain ⟨-, h⟩ | ⟨hprompt, hcanvas, -⟩ := e.settleSave_eq_error scene index h
      · exact absurd h (e.render_ne_nothingToSave scene index)
      · exact ⟨hprompt, hcanvas⟩
    · cases h
  · rintro ⟨hprompt, hcanvas⟩
    refine e.renderAndSave_of_settleSave_error scene index name ?_
    rw [settleSave, hprompt, hcanvas, Option.isSome_none, Bool.and_false]
    rfl

/-- In a loop, if it asks for one, a save renders and saves. -/
theorem conduct_of_isSave_of_loops {i : Instruction} (hi : i.isSave = true)
    (hloop : i.isLoopScoped = true → scene.state.loops ≠ []) :
    ∃ name, e.conduct w scene index i = e.renderAndSave scene index name := by
  cases i with
  | canvasSave name => exact ⟨name, rfl⟩
  | loopSave stem =>
    obtain ⟨frame, outer, hloops⟩ := List.exists_cons_of_ne_nil (hloop rfl)
    have hframe : scene.state.frame? = some frame := by rw [frame?, hloops, List.head?_cons]
    rw [conduct_loopSave, requireFrame, hframe]
    exact ⟨_, rfl⟩
  | _ => cases hi

/-- A generation with something to work from misses it only as a save that has neither prompt nor
canvas. -/
theorem visit_of_isTrigger {i : Instruction} (hi : i.isTrigger = true)
    (hloop : i.isLoopScoped = true → scene.state.loops ≠ [])
    (hcan : scene.state.canGenerate = true) :
    (e.visit w scene index i).2 ≠ .failed (.fault .nothingToGenerate) ∧
      ((e.visit w scene index i).2 = .failed (.fault .nothingToSave) ↔
        i.isSave = true ∧ scene.state.hasPrompt = false ∧ scene.state.canvas = none) := by
  have hsupport : i.kind.support ≠ .unsupported := by
    rw [Instruction.support_of_isTrigger hi]
    decide
  rw [ne_eq, e.visit_eq_failed_iff w scene index hsupport,
    e.visit_eq_failed_iff w scene index hsupport]
  rcases Instruction.trigger_cases hi with rfl | hsave
  · rw [e.conduct_generate_eq_error_iff, e.conduct_generate_eq_error_iff]
    refine ⟨e.render_ne_nothingToGenerate _ index hcan, fun h => ?_, ?_⟩
    · exact absurd h (e.render_ne_nothingToSave _ index)
    · rintro ⟨⟨⟩, -⟩
  · obtain ⟨name, hname⟩ := e.conduct_of_isSave_of_loops w (atVisit index scene) index hsave hloop
    rw [hname, e.renderAndSave_eq_nothingToSave_iff]
    exact ⟨e.renderAndSave_ne_nothingToGenerate _ index name, fun h => ⟨hsave, h⟩, fun h => h.2⟩

end Engine

/-! ## Visits one after the other -/

namespace Run
open Workflow
variable {σ : Type} {e : Engine σ} {w : Workflow} {r : Run σ} {i : Instruction}
  {us : List (Run σ × Instruction)} {connected : Bool} {interruption : Option Interruption}
  {files : FileTree} {memory : σ}

/-- No visit fails, and each moves the counter on by one. -/
def Straight (e : Engine σ) (w : Workflow) (us : List (Run σ × Instruction)) : Prop :=
  ∀ u ∈ us, (u.1.entryDue e w u.2).outcome ≠ .failed ∧
    (u.1.visited e w u.2).scene.state.counter = u.1.scene.state.counter + 1

theorem Course.describes (hc : Course e w (start e connected interruption files memory) us r)
    (hs : Straight e w us) (hgoing : r.fatalError = none) :
    (w.walkBefore r.scene.state.counter).Describes r.scene.state := by
  refine hc.induction_on_last (P := fun us q => Straight e w us → q.fatalError = none →
    (w.walkBefore q.scene.state.counter).Describes q.scene.state)
    (fun _ _ => ?_) (fun us q i _ hd ih hs hgoing => ?_) hs hgoing
  · have hstart : (w.walkBefore 0).Describes {} := by
      rw [walkBefore_zero]
      exact Walk.describes_start
    exact hstart
  · obtain ⟨hs, hlast⟩ := List.forall_mem_append.mp hs
    obtain ⟨hout, hcounter⟩ := List.forall_mem_singleton.mp hlast
    rw [hcounter, walkBefore_succ hd.here, visited_scene]
    rw [visited_fatalError] at hgoing
    exact (ih hs hd.going).visit hout hgoing

/-- After visits one after the other of which none failed, the walk of validation knows whether
there is a prompt and a canvas and how large the moodboard is.  So the indices that a visit reports
to be missing from the moodboard are those that validation warns of. -/
theorem walk_describes (hc : Course e w (start e connected interruption files memory) us r)
    (hs : Straight e w us) (hd : r.Due w i) :
    (w.walkBefore r.scene.state.counter).hasPrompt = r.scene.state.hasPrompt ∧
      (w.walkBefore r.scene.state.counter).hasCanvas = r.scene.state.canvas.isSome ∧
      (w.walkBefore r.scene.state.counter).moodboardSize = r.scene.state.moodboard.length ∧
      ∀ weights, i = .moodboardWeights weights →
        ∃ missing, missing = (weights.map (·.1)).filter (r.scene.state.moodboard.length ≤ ·) ∧
          (r.entryDue e w i).outcome = .executed ∧
          (r.entryDue e w i).message = RunState.weightsMessage weights.length missing ∧
          ∀ indices, ⟨.missingWeights indices, some r.scene.state.counter⟩ ∈ w.validate.warnings ↔
            missing ≠ [] ∧ indices = missing := by
  have h := hc.describes hs hd.going
  refine ⟨h.hasPrompt, h.hasCanvas, h.moodboardSize, ?_⟩
  rintro weights rfl
  refine ⟨_, rfl, rfl, rfl, fun indices => ?_⟩
  rw [mem_validate_warnings_at hd.here, missingWeights_mem_warnings, h.moodboardSize]

/-- The indices of two weights, of which the moodboard has the first only. -/
theorem walk_describes_weights :
    let weights : List (Nat × Binary64) := [(0, .ofRat (1 / 2)), (2, .ofRat 1)]
    let w : Workflow := [.prompt "a", .generate, .moodboardCanvas, .moodboardWeights weights]
    let e := rehearsalEngine {}
    let r₁ := (start e true none ⟨[]⟩ {}).visited e w (.prompt "a")
    let r₂ := r₁.visited e w .generate
    let r₃ := r₂.visited e w .moodboardCanvas
    r₃.scene.state.moodboard.length = 1 ∧ (w.walkBefore 3).moodboardSize = 1 ∧
      (r₃.entryDue e w (.moodboardWeights weights)).message =
        "Weights set for 1 item(s); no moodboard entry for index 2" ∧
      ∀ indices, ⟨.missingWeights indices, some 3⟩ ∈ w.validate.warnings ↔ indices = [2] := by
  intro weights w e r₁ r₂ r₃
  have h₀ : (start e true none ⟨[]⟩ {}).Due w (.prompt "a") := ⟨rfl, rfl, rfl⟩
  have h₁ : r₁.Due w .generate := ⟨rfl, rfl, rfl⟩
  have hcounter₂ : r₂.scene.state.counter = 2 := by decide +kernel
  have h₂ : r₂.Due w .moodboardCanvas :=
    ⟨by decide +kernel, by decide +kernel, by rw [hcounter₂]; rfl⟩
  have hcounter₃ : r₃.scene.state.counter = 3 := by decide +kernel
  have h₃ : r₃.Due w (.moodboardWeights weights) :=
    ⟨by decide +kernel, by decide +kernel, by rw [hcounter₃]; rfl⟩
  have hs : Straight e w [(start e true none ⟨[]⟩ {}, .prompt "a"), (r₁, .generate),
      (r₂, .moodboardCanvas)] := by
    unfold Straight
    decide +kernel
  have hsize : r₃.scene.state.moodboard.length = 1 := by decide +kernel
  obtain ⟨-, -, hnoted, hweights⟩ :=
    walk_describes (.cons h₀ (.cons h₁ (.cons h₂ (.nil r₃)))) hs h₃
  obtain ⟨missing, hmissing, -, hmessage, hwarned⟩ := hweights weights rfl
  obtain rfl : missing = [2] := by
    rw [hmissing, hsize]
    decide
  rw [hcounter₃] at hnoted hwarned
  have htext : RunState.weightsMessage weights.length [2] =
      "Weights set for 1 item(s); no moodboard entry for index 2" := by decide +kernel
  exact ⟨hsize, hnoted.trans hsize, hmessage.trans htext,
    fun indices => (hwarned indices).trans (by simp)⟩

theorem Reached.nil_openLoops_iff (h : r.Reached e w) (hi : w[r.scene.state.counter]? = some i) :
    (w.walkBefore r.scene.state.counter).openLoops = [] ↔ r.scene.state.loops = [] := by
  obtain ⟨hlt, -⟩ := List.getElem?_eq_some_iff.mp hi
  have hloops := (h.nested.starts hlt).trans (openLoops_walkBefore (Nat.le_of_lt hlt)).symm
  have hindex : (w.walkBefore r.scene.state.counter).openLoops = [] ↔
      (w.walkBefore r.scene.state.counter).openLoops.map (·.index) = [] :=
    List.map_eq_nil_iff.symm
  rw [hindex, ← hloops, List.map_eq_nil_iff]
  rfl

/-- In a valid workflow, a run is in a loop where an instruction asks for one. -/
theorem Reached.loops_ne_nil (h : r.Reached e w) (hv : w.validate.isValid = true)
    (hi : w[r.scene.state.counter]? = some i) (hscoped : i.isLoopScoped = true) :
    r.scene.state.loops ≠ [] := by
  intro hnil
  have hopen := (h.nil_openLoops_iff hi).mpr hnil
  have hmem := (outsideLoop_mem_errors _ hscoped).mpr hopen
  exact not_mem_errors_of_isValid hv hi (by simp) hmem

/-- In a valid workflow, after visits one after the other of which none failed, a generation has
something to work from. -/
theorem Course.canGenerate (hc : Course e w (start e connected interruption files memory) us r)
    (hs : Straight e w us) (hd : r.Due w i) (hv : w.validate.isValid = true)
    (hi : i.isTrigger = true) : r.scene.state.canGenerate = true := by
  have h := hc.describes hs hd.going
  by_contra hcannot
  obtain ⟨hprompt, hcanvas, hmoodboard⟩ : r.scene.state.hasPrompt = false ∧
      r.scene.state.canvas.isSome = false ∧ r.scene.state.moodboard.length = 0 := by
    simpa [RunState.canGenerate, and_assoc] using hcannot
  have hmem := (nothingToGenerate_mem_errors _ hi).mpr
    ⟨h.hasPrompt.trans hprompt, h.hasCanvas.trans hcanvas, h.moodboardSize.trans hmoodboard⟩
  exact not_mem_errors_of_isValid hv hd.here (by simp) hmem

/-- After visits one after the other of which none failed, a generation in a valid workflow has
something to work from.  But a save does not render from the moodboard alone: without a prompt and a
canvas there is nothing that it saves. -/
theorem trigger_foreseen (hv : w.validate.isValid = true)
    (hc : Course e w (start e connected interruption files memory) us r) (hs : Straight e w us)
    (hd : r.Due w i) (hi : i.isTrigger = true) :
    (r.visitDue e w i).2 ≠ .failed (.fault .nothingToGenerate) ∧
      ((r.visitDue e w i).2 = .failed (.fault .nothingToSave) ↔
        i.isSave = true ∧ r.scene.state.hasPrompt = false ∧ r.scene.state.canvas = none) ∧
      ((r.visitDue e w i).2 = .failed (.fault .nothingToSave) →
        r.scene.state.moodboard ≠ [] ∧ (r.entryDue e w i).outcome = .failed ∧
          (r.entryDue e w i).message = "No prompt or canvas to save") := by
  have hcan := hc.canGenerate hs hd hv hi
  have hreached : r.Reached e w := ⟨connected, interruption, files, memory, us, hc⟩
  have hloops := hreached.loops_ne_nil hv hd.here
  obtain ⟨hgenerate, hsave⟩ := e.visit_of_isTrigger w r.scene r.scene.state.counter hi hloops hcan
  refine ⟨hgenerate, hsave, fun h => ⟨fun hmoodboard => ?_, ?_, ?_⟩⟩
  · obtain ⟨-, hprompt, hcanvas⟩ := hsave.mp h
    rw [RunState.canGenerate, hprompt, hcanvas, hmoodboard] at hcan
    cases hcan
  · rw [entryDue, h]
    rfl
  · rw [entryDue, h]
    rfl

/-- A generation from the moodboard alone. -/
theorem trigger_foreseen_generate :
    let w : Workflow := [.moodboardAdd "ref.png", .generate]
    let e := rehearsalEngine {}
    let files : FileTree := ⟨[(⟨["ref.png"]⟩, .file (.image (Image.solid .rgb 8 8 { c0 := 9 })))]⟩
    let r₁ := (start e true none files {}).visited e w (.moodboardAdd "ref.png")
    w.validate.isValid = true ∧ r₁.Due w .generate ∧ r₁.scene.state.hasPrompt = false ∧
      r₁.scene.state.canvas.isSome = false ∧ (r₁.entryDue e w .generate).outcome = .executed ∧
      (r₁.visitDue e w .generate).2 ≠ .failed (.fault .nothingToGenerate) := by
  intro w e files r₁
  have hv : w.validate.isValid = true := by decide +kernel
  have h₀ : (start e true none files {}).Due w (.moodboardAdd "ref.png") := ⟨rfl, rfl, rfl⟩
  have hs : Straight e w [(start e true none files {}, .moodboardAdd "ref.png")] := by
    unfold Straight
    decide +kernel
  have hcounter : r₁.scene.state.counter = 1 := by decide +kernel
  have h₁ : r₁.Due w .generate := ⟨by decide +kernel, by decide +kernel, by rw [hcounter]; rfl⟩
  obtain ⟨hgenerate, -⟩ := trigger_foreseen hv (.cons h₀ (.nil r₁)) hs h₁ rfl
  exact ⟨hv, h₁, by decide +kernel, by decide +kernel, by decide +kernel, hgenerate⟩

/-- A save that has the moodboard only fails, although validation finds no error. -/
theorem save_from_moodboard :
    let w : Workflow := [.moodboardAdd "ref.png", .canvasSave "out.png"]
    let e := rehearsalEngine {}
    let files : FileTree := ⟨[(⟨["ref.png"]⟩, .file (.image (Image.solid .rgb 8 8 { c0 := 9 })))]⟩
    let r₀ := start e true none files {}
    let r₁ := r₀.visited e w (.moodboardAdd "ref.png")
    w.validate.isValid = true ∧ Course e w r₀ [(r₀, .moodboardAdd "ref.png")] r₁ ∧
      Straight e w [(r₀, .moodboardAdd "ref.png")] ∧ r₁.Due w (.canvasSave "out.png") ∧
      (r₁.visitDue e w (.canvasSave "out.png")).2 = .failed (.fault .nothingToSave) ∧
      (r₁.entryDue e w (.canvasSave "out.png")).outcome = .failed ∧
      (r₁.entryDue e w (.canvasSave "out.png")).message = "No prompt or canvas to save" := by
  intro w e files r₀ r₁
  have hv : w.validate.isValid = true := by decide +kernel
  have h₀ : r₀.Due w (.moodboardAdd "ref.png") := ⟨rfl, rfl, rfl⟩
  have hs : Straight e w [(r₀, .moodboardAdd "ref.png")] := by
    unfold Straight
    decide +kernel
  have hcounter : r₁.scene.state.counter = 1 := by decide +kernel
  have h₁ : r₁.Due w (.canvasSave "out.png") :=
    ⟨by decide +kernel, by decide +kernel, by rw [hcounter]; rfl⟩
  have hprompt : r₁.scene.state.hasPrompt = false := by decide +kernel
  have hcanvas : r₁.scene.state.canvas = none := Option.isNone_iff_eq_none.mp (by decide +kernel)
  have hcan : r₁.scene.state.canGenerate = true := by decide +kernel
  have hloop : (Instruction.canvasSave "out.png").isLoopScoped = true →
      r₁.scene.state.loops ≠ [] := nofun
  have hfailed : (r₁.visitDue e w (.canvasSave "out.png")).2 = .failed (.fault .nothingToSave) :=
    (e.visit_of_isTrigger w r₁.scene _ rfl hloop hcan).2.mpr ⟨rfl, hprompt, hcanvas⟩
  refine ⟨hv, .cons h₀ (.nil r₁), hs, h₁, hfailed, ?_, ?_⟩
  · rw [entryDue, hfailed]
    rfl
  · rw [entryDue, hfailed]
    rfl

end Run

end ImageWorkflow
