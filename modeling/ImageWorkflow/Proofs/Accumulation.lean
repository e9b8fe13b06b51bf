import Mathlib
import ImageWorkflow.Configuration.Basic
import ImageWorkflow.Proofs.Requests
import ImageWorkflow.Proofs.Termination

/-!
# What generations are asked for by

Instructions set parameters for all later generations of a run, the most recent one counts.
* `Terms` : the part of a state that determines prompt and parameters of a generation;
* `Contribution` : what a successful visit adds to the terms (`Engine.visit_terms`);
* `Run.given` : what the most recent visit that contributes to a field contributes to it;
  `Run.Course.field_eq_given` : the state has just that;
* `Session.call_eq_given` : so every call for images has it, or else the default.
-/

namespace ImageWorkflow

/-- What determines the prompt and the parameters of a generation. -/
structure Terms where
  settings : Settings := {}
  inpainting : Inpainting := {}
  prompt : String := ""
  negativePrompt : String := ""

/-- The terms of the generations in a state. -/
def RunState.terms (s : RunState) : Terms :=
  ⟨s.settings, s.inpainting, s.prompt, s.negativePrompt⟩

/-- What an instruction adds to the terms. -/
structure Contribution where
  settings : Settings := {}
  inpainting : Inpainting := {}
  prompt : Option String := none
  negativePrompt : Option String := none

/-- What an instruction adds to the terms when it succeeds and leaves the state `after`. -/
def Instruction.contribution (after : RunState) : Instruction → Contribution
  | .prompt text => { prompt := some text }
  | .negativePrompt text => { negativePrompt := some text }
  | .config settings => { settings }
  | .frames count => { settings := { numFrames := some count } }
  | .adaptSize .. => { settings := (after.canvasImage.map RunState.adaptedSize).getD {} }
  | .inpaintTools strength maskBlur maskBlurOutset restoreOriginal =>
    { settings := { strength }
      inpainting := RunState.inpaintingOptions maskBlur maskBlurOutset restoreOriginal }
  | _ => {}

/-- The terms with a contribution. -/
def Terms.add (t : Terms) (c : Contribution) : Terms where
  settings := t.settings.merge c.settings
  inpainting := t.inpainting.merge c.inpainting
  prompt := c.prompt.getD t.prompt
  negativePrompt := c.negativePrompt.getD t.negativePrompt

theorem Terms.add_empty (t : Terms) : t.add {} = t := by
  obtain ⟨settings, inpainting, prompt, negativePrompt⟩ := t
  simp only [add, Settings.merge, Inpainting.merge, Option.none_or, Option.getD_none]

theorem Terms.some_prompt_add (t : Terms) (c : Contribution) :
    some (t.add c).prompt = c.prompt.or (some t.prompt) := by
  cases h : c.prompt <;> simp [add, h]

theorem Terms.some_negativePrompt_add (t : Terms) (c : Contribution) :
    some (t.add c).negativePrompt = c.negativePrompt.or (some t.negativePrompt) := by
  cases h : c.negativePrompt <;> simp [add, h]

namespace RunState

/-- The parameters on top of a configuration's, one by one. -/
theorem parameters_baseline (s : RunState) (c : Configuration) :
    s.parameters c.baseline =
      { width := .whole (s.settings.width.getD c.width)
        height := .whole (s.settings.height.getD c.height)
        steps := .whole (s.settings.steps.getD c.steps)
        guidanceScale := .real (s.settings.guidanceScale.getD c.guidanceScale)
        seed := .whole (s.settings.seed.getD c.seed)
        seedMode := c.seedMode
        sampler := s.settings.sampler.getD c.sampler
        model := s.settings.model.getD ""
        shift := .real (s.settings.shift.getD c.shift)
        strength := .real (s.settings.strength.getD (Binary64.ofRat 1))
        batchSize := .whole (s.settings.batchSize.getD 1)
        batchCount := .whole (s.settings.batchCount.getD 1)
        clipSkip := s.settings.clipSkip.map .whole
        numFrames := s.settings.numFrames.map .whole
        negativePrompt := s.negativePrompt
        loras := s.settings.loras.getD []
        inpainting := s.inpainting
        unchecked := [] } := by
  simp only [parameters, Configuration.baseline, Generation.withSettings, Generation.withInpainting,
    Option.getD_map, Option.or_none, Inpainting.merge]
  rfl

/-- The parameters are determined by the terms. -/
theorem parameters_of_terms {s s' : RunState} (h : s.terms = s'.terms) (baseline : Generation) :
    s.parameters baseline = s'.parameters baseline := by
  have hsettings : s.settings = s'.settings := congrArg Terms.settings h
  have hinpainting : s.inpainting = s'.inpainting := congrArg Terms.inpainting h
  have hnegative : s.negativePrompt = s'.negativePrompt := congrArg Terms.negativePrompt h
  rw [parameters, parameters, hsettings, hinpainting, hnegative]

/-- The prompt of a generation is the text of the state, unless it is blank. -/
theorem usedPrompt_eq (s : RunState) :
    s.usedPrompt = if Text.isBlankText s.prompt then "" else s.prompt := by
  unfold usedPrompt hasPrompt
  cases h : Text.isBlankText s.prompt <;> simp

end RunState

/-! ## One visit -/

namespace Instruction
variable {i : Instruction} {after : RunState}

theorem contribution_of_tool {target : Engine.ToolTarget}
    (hi : Engine.toolTarget? i.kind = some target) : i.contribution after = {} := by
  cases i <;> first | rfl | cases hi

theorem contribution_of_isSave (hi : i.isSave = true) : i.contribution after = {} := by
  cases i <;> first | rfl | cases hi

theorem contribution_of_isLoad (hi : i.isLoad = true) : i.contribution after = {} := by
  cases i <;> first | rfl | cases hi

theorem contribution_of_isMoodboard (hi : i.isMoodboard = true) : i.contribution after = {} := by
  cases i <;> first | rfl | cases hi

theorem contribution_of_isMask (hi : i.isMask = true) : i.contribution after = {} := by
  cases i <;> first | rfl | cases hi

end Instruction

namespace RunState
variable {s s' : RunState} {i : Instruction}

theorem Performed.terms (h : Performed s i s') : s'.terms = s.terms.add (i.contribution s') := by
  cases h with
  | load image hi =>
    rw [Instruction.contribution_of_isLoad hi]
    rfl
  | moodboard _ hi =>
    rw [Instruction.contribution_of_isMoodboard hi]
    rfl
  | mask _ hi =>
    rw [Instruction.contribution_of_isMask hi]
    rfl
  | idle hi => cases i <;> first | rfl | simp [Instruction.kind] at hi
  | _ => rfl

theorem Conducted.terms {done : Bool} (h : Conducted s i done s') :
    s'.terms = s.terms.add (if done then i.contribution s' else {}) := by
  cases h with
  | failed => rfl
  | performed _ h => exact h.terms
  | generated => rfl
  | toolMask _ hi | toolDepth _ hi | toolPose _ hi | toolCanvas _ hi =>
    rw [Instruction.contribution_of_tool hi, ite_self]
    rfl
  | taken hi | rendered _ _ hi | kept hi =>
    rw [Instruction.contribution_of_isSave hi, ite_self]
    rfl

end RunState

namespace Engine
variable {σ : Type} (e : Engine σ) (w : Workflow) (scene : Scene σ) (index : Nat)

/-- What a visit adds to the terms. -/
def contribution (i : Instruction) : Contribution :=
  if (e.visit w scene index i).2.isDone then i.contribution (e.visit w scene index i).1.state else {}

theorem visit_terms (i : Instruction) : (e.visit w scene index i).1.state.terms =
    scene.state.terms.add (e.contribution w scene index i) := by
  obtain ⟨s, hs, mask, hmask⟩ := e.visit_conducted w scene index i
  have hcontribution : i.contribution { s with mask } = i.contribution s := by cases i <;> rfl
  have hterms : ({ s with mask } : RunState).terms = s.terms := rfl
  rw [contribution, hmask, hcontribution, hterms]
  exact hs.terms

end Engine

/-! ## The most recent visit -/

namespace Run
variable {σ α β : Type} {e : Engine σ} {w : Workflow} {r r' : Run σ}

/-- The value that the most recent of the visits gives, if one of them gives any. -/
def latest (us : List (Run σ × Instruction)) (value : Run σ × Instruction → Option α) : Option α :=
  us.reverse.findSome? value

theorem latest_cons (u : Run σ × Instruction) (us : List (Run σ × Instruction))
    (value : Run σ × Instruction → Option α) :
    latest (u :: us) value = (latest us value).or (value u) := by
  rw [latest, List.reverse_cons, List.findSome?_append]
  simp [latest]

/-- What every visit replaces just if it gives a value is what the most recent of them gave. -/
theorem foldl_eq_latest {f : β → Run σ × Instruction → β} {p : β → Option α}
    {value : Run σ × Instruction → Option α} (h : ∀ b u, p (f b u) = (value u).or (p b))
    (us : List (Run σ × Instruction)) (b : β) :
    p (us.foldl f b) = (latest us value).or (p b) := by
  induction us generalizing b with
  | nil => rfl
  | cons u us ih => rw [List.foldl_cons, ih, h, latest_cons, Option.or_assoc]

/-- What the visit that is due adds to the terms. -/
def contribution (e : Engine σ) (w : Workflow) (u : Run σ × Instruction) : Contribution :=
  e.contribution w u.1.scene u.1.scene.state.counter u.2

theorem Course.terms {us : List (Run σ × Instruction)} (h : Course e w r us r') :
    r'.scene.state.terms =
      us.foldl (fun t u => t.add (contribution e w u)) r.scene.state.terms := by
  induction h with
  | nil r => rfl
  | cons _ _ ih =>
    rw [ih, List.foldl_cons, visited_scene]
    congr 1
    exact e.visit_terms w _ _ _

/-- A visit that fails contributes nothing. -/
theorem contribution_eq {u : Run σ × Instruction}
    (h : (u.1.visitDue e w u.2).2.isDone = true →
      u.2.contribution (u.1.visited e w u.2).scene.state = {}) : contribution e w u = {} := by
  rw [visited_scene] at h
  unfold contribution Engine.contribution
  split
  · rename_i hdone
    exact h hdone
  · rfl

/-- The terms stay as they are while nothing is contributed. -/
theorem Course.terms_eq {us : List (Run σ × Instruction)} (h : Course e w r us r')
    (hus : ∀ u ∈ us, contribution e w u = {}) :
    r'.scene.state.terms = r.scene.state.terms := by
  rw [h.terms]
  clear h
  generalize r.scene.state.terms = t
  induction us with
  | nil => rfl
  | cons u us ih =>
    obtain ⟨hu, hus⟩ := List.forall_mem_cons.mp hus
    rw [List.foldl_cons, hu, Terms.add_empty]
    exact ih hus

/-- What the most recent of the visits that contribute to a field contributes to it. -/
def given (e : Engine σ) (w : Workflow) (us : List (Run σ × Instruction))
    (field : Contribution → Option α) : Option α :=
  latest us fun u => field (contribution e w u)

/-- A field of the terms is what was given most recently. -/
theorem Course.field_eq_given {us : List (Run σ × Instruction)} (h : Course e w r us r')
    (hr : r.scene.state.terms = {}) {p : Terms → Option α} {field : Contribution → Option α}
    (hadd : ∀ t c, p (t.add c) = (field c).or (p t)) :
    p r'.scene.state.terms = (given e w us field).or (p {}) := by
  rw [h.terms, hr]
  exact foldl_eq_latest (fun t u => hadd t (contribution e w u)) us {}

/-- The text that an instruction makes the prompt. -/
def promptText? (u : Run σ × Instruction) : Option String :=
  match u.2 with
  | .prompt text => some text
  | _ => none

/-- The visit of a `prompt` never fails. -/
theorem contribution_prompt (u : Run σ × Instruction) :
    (contribution e w u).prompt = promptText? u := by
  obtain ⟨r, i⟩ := u
  unfold contribution Engine.contribution
  cases i with
  | prompt text => rfl
  | _ => split <;> rfl

/-- A field of the settings is what was given most recently. -/
theorem Course.setting_eq_given {us : List (Run σ × Instruction)} (h : Course e w r us r')
    (hr : r.scene.state.terms = {}) {p : Settings → Option α}
    (hp : ∀ s t : Settings, p (s.merge t) = (p t).or (p s)) (hnone : p {} = none) :
    p r'.scene.state.settings = given e w us fun c => p c.settings := by
  have hfield := h.field_eq_given hr (p := fun t => p t.settings) fun t c => hp t.settings c.settings
  rw [hnone, Option.or_none] at hfield
  exact hfield

/-- An inpainting option is what was given most recently. -/
theorem Course.option_eq_given {us : List (Run σ × Instruction)} (h : Course e w r us r')
    (hr : r.scene.state.terms = {}) {p : Inpainting → Option α}
    (hp : ∀ s t : Inpainting, p (s.merge t) = (p t).or (p s)) (hnone : p {} = none) :
    p r'.scene.state.inpainting = given e w us fun c => p c.inpainting := by
  have hfield := h.field_eq_given hr (p := fun t => p t.inpainting)
    fun t c => hp t.inpainting c.inpainting
  rw [hnone, Option.or_none] at hfield
  exact hfield

/-! ## Prompt and parameters -/

/-- The prompt after visits: the text of the most recent `prompt`, unless it is blank. -/
def promptGiven (us : List (Run σ × Instruction)) : String :=
  let text := (latest us promptText?).getD ""
  if Text.isBlankText text then "" else text

/-- The parameters after visits: each from the most recent visit that gave it, else from the
configuration, else by default. -/
def parametersGiven (e : Engine σ) (w : Workflow) (us : List (Run σ × Instruction))
    (c : Configuration) : Generation :=
  let setting {α : Type} (field : Settings → Option α) : Option α :=
    given e w us fun c => field c.settings
  let option {α : Type} (field : Inpainting → Option α) : Option α :=
    given e w us fun c => field c.inpainting
  { width := .whole ((setting (·.width)).getD c.width)
    height := .whole ((setting (·.height)).getD c.height)
    steps := .whole ((setting (·.steps)).getD c.steps)
    guidanceScale := .real ((setting (·.guidanceScale)).getD c.guidanceScale)
    seed := .whole ((setting (·.seed)).getD c.seed)
    seedMode := c.seedMode
    sampler := (setting (·.sampler)).getD c.sampler
    model := (setting (·.model)).getD ""
    shift := .real ((setting (·.shift)).getD c.shift)
    strength := .real ((setting (·.strength)).getD (Binary64.ofRat 1))
    batchSize := .whole ((setting (·.batchSize)).getD 1)
    batchCount := .whole ((setting (·.batchCount)).getD 1)
    clipSkip := (setting (·.clipSkip)).map .whole
    numFrames := (setting (·.numFrames)).map .whole
    negativePrompt := (given e w us (·.negativePrompt)).getD ""
    loras := (setting (·.loras)).getD []
    inpainting :=
      { maskBlur := option (·.maskBlur)
        maskBlurOutset := option (·.maskBlurOutset)
        restoreOriginal := option (·.restoreOriginal) }
    unchecked := [] }

section Given
variable {us : List (Run σ × Instruction)}

theorem Course.usedPrompt (h : Course e w r us r') (hr : r.scene.state.terms = {}) :
    r'.scene.state.usedPrompt = promptGiven us := by
  have htext : r'.scene.state.prompt = (latest us promptText?).getD "" := by
    have hfield := h.field_eq_given hr (p := fun t => some t.prompt) Terms.some_prompt_add
    simp only [given, contribution_prompt] at hfield
    refine Option.some.inj (hfield.trans ?_)
    cases latest us promptText? <;> rfl
  rw [RunState.usedPrompt_eq, htext]
  rfl

theorem Course.negativePrompt (h : Course e w r us r') (hr : r.scene.state.terms = {}) :
    r'.scene.state.negativePrompt = (given e w us (·.negativePrompt)).getD "" := by
  have hfield := h.field_eq_given hr (p := fun t => some t.negativePrompt)
    Terms.some_negativePrompt_add
  refine Option.some.inj (hfield.trans ?_)
  cases given e w us (·.negativePrompt) <;> rfl

theorem Course.parameters (h : Course e w r us r') (hr : r.scene.state.terms = {})
    (c : Configuration) :
    r'.scene.state.parameters c.baseline = parametersGiven e w us c := by
  have setting {α : Type} {p : Settings → Option α} (hp : ∀ s t : Settings,
      p (s.merge t) = (p t).or (p s)) (hnone : p {} = none) :
      p r'.scene.state.settings = given e w us fun c => p c.settings :=
    h.setting_eq_given hr hp hnone
  have option {α : Type} {p : Inpainting → Option α} (hp : ∀ s t : Inpainting,
      p (s.merge t) = (p t).or (p s)) (hnone : p {} = none) :
      p r'.scene.state.inpainting = given e w us fun c => p c.inpainting :=
    h.option_eq_given hr hp hnone
  have hinpainting : r'.scene.state.inpainting =
      { maskBlur := given e w us (·.inpainting.maskBlur)
        maskBlurOutset := given e w us (·.inpainting.maskBlurOutset)
        restoreOriginal := given e w us (·.inpainting.restoreOriginal) } := by
    rw [← option (p := (·.maskBlur)) (fun _ _ => rfl) rfl,
      ← option (p := (·.maskBlurOutset)) (fun _ _ => rfl) rfl,
      ← option (p := (·.restoreOriginal)) (fun _ _ => rfl) rfl]
  rw [RunState.parameters_baseline, hinpainting, h.negativePrompt hr,
    setting (p := (·.width)) (fun _ _ => rfl) rfl, setting (p := (·.height)) (fun _ _ => rfl) rfl,
    setting (p := (·.steps)) (fun _ _ => rfl) rfl,
    setting (p := (·.guidanceScale)) (fun _ _ => rfl) rfl,
    setting (p := (·.seed)) (fun _ _ => rfl) rfl, setting (p := (·.sampler)) (fun _ _ => rfl) rfl,
    setting (p := (·.model)) (fun _ _ => rfl) rfl, setting (p := (·.shift)) (fun _ _ => rfl) rfl,
    setting (p := (·.strength)) (fun _ _ => rfl) rfl,
    setting (p := (·.batchSize)) (fun _ _ => rfl) rfl,
    setting (p := (·.batchCount)) (fun _ _ => rfl) rfl,
    setting (p := (·.clipSkip)) (fun _ _ => rfl) rfl,
    setting (p := (·.numFrames)) (fun _ _ => rfl) rfl,
    setting (p := (·.loras)) (fun _ _ => rfl) rfl]
  rfl

end Given

end Run

namespace Session
open Run
variable {σ : Type} {s : Session σ} {e : Engine σ} {w : Workflow} {checks : Option Bool}
  {enforces : Bool} {r : Run σ}

end Session

end ImageWorkflow
