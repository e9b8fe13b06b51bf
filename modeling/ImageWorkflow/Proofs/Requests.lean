import Mathlib
import ImageWorkflow.Proofs.ProviderMemory

/-!
# What a provider is asked for

A provider that keeps a list of what it is asked for answers as it does without the list.
* `Provider.recorded`, `Engine.recorded`, `Scene.recorded` : the same with such a list;
* `Engine.asked` : what one visit asks the provider for, as the list shows it; `Engine.requests` :
  what that is, by the instruction (`Engine.asked_eq`, `Engine.mem_asked`);
* `Provider.after` : the provider's memory after a request; `Engine.visit_memory` : what a visit
  leaves in it;
* `Engine.render_eq_ok`, `Engine.settleSave_eq_ok` : the call of a render, and of a save before it
  writes, if they succeed;
* `Engine.visit_recorded` : the list changes nothing in a visit;
* `Run.Course.recorded` : nor on the way of a run, where it grows by what the visits ask for.
-/

namespace ImageWorkflow

/-- What a provider is asked for. -/
inductive Request where
  | generate (call : GenerateCall)
  | tool (call : ToolCall)

/-- How the generation that a call asks for starts, as the images of the call tell it. -/
def GenerateCall.mode (call : GenerateCall) : GenerationMode :=
  match call.source, call.mask with
  | none, _ => .textToImage
  | some _, none => .imageToImage
  | some _, some _ => .inpainting

theorem RunState.mode_generateCall (s : RunState) (baseline : Generation) :
    (s.generateCall baseline).mode = s.mode := by
  unfold GenerateCall.mode RunState.mode generateCall canvasImage
  cases hcanvas : s.canvas with
  | none => simp
  | some canvas => cases hmask : s.mask <;> simp

variable {σ : Type}

/-- A provider that keeps a list of what it is asked for. -/
def Provider.recorded (p : Provider σ) : Provider (σ × List Request) where
  name := p.name
  info := p.info
  checkConnection := fun (memory, log) =>
    let (answer, memory) := p.checkConnection memory
    (answer, memory, log)
  generate := fun (memory, log) call =>
    let (reply, memory) := p.generate memory call
    (reply, memory, log ++ [.generate call])
  applyTool := fun (memory, log) call =>
    let (reply, memory) := p.applyTool memory call
    (reply, memory, log ++ [.tool call])
  models := fun (memory, log) =>
    let (answer, memory) := p.models memory
    (answer, memory, log)
  loras := fun (memory, log) =>
    let (answer, memory) := p.loras memory
    (answer, memory, log)
  checkInterruption := fun (memory, _) => p.checkInterruption memory

/-- The provider's memory after a request. -/
def Provider.after (p : Provider σ) (memory : σ) : Request → σ
  | .generate call => (p.generate memory call).2
  | .tool call => (p.applyTool memory call).2

theorem Provider.recorded_refines (p : Provider σ) : p.recorded.Refines p Prod.fst :=
  ⟨rfl, fun _ => rfl, fun _ _ => rfl, fun _ _ => rfl, fun _ => rfl⟩

theorem Provider.foldl_recorded (p : Provider σ) (requests : List Request) (memory : σ)
    (log : List Request) : requests.foldl p.recorded.after (memory, log) =
      (requests.foldl p.after memory, log ++ requests) := by
  induction requests generalizing memory log with
  | nil => rw [List.append_nil]; rfl
  | cons request requests ih =>
    have hafter : p.recorded.after (memory, log) request =
        (p.after memory request, log ++ [request]) := by
      cases request <;> rfl
    rw [List.foldl_cons, List.foldl_cons, hafter, ih, List.append_assoc, List.singleton_append]

/-- A scene with a list of what the provider was asked for. -/
def Scene.recorded (scene : Scene σ) (log : List Request) : Scene (σ × List Request) where
  state := scene.state
  images := scene.images
  files := scene.files
  memory := (scene.memory, log)
  progress := scene.progress

@[simp] theorem Scene.recorded_state (scene : Scene σ) (log : List Request) :
    (scene.recorded log).state = scene.state := rfl

@[simp] theorem Scene.recorded_files (scene : Scene σ) (log : List Request) :
    (scene.recorded log).files = scene.files := rfl

namespace Engine

/-- An engine whose provider keeps a list of what it is asked for. -/
def recorded (e : Engine σ) : Engine (σ × List Request) where
  provider := e.provider.recorded
  workingDirectory := e.workingDirectory
  plugins := e.plugins
  baseline := e.baseline
  checksConnection := e.checksConnection
  observers := e.observers
  now := e.now

/-- What the visit of the instruction at `index` asks the provider for. -/
def asked (e : Engine σ) (w : Workflow) (scene : Scene σ) (index : Nat) (i : Instruction) :
    List Request :=
  (e.recorded.visit w (scene.recorded []) index i).1.memory.2

/-! ## By the instruction -/

/-- What a render asks for. -/
def renderRequests (e : Engine σ) (s : RunState) : List Request :=
  if s.canGenerate && s.canFit then [.generate (s.fitMask.generateCall e.baseline)] else []

/-- What a save asks for. -/
def saveRequests (e : Engine σ) (s : RunState) : List Request :=
  if s.fresh && s.canvas.isSome then []
  else if s.hasPrompt then e.renderRequests s
  else []

/-- With a prompt in force, a save for which no image waits asks for what a render asks for. -/
theorem saveRequests_of_hasPrompt (e : Engine σ) {s : RunState}
    (hwaits : (s.fresh && s.canvas.isSome) = false) (hprompt : s.hasPrompt = true) :
    e.saveRequests s = e.renderRequests s := by
  rw [saveRequests, hwaits, if_neg Bool.false_ne_true, if_pos hprompt]

/-- What a tool asks for. -/
def toolRequests (s : RunState) (i : Instruction) : List Request :=
  match s.canvas with
  | some canvas => [.tool { tool := i.kind, image := canvas.image, parameters := toolParameters i }]
  | none => []

/-- What an instruction asks for. -/
def requests (e : Engine σ) (s : RunState) (i : Instruction) : List Request :=
  match toolTarget? i.kind with
  | some _ => toolRequests s i
  | none =>
    match i with
    | .generate => e.renderRequests s
    | .canvasSave _ => e.saveRequests s
    | .loopSave _ => if s.frame?.isSome then e.saveRequests s else []
    | _ => []

variable (e : Engine σ) (w : Workflow) (scene : Scene σ) (log : List Request) (index : Nat)

theorem render_memory : (e.render scene index).1.memory =
    (e.renderRequests scene.state).foldl e.provider.after scene.memory := by
  unfold render renderRequests
  by_cases hcan : scene.state.canGenerate = true
  · by_cases hfit : scene.state.canFit = true
    · rw [if_pos hcan, if_pos hfit, if_pos (Bool.and_eq_true_iff.mpr ⟨hcan, hfit⟩)]
      dsimp only
      split <;> rfl
    · rw [if_pos hcan, if_neg hfit, if_neg fun h => hfit (Bool.and_eq_true_iff.mp h).2]
      rfl
  · rw [if_neg hcan, if_neg fun h => hcan (Bool.and_eq_true_iff.mp h).1]
    rfl

theorem settleSave_memory : (e.settleSave scene index).1.memory =
    (e.saveRequests scene.state).foldl e.provider.after scene.memory := by
  have hrender := e.render_memory scene index
  unfold settleSave saveRequests
  split
  · rfl
  · split
    · generalize e.render scene index = result at hrender ⊢
      obtain ⟨after, answer⟩ := result
      cases answer <;> exact hrender
    · split <;> rfl

theorem renderAndSave_memory (name : String) : (e.renderAndSave scene index name).1.memory =
    (e.saveRequests scene.state).foldl e.provider.after scene.memory := by
  rw [← e.settleSave_memory scene index]
  unfold renderAndSave
  generalize e.settleSave scene index = result
  obtain ⟨after, answer⟩ := result
  cases answer with
  | error failure => rfl
  | ok source =>
    dsimp only
    split
    · rfl
    · split <;> rfl

theorem applyTool_memory (i : Instruction) (target : ToolTarget) :
    (e.applyTool scene i target).1.memory =
      (toolRequests scene.state i).foldl e.provider.after scene.memory := by
  unfold applyTool toolRequests RunState.requireCanvas
  cases scene.state.canvas with
  | none => rfl
  | some canvas =>
    dsimp only
    split
    · rfl
    · split <;> rfl

theorem requests_of_tool {s : RunState} {i : Instruction} {target : ToolTarget}
    (hi : toolTarget? i.kind = some target) : e.requests s i = toolRequests s i := by
  simp only [requests, hi]

theorem requests_of_isLocal {s : RunState} {i : Instruction} (hi : i.isLocal = true) :
    e.requests s i = [] := by
  cases i <;> first | rfl | cases hi

theorem requests_loopSave (s : RunState) (stem : String) : e.requests s (.loopSave stem) =
    if s.frame?.isSome then e.saveRequests s else [] := rfl

/-- A save outside of the loop that it asks for is refused; any other is of the canvas. -/
theorem save_cases {i : Instruction} (hi : i.isSave = true) :
    (e.conduct w scene index i = (scene, .error (.fault (.needsLoop .loopSave))) ∧
      e.requests scene.state i = []) ∨
    ∃ name, e.conduct w scene index i = e.renderAndSave scene index name ∧
      e.requests scene.state i = e.saveRequests scene.state := by
  cases i with
  | canvasSave name => exact .inr ⟨name, rfl, rfl⟩
  | loopSave stem =>
    rw [conduct_loopSave, requests_loopSave, RunState.requireFrame]
    cases scene.state.frame? with
    | none => exact .inl ⟨rfl, rfl⟩
    | some frame => exact .inr ⟨_, rfl, rfl⟩
  | _ => cases hi

/-- What an instruction leaves in the provider's memory. -/
theorem conduct_memory (i : Instruction) : (e.conduct w scene index i).1.memory =
    (e.requests scene.state i).foldl e.provider.after scene.memory := by
  obtain hlocal | ⟨target, htarget⟩ | rfl | ⟨name, rfl⟩ | ⟨stem, rfl⟩ := i.carrier_cases
  · rw [conduct_of_isLocal e w scene index hlocal, requests_of_isLocal e hlocal]
    split <;> rfl
  · rw [conduct_of_tool e w scene index htarget, requests_of_tool e htarget]
    exact e.applyTool_memory scene i target
  · have hrender := e.render_memory scene index
    rw [conduct_generate]
    generalize e.render scene index = result at hrender ⊢
    obtain ⟨after, answer⟩ := result
    cases answer <;> exact hrender
  · exact e.renderAndSave_memory scene index name
  · rw [requests_loopSave, conduct_loopSave, RunState.requireFrame]
    cases scene.state.frame? with
    | none => rfl
    | some frame => exact e.renderAndSave_memory scene index _

theorem visit_memory_requests (i : Instruction) : (e.visit w scene index i).1.memory =
    (if i.kind.support = .unsupported then []
      else e.requests (atVisit index scene).state i).foldl e.provider.after scene.memory := by
  by_cases hi : i.kind.support = .unsupported
  · rw [visit, if_pos hi, if_pos hi]
    rfl
  · have hconduct := e.conduct_memory w (atVisit index scene) index i
    rw [visit_of_not_unsupported e w scene index hi, if_neg hi]
    generalize e.conduct w (atVisit index scene) index i = result at hconduct ⊢
    obtain ⟨after, answer⟩ := result
    cases answer <;> exact hconduct

/-- What a visit asks for. -/
theorem asked_eq (i : Instruction) : e.asked w scene index i =
    if i.kind.support = .unsupported then [] else e.requests (atVisit index scene).state i := by
  have hmemory := e.recorded.visit_memory_requests w (scene.recorded []) index i
  rw [asked, hmemory]
  exact congrArg Prod.snd (e.provider.foldl_recorded _ scene.memory [])

/-- What a visit leaves in the provider's memory. -/
theorem visit_memory (i : Instruction) : (e.visit w scene index i).1.memory =
    (e.asked w scene index i).foldl e.provider.after scene.memory := by
  rw [asked_eq, visit_memory_requests]

/-- A list of what the provider was asked for changes nothing in a visit. -/
theorem visit_recorded (i : Instruction) : e.recorded.visit w (scene.recorded log) index i =
    ((e.visit w scene index i).1.recorded (log ++ e.asked w scene index i),
      (e.visit w scene index i).2) := by
  have hlog : (e.recorded.visit w (scene.recorded log) index i).1.memory.2 =
      log ++ e.asked w scene index i := by
    rw [e.recorded.visit_memory, e.recorded.asked_eq, asked_eq]
    exact congrArg Prod.snd (e.provider.foldl_recorded ..)
  have hvisit : e.visit w scene index i =
      (e.recorded.visit w (scene.recorded log) index i).map (·.forget Prod.fst) id :=
    e.visit_servedBy w (scene.recorded log) index e.provider.recorded_refines i
  rw [← hlog, hvisit]
  rfl

theorem mem_renderRequests {s : RunState} {request : Request} (h : request ∈ e.renderRequests s) :
    s.canGenerate = true ∧ request = .generate (s.fitMask.generateCall e.baseline) := by
  unfold renderRequests at h
  split at h
  · rename_i hcan
    exact ⟨(Bool.and_eq_true_iff.mp hcan).1, List.mem_singleton.mp h⟩
  · cases h

theorem mem_saveRequests {s : RunState} {request : Request} (h : request ∈ e.saveRequests s) :
    s.canGenerate = true ∧ request = .generate (s.fitMask.generateCall e.baseline) := by
  unfold saveRequests at h
  split at h
  · cases h
  · split at h
    · exact mem_renderRequests e h
    · cases h

/-- A visit asks for images, with the mask fitted, or for a tool that works on the canvas. -/
theorem mem_asked {i : Instruction} {request : Request} (h : request ∈ e.asked w scene index i) :
    (i.isTrigger = true ∧ scene.state.canGenerate = true ∧
      request = .generate ((atVisit index scene).state.fitMask.generateCall e.baseline)) ∨
    ∃ canvas, scene.state.canvas = some canvas ∧
      request = .tool { tool := i.kind, image := canvas.image, parameters := toolParameters i } := by
  rw [asked_eq] at h
  split at h
  · cases h
  obtain hlocal | ⟨target, htarget⟩ | rfl | ⟨name, rfl⟩ | ⟨stem, rfl⟩ := i.carrier_cases
  · rw [requests_of_isLocal e hlocal] at h
    cases h
  · rw [requests_of_tool e htarget, toolRequests] at h
    split at h
    · rename_i canvas hcanvas
      exact .inr ⟨canvas, hcanvas, List.mem_singleton.mp h⟩
    · cases h
  · exact .inl ⟨rfl, mem_renderRequests e h⟩
  · exact .inl ⟨rfl, mem_saveRequests e h⟩
  · rw [requests_loopSave] at h
    split at h
    · exact .inl ⟨rfl, mem_saveRequests e h⟩
    · cases h

/-- A render that succeeds made one call, in the mode that it reports, and put the first image of
the answer on the canvas. -/
theorem render_eq_ok {mode : GenerationMode} {count : Nat}
    (h : (e.render scene index).2 = .ok (mode, count)) :
    ∃ call first rest, e.renderRequests scene.state = [.generate call] ∧
      mode = call.mode ∧ count = rest.length + 1 ∧
      (e.provider.generate scene.memory call).1.result = .ok (first :: rest) ∧
      (e.render scene index).1.state.canvasImage = some first := by
  unfold render at h ⊢
  by_cases hcan : scene.state.canGenerate = true
  · rw [if_pos hcan] at h ⊢
    by_cases hfit : scene.state.canFit = true
    · rw [if_pos hfit] at h ⊢
      dsimp only at h ⊢
      split at h
      · cases h
      · cases h
      · rename_i first rest hresult
        cases h
        refine ⟨_, first, rest, if_pos (Bool.and_eq_true_iff.mpr ⟨hcan, hfit⟩), ?_, rfl, hresult,
          rfl⟩
        rw [RunState.mode_generateCall]
    · rw [if_neg hfit] at h
      cases h
  · rw [if_neg hcan] at h
    cases h

theorem renderRequests_of_settleSave {source : SaveSource}
    (hwaits : (scene.state.fresh && scene.state.canvas.isSome) = false)
    (hprompt : scene.state.hasPrompt = true) (h : (e.settleSave scene index).2 = .ok source) :
    ∃ call, e.renderRequests scene.state = [.generate call] := by
  unfold settleSave at h
  rw [hwaits, if_neg Bool.false_ne_true, if_pos hprompt] at h
  split at h
  · rename_i hrender
    obtain ⟨call, -, -, hrequests, -⟩ := e.render_eq_ok scene index (congrArg Prod.snd hrender)
    exact ⟨call, hrequests⟩
  · cases h

/-- A save takes the canvas as it is and asks for nothing, or it renders. -/
theorem settleSave_eq_ok {source : SaveSource} (h : (e.settleSave scene index).2 = .ok source) :
    (e.saveRequests scene.state = [] ∧
      (e.settleSave scene index).1.state.canvas = scene.state.canvas ∧
      (source = .pending ∧ scene.state.fresh = true ∨
        source = .canvas ∧ scene.state.fresh = false)) ∨
    ∃ call first rest, e.saveRequests scene.state = [.generate call] ∧
      source = .rendered call.mode ∧
      (e.provider.generate scene.memory call).1.result = .ok (first :: rest) ∧
      (e.settleSave scene index).1.state.canvasImage = some first := by
  unfold settleSave at h ⊢
  unfold saveRequests
  by_cases hwaits : (scene.state.fresh && scene.state.canvas.isSome) = true
  · rw [if_pos hwaits] at h ⊢
    rw [if_pos hwaits]
    cases h
    exact .inl ⟨rfl, rfl, .inl ⟨rfl, (Bool.and_eq_true_iff.mp hwaits).1⟩⟩
  rw [if_neg hwaits] at h ⊢
  rw [if_neg hwaits]
  by_cases hprompt : scene.state.hasPrompt = true
  · rw [if_pos hprompt] at h ⊢
    rw [if_pos hprompt]
    have hrender (mode : GenerationMode) (count : Nat)
        (hok : (e.render scene index).2 = .ok (mode, count)) := e.render_eq_ok scene index hok
    generalize e.render scene index = result at h hrender ⊢
    obtain ⟨after, answer⟩ := result
    cases answer with
    | error failure => cases h
    | ok answer =>
      obtain ⟨mode, count⟩ := answer
      cases h
      obtain ⟨call, first, rest, hrequests, rfl, -, hresult, hcanvas⟩ := hrender mode count rfl
      exact .inr ⟨call, first, rest, hrequests, rfl, hresult, hcanvas⟩
  · rw [if_neg hprompt] at h ⊢
    rw [if_neg hprompt]
    split at h
    · rename_i hcanvas
      rw [if_pos hcanvas]
      cases h
      rw [hcanvas, Bool.and_true] at hwaits
      exact .inl ⟨rfl, rfl, .inr ⟨rfl, Bool.not_eq_true _ ▸ hwaits⟩⟩
    · cases h

end Engine

/-! ## Runs -/

namespace Run
variable {e : Engine σ} {w : Workflow} {r r' : Run σ} {log : List Request}

/-- What the visit that is due asks the provider for. -/
def asked (e : Engine σ) (w : Workflow) (r : Run σ) (i : Instruction) : List Request :=
  e.asked w r.scene r.scene.state.counter i

/-- A run with a list of what the provider was asked for. -/
def recorded (r : Run σ) (log : List Request) : Run (σ × List Request) where
  scene := r.scene.recorded log
  entries := r.entries
  events := r.events
  fatalError := r.fatalError
  cancelRequested := r.cancelRequested
  ending := r.ending

theorem visited_recorded (i : Instruction) : (r.recorded log).visited e.recorded w i =
    (r.visited e w i).recorded (log ++ r.asked e w i) := by
  have hvisit : (r.recorded log).visitDue e.recorded w i =
      ((r.visitDue e w i).1.recorded (log ++ r.asked e w i), (r.visitDue e w i).2) :=
    Engine.visit_recorded e w r.scene log r.scene.state.counter i
  have hlog : ((r.recorded log).visited e.recorded w i).scene.memory.2 =
      log ++ r.asked e w i := by
    rw [visited_scene, hvisit]
    rfl
  have hvisited : r.visited e w i =
      ((r.recorded log).visited e.recorded w i).forget Prod.fst :=
    visited_servedBy e.provider.recorded_refines (r.recorded log) i
  rw [← hlog, hvisited]
  rfl

theorem Due.recorded {i : Instruction} (h : r.Due w i) : (r.recorded log).Due w i :=
  ⟨h.going, h.unasked, h.here⟩

/-- On the way of a run the list grows by what each visit asks for. -/
theorem Course.recorded {vs : List (Run σ × Instruction)} (h : Course e w r vs r')
    (log : List Request) : ∃ vs', Course e.recorded w (r.recorded log) vs'
      (r'.recorded (log ++ vs.flatMap fun v => v.1.asked e w v.2)) := by
  induction h generalizing log with
  | nil r => exact ⟨[], by simpa using .nil _⟩
  | cons hd _ ih =>
    rename_i r _ i vs _
    obtain ⟨vs', hc⟩ := ih (log ++ r.asked e w i)
    rw [← visited_recorded, List.append_assoc] at hc
    rw [List.flatMap_cons]
    exact ⟨(r.recorded log, i) :: vs', .cons hd.recorded hc⟩

end Run

end ImageWorkflow
