import Mathlib
import ImageWorkflow.Proofs.Effects
import ImageWorkflow.Proofs.Termination

/-!
# Providers that remember more

A run depends on its provider by what the provider answers, not by what it remembers.
* `Provider.Refines p' p f` : `p'` answers as `p` does, and `f` forgets what it remembers besides;
* `Engine.servedBy` : the same engine with another provider;
* `Engine.visit_servedBy`, `Run.visits_servedBy`, `Session.run_servedBy` : with `p'` in place of
  `p`, visits, runs and sessions are the same, once the difference is forgotten.
-/

namespace ImageWorkflow
variable {σ τ : Type}

/-- The provider `p'` answers as `p` does, and `f` forgets what it remembers besides. -/
structure Provider.Refines (p' : Provider τ) (p : Provider σ) (f : τ → σ) : Prop where
  name : p'.name = p.name
  check (memory : τ) : p.checkConnection (f memory) =
    Prod.map id f (p'.checkConnection memory)
  generate (memory : τ) (call : GenerateCall) :
    p.generate (f memory) call = Prod.map id f (p'.generate memory call)
  tool (memory : τ) (call : ToolCall) :
    p.applyTool (f memory) call = Prod.map id f (p'.applyTool memory call)
  interruption (memory : τ) : p.checkInterruption (f memory) = p'.checkInterruption memory

/-- The same engine with another provider. -/
def Engine.servedBy (e : Engine σ) (p : Provider τ) : Engine τ where
  provider := p
  workingDirectory := e.workingDirectory
  plugins := e.plugins
  baseline := e.baseline
  checksConnection := e.checksConnection
  observers := e.observers
  now := e.now

/-- A scene with less in the provider's memory. -/
def Scene.forget (f : τ → σ) (scene : Scene τ) : Scene σ where
  state := scene.state
  images := scene.images
  files := scene.files
  memory := f scene.memory
  progress := scene.progress

@[simp] theorem Scene.forget_state (f : τ → σ) (scene : Scene τ) :
    (scene.forget f).state = scene.state := rfl

@[simp] theorem Scene.forget_files (f : τ → σ) (scene : Scene τ) :
    (scene.forget f).files = scene.files := rfl

/-- A run with less in the provider's memory. -/
def Run.forget (f : τ → σ) (r : Run τ) : Run σ where
  scene := r.scene.forget f
  entries := r.entries
  events := r.events
  fatalError := r.fatalError
  cancelRequested := r.cancelRequested
  ending := r.ending

/-- A session with less in the provider's memory. -/
def Session.forget (f : τ → σ) (s : Session τ) : Session σ where
  status := s.status
  files := s.files
  memory := f s.memory

/-! ## Visits -/

namespace Engine
variable {p : Provider τ} {f : τ → σ} (e : Engine σ) (w : Workflow) (scene : Scene τ) (index : Nat)
  (h : p.Refines e.provider f)
include h

theorem render_servedBy : e.render (scene.forget f) index =
    Prod.map (·.forget f) id ((e.servedBy p).render scene index) := by
  unfold render
  rw [Scene.forget_state]
  by_cases hcan : scene.state.canGenerate = true
  · rw [if_pos hcan, if_pos hcan]
    by_cases hfit : scene.state.canFit = true
    · rw [if_pos hfit, if_pos hfit]
      have hcall := h.generate scene.memory (scene.state.fitMask.generateCall e.baseline)
      dsimp -iota -proj only [Scene.forget, servedBy]
      rw [hcall]
      dsimp only [Prod.map, id]
      split <;> rfl
    · rw [if_neg hfit, if_neg hfit]
      rfl
  · rw [if_neg hcan, if_neg hcan]
    rfl

theorem settleSave_servedBy : e.settleSave (scene.forget f) index =
    Prod.map (·.forget f) id ((e.servedBy p).settleSave scene index) := by
  cases hwaits : scene.state.fresh && scene.state.canvas.isSome with
  | true =>
    simp only [settleSave, Scene.forget_state, hwaits, if_true]
    rfl
  | false =>
    simp only [settleSave, Scene.forget_state, hwaits, Bool.false_eq_true, if_false,
      e.render_servedBy scene index h]
    by_cases hprompt : scene.state.hasPrompt = true
    · rw [if_pos hprompt, if_pos hprompt]
      generalize (e.servedBy p).render scene index = result
      obtain ⟨after, answer⟩ := result
      cases answer <;> rfl
    · rw [if_neg hprompt, if_neg hprompt, apply_ite (Prod.map (Scene.forget f) id)]
      rfl

theorem renderAndSave_servedBy (name : String) : e.renderAndSave (scene.forget f) index name =
    Prod.map (·.forget f) id ((e.servedBy p).renderAndSave scene index name) := by
  simp only [renderAndSave, e.settleSave_servedBy scene index h]
  generalize (e.servedBy p).settleSave scene index = result
  obtain ⟨after, answer⟩ := result
  cases answer with
  | error failure => rfl
  | ok source =>
    simp only [Prod.map, Scene.forget_state, Scene.forget_files, id]
    cases after.state.canvas with
    | none => rfl
    | some canvas =>
      have hsave : (e.servedBy p).save after.files canvas.image name
          ((e.servedBy p).saveParameters after.state index) =
        e.save after.files canvas.image name (e.saveParameters after.state index) := rfl
      dsimp only
      rw [hsave]
      split <;> rfl

theorem applyTool_servedBy (i : Instruction) (target : ToolTarget) :
    e.applyTool (scene.forget f) i target =
      Prod.map (·.forget f) id ((e.servedBy p).applyTool scene i target) := by
  unfold applyTool
  rw [Scene.forget_state]
  split
  · rfl
  · rename_i image _
    have hcall := h.tool scene.memory { tool := i.kind, image, parameters := toolParameters i }
    dsimp -iota -proj only [Scene.forget, servedBy]
    rw [hcall]
    dsimp only [Prod.map, id]
    split
    · rfl
    · split <;> rfl

theorem conduct_servedBy (i : Instruction) : e.conduct w (scene.forget f) index i =
    Prod.map (·.forget f) id ((e.servedBy p).conduct w scene index i) := by
  obtain hlocal | ⟨target, htarget⟩ | rfl | ⟨name, rfl⟩ | ⟨stem, rfl⟩ := i.carrier_cases
  · rw [e.conduct_of_isLocal w _ index hlocal, (e.servedBy p).conduct_of_isLocal w _ index hlocal]
    dsimp only [servedBy, Scene.forget]
    split <;> rfl
  · rw [e.conduct_of_tool w _ index htarget, (e.servedBy p).conduct_of_tool w _ index htarget]
    exact e.applyTool_servedBy scene h i target
  · rw [conduct_generate, conduct_generate, e.render_servedBy scene index h]
    generalize (e.servedBy p).render scene index = result
    obtain ⟨after, answer⟩ := result
    cases answer <;> rfl
  · exact e.renderAndSave_servedBy scene index h name
  · rw [conduct_loopSave, conduct_loopSave]
    simp only [Scene.forget]
    split
    · exact e.renderAndSave_servedBy scene index h _
    · rfl

theorem visit_servedBy (i : Instruction) : e.visit w (scene.forget f) index i =
    Prod.map (·.forget f) id ((e.servedBy p).visit w scene index i) := by
  by_cases hi : i.kind.support = .unsupported
  · rw [visit, visit, if_pos hi, if_pos hi]
    rfl
  · have hconduct := e.conduct_servedBy w (atVisit index scene) index h i
    have hat : atVisit index (scene.forget f) = (atVisit index scene).forget f := rfl
    rw [e.visit_of_not_unsupported w _ index hi,
      (e.servedBy p).visit_of_not_unsupported w _ index hi, hat, hconduct]
    generalize (e.servedBy p).conduct w (atVisit index scene) index i = result
    obtain ⟨after, answer⟩ := result
    cases answer <;> rfl

theorem breaks_servedBy (i : Instruction) : e.breaks w (scene.forget f) index i =
    (e.servedBy p).breaks w scene index i := by
  have hconduct := e.conduct_servedBy w (atVisit index scene) index h i
  have hat : atVisit index (scene.forget f) = (atVisit index scene).forget f := rfl
  rw [Bool.eq_iff_iff, breaks_iff, breaks_iff, hat, hconduct]
  generalize (e.servedBy p).conduct w (atVisit index scene) index i = result
  obtain ⟨after, answer⟩ := result
  simp [Prod.ext_iff]

end Engine

/-! ## Runs -/

namespace Run
variable {p : Provider τ} {f : τ → σ} {e : Engine σ} {w : Workflow} {r r' : Run τ} {i : Instruction}
  {vs : List (Run τ × Instruction)}

theorem forget_emit (event : Event) :
    (r.emit (e.servedBy p) event).forget f = (r.forget f).emit e event := rfl

theorem forget_emitProgress (index : Nat) (progress : List Progress) :
    (r.emitProgress (e.servedBy p) index progress).forget f =
      (r.forget f).emitProgress e index progress := by
  unfold emitProgress
  induction progress generalizing r with
  | nil => rfl
  | cons progress rest ih => exact ih

theorem forget_conclude (index : Nat) (iteration : Option Int)
    (result : Scene τ × Engine.Verdict) :
    (conclude (e.servedBy p) r index i iteration result).forget f =
      conclude e (r.forget f) index i iteration (result.map (·.forget f) id) := by
  have hprogress : (r.forget f).emitProgress e index (result.1.forget f).progress =
      (r.emitProgress (e.servedBy p) index result.1.progress).forget f :=
    (forget_emitProgress ..).symm
  simp only [conclude, Prod.map_fst, Prod.map_snd, id, hprogress]
  generalize r.emitProgress (e.servedBy p) index result.1.progress = after
  by_cases h : endingAfter after.cancelRequested result.2 = .abandoned
  · rw [if_pos h]
    exact (if_pos h).symm
  · rw [if_neg h]
    exact (if_neg h).symm

/-- A run that is about to visit an instruction, with less in the provider's memory. -/
def forgetDue (f : τ → σ) (v : Run τ × Instruction) : Run σ × Instruction := (v.1.forget f, v.2)

theorem Due.forget (hd : r.Due w i) : (r.forget f).Due w i := ⟨hd.going, hd.unasked, hd.here⟩

theorem Ends.forget (he : Ends w r r') : Ends w (r.forget f) (r'.forget f) := by
  cases he with
  | finished hgoing hend => exact .finished hgoing hend
  | aborted hfatal => exact .aborted hfatal
  | cancelled hgoing hasked hhere => exact .cancelled hgoing hasked hhere

section
variable (h : p.Refines e.provider f)
include h

theorem visitDue_servedBy (r : Run τ) (i : Instruction) : (r.forget f).visitDue e w i =
    (r.visitDue (e.servedBy p) w i).map (·.forget f) id :=
  e.visit_servedBy w r.scene _ h i

theorem visited_servedBy (r : Run τ) (i : Instruction) : (r.forget f).visited e w i =
    (r.visited (e.servedBy p) w i).forget f := by
  rw [visited_eq_conclude, visited_eq_conclude, forget_conclude, visitDue_servedBy h]
  rfl

theorem breakOff_servedBy (r : Run τ) (index : Nat) (i : Instruction) :
    (r.forget f).breakOff e w index i = (r.breakOff (e.servedBy p) w index i).forget f := by
  have hvisit := e.visit_servedBy w r.scene index h i
  show { ((r.forget f).emit e _).emitProgress e index
      (e.visit w (r.scene.forget f) index i).1.progress with
    scene := (e.visit w (r.scene.forget f) index i).1
    ending := .broken } = _
  rw [hvisit, ← forget_emit, ← forget_emitProgress]
  rfl

theorem breaks_servedBy (v : Run τ × Instruction) :
    Breaks e w (forgetDue f v) ↔ Breaks (e.servedBy p) w v := by
  rw [Breaks, Breaks, ← e.breaks_servedBy w v.1.scene _ h v.2]
  rfl

theorem Course.forget (hc : Course (e.servedBy p) w r vs r') :
    Course e w (r.forget f) (vs.map (forgetDue f)) (r'.forget f) := by
  induction hc with
  | nil r => exact .nil _
  | cons hd _ ih =>
    refine .cons hd.forget ?_
    rw [visited_servedBy h]
    exact ih

theorem StopsAfter.forget (hs : StopsAfter (e.servedBy p) w r vs r') :
    StopsAfter e w (r.forget f) (vs.map (forgetDue f)) (r'.forget f) := by
  have hwhole {vs : List (Run τ × Instruction)} (hvs : ∀ v ∈ vs, ¬ Breaks (e.servedBy p) w v) :
      ∀ v ∈ vs.map (forgetDue f), ¬ Breaks e w v :=
    List.forall_mem_map.mpr fun v hv => (breaks_servedBy h v).not.mpr (hvs v hv)
  cases hs with
  | ends hc hvs he => exact .ends (hc.forget h) (hwhole hvs) he.forget
  | @breaks last i vs hc hvs hd hbreaks =>
    rw [List.map_append, ← breakOff_servedBy h]
    exact .breaks (hc.forget h) (hwhole hvs) hd.forget ((breaks_servedBy h (last, i)).mpr hbreaks)

theorem visits_servedBy (budget : Nat) (r : Run τ) :
    (r.forget f).visits e w budget = (r.visits (e.servedBy p) w budget).forget f := by
  induction budget generalizing r with
  | zero => rfl
  | succ budget ih =>
    unfold visits
    by_cases hfatal : r.fatalError.isSome = true
    · rw [if_pos hfatal]
      exact if_pos hfatal
    rw [if_neg hfatal]
    refine (if_neg hfatal).trans ?_
    have hcounter : (r.forget f).scene.state.counter = r.scene.state.counter := rfl
    rw [hcounter]
    cases w[r.scene.state.counter]? with
    | none => rfl
    | some i =>
      dsimp only
      by_cases hasked : r.cancelRequested = true
      · rw [if_pos hasked]
        exact if_pos hasked
      rw [if_neg hasked]
      refine (if_neg hasked).trans ?_
      have hbreaks : e.breaks w (r.forget f).scene r.scene.state.counter i =
          (e.servedBy p).breaks w r.scene r.scene.state.counter i :=
        e.breaks_servedBy w r.scene _ h i
      rw [hbreaks]
      split
      · exact breakOff_servedBy h r _ i
      · rw [← ih]
        exact congrArg (visits e w budget) (visited_servedBy h r i)

end

end Run

/-! ## Sessions -/

namespace Session
variable {p : Provider τ} {f : τ → σ} {e : Engine σ} {w : Workflow} {s : Session τ}
  {checks : Option Bool} {enforces : Bool} {vs : List (Run τ × Instruction)} {stopped : Run τ}

theorem settle_forget (r : Run τ) : settle e w (r.forget f) =
    (settle (e.servedBy p) w r).map (·.forget f) (Except.map (·.forget f)) := by
  by_cases hending : r.ending = .broken
  · rw [settle, settle, if_pos hending]
    exact if_pos hending
  · rw [settle, settle, if_neg hending]
    exact if_neg hending

variable (h : p.Refines e.provider f)
include h

theorem checkFirst_servedBy (checks : Bool) (memory : τ) : Run.checkFirst e w checks (f memory) =
    (Run.checkFirst (e.servedBy p) w checks memory).map id f := by
  unfold Run.checkFirst
  split
  · exact h.check memory
  · rfl

theorem interruptedFirst_servedBy (checks : Bool) (memory : τ) :
    Run.interruptedFirst e w checks (f memory) =
      Run.interruptedFirst (e.servedBy p) w checks memory := by
  unfold Run.interruptedFirst
  split
  · exact h.interruption memory
  · rfl

theorem execute_servedBy (connected : Bool) (interruption : Option Interruption)
    (files : FileTree) (memory : τ) :
    settle e w (Run.execute e w connected interruption files (f memory)) =
      (settle (e.servedBy p) w
        (Run.execute (e.servedBy p) w connected interruption files memory)).map (·.forget f)
          (Except.map (·.forget f)) := by
  have hstart : Run.start e connected interruption files (f memory) =
      (Run.start (e.servedBy p) connected interruption files memory).forget f := by
    unfold Run.start
    rw [← h.name]
    rfl
  rw [Run.execute, hstart, Run.visits_servedBy h, settle_forget]
  rfl

theorem perform_servedBy (checksConnection : Bool) (files : FileTree) (memory : τ) :
    perform e w checksConnection files (f memory) =
      (perform (e.servedBy p) w checksConnection files memory).map (·.forget f)
        (Except.map (·.forget f)) := by
  unfold perform
  rw [checkFirst_servedBy h, interruptedFirst_servedBy h]
  generalize Run.checkFirst (e.servedBy p) w checksConnection memory = check
  obtain ⟨answer, memory⟩ := check
  cases answer with
  | error error =>
    dsimp only [Prod.map, id]
    split
    · exact execute_servedBy h ..
    · rfl
  | ok connected => exact execute_servedBy h ..

theorem run_servedBy : (s.forget f).run e w checks enforces =
    (s.run (e.servedBy p) w checks enforces).map (·.forget f) (Except.map (·.forget f)) := by
  by_cases hbusy : s.status = .running
  · rw [run, run, if_pos hbusy]
    exact if_pos hbusy
  have hadmission : (e.servedBy p).admission w enforces s.files =
      e.admission w enforces (s.forget f).files := rfl
  rw [run_of_idle hbusy, run_of_idle (s := s.forget f) hbusy, hadmission]
  generalize e.admission w enforces (s.forget f).files = admitted
  obtain ⟨files, answer⟩ := admitted
  cases answer with
  | error refusal => rfl
  | ok => exact perform_servedBy h ..

theorem start_servedBy : (s.forget f).start e w checks =
    (s.start (e.servedBy p) w checks).forget f := by
  have hcheck := checkFirst_servedBy (w := w) h (checks.getD e.checksConnection) s.memory
  have hfirst := interruptedFirst_servedBy (w := w) h (checks.getD e.checksConnection) s.memory
  have hname := h.name
  unfold start
  dsimp only [Session.forget]
  rw [hcheck, hfirst]
  unfold Run.start
  rw [← hname]
  rfl

theorem Carries.forget (hc : s.Carries (e.servedBy p) w checks enforces vs stopped) :
    (s.forget f).Carries e w checks enforces (vs.map (Run.forgetDue f)) (stopped.forget f) where
  visits := by
    rw [start_servedBy h]
    exact hc.visits.forget h
  settles := by
    rw [run_servedBy h, hc.settles, settle_forget]

theorem refuses_servedBy : (s.forget f).Refuses e w checks enforces ↔
    s.Refuses (e.servedBy p) w checks enforces := by
  rw [Refuses, Refuses, run_servedBy h]
  generalize s.run (e.servedBy p) w checks enforces = result
  obtain ⟨after, answer⟩ := result
  cases answer <;> simp [Except.map]

end Session

end ImageWorkflow
