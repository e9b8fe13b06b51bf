import Mathlib
import ImageWorkflow.Engine.Run
import ImageWorkflow.Proofs.Results

/-!
# How visits steer a run

`Position` : where a run is, the part of its state that decides what is visited next.
`Position.next` : where it is after a visit; only `loop`, `loopEnd` and `stop` do more than go on to
the next index.  `Position.leaves` : which visits go straight to the end.
* `Engine.visit_loopEnd_eq_failed_iff` : a `loopEnd` fails where no loop is being run;
* `Engine.visit_position` : every visit moves the position by `Position.next`, whatever comes of it.
-/

namespace ImageWorkflow

/-- The instructions after which a run goes on to the next index. -/
def Instruction.isPlain : Instruction → Bool
  | .loop .. | .loopEnd | .stop => false
  | _ => true

theorem Instruction.plain_cases (i : Instruction) :
    i.isPlain = true ∨ (∃ count start, i = .loop count start) ∨ i = .loopEnd ∨ i = .stop := by
  cases i <;> simp [isPlain]

theorem Instruction.isPlain_of_not_isControl {i : Instruction} (hi : i.isControl = false) :
    i.isPlain = true := by
  cases i <;> first | rfl | cases hi

/-- Where a run is: the index of the next instruction, and the loops being run, innermost first. -/
structure Position where
  counter : Nat
  loops : List LoopFrame
  deriving DecidableEq, Repr

/-- Where the run of a state is. -/
def RunState.position (s : RunState) : Position := ⟨s.counter, s.loops⟩

namespace Position

/-- The current index of the innermost loop. -/
def iteration? (p : Position) : Option Int := p.loops.head?.map (·.current)

/-- Where a run is after the visit of an instruction. -/
def next (w : Workflow) (p : Position) : Instruction → Position
  | .loop count start =>
    if count ≤ 0 then
      match w.matchingEnd? p.counter with
      | some last => ⟨last + 1, p.loops⟩
      | none => ⟨w.length, p.loops⟩
    else
      ⟨p.counter + 1, { startIndex := p.counter, start, count, current := start } :: p.loops⟩
  | .loopEnd =>
    match p.loops with
    | [] => ⟨p.counter + 1, []⟩
    | frame :: outer =>
      if frame.current + 1 < frame.start + frame.count then
        ⟨frame.startIndex + 1, { frame with current := frame.current + 1 } :: outer⟩
      else ⟨p.counter + 1, outer⟩
  | .stop => ⟨w.length, p.loops⟩
  | _ => ⟨p.counter + 1, p.loops⟩

theorem next_of_isPlain {i : Instruction} (hi : i.isPlain = true) (w : Workflow)
    (p : Position) : p.next w i = ⟨p.counter + 1, p.loops⟩ := by
  cases i <;> first | rfl | cases hi

/-- Whether the visit of an instruction goes straight to the end of the workflow: at a `stop`, or at
a loop without iterations that is never closed. -/
def leaves (w : Workflow) (p : Position) : Instruction → Prop
  | .stop => True
  | .loop count _ => count ≤ 0 ∧ w.matchingEnd? p.counter = none
  | _ => False

theorem next_of_leaves {w : Workflow} {p : Position} {i : Instruction} (h : p.leaves w i) :
    p.next w i = ⟨w.length, p.loops⟩ := by
  cases i with
  | stop => rfl
  | loop count start =>
    obtain ⟨hcount, hend⟩ := h
    simp only [next, if_pos hcount, hend]
  | _ => cases h

end Position

/-! ## Instructions that steer nothing -/

namespace RunState
variable {s s' : RunState} {message : String}

theorem moveScale_position {x y scale : Binary64} (h : s.moveScale x y scale = .ok s') :
    s'.position = s.position := by
  obtain ⟨canvas, -, h⟩ := bind_eq_ok.mp h
  split at h
  · obtain ⟨size, -, h⟩ := bind_eq_ok.mp h
    obtain ⟨-, -, h⟩ := bind_eq_ok.mp h
    cases h
    rfl
  · cases h

theorem adaptSize_position {maxWidth maxHeight : Int}
    (h : s.adaptSize maxWidth maxHeight = .ok (s', message)) : s'.position = s.position := by
  obtain ⟨canvas, -, h⟩ := bind_eq_ok.mp h
  split at h
  · cases h
  · dsimp only at h
    split at h <;> cases h
    rfl

theorem crop_position (h : s.crop = .ok (s', message)) : s'.position = s.position := by
  obtain ⟨canvas, -, h⟩ := bind_eq_ok.mp h
  split at h
  · cases h
  · cases h
    rfl

theorem perform_position {w : Workflow} {directory : FilePath} {files : FileTree} {index : Nat}
    {i : Instruction} (hi : i.isControl = false)
    (h : s.perform w directory files index i = .ok (s', message)) : s'.position = s.position := by
  cases i with
  | loop _ _ | loopEnd | stop => cases hi
  | adaptSize maxWidth maxHeight => exact adaptSize_position h
  | crop => exact crop_position h
  | moveScale x y scale =>
    obtain ⟨t, ht, h⟩ := bind_eq_ok.mp h
    cases h
    exact moveScale_position ht
  | frames | moodboardRemove | depthToCanvas =>
    simp only [perform] at h
    split at h <;> cases h
    rfl
  | canvasLoad | moodboardCanvas | moodboardAdd | maskLoad | maskGet | depthCanvas =>
    obtain ⟨image, -, h⟩ := bind_eq_ok.mp h
    cases h
    rfl
  | loopAddMoodboard | loopLoad =>
    obtain ⟨frame, -, h⟩ := bind_eq_ok.mp h
    obtain ⟨image, -, h⟩ := bind_eq_ok.mp h
    cases h
    rfl
  | _ =>
    cases h
    rfl

@[simp] theorem fitMask_position (s : RunState) : s.fitMask.position = s.position := by
  unfold fitMask
  split
  · split <;> rfl
  · rfl

/-! ## Instructions that steer -/

theorem enterLoop_position (w : Workflow) {index : Nat} (count start : Int)
    (hc : s.counter = index + 1) :
    (s.enterLoop w index count start).1.position =
      Position.next w ⟨index, s.loops⟩ (.loop count start) := by
  simp only [enterLoop, Position.next]
  split
  · cases w.matchingEnd? index <;> rfl
  · simp only [position, hc]

theorem closeLoop_eq_error (h : s.loops = []) : s.closeLoop = refuseVisit .noOpenLoop := by
  unfold closeLoop
  rw [h]

theorem closeLoop_eq_ok (w : Workflow) {index : Nat} (hc : s.counter = index + 1)
    (h : s.loops ≠ []) : ∃ s' message, s.closeLoop = .ok (s', message) ∧
      s'.position = Position.next w ⟨index, s.loops⟩ .loopEnd := by
  obtain ⟨frame, outer, hl⟩ := List.exists_cons_of_ne_nil h
  unfold closeLoop
  simp only [hl, Position.next]
  split
  · exact ⟨_, _, rfl, rfl⟩
  · exact ⟨_, _, rfl, by simp only [position, hc]⟩

theorem perform_loopEnd (w : Workflow) (directory : FilePath) (files : FileTree) (index : Nat) :
    s.perform w directory files index .loopEnd = s.closeLoop := rfl

end RunState

namespace Engine
variable {σ : Type} (e : Engine σ) (w : Workflow) (scene : Scene σ) (index : Nat)

theorem render_position : (e.render scene index).1.state.position = scene.state.position := by
  unfold render
  split
  · split
    · dsimp only
      split <;> exact RunState.fitMask_position _
    · rfl
  · rfl

theorem settleSave_position :
    (e.settleSave scene index).1.state.position = scene.state.position := by
  unfold settleSave
  split
  · rfl
  · split
    · have h := render_position e scene index
      split <;> rename_i hr <;> rw [hr] at h <;> exact h
    · split <;> rfl

theorem renderAndSave_position (name : String) :
    (e.renderAndSave scene index name).1.state.position = scene.state.position := by
  have h := settleSave_position e scene index
  unfold renderAndSave
  split
  · rename_i hs
    rw [hs] at h
    exact h
  · rename_i hs
    rw [hs] at h
    split
    · exact h
    · split <;> exact h

theorem receive_position {s s' : RunState} {tool : Kind} {target : ToolTarget} {answer : ToolResult}
    (h : receive s tool target answer = .ok s') : s'.position = s.position := by
  unfold receive at h
  split at h <;> cases h <;> rfl

theorem applyTool_position (i : Instruction) (target : ToolTarget) :
    (e.applyTool scene i target).1.state.position = scene.state.position := by
  unfold applyTool
  split
  · rfl
  · dsimp only
    split
    · rfl
    · split
      · rfl
      · rename_i h
        exact receive_position h

theorem conduct_position {i : Instruction} (hi : i.isControl = false) :
    (e.conduct w scene index i).1.state.position = scene.state.position := by
  unfold conduct
  split
  · exact applyTool_position ..
  · split
    · have h := render_position e scene index
      split <;> rename_i hr <;> rw [hr] at h <;> exact h
    · exact renderAndSave_position ..
    · split
      · exact renderAndSave_position ..
      · rfl
    · split
      · rename_i h
        exact RunState.perform_position hi h
      · rfl

/-! ## Visits -/

theorem Verdict.exists_failure {i : Instruction} {v : Verdict} (h : v.outcome i = .failed) :
    ∃ failure, v = .failed failure := by
  cases v with
  | done message =>
    simp only [outcome] at h
    split at h <;> cases h
  | passedOver reason => cases h
  | failed failure => exact ⟨failure, rfl⟩

/-- The scene with which the visit of the instruction at `index` begins. -/
def atVisit (scene : Scene σ) : Scene σ :=
  { scene with state.counter := index + 1, progress := [] }

theorem visit_of_not_unsupported {i : Instruction} (hi : i.kind.support ≠ .unsupported) :
    e.visit w scene index i =
      match e.conduct w (atVisit index scene) index i with
      | (scene, .ok message) => ({ scene with state := scene.state.fitMask }, .done message)
      | (scene, .error failure) => (scene, .failed failure) := by
  unfold visit
  rw [if_neg hi]
  rfl

/-- A visit breaks the run if its instruction succeeds, but leaves a mask that cannot be fitted. -/
theorem breaks_iff {i : Instruction} : e.breaks w scene index i = true ↔
    i.kind.support ≠ .unsupported ∧ ∃ after message,
      e.conduct w (atVisit index scene) index i = (after, .ok message) ∧
        after.state.canFit = false := by
  show (decide (i.kind.support ≠ .unsupported) && match e.conduct w (atVisit index scene) index i with
    | (scene, .ok _) => !scene.state.canFit
    | (_, .error _) => false) = true ↔ _
  generalize e.conduct w (atVisit index scene) index i = result
  obtain ⟨after, answer⟩ := result
  cases answer <;> simp

theorem support_of_isControl {i : Instruction} (hi : i.isControl = true) :
    i.kind.support = .full := by
  cases i <;> first | rfl | cases hi

/-- Comments and the instructions that steer are carried out locally. -/
theorem visit_of_isControl {i : Instruction} (hi : i.isControl = true) :
    e.visit w scene index i =
      match (atVisit index scene).state.perform w e.workingDirectory scene.files index i with
      | .ok (state, message) => ({ atVisit index scene with state := state.fitMask }, .done message)
      | .error failure => (atVisit index scene, .failed failure) := by
  have hc : e.conduct w (atVisit index scene) index i =
      match (atVisit index scene).state.perform w e.workingDirectory scene.files index i with
      | .ok (state, message) => ({ atVisit index scene with state }, .ok message)
      | .error failure => (atVisit index scene, .error failure) := by
    cases i <;> first | rfl | cases hi
  rw [visit_of_not_unsupported e w scene index (by rw [support_of_isControl hi]; decide), hc]
  cases (atVisit index scene).state.perform w e.workingDirectory scene.files index i <;> rfl

/-- A `loopEnd` fails where no loop is being run, and nowhere else. -/
theorem visit_loopEnd_eq_failed_iff (failure : VisitFailure) :
    (e.visit w scene index .loopEnd).2 = .failed failure ↔
      scene.state.loops = [] ∧ failure = .fault .noOpenLoop := by
  rw [visit_of_isControl e w scene index rfl, RunState.perform_loopEnd]
  by_cases hl : scene.state.loops = []
  · rw [RunState.closeLoop_eq_error (s := (atVisit index scene).state) hl]
    simp [hl, refuseVisit, eq_comm]
  · obtain ⟨s', message, h, -⟩ :=
      RunState.closeLoop_eq_ok (s := (atVisit index scene).state) w rfl hl
    simp [h, hl]

/-- Every visit moves the position by `Position.next`, whatever comes of it. -/
theorem visit_position (i : Instruction) :
    (e.visit w scene index i).1.state.position = Position.next w ⟨index, scene.state.loops⟩ i := by
  by_cases hi : i.isControl = false
  · rw [Position.next_of_isPlain (Instruction.isPlain_of_not_isControl hi)]
    by_cases hu : i.kind.support = .unsupported
    · rw [visit, if_pos hu]
      rfl
    · have h := conduct_position e w (atVisit index scene) index hi
      rw [visit_of_not_unsupported e w scene index hu]
      split <;> rename_i hc <;> rw [hc] at h
      · exact (RunState.fitMask_position _).trans h
      · exact h
  · rw [visit_of_isControl e w scene index (by simpa using hi)]
    cases i <;> try exact absurd rfl hi
    case note => exact RunState.fitMask_position _
    case stop => exact RunState.fitMask_position _
    case loop count start =>
      exact (RunState.fitMask_position _).trans (RunState.enterLoop_position w count start rfl)
    case loopEnd =>
      rw [RunState.perform_loopEnd]
      by_cases hl : scene.state.loops = []
      · rw [RunState.closeLoop_eq_error (s := (atVisit index scene).state) hl, hl]
        simp only [Position.next, ← hl]
        rfl
      · obtain ⟨s', message, h, hp⟩ :=
          RunState.closeLoop_eq_ok (s := (atVisit index scene).state) w rfl hl
        rw [h]
        exact (RunState.fitMask_position _).trans hp

end Engine

end ImageWorkflow
