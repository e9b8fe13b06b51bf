import Mathlib
import ImageWorkflow.Proofs.Course
import ImageWorkflow.Proofs.Effects
import ImageWorkflow.Proofs.Walk

/-!
# Validation and runs agree on nesting

A run keeps its loops on a stack and jumps; validation walks through the instructions once.  Both
hold the same loops open.
* `Position.Nested` : the loops being run are those that the brackets leave open, each at one of its
  iterations; `Position.Nested.next` : every visit keeps it;
* `visit_needsLoop_iff` : an instruction that asks for a loop is refused where none is being run,
  and nowhere else;
* `Run.nesting_agrees` : in every state that a run reaches at an instruction, its loops are those
  that validation holds open there, and visits fail for want of a loop exactly where validation
  reports it.
-/

namespace ImageWorkflow

open Workflow

theorem Instruction.not_isBracket_of_isPlain {i : Instruction} (hi : i.isPlain = true) :
    i.isBracket = false := by
  cases i <;> first | rfl | cases hi

/-! ## The loops being run are the open ones -/

/-- The iteration of a loop that is being run is one of the loop's. -/
structure LoopFrame.Running (f : LoopFrame) : Prop where
  start_le : f.start ≤ f.current
  lt_end : f.current < f.start + f.count

/-- The loops being run are those open before the counter, as long as there is an instruction. -/
structure Position.Nested (w : Workflow) (p : Position) : Prop where
  starts : p.counter < w.length → p.loops.map (·.startIndex) = w.openLoops p.counter
  running : ∀ f ∈ p.loops, f.Running

namespace Position
variable {w : Workflow} {p : Position} {i : Instruction}

theorem nested_start (w : Workflow) : Nested w ⟨0, []⟩ :=
  ⟨fun _ => by simp, by simp⟩

/-- A visit that does not leave for the end keeps the loops being run those that are open. -/
theorem starts_next (hs : p.loops.map (·.startIndex) = w.openLoops p.counter)
    (hi : w[p.counter]? = some i) (hstay : ¬ p.leaves w i) :
    (p.next w i).loops.map (·.startIndex) = w.openLoops (p.next w i).counter := by
  rcases i.plain_cases with hi' | ⟨count, start, rfl⟩ | rfl | rfl
  · rw [next_of_isPlain hi',
      openLoops_succ_of_not_isBracket hi (Instruction.not_isBracket_of_isPlain hi')]
    exact hs
  · simp only [Position.next]
    split
    · rename_i hcount
      cases hm : w.matchingEnd? p.counter with
      | none => exact absurd ⟨hcount, hm⟩ hstay
      | some last => exact hs.trans (matchedAt_of_matchingEnd hi hm).openLoops_succ.symm
    · rw [openLoops_succ_loop hi, List.map_cons, hs]
  · simp only [Position.next]
    cases hl : p.loops with
    | nil =>
      rw [openLoops_succ_loopEnd hi, ← hs, hl]
      rfl
    | cons frame outer =>
      rw [hl] at hs
      dsimp only
      split
      · obtain ⟨-, count, start, hloop⟩ := exists_loop_of_mem
          (show frame.startIndex ∈ w.openLoops p.counter by rw [← hs]; simp)
        rw [openLoops_succ_loop hloop, openLoops_of_eq_append [] hs.symm]
        rfl
      · rw [openLoops_succ_loopEnd hi, ← hs]
        rfl
  · exact absurd trivial hstay

theorem running_next (hr : ∀ f ∈ p.loops, f.Running) (w : Workflow) (i : Instruction) :
    ∀ f ∈ (p.next w i).loops, f.Running := by
  rcases i.plain_cases with hi' | ⟨count, start, rfl⟩ | rfl | rfl
  · rw [next_of_isPlain hi']
    exact hr
  · simp only [Position.next]
    split
    · cases w.matchingEnd? p.counter <;> exact hr
    · exact List.forall_mem_cons.mpr ⟨⟨by simp, by simp; omega⟩, hr⟩
  · simp only [Position.next]
    cases hl : p.loops with
    | nil => simp
    | cons frame outer =>
      rw [hl] at hr
      obtain ⟨hframe, houter⟩ := List.forall_mem_cons.mp hr
      dsimp only
      split
      · rename_i hlt
        refine List.forall_mem_cons.mpr ⟨⟨?_, hlt⟩, houter⟩
        have := hframe.start_le
        show frame.start ≤ frame.current + 1
        omega
      · exact houter
  · exact hr

theorem Nested.next (h : p.Nested w) (hi : w[p.counter]? = some i) : (p.next w i).Nested w := by
  obtain ⟨hp, -⟩ := List.getElem?_eq_some_iff.mp hi
  refine ⟨fun hnext => ?_, running_next h.running w i⟩
  by_cases hl : p.leaves w i
  · rw [next_of_leaves hl] at hnext
    exact absurd hnext (Nat.lt_irrefl _)
  · exact starts_next (h.starts hp) hi hl

end Position

/-! ## Instructions that ask for a loop -/

/-- Whether a visit fails for want of a loop. -/
def VisitFailure.wantsLoop : VisitFailure → Bool
  | .fault (.needsLoop _) => true
  | _ => false

section wantsLoop
variable {failure : VisitFailure}

theorem wantsLoop_of_ofWriting (h : failure.ofWriting = true) : failure.wantsLoop = false := by
  cases failure with
  | fault what => cases what <;> first | rfl | cases h
  | _ => rfl

theorem askFiles_wantsLoop {α : Type} {answer : Except FileError α}
    (h : askFiles answer = .error failure) : failure.wantsLoop = false := by
  cases answer <;> cases h
  rfl

theorem openImage_wantsLoop {files : FileTree} {path : FilePath} {label : String}
    (h : files.openImage path label = .error failure) : failure.wantsLoop = false := by
  unfold FileTree.openImage at h
  split at h <;> cases h
  rfl

theorem firstFile_wantsLoop {files : FileTree} {directory : FilePath} {names : List String}
    (h : firstFile files directory names = .error failure) : failure.wantsLoop = false := by
  induction names with
  | nil => cases h
  | cons name names ih =>
    rcases bind_eq_error.mp h with h | ⟨found, -, h⟩
    · exact askFiles_wantsLoop h
    · cases found
      · exact ih h
      · cases h

theorem iterationImage_wantsLoop {directory : FilePath} {files : FileTree} {folder : String}
    {frame : LoopFrame} (h : iterationImage directory files folder frame = .error failure) :
    failure.wantsLoop = false := by
  rcases bind_eq_error.mp h with h | ⟨path, -, h⟩
  · exact wantsLoop_of_ofWriting (insidePath_ofWriting h)
  rcases bind_eq_error.mp h with h | ⟨isDirectory, -, h⟩
  · exact askFiles_wantsLoop h
  cases isDirectory
  · cases h; rfl
  rcases bind_eq_error.mp h with h | ⟨first, -, h⟩
  · exact firstFile_wantsLoop h
  have hopen : ∀ name : String, (do return (← files.openImage (path.child name) name, name)) =
      (.error failure : Except VisitFailure (Image × String)) → failure.wantsLoop = false := by
    intro name h
    rcases bind_eq_error.mp h with h | ⟨image, -, h⟩
    · exact openImage_wantsLoop h
    · cases h
  split at h
  · exact hopen _ h
  · dsimp only at h
    split at h
    · exact hopen _ h
    · cases h; rfl

variable {σ : Type} {e : Engine σ} {w : Workflow} {scene : Scene σ} {index : Nat} {name : String}

theorem render_wantsLoop (h : (e.render scene index).2 = .error failure) :
    failure.wantsLoop = false := by
  obtain ⟨rfl, -⟩ | rfl | rfl | ⟨cause, rfl⟩ := e.render_eq_error scene index h
  · rfl
  · rfl
  · rfl
  · cases cause <;> rfl

theorem renderAndSave_wantsLoop (h : (e.renderAndSave scene index name).2 = .error failure) :
    failure.wantsLoop = false := by
  rcases e.renderAndSave_eq_error scene index h with h | h
  · obtain ⟨-, h⟩ | ⟨-, -, rfl⟩ := e.settleSave_eq_error scene index h
    · exact render_wantsLoop h
    · rfl
  · exact wantsLoop_of_ofWriting h

theorem loopScoped_cases {i : Instruction} (hi : i.isLoopScoped = true) :
    (∃ folder, i = .loopLoad folder) ∨ (∃ folder, i = .loopAddMoodboard folder) ∨
      ∃ stem, i = .loopSave stem := by
  cases i <;> simp [Instruction.isLoopScoped] at hi ⊢

theorem perform_wantsLoop {directory : FilePath} {files : FileTree} {s : RunState}
    {folder : String} {i : Instruction} (hi : i = .loopLoad folder ∨ i = .loopAddMoodboard folder)
    (hl : s.loops ≠ []) (h : s.perform w directory files index i = .error failure) :
    failure.wantsLoop = false := by
  obtain ⟨frame, outer, hl⟩ := List.exists_cons_of_ne_nil hl
  rcases hi with rfl | rfl
  all_goals
    rcases bind_eq_error.mp h with h | ⟨f, -, h⟩
    · simp [RunState.requireFrame, RunState.frame?, hl] at h
    rcases bind_eq_error.mp h with h | ⟨image, -, h⟩
    · exact iterationImage_wantsLoop h
    · cases h

theorem conduct_eq_needsLoop (scene : Scene σ) {i : Instruction} (hi : i.isLoopScoped = true)
    (hl : scene.state.loops = []) :
    e.conduct w scene index i = (scene, refuseVisit (.needsLoop i.kind)) := by
  have hf (kind : Kind) : scene.state.requireFrame kind = refuseVisit (.needsLoop kind) := by
    simp [RunState.requireFrame, RunState.frame?, hl]
  rcases loopScoped_cases hi with ⟨folder, rfl⟩ | ⟨folder, rfl⟩ | ⟨stem, rfl⟩
  all_goals
    simp only [Engine.conduct, Engine.toolTarget?, Instruction.kind, RunState.perform, hf]
    rfl

theorem conduct_wantsLoop (scene : Scene σ) {i : Instruction} (hi : i.isLoopScoped = true)
    (hl : scene.state.loops ≠ []) (h : (e.conduct w scene index i).2 = .error failure) :
    failure.wantsLoop = false := by
  rcases loopScoped_cases hi with ⟨folder, rfl⟩ | ⟨folder, rfl⟩ | ⟨stem, rfl⟩
  · simp only [Engine.conduct, Engine.toolTarget?, Instruction.kind] at h
    split at h
    · cases h
    · rename_i hp
      cases h
      exact perform_wantsLoop (.inl rfl) hl hp
  · simp only [Engine.conduct, Engine.toolTarget?, Instruction.kind] at h
    split at h
    · cases h
    · rename_i hp
      cases h
      exact perform_wantsLoop (.inr rfl) hl hp
  · obtain ⟨frame, outer, hl⟩ := List.exists_cons_of_ne_nil hl
    simp only [Engine.conduct, Engine.toolTarget?, Instruction.kind, RunState.requireFrame,
      RunState.frame?, hl, List.head?_cons] at h
    exact renderAndSave_wantsLoop h

end wantsLoop

/-- An instruction that makes sense inside a loop only is refused outside of one, and never for that
reason inside. -/
theorem visit_needsLoop_iff {σ : Type} (e : Engine σ) (w : Workflow) (scene : Scene σ)
    (index : Nat) {i : Instruction} (hi : i.isLoopScoped = true) :
    (e.visit w scene index i).2 = .failed (.fault (.needsLoop i.kind)) ↔
      scene.state.loops = [] := by
  have hs : i.kind.support = .full := by
    rcases loopScoped_cases hi with ⟨folder, rfl⟩ | ⟨folder, rfl⟩ | ⟨stem, rfl⟩ <;> rfl
  rw [Engine.visit_of_not_unsupported e w scene index (by rw [hs]; decide)]
  constructor
  · intro h
    by_contra hl
    split at h
    · cases h
    · rename_i hc
      cases h
      cases conduct_wantsLoop (Engine.atVisit index scene) hi hl (congrArg Prod.snd hc)
  · intro hl
    rw [conduct_eq_needsLoop (Engine.atVisit index scene) hi hl]
    rfl

/-! ## In every state that a run reaches -/

theorem Run.Reached.nested {σ : Type} {e : Engine σ} {w : Workflow} {r : Run σ}
    (h : r.Reached e w) : r.scene.state.position.Nested w := by
  refine Run.Reached.keeps (P := fun r => r.scene.state.position.Nested w) h
    (fun _ _ _ _ => Position.nested_start w) fun r i hr hd => ?_
  rw [visited_position]
  exact hr.next hd.here

/-- The loops being run are those that validation holds open, each at one of its iterations; a
`loopEnd` fails, and an instruction that asks for a loop is refused, exactly where validation says
so. -/
theorem Run.nesting_agrees {σ : Type} {e : Engine σ} {w : Workflow} {r : Run σ} {i : Instruction}
    (h : r.Reached e w) (hi : w[r.scene.state.counter]? = some i) :
    r.scene.state.loops.map (·.startIndex) =
        (w.walkBefore r.scene.state.counter).openLoops.map (·.index) ∧
      (∀ f ∈ r.scene.state.loops, 1 ≤ f.count ∧ f.start ≤ f.current ∧
        f.current < f.start + f.count ∧ 0 ≤ f.offset ∧ f.offset < f.count) ∧
      (i = .loopEnd →
        ((r.entryDue e w i).outcome = .failed ∧
            (r.entryDue e w i).message = "Loop end without matching loop start" ↔
          ⟨.unexpectedLoopEnd, some r.scene.state.counter⟩ ∈ w.validate.errors)) ∧
      (i.isLoopScoped = true →
        ((r.visitDue e w i).2 = .failed (.fault (.needsLoop i.kind)) ↔
          ⟨.outsideLoop i.kind, some r.scene.state.counter⟩ ∈ w.validate.errors) ∧
        ((r.visitDue e w i).2 = .failed (.fault (.needsLoop i.kind)) →
          (r.entryDue e w i).outcome = .failed ∧
            (r.entryDue e w i).message = i.kind.key ++ " must be inside a loop")) := by
  have hn := h.nested
  obtain ⟨hp, -⟩ := List.getElem?_eq_some_iff.mp hi
  have hloops := (hn.starts hp).trans (openLoops_walkBefore (Nat.le_of_lt hp)).symm
  have hnil : r.scene.state.loops = [] ↔ (w.walkBefore r.scene.state.counter).openLoops = [] := by
    rw [← List.map_eq_nil_iff (f := fun l : OpenLoop => l.index), ← hloops, List.map_eq_nil_iff]
    rfl
  refine ⟨hloops, fun f hf => ?_, ?_, fun hs => ⟨?_, fun hv => ?_⟩⟩
  · have := (hn.running f hf).start_le
    have := (hn.running f hf).lt_end
    simp only [LoopFrame.offset]
    omega
  · rintro rfl
    rw [mem_validate_errors_at hi (by simp), unexpectedLoopEnd_mem_errors, ← hnil]
    constructor
    · rintro ⟨ho, -⟩
      obtain ⟨failure, hv⟩ := Engine.Verdict.exists_failure ho
      exact ((Engine.visit_loopEnd_eq_failed_iff ..).mp hv).1
    · intro hl
      have hv : (r.visitDue e w .loopEnd).2 = .failed (.fault .noOpenLoop) :=
        (Engine.visit_loopEnd_eq_failed_iff ..).mpr ⟨hl, rfl⟩
      constructor <;> simp only [entryDue, hv] <;> rfl
  · -- the cause, not its message: a provider may report a failure in the same words
    rw [mem_validate_errors_at hi (by simp), outsideLoop_mem_errors _ hs, ← hnil]
    exact visit_needsLoop_iff e w r.scene _ hs
  · constructor <;> simp only [entryDue, hv] <;> rfl

/-- In the second body of two loops, before an end too many. -/
theorem Run.nesting_agrees_inside :
    let w : Workflow := [.loop 0 1, .loopEnd, .loop 2 5, .loopSave "view", .loopEnd, .loopEnd]
    let e := rehearsalEngine {}
    let r := ((start e true none ⟨[]⟩ {}).visited e w (.loop 0 1)).visited e w (.loop 2 5)
    r.scene.state.loops.map (·.startIndex) = [2] ∧
      (w.walkBefore r.scene.state.counter).openLoops.map (·.index) = [2] ∧
      ∀ f ∈ r.scene.state.loops, f.offset < f.count := by
  intro w e r
  have hr : Reached e w r := ⟨true, none, ⟨[]⟩, {}, _,
    .cons ⟨rfl, rfl, rfl⟩ (.cons ⟨rfl, rfl, rfl⟩ (.nil r))⟩
  have h := nesting_agrees hr (i := .loopSave "view") rfl
  have hloops : r.scene.state.loops.map (·.startIndex) = [2] := rfl
  exact ⟨hloops, h.1.symm.trans hloops, fun f hf => (h.2.1 f hf).2.2.2.2⟩

end ImageWorkflow
