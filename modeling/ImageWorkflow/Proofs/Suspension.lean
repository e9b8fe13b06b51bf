import Mathlib
import ImageWorkflow.Proofs.Isolation

/-!
# Runs that wait

A run goes on until it ends or has to wait for the provider; while it waits, others have their turn.
* `Workbench.Wait` : what a run waits for; `Workbench.Halt` : where it comes to a halt;
* `Workbench.launch` : a run up to its first halt; `Workbench.resume` : from there to the next;
* `Workbench.Comes` : what a halt comes to if nothing happens while the run waits;
  `Workbench.launch_comes` : a run that is launched comes to what a run comes to;
* `Workbench.Sound` : an engine counts as running while its run waits and, after the run, only if
  that broke; `Workbench.launch_sound`, `Workbench.resume_sound` : so it is at every halt.
-/

namespace ImageWorkflow
variable {σ : Type}

/-- Progress is shown wherever the run is. -/
theorem Run.emitProgress_atScene (e : Engine σ) (r : Run σ) (scene : Scene σ) (index : Nat)
    (progress : List Progress) : ({ r with scene } : Run σ).emitProgress e index progress =
      { r.emitProgress e index progress with scene } := by
  induction progress generalizing r with
  | nil => rfl
  | cons p progress ih => exact ih (r.emit e (.progress index p))

namespace Workbench

/-- What a run waits for. -/
inductive Wait where
  /-- The check of the connection. -/
  | check
  /-- The provider's answer in the visit of the instruction at `index`, which `budget` more visits
  may follow. -/
  | call (index : Nat) (i : Instruction) (budget : Nat)

/-- Where a run comes to a halt. -/
inductive Halt (σ : Type) where
  | waits (wait : Wait)
  | ends (result : Except RunRefusal (Run σ))

/-- Whether the run will go on. -/
def Halt.isWaiting : Halt σ → Bool
  | .waits _ => true
  | .ends _ => false

/-- The halt of a run that is left for good. -/
def halted (left : Workbench σ × Except RunRefusal (Run σ)) : Workbench σ × Halt σ :=
  (left.1, .ends left.2)

/-- Begin the visit of the instruction at `index`. -/
def enter (b : Workbench σ) (e : Engine σ) (index : Nat) (i : Instruction) : Workbench σ :=
  let r := b.latest.emit (b.engine e) (.started index b.workflow.length i)
  { b with
    currentIndex := some index
    latest := { r with scene.state.counter := index + 1 } }

/-- Carry out the visit that was begun. -/
def conclude (b : Workbench σ) (e : Engine σ) (index : Nat) (i : Instruction) : Workbench σ :=
  let e := b.engine e
  let before := b.latest.scene
  let (scene, verdict) := e.visit b.workflow before index i
  let r := { b.latest.emitProgress e index scene.progress with scene }
  if e.breaks b.workflow before index i then { b with latest := { r with ending := .broken } }
  else
    let ending := Run.endingAfter r.cancelRequested verdict
    if ending = .abandoned then { b with latest := { r with ending := .abandoned } }
    else
      let entry : Entry :=
        { index, kind := i.kind, outcome := verdict.outcome i, message := verdict.message,
          iteration := before.state.iteration? }
      let r := { r with entries := entry :: r.entries, fatalError := verdict.fatalError, ending }
      { b with currentIndex := none, latest := r.emit e (.completed entry scene.state) }

/-- Visit instructions until the run ends or has to wait, `budget` of them at most. -/
def advance (e : Engine σ) : (budget : Nat) → Workbench σ → Workbench σ × Halt σ
  | 0, b => halted (b.leave e)
  | budget + 1, b =>
    if b.latest.fatalError.isSome then halted (b.leave e)
    else
      match b.workflow[b.latest.scene.state.counter]? with
      | none => halted (b.leave e)
      | some i =>
        if b.latest.cancelRequested then
          halted (leave { b with latest := b.latest.cancelledHere } e)
        else
          let index := b.latest.scene.state.counter
          if ((b.engine e).asked b.workflow b.latest.scene index i).isEmpty then
            let b := b.visit e index i
            if b.latest.ending = .broken || b.latest.ending = .abandoned then halted (b.leave e)
            else advance e budget b
          else (b.enter e index i, .waits (.call index i budget))

/-- A run from the check of the connection on, up to the first halt. -/
def depart (b : Workbench σ) (e : Engine σ) (checksConnection : Bool) : Workbench σ × Halt σ :=
  if checksConnection && Run.needsProvider b.workflow then (b, .waits .check)
  else advance e b.workflow.visitBudget (b.checked e true false)

/-- Run a workflow up to the first halt. -/
def launch (b : Workbench σ) (e : Engine σ) (w : Workflow) (checksConnection : Option Bool) :
    Workbench σ × Halt σ :=
  if b.status = .running then halted (b, .error .busy)
  else
    match e.admission w false b.latest.scene.files with
    | (files, .error refusal) => halted (b.load w files, .error refusal)
    | (files, .ok ()) =>
      ((b.load w files).clear e).depart e (checksConnection.getD e.checksConnection)

/-- Go on with a run when what it waited for is there. -/
def resume (b : Workbench σ) (e : Engine σ) : Wait → Workbench σ × Halt σ
  | .check =>
    let interruption := e.provider.checkInterruption b.latest.scene.memory
    let (answer, memory) := e.provider.checkConnection b.latest.scene.memory
    let b := { b with latest.scene.memory := memory }
    if interruption = some .outside then halted (leave { b with latest.ending := .abandoned } e)
    else
      match answer with
      | .error error => halted (b, .error (.check error))
      | .ok connected =>
        -- what was requested while the run waited is honoured
        let requested := b.latest.cancelRequested || interruption.isSome
        advance e b.workflow.visitBudget (b.checked e connected requested)
  | .call index i budget =>
    let b := b.conclude e index i
    if b.latest.ending = .broken || b.latest.ending = .abandoned then halted (b.leave e)
    else advance e budget b

variable {b : Workbench σ} {e : Engine σ}

/-! ## Runs that nobody comes between -/

/-- What a halt comes to if nothing happens while the run waits. -/
inductive Comes (e : Engine σ) :
    Workbench σ × Halt σ → Workbench σ × Except RunRefusal (Run σ) → Prop
  | ends (left : Workbench σ × Except RunRefusal (Run σ)) : Comes e (halted left) left
  | waits {b : Workbench σ} {wait : Wait} {left : Workbench σ × Except RunRefusal (Run σ)} :
      Comes e (b.resume e wait) left → Comes e (b, .waits wait) left

/-- A visit is begun and carried out. -/
theorem conclude_enter (b : Workbench σ) (e : Engine σ) (index : Nat) (i : Instruction) :
    (b.enter e index i).conclude e index i = b.visit e index i := by
  unfold visit conclude enter
  simp only [Run.emitProgress_atScene]
  rfl

/-- The halts between visits change nothing about them. -/
theorem advance_comes (e : Engine σ) (budget : Nat) (b : Workbench σ) :
    Comes e (advance e budget b) ((b.visits e budget).leave e) := by
  induction budget generalizing b with
  | zero => exact .ends _
  | succ budget ih =>
    unfold advance visits
    split
    · exact .ends _
    cases b.workflow[b.latest.scene.state.counter]? with
    | none => exact .ends _
    | some i =>
      dsimp only
      split
      · exact .ends _
      split
      · split
        · exact .ends _
        · exact ih _
      · refine .waits ?_
        unfold resume
        dsimp only
        rw [conclude_enter]
        split
        · exact .ends _
        · exact ih _

theorem depart_comes (hunasked : b.latest.cancelRequested = false) (e : Engine σ)
    (checksConnection : Bool) :
    Comes e (b.depart e checksConnection) (b.perform e checksConnection) := by
  unfold depart perform Run.interruptedFirst Run.checkFirst
  by_cases hchecks : (checksConnection && Run.needsProvider b.workflow) = true
  · simp only [if_pos hchecks]
    refine .waits ?_
    cases hanswer : e.provider.checkConnection b.latest.scene.memory with
    | mk answer memory =>
      simp only [resume, hanswer, hunasked, Bool.false_or]
      split
      · exact .ends _
      · cases answer with
        | error error => exact .ends _
        | ok connected => exact advance_comes e _ _
  · simp only [if_neg hchecks]
    exact advance_comes e _ _

/-- A run that is launched comes to what a run comes to. -/
theorem launch_comes (b : Workbench σ) (e : Engine σ) (w : Workflow) (checks : Option Bool) :
    Comes e (b.launch e w checks) (b.run e w checks) := by
  by_cases hbusy : b.status = .running
  · rw [launch, run, if_pos hbusy, if_pos hbusy]
    exact .ends _
  rw [launch, run_of_idle hbusy, if_neg hbusy]
  generalize e.admission w false b.latest.scene.files = admitted
  obtain ⟨files, answer⟩ := admitted
  cases answer with
  | error refusal => exact .ends _
  | ok => exact depart_comes rfl e _

/-! ## What is run -/

theorem leave_workflow (b : Workbench σ) (e : Engine σ) : (b.leave e).1.workflow = b.workflow := by
  unfold leave
  split
  · rfl
  · dsimp only [finish]
    split <;> rfl

/-- A visit concerns nothing but the run. -/
theorem conclude_keeps (b : Workbench σ) (e : Engine σ) (index : Nat) (i : Instruction) :
    (b.conclude e index i).status = b.status ∧ (b.conclude e index i).workflow = b.workflow := by
  unfold conclude
  dsimp only
  split
  · exact ⟨rfl, rfl⟩
  · split <;> exact ⟨rfl, rfl⟩

theorem visit_keeps (b : Workbench σ) (e : Engine σ) (index : Nat) (i : Instruction) :
    (b.visit e index i).status = b.status ∧ (b.visit e index i).workflow = b.workflow := by
  rw [← conclude_enter]
  exact conclude_keeps (b.enter e index i) e index i

theorem visits_workflow (e : Engine σ) (budget : Nat) (b : Workbench σ) :
    (b.visits e budget).workflow = b.workflow := by
  induction budget generalizing b with
  | zero => rfl
  | succ budget ih =>
    unfold visits
    split
    · rfl
    split
    · rfl
    split
    · rfl
    dsimp only
    split
    · exact (visit_keeps ..).2
    · exact (ih _).trans (visit_keeps ..).2

theorem perform_workflow (b : Workbench σ) (e : Engine σ) (checksConnection : Bool) :
    (b.perform e checksConnection).1.workflow = b.workflow := by
  unfold perform
  dsimp only
  split
  · exact leave_workflow ..
  · split
    · rfl
    · exact (leave_workflow ..).trans (visits_workflow ..)

/-- A bench has the workflow that it ran. -/
theorem run_workflow (hidle : b.status ≠ .running) (e : Engine σ) (w : Workflow)
    (checks : Option Bool) (enforces : Bool) : (b.run e w checks enforces).1.workflow = w := by
  rw [run_of_idle hidle]
  generalize e.admission w enforces b.latest.scene.files = admitted
  obtain ⟨files, answer⟩ := admitted
  cases answer with
  | error refusal => rfl
  | ok => exact perform_workflow ..

/-! ## Engines that count as running -/

/-- An engine counts as running while its run waits and, after the run, only if that broke. -/
inductive Sound : Workbench σ × Halt σ → Prop
  | waits {b : Workbench σ} (wait : Wait) : b.status = .running → Sound (b, .waits wait)
  | ends {b : Workbench σ} (result : Except RunRefusal (Run σ)) :
      (b.status = .running → b.latest.ending = .broken) → Sound (b, .ends result)

theorem Sound.running {halt : Halt σ} (h : Sound (b, halt)) (hwaits : halt.isWaiting = true) :
    b.status = .running := by
  cases h with
  | waits wait hrunning => exact hrunning
  | ends result => cases hwaits

theorem Sound.broken {halt : Halt σ} (h : Sound (b, halt)) (hends : halt.isWaiting = false)
    (hrunning : b.status = .running) : b.latest.ending = .broken := by
  cases h with
  | waits wait => cases hends
  | ends result hbroken => exact hbroken hrunning

theorem leave_sound (b : Workbench σ) (e : Engine σ) : Sound (halted (b.leave e)) := by
  unfold leave
  split
  · rename_i hbroken
    exact .ends _ fun _ => hbroken
  · refine .ends _ fun hrunning => ?_
    exact absurd hrunning (Run.status_report_ne_running b.workflow _)

theorem advance_sound (e : Engine σ) (budget : Nat) (hrunning : b.status = .running) :
    Sound (advance e budget b) := by
  induction budget generalizing b with
  | zero => exact leave_sound b e
  | succ budget ih =>
    unfold advance
    split
    · exact leave_sound b e
    split
    · exact leave_sound b e
    split
    · exact leave_sound _ e
    dsimp only
    split
    · split
      · exact leave_sound _ e
      · exact ih ((b.visit_keeps ..).1.trans hrunning)
    · exact .waits _ hrunning

theorem launch_sound (hidle : b.status ≠ .running) (e : Engine σ) (w : Workflow)
    (checks : Option Bool) : Sound (b.launch e w checks) := by
  rw [launch, if_neg hidle]
  generalize e.admission w false b.latest.scene.files = admitted
  obtain ⟨files, answer⟩ := admitted
  cases answer with
  | error refusal => exact .ends _ fun hrunning => absurd hrunning hidle
  | ok =>
    dsimp only
    unfold depart
    split
    · exact .waits _ rfl
    · exact advance_sound e _ rfl

theorem resume_sound (hcheck : ∀ memory error, (e.provider.checkConnection memory).1 ≠ .error error)
    (hrunning : b.status = .running) (wait : Wait) : Sound (b.resume e wait) := by
  cases wait with
  | check =>
    unfold resume
    dsimp only
    split
    · exact leave_sound _ e
    · split
      · rename_i error hfailed
        exact absurd hfailed (hcheck _ error)
      · exact advance_sound e _ hrunning
  | call index i budget =>
    unfold resume
    dsimp only
    split
    · exact leave_sound _ e
    · exact advance_sound e _ ((b.conclude_keeps ..).1.trans hrunning)

end Workbench

end ImageWorkflow
