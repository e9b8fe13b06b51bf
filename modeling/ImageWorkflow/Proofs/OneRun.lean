import Mathlib
import ImageWorkflow.Proofs.Suspension
import ImageWorkflow.Service.Basic

/-!
# One run at a time

While a run waits for the provider, a service takes further requests.
* `Workshop` : a service with every engine that was set up for a request (`Station`);
  `Workshop.step` : what comes of whatever happens next (`Occurrence`);
* `Workshop.run_alone`, `Workshop.cancel_service` : a run that nobody comes between, and a request
  to cancel, come to what they come to in `Service`;
* `Workshop.Orderly` : no engine counts as running but the one that requests refer to;
  `Workshop.Orderly.step` : whatever happens, that remains so;
* `Workshop.one_run_at_a_time` : what requests come to while there is a run.
-/

namespace ImageWorkflow

/-- An engine that was set up for a request, with the run of it. -/
structure Station (σ : Type) where
  bench : Workbench σ
  halt : Workbench.Halt σ
  /-- The report on the workflow. -/
  validation : Report

/-- What may happen to a service. -/
inductive Occurrence (σ : Type) where
  /-- There is a request to run a workflow. -/
  | run (request : RunRequest)
  /-- There is a request to cancel the run that is going on. -/
  | cancel
  /-- What the run of a station waits for is there. -/
  | resume (n : Nat)
  /-- Files and provider change on their own. -/
  | meanwhile (files : FileTree) (memory : σ)

/-- A service with every engine that was set up for a request. -/
structure Workshop (σ : Type) where
  /-- What every engine is given. -/
  engine : Engine σ
  stamps : Stamps
  files : FileTree
  memory : σ
  /-- In the order of the requests. -/
  stations : List (Station σ) := []
  /-- The station of the engine that requests refer to. -/
  front : Option Nat := none

variable {σ : Type}

namespace Station

/-- Whether the engine counts as running. -/
def isRunning (t : Station σ) : Bool := t.bench.status = .running

/-- The answer to the request, when its run has ended. -/
def answer? (t : Station σ) (stamps : Stamps) : Option (Except ServiceError Response) :=
  match t.halt with
  | .waits _ => none
  | .ends (.ok r) =>
    if r.ending = .abandoned then some (.error .abandoned)
    else
      some (.ok (.success [("validation", t.validation.toJson),
        ("result", (r.report t.bench.workflow).toJson stamps)]))
  | .ends (.error refusal) =>
    match refusal with
    | .workingDirectory _ (.fault ..) => some (.ok (.refusal 500 (.str refusal.message)))
    | refusal => some (.error (.refused refusal))

/-- The station where its run has come to a halt. -/
def halted (validation : Report) (stopped : Workbench σ × Workbench.Halt σ) : Station σ where
  bench := stopped.1
  halt := stopped.2
  validation

/-- Request that the run be cancelled. -/
def cancel (t : Station σ) : Station σ := { t with bench := t.bench.cancel }

theorem sound_cancel {t : Station σ} (h : Workbench.Sound (t.bench, t.halt)) :
    Workbench.Sound (t.cancel.bench, t.cancel.halt) := by
  obtain ⟨bench, halt, validation⟩ := t
  unfold cancel Workbench.cancel
  dsimp only
  split
  · cases h with
    | waits wait hrunning => exact .waits wait hrunning
    | ends result hbroken => exact .ends result hbroken
  · exact h

theorem isRunning_cancel (t : Station σ) : t.cancel.isRunning = t.isRunning := by
  unfold isRunning cancel Workbench.cancel
  dsimp only
  split <;> rfl

theorem cancel_of_isRunning (t : Station σ) (h : t.isRunning = true) :
    t.cancel = { t with bench.latest.cancelRequested := true } := by
  rw [cancel, Workbench.cancel, if_pos (of_decide_eq_true h)]

end Station

namespace Workshop

/-- A workshop without requests so far. -/
def opened (engine : Engine σ) (stamps : Stamps) (files : FileTree) (memory : σ) : Workshop σ where
  engine
  stamps
  files
  memory

/-- What comes of an occurrence: the answer that is given to a request, if there is one, and the
workshop afterwards. -/
abbrev Handling (σ : Type) := Option (Except ServiceError Response) × Workshop σ

/-- The station of the engine that requests refer to. -/
def atFront (s : Workshop σ) : Option (Station σ) := s.front.bind (s.stations[·]?)

/-- Whether the engine that requests refer to counts as running. -/
def isBusy (s : Workshop σ) : Bool := s.atFront.any Station.isRunning

/-- What the run of a station leaves to the others. -/
def handBack (s : Workshop σ) (t : Station σ) : Workshop σ :=
  { s with files := t.bench.latest.scene.files, memory := t.bench.latest.scene.memory }

/-- Set up an engine for a workflow and begin its run. -/
def begin (s : Workshop σ) (w : Workflow) (validation : Report) (checksConnection : Option Bool) :
    Handling σ :=
  let new := Workbench.new s.engine.baseline s.files s.memory
  let t := Station.halted validation (new.launch s.engine w checksConnection)
  (t.answer? s.stamps,
    { s.handBack t with stations := s.stations ++ [t], front := some s.stations.length })

/-- Take a request to run a workflow. -/
def receive (s : Workshop σ) (request : RunRequest) : Handling σ :=
  match Workflow.validatePayload (.array request.instructions) with
  | .error cause => (some (.error (.decoding cause)), s)
  | .ok (none, report) => (some (.ok (.refusal 422 report.toJson)), s)
  | .ok (some w, report) =>
    if request.enforcesValidation && !report.isValid then
      (some (.ok (.refusal 422 report.toJson)), s)
    else if s.isBusy then (some (.ok (.refusal 409 (.str "A workflow is already running"))), s)
    else s.begin w report request.checksConnection

/-- The answer to a request to cancel the run that is going on. -/
def cancelAnswer (cancelled : Bool) : Except ServiceError Response :=
  .ok (.success [("cancelled", .bool cancelled)])

/-- Take a request to cancel the run that is going on. -/
def cancel (s : Workshop σ) : Handling σ :=
  match s.front, s.atFront with
  | some n, some t =>
    if t.isRunning then
      (some (cancelAnswer true), { s with stations := s.stations.set n t.cancel })
    else (some (cancelAnswer false), s)
  | _, _ => (some (cancelAnswer false), s)

/-- Go on with the run of a station, if it waits. -/
def resume (s : Workshop σ) (n : Nat) : Handling σ :=
  match s.stations[n]? with
  | none | some ⟨_, .ends _, _⟩ => (none, s)
  | some ⟨bench, .waits wait, validation⟩ =>
    let bench := { bench with latest.scene.files := s.files, latest.scene.memory := s.memory }
    let t := Station.halted validation (bench.resume s.engine wait)
    (t.answer? s.stamps, { s.handBack t with stations := s.stations.set n t })

/-- What comes of an occurrence. -/
def step (s : Workshop σ) : Occurrence σ → Handling σ
  | .run request => s.receive request
  | .cancel => s.cancel
  | .resume n => s.resume n
  | .meanwhile files memory => (none, { s with files, memory })

/-- The workshop after one occurrence after the other. -/
def after (s : Workshop σ) (os : List (Occurrence σ)) : Workshop σ :=
  os.foldl (fun s o => (s.step o).2) s

/-- The answers that are given meanwhile. -/
def answers (s : Workshop σ) : List (Occurrence σ) → List (Except ServiceError Response)
  | [] => []
  | o :: os => (s.step o).1.toList ++ (s.step o).2.answers os

variable {s : Workshop σ} {e : Engine σ} {n : Nat} {t : Station σ}

/-! ## Requests that nobody comes between -/

/-- What `Service` keeps of a workshop. -/
def service (s : Workshop σ) : Service σ where
  engine := s.engine
  files := s.files
  memory := s.memory
  stamps := s.stamps
  turn := s.front.bind fun n => s.atFront.map fun t =>
    { number := n, status := t.bench.status, cancelRequested := t.bench.latest.cancelRequested }

theorem isBusy_service (s : Workshop σ) : Turn.isBusy s.service.turn = s.isBusy := by
  obtain ⟨engine, stamps, files, memory, stations, front⟩ := s
  cases front with
  | none => rfl
  | some n =>
    unfold service Workshop.isBusy atFront
    cases hn : stations[n]? <;> simp only [Option.bind_some, hn] <;> rfl

/-- A request to cancel comes to what it comes to in `Service`. -/
theorem cancel_service (s : Workshop σ) :
    (s.cancel.1, s.cancel.2.service) = (some s.service.cancel.1, s.service.cancel.2) := by
  have hbusy := s.isBusy_service
  unfold Service.cancel Turn.requestCancel
  rw [hbusy]
  obtain ⟨engine, stamps, files, memory, stations, front⟩ := s
  cases front with
  | none => rfl
  | some n =>
    unfold cancel service Workshop.isBusy atFront
    cases hn : stations[n]? with
    | none =>
      simp only [Option.bind_some, hn]
      rfl
    | some t =>
      simp only [Option.bind_some, hn, Option.any_some, Option.map_some]
      cases hrunning : t.isRunning with
      | false =>
        simp only [Bool.false_eq_true, if_false, Option.bind_some, hn]
        rfl
      | true =>
        obtain ⟨hlt, -⟩ := List.getElem?_eq_some_iff.mp hn
        simp only [if_true, Option.bind_some, List.getElem?_set_self hlt, Option.map_some,
          t.cancel_of_isRunning hrunning]
        rfl

theorem resume_of_waiting {wait : Workbench.Wait} (ht : s.stations[n]? = some t)
    (hwaits : t.halt = .waits wait) : s.resume n =
      let bench := { t.bench with latest.scene.files := s.files, latest.scene.memory := s.memory }
      let t' := Station.halted t.validation (bench.resume s.engine wait)
      (t'.answer? s.stamps, { s.handBack t' with stations := s.stations.set n t' }) := by
  obtain ⟨bench, halt, validation⟩ := t
  subst hwaits
  rw [resume, ht]

/-- A run that is let go on whenever it halts comes to its end, and only then it is answered. -/
theorem answers_of_comes {stopped : Workbench σ × Workbench.Halt σ}
    {left : Workbench σ × Except RunRefusal (Run σ)} (h : Workbench.Comes e stopped left) :
    ∀ {s : Workshop σ} {t : Station σ}, s.engine = e → s.stations[n]? = some t →
      (t.bench, t.halt) = stopped → s.files = t.bench.latest.scene.files →
      s.memory = t.bench.latest.scene.memory → ∃ k : Nat,
        let t' := Station.halted t.validation (Workbench.halted left)
        let os := List.replicate k (.resume n)
        (t.answer? s.stamps).toList ++ s.answers os = (t'.answer? s.stamps).toList ∧
          s.after os = { s.handBack t' with stations := s.stations.set n t' } := by
  induction h with
  | ends left =>
    rintro ⟨engine, stamps, files, memory, stations, front⟩ ⟨bench, halt, validation⟩ rfl ht
      hstopped rfl rfl
    cases hstopped
    obtain ⟨hn, ht⟩ := List.getElem?_eq_some_iff.mp ht
    have hset := List.set_getElem_self hn
    rw [ht] at hset
    exact ⟨0, List.append_nil _, congrArg
      (Workshop.mk engine stamps left.1.latest.scene.files left.1.latest.scene.memory · front)
      hset.symm⟩
  | waits _ ih =>
    intro s t hengine ht hstopped hfiles hmemory
    obtain ⟨rfl, hwaits⟩ := Prod.mk.inj hstopped
    have hresume := resume_of_waiting ht hwaits
    -- files and memory are as the run left them
    rw [hfiles, hmemory, hengine] at hresume
    obtain ⟨hn, -⟩ := List.getElem?_eq_some_iff.mp ht
    obtain ⟨k, hanswers, hafter⟩ := ih (s := (s.resume n).2)
      (t := Station.halted t.validation (t.bench.resume e _))
      (by rw [hresume]; exact hengine) (by rw [hresume]; exact List.getElem?_set_self hn) rfl
      (by rw [hresume]; rfl) (by rw [hresume]; rfl)
    rw [hresume] at hanswers hafter
    refine ⟨k + 1, ?_, ?_⟩
    · have hnone : t.answer? s.stamps = none := by rw [Station.answer?, hwaits]
      rw [hnone, List.replicate_succ, answers, step, hresume]
      exact hanswers
    · rw [List.replicate_succ, after, List.foldl_cons, step, hresume]
      refine hafter.trans ?_
      rw [List.set_set]
      rfl

/-- A run that has ended is answered as in `Service`. -/
theorem answer?_perform {w : Workflow} (s : Service σ) (turn : Turn) (validation : Report)
    (checks : Option Bool) {left : Workbench σ × Except RunRefusal (Run σ)}
    (hworkflow : left.1.workflow = w)
    (hleft : (left.1.session, left.2) =
      Session.run { files := s.files, memory := s.memory } s.engine w checks) :
    let handled := s.perform turn w validation checks
    (Station.halted validation (Workbench.halted left)).answer? s.stamps = some handled.1 ∧
      handled.2 = { s with
        files := left.1.latest.scene.files, memory := left.1.latest.scene.memory
        turn := some { turn with status := left.1.status } } := by
  obtain ⟨bench, result⟩ := left
  subst hworkflow
  have hsettle (status : RunStatus) :
      Turn.settle (some turn) turn.number status = some { turn with status } := by
    rw [Turn.settle, Option.map_some, if_pos rfl]
  unfold Service.perform Station.answer?
  rw [← hleft]
  cases result with
  | error refusal =>
    dsimp only [Station.halted, Workbench.halted]
    rw [hsettle]
    cases refusal with
    | workingDirectory directory error => cases error <;> exact ⟨rfl, rfl⟩
    | _ => exact ⟨rfl, rfl⟩
  | ok r =>
    dsimp only [Station.halted, Workbench.halted]
    rw [hsettle]
    by_cases habandoned : r.ending = .abandoned
    · rw [if_pos habandoned, if_pos habandoned]
      exact ⟨rfl, rfl⟩
    · rw [if_neg habandoned, if_neg habandoned]
      exact ⟨rfl, rfl⟩

theorem begin_alone (s : Workshop σ) (turn : Turn) (w : Workflow) (validation : Report)
    (checks : Option Bool) : ∃ k : Nat,
      let begun := s.begin w validation checks
      let os := List.replicate k (.resume s.stations.length)
      let handled := s.service.perform turn w validation checks
      begun.1.toList ++ begun.2.answers os = [handled.1] ∧
        (begun.2.after os).files = handled.2.files ∧
        (begun.2.after os).memory = handled.2.memory ∧
        (begun.2.after os).isBusy = Turn.isBusy handled.2.turn := by
  let new := Workbench.new s.engine.baseline s.files s.memory
  have hnew : new.AtRest := Workbench.atRest_new ..
  let t := Station.halted validation (new.launch s.engine w checks)
  have hplace : (s.stations ++ [t])[s.stations.length]? = some t := List.getElem?_concat_length
  obtain ⟨k, hanswers, hafter⟩ := answers_of_comes (new.launch_comes s.engine w checks)
    (s := (s.begin w validation checks).2) rfl hplace rfl rfl rfl
  obtain ⟨hanswer, hservice⟩ := answer?_perform s.service turn validation checks
    (Workbench.run_workflow hnew.idle s.engine w checks false)
    (Workbench.run_session hnew s.engine w checks false)
  refine ⟨k, hanswers.trans (congrArg Option.toList hanswer), ?_⟩
  obtain ⟨hn, -⟩ := List.getElem?_eq_some_iff.mp hplace
  let t' := Station.halted validation (Workbench.halted (new.run s.engine w checks))
  have hset : ((s.stations ++ [t]).set s.stations.length t')[s.stations.length]? = some t' :=
    List.getElem?_set_self hn
  rw [hafter, hservice]
  exact ⟨rfl, rfl, congrArg (Option.any Station.isRunning) hset⟩

/-- A run that nobody comes between comes to what it comes to in `Service`. -/
theorem run_alone (hidle : s.isBusy = false) (request : RunRequest) : ∃ k : Nat,
    let os := .run request :: List.replicate k (.resume s.stations.length)
    let handled := s.service.run request
    s.answers os = [handled.1] ∧ (s.after os).files = handled.2.files ∧
      (s.after os).memory = handled.2.memory ∧
      (s.after os).isBusy = Turn.isBusy handled.2.turn := by
  have hturn : Turn.isBusy s.service.turn = false := s.isBusy_service.trans hidle
  obtain ⟨turn, hstart⟩ : ∃ turn, Turn.start? s.service.turn = some turn :=
    ⟨_, if_neg (by rw [hturn]; decide)⟩
  have hnone (answer : Except ServiceError Response)
      (h : s.step (.run request) = (some answer, s)) : ∃ k : Nat,
        let os := .run request :: List.replicate k (.resume s.stations.length)
        s.answers os = [answer] ∧ (s.after os).files = s.files ∧ (s.after os).memory = s.memory ∧
          (s.after os).isBusy = Turn.isBusy s.service.turn := by
    refine ⟨0, ?_⟩
    dsimp only [List.replicate, answers, after, List.foldl]
    rw [h]
    exact ⟨rfl, rfl, rfl, s.isBusy_service.symm⟩
  unfold Service.run
  cases hdecoded : Workflow.validatePayload (.array request.instructions) with
  | error cause =>
    exact hnone _ (by rw [step, receive, hdecoded])
  | ok decoded =>
    obtain ⟨_ | w, validation⟩ := decoded
    · exact hnone _ (by rw [step, receive, hdecoded])
    · dsimp only
      split
      · rename_i hinvalid
        exact hnone _ (by simp only [step, receive, hdecoded, hinvalid, if_true])
      · rename_i hvalid
        rw [hstart]
        have hstep : s.step (.run request) = s.begin w validation request.checksConnection := by
          rw [step, receive, hdecoded]
          simp only [hvalid, hidle, Bool.false_eq_true, if_false]
        obtain ⟨k, hanswers, hafter⟩ := s.begin_alone turn w validation request.checksConnection
        rw [← hstep] at hanswers hafter
        exact ⟨k, hanswers, hafter⟩

/-! ## No engine but one -/

/-- No engine counts as running but the one that requests refer to, while its run waits or when it
broke. -/
structure Orderly (e : Engine σ) (s : Workshop σ) : Prop where
  engine : s.engine = e
  front : ∀ n t, s.stations[n]? = some t → t.isRunning = true → s.front = some n
  sound : ∀ t ∈ s.stations, Workbench.Sound (t.bench, t.halt)

theorem Orderly.isBusy (h : Orderly e s) (ht : s.stations[n]? = some t)
    (hrunning : t.isRunning = true) : s.isBusy = true := by
  rw [Workshop.isBusy, atFront, h.front n t ht hrunning, Option.bind_some, ht]
  exact hrunning

/-- An engine is set up when no other counts as running, and from then on requests refer to it. -/
theorem Orderly.append (h : Orderly e s) (hidle : s.isBusy = false)
    (ht : Workbench.Sound (t.bench, t.halt)) :
    Orderly e { s.handBack t with
      stations := s.stations ++ [t], front := some s.stations.length } := by
  refine ⟨h.engine, fun n u hu hrunning => ?_, fun u hu => ?_⟩
  · rcases Nat.lt_trichotomy n s.stations.length with hlt | rfl | hlt
    · -- an engine from before would be the one in front, which is idle
      rw [List.getElem?_append_left hlt] at hu
      rw [h.isBusy hu hrunning] at hidle
      cases hidle
    · rfl
    · rw [List.getElem?_eq_none (by simpa using hlt)] at hu
      cases hu
  · rcases List.mem_append.mp hu with hu | hu
    · exact h.sound u hu
    · exact List.mem_singleton.mp hu ▸ ht

theorem Orderly.begin (h : Orderly e s) (hidle : s.isBusy = false) (w : Workflow)
    (validation : Report) (checks : Option Bool) : Orderly e (s.begin w validation checks).2 := by
  have hnew : (Workbench.new s.engine.baseline s.files s.memory).status ≠ .running := nofun
  exact h.append hidle (Workbench.launch_sound hnew s.engine w checks)

/-- A station is changed whose engine counted as running if it does so now. -/
theorem Orderly.set (h : Orderly e s) (ht : s.stations[n]? = some t) {t' : Station σ}
    (hrunning : t'.isRunning = true → t.isRunning = true)
    (hsound : Workbench.Sound (t'.bench, t'.halt)) (files : FileTree) (memory : σ) :
    Orderly e { s with files, memory, stations := s.stations.set n t' } := by
  refine ⟨h.engine, fun m u hu hrun => ?_, fun u hu => ?_⟩
  · by_cases hnm : n = m
    · subst hnm
      rw [List.getElem?_set_self (List.getElem?_eq_some_iff.mp ht).1] at hu
      cases hu
      exact h.front n t ht (hrunning hrun)
    · rw [List.getElem?_set_ne hnm] at hu
      exact h.front m u hu hrun
  · rcases List.mem_or_eq_of_mem_set hu with hu | rfl
    · exact h.sound u hu
    · exact hsound

theorem Orderly.cancel (h : Orderly e s) : Orderly e s.cancel.2 := by
  unfold Workshop.cancel
  split
  · rename_i n t hfront ht
    split
    · rw [atFront, hfront, Option.bind_some] at ht
      have hsound := Station.sound_cancel (h.sound t (List.mem_of_getElem? ht))
      exact h.set ht (fun hrunning => t.isRunning_cancel ▸ hrunning) hsound _ _
    · exact h
  · exact h

section Checked
variable (hcheck : ∀ memory error, (e.provider.checkConnection memory).1 ≠ .error error)
include hcheck

theorem Orderly.resume (h : Orderly e s) (n : Nat) : Orderly e (s.resume n).2 := by
  unfold Workshop.resume
  split
  · exact h
  · exact h
  · rename_i bench wait validation ht
    cases h.sound _ (List.mem_of_getElem? ht) with
    | waits _ hrunning =>
      have hresume := Workbench.resume_sound
        (b := { bench with latest.scene.files := s.files, latest.scene.memory := s.memory })
        (h.engine ▸ hcheck) hrunning wait
      -- the engine counted as running while it waited, so it is the one in front
      exact h.set ht (fun _ => decide_eq_true hrunning) hresume _ _

/-- Whatever happens, at most the engine that requests refer to counts as running. -/
theorem Orderly.step (h : Orderly e s) (o : Occurrence σ) : Orderly e (s.step o).2 := by
  cases o with
  | run request =>
    unfold Workshop.step receive
    dsimp only
    split
    · exact h
    · exact h
    · split
      · exact h
      · split
        · exact h
        · rename_i w validation _ _ hidle
          exact h.begin (Bool.eq_false_iff.mpr hidle) w validation request.checksConnection
  | cancel => exact h.cancel
  | resume n => exact h.resume hcheck n
  | meanwhile files memory => exact ⟨h.engine, h.front, h.sound⟩

theorem Orderly.after (h : Orderly e s) (os : List (Occurrence σ)) :
    Orderly e (s.after os) := by
  induction os generalizing s with
  | nil => exact h
  | cons o os ih => exact ih (h.step hcheck o)

end Checked

theorem cancel_of_isRunning (hfront : s.front = some n) (ht : s.stations[n]? = some t)
    (hrunning : t.isRunning = true) : s.cancel =
      (some (.ok (.success [("cancelled", .bool true)])),
        { s with
          stations := s.stations.set n { t with bench.latest.cancelRequested := true } }) := by
  have hat : s.atFront = some t := by rw [atFront, hfront, Option.bind_some, ht]
  rw [cancel, hfront, hat]
  dsimp only
  rw [if_pos hrunning, t.cancel_of_isRunning hrunning]
  rfl

end Workshop

end ImageWorkflow
