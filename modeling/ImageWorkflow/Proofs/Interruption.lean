import Mathlib
import ImageWorkflow.Proofs.Completeness
import ImageWorkflow.Proofs.Requests

/-!
# Interrupted runs

A call to the provider may be broken off because cancellation was requested of the engine, or
because whoever awaits the run gave up.
* `Engine.brokenOffBy` : the same engine, with another source of every interruption;
  `Engine.visit_brokenOffBy` : the source changes nothing in a visit but the failure of the
  interrupted one;
* `Engine.visit_of_interrupted` : a visit whose call is broken off is interrupted;
* `Run.Course.brokenOffBy` : up to the interruption, runs do not depend on the source;
* `Run.StopsAfter.eq_of_fatal` : a run makes the visits up to a fatal one and ends;
* `Session.interruptions_agree` : what both sources leave is the same.
-/

namespace ImageWorkflow
variable {σ α : Type}

/-! ## Another source of interruptions -/

/-- The failure, with another source if it is an interruption. -/
def CallFailure.brokenOffBy (source : Interruption) : CallFailure → CallFailure
  | .interrupted _ => .interrupted source
  | failure => failure

/-- The course of a call, with another source if it is broken off. -/
def Reply.brokenOffBy (source : Interruption) (reply : Reply α) : Reply α :=
  { reply with result := reply.result.mapError (·.brokenOffBy source) }

/-- The provider whose calls are broken off by another source. -/
def Provider.brokenOffBy (p : Provider σ) (source : Interruption) : Provider σ :=
  { p with
    generate := fun memory call =>
      ((p.generate memory call).1.brokenOffBy source, (p.generate memory call).2)
    applyTool := fun memory call =>
      ((p.applyTool memory call).1.brokenOffBy source, (p.applyTool memory call).2) }

namespace Engine

/-- The engine whose provider's calls are broken off by another source. -/
def brokenOffBy (e : Engine σ) (source : Interruption) : Engine σ :=
  { e with provider := e.provider.brokenOffBy source }

/-- Two results that agree but for the source, if they are interruptions. -/
inductive AgreeBut (source : Interruption) :
    Scene σ × Except VisitFailure α → Scene σ × Except VisitFailure α → Prop
  | same (result : Scene σ × Except VisitFailure α) : AgreeBut source result result
  | interrupted (scene : Scene σ) (before : Interruption) : AgreeBut source
      (scene, .error (.interrupted before)) (scene, .error (.interrupted source))

variable (e : Engine σ) (w : Workflow) (scene : Scene σ) (index : Nat) (source : Interruption)

theorem agreeBut_ofCall (failure : CallFailure) :
    AgreeBut source (α := α) (scene, .error (.ofCall failure))
      (scene, .error (.ofCall (failure.brokenOffBy source))) := by
  cases failure with
  | interrupted before => exact .interrupted scene before
  | _ => exact .same _

theorem render_brokenOffBy : AgreeBut source (e.render scene index)
    ((e.brokenOffBy source).render scene index) := by
  unfold render
  split
  · split
    · dsimp only [brokenOffBy, Provider.brokenOffBy, Reply.brokenOffBy]
      cases (e.provider.generate scene.memory
        (scene.state.fitMask.generateCall e.baseline)).1.result with
      | error failure => exact agreeBut_ofCall _ source failure
      | ok images => exact .same _
    · exact .same _
  · exact .same _

theorem settleSave_brokenOffBy : AgreeBut source (e.settleSave scene index)
    ((e.brokenOffBy source).settleSave scene index) := by
  have h := e.render_brokenOffBy scene index source
  unfold settleSave
  split
  · exact .same _
  · split
    · generalize e.render scene index = result at h ⊢
      generalize (e.brokenOffBy source).render scene index = result' at h ⊢
      cases h with
      | same => exact .same _
      | interrupted after before => exact .interrupted after before
    · exact .same _

theorem renderAndSave_brokenOffBy (name : String) : AgreeBut source
    (e.renderAndSave scene index name) ((e.brokenOffBy source).renderAndSave scene index name) := by
  have h := e.settleSave_brokenOffBy scene index source
  unfold renderAndSave
  generalize e.settleSave scene index = result at h ⊢
  generalize (e.brokenOffBy source).settleSave scene index = result' at h ⊢
  cases h with
  | same => exact .same _
  | interrupted after before => exact .interrupted after before

theorem applyTool_brokenOffBy (i : Instruction) (target : ToolTarget) : AgreeBut source
    (e.applyTool scene i target) ((e.brokenOffBy source).applyTool scene i target) := by
  unfold applyTool
  split
  · exact .same _
  · rename_i image _
    dsimp only [brokenOffBy, Provider.brokenOffBy, Reply.brokenOffBy]
    cases (e.provider.applyTool scene.memory
      { tool := i.kind, image, parameters := toolParameters i }).1.result with
    | error failure => exact agreeBut_ofCall _ source failure
    | ok answer => exact .same _

theorem conduct_brokenOffBy (i : Instruction) : AgreeBut source
    (e.conduct w scene index i) ((e.brokenOffBy source).conduct w scene index i) := by
  obtain hlocal | ⟨target, htarget⟩ | rfl | ⟨name, rfl⟩ | ⟨stem, rfl⟩ := i.carrier_cases
  · rw [conduct_of_isLocal e w scene index hlocal,
      conduct_of_isLocal (e.brokenOffBy source) w scene index hlocal]
    exact .same _
  · rw [conduct_of_tool e w scene index htarget,
      conduct_of_tool (e.brokenOffBy source) w scene index htarget]
    exact e.applyTool_brokenOffBy scene source i target
  · have h := e.render_brokenOffBy scene index source
    rw [conduct_generate, conduct_generate]
    generalize e.render scene index = result at h ⊢
    generalize (e.brokenOffBy source).render scene index = result' at h ⊢
    cases h with
    | same => exact .same _
    | interrupted after before => exact .interrupted after before
  · exact e.renderAndSave_brokenOffBy scene index source name
  · rw [conduct_loopSave, conduct_loopSave]
    split
    · exact e.renderAndSave_brokenOffBy scene index source _
    · exact .same _

/-- Another source of interruptions changes nothing in a visit but the source of its failure, if it
is interrupted. -/
theorem visit_brokenOffBy (i : Instruction) :
    (e.brokenOffBy source).visit w scene index i = e.visit w scene index i ∨
    ∃ after before, e.visit w scene index i = (after, .failed (.interrupted before)) ∧
      (e.brokenOffBy source).visit w scene index i = (after, .failed (.interrupted source)) := by
  by_cases hi : i.kind.support = .unsupported
  · rw [visit, visit, if_pos hi, if_pos hi]
    exact .inl rfl
  · have h := e.conduct_brokenOffBy w (atVisit index scene) index source i
    rw [visit_of_not_unsupported e w scene index hi,
      visit_of_not_unsupported (e.brokenOffBy source) w scene index hi]
    generalize e.conduct w (atVisit index scene) index i = result at h ⊢
    generalize (e.brokenOffBy source).conduct w (atVisit index scene) index i = result' at h ⊢
    cases h with
    | same => exact .inl rfl
    | interrupted after before => exact .inr ⟨after, before, rfl, rfl⟩

/-- The source of interruptions has no part in whether a visit breaks the run. -/
theorem breaks_brokenOffBy (i : Instruction) :
    (e.brokenOffBy source).breaks w scene index i = e.breaks w scene index i := by
  have h := e.conduct_brokenOffBy w (atVisit index scene) index source i
  rw [Bool.eq_iff_iff, breaks_iff, breaks_iff]
  generalize e.conduct w (atVisit index scene) index i = result at h ⊢
  generalize (e.brokenOffBy source).conduct w (atVisit index scene) index i = result' at h ⊢
  cases h with
  | same => rfl
  | interrupted => simp

/-! ## Calls that are broken off -/

/-- The provider's answer to a request is an interruption. -/
def Interrupts (e : Engine σ) (memory : σ) (source : Interruption) : Request → Prop
  | .generate call => (e.provider.generate memory call).1.result = .error (.interrupted source)
  | .tool call => (e.provider.applyTool memory call).1.result = .error (.interrupted source)

variable {e w scene index source} {request : Request} {i : Instruction}

theorem Interrupts.brokenOffBy {before : Interruption} {memory : σ}
    (h : e.Interrupts memory before request) :
    (e.brokenOffBy source).Interrupts memory source request := by
  cases request with
  | generate call =>
    have h : (e.provider.generate memory call).1.result = .error (.interrupted before) := h
    show (e.provider.generate memory call).1.result.mapError _ = _
    rw [h]
    rfl
  | tool call =>
    have h : (e.provider.applyTool memory call).1.result = .error (.interrupted before) := h
    show (e.provider.applyTool memory call).1.result.mapError _ = _
    rw [h]
    rfl

theorem render_of_interrupted (h : e.Interrupts scene.memory source request)
    (hrequest : request ∈ e.renderRequests scene.state) :
    (e.render scene index).2 = .error (.interrupted source) := by
  unfold renderRequests at hrequest
  split at hrequest
  · rename_i hcan
    obtain ⟨hcan, hfit⟩ := Bool.and_eq_true_iff.mp hcan
    rw [List.mem_singleton.mp hrequest] at h
    have h : (e.provider.generate scene.memory
      (scene.state.fitMask.generateCall e.baseline)).1.result = .error (.interrupted source) := h
    rw [render, if_pos hcan, if_pos hfit]
    dsimp only
    rw [h]
    rfl
  · cases hrequest

theorem renderAndSave_of_interrupted (h : e.Interrupts scene.memory source request)
    (hrequest : request ∈ e.saveRequests scene.state) (name : String) :
    (e.renderAndSave scene index name).2 = .error (.interrupted source) := by
  refine e.renderAndSave_of_settleSave_error scene index name ?_
  unfold saveRequests at hrequest
  split at hrequest
  · cases hrequest
  · rename_i hwaits
    split at hrequest
    · rename_i hprompt
      have hrender : (e.render scene index).2 = .error (.interrupted source) :=
        render_of_interrupted h hrequest
      rw [settleSave, if_neg hwaits, if_pos hprompt]
      generalize e.render scene index = result at hrender ⊢
      obtain ⟨after, answer⟩ := result
      cases hrender
      rfl
    · cases hrequest

theorem applyTool_of_interrupted (h : e.Interrupts scene.memory source request)
    (hrequest : request ∈ toolRequests scene.state i) (target : ToolTarget) :
    (e.applyTool scene i target).2 = .error (.interrupted source) := by
  unfold toolRequests at hrequest
  split at hrequest
  · rename_i canvas hcanvas
    rw [List.mem_singleton.mp hrequest] at h
    have hrequire : scene.state.requireCanvas i.kind = .ok canvas.image := by
      rw [RunState.requireCanvas, hcanvas]
    have h : (e.provider.applyTool scene.memory
      { tool := i.kind, image := canvas.image, parameters := toolParameters i }).1.result =
        .error (.interrupted source) := h
    rw [applyTool, hrequire]
    dsimp only
    rw [h]
    rfl
  · cases hrequest

/-- A visit whose call is broken off is interrupted. -/
theorem visit_of_interrupted (h : e.Interrupts scene.memory source request)
    (hrequest : request ∈ e.asked w scene index i) :
    (e.visit w scene index i).2 = .failed (.interrupted source) := by
  rw [asked_eq] at hrequest
  split at hrequest
  · cases hrequest
  rename_i hi
  have h : e.Interrupts (atVisit index scene).memory source request := h
  rw [visit_eq_failed_iff e w scene index hi]
  generalize atVisit index scene = scene at h hrequest ⊢
  obtain hlocal | ⟨target, htarget⟩ | rfl | ⟨name, rfl⟩ | ⟨stem, rfl⟩ := i.carrier_cases
  · rw [requests_of_isLocal e hlocal] at hrequest
    cases hrequest
  · rw [requests_of_tool e htarget] at hrequest
    rw [conduct_of_tool e w scene index htarget]
    exact applyTool_of_interrupted h hrequest target
  · rw [conduct_generate_eq_error_iff]
    exact render_of_interrupted h hrequest
  · exact renderAndSave_of_interrupted h hrequest name
  · rw [requests_loopSave] at hrequest
    split at hrequest
    · rename_i hframe
      obtain ⟨frame, hframe⟩ := Option.isSome_iff_exists.mp hframe
      have hrequire : scene.state.requireFrame .loopSave = .ok frame := by
        rw [RunState.requireFrame, hframe]
      rw [conduct_loopSave, hrequire]
      exact renderAndSave_of_interrupted h hrequest _
    · cases hrequest

end Engine

/-! ## Runs up to an interruption -/

namespace Run
variable {e : Engine σ} {w : Workflow} {r r' last ended : Run σ} {i : Instruction}
  {us vs : List (Run σ × Instruction)}

/-- A visit after which the run goes on is the same with another source of interruptions. -/
theorem visited_brokenOffBy (source : Interruption)
    (hgoing : (r.visited e w i).fatalError = none) :
    r.visited (e.brokenOffBy source) w i = r.visited e w i := by
  have hvisit : r.visitDue (e.brokenOffBy source) w i = r.visitDue e w i := by
    rcases e.visit_brokenOffBy w r.scene r.scene.state.counter source i with
      hsame | ⟨after, before, hvisit, -⟩
    · exact hsame
    · rw [visited_fatalError, visitDue, hvisit] at hgoing
      cases hgoing
  rw [visited_eq_conclude, visited_eq_conclude, hvisit]
  rfl

/-- So is the way up to a run that goes on. -/
theorem Course.brokenOffBy (h : Course e w r us r') (hgoing : r'.fatalError = none)
    (source : Interruption) : Course (e.brokenOffBy source) w r us r' := by
  induction h with
  | nil r => exact .nil r
  | @cons r _ i _ hd hc ih =>
    have hnext : (r.visited e w i).fatalError = none := by
      cases hc with
      | nil => exact hgoing
      | cons hd' _ => exact hd'.going
    have hcourse := ih hgoing
    rw [← visited_brokenOffBy source hnext] at hcourse
    exact .cons hd hcourse

theorem Ends.eq_of_fatal (h : Ends w r r') (hfatal : r.fatalError ≠ none) : r' = r := by
  cases h with
  | finished hf => exact absurd hf hfatal
  | aborted => rfl
  | cancelled hf => exact absurd hf hfatal

/-- A run makes the visits up to a fatal one, and ends. -/
theorem StopsAfter.eq_of_fatal {stopped : Run σ} (h : StopsAfter e w r vs stopped)
    (hc : Course e w r us r') (hfatal : r'.fatalError ≠ none)
    (hus : ∀ u ∈ us, ¬ Breaks e w u) : stopped = r' := by
  obtain ⟨rest, rfl⟩ := h.isPrefix hc hus
  cases rest with
  | nil =>
    rw [List.append_nil] at h
    cases h with
    | ends hc' _ he =>
      obtain rfl := hc'.unique hc
      exact he.eq_of_fatal hfatal
    | breaks _ _ _ hbreaks => exact absurd hbreaks (hus _ List.mem_concat_self)
  | cons v rest =>
    obtain ⟨last, hc', -⟩ := h.exists_course
    exact absurd (hc.due_of_append hc').going hfatal

/-- The run when the visit that is due has come as far as it does, and its progress was shown. -/
def beforeVerdict (e : Engine σ) (w : Workflow) (r : Run σ) (i : Instruction) : Run σ :=
  (r.emit e (.started r.scene.state.counter w.length i)).emitProgress e r.scene.state.counter
    (r.visitDue e w i).1.progress

/-- The entry of the visit that is due if it is interrupted. -/
def interruptedEntry (r : Run σ) (i : Instruction) : Entry where
  index := r.scene.state.counter
  kind := i.kind
  outcome := .skipped
  message := "Execution cancelled"
  iteration := r.scene.state.iteration?

/-- The run after the visit that is due if it is interrupted. -/
def interrupted (e : Engine σ) (w : Workflow) (r : Run σ) (i : Instruction)
    (source : Interruption) : Run σ :=
  let before := r.beforeVerdict e w i
  let ending := endingOf before.cancelRequested source
  let after : Run σ := { before with
    scene := (r.visitDue e w i).1
    entries := r.interruptedEntry i :: before.entries
    fatalError := some VisitFailure.cancelledMessage
    cancelRequested := before.cancelRequested || ending = .abandoned
    ending }
  if ending = .abandoned then after
  else after.emit e (.completed (r.interruptedEntry i) (r.visitDue e w i).1.state)

theorem endingOf_ne_broken (asked : Bool) (source : Interruption) :
    endingOf asked source ≠ .broken := by
  cases source with
  | requested => exact nofun
  | outside => cases asked <;> exact nofun

theorem visited_eq_interrupted {source : Interruption}
    (h : (r.visitDue e w i).2 = .failed (.interrupted source)) :
    r.visited e w i = r.interrupted e w i source := by
  have hvisit : r.visitDue e w i = ((r.visitDue e w i).1, .failed (.interrupted source)) :=
    Prod.ext rfl h
  rw [visited_eq_conclude, hvisit]
  rfl

section Interrupted
variable (e w r i) (source : Interruption)

theorem interrupted_scene :
    ((r.interrupted e w i source).finish e w).scene = (r.visitDue e w i).1 := by
  have hfinish : ((r.interrupted e w i source).finish e w).scene =
      (r.interrupted e w i source).scene := rfl
  rw [hfinish]
  unfold interrupted
  dsimp only
  split <;> rfl

theorem interrupted_fatalError :
    (r.interrupted e w i source).fatalError = some "Execution cancelled" := by
  unfold interrupted
  dsimp only
  split <;> rfl

theorem interrupted_entries :
    (r.interrupted e w i source).entries = r.interruptedEntry i :: r.entries := by
  have hentries : (r.beforeVerdict e w i).entries = r.entries := by
    rw [beforeVerdict, emitProgress_entries, emit_entries]
  unfold interrupted
  dsimp only
  rw [← hentries]
  split <;> rfl

theorem interrupted_ending : (r.interrupted e w i source).ending =
    endingOf (r.beforeVerdict e w i).cancelRequested source := by
  unfold interrupted
  dsimp only
  split <;> rfl

/-- Whoever gives up while cancellation is requested is told what was asked for. -/
theorem interrupted_outside_eq (h : (r.beforeVerdict e w i).cancelRequested = true) :
    r.interrupted e w i .outside = r.interrupted e w i .requested := by
  have hending : endingOf (r.beforeVerdict e w i).cancelRequested .outside = .cancelled := if_pos h
  rw [interrupted, hending]
  rfl

/-- Else the end of the visit is not shown. -/
theorem interrupted_requested_events (h : (r.beforeVerdict e w i).cancelRequested = false) :
    (r.interrupted e w i .requested).events =
      .completed (r.interruptedEntry i) (r.visitDue e w i).1.state ::
        (r.interrupted e w i .outside).events := by
  have hending : endingOf (r.beforeVerdict e w i).cancelRequested .outside = .abandoned := by
    rw [h]
    rfl
  rw [interrupted, interrupted, hending]
  rfl

/-- The report says nothing of the source. -/
theorem interrupted_report : ((r.interrupted e w i source).finish e w).report w =
    { status := .cancelled
      entries := (r.interruptedEntry i :: r.entries).reverse ++
        unvisited w (r.interruptedEntry i :: r.entries) "Execution cancelled"
      images := (r.visitDue e w i).1.images
      fatalError := some "Execution cancelled" } := by
  have hending : endingOf (r.beforeVerdict e w i).cancelRequested source ≠ .own := by
    cases source with
    | requested => exact nofun
    | outside =>
      unfold endingOf
      dsimp only
      split <;> exact nofun
  have hfinish : ((r.interrupted e w i source).finish e w).report w =
      (r.interrupted e w i source).report w := rfl
  have himages : (r.interrupted e w i source).scene.images = (r.visitDue e w i).1.images :=
    congrArg Scene.images (interrupted_scene e w r i source)
  rw [hfinish, report, interrupted_ending, if_neg hending, interrupted_entries,
    interrupted_fatalError, himages]

end Interrupted

/-- What is not run has another index than the interrupted visit. -/
theorem mem_unvisited_interrupted {entry : Entry} (h : entry ∈ unvisited w
    (r.interruptedEntry i :: r.entries) "Execution cancelled") :
    entry.index ≠ r.scene.state.counter ∧ entry.outcome = .skipped ∧
      entry.message = "Not run: Execution cancelled" := by
  obtain ⟨hskipped, -, hmessage, -⟩ := mem_unvisited h
  have hnot := index_notMem_of_mem_unvisited h
  refine ⟨fun hsame => hnot ?_, hskipped, hmessage⟩
  rw [hsame]
  exact List.mem_cons_self

end Run

/-! ## Both interruptions of a call -/

namespace Session
open Run
variable {s : Session σ} {e : Engine σ} {w : Workflow} {checks : Option Bool} {enforces : Bool}
  {r₀ q : Run σ} {us : List (Run σ × Instruction)} {i : Instruction} {request : Request}
  {source : Interruption}

/-- With another source of interruptions, the session lets a run begin just as before. -/
theorem run_brokenOffBy (h : (s.run e w checks enforces).2 = .ok r₀) (source : Interruption) :
    s.run (e.brokenOffBy source) w checks enforces =
      settle (e.brokenOffBy source) w
        ((s.start e w checks).visits (e.brokenOffBy source) w w.visitBudget) := by
  have hdirectory : (e.brokenOffBy source).workingDirectory = e.workingDirectory := rfl
  have hdefault : (e.brokenOffBy source).checksConnection = e.checksConnection := rfl
  have hcheck : Run.checkFirst (e.brokenOffBy source) w = Run.checkFirst e w := rfl
  have hfirst : Run.interruptedFirst (e.brokenOffBy source) w = Run.interruptedFirst e w := rfl
  simp only [run, hdirectory, hdefault, hcheck, hfirst] at h ⊢
  split at h
  · cases h
  split at h
  · cases h
  rename_i h₁ h₂
  rw [if_neg h₁, if_neg h₂]
  split at h
  · cases h
  rename_i hfiles
  split at h
  · rename_i hanswer
    split at h
    · rename_i hgaveUp
      simp only [start, hfiles, hanswer, if_pos hgaveUp]
      rfl
    · cases h
  · rename_i hanswer
    simp only [start, hfiles, hanswer]
    rfl

/-- A run of which a call is broken off ends with the visit that made it, by whatever source. -/
theorem run_of_interrupts (h : (s.run e w checks enforces).2 = .ok r₀)
    (hc : Course e w (s.start e w checks) us q) (hd : q.Due w i)
    (hrequest : request ∈ q.asked e w i) (hcall : e.Interrupts q.scene.memory source request)
    (source' : Interruption) :
    s.run (e.brokenOffBy source') w checks enforces =
      ({ status := .cancelled
         files := (q.visitDue e w i).1.files
         memory := (q.visitDue e w i).1.memory },
        .ok ((q.interrupted e w i source').finish e w)) := by
  have hasked : (e.brokenOffBy source').asked w q.scene q.scene.state.counter i =
      q.asked e w i := by
    rw [asked, Engine.asked_eq, Engine.asked_eq]
    rfl
  have hverdict : (q.visitDue (e.brokenOffBy source') w i).2 = .failed (.interrupted source') :=
    Engine.visit_of_interrupted hcall.brokenOffBy (hasked ▸ hrequest)
  have hvisit : (q.visitDue (e.brokenOffBy source') w i).1 = (q.visitDue e w i).1 := by
    rcases e.visit_brokenOffBy w q.scene q.scene.state.counter source' i with
      hsame | ⟨after, before, hvisit, hvisit'⟩
    · exact congrArg Prod.fst hsame
    · rw [visitDue, visitDue, hvisit, hvisit']
  have hvisited : q.visited (e.brokenOffBy source') w i = q.interrupted e w i source' := by
    rw [visited_eq_interrupted hverdict, interrupted, beforeVerdict, hvisit]
    rfl
  have hcourse := (hc.brokenOffBy hd.going source').concat hd
  rw [hvisited] at hcourse
  have hfatal : (q.interrupted e w i source').fatalError ≠ none := by
    rw [interrupted_fatalError]
    exact Option.some_ne_none _
  -- the visits up to this one are among those of the run that has a report, which breaks in none
  obtain ⟨vs, ended, hcarries⟩ := exists_carries h
  obtain ⟨last, hc', hvs, he, -⟩ := hcarries.ends h
  have hamong := (hc.concat hd).isPrefix hc' he
  have hus : ∀ u ∈ us ++ [(q, i)], ¬ Breaks (e.brokenOffBy source') w u := by
    intro u hu
    rw [Breaks, Engine.breaks_brokenOffBy]
    exact hvs u (hamong.subset hu)
  obtain ⟨vs', hstops⟩ := Run.exists_stopsAfter (e.brokenOffBy source') w _ _ _ _
  have hstopped : (s.start e w checks).visits (e.brokenOffBy source') w w.visitBudget =
      q.interrupted e w i source' := hstops.eq_of_fatal hcourse hfatal hus
  have hending : (q.interrupted e w i source').ending ≠ .broken := by
    rw [interrupted_ending]
    exact endingOf_ne_broken _ _
  rw [run_brokenOffBy h source', hstopped, settle, if_neg hending]
  have hfinish : (q.interrupted e w i source').finish (e.brokenOffBy source') w =
      (q.interrupted e w i source').finish e w := rfl
  dsimp only
  rw [hfinish, interrupted_report, ← interrupted_scene e w q i source']

/-- Breaking off a call to the provider by a request for cancellation, and by giving up on the run,
leave the same status, files, state and report, in which the visit that made the call appears once,
as cancelled.  What observers see and how the run ended differ only if no cancellation was requested
before the call was broken off: then the end of the visit is not shown to them. -/
theorem interruptions_agree (h : (s.run e w checks enforces).2 = .ok r₀)
    (hc : Course e w (s.start e w checks) us q) (hd : q.Due w i)
    (hrequest : request ∈ q.asked e w i) (hcall : e.Interrupts q.scene.memory source request) :
    ∃ after r r',
      s.run (e.brokenOffBy .requested) w checks enforces = (after, .ok r) ∧
      s.run (e.brokenOffBy .outside) w checks enforces = (after, .ok r') ∧
      after.status = .cancelled ∧ after.files = r.scene.files ∧
      r'.scene = r.scene ∧ r'.report w = r.report w ∧
      (r.report w).status = .cancelled ∧
      (r.report w).fatalError = some "Execution cancelled" ∧
      (∃ notRun, (r.report w).entries =
          us.map (fun u => u.1.entryDue e w u.2) ++ q.interruptedEntry i :: notRun ∧
        ∀ entry ∈ notRun, entry.index ≠ q.scene.state.counter ∧ entry.outcome = .skipped ∧
          entry.message = "Not run: Execution cancelled") ∧
      r.ending = .cancelled ∧
      ((q.beforeVerdict e w i).cancelRequested = true → r' = r) ∧
      ((q.beforeVerdict e w i).cancelRequested = false → r'.ending = .abandoned ∧
        ∃ earlier,
          r.events = .finished (r.report w) :: .completed (q.interruptedEntry i) r.scene.state ::
            earlier ∧
          r'.events = .finished (r.report w) :: earlier) := by
  have hrun := run_of_interrupts h hc hd hrequest hcall
  have hscene := interrupted_scene e w q i
  have hreport := interrupted_report e w q i
  have hentries : q.entries = (us.map fun u => u.1.entryDue e w u.2).reverse :=
    hc.entries.trans (List.append_nil _)
  refine ⟨_, _, _, hrun .requested, hrun .outside, rfl, ?_, ?_, ?_, ?_, ?_, ?_, ?_, ?_, ?_⟩
  · rw [hscene]
  · rw [hscene, hscene]
  · rw [hreport, hreport]
  · rw [hreport]
  · rw [hreport]
  · refine ⟨unvisited w (q.interruptedEntry i :: q.entries) "Execution cancelled", ?_,
      fun entry => mem_unvisited_interrupted⟩
    rw [hreport, hentries, List.reverse_cons, List.reverse_reverse, List.append_assoc]
    rfl
  · exact interrupted_ending ..
  · intro hasked
    rw [interrupted_outside_eq e w q i hasked]
  · intro hasked
    refine ⟨?_, (q.interrupted e w i .outside).events, ?_, ?_⟩
    · have hending : ((q.interrupted e w i .outside).finish e w).ending =
          endingOf (q.beforeVerdict e w i).cancelRequested .outside := interrupted_ending ..
      rw [hending, hasked]
      rfl
    · rw [hscene, ← interrupted_requested_events e w q i hasked]
      rfl
    · rw [hreport, ← hreport .outside]
      rfl

theorem interrupts_of_step {script : Script} {memory : Rehearsal}
    (h : (script.step (memory.generated + 1)).ending = .fail (.interrupted source))
    (call : GenerateCall) :
    (rehearsalEngine script).Interrupts memory source (.generate call) := by
  show (script.generate memory call).1.result = _
  rw [Script.generate]
  dsimp only
  rw [h]

/-- A generation of a loop, broken off in the second iteration. -/
theorem interruptions_agree_second_iteration :
    let broken : GenerateStep := { ending := .fail (.interrupted .outside) }
    let script : Script := { steps := [{ images := .inl [Image.solid .rgb 1 1 {}] }, broken] }
    let e := rehearsalEngine script
    let w : Workflow := [.prompt "a", .loop 2 3, .loopSave "v_", .loopEnd, .crop]
    ∃ after r r', rehearsalSession.run (e.brokenOffBy .requested) w = (after, .ok r) ∧
      rehearsalSession.run (e.brokenOffBy .outside) w = (after, .ok r') ∧
      after.status = .cancelled ∧ r'.report w = r.report w ∧
      r.ending = .cancelled ∧ r'.ending = .abandoned ∧
      ∃ earlier notRun, (r.report w).entries = earlier ++
        { index := 2, kind := .loopSave, outcome := .skipped, message := "Execution cancelled",
          iteration := some 4 } :: notRun := by
  intro broken script e w
  let r₀ := rehearsalSession.start e w none
  let r₁ := r₀.visited e w (.prompt "a")
  let r₂ := r₁.visited e w (.loop 2 3)
  let r₃ := r₂.visited e w (.loopSave "v_")
  let q := r₃.visited e w .loopEnd
  have h₀ : r₀.Due w (.prompt "a") := ⟨rfl, rfl, rfl⟩
  have h₁ : r₁.Due w (.loop 2 3) := ⟨rfl, rfl, rfl⟩
  have h₂ : r₂.Due w (.loopSave "v_") := ⟨rfl, rfl, rfl⟩
  have hcounter₃ : r₃.scene.state.counter = 3 := by decide +kernel
  have h₃ : r₃.Due w .loopEnd := ⟨by decide +kernel, by decide +kernel, by rw [hcounter₃]; rfl⟩
  have hcounter : q.scene.state.counter = 2 := by decide +kernel
  have hd : q.Due w (.loopSave "v_") :=
    ⟨by decide +kernel, by decide +kernel, by rw [hcounter]; rfl⟩
  have hiteration : q.scene.state.iteration? = some 4 := by decide +kernel
  have hunasked : (q.beforeVerdict e w (.loopSave "v_")).cancelRequested = false := by
    decide +kernel
  have hgenerated : q.scene.memory.generated = 1 := by decide +kernel
  let s : RunState := (Engine.atVisit q.scene.state.counter q.scene).state
  have hframe : s.frame?.isSome = true := by decide +kernel
  have hwaits : (s.fresh && s.canvas.isSome) = false := by decide +kernel
  have hprompt : s.hasPrompt = true := by decide +kernel
  have hcan : (s.canGenerate && s.canFit) = true := by decide +kernel
  have hasked : .generate (s.fitMask.generateCall e.baseline) ∈ q.asked e w (.loopSave "v_") := by
    rw [asked, Engine.asked_eq, if_neg (by decide), Engine.requests_loopSave, if_pos hframe,
      e.saveRequests_of_hasPrompt hwaits hprompt, Engine.renderRequests, if_pos hcan]
    exact List.mem_singleton_self _
  have hending : (script.step (q.scene.memory.generated + 1)).ending =
      .fail (.interrupted .outside) := by
    rw [hgenerated]
    rfl
  have h : (rehearsalSession.run e w).2 = .ok _ :=
    Session.run_of_ending (by decide) rfl rfl (by decide +kernel)
  obtain ⟨after, r, r', hr, hr', hstatus, -, -, hreport, -, -, ⟨notRun, hentries, -⟩, hended, -,
      hgaveUp⟩ :=
    interruptions_agree h (.cons h₀ (.cons h₁ (.cons h₂ (.cons h₃ (.nil q))))) hd
      hasked (interrupts_of_step hending _)
  have hentry : q.interruptedEntry (.loopSave "v_") =
      { index := 2, kind := .loopSave, outcome := .skipped, message := "Execution cancelled",
        iteration := some 4 } := by
    rw [interruptedEntry, hcounter, hiteration]
    rfl
  rw [hentry] at hentries
  exact ⟨after, r, r', hr, hr', hstatus, hreport, hended, (hgaveUp hunasked).1, _, notRun, hentries⟩

end Session

end ImageWorkflow
