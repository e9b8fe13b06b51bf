import Mathlib
import ImageWorkflow.Proofs.Contacts
import ImageWorkflow.Proofs.Erasure
import ImageWorkflow.Proofs.EventStream

/-!
# Magic prompts might as well be left out

Two runs side by side: one of a workflow, and one of the same workflow without some of its magic
prompts.
* `Engine.Quiet` : nobody requests cancellation;
* `Run.Agrees` : two runs side by side, the second under the new indices;
* `Run.Course.without` : the visits of what is kept lead both on side by side;
  `Run.StopsAfter.without` : until both stop; `Run.report_without` : the reports then;
* `Session.run_without` : what comes of both runs.
-/

namespace ImageWorkflow

/-- No observer requests cancellation. -/
def Engine.Quiet {σ : Type} (e : Engine σ) : Prop :=
  ∀ observer ∈ e.observers, ∀ events, observer events ≠ .cancel

theorem Instruction.isPlain_of_xlMagic {i : Instruction} (h : i.kind = .xlMagic) :
    i.isPlain = true := by
  cases i <;> first | rfl | cases h

namespace Run
variable {σ : Type} {gone : Nat → Bool} {e : Engine σ} {w : Workflow} {r r' last last' : Run σ}
  {i : Instruction} {us vs vs' : List (Run σ × Instruction)}

/-! ## Without requests -/

theorem emit_of_quiet (h : e.Quiet) (r : Run σ) (event : Event) :
    r.emit e event = { r with events := event :: r.events } := by
  have hnone : (e.observers.any fun observer => observer (event :: r.events) = .cancel) = false :=
    List.any_eq_false.mpr fun observer hobserver => by simpa using h observer hobserver _
  rw [emit, hnone, Bool.or_false]

theorem emitProgress_of_quiet (h : e.Quiet) (r : Run σ) (index : Nat) (progress : List Progress) :
    ∃ events, r.emitProgress e index progress = { r with events } := by
  unfold emitProgress
  induction progress generalizing r with
  | nil => exact ⟨r.events, rfl⟩
  | cons p rest ih =>
    rw [List.foldl_cons, emit_of_quiet h]
    obtain ⟨events, hevents⟩ := ih { r with events := .progress index p :: r.events }
    exact ⟨events, hevents⟩

/-- What a visit makes of a run, its events apart. -/
theorem visited_of_quiet (h : e.Quiet) (r : Run σ) (i : Instruction) :
    let result := r.visitDue e w i
    let ending := endingAfter r.cancelRequested result.2
    ∃ events, r.visited e w i =
      { scene := result.1
        entries := r.entryDue e w i :: r.entries
        events
        fatalError := result.2.fatalError
        cancelRequested := r.cancelRequested || ending = .abandoned
        ending } := by
  intro result ending
  obtain ⟨events, hprogress⟩ := emitProgress_of_quiet h
    (r.emit e (.started r.scene.state.counter w.length i)) r.scene.state.counter result.1.progress
  rw [emit_of_quiet h] at hprogress
  rw [visited_eq_conclude, conclude, emit_of_quiet h, hprogress]
  dsimp only
  split
  · exact ⟨events, rfl⟩
  · rw [emit_of_quiet h]
    exact ⟨_, rfl⟩

theorem breakOff_of_quiet (h : e.Quiet) (r : Run σ) (i : Instruction) :
    ∃ events, r.breakOff e w r.scene.state.counter i =
      { r with scene := (r.visitDue e w i).1, events, ending := .broken } := by
  obtain ⟨events, hprogress⟩ := emitProgress_of_quiet h
    (r.emit e (.started r.scene.state.counter w.length i)) r.scene.state.counter
    (r.visitDue e w i).1.progress
  rw [emit_of_quiet h] at hprogress
  refine ⟨events, ?_⟩
  rw [breakOff, emit_of_quiet h]
  exact congrArg (fun q : Run σ => { q with scene := (r.visitDue e w i).1, ending := .broken })
    hprogress

/-! ## Runs side by side -/

/-- Two runs side by side: the second has the new indices, and no entries for what is gone. -/
structure Agrees (gone : Nat → Bool) (r r' : Run σ) : Prop where
  scene : r.scene.Agrees gone r'.scene
  entries : r'.entries = keptEntries gone r.entries
  fatalError : r'.fatalError = r.fatalError
  cancelRequested : r'.cancelRequested = r.cancelRequested
  ending : r'.ending = r.ending

/-- Runs in which nothing has happened that ends them. -/
structure Steady (gone : Nat → Bool) (w : Workflow) (r : Run σ) : Prop where
  loops : r.scene.state.KeptLoops gone
  ending : r.fatalError = none → r.ending = .own
  /-- What is requested is honoured at an instruction that is kept. -/
  asked : r.fatalError = none → r.cancelRequested = true →
    (w.without gone)[keptBefore gone r.scene.state.counter]? ≠ none

theorem fatalError_of_ending {asked : Bool} {verdict : Engine.Verdict}
    (h : endingAfter asked verdict ≠ .own) : verdict.fatalError ≠ none := by
  cases verdict with
  | done | passedOver => exact absurd rfl h
  | failed failure =>
    cases failure with
    | interrupted => exact nofun
    | _ => exact absurd rfl h

theorem Steady.visited (hquiet : e.Quiet) (honly : w.OnlyMagic gone 0) (h : r.Steady gone w)
    (hd : r.Due w i) : (r.visited e w i).Steady gone w := by
  have hposition : (r.visited e w i).scene.state.position = r.scene.state.position.next w i :=
    visited_position
  have hkept (hi : i.isPlain = false) : gone r.scene.state.counter = false := by
    refine honly.kept hd.here fun hkind => ?_
    rw [Instruction.isPlain_of_xlMagic hkind] at hi
    cases hi
  have hloops := h.loops.next hkept hposition
  obtain ⟨events, hvisited⟩ := visited_of_quiet (w := w) hquiet r i
  refine ⟨hloops, fun hfatal => ?_, fun hfatal hasked => ?_⟩
  · rw [hvisited] at hfatal ⊢
    by_contra hending
    exact fatalError_of_ending hending hfatal
  · rw [hvisited] at hfatal hasked
    rw [hd.unasked, Bool.false_or, decide_eq_true_iff] at hasked
    exact absurd hfatal (fatalError_of_ending (by rw [hasked]; nofun))

section steps
variable (hquiet : e.Quiet) (honly : w.OnlyMagic gone 0) (h : r.Agrees gone r')
  (hsteady : r.Steady gone w) (hd : r.Due w i)
include hquiet honly h hsteady hd

/-- What is gone leaves the runs side by side. -/
theorem Agrees.visited_of_gone (hgone : gone r.scene.state.counter = true) :
    (r.visited e w i).Agrees gone r' := by
  obtain ⟨reason, hverdict, hscene⟩ := e.visit_of_gone (w := w) h.scene r.scene.state.counter
    (honly.kind hd.here hgone) hgone rfl
  have hverdict : (r.visitDue e w i).2 = .passedOver reason := hverdict
  obtain ⟨events, hvisited⟩ := visited_of_quiet (w := w) hquiet r i
  rw [hvisited, hverdict]
  refine ⟨hscene, ?_, h.fatalError.trans hd.going, ?_, h.ending.trans (hsteady.ending hd.going)⟩
  · have hentry : (!gone (r.entryDue e w i).index) = false := by
      rw [Bool.not_eq_false']
      exact hgone
    rw [h.entries, keptEntries, keptEntries, List.filter_cons_of_neg (by simp [hentry])]
  · rw [h.cancelRequested]
    exact (Bool.or_false _).symm

omit hquiet honly hsteady in
theorem Agrees.due (hkept : gone r.scene.state.counter = false) : r'.Due (w.without gone) i where
  going := h.fatalError.trans hd.going
  unasked := h.cancelRequested.trans hd.unasked
  here := by
    rw [h.scene.state]
    exact (Workflow.getElem?_without hkept).trans hd.here

/-- What is kept is visited in both runs. -/
theorem Agrees.visited_of_kept (hkept : gone r.scene.state.counter = false) :
    (r.visited e w i).Agrees gone (r'.visited e (w.without gone) i) := by
  have hcounter : r'.scene.state.counter = keptBefore gone r.scene.state.counter := by
    rw [h.scene.state]
    rfl
  have hvisit : ResultsAgree gone (r.visitDue e w i) (r'.visitDue e (w.without gone) i) := by
    rw [visitDue, visitDue, hcounter]
    exact e.visit_without h.scene _ honly hd.here hkept hsteady.loops
  have hentry : r'.entryDue e (w.without gone) i = (r.entryDue e w i).renumber gone := by
    have hiteration : r'.scene.state.iteration? = r.scene.state.iteration? := by
      rw [h.scene.state, RunState.iteration?_renumber]
    rw [entryDue, entryDue, hvisit.answer, hcounter, hiteration]
    rfl
  obtain ⟨events, hvisited⟩ := visited_of_quiet (w := w) hquiet r i
  obtain ⟨events', hvisited'⟩ := visited_of_quiet (w := w.without gone) hquiet r' i
  rw [hvisited, hvisited', hvisit.answer, h.cancelRequested]
  refine ⟨hvisit.scene, ?_, rfl, rfl, rfl⟩
  have hindex : (!gone (r.entryDue e w i).index) = true := by
    rw [Bool.not_eq_true']
    exact hkept
  rw [h.entries, hentry, keptEntries, keptEntries, List.filter_cons_of_pos (by simp [hindex])]
  rfl

omit hquiet in
theorem Agrees.breaks_iff (hkept : gone r.scene.state.counter = false) :
    Breaks e (w.without gone) (r', i) ↔ Breaks e w (r, i) := by
  have hcounter : r'.scene.state.counter = keptBefore gone r.scene.state.counter := by
    rw [h.scene.state]
    rfl
  rw [Breaks, Breaks, hcounter]
  exact (e.breaks_without h.scene _ honly hd.here hkept hsteady.loops) ▸ Iff.rfl

theorem Agrees.breakOff (hkept : gone r.scene.state.counter = false) :
    (r.breakOff e w r.scene.state.counter i).Agrees gone
      (r'.breakOff e (w.without gone) r'.scene.state.counter i) := by
  have hscene := (h.visited_of_kept hquiet honly hsteady hd hkept).scene
  rw [visited_scene, visited_scene] at hscene
  obtain ⟨events, hbroken⟩ := breakOff_of_quiet (w := w) hquiet r i
  obtain ⟨events', hbroken'⟩ := breakOff_of_quiet (w := w.without gone) hquiet r' i
  rw [hbroken, hbroken']
  exact ⟨hscene, h.entries, h.fatalError, h.cancelRequested, rfl⟩

end steps

/-- Whether a visit is that of an instruction that is kept. -/
def isKept (gone : Nat → Bool) (v : Run σ × Instruction) : Bool :=
  !gone v.1.scene.state.counter

/-- Two visits side by side. -/
def VisitsAgree (gone : Nat → Bool) (v v' : Run σ × Instruction) : Prop :=
  v.1.Agrees gone v'.1 ∧ v'.2 = v.2

/-- The visits of what is kept lead both runs on side by side. -/
theorem Course.without (hquiet : e.Quiet) (honly : w.OnlyMagic gone 0) (hc : Course e w r vs last)
    (hvs : ∀ v ∈ vs, ¬ Breaks e w v) (h : r.Agrees gone r') (hsteady : r.Steady gone w) :
    ∃ vs' last', Course e (w.without gone) r' vs' last' ∧
      (∀ v ∈ vs', ¬ Breaks e (w.without gone) v) ∧ last.Agrees gone last' ∧
      last.Steady gone w ∧ (vs.filter (isKept gone)).Forall₂ (VisitsAgree gone) vs' := by
  induction hc generalizing r' with
  | nil r => exact ⟨[], r', .nil r', List.forall_mem_nil _, h, hsteady, .nil⟩
  | @cons r last i vs hd hc ih =>
    obtain ⟨hi, hrest⟩ := List.forall_mem_cons.mp hvs
    have hsteady' := hsteady.visited hquiet honly hd
    cases hgone : gone r.scene.state.counter with
    | true =>
      obtain ⟨vs', last', hlast⟩ :=
        ih hrest (h.visited_of_gone hquiet honly hsteady hd hgone) hsteady'
      refine ⟨vs', last', ?_⟩
      rwa [List.filter_cons_of_neg (by simp [isKept, hgone])]
    | false =>
      obtain ⟨vs', last', hc', hvs', hlast, hsteadyLast, hpairs⟩ :=
        ih hrest (h.visited_of_kept hquiet honly hsteady hd hgone) hsteady'
      refine ⟨(r', i) :: vs', last', .cons (h.due hd hgone) hc', ?_, hlast, hsteadyLast, ?_⟩
      · exact List.forall_mem_cons.mpr ⟨(h.breaks_iff honly hsteady hd hgone).not.mpr hi, hvs'⟩
      · rw [List.filter_cons_of_pos (by simp [isKept, hgone])]
        exact .cons ⟨h, rfl⟩ hpairs

theorem Ends.without (he : Ends w last r) (h : last.Agrees gone last')
    (hsteady : last.Steady gone w) :
    ∃ r', Ends (w.without gone) last' r' ∧ r.Agrees gone r' := by
  have hcounter : last'.scene.state.counter = keptBefore gone last.scene.state.counter := by
    rw [h.scene.state]
    rfl
  cases he with
  | finished hgoing hend =>
    refine ⟨last', .finished (h.fatalError.trans hgoing) ?_, h⟩
    rw [hcounter]
    exact Workflow.getElem?_without_of_none hend
  | aborted hfatal => exact ⟨last', .aborted (h.fatalError ▸ hfatal), h⟩
  | cancelled hgoing hasked _ =>
    refine ⟨last'.cancelledHere, .cancelled (h.fatalError.trans hgoing)
      (h.cancelRequested.trans hasked) ?_, h.scene, h.entries, rfl, h.cancelRequested, rfl⟩
    rw [hcounter]
    exact hsteady.asked hgoing hasked

/-- Both runs go on side by side until they stop. -/
theorem StopsAfter.without (hquiet : e.Quiet) (honly : w.OnlyMagic gone 0)
    (hs : StopsAfter e w r vs last) (h : r.Agrees gone r') (hsteady : r.Steady gone w) :
    ∃ vs' last', StopsAfter e (w.without gone) r' vs' last' ∧ last.Agrees gone last' ∧
      (vs.filter (isKept gone)).Forall₂ (VisitsAgree gone) vs' := by
  cases hs with
  | ends hc hvs he =>
    obtain ⟨vs', before, hc', hvs', hbefore, hsteady', hpairs⟩ :=
      hc.without hquiet honly hvs h hsteady
    obtain ⟨last', he', hlast⟩ := he.without hbefore hsteady'
    exact ⟨vs', last', .ends hc' hvs' he', hlast, hpairs⟩
  | @breaks before i vs hc hvs hd hbreaks =>
    obtain ⟨vs', before', hc', hvs', hbefore, hsteady', hpairs⟩ :=
      hc.without hquiet honly hvs h hsteady
    -- what breaks a run is carried out, so it is kept
    have hkept : gone before.scene.state.counter = false := by
      refine honly.kept hd.here fun hkind => ?_
      obtain ⟨hsupport, -⟩ := (e.breaks_iff w _ _).mp hbreaks
      rw [hkind] at hsupport
      exact hsupport rfl
    refine ⟨vs' ++ [(before', i)], _, .breaks hc' hvs' (hbefore.due hd hkept)
      ((hbefore.breaks_iff honly hsteady' hd hkept).mpr hbreaks),
      hbefore.breakOff hquiet honly hsteady' hd hkept, ?_⟩
    rw [List.filter_append, List.filter_cons_of_pos (by simp [isKept, hkept])]
    exact List.rel_append hpairs (.cons ⟨hbefore, rfl⟩ .nil)

/-! ## Runs stop in one way only -/

theorem Ends.unique {ended ended' : Run σ} (h : Ends w r ended) (h' : Ends w r ended') :
    ended = ended' := by
  cases h with
  | finished hgoing hend =>
    cases h' with
    | finished => rfl
    | aborted hfatal => exact absurd hgoing hfatal
    | cancelled _ _ hhere => exact absurd hend hhere
  | aborted hfatal =>
    cases h' with
    | finished hgoing => exact absurd hgoing hfatal
    | aborted => rfl
    | cancelled hgoing => exact absurd hgoing hfatal
  | cancelled hgoing _ hhere =>
    cases h' with
    | finished _ hend => exact absurd hend hhere
    | aborted hfatal => exact absurd hgoing hfatal
    | cancelled => rfl

/-- A run stops in one way only. -/
theorem StopsAfter.unique {stopped stopped' : Run σ} (h : StopsAfter e w r vs stopped)
    (h' : StopsAfter e w r vs' stopped') : vs = vs' ∧ stopped = stopped' := by
  -- a sequence of whole visits goes no further than one after which the run stops
  cases h with
  | ends hc hvs he =>
    cases h' with
    | ends hc' hvs' he' =>
      obtain rfl : vs = vs' :=
        (hc.isPrefix hc' he').eq_of_length_le (hc'.isPrefix hc he).length_le
      obtain rfl := hc.unique hc'
      exact ⟨rfl, he.unique he'⟩
    | breaks hc' _ hd' hbreaks =>
      have hshorter := (hc'.concat hd').isPrefix hc he
      exact absurd hbreaks (hvs _ (hshorter.subset List.mem_concat_self))
  | @breaks last i us hc hus hd hbreaks =>
    cases h' with
    | ends hc' hvs' he' =>
      have hshorter := (hc.concat hd).isPrefix hc' he'
      exact absurd hbreaks (hvs' _ (hshorter.subset List.mem_concat_self))
    | @breaks last' i' us' hc' hus' hd' hbreaks' =>
      have hsame : us ++ [(last, i)] = us' ++ [(last', i')] := by
        rcases Course.prefix_or_prefix (hc.concat hd) (hc'.concat hd') with hshorter | hshorter
        · refine (List.prefix_concat_iff.mp hshorter).resolve_right fun hshorter => ?_
          exact hus' _ (hshorter.subset List.mem_concat_self) hbreaks
        · refine ((List.prefix_concat_iff.mp hshorter).resolve_right fun hshorter => ?_).symm
          exact hus _ (hshorter.subset List.mem_concat_self) hbreaks'
      obtain ⟨rfl, hlast⟩ := List.append_inj' hsame rfl
      obtain ⟨rfl, rfl⟩ := Prod.mk.inj (List.singleton_inj.mp hlast)
      exact ⟨rfl, rfl⟩

/-! ## Reports -/

theorem any_index_keptEntries {index : Nat} (h : gone index = false) (entries : List Entry) :
    ((keptEntries gone entries).any fun entry => entry.index = keptBefore gone index) =
      entries.any fun entry => entry.index = index := by
  induction entries with
  | nil => rfl
  | cons entry entries ih =>
    unfold keptEntries at ih ⊢
    cases hentry : gone entry.index with
    | true =>
      have hne : entry.index ≠ index := by
        rintro rfl
        rw [h] at hentry
        cases hentry
      rw [List.filter_cons_of_neg (by simp [hentry]), ih, List.any_cons, decide_eq_false hne,
        Bool.false_or]
    | false =>
      rw [List.filter_cons_of_pos (by simp [hentry]), List.map_cons, List.any_cons, ih,
        List.any_cons]
      exact congrArg (· || _) (decide_eq_decide.mpr (keptBefore_inj hentry h))

/-- What was never visited, from index `index` on. -/
def unvisitedFrom (visited : List Entry) (error : String) (index : Nat) (u : Workflow) :
    List Entry :=
  ((List.range' index u.length).zip u).filterMap fun (index, i) =>
    if visited.any (·.index = index) then none
    else some { index, kind := i.kind, outcome := .skipped, message := s!"Not run: {error}" }

theorem unvisitedFrom_cons (visited : List Entry) (error : String) (index : Nat) (i : Instruction)
    (rest : Workflow) : unvisitedFrom visited error index (i :: rest) =
      (if visited.any (·.index = index) then []
        else [{ index, kind := i.kind, outcome := .skipped, message := s!"Not run: {error}" }]) ++
        unvisitedFrom visited error (index + 1) rest := by
  rw [unvisitedFrom, List.length_cons, List.range'_succ, List.zip_cons_cons, List.filterMap_cons]
  split <;> split_ifs at * <;> simp_all [unvisitedFrom]

theorem unvisitedFrom_without (visited : List Entry) (error : String) (index : Nat)
    (u : Workflow) : unvisitedFrom (keptEntries gone visited) error (keptBefore gone index)
        (Workflow.withoutFrom gone index u) =
      keptEntries gone (unvisitedFrom visited error index u) := by
  induction u generalizing index with
  | nil => rfl
  | cons i rest ih =>
    have hnext := ih (index + 1)
    rw [unvisitedFrom_cons]
    cases hgone : gone index with
    | true =>
      rw [keptBefore_succ_of_gone hgone] at hnext
      rw [Workflow.withoutFrom_of_gone hgone, hnext]
      unfold keptEntries
      split
      · rfl
      · rw [List.filter_append, List.filter_cons_of_neg (by simp [hgone])]
        rfl
    | false =>
      rw [keptBefore_succ_of_kept hgone] at hnext
      rw [Workflow.withoutFrom_of_kept hgone, unvisitedFrom_cons, hnext,
        any_index_keptEntries hgone]
      unfold keptEntries
      split
      · rfl
      · rw [List.filter_append, List.filter_cons_of_pos (by simp [hgone])]
        rfl

/-- The second run has the same report, under the new indices and without entries for what is
gone. -/
theorem report_without (h : r.Agrees gone r') :
    r'.report (w.without gone) = (r.report w).without gone := by
  have hunvisited (error : String) : unvisited (w.without gone) r'.entries error =
      keptEntries gone (unvisited w r.entries error) := by
    have hfrom : unvisitedFrom (keptEntries gone r.entries) error (keptBefore gone 0) _ = _ :=
      unvisitedFrom_without r.entries error 0 w
    rw [keptBefore_zero] at hfrom
    rw [unvisited, unvisited, h.entries, List.range_eq_range', List.range_eq_range']
    exact hfrom
  have hreverse : r'.entries.reverse = keptEntries gone r.entries.reverse := by
    rw [h.entries, keptEntries, keptEntries, List.filter_reverse, List.map_reverse]
  rw [report, report, RunReport.without, h.ending, h.fatalError, h.scene.images, hreverse]
  congr 1
  cases r.fatalError with
  | none => simp
  | some error =>
    dsimp only
    rw [hunvisited, keptEntries, keptEntries, keptEntries, List.filter_append, List.map_append]

end Run

/-! ## Sessions -/

/-- Why there are no reports of two runs side by side. -/
inductive RunRefusal.Agrees (gone : Nat → Bool) : RunRefusal → RunRefusal → Prop
  | invalid {report report' : Report} : report'.errors = report.errors.map (·.renumber gone) →
      Agrees gone (.invalid report) (.invalid report')
  | workingDirectory (directory : FilePath) (error : FileError) :
      Agrees gone (.workingDirectory directory error) (.workingDirectory directory error)
  | busy : Agrees gone .busy .busy
  | check (error : OtherError) : Agrees gone (.check error) (.check error)
  | broken (events events' : List Event) (fault : ExtentFault) :
      Agrees gone (.broken events fault) (.broken events' fault)

namespace Session
open Run
variable {σ : Type} {gone : Nat → Bool} {s : Session σ} {e : Engine σ} {w : Workflow}
  {checks : Option Bool} {enforces : Bool} {r r' : Run σ}

/-- What comes of two runs side by side. -/
inductive OutcomesAgree (gone : Nat → Bool) (w : Workflow) :
    Except RunRefusal (Run σ) → Except RunRefusal (Run σ) → Prop
  | refused {refusal refusal' : RunRefusal} : refusal.Agrees gone refusal' →
      OutcomesAgree gone w (.error refusal) (.error refusal')
  | ran {r r' : Run σ} : r'.scene.state = r.scene.state.renumber gone →
      r'.report (w.without gone) = (r.report w).without gone →
      OutcomesAgree gone w (.ok r) (.ok r')

/-- What two runs side by side leave, and what comes of them. -/
structure RunsAgree (gone : Nat → Bool) (w : Workflow)
    (x x' : Session σ × Except RunRefusal (Run σ)) : Prop where
  status : x'.1.status = x.1.status
  files : x'.1.files.textless = x.1.files.textless
  memory : x'.1.memory = x.1.memory
  outcome : OutcomesAgree gone w x.2 x'.2

theorem settle_without (hquiet : e.Quiet) (h : r.Agrees gone r') :
    RunsAgree gone w (settle e w r) (settle e (w.without gone) r') := by
  unfold settle
  rw [h.ending]
  split
  · exact ⟨rfl, h.scene.files, h.scene.memory, .refused (.broken _ _ _)⟩
  · have hreport := report_without (w := w) h
    dsimp only [finish]
    rw [emit_of_quiet hquiet, emit_of_quiet hquiet]
    refine ⟨?_, h.scene.files, h.scene.memory, .ran h.scene.state hreport⟩
    show (r'.report (w.without gone)).status = (r.report w).status
    rw [hreport]
    rfl

section starts
variable (honly : w.OnlyMagic gone 0)
include honly

theorem checkFirst_without (checksConnection : Bool) (memory : σ) :
    Run.checkFirst e (w.without gone) checksConnection memory =
      Run.checkFirst e w checksConnection memory := by
  rw [Run.checkFirst, Run.checkFirst, Workflow.needsProvider_without honly]

theorem interruptedFirst_without (checksConnection : Bool) (memory : σ) :
    Run.interruptedFirst e (w.without gone) checksConnection memory =
      Run.interruptedFirst e w checksConnection memory := by
  rw [Run.interruptedFirst, Run.interruptedFirst, Workflow.needsProvider_without honly]

omit honly in
theorem agrees_start (connected : Bool) (interruption : Option Interruption) (files : FileTree)
    (memory : σ) : (Run.start e connected interruption files memory).Agrees gone
      (Run.start e connected interruption files memory) :=
  ⟨⟨by rw [Run.start, RunState.renumber, keptBefore_zero]; rfl, rfl, rfl, rfl⟩, rfl, rfl, rfl, rfl⟩

/-- Cancellation that is requested while the connection is checked is honoured, since a workflow
that needs the provider has instructions that are kept. -/
theorem steady_start (connected checksConnection : Bool) (files : FileTree)
    (memory memory' : σ) : (Run.start e connected
      (Run.interruptedFirst e w checksConnection memory) files memory').Steady gone w := by
  refine ⟨fun _ hframe => absurd hframe List.not_mem_nil, fun hgoing => ?_, fun _ hasked => ?_⟩
  · unfold Run.start at hgoing ⊢
    dsimp only at hgoing ⊢
    split at hgoing
    · cases hgoing
    · rename_i hinside
      exact if_neg hinside
  · have hneeds : Run.needsProvider (w.without gone) = true := by
      rw [Workflow.needsProvider_without honly]
      have hasked : (Run.interruptedFirst e w checksConnection memory).isSome = true := hasked
      unfold Run.interruptedFirst at hasked
      split at hasked
      · rename_i hchecks
        exact (Bool.and_eq_true_iff.mp hchecks).2
      · cases hasked
    have hcounter : (Run.start e connected (Run.interruptedFirst e w checksConnection memory) files
        memory').scene.state.counter = 0 := rfl
    rw [hcounter, keptBefore_zero]
    cases hkept : w.without gone with
    | nil =>
      rw [hkept] at hneeds
      cases hneeds
    | cons => exact Option.some_ne_none _

end starts

section
variable (hquiet : e.Quiet) (honly : w.OnlyMagic gone 0)
include hquiet honly

theorem execute_without (connected checksConnection : Bool) (files : FileTree)
    (memory memory' : σ) :
    let interruption := Run.interruptedFirst e w checksConnection memory
    RunsAgree gone w (settle e w (Run.execute e w connected interruption files memory'))
      (settle e (w.without gone)
        (Run.execute e (w.without gone) connected interruption files memory')) := by
  intro interruption
  obtain ⟨vs, hstops⟩ := Run.exists_stopsAfter e w connected interruption files memory'
  obtain ⟨us, hstops'⟩ :=
    Run.exists_stopsAfter e (w.without gone) connected interruption files memory'
  obtain ⟨vs', stopped', hstopped', hagrees, -⟩ := hstops.without hquiet honly
    (agrees_start connected interruption files memory')
    (steady_start honly connected checksConnection files memory memory')
  obtain ⟨-, rfl⟩ := hstopped'.unique hstops'
  exact settle_without hquiet hagrees

theorem perform_without (checksConnection : Bool) (files : FileTree) (memory : σ) :
    RunsAgree gone w (perform e w checksConnection files memory)
      (perform e (w.without gone) checksConnection files memory) := by
  unfold perform
  rw [checkFirst_without honly, interruptedFirst_without honly]
  generalize Run.checkFirst e w checksConnection memory = check
  obtain ⟨answer, memory'⟩ := check
  cases answer with
  | error error =>
    dsimp only
    split
    · exact execute_without hquiet honly false checksConnection files memory memory'
    · exact ⟨rfl, rfl, rfl, .refused (.check error)⟩
  | ok connected => exact execute_without hquiet honly connected checksConnection files memory memory'

/-- What comes of a run and what it leaves is the same without the magic prompts. -/
theorem runsAgree (s : Session σ) (checks : Option Bool) (enforces : Bool) :
    RunsAgree gone w (s.run e w checks enforces) (s.run e (w.without gone) checks enforces) := by
  by_cases hbusy : s.status = .running
  · rw [run, run, if_pos hbusy, if_pos hbusy]
    exact ⟨rfl, rfl, rfl, .refused .busy⟩
  rw [run_of_idle hbusy, run_of_idle hbusy, Engine.admission, Engine.admission,
    Workflow.isValid_without honly]
  by_cases hinvalid : (enforces && !w.validate.isValid) = true
  · rw [if_pos hinvalid, if_pos hinvalid]
    exact ⟨rfl, rfl, rfl, .refused (.invalid (Workflow.errors_without honly))⟩
  · rw [if_neg hinvalid, if_neg hinvalid]
    generalize s.files.makeDirectories e.workingDirectory = prepared
    obtain ⟨files, prepared⟩ := prepared
    cases prepared with
    | error error => exact ⟨rfl, rfl, rfl, .refused (.workingDirectory _ error)⟩
    | ok => exact perform_without hquiet honly _ files s.memory

/-- A run is refused just if it is without the magic prompts. -/
theorem not_refuses_without (h : ¬ s.Refuses e w checks enforces) :
    ¬ s.Refuses e (w.without gone) checks enforces := by
  rintro ⟨refusal', hrefusal', hwhole⟩
  have houtcome := (runsAgree hquiet honly s checks enforces).outcome
  rw [hrefusal'] at houtcome
  generalize hresult : (s.run e w checks enforces).2 = result at houtcome
  cases houtcome with
  | refused hagrees =>
    refine h ⟨_, hresult, fun events fault hbroken => ?_⟩
    subst hbroken
    cases hagrees with
    | broken _ events' => exact hwhole events' fault rfl

/-- Whether some magic prompts are left out of a workflow or not: what passes between a run and its
provider is the same, and so are what is left of the session and its report, but for the indices and
the entries of what is left out.  The files differ at most in the texts beside saved images, which
name the index of an instruction.  All this holds of each visit, too: those of what is kept are made
side by side. -/
theorem run_without (s : Session σ) (checks : Option Bool) (enforces : Bool) :
    s.contacts e (w.without gone) checks enforces = s.contacts e w checks enforces ∧
    RunsAgree gone w (s.run e w checks enforces) (s.run e (w.without gone) checks enforces) ∧
    ∀ vs stopped, s.Carries e w checks enforces vs stopped → ∃ vs' stopped',
      s.Carries e (w.without gone) checks enforces vs' stopped' ∧ stopped.Agrees gone stopped' ∧
      (vs.filter (isKept gone)).Forall₂ (VisitsAgree gone) vs' := by
  refine ⟨?_, runsAgree hquiet honly s checks enforces, fun vs stopped hcarries => ?_⟩
  · have hquiet : e.transcribed.Quiet := hquiet
    exact congrArg Prod.snd (runsAgree hquiet honly s.transcribed checks enforces).memory
  · have hstart : s.start e (w.without gone) checks = s.start e w checks := by
      simp only [start, checkFirst_without honly, interruptedFirst_without honly]
    obtain ⟨vs', stopped', hstops, hagrees, hpairs⟩ := hcarries.visits.without hquiet honly
      (agrees_start ..) (steady_start honly ..)
    obtain ⟨us, other, hcarries'⟩ :=
      (refuses_or_carries s e (w.without gone) checks enforces).resolve_left
        (not_refuses_without hquiet honly hcarries.not_refuses)
    have hvisits := hcarries'.visits
    rw [hstart] at hvisits
    obtain ⟨-, rfl⟩ := hvisits.unique hstops
    exact ⟨vs', _, ⟨hstart ▸ hstops, hcarries'.settles⟩, hagrees, hpairs⟩

end

/-- A loop that is run twice, with one magic prompt before it and one inside. -/
theorem run_without_inside_loop :
    let script : Script := { steps := [{ images := .inl [Image.solid .rgb 1 1 { c0 := 5 }] }] }
    let e : Engine Rehearsal :=
      { Run.rehearsalEngine script with plugins := [{ kind := .saveMetadata }] }
    let magic : Instruction := .xlMagic (some .zero) none none
    let w : Workflow := [magic, .prompt "a", .loop 2 0, magic, .loopSave "x", .loopEnd]
    let gone : Nat → Bool := fun index => index = 0 || index = 3
    ∃ r r', (Run.rehearsalSession.run e w).2 = .ok r ∧
      (Run.rehearsalSession.run e (w.without gone)).2 = .ok r' ∧
      (r.report w).entries.map (·.index) = [0, 1, 2, 3, 4, 5, 3, 4, 5] ∧
      (r'.report (w.without gone)).entries.map (·.index) = [0, 1, 2, 3, 2, 3] ∧
      (r.report w).savedFiles = [⟨["x0.png"]⟩, ⟨["x1.png"]⟩] ∧
      r'.report (w.without gone) = (r.report w).without gone ∧
      r'.scene.files.textless = r.scene.files.textless := by
  intro script e magic w gone
  have honly : w.OnlyMagic gone 0 := by
    intro n i hi hgone
    obtain rfl | rfl : n = 0 ∨ n = 3 := by simpa [gone] using hgone
    all_goals
      cases hi
      rfl
  have hquiet : e.Quiet := fun _ hobserver => absurd hobserver List.not_mem_nil
  have h : (Run.rehearsalSession.run e w).2 = .ok _ :=
    run_of_ending (by decide) rfl rfl (by decide +kernel)
  have h' : (Run.rehearsalSession.run e (w.without gone)).2 = .ok _ :=
    run_of_ending (by decide) rfl rfl (by decide +kernel)
  obtain ⟨-, hruns, -⟩ := run_without hquiet honly Run.rehearsalSession none false
  have hfiles := hruns.files
  have houtcome := hruns.outcome
  rw [run_eq h, run_eq h'] at hfiles
  rw [h, h'] at houtcome
  cases houtcome with
  | ran _ hreport =>
    exact ⟨_, _, h, h', by decide +kernel, by decide +kernel, by decide +kernel, hreport, hfiles⟩

end Session

end ImageWorkflow
