import Mathlib
import ImageWorkflow.Proofs.Steering
import ImageWorkflow.Provider.Scripted

/-!
# The course of a run

A run is a sequence of visits.
* `Run.visited` : the run after the visit that is due, and what that visit leaves in it
  (`visited_scene`, `visited_entries`, `visited_fatalError`, `visited_position`);
  `Run.conclude` : what a run makes of the result of a visit;
* `Run.Due` : the instruction at the counter is visited next;
* `Run.Course e w r vs r'` : the visits `vs` lead from `r` to `r'`; `Run.Course.keeps` : what every
  visit keeps holds all the way;
* `Run.Ends w r r'` : how a run ends after its last visit; `Run.Course.isPrefix` : there are no
  other visits;
* `Run.StopsAfter e w r vs r'` : the visits `vs` are begun until the run stops, since it ends or
  since the last of them breaks it; `Run.visits_stopsAfter` : so does the loop over the counter,
  given a bound on the visits;
* `Run.Reached e w r` : `r` is on the way of some run of `w`.
-/

namespace ImageWorkflow

namespace Run
variable {σ : Type} {e : Engine σ} {w : Workflow} {r r' r'' : Run σ} {i : Instruction}

/-! ## What observers see leaves the rest of a run alone -/

@[simp] theorem emit_entries (event : Event) : (r.emit e event).entries = r.entries := rfl

theorem emitProgress_entries (index : Nat) (progress : List Progress) :
    (r.emitProgress e index progress).entries = r.entries := by
  unfold emitProgress
  induction progress generalizing r with
  | nil => rfl
  | cons p progress ih => exact ih

/-! ## One visit -/

/-- What comes of the visit that is due. -/
def visitDue (e : Engine σ) (w : Workflow) (r : Run σ) (i : Instruction) :
    Scene σ × Engine.Verdict :=
  e.visit w r.scene r.scene.state.counter i

/-- The entry of the visit that is due. -/
def entryDue (e : Engine σ) (w : Workflow) (r : Run σ) (i : Instruction) : Entry where
  index := r.scene.state.counter
  kind := i.kind
  outcome := (r.visitDue e w i).2.outcome i
  message := (r.visitDue e w i).2.message
  iteration := r.scene.state.iteration?

/-- The run after the visit that is due. -/
def visited (e : Engine σ) (w : Workflow) (r : Run σ) (i : Instruction) : Run σ :=
  r.step e w r.scene.state.counter i

/-- What a run makes of the result of a visit that has begun. -/
def conclude (e : Engine σ) (r : Run σ) (index : Nat) (i : Instruction) (iteration : Option Int)
    (result : Scene σ × Engine.Verdict) : Run σ :=
  let r := r.emitProgress e index result.1.progress
  let entry : Entry :=
    { index, kind := i.kind, outcome := result.2.outcome i, message := result.2.message, iteration }
  let ending := endingAfter r.cancelRequested result.2
  let r : Run σ := { r with
    scene := result.1
    entries := entry :: r.entries
    fatalError := result.2.fatalError
    cancelRequested := r.cancelRequested || ending = .abandoned
    ending }
  if ending = .abandoned then r else r.emit e (.completed entry result.1.state)

theorem visited_eq_conclude (i : Instruction) : r.visited e w i =
    conclude e (r.emit e (.started r.scene.state.counter w.length i)) r.scene.state.counter i
      r.scene.state.iteration? (r.visitDue e w i) := rfl

theorem visited_scene : (r.visited e w i).scene = (r.visitDue e w i).1 := by
  simp only [visited, step]
  split <;> rfl

theorem visited_entries : (r.visited e w i).entries = r.entryDue e w i :: r.entries := by
  simp only [visited, step]
  split <;> simp [emitProgress_entries] <;> rfl

theorem visited_fatalError : (r.visited e w i).fatalError = (r.visitDue e w i).2.fatalError := by
  simp only [visited, step]
  split <;> rfl

theorem visited_position :
    (r.visited e w i).scene.state.position = r.scene.state.position.next w i := by
  rw [visited_scene]
  exact Engine.visit_position e w r.scene _ i

/-! ## Visits in sequence -/

/-- The instruction `i` is visited next: nothing has ended the run or asks that it end. -/
structure Due (w : Workflow) (r : Run σ) (i : Instruction) : Prop where
  going : r.fatalError = none
  unasked : r.cancelRequested = false
  here : w[r.scene.state.counter]? = some i

/-- The visits `vs` lead from one run to another; each is given by the run before it and its
instruction. -/
inductive Course (e : Engine σ) (w : Workflow) : Run σ → List (Run σ × Instruction) → Run σ → Prop
  | nil (r : Run σ) : Course e w r [] r
  | cons {r r' : Run σ} {i : Instruction} {vs : List (Run σ × Instruction)} :
      r.Due w i → Course e w (r.visited e w i) vs r' → Course e w r ((r, i) :: vs) r'

/-- What every visit keeps holds all the way. -/
theorem Course.keeps {P : Run σ → Prop} {vs : List (Run σ × Instruction)}
    (h : Course e w r vs r') (hP : ∀ r i, P r → r.Due w i → P (r.visited e w i)) (hr : P r) :
    P r' ∧ ∀ v ∈ vs, P v.1 := by
  induction h with
  | nil r => exact ⟨hr, by simp⟩
  | cons hd _ ih =>
    obtain ⟨h1, h2⟩ := ih (hP _ _ hr hd)
    exact ⟨h1, List.forall_mem_cons.mpr ⟨hr, h2⟩⟩

/-- The indices of visits, in their order. -/
def indices (vs : List (Run σ × Instruction)) : List Nat := vs.map (·.1.scene.state.counter)

theorem Course.entries {vs : List (Run σ × Instruction)} (h : Course e w r vs r') :
    r'.entries = (vs.map fun v => v.1.entryDue e w v.2).reverse ++ r.entries := by
  induction h with
  | nil r => rfl
  | cons hd _ ih => rw [ih, visited_entries]; simp

/-- From the middle of the way on. -/
theorem Course.split {us vs : List (Run σ × Instruction)} {v : Run σ × Instruction}
    (h : Course e w r (us ++ v :: vs) r') :
    v.1.Due w v.2 ∧ Course e w (v.1.visited e w v.2) vs r' := by
  induction us generalizing r with
  | nil =>
    cases h with
    | cons hd hc => exact ⟨hd, hc⟩
  | cons u us ih =>
    cases h with
    | cons _ hc => exact ih hc

/-- Up to the middle of the way. -/
theorem Course.before {us vs : List (Run σ × Instruction)} {v : Run σ × Instruction}
    (h : Course e w r (us ++ v :: vs) r') : Course e w r us v.1 := by
  induction us generalizing r with
  | nil =>
    cases h with
    | cons hd _ => exact .nil _
  | cons u us ih =>
    cases h with
    | cons hd hc => exact .cons hd (ih hc)

/-- One visit further. -/
theorem Course.concat {vs : List (Run σ × Instruction)} (h : Course e w r vs r') (hd : r'.Due w i) :
    Course e w r (vs ++ [(r', i)]) (r'.visited e w i) := by
  induction h with
  | nil r => exact .cons hd (.nil _)
  | cons hd' _ ih => exact .cons hd' (ih hd)

/-- Induction on the visits so far, the latest visit last. -/
theorem Course.induction_on_last {P : List (Run σ × Instruction) → Run σ → Prop}
    {us : List (Run σ × Instruction)} (h : Course e w r us r') (hnil : P [] r)
    (hstep : ∀ us q i, Course e w r us q → q.Due w i → P us q →
      P (us ++ [(q, i)]) (q.visited e w i)) : P us r' := by
  induction us using List.reverseRecOn generalizing r' with
  | nil =>
    cases h
    exact hnil
  | append_singleton us u ih =>
    obtain ⟨hd, hlast⟩ := h.split
    cases hlast
    exact hstep us u.1 u.2 h.before hd (ih h.before)

/-- Visits in sequence lead to one run only. -/
theorem Course.unique {vs : List (Run σ × Instruction)} (h : Course e w r vs r')
    (h' : Course e w r vs r'') : r' = r'' := by
  induction h with
  | nil r =>
    cases h'
    rfl
  | cons _ _ ih =>
    cases h' with
    | cons _ hc' => exact ih hc'

/-- Of two sequences of visits one goes on where the other is left. -/
theorem Course.prefix_or_prefix {us vs : List (Run σ × Instruction)} (h : Course e w r us r')
    (h' : Course e w r vs r'') : us <+: vs ∨ vs <+: us := by
  induction h generalizing vs with
  | nil r => exact .inl List.nil_prefix
  | cons hd _ ih =>
    cases h' with
    | nil => exact .inr List.nil_prefix
    | cons hd' hc' =>
      obtain rfl := Option.some.inj (hd.here.symm.trans hd'.here)
      exact (ih hc').imp (fun h => List.cons_prefix_cons.mpr ⟨rfl, h⟩)
        (fun h => List.cons_prefix_cons.mpr ⟨rfl, h⟩)

/-- What is visited next is due. -/
theorem Course.due_of_append {us vs : List (Run σ × Instruction)} {v : Run σ × Instruction}
    (h : Course e w r us r') (h' : Course e w r (us ++ v :: vs) r'') : r'.Due w v.2 :=
  h.unique h'.before ▸ h'.split.1

/-- A run that was asked to end does so before its next visit. -/
def cancelledHere (r : Run σ) : Run σ :=
  { r with fatalError := some VisitFailure.cancelledMessage, ending := .cancelled }

/-- How a run ends after its last visit. -/
inductive Ends (w : Workflow) (r : Run σ) : Run σ → Prop
  /-- There is nothing more to visit. -/
  | finished : r.fatalError = none → w[r.scene.state.counter]? = none → Ends w r r
  /-- The visit was fatal, or the run could not begin. -/
  | aborted : r.fatalError ≠ none → Ends w r r
  /-- Cancellation was requested. -/
  | cancelled : r.fatalError = none → r.cancelRequested = true →
      w[r.scene.state.counter]? ≠ none → Ends w r r.cancelledHere

theorem Ends.entries (h : Ends w r r') : r'.entries = r.entries := by
  cases h <;> rfl

theorem Ends.scene (h : Ends w r r') : r'.scene = r.scene := by
  cases h <;> rfl

theorem Ends.not_due (h : Ends w r r') : ¬ r.Due w i := by
  intro hd
  cases h with
  | finished _ hn =>
    rw [hd.here] at hn
    cases hn
  | aborted hf => exact hf hd.going
  | cancelled _ hc =>
    rw [hd.unasked] at hc
    cases hc

/-- A run that ends made all the visits that can be made. -/
theorem Course.isPrefix {us vs : List (Run σ × Instruction)} {last ended : Run σ}
    (h : Course e w r us r') (hc : Course e w r vs last) (he : Ends w last ended) : us <+: vs := by
  refine (h.prefix_or_prefix hc).elim id ?_
  rintro ⟨rest, rfl⟩
  cases rest with
  | nil => rw [List.append_nil]
  | cons v rest => exact absurd (hc.due_of_append h) he.not_due

/-- The instruction due breaks the run. -/
def Breaks (e : Engine σ) (w : Workflow) (v : Run σ × Instruction) : Prop :=
  e.breaks w v.1.scene v.1.scene.state.counter v.2 = true

/-- The visits `vs` are begun from one run on, one after the other, and then it stops. -/
inductive StopsAfter (e : Engine σ) (w : Workflow) (r : Run σ) :
    List (Run σ × Instruction) → Run σ → Prop
  /-- The visits are made, and the run ends. -/
  | ends {last ended : Run σ} {vs : List (Run σ × Instruction)} : Course e w r vs last →
      (∀ v ∈ vs, ¬ Breaks e w v) → Ends w last ended → StopsAfter e w r vs ended
  /-- The last of the visits breaks the run. -/
  | breaks {last : Run σ} {i : Instruction} {vs : List (Run σ × Instruction)} :
      Course e w r vs last → (∀ v ∈ vs, ¬ Breaks e w v) → last.Due w i → Breaks e w (last, i) →
      StopsAfter e w r (vs ++ [(last, i)]) (last.breakOff e w last.scene.state.counter i)

namespace StopsAfter
variable {us vs : List (Run σ × Instruction)}

/-- The visits are those of a course, and what it leaves stays. -/
theorem exists_course (h : StopsAfter e w r vs r') :
    ∃ last, Course e w r vs last ∧ r'.scene = last.scene := by
  cases h with
  | ends hc _ he => exact ⟨_, hc, he.scene⟩
  | breaks hc _ hd _ =>
    refine ⟨_, hc.concat hd, ?_⟩
    rw [visited_scene]
    rfl

/-- There are no other visits. -/
theorem isPrefix (h : StopsAfter e w r vs r') (hc : Course e w r us r'')
    (hus : ∀ u ∈ us, ¬ Breaks e w u) : us <+: vs := by
  cases h with
  | ends hc' _ he => exact hc.isPrefix hc' he
  | breaks hc' _ hd hbreaks =>
    refine (hc.prefix_or_prefix (hc'.concat hd)).elim id fun h => ?_
    exact absurd hbreaks (hus _ (h.subset List.mem_concat_self))

theorem of_ends (he : Ends w r r') : StopsAfter e w r [] r' :=
  .ends (.nil r) (List.forall_mem_nil _) he

theorem cons (hd : r.Due w i) (hi : ¬ Breaks e w (r, i))
    (h : StopsAfter e w (r.visited e w i) vs r') : StopsAfter e w r ((r, i) :: vs) r' := by
  cases h with
  | ends hc hvs he => exact .ends (.cons hd hc) (List.forall_mem_cons.mpr ⟨hi, hvs⟩) he
  | breaks hc hvs hd' hbreaks =>
    exact .breaks (.cons hd hc) (List.forall_mem_cons.mpr ⟨hi, hvs⟩) hd' hbreaks

end StopsAfter

/-- `visits` goes all the way until a run stops when its budget is at least a bound `μ` on the
visits that are left. -/
theorem visits_stopsAfter {P : Run σ → Prop} {μ : Run σ → Nat} {budget : Nat}
    (hP : ∀ r i, P r → r.Due w i → P (r.visited e w i) ∧ μ (r.visited e w i) < μ r)
    (hpos : ∀ r, P r → w[r.scene.state.counter]? ≠ none → 0 < μ r) (hr : P r)
    (hb : μ r ≤ budget) : ∃ vs, StopsAfter e w r vs (r.visits e w budget) := by
  induction budget generalizing r with
  | zero =>
    refine ⟨[], .of_ends ?_⟩
    by_cases hf : r.fatalError = none
    · refine .finished hf ?_
      by_contra hn
      have := hpos r hr hn
      omega
    · exact .aborted hf
  | succ budget ih =>
    unfold visits
    split
    case isTrue hf => exact ⟨[], .of_ends (.aborted (Option.isSome_iff_ne_none.mp hf))⟩
    case isFalse hf =>
      have hf : r.fatalError = none := by simpa using hf
      split
      case h_1 hn => exact ⟨[], .of_ends (.finished hf hn)⟩
      case h_2 i hi =>
        split
        case isTrue hc =>
          exact ⟨[], .of_ends (.cancelled hf hc (by rw [hi]; exact Option.some_ne_none i))⟩
        case isFalse hc =>
          have hd : r.Due w i := ⟨hf, by simpa using hc, hi⟩
          split
          case isTrue hbreaks =>
            exact ⟨[(r, i)], .breaks (.nil r) (List.forall_mem_nil _) hd hbreaks⟩
          case isFalse hbreaks =>
            obtain ⟨hv, hlt⟩ := hP r i hr hd
            obtain ⟨vs, hstops⟩ := ih hv (by omega)
            exact ⟨(r, i) :: vs, hstops.cons hd hbreaks⟩

/-! ## Starts -/

/-- The run is on the way of some run of the workflow. -/
def Reached (e : Engine σ) (w : Workflow) (r : Run σ) : Prop :=
  ∃ connected interruption files memory vs,
    Course e w (start e connected interruption files memory) vs r

theorem Reached.keeps {P : Run σ → Prop} (h : Reached e w r)
    (hs : ∀ connected interruption files memory, P (start e connected interruption files memory))
    (hP : ∀ r i, P r → r.Due w i → P (r.visited e w i)) : P r := by
  obtain ⟨connected, interruption, files, memory, vs, hc⟩ := h
  exact (hc.keeps hP (hs ..)).1

end Run

/-! ## Sessions -/

namespace Session
variable {σ : Type} {e : Engine σ} {w : Workflow} {r r' : Run σ}

theorem settle_eq_ok (h : (settle e w r).2 = .ok r') : r.ending ≠ .broken ∧ r.finish e w = r' := by
  unfold settle at h
  split at h
  · cases h
  · rename_i hending
    cases h
    exact ⟨hending, rfl⟩

theorem settle_of_ending (h : r.ending ≠ .broken) : (settle e w r).2 = .ok (r.finish e w) := by
  rw [settle, if_neg h]

theorem settle_of_broken (h : r.ending = .broken) : settle e w r =
    ({ status := .running, files := r.scene.files, memory := r.scene.memory },
      .error (.broken r.events .noPixels)) :=
  if_pos h

/-- A run that nothing keeps from its first visit is carried out. -/
theorem run_eq_settle {s : Session σ} {checks : Option Bool} {files : FileTree} {connected : Bool}
    {memory : σ} (hidle : s.status ≠ .running)
    (hfiles : s.files.makeDirectories e.workingDirectory = (files, .ok ()))
    (hcheck : Run.checkFirst e w (checks.getD e.checksConnection) s.memory =
      (.ok connected, memory)) :
    s.run e w checks = settle e w (Run.execute e w connected
      (Run.interruptedFirst e w (checks.getD e.checksConnection) s.memory) files memory) := by
  rw [run, if_neg hidle, hfiles]
  dsimp only
  rw [hcheck]
  rfl

/-- It has a report, unless it breaks. -/
theorem run_of_ending {s : Session σ} {checks : Option Bool} {files : FileTree} {connected : Bool}
    {memory : σ} (hidle : s.status ≠ .running)
    (hfiles : s.files.makeDirectories e.workingDirectory = (files, .ok ()))
    (hcheck : Run.checkFirst e w (checks.getD e.checksConnection) s.memory =
      (.ok connected, memory)) :
    let stopped := Run.execute e w connected
      (Run.interruptedFirst e w (checks.getD e.checksConnection) s.memory) files memory
    stopped.ending ≠ .broken → (s.run e w checks).2 = .ok (stopped.finish e w) := by
  intro stopped hending
  rw [run_eq_settle hidle hfiles hcheck]
  exact settle_of_ending hending

end Session

/-! ## Rehearsals -/

namespace Run

/-- The engine that rehearses workflows by a script. -/
def rehearsalEngine (s : Script) : Engine Rehearsal where
  provider := s.provider
  workingDirectory := ⟨[]⟩

/-- A session in which nothing was rehearsed yet. -/
def rehearsalSession : Session Rehearsal where
  files := ⟨[]⟩
  memory := {}

end Run

end ImageWorkflow
