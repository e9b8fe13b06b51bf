import Mathlib
import ImageWorkflow.Proofs.LoopTrace

/-!
# How often an instruction is visited

A run visits an instruction at most once for each choice of an iteration in every loop around it,
and exactly that often if the loops are balanced and nothing ends the run before its time.
* `Workflow.balancedFrom_drop` : in a balanced workflow the open loops are those that are closed
  later; so every loop has an end (`exists_matchingEnd`) and none is open at the end
  (`openLoops_of_balanced`);
* `Run.Course.count_add_remainingAt_le`, `Run.Course.count_add_remainingAt_eq` : the visits of an
  index so far and those that are left, at most and exactly;
* `Session.visits_counted` : the visits of a run of a session.
-/

namespace ImageWorkflow

open Workflow

/-! ## Balanced workflows -/

namespace Workflow
variable {w : Workflow} {n l : Nat}

/-- What is left of a balanced workflow at an index closes just the loops that are open there. -/
theorem balancedFrom_drop (hw : w.balanced = true) (hn : n ≤ w.length) :
    balancedFrom (w.openLoops n).length (w.drop n) = true := by
  induction n with
  | zero =>
    rw [openLoops_zero]
    exact hw
  | succ n ih =>
    have hbefore := ih (Nat.le_of_succ_le hn)
    have hi : w[n]? = some w[n] := List.getElem?_eq_getElem hn
    rw [List.drop_eq_getElem_cons hn] at hbefore
    generalize w[n] = i at hi hbefore
    rcases i.bracket_cases with hb | ⟨count, start, rfl⟩ | rfl
    · rw [openLoops_succ_of_not_isBracket hi hb]
      rwa [balancedFrom_of_not_isBracket hb] at hbefore
    · rw [openLoops_succ_loop hi]
      exact hbefore
    · rw [openLoops_succ_loopEnd hi]
      cases ho : w.openLoops n with
      | nil =>
        rw [ho] at hbefore
        cases hbefore
      | cons l outer =>
        rw [ho] at hbefore
        exact hbefore

theorem openLoops_of_balanced (hw : w.balanced = true) (hn : w.length ≤ n) :
    w.openLoops n = [] := by
  have hlast := balancedFrom_drop hw (Nat.le_refl w.length)
  rw [List.drop_length] at hlast
  have hlength : (w.openLoops w.length).length = 0 := of_decide_eq_true hlast
  rw [openLoops, List.take_of_length_le hn, ← List.take_length (l := w)]
  exact List.length_eq_zero_iff.mp hlength

theorem exists_matchingEnd {count start : Int} (hw : w.balanced = true)
    (hl : w[l]? = some (.loop count start)) : w.matchingEnd? l ≠ none := by
  intro hnone
  obtain ⟨hlt, -⟩ := List.getElem?_eq_some_iff.mp hl
  have hopen := mem_openLoops_of_unmatched hl hnone hlt (Nat.le_refl _)
  rw [openLoops_of_balanced hw (Nat.le_refl _)] at hopen
  cases hopen

end Workflow

/-- In a balanced workflow only a `stop` leaves for the end. -/
theorem Position.not_leaves {w : Workflow} {p : Position} {i : Instruction}
    (hw : w.balanced = true) (hi : w[p.counter]? = some i) (hs : i ≠ .stop) : ¬ p.leaves w i := by
  intro h
  cases i with
  | stop => exact hs rfl
  | loop count start => exact exists_matchingEnd hw hi h.2
  | _ => cases h

/-! ## Visits so far and visits that are left -/

namespace Run
variable {σ : Type} {e : Engine σ} {w : Workflow} {r r' : Run σ} {i : Instruction}
  {vs : List (Run σ × Instruction)} {j : Nat}

theorem count_indices_cons (r : Run σ) (i : Instruction) (vs : List (Run σ × Instruction))
    (j : Nat) : (indices ((r, i) :: vs)).count j =
      (indices vs).count j + if j = r.scene.state.position.counter then 1 else 0 := by
  have hcons : indices ((r, i) :: vs) = r.scene.state.counter :: indices vs := rfl
  have hcounter : r.scene.state.position.counter = r.scene.state.counter := rfl
  rw [hcons, hcounter, List.count_cons]
  simp only [beq_iff_eq, eq_comm (a := j)]

theorem Course.count_add_remainingAt_le (h : Course e w r vs r')
    (hn : r.scene.state.position.Nested w) (hj : j < w.length) :
    (indices vs).count j + r'.scene.state.position.remainingAt w j ≤
      r.scene.state.position.remainingAt w j := by
  induction h with
  | nil r => simp [indices]
  | @cons r _ i vs hd _ ih =>
    have hstep := Position.remainingAt_next hn hd.here hj
    have hrest := ih (by rw [visited_position]; exact hn.next hd.here)
    rw [visited_position] at hrest
    rw [count_indices_cons]
    omega

/-- As long as no visit leaves for the end, the visits so far and those that are left add up, and
the loops being run are those that are open. -/
theorem Course.count_add_remainingAt_eq (h : Course e w r vs r')
    (hs : r.scene.state.position.loops.map (·.startIndex) =
      w.openLoops r.scene.state.position.counter)
    (hstay : ∀ v ∈ vs, ¬ v.1.scene.state.position.leaves w v.2) (j : Nat) :
    (indices vs).count j + r'.scene.state.position.remainingAt w j =
        r.scene.state.position.remainingAt w j ∧
      r'.scene.state.position.loops.map (·.startIndex) =
        w.openLoops r'.scene.state.position.counter := by
  induction h with
  | nil r => exact ⟨by simp [indices], hs⟩
  | @cons r _ i vs hd _ ih =>
    obtain ⟨hhere, hstay⟩ := List.forall_mem_cons.mp hstay
    have hstep := Position.remainingAt_next_eq hs hd.here hhere j
    have hnext := Position.starts_next hs hd.here hhere
    rw [← visited_position (e := e)] at hnext
    obtain ⟨hrest, hlast⟩ := ih hnext hstay
    rw [visited_position] at hrest
    refine ⟨?_, hlast⟩
    rw [count_indices_cons]
    omega

/-- Where a run of a balanced workflow is through, nothing is left. -/
theorem remainingAt_of_finished (hw : w.balanced = true)
    (hs : r.scene.state.position.loops.map (·.startIndex) =
      w.openLoops r.scene.state.position.counter)
    (hend : w.length ≤ r.scene.state.counter) (hj : j < w.length) :
    r.scene.state.position.remainingAt w j = 0 := by
  have hcounter : w.length ≤ r.scene.state.position.counter := hend
  have hloops : r.scene.state.position.loops = [] := by
    rw [openLoops_of_balanced hw hcounter] at hs
    exact List.map_eq_nil_iff.mp hs
  rw [Position.remainingAt, ahead_of_lt (Nat.lt_of_lt_of_le hj hcounter), hloops]
  rfl

end Run

/-! ## Runs of a session -/

namespace Session
open Run
variable {σ : Type} {s : Session σ} {e : Engine σ} {w : Workflow} {checks : Option Bool}
  {enforces : Bool} {r : Run σ}

/-- The product of the numbers of iterations of the loops that validation holds open. -/
theorem remainingAt_start (s : Session σ) (e : Engine σ) (checks : Option Bool) {j : Nat}
    (hj : j < w.length) : (s.start e w checks).scene.state.position.remainingAt w j =
      ((w.walkBefore j).openLoops.map fun l => w.loopCount l.index).prod := by
  have hstart : (s.start e w checks).scene.state.position = ⟨0, []⟩ := rfl
  have hloops := openLoops_walkBefore (Nat.le_of_lt hj)
  rw [hstart, Position.remainingAt, ahead_zero, visitBound, ← hloops, List.map_map,
    ← List.prod_eq_foldr]
  simp only [List.map_nil, List.sum_nil, Nat.add_zero]
  rfl

/-- Every run that is not refused makes finitely many visits and stops, for good: no others can be
made.  It visits an index at most as often as the loops that validation holds open there have
iterations together, and exactly as often if the loops are balanced, no `stop` is visited and no error
or cancellation ends the run. -/
theorem visits_counted (s : Session σ) (e : Engine σ) (w : Workflow) (checks : Option Bool)
    (enforces : Bool) :
    s.Refuses e w checks enforces ∨ ∃ vs stopped, s.Carries e w checks enforces vs stopped ∧
      (∀ us q, Course e w (s.start e w checks) us q → (∀ u ∈ us, ¬ Breaks e w u) → us <+: vs) ∧
      (∀ j < w.length, (indices vs).count j ≤
        ((w.walkBefore j).openLoops.map fun l => w.loopCount l.index).prod) ∧
      ∀ r, (s.run e w checks enforces).2 = .ok r →
        w.balanced = true → r.fatalError = none → (∀ v ∈ vs, v.2 ≠ .stop) →
          ∀ j < w.length, (indices vs).count j =
            ((w.walkBefore j).openLoops.map fun l => w.loopCount l.index).prod := by
  refine (refuses_or_carries s e w checks enforces).imp_right ?_
  rintro ⟨vs, stopped, hcarries⟩
  obtain ⟨last, hc, -⟩ := hcarries.visits.exists_course
  refine ⟨vs, stopped, hcarries, fun us q => hcarries.visits.isPrefix, fun j hj => ?_,
    fun r hr hw hf hstop j hj => ?_⟩
  · have hcount := hc.count_add_remainingAt_le (Position.nested_start w) hj
    rw [remainingAt_start s e checks hj] at hcount
    omega
  · obtain ⟨last, hc, -, he, rfl⟩ := hcarries.ends hr
    have hf : stopped.fatalError = none := hf
    have hstay : ∀ v ∈ vs, ¬ v.1.scene.state.position.leaves w v.2 := by
      intro v hv
      obtain ⟨us, vs', rfl⟩ := List.append_of_mem hv
      exact Position.not_leaves hw hc.split.1.here (hstop v hv)
    obtain ⟨hcount, hloops⟩ := hc.count_add_remainingAt_eq (w.openLoops_zero ▸ rfl) hstay j
    have hend : w.length ≤ last.scene.state.counter := he.scene ▸ he.finished_of_none hf
    rw [remainingAt_start s e checks hj, remainingAt_of_finished hw hloops hend hj] at hcount
    exact hcount

/-- A loop in a loop, beside one without iterations. -/
theorem visits_counted_nested :
    let w : Workflow := [.loop 2 (-1), .loop 3 7, .crop, .loopEnd, .loop 0 4, .crop, .loopEnd,
      .loopEnd, .crop]
    ∃ vs last, Course (rehearsalEngine {}) w (rehearsalSession.start (rehearsalEngine {}) w none)
        vs last ∧
      (indices vs).count 2 = 6 ∧ (indices vs).count 4 = 2 ∧ (indices vs).count 5 = 0 ∧
      (indices vs).count 8 = 1 := by
  intro w
  let r : Run Rehearsal :=
    (Run.execute (rehearsalEngine {}) w true none ⟨[]⟩ {}).finish (rehearsalEngine {}) w
  have h : (rehearsalSession.run (rehearsalEngine {}) w).2 = .ok r :=
    Session.run_of_ending (by decide) rfl rfl (by decide +kernel)
  have hf : r.fatalError = none := by decide +kernel
  obtain ⟨vs, stopped, hcarries, -, -, hexact⟩ := (visits_counted rehearsalSession
    (rehearsalEngine {}) w none false).resolve_left (not_refuses_of_ok h)
  obtain ⟨last, hc, -⟩ := hcarries.visits.exists_course
  have hstop : ∀ v ∈ vs, v.2 ≠ .stop := by
    intro v hv hstop
    obtain ⟨us, vs', rfl⟩ := List.append_of_mem hv
    have hmem := List.mem_of_getElem? hc.split.1.here
    rw [hstop] at hmem
    simp [w] at hmem
  have hcount := hexact r h (by decide) hf hstop
  exact ⟨vs, last, hc, hcount 2 (by decide), hcount 4 (by decide), hcount 5 (by decide),
    hcount 8 (by decide)⟩

end Session

end ImageWorkflow
