import Mathlib
import ImageWorkflow.Proofs.Nesting

/-!
# Every run comes to an end

`Workflow.visitBudget` is enough: a run is never cut short by its budget.
* `Workflow.ahead w j q` : how often index `j` is visited from index `q` on, before a loop around
  both begins anew; `Position.remainingAt w p j` : how often it is visited from `p` on, at most;
* `Position.remainingAt_next` : a visit uses up one of the visits of its index, and adds none;
  `Position.remainingAt_next_eq` : no others either, unless it leaves for the end;
* `Run.exists_stopsAfter` : a run visits instructions one after the other and stops;
* `Engine.admission` : whether a run begins; `Session.run_of_idle` : what becomes of it;
* `Session.Carries` : the session carries out a run, from `Session.start` on;
  `Session.refuses_or_carries` : else it refuses the run; `Session.Carries.ends` : when there is a
  report, the run has ended.
-/

namespace ImageWorkflow

open Workflow

namespace Workflow
variable {w : Workflow} {j c q : Nat}

/-- How often index `j` is visited from index `q` on, by the loops that begin at `q` or later. -/
def ahead (w : Workflow) (j q : Nat) : Nat :=
  if q ≤ j then ∏ l ∈ (w.openLoops j).toFinset with q ≤ l, w.loopCount l else 0

theorem ahead_zero (w : Workflow) (j : Nat) : w.ahead j 0 = w.visitBound j := by
  simp only [ahead, Nat.zero_le, if_true, Finset.filter_true, visitBound, ← List.prod_eq_foldr]
  exact List.prod_toFinset _ (nodup_openLoops w j)

theorem ahead_of_lt (h : j < q) : w.ahead j q = 0 := if_neg (Nat.not_le.mpr h)

@[simp] theorem ahead_self (w : Workflow) (j : Nat) : w.ahead j j = 1 := by
  rw [ahead, if_pos (Nat.le_refl j)]
  refine Finset.prod_eq_one fun l hl => ?_
  obtain ⟨hl, hj⟩ := Finset.mem_filter.mp hl
  exact absurd (lt_of_mem (List.mem_toFinset.mp hl)) (Nat.not_lt.mpr hj)

theorem one_at_le_ahead (w : Workflow) (j c : Nat) : (if j = c then 1 else 0) ≤ w.ahead j c := by
  split
  · rename_i h
    rw [h, ahead_self]
  · exact Nat.zero_le _

theorem ahead_congr (hc : c ≤ j) (hq : q ≤ j) (h : ∀ l ∈ w.openLoops j, c ≤ l ↔ q ≤ l) :
    w.ahead j c = w.ahead j q := by
  rw [ahead, ahead, if_pos hc, if_pos hq,
    Finset.filter_congr fun l hl => h l (List.mem_toFinset.mp hl)]

/-- A loop around an index multiplies its visits. -/
theorem ahead_of_mem (h : c ∈ w.openLoops j) : w.ahead j c = w.loopCount c * w.ahead j (c + 1) := by
  have hc : c < j := lt_of_mem h
  have hs : (w.openLoops j).toFinset.filter (c ≤ ·) =
      insert c ((w.openLoops j).toFinset.filter (c + 1 ≤ ·)) := by
    ext l
    simp only [Finset.mem_filter, Finset.mem_insert, List.mem_toFinset]
    constructor
    · rintro ⟨hl, hcl⟩
      rcases Nat.eq_or_lt_of_le hcl with rfl | hcl
      · exact Or.inl rfl
      · exact Or.inr ⟨hl, hcl⟩
    · rintro (rfl | ⟨hl, hcl⟩)
      · exact ⟨h, Nat.le_refl _⟩
      · exact ⟨hl, Nat.le_of_succ_le hcl⟩
  rw [ahead, ahead, if_pos (Nat.le_of_lt hc), if_pos (Nat.succ_le_of_lt hc), hs,
    Finset.prod_insert (by simp)]

/-- Going on to `q` leaves out the indices on the way, if none of them is due to be visited. -/
theorem ahead_skip (hq : c < q) (h : q ≤ j → ∀ l ∈ w.openLoops j, c ≤ l → q ≤ l)
    (hway : c < j → j < q → w.ahead j c = 0) :
    w.ahead j q + (if j = c then 1 else 0) = w.ahead j c := by
  rcases Nat.lt_or_ge j q with hj | hj
  · rw [ahead_of_lt hj, Nat.zero_add]
    rcases Nat.lt_trichotomy j c with hjc | rfl | hcj
    · rw [if_neg (by omega), ahead_of_lt hjc]
    · rw [if_pos rfl, ahead_self]
    · rw [if_neg (by omega), hway hcj hj]
  · rw [if_neg (by omega), Nat.add_zero,
      ahead_congr (by omega) hj fun l hl => ⟨h hj l hl, fun hql => by omega⟩]

theorem ahead_succ (h : c ∉ w.openLoops j) :
    w.ahead j (c + 1) + (if j = c then 1 else 0) = w.ahead j c := by
  refine ahead_skip (Nat.lt_succ_self c) (fun _ l hl hcl => ?_) (fun hcj hj => by omega)
  exact Nat.lt_of_le_of_ne hcl fun hcl => h (hcl ▸ hl)

theorem not_mem_openLoops {i : Instruction} (hi : w[c]? = some i)
    (hl : ∀ count start, i ≠ .loop count start) : c ∉ w.openLoops j := by
  intro h
  obtain ⟨-, count, start, hc⟩ := exists_loop_of_mem h
  exact hl count start (Option.some.inj (hi.symm.trans hc))

/-- The body of a loop without iterations is skipped together with its end. -/
theorem ahead_matched {m : Nat} (h : w.MatchedAt c m) (hcount : w.loopCount c = 0) :
    w.ahead j (m + 1) + (if j = c then 1 else 0) = w.ahead j c := by
  have hcm := h.lt
  refine ahead_skip (by omega) (fun hj l hl hcl => ?_) (fun hcj hj => ?_)
  · by_contra hlm
    have hm : l ∈ w.openLoops (m + 1) := mem_openLoops_of_le hl (by omega) hj
    rw [h.openLoops_succ] at hm
    exact absurd (lt_of_mem hm) (Nat.not_lt.mpr hcl)
  · have hm : c ∈ w.openLoops m := by
      rw [h.opened]
      exact List.mem_cons_self
    rw [ahead_of_mem (mem_openLoops_of_le hm hcj (by omega)), hcount, Nat.zero_mul]

end Workflow

/-! ## Visits that are left -/

/-- How many iterations of a loop are left after the current one. -/
def LoopFrame.left (f : LoopFrame) : Nat := (f.start + f.count - 1 - f.current).toNat

/-- How often index `j` is visited in the iterations of a loop that are left. -/
def LoopFrame.pending (w : Workflow) (j : Nat) (f : LoopFrame) : Nat :=
  if f.startIndex ∈ w.openLoops j then f.left * w.ahead j (f.startIndex + 1) else 0

namespace Position
variable {w : Workflow} {p : Position} {i : Instruction}

/-- How often index `j` is visited from a position on, at most. -/
def remainingAt (w : Workflow) (p : Position) (j : Nat) : Nat :=
  w.ahead j p.counter + (p.loops.map (·.pending w j)).sum

/-- How many visits are left from a position on, at most. -/
def remaining (w : Workflow) (p : Position) : Nat :=
  ∑ j ∈ Finset.range w.length, p.remainingAt w j

theorem remaining_start (w : Workflow) : remaining w ⟨0, []⟩ = w.visitBudget := by
  simp only [remaining, remainingAt, List.map_nil, List.sum_nil, Nat.add_zero, ahead_zero,
    visitBudget, ← List.sum_eq_foldr]
  rw [← List.toFinset_range]
  exact List.sum_toFinset _ List.nodup_range

theorem remaining_pos (h : p.counter < w.length) : 0 < p.remaining w := by
  refine Finset.sum_pos' (fun _ _ => Nat.zero_le _) ⟨p.counter, Finset.mem_range.mpr h, ?_⟩
  rw [remainingAt, ahead_self]
  omega

/-- The loop at the counter begins: its first iteration is ahead, the others are pending. -/
theorem pending_enter {count start : Int} (hc : w[p.counter]? = some (.loop count start))
    (hcount : 0 < count) (j : Nat) :
    w.ahead j (p.counter + 1) + LoopFrame.pending w j ⟨p.counter, start, count, start⟩ +
      (if j = p.counter then 1 else 0) = w.ahead j p.counter := by
  by_cases hj : p.counter ∈ w.openLoops j
  · have hlt : p.counter < j := lt_of_mem hj
    have hleft : (start + count - 1 - start).toNat + 1 = count.toNat := by omega
    have hloop : w.loopCount p.counter = count.toNat := by rw [loopCount, hc]
    simp only [LoopFrame.pending, if_pos hj, LoopFrame.left]
    rw [if_neg (by omega), ahead_of_mem hj, hloop, ← hleft, Nat.succ_mul]
    omega
  · rw [LoopFrame.pending, if_neg hj]
    exact ahead_succ hj

/-- The innermost loop goes on to its next iteration. -/
theorem pending_again {frame : LoopFrame}
    (hc : w[p.counter]? = some .loopEnd)
    (ho : w.openLoops p.counter = frame.startIndex :: w.openLoops frame.startIndex)
    (hlt : frame.current + 1 < frame.start + frame.count) (j : Nat) :
    w.ahead j (frame.startIndex + 1) +
        LoopFrame.pending w j { frame with current := frame.current + 1 } +
        (if j = p.counter then 1 else 0) =
      w.ahead j p.counter + frame.pending w j := by
  have hs : frame.startIndex < p.counter := lt_of_mem (by rw [ho]; exact List.mem_cons_self)
  -- the loop is closed at the counter
  have hclosed (l : Nat) (hl : l ∈ w.openLoops j) (hcj : p.counter < j)
      (hlc : l < p.counter) : l < frame.startIndex := by
    have hm : l ∈ w.openLoops (p.counter + 1) := mem_openLoops_of_le hl (by omega) hcj
    rw [openLoops_succ_loopEnd hc, ho, List.tail_cons] at hm
    exact lt_of_mem hm
  by_cases hj : frame.startIndex ∈ w.openLoops j
  · have hjc : j ≤ p.counter := by
      by_contra hcj
      exact Nat.lt_irrefl _ (hclosed _ hj (by omega) hs)
    have hhere : (if j = p.counter then 1 else 0) = w.ahead j p.counter := by
      rcases Nat.eq_or_lt_of_le hjc with rfl | hjc
      · rw [if_pos rfl, ahead_self]
      · rw [if_neg (by omega), ahead_of_lt hjc]
    have hleft : frame.left =
        (frame.start + frame.count - 1 - (frame.current + 1)).toNat + 1 := by
      simp only [LoopFrame.left]
      omega
    simp only [LoopFrame.pending, if_pos hj]
    rw [hleft, Nat.succ_mul, hhere]
    simp only [LoopFrame.left]
    omega
  · simp only [LoopFrame.pending, if_neg hj, Nat.add_zero]
    rcases Nat.lt_or_ge frame.startIndex j with hsj | hsj
    · have hcj : p.counter < j := by
        by_contra hcj
        exact hj (mem_openLoops_of_le (by rw [ho]; exact List.mem_cons_self) hsj (by omega))
      rw [if_neg (by omega), Nat.add_zero]
      refine ahead_congr hsj (Nat.le_of_lt hcj) fun l hl => ⟨fun hsl => ?_, by omega⟩
      by_contra hlc
      have := hclosed l hl hcj (by omega)
      omega
    · rw [ahead_of_lt (by omega), if_neg (by omega), ahead_of_lt (by omega)]

theorem pending_last {frame : LoopFrame}
    (h : ¬ frame.current + 1 < frame.start + frame.count) (j : Nat) : frame.pending w j = 0 := by
  have hleft : frame.left = 0 := by
    simp only [LoopFrame.left]
    omega
  rw [LoopFrame.pending, hleft, Nat.zero_mul, ite_self]

/-- A visit that does not leave for the end uses up one of the visits of its index, and nothing
else. -/
theorem remainingAt_next_eq (hs : p.loops.map (·.startIndex) = w.openLoops p.counter)
    (hi : w[p.counter]? = some i) (hstay : ¬ p.leaves w i) (j : Nat) :
    (p.next w i).remainingAt w j + (if j = p.counter then 1 else 0) = p.remainingAt w j := by
  rcases i.plain_cases with hi' | ⟨count, start, rfl⟩ | rfl | rfl
  · have := ahead_succ (not_mem_openLoops (j := j) hi fun _ _ hl => by rw [hl] at hi'; cases hi')
    rw [next_of_isPlain hi']
    simp only [remainingAt]
    omega
  · simp only [Position.next]
    split
    · rename_i hcount
      cases hm : w.matchingEnd? p.counter with
      | none => exact absurd ⟨hcount, hm⟩ hstay
      | some last =>
        have hloop : w.loopCount p.counter = 0 := by
          rw [loopCount, hi]
          exact Int.toNat_of_nonpos hcount
        have := ahead_matched (j := j) (matchedAt_of_matchingEnd hi hm) hloop
        simp only [remainingAt]
        omega
    · rename_i hcount
      have := pending_enter hi (by omega) j
      simp only [remainingAt, List.map_cons, List.sum_cons]
      omega
  · have hsucc := ahead_succ (not_mem_openLoops (j := j) hi (by simp))
    simp only [Position.next]
    cases hl : p.loops with
    | nil => simp only [remainingAt, hl]; omega
    | cons frame outer =>
      rw [hl] at hs
      dsimp only
      split
      · rename_i hlt
        have ho : w.openLoops p.counter = frame.startIndex :: w.openLoops frame.startIndex := by
          rw [openLoops_of_eq_append [] hs.symm]
          exact hs.symm
        have := pending_again hi ho hlt j
        simp only [remainingAt, hl, List.map_cons, List.sum_cons]
        omega
      · rename_i hlast
        have := pending_last (w := w) hlast j
        simp only [remainingAt, hl, List.map_cons, List.sum_cons]
        omega
  · exact absurd trivial hstay

/-- A visit uses up one of the visits of its index, and adds none to any. -/
theorem remainingAt_next (h : p.Nested w) (hi : w[p.counter]? = some i) {j : Nat}
    (hj : j < w.length) :
    (p.next w i).remainingAt w j + (if j = p.counter then 1 else 0) ≤ p.remainingAt w j := by
  obtain ⟨hp, -⟩ := List.getElem?_eq_some_iff.mp hi
  by_cases hl : p.leaves w i
  · have := one_at_le_ahead w j p.counter
    rw [next_of_leaves hl]
    simp only [remainingAt, ahead_of_lt hj]
    omega
  · exact Nat.le_of_eq (remainingAt_next_eq (h.starts hp) hi hl j)

theorem remaining_next (h : p.Nested w) (hi : w[p.counter]? = some i) :
    (p.next w i).remaining w < p.remaining w := by
  obtain ⟨hp, -⟩ := List.getElem?_eq_some_iff.mp hi
  have hsum := Finset.sum_le_sum fun j hj => remainingAt_next h hi (Finset.mem_range.mp hj)
  rw [Finset.sum_add_distrib, Finset.sum_ite_eq', if_pos (Finset.mem_range.mpr hp)] at hsum
  exact hsum

end Position

/-! ## Runs end -/

/-- A run visits one instruction after the other and stops; its budget does not cut it short. -/
theorem Run.exists_stopsAfter {σ : Type} (e : Engine σ) (w : Workflow) (connected : Bool)
    (interruption : Option Interruption) (files : FileTree) (memory : σ) :
    ∃ vs, StopsAfter e w (start e connected interruption files memory) vs
      ((start e connected interruption files memory).visits e w w.visitBudget) := by
  refine visits_stopsAfter (P := fun r => r.scene.state.position.Nested w)
    (μ := fun r => r.scene.state.position.remaining w) (fun r i hr hd => ?_) (fun r hr hn => ?_)
    (Position.nested_start w) (Nat.le_of_eq (Position.remaining_start w))
  · rw [visited_position]
    exact ⟨hr.next hd.here, Position.remaining_next hr hd.here⟩
  · refine Position.remaining_pos ?_
    by_contra h
    exact hn (List.getElem?_eq_none (Nat.not_lt.mp h))

/-! ## Runs that are admitted -/

namespace Engine
variable {σ : Type} {e : Engine σ} {w : Workflow} {enforces : Bool} {files files' : FileTree}

/-- Whether a run begins, and what that takes of the files. -/
def admission (e : Engine σ) (w : Workflow) (enforces : Bool) (files : FileTree) :
    FileTree × Except RunRefusal Unit :=
  if enforces && !w.validate.isValid then (files, .error (.invalid w.validate))
  else
    let (files, prepared) := files.makeDirectories e.workingDirectory
    (files, prepared.mapError (.workingDirectory e.workingDirectory))

theorem admission_eq_error {refusal : RunRefusal}
    (h : e.admission w enforces files = (files', .error refusal)) :
    (∀ error, refusal ≠ .check error) ∧ ∀ events fault, refusal ≠ .broken events fault := by
  unfold admission at h
  split at h
  · cases h
    exact ⟨nofun, nofun⟩
  · dsimp only at h
    generalize files.makeDirectories e.workingDirectory = prepared at h
    obtain ⟨files, prepared⟩ := prepared
    cases prepared with
    | error error =>
      cases h
      exact ⟨nofun, nofun⟩
    | ok => cases h

theorem admission_eq_ok (h : e.admission w enforces files = (files', .ok ())) :
    (files.makeDirectories e.workingDirectory).1 = files' := by
  unfold admission at h
  split at h
  · cases h
  · exact congrArg Prod.fst h

end Engine

namespace Session
variable {σ : Type} {s : Session σ} {e : Engine σ} {w : Workflow} {checks : Option Bool}
  {enforces : Bool} {r r' : Run σ}

/-- A run of a session that was admitted. -/
def perform (e : Engine σ) (w : Workflow) (checksConnection : Bool) (files : FileTree)
    (memory : σ) : Session σ × Except RunRefusal (Run σ) :=
  let interruption := Run.interruptedFirst e w checksConnection memory
  match Run.checkFirst e w checksConnection memory with
  | (.error error, memory) =>
    if interruption = some .outside then
      settle e w (Run.execute e w false interruption files memory)
    else ({ status := .running, files, memory }, .error (.check error))
  | (.ok connected, memory) =>
    settle e w (Run.execute e w connected interruption files memory)

theorem run_of_idle (hidle : s.status ≠ .running) : s.run e w checks enforces =
    match e.admission w enforces s.files with
    | (files, .error refusal) => ({ s with files }, .error refusal)
    | (files, .ok ()) => perform e w (checks.getD e.checksConnection) files s.memory := by
  rw [run, if_neg hidle, Engine.admission]
  dsimp only
  split
  · rfl
  · generalize s.files.makeDirectories e.workingDirectory = prepared
    obtain ⟨files, prepared⟩ := prepared
    cases prepared <;> rfl

end Session

/-! ## Runs that are carried out -/

namespace Session
variable {σ : Type} {s : Session σ} {e : Engine σ} {w : Workflow} {checks : Option Bool}
  {enforces : Bool} {r r' : Run σ}

/-- How a run of the session starts, unless it is refused. -/
def start (s : Session σ) (e : Engine σ) (w : Workflow) (checks : Option Bool) : Run σ :=
  let checks := checks.getD e.checksConnection
  let (answer, memory) := Run.checkFirst e w checks s.memory
  Run.start e (answer.toOption.getD false) (Run.interruptedFirst e w checks s.memory)
    (s.files.makeDirectories e.workingDirectory).1 memory

/-- The session carries out a run, which stops at `stopped` after the visits `vs`. -/
structure Carries (s : Session σ) (e : Engine σ) (w : Workflow) (checks : Option Bool)
    (enforces : Bool) (vs : List (Run σ × Instruction)) (stopped : Run σ) : Prop where
  visits : (s.start e w checks).StopsAfter e w vs stopped
  settles : s.run e w checks enforces = settle e w stopped

/-- The session refuses a run: there is no visit, and observers see nothing. -/
def Refuses (s : Session σ) (e : Engine σ) (w : Workflow) (checks : Option Bool)
    (enforces : Bool) : Prop :=
  ∃ refusal, (s.run e w checks enforces).2 = .error refusal ∧
    ∀ events fault, refusal ≠ .broken events fault

theorem not_refuses_of_ok (h : (s.run e w checks enforces).2 = .ok r) :
    ¬ s.Refuses e w checks enforces := by
  rintro ⟨refusal, hrefusal, -⟩
  rw [hrefusal] at h
  cases h

/-- What can come of a run: it is refused before the provider is asked for anything, or since the
check of the connection failed, or it is carried out. -/
theorem run_cases (s : Session σ) (e : Engine σ) (w : Workflow) (checks : Option Bool)
    (enforces : Bool) :
    (∃ files refusal, s.run e w checks enforces = ({ s with files }, .error refusal) ∧
      ∀ events fault, refusal ≠ .broken events fault) ∨
    (∃ files memory error,
      Run.checkFirst e w (checks.getD e.checksConnection) s.memory = (.error error, memory) ∧
      s.run e w checks enforces = ({ status := .running, files, memory }, .error (.check error))) ∨
    s.run e w checks enforces = settle e w ((s.start e w checks).visits e w w.visitBudget) := by
  by_cases hbusy : s.status = .running
  · exact .inl ⟨s.files, .busy, by rw [run, if_pos hbusy], nofun⟩
  rw [run_of_idle hbusy]
  cases hadmission : e.admission w enforces s.files with
  | mk files admitted =>
    cases admitted with
    | error refusal => exact .inl ⟨files, refusal, rfl, (Engine.admission_eq_error hadmission).2⟩
    | ok =>
      have hfiles := Engine.admission_eq_ok hadmission
      unfold perform
      dsimp only
      cases hcheck : Run.checkFirst e w (checks.getD e.checksConnection) s.memory with
      | mk answer memory =>
        cases answer with
        | error error =>
          dsimp only
          split
          · refine .inr (.inr ?_)
            simp only [start, hfiles, hcheck]
            rfl
          · exact .inr (.inl ⟨files, memory, error, rfl, rfl⟩)
        | ok connected =>
          refine .inr (.inr ?_)
          simp only [start, hfiles, hcheck]
          rfl

/-- The session that settles a run carries it out until it stops. -/
theorem exists_carries_of_settles
    (h : s.run e w checks enforces = settle e w ((s.start e w checks).visits e w w.visitBudget)) :
    ∃ vs stopped, s.Carries e w checks enforces vs stopped := by
  obtain ⟨vs, hvisits⟩ := Run.exists_stopsAfter e w _ _ _ _
  exact ⟨vs, _, hvisits, h⟩

/-- A run of the session is refused, or it is carried out until it stops. -/
theorem refuses_or_carries (s : Session σ) (e : Engine σ) (w : Workflow) (checks : Option Bool)
    (enforces : Bool) : s.Refuses e w checks enforces ∨
      ∃ vs stopped, s.Carries e w checks enforces vs stopped := by
  obtain ⟨files, refusal, hrun, hwhole⟩ | ⟨files, memory, error, -, hrun⟩ | hrun :=
    s.run_cases e w checks enforces
  · exact .inl ⟨refusal, congrArg Prod.snd hrun, hwhole⟩
  · exact .inl ⟨.check error, congrArg Prod.snd hrun, nofun⟩
  · exact .inr (exists_carries_of_settles hrun)

section carries
variable {vs : List (Run σ × Instruction)} {stopped : Run σ}

/-- The session keeps the files. -/
theorem Carries.files (h : s.Carries e w checks enforces vs stopped) :
    (s.run e w checks enforces).1.files = stopped.scene.files := by
  rw [h.settles, settle]
  split <;> rfl

/-- So it does what the provider remembers. -/
theorem Carries.memory (h : s.Carries e w checks enforces vs stopped) :
    (s.run e w checks enforces).1.memory = stopped.scene.memory := by
  rw [h.settles, settle]
  split <;> rfl

theorem Carries.not_refuses (h : s.Carries e w checks enforces vs stopped) :
    ¬ s.Refuses e w checks enforces := by
  rintro ⟨refusal, hrefusal, hwhole⟩
  rw [h.settles, settle] at hrefusal
  split at hrefusal
  · exact hwhole _ _ (Except.error.inj hrefusal).symm
  · cases hrefusal

/-- The run of which there is a report breaks in none of its visits, and ends. -/
theorem Carries.ends (h : s.Carries e w checks enforces vs stopped)
    (hr : (s.run e w checks enforces).2 = .ok r) :
    ∃ last, Run.Course e w (s.start e w checks) vs last ∧ (∀ v ∈ vs, ¬ Run.Breaks e w v) ∧
      Run.Ends w last stopped ∧ stopped.finish e w = r := by
  rw [h.settles] at hr
  obtain ⟨hending, hfinish⟩ := settle_eq_ok hr
  cases h.visits with
  | ends hc hvs he => exact ⟨_, hc, hvs, he, hfinish⟩
  | breaks => exact absurd rfl hending

theorem exists_carries (h : (s.run e w checks enforces).2 = .ok r) :
    ∃ vs stopped, s.Carries e w checks enforces vs stopped :=
  (refuses_or_carries s e w checks enforces).resolve_left (not_refuses_of_ok h)

end carries

theorem run_eq (h : (s.run e w checks enforces).2 = .ok r) :
    (s.run e w checks enforces).1 =
      { status := (r.report w).status, files := r.scene.files, memory := r.scene.memory } := by
  obtain ⟨vs, stopped, hcarries⟩ := exists_carries h
  rw [hcarries.settles] at h ⊢
  obtain ⟨hending, rfl⟩ := settle_eq_ok h
  rw [settle, if_neg hending]

theorem exists_course (h : (s.run e w checks enforces).2 = .ok r) :
    ∃ vs last ended, Run.Course e w (s.start e w checks) vs last ∧ Run.Ends w last ended ∧
      ended.finish e w = r := by
  obtain ⟨vs, ended, hcarries⟩ := exists_carries h
  obtain ⟨last, hc, -, he, hr⟩ := hcarries.ends h
  exact ⟨vs, last, ended, hc, he, hr⟩

end Session

end ImageWorkflow
