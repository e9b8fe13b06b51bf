import Mathlib
import ImageWorkflow.Proofs.Nesting

/-!
# A loop from its beginning to its end

* `Workflow.DirectlyIn w l n` : the instruction at `n` is in the loop at `l`, and in no loop inside
  that one;
* `Position.next_within` : what one visit does while an iteration of a loop is under way;
* `Run.Pass` : the visits of a loop that runs all its iterations; `Run.Pass.loops_at` : each of the
  iterations visits what is directly in the loop, once and in order.
-/

namespace ImageWorkflow

/-! ## Directly in a loop -/

namespace Workflow
variable {w : Workflow} {l m n k : Nat}

/-- The instruction at `n` is in the loop at `l`, and in no loop inside that one; it neither begins
nor ends a loop itself. -/
structure DirectlyIn (w : Workflow) (l n : Nat) : Prop where
  opened : w.openLoops n = l :: w.openLoops l
  no_bracket : ∀ i, w[n]? = some i → i.isBracket = false

theorem DirectlyIn.le_of_mem (h : w.DirectlyIn l n) (hk : k ∈ w.openLoops n) : k ≤ l := by
  rw [h.opened] at hk
  rcases List.mem_cons.mp hk with rfl | hk
  · exact Nat.le_refl _
  · exact Nat.le_of_lt (lt_of_mem hk)

theorem DirectlyIn.lt_of_matchedAt (h : w.DirectlyIn l n) (hm : w.MatchedAt l m) : n < m := by
  rcases Nat.lt_trichotomy n m with hlt | rfl | hlt
  · exact hlt
  · cases h.no_bracket _ hm.isEnd
  · have hl := hm.lt
    have hmem : l ∈ w.openLoops (m + 1) :=
      mem_openLoops_of_le (by rw [h.opened]; exact List.mem_cons_self) (by omega) hlt
    rw [hm.openLoops_succ] at hmem
    exact absurd hmem (not_mem_openLoops_self w l)

end Workflow

open Workflow

/-! ## One visit -/

namespace Position
variable {w : Workflow} {p : Position} {i : Instruction} {n : Nat} {f : LoopFrame}
  {inner outer : List LoopFrame}

/-- The loops open where those being run are given. -/
theorem openLoops_split (hs : p.loops.map (·.startIndex) = w.openLoops p.counter)
    (hl : p.loops = inner ++ f :: outer) : w.openLoops p.counter =
      inner.map (·.startIndex) ++ f.startIndex :: w.openLoops f.startIndex := by
  have hopen : w.openLoops p.counter =
      inner.map (·.startIndex) ++ f.startIndex :: outer.map (·.startIndex) := by
    rw [← hs, hl, List.map_append, List.map_cons]
  rw [hopen, openLoops_of_eq_append _ hopen]

/-- What a visit does while an iteration of a loop is under way, unless it goes straight to the end
of the workflow: the iteration stays under way, and what is directly in the loop is passed in its
own visit only; or the visit ends the iteration, which has what is directly in the loop behind
it. -/
theorem next_within (hs : p.loops.map (·.startIndex) = w.openLoops p.counter)
    (hl : p.loops = inner ++ f :: outer) (hn : w.DirectlyIn f.startIndex n)
    (hi : w[p.counter]? = some i) (hstay : ¬ p.leaves w i) :
    (∃ inner', (p.next w i).loops = inner' ++ f :: outer ∧
        (n < (p.next w i).counter ↔ n ≤ p.counter)) ∨
      (i = .loopEnd ∧ inner = [] ∧ n < p.counter) := by
  have hopen := openLoops_split hs hl
  have hmem : f.startIndex ∈ w.openLoops p.counter := by
    rw [hopen]
    exact List.mem_append_right _ List.mem_cons_self
  rcases i.plain_cases with hplain | ⟨count, start, rfl⟩ | rfl | rfl
  · rw [next_of_isPlain hplain]
    exact .inl ⟨inner, hl, Nat.lt_succ_iff⟩
  · simp only [next]
    split
    · rename_i hcount
      cases hm : w.matchingEnd? p.counter with
      | none => exact absurd ⟨hcount, hm⟩ hstay
      | some m =>
        -- the loop that is skipped does not hold what is directly in the one around it
        have hmatched := matchedAt_of_matchingEnd hi hm
        have hlt := hmatched.lt
        refine .inl ⟨inner, hl, fun hnm => ?_, fun hle => Nat.lt_succ_of_lt (by omega)⟩
        by_contra hafter
        have hheld : p.counter ∈ w.openLoops n :=
          mem_openLoops_of_le (by rw [hmatched.opened]; exact List.mem_cons_self)
            (Nat.lt_of_not_le hafter) (Nat.lt_succ_iff.mp hnm)
        have := hn.le_of_mem hheld
        have := lt_of_mem hmem
        omega
    · exact .inl ⟨_ :: inner, by rw [hl]; rfl, Nat.lt_succ_iff⟩
  · cases inner with
    | nil => exact .inr ⟨rfl, rfl, hn.lt_of_matchedAt ⟨lt_of_mem hmem, hi, hopen⟩⟩
    | cons g inner =>
      refine .inl ?_
      simp only [next, hl, List.cons_append]
      split
      · -- back to the beginning of a loop that does not hold what is directly in the one around it
        have hg : g.startIndex ∈ w.openLoops p.counter := by
          rw [hopen]
          exact List.mem_cons_self
        have hlt : f.startIndex < g.startIndex := by
          refine lt_of_mem (w := w) ?_
          rw [openLoops_of_eq_append [] hopen]
          exact List.mem_append_right _ List.mem_cons_self
        refine ⟨_ :: inner, rfl, fun hng => ?_, fun hle => ?_⟩
        · exact Nat.le_of_lt (Nat.lt_of_le_of_lt (Nat.lt_succ_iff.mp hng) (lt_of_mem hg))
        · by_contra hafter
          have := hn.le_of_mem
            (mem_openLoops_of_le hg (Nat.lt_of_succ_le (Nat.le_of_not_lt hafter)) hle)
          omega
      · exact ⟨inner, rfl, Nat.lt_succ_iff⟩
  · exact absurd trivial hstay

end Position

/-! ## All visits -/

namespace Run
variable {σ : Type} {e : Engine σ} {w : Workflow} {r q r' : Run σ} {i : Instruction}
  {count start : Int} {vs us : List (Run σ × Instruction)} {n : Nat}

theorem Course.due_of_mem {v : Run σ × Instruction} (h : Course e w r vs r') (hv : v ∈ vs) :
    v.1.Due w v.2 := by
  obtain ⟨before, after, rfl⟩ := List.append_of_mem hv
  exact h.split.1

/-- A loop runs all its iterations: the visits `vs` follow that of the loop, which is at the counter
of `r`, until it is left. -/
structure Pass (e : Engine σ) (w : Workflow) (r : Run σ) (count start : Int)
    (vs : List (Run σ × Instruction)) (r' : Run σ) : Prop where
  reached : r.Reached e w
  due : r.Due w (.loop count start)
  count_pos : 1 ≤ count
  course : Course e w (r.visited e w (.loop count start)) vs r'
  /-- The loop is being run all the way. -/
  inside : ∀ v ∈ vs, r.scene.state.loops.length < v.1.scene.state.loops.length
  left : r'.scene.state.loops = r.scene.state.loops

/-- The frame of an iteration of the loop at the counter, which has `k` of them behind it. -/
def iterationFrame (r : Run σ) (count start : Int) (k : Nat) : LoopFrame where
  startIndex := r.scene.state.counter
  start := start
  count := count
  current := start + k

/-- The visits of the instruction at `n`. -/
def visitsAt (n : Nat) (vs : List (Run σ × Instruction)) : List (Run σ × Instruction) :=
  vs.filter (·.1.scene.state.counter = n)

theorem visitsAt_concat_of_eq {v : Run σ × Instruction} (hv : v.1.scene.state.counter = n) :
    visitsAt n (us ++ [v]) = visitsAt n us ++ [v] := by
  simp [visitsAt, hv]

theorem visitsAt_concat_of_ne {v : Run σ × Instruction} (hv : v.1.scene.state.counter ≠ n) :
    visitsAt n (us ++ [v]) = visitsAt n us := by
  simp [visitsAt, hv]

/-- The loops being run in the visits at `n` are those of the first `k` iterations. -/
def VisitedBy (r : Run σ) (count start : Int) (n : Nat) (us : List (Run σ × Instruction))
    (k : Nat) : Prop :=
  (visitsAt n us).map (·.1.scene.state.loops) =
    (List.range k).map fun j => r.iterationFrame count start j :: r.scene.state.loops

/-- An iteration of the loop at the counter of `r` is under way in `q`, after the visits `us`: each
iteration so far has visited what is at `n` once, the latest if the counter is past it. -/
structure Iterating (r : Run σ) (count start : Int) (n : Nat) (us : List (Run σ × Instruction))
    (q : Run σ) (k : Nat) : Prop where
  lt_count : k < count
  loops : ∃ inner, q.scene.state.loops =
    inner ++ r.iterationFrame count start k :: r.scene.state.loops
  visited : r.VisitedBy count start n us (if n < q.scene.state.counter then k + 1 else k)

theorem Iterating.lt_length {k : Nat} (h : Iterating r count start n us q k) :
    r.scene.state.loops.length < q.scene.state.loops.length := by
  obtain ⟨inner, hloops⟩ := h.loops
  rw [hloops, List.length_append, List.length_cons]
  omega

/-- From one visit to the next, an iteration is under way, unless the visit goes straight to the end
of the workflow or is the last of the loop's. -/
theorem Iterating.next {k : Nat} (h : Iterating r count start n us q k)
    (hn : w.DirectlyIn r.scene.state.counter n) (hq : q.scene.state.position.Nested w)
    (hd : q.Due w i) (hstay : ¬ q.scene.state.position.leaves w i) :
    (∃ k', Iterating r count start n (us ++ [(q, i)]) (q.visited e w i) k') ∨
      ((q.visited e w i).scene.state.loops = r.scene.state.loops ∧
        r.VisitedBy count start n (us ++ [(q, i)]) count.toNat) := by
  obtain ⟨inner, hloops⟩ := h.loops
  obtain ⟨hcounter, -⟩ := List.getElem?_eq_some_iff.mp hd.here
  have hposition := visited_position (e := e) (w := w) (r := q) (i := i)
  have hstarts := hq.starts hcounter
  have hvisited := h.visited
  obtain ⟨inner', hnext, hpast⟩ | ⟨rfl, rfl, hpast⟩ :=
    Position.next_within hstarts hloops hn hd.here hstay
  · rw [← hposition] at hnext hpast
    refine .inl ⟨k, h.lt_count, ⟨inner', hnext⟩, ?_⟩
    have hpast : n < (q.visited e w i).scene.state.counter ↔ n ≤ q.scene.state.counter := hpast
    simp only [hpast]
    by_cases hhere : q.scene.state.counter = n
    · -- no loop inside the one at the counter of `r` is being run
      have hinner : inner = [] := by
        have hopen := Position.openLoops_split hstarts hloops
        have hopened := hn.opened
        rw [← hhere] at hopened
        have hlength := congrArg List.length (hopen.symm.trans hopened)
        simp only [iterationFrame, List.length_append, List.length_map] at hlength
        exact List.eq_nil_of_length_eq_zero (Nat.add_eq_right.mp hlength)
      rw [if_neg (by omega)] at hvisited
      rw [VisitedBy, if_pos (by omega), visitsAt_concat_of_eq hhere, List.map_append, hvisited,
        List.range_succ, List.map_append, List.map_singleton, List.map_singleton, hloops, hinner]
      rfl
    · rw [VisitedBy, visitsAt_concat_of_ne hhere]
      have hle : n ≤ q.scene.state.counter ↔ n < q.scene.state.counter := by omega
      simp only [hle]
      exact hvisited
  · have hpast : n < q.scene.state.counter := hpast
    have hlt := lt_of_mem (w := w) (l := r.scene.state.counter) (n := n)
      (by rw [hn.opened]; exact List.mem_cons_self)
    rw [if_pos hpast] at hvisited
    have hloops : q.scene.state.position.loops =
        r.iterationFrame count start k :: r.scene.state.loops := hloops
    simp only [Position.next, hloops] at hposition
    have hcount := h.lt_count
    by_cases hmore : (k : Int) + 1 < count
    · rw [if_pos (by simp only [iterationFrame]; omega)] at hposition
      refine .inl ⟨k + 1, by omega, ⟨[], (congrArg Position.loops hposition).trans ?_⟩, ?_⟩
      · simp [iterationFrame, Int.add_assoc]
      · rw [VisitedBy, visitsAt_concat_of_ne (by dsimp only; omega), if_neg]
        · exact hvisited
        · rw [show (q.visited e w .loopEnd).scene.state.counter = r.scene.state.counter + 1 from
            congrArg Position.counter hposition]
          omega
    · rw [if_neg (by simp only [iterationFrame]; omega)] at hposition
      refine .inr ⟨congrArg Position.loops hposition, ?_⟩
      rw [VisitedBy, visitsAt_concat_of_ne (by dsimp only; omega),
        show count.toNat = k + 1 by omega]
      exact hvisited

theorem Pass.iterating_start (h : Pass e w r count start vs r')
    (hn : w.DirectlyIn r.scene.state.counter n) :
    Iterating r count start n [] (r.visited e w (.loop count start)) 0 := by
  have hcount := h.count_pos
  have hlt := lt_of_mem (w := w) (l := r.scene.state.counter) (n := n)
    (by rw [hn.opened]; exact List.mem_cons_self)
  have hposition := visited_position (e := e) (w := w) (r := r) (i := .loop count start)
  simp only [Position.next] at hposition
  rw [if_neg (by omega)] at hposition
  refine ⟨by omega, ⟨[], (congrArg Position.loops hposition).trans ?_⟩, ?_⟩
  · simp [iterationFrame, RunState.position]
  · rw [if_neg]
    · rfl
    · rw [show (r.visited e w (.loop count start)).scene.state.counter =
        r.scene.state.counter + 1 from congrArg Position.counter hposition]
      omega

/-- How far the loop at the counter of `r` has got in `q`, after the visits `us`. -/
inductive Stage (w : Workflow) (r : Run σ) (count start : Int) (n : Nat)
    (us : List (Run σ × Instruction)) (q : Run σ) : Prop
  | iterating {k : Nat} : Iterating r count start n us q k → Stage w r count start n us q
  /-- The visits have gone straight to the end of the workflow. -/
  | ended : w[q.scene.state.counter]? = none →
      r.scene.state.loops.length < q.scene.state.loops.length → Stage w r count start n us q
  | left : q.scene.state.loops = r.scene.state.loops → r.VisitedBy count start n us count.toNat →
      Stage w r count start n us q

theorem Stage.next (h : Stage w r count start n us q) (hn : w.DirectlyIn r.scene.state.counter n)
    (hq : q.scene.state.position.Nested w) (hd : q.Due w i)
    (hinside : r.scene.state.loops.length < q.scene.state.loops.length) :
    Stage w r count start n (us ++ [(q, i)]) (q.visited e w i) := by
  cases h with
  | iterating hk =>
    by_cases hstay : q.scene.state.position.leaves w i
    · have hposition := visited_position (e := e) (w := w) (r := q) (i := i)
      rw [Position.next_of_leaves hstay] at hposition
      have hcounter : (q.visited e w i).scene.state.counter = w.length :=
        congrArg Position.counter hposition
      have hloops : (q.visited e w i).scene.state.loops = q.scene.state.loops :=
        congrArg Position.loops hposition
      refine .ended ?_ (by rwa [hloops])
      rw [hcounter]
      exact List.getElem?_eq_none (Nat.le_refl _)
    · obtain ⟨k', hk'⟩ | ⟨hleft, hvisits⟩ := hk.next (e := e) hn hq hd hstay
      · exact .iterating hk'
      · exact .left hleft hvisits
  | ended hover _ =>
    rw [hd.here] at hover
    cases hover
  | left hleft _ =>
    rw [hleft] at hinside
    exact absurd hinside (Nat.lt_irrefl _)

theorem Pass.stage (h : Pass e w r count start vs r') (hn : w.DirectlyIn r.scene.state.counter n) :
    Stage w r count start n vs r' := by
  refine (h.course.induction_on_last (P := fun us q => q.scene.state.position.Nested w ∧
    ((∀ u ∈ us, r.scene.state.loops.length < u.1.scene.state.loops.length) →
      Stage w r count start n us q)) ?_ ?_).2 h.inside
  · refine ⟨?_, fun _ => .iterating (h.iterating_start hn)⟩
    rw [visited_position]
    exact h.reached.nested.next h.due.here
  · rintro us q i - hd ⟨hq, hus⟩
    refine ⟨by rw [visited_position]; exact hq.next hd.here, fun hinside => ?_⟩
    obtain ⟨hinside, hhere⟩ := List.forall_mem_append.mp hinside
    exact (hus hinside).next hn hq hd (hhere _ (List.mem_singleton_self _))

/-- Each iteration of a loop that runs them all visits what is directly in the loop once, the first
iteration first, with no other loop inside. -/
theorem Pass.loops_at (h : Pass e w r count start vs r')
    (hn : w.DirectlyIn r.scene.state.counter n) :
    (visitsAt n vs).map (·.1.scene.state.loops) = (List.range count.toNat).map fun j =>
      r.iterationFrame count start j :: r.scene.state.loops := by
  have hleft := h.left
  cases h.stage hn with
  | iterating hk =>
    have := hk.lt_length
    rw [hleft] at this
    exact absurd this (Nat.lt_irrefl _)
  | ended _ hlt =>
    rw [hleft] at hlt
    exact absurd hlt (Nat.lt_irrefl _)
  | left _ hvisits => exact hvisits

end Run

end ImageWorkflow
