import Mathlib
import ImageWorkflow.Proofs.Completeness

/-!
# Runs follow the structure of loops

A run has a counter that jumps and a stack of loops; what it visits is what a recursion over the
nested loops visits.
* `Block` : a workflow by its nested loops; `Block.flatten` : its instructions in order;
  `Workflow.balanced`, `exists_block` : which workflows are such;
* `Block.trace` : the visits of a block, each an index and the current index of the loop around it;
  `Workflow.cutAfterStop` : up to the first end of the workflow;
* `Position.Makes w p t` : from the position `p` on, the visits `t` are made, to the end;
  `Position.Makes.block` : a block makes its trace before what comes after it;
* `Session.entries_eq_trace` : the report of a run is the trace of its workflow.
-/

namespace ImageWorkflow

open Workflow

/-! ## Nested loops -/

/-- Instructions in sequence, the loops among them with their bodies. -/
inductive Block where
  | done
  | plain (i : Instruction) (hi : i.isBracket = false) (rest : Block)
  | loop (count start : Int) (body rest : Block)

namespace Block

/-- The instructions in order, a `loopEnd` after each body. -/
def flatten : Block → Workflow
  | done => []
  | plain i _ rest => i :: rest.flatten
  | loop count start body rest => .loop count start :: (body.flatten ++ .loopEnd :: rest.flatten)

/-- The visits of a block that begins at an index, inside a loop with the given current index: those
of a body once for each index from the loop's start on, with a `loopEnd` each. -/
def trace (index : Nat) (iteration : Option Int) : Block → List (Nat × Option Int)
  | done => []
  | plain _ _ rest => (index, iteration) :: rest.trace (index + 1) iteration
  | loop count start body rest =>
    let last := index + 1 + body.flatten.length
    (index, iteration) ::
      ((List.range count.toNat).flatMap fun k : Nat =>
        body.trace (index + 1) (some (start + k)) ++ [(last, some (start + k))]) ++
      rest.trace (last + 1) iteration

end Block

namespace Workflow

/-- Whether every loop has an end and every `loopEnd` a loop, `depth` further loops being open. -/
def balancedFrom (depth : Nat) : Workflow → Bool
  | [] => depth = 0
  | .loop .. :: rest => balancedFrom (depth + 1) rest
  | .loopEnd :: rest =>
    match depth with
    | 0 => false
    | depth + 1 => balancedFrom depth rest
  | _ :: rest => balancedFrom depth rest

/-- Whether every loop has an end and every `loopEnd` a loop. -/
def balanced (w : Workflow) : Bool := balancedFrom 0 w

/-- Visits up to the first of a `stop`. -/
def cutAfterStop (w : Workflow) : List (Nat × Option Int) → List (Nat × Option Int)
  | [] => []
  | v :: vs =>
    match w[v.1]? with
    | some .stop => [v]
    | _ => v :: w.cutAfterStop vs

theorem balancedFrom_of_not_isBracket {i : Instruction} (hi : i.isBracket = false) (depth : Nat)
    (rest : Workflow) : balancedFrom depth (i :: rest) = balancedFrom depth rest := by
  cases i <;> first | rfl | cases hi

/-- The ends of loops opened before, with the block after each. -/
def closings : List Block → Workflow
  | [] => []
  | b :: bs => .loopEnd :: (b.flatten ++ closings bs)

theorem exists_blocks {w : Workflow} {depth : Nat} (h : balancedFrom depth w = true) :
    ∃ (b : Block) (bs : List Block), bs.length = depth ∧ w = b.flatten ++ closings bs := by
  induction w generalizing depth with
  | nil =>
    have hd : depth = 0 := by simpa [balancedFrom] using h
    exact ⟨.done, [], hd.symm, rfl⟩
  | cons i w ih =>
    rcases i.bracket_cases with hb | ⟨count, start, rfl⟩ | rfl
    · rw [balancedFrom_of_not_isBracket hb] at h
      obtain ⟨b, bs, hlen, rfl⟩ := ih h
      exact ⟨.plain i hb b, bs, hlen, rfl⟩
    · obtain ⟨body, bs, hlen, rfl⟩ := ih h
      obtain ⟨b, bs, rfl⟩ := List.exists_cons_of_length_eq_add_one hlen
      exact ⟨.loop count start body b, bs, by simpa using hlen, by simp [Block.flatten, closings]⟩
    · cases depth with
      | zero => cases h
      | succ depth =>
        obtain ⟨b, bs, hlen, rfl⟩ := ih h
        exact ⟨.done, b :: bs, by simp [hlen], rfl⟩

/-- A balanced workflow consists of nested loops. -/
theorem exists_block {w : Workflow} (h : w.balanced = true) : ∃ b : Block, b.flatten = w := by
  obtain ⟨b, bs, hlen, rfl⟩ := exists_blocks h
  obtain rfl := List.eq_nil_of_length_eq_zero hlen
  exact ⟨b, (List.append_nil _).symm⟩

/-- The search for an end goes past a whole block. -/
theorem closingEnd?_flatten (b : Block) (depth index : Nat) (u : Workflow) :
    closingEnd? depth index (b.flatten ++ u) = closingEnd? depth (index + b.flatten.length) u := by
  induction b generalizing depth index u with
  | done => rfl
  | plain i hi rest ih =>
    rw [Block.flatten, List.cons_append, closingEnd?_of_not_isBracket hi, ih, List.length_cons]
    congr 1
    omega
  | loop count start body rest ihb ihr =>
    simp only [Block.flatten, List.cons_append, List.append_assoc, closingEnd?]
    rw [ihb, closingEnd?, ihr]
    simp only [List.length_cons, List.length_append]
    congr 1
    omega

theorem matchingEnd?_block {w u : Workflow} {index : Nat} {count start : Int} {body : Block}
    (hw : w.drop index = .loop count start :: (body.flatten ++ .loopEnd :: u)) :
    w.matchingEnd? index = some (index + 1 + body.flatten.length) := by
  rw [matchingEnd?, (head_of_drop hw).2, closingEnd?_flatten]
  rfl

end Workflow

/-! ## From a position to the end -/

namespace Position

/-- From a position on, these visits are made, and then there is nothing more to visit. -/
inductive Makes (w : Workflow) : Position → List (Nat × Option Int) → Prop
  | nothing {p : Position} : w[p.counter]? = none → Makes w p []
  | visit {p : Position} {i : Instruction} {t : List (Nat × Option Int)} :
      w[p.counter]? = some i → Makes w (p.next w i) t → Makes w p ((p.counter, p.iteration?) :: t)

variable {w u : Workflow} {p : Position} {t t' : List (Nat × Option Int)} {index : Nat}
  {loops : List LoopFrame} {i : Instruction}

theorem Makes.unique (h : Makes w p t) (h' : Makes w p t') : t = t' := by
  induction h generalizing t' with
  | nothing hn =>
    cases h' with
    | nothing => rfl
    | visit hi => rw [hn] at hi; cases hi
  | visit hi _ ih =>
    cases h' with
    | nothing hn => rw [hn] at hi; cases hi
    | visit hi' h' =>
      obtain rfl := Option.some.inj (hi.symm.trans hi')
      rw [ih h']

/-- A visit that does not end the workflow comes before what is visited next. -/
theorem Makes.step (hi : w[p.counter]? = some i) (hs : i ≠ .stop)
    (h : Makes w (p.next w i) (w.cutAfterStop t)) :
    Makes w p (w.cutAfterStop ((p.counter, p.iteration?) :: t)) := by
  rw [cutAfterStop, hi]
  split
  · rename_i he
    exact absurd (Option.some.inj he) hs
  · exact .visit hi h

theorem Makes.stop (hi : w[p.counter]? = some .stop) :
    Makes w p (w.cutAfterStop ((p.counter, p.iteration?) :: t)) := by
  rw [cutAfterStop, hi]
  exact .visit hi (.nothing (List.getElem?_eq_none (Nat.le_refl _)))

theorem Makes.plain (hi : w[index]? = some i) (hb : i.isBracket = false)
    (h : Makes w ⟨index + 1, loops⟩ (w.cutAfterStop t)) :
    Makes w ⟨index, loops⟩
      (w.cutAfterStop ((index, iteration? ⟨index, loops⟩) :: t)) := by
  rcases i.plain_cases with hi' | ⟨count, start, rfl⟩ | rfl | rfl
  · refine Makes.step hi (fun hs => ?_) ?_
    · rw [hs] at hi'; cases hi'
    · rwa [next_of_isPlain hi']
  · cases hb
  · cases hb
  · exact Makes.stop hi

/-- The iterations of a loop from the current one on: `n` of them are left, `last` is its end. -/
def iterations (body : Block) (index last : Nat) (current : Int) (n : Nat) :
    List (Nat × Option Int) :=
  (List.range n).flatMap fun k : Nat =>
    body.trace (index + 1) (some (current + k)) ++ [(last, some (current + k))]

theorem iterations_succ (body : Block) (index last : Nat) (current : Int) (n : Nat) :
    iterations body index last current (n + 1) =
      body.trace (index + 1) (some current) ++
        (last, some current) :: iterations body index last (current + 1) n := by
  have hnext (k : Nat) : current + ((k + 1 : Nat) : Int) = current + 1 + k := by omega
  simp only [iterations, List.range_succ_eq_map, List.flatMap_cons, List.flatMap_map,
    Nat.succ_eq_add_one, hnext]
  simp

/-- If a body makes its trace, a loop makes that of all the iterations that are left. -/
theorem Makes.iterations {body : Block} {last : Nat} {f : LoopFrame} {n : Nat}
    (hlast : w[last]? = some .loopEnd) (hf : f.startIndex = index)
    (hbody : ∀ (loops : List LoopFrame) (t : List (Nat × Option Int)),
      Makes w ⟨last, loops⟩ (w.cutAfterStop t) →
        Makes w ⟨index + 1, loops⟩ (w.cutAfterStop
          (body.trace (index + 1) (iteration? ⟨index + 1, loops⟩) ++ t)))
    (hn : f.start + f.count - f.current = n) (hpos : 0 < n)
    (h : Makes w ⟨last + 1, loops⟩ (w.cutAfterStop t)) :
    Makes w ⟨index + 1, f :: loops⟩
      (w.cutAfterStop (Position.iterations body index last f.current n ++ t)) := by
  induction n generalizing f with
  | zero => cases hpos
  | succ n ih =>
    rw [iterations_succ, List.append_assoc, List.cons_append]
    refine hbody (f :: loops) _ (Makes.step (p := ⟨last, f :: loops⟩) hlast (by simp) ?_)
    simp only [Position.next]
    cases n with
    | zero =>
      rw [if_neg (by omega)]
      exact h
    | succ n =>
      rw [if_pos (by omega), hf]
      exact ih (f := ⟨index, f.start, f.count, f.current + 1⟩) rfl
        (by dsimp only; omega) (Nat.succ_pos n)

/-- A block makes its trace before what comes after it, whatever loops it is in. -/
theorem Makes.block {b : Block} (hw : w.drop index = b.flatten ++ u)
    (h : Makes w ⟨index + b.flatten.length, loops⟩ (w.cutAfterStop t)) :
    Makes w ⟨index, loops⟩
      (w.cutAfterStop (b.trace index (iteration? ⟨index, loops⟩) ++ t)) := by
  induction b generalizing index loops t u with
  | done => exact h
  | plain i hi rest ih =>
    obtain ⟨hhere, hrest⟩ := head_of_drop hw
    refine Makes.plain hhere hi (ih hrest ?_)
    rwa [Block.flatten, List.length_cons, Nat.add_comm _ 1, ← Nat.add_assoc] at h
  | loop count start body rest ihb ihr =>
    -- what comes after the loop first: both ways through the loop lead there
    simp only [Block.flatten, List.cons_append, List.append_assoc] at hw
    obtain ⟨hhere, hbody⟩ := head_of_drop hw
    have hclose : w.drop (index + 1 + body.flatten.length) = .loopEnd :: (rest.flatten ++ u) := by
      rw [← List.drop_drop, hbody, List.drop_left]
    obtain ⟨hlast, hrest⟩ := head_of_drop hclose
    have hafter : Makes w ⟨index + 1 + body.flatten.length + 1, loops⟩ (w.cutAfterStop
        (rest.trace (index + 1 + body.flatten.length + 1) (iteration? ⟨index, loops⟩) ++ t)) := by
      refine ihr hrest ?_
      simp only [Block.flatten, List.length_cons, List.length_append] at h
      convert h using 2
      omega
    simp only [Block.trace, List.cons_append, List.append_assoc]
    refine Makes.step (p := ⟨index, loops⟩) hhere (by simp) ?_
    simp only [Position.next]
    by_cases hcount : count ≤ 0
    · rw [if_pos hcount, matchingEnd?_block hw, Int.toNat_of_nonpos hcount]
      exact hafter
    · rw [if_neg hcount]
      exact Makes.iterations (f := ⟨index, start, count, start⟩) hlast rfl
        (fun loops t => ihb hbody) (by dsimp only; omega) (by omega) hafter

end Position

/-! ## Reports -/

theorem Run.Course.makes {σ : Type} {e : Engine σ} {w : Workflow} {r r' : Run σ}
    {vs : List (Run σ × Instruction)} (h : Course e w r vs r')
    (hend : w[r'.scene.state.counter]? = none) :
    Position.Makes w r.scene.state.position
      ((vs.map fun v => v.1.entryDue e w v.2).map fun entry => (entry.index, entry.iteration)) := by
  induction h with
  | nil r => exact .nothing hend
  | cons hd _ ih =>
    have hnext := ih hend
    rw [visited_position] at hnext
    exact .visit hd.here hnext

namespace Session

/-- The report of a run that is not ended before its time has an entry for each visit of the
recursion over the nested loops, up to the first `stop`, whatever comes of the visits. -/
theorem entries_eq_trace {σ : Type} {s : Session σ} {e : Engine σ} {w : Workflow}
    {checks : Option Bool} {enforces : Bool} {r : Run σ} (hw : w.balanced = true)
    (h : (s.run e w checks enforces).2 = .ok r) (hf : r.fatalError = none) :
    (∃ b : Block, b.flatten = w) ∧ ∀ b : Block, b.flatten = w →
      (r.report w).entries.map (fun entry => (entry.index, entry.iteration)) =
        w.cutAfterStop (b.trace 0 none) := by
  refine ⟨exists_block hw, fun b hb => ?_⟩
  obtain ⟨vs, last, ended, hc, he, rfl⟩ := exists_course h
  have hf : ended.fatalError = none := hf
  have hentries := Run.report_entries hc he rfl
  rw [hf, List.append_nil] at hentries
  have hend : w[last.scene.state.counter]? = none := by
    rw [← he.scene]
    exact List.getElem?_eq_none (he.finished_of_none hf)
  have hdone : Position.Makes w ⟨0 + b.flatten.length, []⟩ (w.cutAfterStop []) :=
    .nothing (List.getElem?_eq_none (by simp [hb]))
  have hmakes := Position.Makes.block (u := []) (by simp [hb]) hdone
  rw [List.append_nil] at hmakes
  rw [hentries]
  exact (hc.makes hend).unique hmakes

/-- A loop in a loop that begins below zero, one that is run no time, and a `stop`. -/
theorem entries_eq_trace_nested :
    let w : Workflow := [.loop 2 (-1), .loop 0 7, .stop, .loopEnd, .loop 2 3, .crop, .loopEnd,
      .loopEnd, .stop, .crop]
    ∃ r, w.balanced = true ∧ (Run.rehearsalSession.run (Run.rehearsalEngine {}) w).2 = .ok r ∧
      r.fatalError = none ∧
      (∀ b : Block, b.flatten = w →
        (r.report w).entries.map (fun entry => (entry.index, entry.iteration)) =
          w.cutAfterStop (b.trace 0 none)) ∧
      (r.report w).entries.map (fun entry => (entry.index, entry.iteration)) =
        [(0, none), (1, some (-1)), (4, some (-1)), (5, some 3), (6, some 3), (5, some 4),
          (6, some 4), (7, some (-1)), (1, some 0), (4, some 0), (5, some 3), (6, some 3),
          (5, some 4), (6, some 4), (7, some 0), (8, none)] := by
  intro w
  have hw : w.balanced = true := by decide
  let r : Run Rehearsal :=
    (Run.execute (Run.rehearsalEngine {}) w true none ⟨[]⟩ {}).finish (Run.rehearsalEngine {}) w
  have h : (Run.rehearsalSession.run (Run.rehearsalEngine {}) w).2 = .ok r :=
    Session.run_of_ending (by decide) rfl rfl (by decide +kernel)
  have hf : r.fatalError = none := by decide +kernel
  exact ⟨_, hw, h, hf, (entries_eq_trace hw h hf).2, by decide +kernel⟩

end Session

end ImageWorkflow
