import Mathlib
import ImageWorkflow.Proofs.Brackets
import ImageWorkflow.Workflow.Validation

/-!
# What validation knows at an index

`Workflow.walkBefore w n` : what the walk of `validate` knows just before index `n`.
* `walkBefore_succ` : one instruction further;
* `openLoops_walkBefore` : the loops that the walk holds open are the open ones;
* `mem_validate_errors` : the errors at an index are those that the walk finds there, and the loops
  that are open at the end; `mem_validate_errors_at` : the errors of the first sort;
* `exists_validate_warnings` : the warnings of the walk, and what a workflow lacks as a whole;
  `mem_validate_warnings` : the warnings at an index;
* `exists_indices_findings`, `mem_indices_iff` : the indices at which a code is found.
-/

namespace ImageWorkflow.Workflow
variable {w : Workflow} {n p : Nat} {i : Instruction} {issue : Issue}

/-- What the walk knows just before index `n`. -/
def walkBefore (w : Workflow) (n : Nat) : Walk := (walk {} 0 (w.take n)).1

theorem walk_append (v : Walk) (index : Nat) (u t : Workflow) :
    (walk v index (u ++ t)).1 = (walk (walk v index u).1 (index + u.length) t).1 := by
  induction u generalizing v index with
  | nil => rfl
  | cons i u ih =>
    simp only [List.cons_append, walk, List.length_cons]
    rw [ih, Nat.add_right_comm, Nat.add_assoc]

@[simp] theorem walkBefore_zero (w : Workflow) : w.walkBefore 0 = {} := by
  simp [walkBefore, walk]

theorem walkBefore_succ (h : w[n]? = some i) :
    w.walkBefore (n + 1) = (w.walkBefore n).next n i := by
  obtain ⟨hn, -⟩ := List.getElem?_eq_some_iff.mp h
  rw [walkBefore, List.take_add_one, h, walk_append, List.length_take,
    Nat.min_eq_left (Nat.le_of_lt hn), Nat.zero_add]
  rfl

/-! ## Open loops -/

theorem map_index_setGenerated (v : Walk) (generated : Bool) :
    (v.setGenerated generated).openLoops.map (·.index) = v.openLoops.map (·.index) := by
  unfold Walk.setGenerated
  split <;> simp [*]

theorem map_index_next (v : Walk) (i : Instruction) :
    (v.next n i).openLoops.map (·.index) = stepOpenLoops (v.openLoops.map (·.index)) n i := by
  cases i <;> simp [Walk.next, stepOpenLoops, map_index_setGenerated, List.map_tail]

/-- Validation holds open what the brackets leave open. -/
theorem openLoops_walkBefore (hn : n ≤ w.length) :
    (w.walkBefore n).openLoops.map (·.index) = w.openLoops n := by
  induction n with
  | zero => simp
  | succ n ih =>
    have hi : w[n]? = some w[n] := List.getElem?_eq_getElem hn
    rw [walkBefore_succ hi, map_index_next, ih (Nat.le_of_succ_le hn), openLoops_succ hi]

/-! ## Problems at an index -/

/-- The problems that a look at each instruction finds on the walk. -/
def findings (look : Walk → Instruction → List Issue) (v : Walk) (index : Nat) :
    Workflow → List Located
  | [] => []
  | i :: rest =>
    (look v i).map (⟨·, some index⟩) ++ findings look (v.next index i) (index + 1) rest

theorem walk_errors (v : Walk) (index : Nat) (u : Workflow) :
    (walk v index u).2.1 = findings Walk.errors v index u := by
  induction u generalizing v index with
  | nil => rfl
  | cons i u ih => rw [findings, ← ih, walk]

theorem walk_warnings (v : Walk) (index : Nat) (u : Workflow) :
    (walk v index u).2.2 = findings Walk.warnings v index u := by
  induction u generalizing v index with
  | nil => rfl
  | cons i u ih => rw [findings, ← ih, walk]

theorem mem_findings (look : Walk → Instruction → List Issue) (v : Walk) (index : Nat)
    (u : Workflow) : ⟨issue, some p⟩ ∈ findings look v index u ↔
      ∃ n i, p = index + n ∧ u[n]? = some i ∧ issue ∈ look (walk v index (u.take n)).1 i := by
  induction u generalizing v index with
  | nil => simp [findings]
  | cons i u ih =>
    simp only [findings, List.mem_append, List.mem_map, Located.mk.injEq, Option.some.injEq, ih]
    constructor
    · rintro (⟨issue, hm, rfl, rfl⟩ | ⟨n, j, rfl, hj, hm⟩)
      · exact ⟨0, i, rfl, rfl, hm⟩
      · exact ⟨n + 1, j, by omega, hj, hm⟩
    · rintro ⟨n, j, rfl, hj, hm⟩
      cases n with
      | zero =>
        obtain rfl : i = j := Option.some.inj hj
        exact Or.inl ⟨issue, hm, rfl, rfl⟩
      | succ n => exact Or.inr ⟨n, j, by omega, hj, hm⟩

/-- What a look finds anywhere, it finds at some instruction. -/
theorem forall_mem_findings {look : Walk → Instruction → List Issue} {P : Issue → Prop}
    (hlook : ∀ v i, ∀ issue ∈ look v i, P issue) (v : Walk) (index : Nat) (u : Workflow) :
    ∀ problem ∈ findings look v index u, P problem.issue := by
  induction u generalizing v index with
  | nil => exact List.forall_mem_nil _
  | cons i u ih =>
    intro problem h
    rcases List.mem_append.mp h with h | h
    · obtain ⟨issue, hissue, rfl⟩ := List.mem_map.mp h
      exact hlook v i issue hissue
    · exact ih _ _ problem h

/-- A code that a look finds at most once at an instruction is found at indices in order. -/
theorem exists_indices_findings {look : Walk → Instruction → List Issue} {code : String}
    (hlook : ∀ v i, ((look v i).filter (·.code = code)).length ≤ 1) (v : Walk) (index : Nat)
    (u : Workflow) : ∃ indices : List Nat, indices.Pairwise (· < ·) ∧ (∀ n ∈ indices, index ≤ n) ∧
      ((findings look v index u).filter (·.issue.code = code)).map (·.index) =
        indices.map some := by
  induction u generalizing v index with
  | nil => exact ⟨[], .nil, nofun, rfl⟩
  | cons i u ih =>
    obtain ⟨indices, hsorted, hfrom, hindices⟩ := ih (v.next index i) (index + 1)
    have hhere := hlook v i
    rw [findings, List.filter_append, List.map_append, hindices, List.filter_map, List.map_map]
    change ∃ indices' : List Nat, _ ∧ _ ∧
      ((look v i).filter (·.code = code)).map _ ++ _ = _
    generalize (look v i).filter (·.code = code) = here at hhere
    obtain _ | ⟨issue, _ | ⟨second, rest⟩⟩ := here
    · exact ⟨indices, hsorted, fun n hn => Nat.le_of_succ_le (hfrom n hn), rfl⟩
    · refine ⟨index :: indices, List.pairwise_cons.mpr ⟨hfrom, hsorted⟩, ?_, rfl⟩
      exact List.forall_mem_cons.mpr ⟨Nat.le_refl _, fun n hn => Nat.le_of_succ_le (hfrom n hn)⟩
    · simp at hhere

/-- The indices at which a code is found are those of the problems with it. -/
theorem mem_indices_iff {problems : List Located} {code : String} {indices : List Nat}
    (h : (problems.filter (·.issue.code = code)).map (·.index) = indices.map some) :
    p ∈ indices ↔ ∃ issue : Issue, issue.code = code ∧ ⟨issue, some p⟩ ∈ problems := by
  rw [← List.mem_map_of_injective (Option.some_injective Nat), ← h]
  simp only [List.mem_map, List.mem_filter, decide_eq_true_eq]
  constructor
  · rintro ⟨⟨issue, index⟩, ⟨hproblem, hcode⟩, rfl⟩
    exact ⟨issue, hcode, hproblem⟩
  · rintro ⟨issue, hcode, hproblem⟩
    exact ⟨_, ⟨hproblem, hcode⟩, rfl⟩

/-- The errors are those of the walk, and then the loops that are never closed. -/
theorem validate_errors (w : Workflow) : w.validate.errors =
    findings Walk.errors {} 0 w ++
      (w.openLoops w.length).reverse.map fun l => ⟨.unclosedLoop, some l⟩ := by
  rw [← openLoops_walkBefore (Nat.le_refl _), walkBefore, List.take_length, ← List.map_reverse,
    List.map_map, ← walk_errors]
  rfl

/-- The errors at an index: what the walk finds there, and a loop that is never closed. -/
theorem mem_validate_errors :
    ⟨issue, some p⟩ ∈ w.validate.errors ↔
      (∃ i, w[p]? = some i ∧ issue ∈ (w.walkBefore p).errors i) ∨
        issue = .unclosedLoop ∧ p ∈ w.openLoops w.length := by
  simp only [validate_errors, List.mem_append, mem_findings, List.mem_map, List.mem_reverse,
    Located.mk.injEq, Option.some.injEq, Nat.zero_add]
  constructor
  · rintro (⟨n, i, rfl, hi, hm⟩ | ⟨l, hl, rfl, rfl⟩)
    · exact Or.inl ⟨i, hi, hm⟩
    · exact Or.inr ⟨rfl, hl⟩
  · rintro (⟨i, hi, hm⟩ | ⟨rfl, hl⟩)
    · exact Or.inl ⟨p, i, rfl, hi, hm⟩
    · exact Or.inr ⟨p, hl, rfl, rfl⟩

/-- Apart from loops that are never closed, the errors at an instruction are what the walk finds. -/
theorem mem_validate_errors_at (hi : w[p]? = some i) (hissue : issue ≠ .unclosedLoop) :
    ⟨issue, some p⟩ ∈ w.validate.errors ↔ issue ∈ (w.walkBefore p).errors i := by
  rw [mem_validate_errors]
  constructor
  · rintro (⟨j, hj, hm⟩ | ⟨hm, -⟩)
    · obtain rfl : i = j := Option.some.inj (hi.symm.trans hj)
      exact hm
    · exact absurd hm hissue
  · exact fun hm => Or.inl ⟨i, hi, hm⟩

theorem not_mem_errors_of_isValid (hv : w.validate.isValid = true) (hi : w[p]? = some i)
    (hissue : issue ≠ .unclosedLoop) : issue ∉ (w.walkBefore p).errors i := by
  intro hmem
  have hmem := (mem_validate_errors_at hi hissue).mpr hmem
  rw [List.isEmpty_iff.mp hv] at hmem
  cases hmem

/-- The problem is that a workflow lacks something as a whole. -/
def IsLack (problem : Located) : Prop :=
  problem.index = none ∧ problem.issue.code ∈ ["no_prompt", "no_generation", "no_config"]

/-- The warnings are those of the walk, and then what the workflow lacks. -/
theorem exists_validate_warnings (w : Workflow) : ∃ lacks : List Located,
    w.validate.warnings = findings Walk.warnings {} 0 w ++ lacks ∧ ∀ lack ∈ lacks, IsLack lack := by
  have hlack (seen : Bool) (issue : Issue) (hissue : IsLack ⟨issue, none⟩) :
      ∀ lack ∈ if w.isEmpty || seen then [] else [(⟨issue, none⟩ : Located)], IsLack lack := by
    intro lack h
    split at h
    · cases h
    · obtain rfl := List.mem_singleton.mp h
      exact hissue
  refine ⟨_, ?_, List.forall_mem_append.mpr
    ⟨hlack (walk {} 0 w).1.sawPrompt .noPrompt ⟨rfl, by decide⟩, List.forall_mem_append.mpr
      ⟨hlack (walk {} 0 w).1.sawTrigger .noGeneration ⟨rfl, by decide⟩,
        hlack (walk {} 0 w).1.sawConfig .noConfig ⟨rfl, by decide⟩⟩⟩⟩
  rw [← walk_warnings]
  simp only [validate, List.append_assoc]

/-- The warnings at an index are what the walk finds there. -/
theorem mem_validate_warnings : ⟨issue, some p⟩ ∈ w.validate.warnings ↔
    ∃ i, w[p]? = some i ∧ issue ∈ (w.walkBefore p).warnings i := by
  obtain ⟨lacks, hwarnings, hlacks⟩ := exists_validate_warnings w
  have hnone : (⟨issue, some p⟩ : Located) ∉ lacks := fun h => nomatch (hlacks _ h).1
  rw [hwarnings, List.mem_append, or_iff_left hnone, mem_findings]
  constructor
  · rintro ⟨n, i, rfl, hi, hm⟩
    rw [Nat.zero_add]
    exact ⟨i, hi, hm⟩
  · rintro ⟨i, hi, hm⟩
    exact ⟨p, i, (Nat.zero_add p).symm, hi, hm⟩

theorem mem_validate_warnings_at (hi : w[p]? = some i) :
    ⟨issue, some p⟩ ∈ w.validate.warnings ↔ issue ∈ (w.walkBefore p).warnings i := by
  simp [mem_validate_warnings, hi]

theorem unexpectedLoopEnd_mem_errors (v : Walk) :
    .unexpectedLoopEnd ∈ v.errors .loopEnd ↔ v.openLoops = [] := by
  simp [Walk.errors, Instruction.loadedFile?, Instruction.isTrigger]

theorem outsideLoop_mem_errors (v : Walk) (hi : i.isLoopScoped = true) :
    .outsideLoop i.kind ∈ v.errors i ↔ v.openLoops = [] := by
  cases i <;> simp [Instruction.isLoopScoped] at hi
  all_goals
    simp only [Walk.errors, Instruction.isLoopScoped, Instruction.loadedFile?, List.mem_append]
    split_ifs <;> simp_all

theorem nothingToGenerate_mem_errors (v : Walk) (hi : i.isTrigger = true) :
    .nothingToGenerate i.kind ∈ v.errors i ↔
      v.hasPrompt = false ∧ v.hasCanvas = false ∧ v.moodboardSize = 0 := by
  cases i <;> simp [Instruction.isTrigger] at hi
  all_goals
    simp only [Walk.errors, Instruction.isLoopScoped, Instruction.loadedFile?, List.mem_append]
    split_ifs <;> simp_all [Instruction.isTrigger, and_assoc]

theorem missingWeights_mem_warnings (v : Walk) (weights : List (Nat × Binary64))
    (indices : List Nat) :
    .missingWeights indices ∈ v.warnings (.moodboardWeights weights) ↔
      (weights.map (·.1)).filter (v.moodboardSize ≤ ·) ≠ [] ∧
        indices = (weights.map (·.1)).filter (v.moodboardSize ≤ ·) := by
  have hsupported : (Instruction.moodboardWeights weights).kind.support ≠ .unsupported := nofun
  simp only [Walk.warnings, if_neg hsupported, List.nil_append]
  generalize (weights.map (·.1)).filter (v.moodboardSize ≤ ·) = missing
  cases missing <;> simp

end ImageWorkflow.Workflow
