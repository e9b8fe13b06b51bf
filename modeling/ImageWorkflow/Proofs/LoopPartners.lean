import Mathlib
import ImageWorkflow.Proofs.VisitCounts

/-!
# Loops and their ends

What validation and runs make of brackets that may be malformed, against the grammar of brackets.
* `Workflow.Partners w l m` : the `loop` at `l` and the `loopEnd` at `m` belong together, with whole
  loops between them; `Workflow.matchingEnd?_eq_some_iff` : a run finds the partner;
* `Workflow.partners_iff_openLoops` : the partner of a `loopEnd` is the innermost open loop;
  `Workflow.openLoops_eq_nil_iff`, `Workflow.mem_openLoops_length_iff` : no loop is open where each
  has its partner before, and those without one stay open;
* `Workflow.exists_block_iff` : a workflow is in the grammar if no bracket stands alone;
* `Report.ErrorsAt r code P` : the problems with a code are errors at the indices with `P`, one at
  each; `Workflow.validate_errorsAt` : so are those about brackets;
* `Workflow.brackets_judged` : what validation says of brackets, and what a run finds.
-/

namespace ImageWorkflow

namespace Workflow
variable {w : Workflow} {l m n : Nat} {i : Instruction} {count start : Int}

/-! ## Partners -/

/-- The `loop` at `l` and the `loopEnd` at `m` belong together: whole loops stand between them. -/
def Partners (w : Workflow) (l m : Nat) : Prop :=
  ∃ (count start : Int) (body : Block) (rest : Workflow),
    w.drop l = .loop count start :: (body.flatten ++ .loopEnd :: rest) ∧
    m = l + 1 + body.flatten.length

/-- There is a `loop` at the index. -/
def IsLoop (w : Workflow) (l : Nat) : Prop := ∃ count start, w[l]? = some (.loop count start)

theorem Partners.isLoop (h : w.Partners l m) : w.IsLoop l := by
  obtain ⟨count, start, body, rest, hdrop, -⟩ := h
  exact ⟨count, start, (head_of_drop hdrop).1⟩

/-- An end that is found stands behind a block, and behind the ends of the loops that were open
where the search began, with a block after each. -/
theorem exists_blocks_of_closingEnd {u : Workflow} {depth index : Nat}
    (h : closingEnd? depth index u = some m) : ∃ (b : Block) (bs : List Block) (rest : Workflow),
      bs.length = depth ∧ u = b.flatten ++ closings bs ++ .loopEnd :: rest ∧
      m = index + (b.flatten ++ closings bs).length := by
  induction u generalizing depth index with
  | nil => cases h
  | cons i u ih =>
    rcases i.bracket_cases with hb | ⟨count, start, rfl⟩ | rfl
    · rw [closingEnd?_of_not_isBracket hb] at h
      obtain ⟨b, bs, rest, hlen, rfl, rfl⟩ := ih h
      refine ⟨.plain i hb b, bs, rest, hlen, rfl, ?_⟩
      simp only [Block.flatten, List.cons_append, List.length_cons]
      omega
    · obtain ⟨body, bs, rest, hlen, rfl, rfl⟩ := ih h
      obtain ⟨b, bs, rfl⟩ := List.exists_cons_of_length_eq_add_one hlen
      refine ⟨.loop count start body b, bs, rest, by simpa using hlen, ?_, ?_⟩
      · simp [Block.flatten, closings]
      · simp only [Block.flatten, closings, List.cons_append, List.append_assoc, List.length_cons]
        omega
    · cases depth with
      | zero =>
        obtain rfl : index = m := Option.some.inj h
        exact ⟨.done, [], u, rfl, rfl, rfl⟩
      | succ depth =>
        obtain ⟨b, bs, rest, hlen, rfl, rfl⟩ := ih h
        refine ⟨.done, b :: bs, rest, by simp [hlen], ?_, ?_⟩
        · simp [Block.flatten, closings]
        · simp only [Block.flatten, closings, List.nil_append, List.length_cons]
          omega

/-- A run finds the partner of a loop. -/
theorem matchingEnd?_eq_some_iff (hl : w.IsLoop l) :
    w.matchingEnd? l = some m ↔ w.Partners l m := by
  constructor
  · intro h
    obtain ⟨count, start, hl⟩ := hl
    obtain ⟨body, bs, rest, hbs, hrest, rfl⟩ := exists_blocks_of_closingEnd h
    obtain rfl := List.eq_nil_of_length_eq_zero hbs
    rw [closings, List.append_nil] at hrest ⊢
    obtain ⟨hlt, hget⟩ := List.getElem?_eq_some_iff.mp hl
    refine ⟨count, start, body, rest, ?_, rfl⟩
    rw [List.drop_eq_getElem_cons hlt, hget, hrest]
  · rintro ⟨count, start, body, rest, hdrop, rfl⟩
    exact matchingEnd?_block hdrop

theorem matchingEnd?_eq_none_iff (hl : w.IsLoop l) :
    w.matchingEnd? l = none ↔ ∀ m, ¬ w.Partners l m := by
  simp only [← matchingEnd?_eq_some_iff hl, Option.eq_none_iff_forall_ne_some, ne_eq]

/-! ## Partners and open loops -/

theorem Partners.matchedAt (h : w.Partners l m) : w.MatchedAt l m := by
  obtain ⟨count, start, hl⟩ := h.isLoop
  exact matchedAt_of_matchingEnd hl ((matchingEnd?_eq_some_iff h.isLoop).mpr h)

/-- After its end a loop is open no more. -/
theorem MatchedAt.not_mem_openLoops (h : w.MatchedAt l m) (hn : m < n) : l ∉ w.openLoops n := by
  intro hmem
  have hopen := mem_openLoops_of_le hmem (n := m + 1) (Nat.lt_succ_of_lt h.lt) hn
  rw [h.openLoops_succ] at hopen
  exact not_mem_openLoops_self w l hopen

/-- The partner of a `loopEnd` is the innermost loop that is open there. -/
theorem partners_iff_openLoops (hm : w[m]? = some .loopEnd) :
    w.Partners l m ↔ (w.openLoops m).head? = some l := by
  constructor
  · intro h
    rw [h.matchedAt.opened, List.head?_cons]
  · intro h
    obtain ⟨outer, hopen⟩ := List.head?_eq_some_iff.mp h
    have hmem : l ∈ w.openLoops m := hopen ▸ List.mem_cons_self
    obtain ⟨hlt, hloop⟩ := exists_loop_of_mem hmem
    have hmatched : w.MatchedAt l m :=
      ⟨hlt, hm, by rw [hopen, openLoops_of_eq_append [] hopen]⟩
    obtain ⟨count, start, hl⟩ := hloop
    -- the end that is found can be neither behind `m` nor before it
    cases hend : w.matchingEnd? l with
    | none =>
      obtain ⟨hlength, -⟩ := List.getElem?_eq_some_iff.mp hm
      have hopen := mem_openLoops_of_unmatched hl hend (Nat.lt_succ_of_lt hlt) hlength
      exact absurd hopen (hmatched.not_mem_openLoops (Nat.lt_succ_self m))
    | some k =>
      have hfound := matchedAt_of_matchingEnd hl hend
      rcases Nat.lt_trichotomy k m with hk | rfl | hk
      · exact absurd hmem (hfound.not_mem_openLoops hk)
      · exact (matchingEnd?_eq_some_iff ⟨count, start, hl⟩).mp hend
      · exact absurd (hfound.opened ▸ List.mem_cons_self) (hmatched.not_mem_openLoops hk)

/-- A `loopEnd` has no partner where no loop is open. -/
theorem no_partner_iff (hm : w[m]? = some .loopEnd) :
    (∀ l, ¬ w.Partners l m) ↔ w.openLoops m = [] := by
  simp only [partners_iff_openLoops hm, ← Option.eq_none_iff_forall_ne_some, List.head?_eq_none_iff]

/-- No loop is open where each loop so far has its partner before. -/
theorem openLoops_eq_nil_iff (hn : n ≤ w.length) :
    w.openLoops n = [] ↔ ∀ l < n, w.IsLoop l → ∃ m < n, w.Partners l m := by
  constructor
  · rintro hnil l hlt ⟨count, start, hl⟩
    have hclosed : l ∉ w.openLoops n := by simp [hnil]
    cases hend : w.matchingEnd? l with
    | none => exact absurd (mem_openLoops_of_unmatched hl hend hlt hn) hclosed
    | some m =>
      refine ⟨m, ?_, (matchingEnd?_eq_some_iff ⟨count, start, hl⟩).mp hend⟩
      by_contra hm
      have hopen : l ∈ w.openLoops m :=
        (matchedAt_of_matchingEnd hl hend).opened ▸ List.mem_cons_self
      exact hclosed (mem_openLoops_of_le hopen hlt (Nat.le_of_not_lt hm))
  · intro h
    refine List.eq_nil_iff_forall_not_mem.mpr fun l hopen => ?_
    obtain ⟨hlt, hl⟩ := exists_loop_of_mem hopen
    obtain ⟨m, hm, hpartners⟩ := h l hlt hl
    exact hpartners.matchedAt.not_mem_openLoops hm hopen

/-- The loops without a partner stay open. -/
theorem mem_openLoops_length_iff :
    l ∈ w.openLoops w.length ↔ w.IsLoop l ∧ ∀ m, ¬ w.Partners l m := by
  constructor
  · intro hopen
    refine ⟨(exists_loop_of_mem hopen).2, fun m h => ?_⟩
    obtain ⟨hm, -⟩ := List.getElem?_eq_some_iff.mp h.matchedAt.isEnd
    exact h.matchedAt.not_mem_openLoops hm hopen
  · rintro ⟨hl, h⟩
    have hnone := (matchingEnd?_eq_none_iff hl).mpr h
    obtain ⟨count, start, hl⟩ := hl
    obtain ⟨hlt, -⟩ := List.getElem?_eq_some_iff.mp hl
    exact mem_openLoops_of_unmatched hl hnone hlt (Nat.le_refl _)

theorem pairwise_openLoops (w : Workflow) (n : Nat) : (w.openLoops n).Pairwise (· > ·) := by
  induction n with
  | zero => simp
  | succ n ih =>
    cases hi : w[n]? with
    | none => rwa [openLoops_succ_of_none hi]
    | some i =>
      rcases i.bracket_cases with hb | ⟨count, start, rfl⟩ | rfl
      · rwa [openLoops_succ_of_not_isBracket hi hb]
      · rw [openLoops_succ_loop hi]
        exact List.pairwise_cons.mpr ⟨fun l hl => lt_of_mem hl, ih⟩
      · rw [openLoops_succ_loopEnd hi]
        exact ih.sublist (List.tail_sublist _)

/-! ## The grammar -/

theorem balancedFrom_flatten (b : Block) (depth : Nat) (u : Workflow) :
    balancedFrom depth (b.flatten ++ u) = balancedFrom depth u := by
  induction b generalizing depth u with
  | done => rfl
  | plain i hi rest ih => rw [Block.flatten, List.cons_append, balancedFrom_of_not_isBracket hi, ih]
  | loop count start body rest ihb ihr =>
    simp only [Block.flatten, List.cons_append, List.append_assoc, balancedFrom]
    rw [ihb, balancedFrom, ihr]

theorem balanced_iff_exists_block : w.balanced = true ↔ ∃ b : Block, b.flatten = w := by
  refine ⟨exists_block, ?_⟩
  rintro ⟨b, rfl⟩
  rw [balanced, ← List.append_nil b.flatten, balancedFrom_flatten]
  rfl

/-- If no bracket stands alone, what is left at an index closes the loops that are open there. -/
theorem balancedFrom_of_no_lone (hend : ∀ k, w[k]? = some .loopEnd → w.openLoops k ≠ [])
    (hlast : w.openLoops w.length = []) :
    balancedFrom (w.openLoops n).length (w.drop n) = true := by
  generalize hu : w.drop n = u
  induction u generalizing n with
  | nil =>
    have hn : w.length ≤ n := List.drop_eq_nil_iff.mp hu
    rw [openLoops, List.take_length] at hlast
    rw [openLoops, List.take_of_length_le hn, hlast]
    rfl
  | cons i u ih =>
    obtain ⟨hi, hu⟩ := head_of_drop hu
    have hrest := ih hu
    rcases i.bracket_cases with hb | ⟨count, start, rfl⟩ | rfl
    · rwa [openLoops_succ_of_not_isBracket hi hb, ← balancedFrom_of_not_isBracket hb] at hrest
    · rwa [openLoops_succ_loop hi] at hrest
    · rw [openLoops_succ_loopEnd hi] at hrest
      cases hopen : w.openLoops n with
      | nil => exact absurd hopen (hend n hi)
      | cons l outer => rwa [hopen] at hrest

/-- A workflow is in the grammar of brackets if none of its brackets stands alone. -/
theorem exists_block_iff : (∃ b : Block, b.flatten = w) ↔
    (∀ m, w[m]? = some .loopEnd → ∃ l, w.Partners l m) ∧ ∀ l, w.IsLoop l → ∃ m, w.Partners l m := by
  have hends : (∀ m, w[m]? = some .loopEnd → ∃ l, w.Partners l m) ↔
      ∀ m, w[m]? = some .loopEnd → w.openLoops m ≠ [] :=
    forall₂_congr fun m hm => by rw [← not_forall_not, no_partner_iff hm]
  have hloops : (∀ l, w.IsLoop l → ∃ m, w.Partners l m) ↔ w.openLoops w.length = [] := by
    rw [List.eq_nil_iff_forall_not_mem]
    simp only [mem_openLoops_length_iff, not_and, not_forall, not_not]
  rw [← balanced_iff_exists_block, hends, hloops]
  constructor
  · intro hw
    refine ⟨fun m hm hnil => ?_, openLoops_of_balanced hw (Nat.le_refl _)⟩
    obtain ⟨hlt, hget⟩ := List.getElem?_eq_some_iff.mp hm
    have hrest := balancedFrom_drop hw (Nat.le_of_lt hlt)
    rw [hnil, List.drop_eq_getElem_cons hlt, hget] at hrest
    cases hrest
  · rintro ⟨hend, hlast⟩
    have hall := balancedFrom_of_no_lone (n := 0) hend hlast
    rwa [openLoops_zero] at hall

end Workflow

/-! ## Problems by their codes -/

/-- The problems with a code are errors at the indices with a property, one at each, in order. -/
def Report.ErrorsAt (r : Report) (code : String) (P : Nat → Prop) : Prop :=
  (∀ warning ∈ r.warnings, warning.issue.code ≠ code) ∧
    ∃ indices : List Nat, indices.Pairwise (· < ·) ∧ (∀ n, n ∈ indices ↔ P n) ∧
      (r.errors.filter (·.issue.code = code)).map (·.index) = indices.map some

/-- There are no such problems if there is no such index. -/
theorem Report.ErrorsAt.forall_code_ne_iff {r : Report} {code : String} {P : Nat → Prop}
    (h : r.ErrorsAt code P) :
    (∀ problem ∈ r.errors ++ r.warnings, problem.issue.code ≠ code) ↔ ∀ n, ¬ P n := by
  obtain ⟨hwarnings, indices, -, hmem, hindices⟩ := h
  have hnone : (∀ problem ∈ r.errors, problem.issue.code ≠ code) ↔ indices = [] := by
    rw [← List.map_eq_nil_iff (f := some), ← hindices, List.map_eq_nil_iff, List.filter_eq_nil_iff]
    simp only [decide_eq_true_eq, ne_eq]
  simp only [List.forall_mem_append, hnone, ← hmem, List.eq_nil_iff_forall_not_mem]
  exact and_iff_left hwarnings

namespace Workflow
variable {w : Workflow} {n : Nat} {i : Instruction} {code : String} {issue : Issue}

/-- The codes of problems about brackets. -/
def bracketCodes : List String := ["unexpected_loop_end", "outside_loop", "unclosed_loop"]

/-- The errors about brackets at an instruction. -/
def bracketErrors (v : Walk) : Instruction → List Issue
  | .loopEnd => if v.openLoops.isEmpty then [.unexpectedLoopEnd] else []
  | i => if i.isLoopScoped && v.openLoops.isEmpty then [.outsideLoop i.kind] else []

theorem bracketErrors_cases (v : Walk) (i : Instruction) :
    (bracketErrors v i = [.unexpectedLoopEnd] ∧ i = .loopEnd ∧ v.openLoops = []) ∨
    (bracketErrors v i = [.outsideLoop i.kind] ∧ i.isLoopScoped = true ∧ v.openLoops = []) ∨
    (bracketErrors v i = [] ∧ (v.openLoops = [] → i ≠ .loopEnd ∧ i.isLoopScoped = false)) := by
  unfold bracketErrors
  split
  · by_cases hopen : v.openLoops = [] <;> simp [hopen]
  · by_cases hopen : v.openLoops = [] <;> cases hi : i.isLoopScoped <;> simp_all

/-- The other errors at an instruction have other codes. -/
theorem exists_errors_eq (v : Walk) (i : Instruction) :
    ∃ others, v.errors i = bracketErrors v i ++ others ∧
      ∀ issue ∈ others, issue.code ∉ bracketCodes := by
  refine ⟨_, (List.append_assoc _ _ _).trans (List.append_assoc _ _ _), fun issue h => ?_⟩
  rcases List.mem_append.mp h with h | h
  · -- the file that is loaded
    split at h
    · split_ifs at h <;> simp only [List.mem_singleton, List.not_mem_nil] at h <;> subst h <;>
        simp [Issue.code, bracketCodes]
    · cases h
  rcases List.mem_append.mp h with h | h
  · -- the file that is saved
    split at h <;> try split_ifs at h
    all_goals
      simp only [List.mem_singleton, List.not_mem_nil] at h
    all_goals
      subst h
      simp [Issue.code, bracketCodes]
  · split_ifs at h
    · obtain rfl := List.mem_singleton.mp h
      simp [Issue.code, bracketCodes]
    · cases h

theorem filter_errors (hcode : code ∈ bracketCodes) (v : Walk) (i : Instruction) :
    (v.errors i).filter (·.code = code) = (bracketErrors v i).filter (·.code = code) := by
  obtain ⟨others, hothers, hcodes⟩ := exists_errors_eq v i
  have hnone : others.filter (·.code = code) = [] :=
    List.filter_eq_nil_iff.mpr fun issue hissue heq =>
      hcodes issue hissue (of_decide_eq_true heq ▸ hcode)
  rw [hothers, List.filter_append, hnone, List.append_nil]

/-- No code of brackets is found twice at an instruction. -/
theorem length_filter_errors_le (hcode : code ∈ bracketCodes) (v : Walk) (i : Instruction) :
    ((v.errors i).filter (·.code = code)).length ≤ 1 := by
  rw [filter_errors hcode]
  refine (List.length_filter_le _ _).trans ?_
  obtain ⟨h, -⟩ | ⟨h, -⟩ | ⟨h, -⟩ := bracketErrors_cases v i <;> simp [h]

/-- A loop that is never closed is found behind the last instruction only. -/
theorem filter_findings_unclosed (v : Walk) (index : Nat) (u : Workflow) :
    (findings Walk.errors v index u).filter (·.issue.code = "unclosed_loop") = [] := by
  have hhere (v : Walk) (i : Instruction) :
      (v.errors i).filter (·.code = "unclosed_loop") = [] := by
    rw [filter_errors (by decide)]
    obtain ⟨h, -⟩ | ⟨h, -⟩ | ⟨h, -⟩ := bracketErrors_cases v i <;> simp [h, Issue.code]
  induction u generalizing v index with
  | nil => rfl
  | cons i u ih =>
    rw [findings, List.filter_append, ih, List.append_nil, List.filter_map]
    exact congrArg _ (hhere v i)

theorem warning_code_notMem (v : Walk) (i : Instruction) :
    ∀ issue ∈ v.warnings i, issue.code ∉ bracketCodes := by
  intro issue h
  unfold Walk.warnings at h
  rcases List.mem_append.mp h with h | h
  · split_ifs at h
    · obtain rfl := List.mem_singleton.mp h
      simp [Issue.code, bracketCodes]
    · cases h
  · have hnone {c : Prop} [Decidable c] {other : Issue} (hother : other.code ∉ bracketCodes)
        (h : issue ∈ if c then [other] else []) : issue.code ∉ bracketCodes := by
      split at h
      · exact List.mem_singleton.mp h ▸ hother
      · cases h
    split at h
    · exact hnone (by simp [Issue.code, bracketCodes]) h
    · split at h
      · exact hnone (by decide) h
      · cases h
    · dsimp only at h
      split at h
      · cases h
      · obtain rfl := List.mem_singleton.mp h
        simp [Issue.code, bracketCodes]
    · cases h

/-- No warning is about brackets. -/
theorem code_ne_of_mem_warnings (hcode : code ∈ bracketCodes) :
    ∀ warning ∈ w.validate.warnings, warning.issue.code ≠ code := by
  obtain ⟨lacks, hwarnings, hlacks⟩ := exists_validate_warnings w
  have hapart : ∀ code ∈ ["no_prompt", "no_generation", "no_config"], code ∉ bracketCodes := by
    decide
  rw [hwarnings, List.forall_mem_append]
  constructor
  · intro warning h heq
    have hnotMem := forall_mem_findings (P := fun issue => issue.code ∉ bracketCodes)
      warning_code_notMem {} 0 w warning h
    exact hnotMem (heq ▸ hcode)
  · exact fun lack h heq => hapart _ (hlacks lack h).2 (heq ▸ hcode)

theorem exists_indices_errors (hcode : code ∈ bracketCodes) (w : Workflow) :
    ∃ indices : List Nat, indices.Pairwise (· < ·) ∧
      (w.validate.errors.filter (·.issue.code = code)).map (·.index) = indices.map some := by
  rw [validate_errors, List.filter_append, List.map_append]
  by_cases hclosed : code = "unclosed_loop"
  · subst hclosed
    refine ⟨(w.openLoops w.length).reverse, List.pairwise_reverse.mpr (pairwise_openLoops w _), ?_⟩
    rw [filter_findings_unclosed, List.filter_eq_self.mpr (by simp [Issue.code]), List.map_nil,
      List.nil_append, List.map_map]
    rfl
  · obtain ⟨indices, hsorted, -, hindices⟩ :=
      exists_indices_findings (length_filter_errors_le hcode) {} 0 w
    have hnone : ((w.openLoops w.length).reverse.map fun l =>
        (⟨.unclosedLoop, some l⟩ : Located)).filter (·.issue.code = code) = [] := by
      simp [List.filter_eq_nil_iff, Issue.code, Ne.symm hclosed]
    refine ⟨indices, hsorted, ?_⟩
    rw [hnone, hindices, List.map_nil, List.append_nil]

theorem validate_errorsAt {P : Nat → Prop} (hcode : code ∈ bracketCodes)
    (hP : ∀ n, P n ↔ ∃ issue, issue.code = code ∧ ⟨issue, some n⟩ ∈ w.validate.errors) :
    w.validate.ErrorsAt code P := by
  obtain ⟨indices, hsorted, hindices⟩ := exists_indices_errors hcode w
  exact ⟨code_ne_of_mem_warnings hcode, indices, hsorted,
    fun n => (mem_indices_iff hindices).trans (hP n).symm, hindices⟩

theorem isOpen_walkBefore {i : Instruction} (hi : w[n]? = some i) :
    (w.walkBefore n).openLoops = [] ↔ w.openLoops n = [] := by
  obtain ⟨hlt, -⟩ := List.getElem?_eq_some_iff.mp hi
  rw [← openLoops_walkBefore (Nat.le_of_lt hlt), List.map_eq_nil_iff]

/-- Where an error about brackets is found, and what it is about. -/
theorem bracket_error_cases (h : ⟨issue, some n⟩ ∈ w.validate.errors)
    (hcode : issue.code ∈ bracketCodes) :
    (issue = .unexpectedLoopEnd ∧ w[n]? = some .loopEnd ∧ w.openLoops n = []) ∨
    (∃ i, issue = .outsideLoop i.kind ∧ w[n]? = some i ∧ i.isLoopScoped = true ∧
      w.openLoops n = []) ∨
    (issue = .unclosedLoop ∧ n ∈ w.openLoops w.length) := by
  obtain ⟨i, hi, hissue⟩ | hunclosed := mem_validate_errors.mp h
  · obtain ⟨others, hothers, hcodes⟩ := exists_errors_eq (w.walkBefore n) i
    rw [hothers] at hissue
    have hissue := (List.mem_append.mp hissue).resolve_right fun h => hcodes issue h hcode
    obtain ⟨heq, rfl, hopen⟩ | ⟨heq, hscoped, hopen⟩ | ⟨heq, -⟩ :=
      bracketErrors_cases (w.walkBefore n) i <;> rw [heq] at hissue
    · exact .inl ⟨List.mem_singleton.mp hissue, hi, (isOpen_walkBefore hi).mp hopen⟩
    · exact .inr (.inl ⟨i, List.mem_singleton.mp hissue, hi, hscoped,
        (isOpen_walkBefore hi).mp hopen⟩)
    · cases hissue
  · exact .inr (.inr hunclosed)

theorem unexpected_loop_end_iff :
    (∃ issue : Issue, issue.code = "unexpected_loop_end" ∧ ⟨issue, some n⟩ ∈ w.validate.errors) ↔
      w[n]? = some .loopEnd ∧ w.openLoops n = [] := by
  constructor
  · rintro ⟨issue, hcode, h⟩
    obtain ⟨-, hend⟩ | ⟨i, rfl, -⟩ | ⟨rfl, -⟩ := bracket_error_cases h (by rw [hcode]; decide)
    · exact hend
    · simp [Issue.code] at hcode
    · simp [Issue.code] at hcode
  · rintro ⟨hi, hopen⟩
    refine ⟨.unexpectedLoopEnd, rfl, (mem_validate_errors_at hi (by simp)).mpr ?_⟩
    exact (unexpectedLoopEnd_mem_errors _).mpr ((isOpen_walkBefore hi).mpr hopen)

theorem unclosed_loop_iff :
    (∃ issue : Issue, issue.code = "unclosed_loop" ∧ ⟨issue, some n⟩ ∈ w.validate.errors) ↔
      n ∈ w.openLoops w.length := by
  constructor
  · rintro ⟨issue, hcode, h⟩
    obtain ⟨rfl, -⟩ | ⟨i, rfl, -⟩ | ⟨-, hopen⟩ := bracket_error_cases h (by rw [hcode]; decide)
    · simp [Issue.code] at hcode
    · simp [Issue.code] at hcode
    · exact hopen
  · exact fun hopen => ⟨.unclosedLoop, rfl, mem_validate_errors.mpr (.inr ⟨rfl, hopen⟩)⟩

theorem outside_loop_iff :
    (∃ issue : Issue, issue.code = "outside_loop" ∧ ⟨issue, some n⟩ ∈ w.validate.errors) ↔
      (∃ i, w[n]? = some i ∧ i.isLoopScoped = true) ∧ w.openLoops n = [] := by
  constructor
  · rintro ⟨issue, hcode, h⟩
    obtain ⟨rfl, -⟩ | ⟨i, -, hi, hscoped, hopen⟩ | ⟨rfl, -⟩ :=
      bracket_error_cases h (by rw [hcode]; decide)
    · simp [Issue.code] at hcode
    · exact ⟨⟨i, hi, hscoped⟩, hopen⟩
    · simp [Issue.code] at hcode
  · rintro ⟨⟨i, hi, hscoped⟩, hopen⟩
    refine ⟨.outsideLoop i.kind, rfl, (mem_validate_errors_at hi (by simp)).mpr ?_⟩
    exact (outsideLoop_mem_errors _ hscoped).mpr ((isOpen_walkBefore hi).mpr hopen)

/-! ## Brackets judged -/

/-- Validation finds no lone bracket just in the workflows of the grammar; it reports the `loopEnd`s
and the loops without a partner, each once, and the loop-scoped instructions before which every loop
has its partner; and a run finds the partner of a loop, or none if it is reported. -/
theorem brackets_judged (w : Workflow) :
    ((∀ problem ∈ w.validate.errors ++ w.validate.warnings,
        problem.issue.code ≠ "unexpected_loop_end" ∧ problem.issue.code ≠ "unclosed_loop") ↔
      ∃ b : Block, b.flatten = w) ∧
    w.validate.ErrorsAt "unexpected_loop_end"
      (fun m => w[m]? = some .loopEnd ∧ ∀ l, ¬ w.Partners l m) ∧
    w.validate.ErrorsAt "unclosed_loop" (fun l => w.IsLoop l ∧ ∀ m, ¬ w.Partners l m) ∧
    w.validate.ErrorsAt "outside_loop" (fun n => (∃ i, w[n]? = some i ∧ i.isLoopScoped = true) ∧
      ∀ l < n, w.IsLoop l → ∃ m < n, w.Partners l m) ∧
    ∀ l, w.IsLoop l → (∀ m, w.matchingEnd? l = some m ↔ w.Partners l m) ∧
      (w.matchingEnd? l = none ↔
        ∃ issue : Issue, issue.code = "unclosed_loop" ∧ ⟨issue, some l⟩ ∈ w.validate.errors) := by
  have hunexpected : w.validate.ErrorsAt "unexpected_loop_end"
      (fun m => w[m]? = some .loopEnd ∧ ∀ l, ¬ w.Partners l m) :=
    validate_errorsAt (by decide) fun m =>
      (and_congr_right no_partner_iff).trans unexpected_loop_end_iff.symm
  have hunclosed : w.validate.ErrorsAt "unclosed_loop"
      (fun l => w.IsLoop l ∧ ∀ m, ¬ w.Partners l m) :=
    validate_errorsAt (by decide) fun l =>
      mem_openLoops_length_iff.symm.trans unclosed_loop_iff.symm
  have houtside : w.validate.ErrorsAt "outside_loop"
      (fun n => (∃ i, w[n]? = some i ∧ i.isLoopScoped = true) ∧
        ∀ l < n, w.IsLoop l → ∃ m < n, w.Partners l m) := by
    refine validate_errorsAt (by decide) fun n =>
      (and_congr_right ?_).trans outside_loop_iff.symm
    rintro ⟨i, hi, -⟩
    obtain ⟨hlt, -⟩ := List.getElem?_eq_some_iff.mp hi
    exact (openLoops_eq_nil_iff (Nat.le_of_lt hlt)).symm
  refine ⟨?_, hunexpected, hunclosed, houtside, fun l hl =>
    ⟨fun m => matchingEnd?_eq_some_iff hl, ?_⟩⟩
  · rw [forall₂_and, hunexpected.forall_code_ne_iff, hunclosed.forall_code_ne_iff, exists_block_iff]
    push Not
    rfl
  · rw [matchingEnd?_eq_none_iff hl, unclosed_loop_iff, mem_openLoops_length_iff]
    exact (and_iff_right hl).symm

/-- A `loopEnd` without a loop, a loop in a loop, and a loop that is never closed around one that
is. -/
theorem brackets_judged_malformed :
    let w : Workflow := [.loopEnd, .loop 2 0, .loop 1 5, .loopEnd, .loopEnd, .loopLoad "b",
      .loop 3 0, .loop 0 1, .crop, .loopEnd]
    w.IsLoop 1 ∧ w.Partners 1 4 ∧ w.IsLoop 6 ∧ (∀ m, ¬ w.Partners 6 m) ∧
      (∀ l, ¬ w.Partners l 0) ∧ ¬ ∃ b : Block, b.flatten = w := by
  intro w
  obtain ⟨hgrammar, hends, -, -, hpartners⟩ := brackets_judged w
  have hclosed : w.IsLoop 1 := ⟨2, 0, rfl⟩
  have hunclosed : w.IsLoop 6 := ⟨3, 0, rfl⟩
  have hlone : (⟨.unexpectedLoopEnd, some 0⟩ : Located) ∈
      w.validate.errors ++ w.validate.warnings :=
    List.mem_append_left _ List.mem_cons_self
  refine ⟨hclosed, ((hpartners 1 hclosed).1 4).mp rfl, hunclosed, fun m hm => ?_, ?_, fun hw => ?_⟩
  · cases ((hpartners 6 hunclosed).1 m).mpr hm
  · obtain ⟨-, indices, -, hmem, hindices⟩ := hends
    have hfirst : some 0 ∈ indices.map some := hindices ▸ List.mem_cons_self
    exact ((hmem 0).mp ((List.mem_map_of_injective (Option.some_injective Nat)).mp hfirst)).2
  · exact (hgrammar.mpr hw _ hlone).1 rfl

end Workflow

end ImageWorkflow
