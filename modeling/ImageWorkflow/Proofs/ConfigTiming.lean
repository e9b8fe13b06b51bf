import Mathlib
import ImageWorkflow.Proofs.Walk

/-!
# Configs that come too late

Validation warns of a config that follows a generation in the body of its loop before the next
prompt there.  It keeps a mark with each open loop; here the mark is read off what came before.
* `Workflow.InnermostAt w l n` : the innermost loop open before index `n` is the one at `l`;
* `Workflow.GeneratedIn w l n` : before `n` stands a trigger directly in the loop at `l`, no prompt
  directly in it after that; `Workflow.generatedIn_succ` : one instruction further;
* `Workflow.generated_walkBefore` : the mark of every open loop says just that;
* `Report.WarningsAt r code P` : the problems with a code are warnings at the indices with `P`, one
  at each; `Workflow.late_configs_reported` : so are those about late configs.
-/

namespace ImageWorkflow

namespace Workflow
variable {w : Workflow} {l n : Nat} {i : Instruction}

/-! ## What came before -/

/-- The innermost loop that is open before index `n` is the one at `l`. -/
def InnermostAt (w : Workflow) (l n : Nat) : Prop := (w.openLoops n).head? = some l

/-- There is a trigger before `n` directly in the loop at `l`, and no prompt directly in that loop
between them. -/
def GeneratedIn (w : Workflow) (l n : Nat) : Prop :=
  ∃ j < n, w.InnermostAt l j ∧ (∃ i, w[j]? = some i ∧ i.isTrigger = true) ∧
    ∀ k, j < k → k < n → w.InnermostAt l k → ∀ text, w[k]? ≠ some (.prompt text)

theorem not_generatedIn_start (w : Workflow) (l : Nat) : ¬ w.GeneratedIn l (l + 1) := by
  rintro ⟨j, hj, hin, -⟩
  have := lt_of_mem (List.mem_of_mem_head? hin)
  omega

/-- One instruction further: a trigger directly in the loop is one more, a prompt ends them all. -/
theorem generatedIn_succ (hi : w[n]? = some i) : w.GeneratedIn l (n + 1) ↔
    (w.InnermostAt l n ∧ i.isTrigger = true) ∨
      (w.GeneratedIn l n ∧ ¬ (w.InnermostAt l n ∧ ∃ text, i = .prompt text)) := by
  constructor
  · rintro ⟨j, hj, hin, ⟨t, ht, htrigger⟩, hnone⟩
    obtain hlt | rfl := Nat.lt_succ_iff_lt_or_eq.mp hj
    · refine .inr ⟨⟨j, hlt, hin, ⟨t, ht, htrigger⟩, fun k hjk hk => hnone k hjk (by omega)⟩, ?_⟩
      rintro ⟨hn, text, rfl⟩
      exact hnone n hlt (Nat.lt_succ_self n) hn text hi
    · obtain rfl : i = t := Option.some.inj (hi.symm.trans ht)
      exact .inl ⟨hin, htrigger⟩
  · rintro (⟨hin, htrigger⟩ | ⟨⟨j, hj, hin, htrigger, hnone⟩, hprompt⟩)
    · exact ⟨n, Nat.lt_succ_self n, hin, ⟨i, hi, htrigger⟩, fun k hnk hk => by omega⟩
    · refine ⟨j, Nat.lt_succ_of_lt hj, hin, htrigger, fun k hjk hk hk' text htext => ?_⟩
      obtain hlt | rfl := Nat.lt_succ_iff_lt_or_eq.mp hk
      · exact hnone k hjk hlt hk' text htext
      · exact hprompt ⟨hk', text, Option.some.inj (hi.symm.trans htext)⟩

/-- Instructions that are neither triggers nor prompts make no difference. -/
theorem generatedIn_succ_of_other (hi : w[n]? = some i) (htrigger : i.isTrigger = false)
    (hprompt : ∀ text, i ≠ .prompt text) : w.GeneratedIn l (n + 1) ↔ w.GeneratedIn l n := by
  rw [generatedIn_succ hi]
  simp [htrigger, hprompt]

/-! ## The marks of validation -/

theorem innermostAt_iff (hn : n ≤ w.length) {inner : OpenLoop} {outer : List OpenLoop}
    (hopen : (w.walkBefore n).openLoops = inner :: outer) :
    w.InnermostAt l n ↔ inner.index = l := by
  rw [InnermostAt, ← openLoops_walkBefore hn, hopen, List.map_cons, List.head?_cons,
    Option.some.injEq]

/-- When the mark of the innermost loop is set anew, the others stay. -/
theorem setGenerated_marks {v : Walk} {generated : Bool} (hi : w[n]? = some i)
    (hv : v.openLoops = (w.walkBefore n).openLoops)
    (hmarks : ∀ o ∈ (w.walkBefore n).openLoops, o.generated = true ↔ w.GeneratedIn o.index n)
    (hinner : ∀ l, w.InnermostAt l n → (generated = true ↔ w.GeneratedIn l (n + 1)))
    (houter : ∀ l, ¬ w.InnermostAt l n → (w.GeneratedIn l (n + 1) ↔ w.GeneratedIn l n)) :
    ∀ o ∈ (v.setGenerated generated).openLoops,
      o.generated = true ↔ w.GeneratedIn o.index (n + 1) := by
  obtain ⟨hlt, -⟩ := List.getElem?_eq_some_iff.mp hi
  have hnodup := nodup_openLoops w n
  unfold Walk.setGenerated
  split
  · rename_i hopen
    rw [hopen]
    nofun
  · rename_i inner outer hopen
    rw [hv] at hopen
    rw [← openLoops_walkBefore hlt.le, hopen, List.map_cons, List.nodup_cons] at hnodup
    rw [hopen, List.forall_mem_cons] at hmarks
    refine List.forall_mem_cons.mpr
      ⟨hinner _ ((innermostAt_iff hlt.le hopen).mpr rfl), fun o ho => ?_⟩
    rw [houter o.index, hmarks.2 o ho]
    -- no loop is open twice, so a loop further out is not the innermost one
    intro hin
    rw [innermostAt_iff hlt.le hopen] at hin
    exact hnodup.1 (hin ▸ List.mem_map_of_mem ho)

/-- The mark of an open loop tells whether there is a generation after the last prompt directly in
it. -/
theorem generated_walkBefore (hn : n ≤ w.length) :
    ∀ o ∈ (w.walkBefore n).openLoops, o.generated = true ↔ w.GeneratedIn o.index n := by
  induction n with
  | zero => simp
  | succ n ih =>
    have hi : w[n]? = some w[n] := List.getElem?_eq_getElem hn
    have hmarks := ih (Nat.le_of_succ_le hn)
    rw [walkBefore_succ hi]
    generalize w[n] = i at hi
    cases i with
    | loop count start =>
      refine List.forall_mem_cons.mpr ⟨?_, fun o ho => ?_⟩
      · simp [not_generatedIn_start]
      · rw [hmarks o ho, generatedIn_succ_of_other hi rfl (by simp)]
    | loopEnd =>
      intro o ho
      rw [hmarks o (List.mem_of_mem_tail ho), generatedIn_succ_of_other hi rfl (by simp)]
    | prompt text =>
      refine setGenerated_marks hi rfl hmarks (fun l hin => ?_) fun l hout => ?_
      · simp [generatedIn_succ hi, hin, Instruction.isTrigger]
      · simp [generatedIn_succ hi, hout]
    | generate | canvasSave name | loopSave stem =>
      refine setGenerated_marks hi rfl hmarks (fun l hin => ?_) fun l hout => ?_
      · simp [generatedIn_succ hi, hin, Instruction.isTrigger]
      · simp [generatedIn_succ hi, hout]
    | _ =>
      intro o ho
      rw [hmarks o ho, generatedIn_succ_of_other hi rfl (by simp)]

/-! ## The warning -/

theorem code_eq_configAfterGeneration {issue : Issue} :
    issue.code = "config_after_generation" ↔ issue = .configAfterGeneration := by
  cases issue <;> simp [Issue.code]

theorem configAfterGeneration_notMem_errors (v : Walk) (i : Instruction) :
    .configAfterGeneration ∉ v.errors i := by
  unfold Walk.errors
  simp only [List.mem_append, not_or]
  refine ⟨⟨⟨?_, ?_⟩, ?_⟩, ?_⟩ <;> repeat' split
  all_goals simp

/-- At an instruction the warning is given once if it is a config and the innermost loop is marked,
and else not at all. -/
theorem filter_warnings (v : Walk) (i : Instruction) :
    (v.warnings i).filter (·.code = "config_after_generation") =
      if i.kind = .config ∧ v.openLoops.head?.any (·.generated) = true then
        [.configAfterGeneration]
      else [] := by
  cases i with
  | config settings =>
    simp only [Walk.warnings, Instruction.kind, Kind.support, reduceCtorEq, if_false,
      List.nil_append, true_and]
    cases v.openLoops with
    | nil => rfl
    | cons inner outer => cases hgenerated : inner.generated <;> simp [hgenerated, Issue.code]
  | loop | moodboardWeights =>
    simp only [Walk.warnings, Instruction.kind, Kind.support, reduceCtorEq, if_false,
      List.nil_append, false_and]
    split <;> simp [Issue.code]
  | xlMagic => simp [Walk.warnings, Instruction.kind, Kind.support, Issue.code]
  | _ => rfl

theorem length_filter_warnings_le (v : Walk) (i : Instruction) :
    ((v.warnings i).filter (·.code = "config_after_generation")).length ≤ 1 := by
  rw [filter_warnings]
  split <;> simp

theorem configAfterGeneration_mem_warnings (v : Walk) (i : Instruction) :
    .configAfterGeneration ∈ v.warnings i ↔ ∃ settings inner outer,
      i = .config settings ∧ v.openLoops = inner :: outer ∧ inner.generated = true := by
  have hfilter : .configAfterGeneration ∈ v.warnings i ↔
      .configAfterGeneration ∈ (v.warnings i).filter (·.code = "config_after_generation") := by
    simp [Issue.code]
  have hkind : i.kind = .config ↔ ∃ settings, i = .config settings := by
    cases i <;> simp [Instruction.kind]
  have hmarked : v.openLoops.head?.any (·.generated) = true ↔
      ∃ inner outer, v.openLoops = inner :: outer ∧ inner.generated = true := by
    cases v.openLoops <;> simp
  rw [hfilter, filter_warnings]
  split
  · rename_i hlate
    obtain ⟨settings, rfl⟩ := hkind.mp hlate.1
    obtain ⟨inner, outer, hopen, hgenerated⟩ := hmarked.mp hlate.2
    simp [hopen, hgenerated]
  · rename_i hlate
    refine iff_of_false (by simp) ?_
    rintro ⟨settings, inner, outer, rfl, hopen, hgenerated⟩
    exact hlate ⟨rfl, hmarked.mpr ⟨inner, outer, hopen, hgenerated⟩⟩

/-- The warning is given at the configs that stand directly in a loop behind a generation. -/
theorem late_config_iff :
    (∃ issue : Issue, issue.code = "config_after_generation" ∧
      ⟨issue, some n⟩ ∈ w.validate.warnings) ↔
    (∃ settings, w[n]? = some (.config settings)) ∧
      ∃ l, w.InnermostAt l n ∧ w.GeneratedIn l n := by
  simp only [code_eq_configAfterGeneration, exists_eq_left, mem_validate_warnings,
    configAfterGeneration_mem_warnings]
  constructor
  · rintro ⟨i, hi, settings, inner, outer, rfl, hopen, hgenerated⟩
    have hn := (List.getElem?_eq_some_iff.mp hi).1.le
    have hmark := generated_walkBefore hn inner (hopen ▸ List.mem_cons_self)
    exact ⟨⟨settings, hi⟩, inner.index, (innermostAt_iff hn hopen).mpr rfl, hmark.mp hgenerated⟩
  · rintro ⟨⟨settings, hi⟩, l, hin, hgenerated⟩
    have hn := (List.getElem?_eq_some_iff.mp hi).1.le
    cases hopen : (w.walkBefore n).openLoops with
    | nil => simp [InnermostAt, ← openLoops_walkBefore hn, hopen] at hin
    | cons inner outer =>
      obtain rfl := (innermostAt_iff hn hopen).mp hin
      have hmark := generated_walkBefore hn inner (hopen ▸ List.mem_cons_self)
      exact ⟨_, hi, settings, inner, outer, rfl, rfl, hmark.mpr hgenerated⟩

end Workflow

/-- The problems with a code are warnings at the indices with a property, one at each, in order. -/
def Report.WarningsAt (r : Report) (code : String) (P : Nat → Prop) : Prop :=
  (∀ error ∈ r.errors, error.issue.code ≠ code) ∧
    ∃ indices : List Nat, indices.Pairwise (· < ·) ∧ (∀ n, n ∈ indices ↔ P n) ∧
      (r.warnings.filter (·.issue.code = code)).map (·.index) = indices.map some

namespace Workflow

theorem code_ne_of_mem_errors (w : Workflow) :
    ∀ error ∈ w.validate.errors, error.issue.code ≠ "config_after_generation" := by
  intro error h hcode
  have hissue := code_eq_configAfterGeneration.mp hcode
  rw [validate_errors] at h
  rcases List.mem_append.mp h with h | h
  · refine forall_mem_findings (P := (· ≠ .configAfterGeneration)) ?_ {} 0 w error h hissue
    exact fun v i issue hmem heq => configAfterGeneration_notMem_errors v i (heq ▸ hmem)
  · obtain ⟨l, -, rfl⟩ := List.mem_map.mp h
    cases hissue

/-- Validation warns of a late config exactly at the configs inside a loop for which there is a
generation before directly in the innermost one, and no prompt directly in it since; once at
each. -/
theorem late_configs_reported (w : Workflow) :
    w.validate.WarningsAt "config_after_generation" fun n =>
      (∃ settings, w[n]? = some (.config settings)) ∧
        ∃ l, w.InnermostAt l n ∧ w.GeneratedIn l n := by
  obtain ⟨lacks, hwarnings, hlacks⟩ := exists_validate_warnings w
  obtain ⟨indices, hsorted, -, hindices⟩ := exists_indices_findings length_filter_warnings_le {} 0 w
  have hnone : lacks.filter (·.issue.code = "config_after_generation") = [] := by
    refine List.filter_eq_nil_iff.mpr fun lack h hcode => ?_
    have hmem := (hlacks lack h).2
    rw [of_decide_eq_true hcode] at hmem
    exact absurd hmem (by decide)
  have hall : (w.validate.warnings.filter
      (·.issue.code = "config_after_generation")).map (·.index) = indices.map some := by
    rw [hwarnings, List.filter_append, hnone, List.append_nil, hindices]
  exact ⟨code_ne_of_mem_errors w, indices, hsorted,
    fun n => (mem_indices_iff hall).trans late_config_iff, hall⟩

end Workflow

end ImageWorkflow
