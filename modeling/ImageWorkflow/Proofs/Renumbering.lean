import Mathlib
import ImageWorkflow.Engine.Run
import ImageWorkflow.Proofs.Brackets
import ImageWorkflow.Proofs.Walk

/-!
# Workflows that some instructions are left out of

* `Workflow.without w gone` : the workflow without the instructions at the indices in `gone`;
  `keptBefore gone n` : the index that `n` has in it;
* `Workflow.drop_keptBefore`, `Workflow.getElem?_without` : the instructions that are kept, under
  their new indices;
* `Workflow.matchingEnd?_without`, `Workflow.needsProvider_without`, `Workflow.errors_without` : when
  only magic prompts are left out, loops end at the same instructions, the provider is needed as
  before, and validation finds the same errors.
-/

namespace ImageWorkflow

/-- How many indices below `n` are kept. -/
def keptBefore (gone : Nat → Bool) (n : Nat) : Nat := Nat.count (fun index => gone index = false) n

variable {gone : Nat → Bool} {index n m : Nat} {i : Instruction}

theorem keptBefore_zero (gone : Nat → Bool) : keptBefore gone 0 = 0 := Nat.count_zero _

theorem keptBefore_succ_of_kept (h : gone n = false) :
    keptBefore gone (n + 1) = keptBefore gone n + 1 :=
  Nat.count_succ_eq_succ_count h

theorem keptBefore_succ_of_gone (h : gone n = true) :
    keptBefore gone (n + 1) = keptBefore gone n :=
  Nat.count_succ_eq_count (by simp [h])

theorem keptBefore_mono (h : n ≤ m) : keptBefore gone n ≤ keptBefore gone m :=
  Nat.count_monotone _ h

/-- Different indices that are kept stay different. -/
theorem keptBefore_inj (hn : gone n = false) (hm : gone m = false) :
    keptBefore gone n = keptBefore gone m ↔ n = m :=
  ⟨Nat.count_injective hn hm, congrArg _⟩

namespace Workflow
variable {w u : Workflow}

/-- The instructions from index `index` on, without those that are gone. -/
def withoutFrom (gone : Nat → Bool) (index : Nat) : Workflow → Workflow
  | [] => []
  | i :: rest =>
    if gone index then withoutFrom gone (index + 1) rest
    else i :: withoutFrom gone (index + 1) rest

/-- The workflow without the instructions at the indices in `gone`. -/
def without (w : Workflow) (gone : Nat → Bool) : Workflow := withoutFrom gone 0 w

/-- Of the instructions from index `index` on only magic prompts are gone. -/
def OnlyMagic (gone : Nat → Bool) (index : Nat) (u : Workflow) : Prop :=
  ∀ n i, u[n]? = some i → gone (index + n) = true → i.kind = .xlMagic

/-! ## Under their new indices -/

theorem withoutFrom_of_gone (h : gone index = true) (i : Instruction) (rest : Workflow) :
    withoutFrom gone index (i :: rest) = withoutFrom gone (index + 1) rest := if_pos h

theorem withoutFrom_of_kept (h : gone index = false) (i : Instruction) (rest : Workflow) :
    withoutFrom gone index (i :: rest) = i :: withoutFrom gone (index + 1) rest :=
  if_neg (by simp [h])

theorem length_withoutFrom (gone : Nat → Bool) (index : Nat) (u : Workflow) :
    keptBefore gone index + (withoutFrom gone index u).length =
      keptBefore gone (index + u.length) := by
  induction u generalizing index with
  | nil => rfl
  | cons i rest ih =>
    have hlength : index + (i :: rest).length = index + 1 + rest.length := by
      rw [List.length_cons]
      omega
    rw [hlength, ← ih]
    cases h : gone index with
    | true => rw [withoutFrom_of_gone h, keptBefore_succ_of_gone h]
    | false =>
      rw [withoutFrom_of_kept h, keptBefore_succ_of_kept h, List.length_cons]
      omega

theorem length_without (w : Workflow) (gone : Nat → Bool) :
    (w.without gone).length = keptBefore gone w.length := by
  have h := length_withoutFrom gone 0 w
  rwa [keptBefore_zero, Nat.zero_add, Nat.zero_add] at h

theorem drop_keptBefore (w : Workflow) (gone : Nat → Bool) (n : Nat) :
    (w.without gone).drop (keptBefore gone n) = withoutFrom gone n (w.drop n) := by
  induction n with
  | zero => rw [keptBefore_zero]; rfl
  | succ n ih =>
    cases hdrop : w.drop n with
    | nil =>
      have hw : w.drop (n + 1) = [] := by rw [← List.tail_drop, hdrop]; rfl
      rw [hdrop] at ih
      rw [hw]
      exact List.drop_eq_nil_of_le
        ((List.drop_eq_nil_iff.mp ih).trans (keptBefore_mono (Nat.le_succ n)))
    | cons i rest =>
      obtain ⟨-, hrest⟩ := head_of_drop hdrop
      rw [hdrop] at ih
      rw [hrest]
      cases h : gone n with
      | true => rw [keptBefore_succ_of_gone h, ih, withoutFrom_of_gone h]
      | false =>
        rw [keptBefore_succ_of_kept h, ← List.tail_drop, ih, withoutFrom_of_kept h]
        rfl

/-- What is kept is there under its new index. -/
theorem getElem?_without (h : gone n = false) : (w.without gone)[keptBefore gone n]? = w[n]? := by
  rw [← List.head?_drop, ← List.head?_drop, drop_keptBefore]
  cases w.drop n with
  | nil => rfl
  | cons i rest => rw [withoutFrom_of_kept h]; rfl

/-- Past the end there is nothing left. -/
theorem getElem?_without_of_none (h : w[n]? = none) :
    (w.without gone)[keptBefore gone n]? = none := by
  rw [List.getElem?_eq_none_iff] at h ⊢
  rw [length_without]
  exact keptBefore_mono h

/-! ## Only magic prompts are left out -/

theorem onlyMagic_cons {rest : Workflow} : OnlyMagic gone index (i :: rest) ↔
    (gone index = true → i.kind = .xlMagic) ∧ OnlyMagic gone (index + 1) rest := by
  constructor
  · intro h
    refine ⟨h 0 i rfl, fun n j hj hgone => h (n + 1) j hj ?_⟩
    rwa [show index + (n + 1) = index + 1 + n by omega]
  · rintro ⟨hi, hrest⟩ (- | n) j hj hgone
    · cases hj
      exact hi hgone
    · exact hrest n j hj (by rwa [show index + 1 + n = index + (n + 1) by omega])

theorem OnlyMagic.drop (h : OnlyMagic gone 0 w) (n : Nat) : OnlyMagic gone n (w.drop n) := by
  intro m i hi hgone
  rw [List.getElem?_drop] at hi
  exact h (n + m) i hi (by rwa [Nat.zero_add])

theorem OnlyMagic.kind (h : OnlyMagic gone 0 w) (hi : w[n]? = some i) (hgone : gone n = true) :
    i.kind = .xlMagic :=
  h n i hi (by rwa [Nat.zero_add])

/-- What is no magic prompt is kept. -/
theorem OnlyMagic.kept (h : OnlyMagic gone 0 w) (hi : w[n]? = some i) (hkind : i.kind ≠ .xlMagic) :
    gone n = false :=
  Bool.eq_false_iff.mpr fun hgone => hkind (h.kind hi hgone)

theorem closingEnd?_withoutFrom (h : OnlyMagic gone index u) (depth : Nat) :
    closingEnd? depth (keptBefore gone index) (withoutFrom gone index u) =
      (closingEnd? depth index u).map (keptBefore gone) := by
  induction u generalizing index depth with
  | nil => rfl
  | cons i rest ih =>
    obtain ⟨hi, hrest⟩ := onlyMagic_cons.mp h
    cases hgone : gone index with
    | true =>
      have hbracket : i.isBracket = false := by
        have := hi hgone
        cases i <;> first | rfl | cases this
      rw [withoutFrom_of_gone hgone, ← keptBefore_succ_of_gone hgone, ih hrest,
        closingEnd?_of_not_isBracket hbracket]
    | false =>
      have hnext (depth : Nat) := ih hrest depth
      rw [keptBefore_succ_of_kept hgone] at hnext
      rw [withoutFrom_of_kept hgone]
      obtain hbracket | ⟨count, start, rfl⟩ | rfl := i.bracket_cases
      · rw [closingEnd?_of_not_isBracket hbracket, closingEnd?_of_not_isBracket hbracket, hnext]
      · exact hnext (depth + 1)
      · cases depth with
        | zero => rfl
        | succ depth => exact hnext depth

/-- A loop ends at the same instruction. -/
theorem matchingEnd?_without (h : OnlyMagic gone 0 w) (hn : gone n = false) :
    (w.without gone).matchingEnd? (keptBefore gone n) =
      (w.matchingEnd? n).map (keptBefore gone) := by
  rw [matchingEnd?, ← keptBefore_succ_of_kept hn, drop_keptBefore,
    closingEnd?_withoutFrom (h.drop (n + 1)), matchingEnd?]

theorem any_withoutFrom (h : OnlyMagic gone index u) {p : Instruction → Bool}
    (hp : ∀ i : Instruction, i.kind = .xlMagic → p i = false) :
    (withoutFrom gone index u).any p = u.any p := by
  induction u generalizing index with
  | nil => rfl
  | cons i rest ih =>
    obtain ⟨hi, hrest⟩ := onlyMagic_cons.mp h
    cases hgone : gone index with
    | true => rw [withoutFrom_of_gone hgone, ih hrest, List.any_cons, hp i (hi hgone), Bool.false_or]
    | false => rw [withoutFrom_of_kept hgone, List.any_cons, List.any_cons, ih hrest]

/-- The provider is needed as before. -/
theorem needsProvider_without (h : OnlyMagic gone 0 w) :
    Run.needsProvider (w.without gone) = Run.needsProvider w :=
  any_withoutFrom h fun i hi => by cases i <;> first | rfl | cases hi

end Workflow

/-! ## Validation -/

/-- A problem under its new index. -/
def Located.renumber (gone : Nat → Bool) (l : Located) : Located :=
  { l with index := l.index.map (keptBefore gone) }

namespace Walk
variable {v : Walk}

/-- What the walk knows, with the new indices of open loops. -/
def renumber (gone : Nat → Bool) (v : Walk) : Walk :=
  { v with openLoops := v.openLoops.map fun l => { l with index := keptBefore gone l.index } }

theorem setGenerated_renumber (v : Walk) (generated : Bool) :
    (v.setGenerated generated).renumber gone = (v.renumber gone).setGenerated generated := by
  unfold setGenerated
  cases hloops : v.openLoops with
  | nil => simp [renumber, hloops]
  | cons l outer => simp [renumber, hloops]

theorem next_renumber (v : Walk) (index : Nat) (i : Instruction) :
    (v.next index i).renumber gone = (v.renumber gone).next (keptBefore gone index) i := by
  cases i with
  | prompt text => exact setGenerated_renumber _ _
  | generate | canvasSave | loopSave => exact setGenerated_renumber _ _
  | loopEnd => simp [next, renumber, List.map_tail]
  | _ => rfl

theorem errors_renumber (v : Walk) (i : Instruction) : (v.renumber gone).errors i = v.errors i := by
  have hopen : (v.renumber gone).openLoops.isEmpty = v.openLoops.isEmpty := List.isEmpty_map
  unfold errors
  rw [hopen]
  rfl

theorem next_of_xlMagic (hi : i.kind = .xlMagic) (v : Walk) (index : Nat) : v.next index i = v := by
  cases i <;> first | rfl | cases hi

theorem errors_of_xlMagic (hi : i.kind = .xlMagic) (v : Walk) : v.errors i = [] := by
  cases i <;> first | rfl | cases hi

end Walk

namespace Workflow
variable {w u : Workflow}

theorem walk_withoutFrom (h : OnlyMagic gone index u) (v : Walk) :
    (walk (v.renumber gone) (keptBefore gone index) (withoutFrom gone index u)).1 =
      (walk v index u).1.renumber gone := by
  induction u generalizing index v with
  | nil => rfl
  | cons i rest ih =>
    obtain ⟨hi, hrest⟩ := onlyMagic_cons.mp h
    have hnext := ih hrest (v.next index i)
    cases hgone : gone index with
    | true =>
      rw [keptBefore_succ_of_gone hgone, Walk.next_of_xlMagic (hi hgone)] at hnext
      rw [withoutFrom_of_gone hgone, hnext, walk, Walk.next_of_xlMagic (hi hgone)]
    | false =>
      rw [keptBefore_succ_of_kept hgone, Walk.next_renumber] at hnext
      rw [withoutFrom_of_kept hgone]
      exact hnext

theorem findings_withoutFrom (h : OnlyMagic gone index u) (v : Walk) :
    findings Walk.errors (v.renumber gone) (keptBefore gone index) (withoutFrom gone index u) =
      (findings Walk.errors v index u).map (·.renumber gone) := by
  induction u generalizing index v with
  | nil => rfl
  | cons i rest ih =>
    obtain ⟨hi, hrest⟩ := onlyMagic_cons.mp h
    have hnext := ih hrest (v.next index i)
    cases hgone : gone index with
    | true =>
      rw [keptBefore_succ_of_gone hgone, Walk.next_of_xlMagic (hi hgone)] at hnext
      rw [withoutFrom_of_gone hgone, hnext, findings, Walk.errors_of_xlMagic (hi hgone),
        Walk.next_of_xlMagic (hi hgone)]
      rfl
    | false =>
      rw [keptBefore_succ_of_kept hgone, Walk.next_renumber] at hnext
      rw [withoutFrom_of_kept hgone, findings, findings, hnext, Walk.errors_renumber,
        List.map_append, List.map_map]
      rfl

/-- Validation finds the same errors. -/
theorem errors_without (h : OnlyMagic gone 0 w) :
    (w.without gone).validate.errors = w.validate.errors.map (·.renumber gone) := by
  have hwalk := walk_withoutFrom h {}
  have hfindings := findings_withoutFrom h {}
  rw [keptBefore_zero] at hwalk hfindings
  have hstart : ({} : Walk).renumber gone = {} := rfl
  rw [hstart] at hwalk hfindings
  simp only [validate, walk_errors, without, hwalk, hfindings, List.map_append, List.map_reverse,
    List.map_map, Walk.renumber]
  rfl

theorem isValid_without (h : OnlyMagic gone 0 w) :
    (w.without gone).validate.isValid = w.validate.isValid := by
  rw [Report.isValid, errors_without h, List.isEmpty_map, Report.isValid]

end Workflow

end ImageWorkflow
