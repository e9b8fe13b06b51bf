import Mathlib
import ImageWorkflow.Workflow.Loops

/-!
# Brackets of a workflow

The loops that are open before an index, as the index moves through the workflow.
* `openLoops_succ` : one instruction further;
* `exists_loop_of_mem`, `lt_of_mem`, `nodup_openLoops` : an open loop is a `loop` further up, and is
  open once;
* `mem_openLoops_of_le` : a loop that is open at an index was open all the way from its start;
* `MatchedAt` : where a loop ends, and what is open there (`matchedAt_of_matchingEnd`); a loop
  without an end stays open (`mem_openLoops_of_unmatched`).
-/

namespace ImageWorkflow

/-- The two instructions that open and close loops. -/
def Instruction.isBracket : Instruction → Bool
  | .loop .. | .loopEnd => true
  | _ => false

theorem Instruction.bracket_cases (i : Instruction) :
    i.isBracket = false ∨ (∃ count start, i = .loop count start) ∨ i = .loopEnd := by
  cases i <;> simp [isBracket]

namespace Workflow

variable {w : Workflow} {l n m j : Nat} {i : Instruction}

/-! ## One instruction further -/

theorem openLoopsFrom_append (opened : List Nat) (index : Nat) (u v : Workflow) :
    openLoopsFrom opened index (u ++ v) =
      openLoopsFrom (openLoopsFrom opened index u) (index + u.length) v := by
  induction u generalizing opened index with
  | nil => rfl
  | cons i u ih =>
    rw [List.cons_append, openLoopsFrom, openLoopsFrom, ih, List.length_cons]
    congr 1
    omega

@[simp] theorem openLoops_zero (w : Workflow) : w.openLoops 0 = [] := by
  simp [openLoops, openLoopsFrom]

theorem openLoops_succ (h : w[n]? = some i) :
    w.openLoops (n + 1) = stepOpenLoops (w.openLoops n) n i := by
  obtain ⟨hn, -⟩ := List.getElem?_eq_some_iff.mp h
  rw [openLoops, List.take_add_one, h, openLoopsFrom_append, List.length_take,
    Nat.min_eq_left (Nat.le_of_lt hn), Nat.zero_add]
  rfl

theorem openLoops_succ_of_none (h : w[n]? = none) : w.openLoops (n + 1) = w.openLoops n := by
  rw [openLoops, List.take_add_one, h]
  simp [openLoops]

theorem stepOpenLoops_of_not_isBracket (h : i.isBracket = false) (opened : List Nat) :
    stepOpenLoops opened n i = opened := by
  cases i <;> first | rfl | cases h

theorem openLoops_succ_of_not_isBracket (h : w[n]? = some i) (hi : i.isBracket = false) :
    w.openLoops (n + 1) = w.openLoops n := by
  rw [openLoops_succ h, stepOpenLoops_of_not_isBracket hi]

theorem openLoops_succ_loop {count start : Int} (h : w[n]? = some (.loop count start)) :
    w.openLoops (n + 1) = n :: w.openLoops n := by
  rw [openLoops_succ h]
  rfl

theorem openLoops_succ_loopEnd (h : w[n]? = some .loopEnd) :
    w.openLoops (n + 1) = (w.openLoops n).tail := by
  rw [openLoops_succ h]
  rfl

/-- A loop that is open one instruction further starts here or was open before. -/
theorem mem_openLoops_succ (h : l ∈ w.openLoops (n + 1)) :
    l ∈ w.openLoops n ∨ l = n ∧ ∃ count start, w[n]? = some (.loop count start) := by
  cases hi : w[n]? with
  | none => rw [openLoops_succ_of_none hi] at h; exact Or.inl h
  | some i =>
    rcases i.bracket_cases with hb | ⟨count, start, rfl⟩ | rfl
    · rw [openLoops_succ_of_not_isBracket hi hb] at h
      exact Or.inl h
    · rw [openLoops_succ_loop hi] at h
      rcases List.mem_cons.mp h with rfl | h
      · exact Or.inr ⟨rfl, count, start, rfl⟩
      · exact Or.inl h
    · rw [openLoops_succ_loopEnd hi] at h
      exact Or.inl (List.mem_of_mem_tail h)

/-! ## What is open -/

theorem exists_loop_of_mem (h : l ∈ w.openLoops n) :
    l < n ∧ ∃ count start, w[l]? = some (.loop count start) := by
  induction n with
  | zero => simp at h
  | succ n ih =>
    rcases mem_openLoops_succ h with h | ⟨rfl, h⟩
    · exact ⟨Nat.lt_succ_of_lt (ih h).1, (ih h).2⟩
    · exact ⟨Nat.lt_succ_self _, h⟩

theorem lt_of_mem (h : l ∈ w.openLoops n) : l < n := (exists_loop_of_mem h).1

theorem not_mem_openLoops_self (w : Workflow) (n : Nat) : n ∉ w.openLoops n :=
  fun h => Nat.lt_irrefl n (lt_of_mem h)

theorem nodup_openLoops (w : Workflow) (n : Nat) : (w.openLoops n).Nodup := by
  induction n with
  | zero => simp
  | succ n ih =>
    cases hi : w[n]? with
    | none => rwa [openLoops_succ_of_none hi]
    | some i =>
      rcases i.bracket_cases with hb | ⟨count, start, rfl⟩ | rfl
      · rwa [openLoops_succ_of_not_isBracket hi hb]
      · rw [openLoops_succ_loop hi]
        exact List.nodup_cons.mpr ⟨not_mem_openLoops_self w n, ih⟩
      · rw [openLoops_succ_loopEnd hi]
        exact ih.sublist (List.tail_sublist _)

/-- A loop that is open was open all the way from its start. -/
theorem mem_openLoops_of_le (h : l ∈ w.openLoops j) (hl : l < n) (hn : n ≤ j) :
    l ∈ w.openLoops n := by
  induction j with
  | zero => simp at h
  | succ j ih =>
    rcases Nat.lt_or_eq_of_le hn with hn | rfl
    · have hj : n ≤ j := Nat.le_of_lt_succ hn
      rcases mem_openLoops_succ h with h | ⟨rfl, -⟩
      · exact ih h hj
      · omega
    · exact h

/-- Below an open loop are the loops that were open where it starts. -/
theorem openLoops_of_eq_append {outer : List Nat} (inner : List Nat)
    (h : w.openLoops n = inner ++ l :: outer) : w.openLoops l = outer := by
  induction n generalizing inner with
  | zero => simp at h
  | succ n ih =>
    cases hi : w[n]? with
    | none => exact ih inner (by rw [← h, openLoops_succ_of_none hi])
    | some i =>
      rcases i.bracket_cases with hb | ⟨count, start, rfl⟩ | rfl
      · exact ih inner (by rw [← h, openLoops_succ_of_not_isBracket hi hb])
      · rw [openLoops_succ_loop hi] at h
        cases inner with
        | nil =>
          obtain ⟨rfl, ho⟩ := List.cons.inj h
          exact ho
        | cons a inner => exact ih inner (List.cons.inj h).2
      · rw [openLoops_succ_loopEnd hi] at h
        cases ho : w.openLoops n with
        | nil => rw [ho] at h; simp at h
        | cons a opened =>
          rw [ho, List.tail_cons] at h
          exact ih (a :: inner) (by rw [ho, h, List.cons_append])

/-! ## Where a loop ends -/

/-- `m` closes the loop at `l`: what is open there is the loop and what was open before it. -/
structure MatchedAt (w : Workflow) (l m : Nat) : Prop where
  lt : l < m
  isEnd : w[m]? = some .loopEnd
  opened : w.openLoops m = l :: w.openLoops l

theorem MatchedAt.openLoops_succ (h : w.MatchedAt l m) : w.openLoops (m + 1) = w.openLoops l := by
  rw [openLoops_succ_loopEnd h.isEnd, h.opened]
  rfl

theorem head_of_drop {rest : Workflow} (h : w.drop n = i :: rest) :
    w[n]? = some i ∧ w.drop (n + 1) = rest := by
  constructor
  · have := congrArg List.head? h
    rwa [List.head?_drop, List.head?_cons] at this
  · rw [← List.tail_drop, h, List.tail_cons]

theorem closingEnd?_of_not_isBracket (hi : i.isBracket = false) (depth index : Nat)
    (rest : Workflow) :
    closingEnd? depth index (i :: rest) = closingEnd? depth (index + 1) rest := by
  cases i <;> first | rfl | cases hi

/-- The loops above `opened` that are still open number `depth` where the search begins. -/
theorem closingEnd?_eq_some {opened : List Nat} (inner : List Nat) {depth : Nat}
    (h : closingEnd? depth n (w.drop n) = some m) (ho : w.openLoops n = inner ++ opened)
    (hd : inner.length = depth) :
    n ≤ m ∧ w[m]? = some .loopEnd ∧ w.openLoops m = opened := by
  generalize hr : w.drop n = rest at h
  induction rest generalizing n depth inner with
  | nil => simp [closingEnd?] at h
  | cons i rest ih =>
    obtain ⟨hi, hrest⟩ := head_of_drop hr
    rcases i.bracket_cases with hb | ⟨count, start, rfl⟩ | rfl
    · rw [closingEnd?_of_not_isBracket hb] at h
      obtain ⟨h1, h2⟩ := ih inner (by rw [openLoops_succ_of_not_isBracket hi hb, ho]) hd hrest h
      exact ⟨by omega, h2⟩
    · obtain ⟨h1, h2⟩ := ih (n :: inner)
        (by rw [openLoops_succ_loop hi, ho, List.cons_append]) (by simp [hd]) hrest h
      exact ⟨by omega, h2⟩
    · cases inner with
      | nil =>
        obtain rfl : depth = 0 := hd.symm
        obtain rfl : n = m := Option.some.inj h
        exact ⟨Nat.le_refl _, hi, ho⟩
      | cons a inner =>
        obtain rfl : inner.length + 1 = depth := hd
        obtain ⟨h1, h2⟩ := ih inner
          (by rw [openLoops_succ_loopEnd hi, ho]; rfl) rfl hrest h
        exact ⟨by omega, h2⟩

theorem matchedAt_of_matchingEnd {count start : Int} (hl : w[l]? = some (.loop count start))
    (h : w.matchingEnd? l = some m) : w.MatchedAt l m := by
  obtain ⟨h1, h2, h3⟩ := closingEnd?_eq_some [] h (openLoops_succ_loop hl) rfl
  exact ⟨h1, h2, h3⟩

theorem closingEnd?_eq_none {opened : List Nat} (inner : List Nat) {depth : Nat}
    (h : closingEnd? depth n (w.drop n) = none) (ho : w.openLoops n = inner ++ opened)
    (hd : inner.length = depth) : ∃ inner', w.openLoops w.length = inner' ++ opened := by
  generalize hr : w.drop n = rest at h
  induction rest generalizing n depth inner with
  | nil =>
    have hn : w.length ≤ n := List.drop_eq_nil_iff.mp hr
    refine ⟨inner, ?_⟩
    rw [← ho, openLoops, openLoops, List.take_of_length_le hn, List.take_length]
  | cons i rest ih =>
    obtain ⟨hi, hrest⟩ := head_of_drop hr
    rcases i.bracket_cases with hb | ⟨count, start, rfl⟩ | rfl
    · rw [closingEnd?_of_not_isBracket hb] at h
      exact ih inner (by rw [openLoops_succ_of_not_isBracket hi hb, ho]) hd hrest h
    · exact ih (n :: inner)
        (by rw [openLoops_succ_loop hi, ho, List.cons_append]) (by simp [hd]) hrest h
    · cases inner with
      | nil =>
        obtain rfl : depth = 0 := hd.symm
        cases h
      | cons a inner =>
        obtain rfl : inner.length + 1 = depth := hd
        exact ih inner (by rw [openLoops_succ_loopEnd hi, ho]; rfl) rfl hrest h

/-- A loop without an end is open all the way to the last instruction. -/
theorem mem_openLoops_of_unmatched {count start : Int} (hl : w[l]? = some (.loop count start))
    (h : w.matchingEnd? l = none) (hj : l < j) (hjw : j ≤ w.length) : l ∈ w.openLoops j := by
  obtain ⟨inner, hi⟩ := closingEnd?_eq_none [] h (openLoops_succ_loop hl) rfl
  exact mem_openLoops_of_le (by rw [hi]; simp) hj hjw

end Workflow

end ImageWorkflow
