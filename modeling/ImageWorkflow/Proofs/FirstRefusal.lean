import Mathlib
import ImageWorkflow.Proofs.Decoding

/-!
# Two ways to read a list of items

Reading a workflow stops at the first item that is refused, as files are read; validation goes on
and reports every item that is, as the service does.
* `Workflow.FirstRefused items k error` : the item at `k` is refused for `error`, and none before
  it; `FirstRefused.stops` : there reading stops, and there is the first error of validation;
* `Workflow.read_or_firstRefused` : without such an item all instructions are read;
* `Workflow.refusals_words` : the errors of validation in words, one for each item that is refused;
* `Workflow.readings_agree` : both ways give the same workflow, or both name the same first item.
-/

namespace ImageWorkflow.Workflow
variable {items : List Json} {item : Json} {index k : Nat} {error : DecodeError}

/-- The item at `k` is refused, and those before it are instructions. -/
structure FirstRefused (items : List Json) (k : Nat) (error : DecodeError) : Prop where
  refused : ∃ item, items[k]? = some item ∧ Instruction.ofWire item = .error (.refused error)
  before : ∀ j < k, ∀ item, items[j]? = some item → ∃ i, Instruction.ofWire item = .ok i

theorem firstRefused_zero_iff : FirstRefused (item :: items) 0 error ↔
    Instruction.ofWire item = .error (.refused error) := by
  constructor
  · rintro ⟨⟨other, hother, hrefused⟩, -⟩
    obtain rfl : item = other := Option.some.inj hother
    exact hrefused
  · exact fun h => ⟨⟨item, rfl, h⟩, fun j hj => absurd hj (Nat.not_lt_zero j)⟩

theorem firstRefused_succ_iff : FirstRefused (item :: items) (k + 1) error ↔
    (∃ i, Instruction.ofWire item = .ok i) ∧ FirstRefused items k error := by
  constructor
  · rintro ⟨hrefused, hbefore⟩
    exact ⟨hbefore 0 (Nat.succ_pos k) item rfl, hrefused,
      fun j hj => hbefore (j + 1) (Nat.succ_lt_succ hj)⟩
  · rintro ⟨hitem, hrefused, hbefore⟩
    refine ⟨hrefused, fun j hj other hother => ?_⟩
    cases j with
    | zero =>
      obtain rfl : item = other := Option.some.inj hother
      exact hitem
    | succ j => exact hbefore j (Nat.lt_of_succ_lt_succ hj) other hother

/-! ## Reading against collecting -/

theorem refusals_cons_of_ok {i : Instruction} (h : Instruction.ofWire item = .ok i) :
    refusals index (item :: items) = refusals (index + 1) items := by
  simp [refusals, refusal?, h]

theorem refusals_cons_of_refused (h : Instruction.ofWire item = .error (.refused error)) :
    refusals index (item :: items) =
      ⟨.invalidInstruction error, some index⟩ :: refusals (index + 1) items := by
  simp [refusals, refusal?, h]

/-- Reading stops at the first item that is refused, and its error is the first that is
collected. -/
theorem FirstRefused.stops (h : FirstRefused items k error) (index : Nat) :
    ofItems index items = .error (.item (index + k) error) ∧
      (refusals index items).head? = some ⟨.invalidInstruction error, some (index + k)⟩ := by
  induction items generalizing index k with
  | nil =>
    obtain ⟨item, hitem, -⟩ := h.refused
    cases hitem
  | cons item items ih =>
    cases k with
    | zero =>
      have hrefused := firstRefused_zero_iff.mp h
      simp only [ofItems, hrefused, refusals_cons_of_refused hrefused, List.head?_cons,
        Nat.add_zero, and_self]
    | succ k =>
      obtain ⟨⟨i, hi⟩, hrest⟩ := firstRefused_succ_iff.mp h
      obtain ⟨hstopped, hfirst⟩ := ih hrest (index + 1)
      rw [Nat.add_right_comm, Nat.add_assoc] at hstopped hfirst
      simp only [ofItems, hi, hstopped, refusals_cons_of_ok hi, hfirst, and_true]
      rfl

/-- Either all instructions are read and no error is collected, or an item is the first that is
refused. -/
theorem read_or_firstRefused (h : ∀ item ∈ items, Judged item) (index : Nat) :
    (ofItems index items = .ok (decoded items) ∧ refusals index items = []) ∨
      ∃ k error, FirstRefused items k error := by
  induction items generalizing index with
  | nil => exact .inl ⟨rfl, rfl⟩
  | cons item items ih =>
    obtain ⟨hitem, hrest⟩ := List.forall_mem_cons.mp h
    cases hread : Instruction.ofWire item with
    | ok i =>
      obtain ⟨hok, hnone⟩ | ⟨k, error, hfirst⟩ := ih hrest (index + 1)
      · refine .inl ⟨?_, (refusals_cons_of_ok hread).trans hnone⟩
        simp only [ofItems, hread, hok, decoded, List.filterMap_cons, Except.toOption]
        rfl
      · exact .inr ⟨k + 1, error, firstRefused_succ_iff.mpr ⟨⟨i, hread⟩, hfirst⟩⟩
    | error failure =>
      obtain ⟨error, rfl⟩ := hitem failure hread
      exact .inr ⟨0, error, firstRefused_zero_iff.mpr hread⟩

/-! ## In words -/

/-- A problem by its code, index and message. -/
def problemWords (l : Located) : String × Option Nat × String :=
  (l.issue.code, l.index, l.issue.message)

/-- What there is to say of an item at an index that is no instruction, read alone. -/
def complaint? (entry : Json × Nat) : Option (String × Option Nat × String) :=
  match Instruction.ofWire entry.1 with
  | .ok _ => none
  | .error failure => some ("invalid_instruction", some entry.2, failure.message)

/-- One error is collected for each item that is no instruction, in the order of the items, and it
says what reading the item alone says. -/
theorem refusals_words (h : ∀ item ∈ items, Judged item) (index : Nat) :
    (refusals index items).map problemWords = (items.zipIdx index).filterMap complaint? := by
  induction items generalizing index with
  | nil => rfl
  | cons item items ih =>
    obtain ⟨hitem, hrest⟩ := List.forall_mem_cons.mp h
    rw [List.zipIdx_cons]
    cases hread : Instruction.ofWire item with
    | ok i =>
      have hsilent : complaint? (item, index) = none := by simp only [complaint?, hread]
      rw [List.filterMap_cons_none hsilent, refusals_cons_of_ok hread, ih hrest]
    | error failure =>
      obtain ⟨error, rfl⟩ := hitem failure hread
      have hsaid : complaint? (item, index) =
          some ("invalid_instruction", some index, error.message) := by
        simp only [complaint?, hread]
        rfl
      rw [List.filterMap_cons_some hsaid, refusals_cons_of_refused hread, List.map_cons, ih hrest]
      rfl

/-- Items that are each an instruction or refused are read as a workflow just if validation gives
that workflow.  Otherwise reading stops at the first item that is refused, and validation reports
this item first, for the same reason, then each other one in order, and nothing else. -/
theorem readings_agree (h : ∀ item ∈ items, Judged item) :
    (∀ u, ofWire items = .ok u ↔
      ∃ report, validatePayload (.array items) = .ok (some u, report)) ∧
    ((∃ u, ofWire items = .ok u) ∨ ∃ k error, FirstRefused items k error) ∧
    ∀ k error, FirstRefused items k error →
      ofWire items = .error (.item k error) ∧
      (LoadError.item k error).message = s!"Instruction {k}: {error.message}" ∧
      ∃ report, validatePayload (.array items) = .ok (none, report) ∧
        report.errors.head? = some ⟨.invalidInstruction error, some k⟩ ∧
        report.errors.map problemWords = items.zipIdx.filterMap complaint? ∧
        report.warnings = [] := by
  have hvalidated := validatePayload_array h
  have hwords := refusals_words h 0
  have hstops {k : Nat} {error : DecodeError} (hfirst : FirstRefused items k error) :
      ofWire items = .error (.item k error) ∧
        (refusals 0 items).head? = some ⟨.invalidInstruction error, some k⟩ := by
    have hstopped := hfirst.stops 0
    rwa [Nat.zero_add] at hstopped
  obtain ⟨hread, hnone⟩ | ⟨k, error, hfirst⟩ := read_or_firstRefused h 0
  · have hread : ofWire items = .ok (decoded items) := hread
    rw [hnone] at hvalidated
    refine ⟨fun u => ?_, .inl ⟨_, hread⟩, fun k error hfirst => ?_⟩
    · rw [hread, hvalidated]
      simp
    · cases hread.symm.trans (hstops hfirst).1
  · obtain ⟨hstopped, hhead⟩ := hstops hfirst
    have hsome : (refusals 0 items).isEmpty = false := by
      cases hall : refusals 0 items with
      | nil => simp [hall] at hhead
      | cons => rfl
    rw [if_neg (by simp [hsome])] at hvalidated
    refine ⟨fun u => ?_, .inr ⟨k, error, hfirst⟩, fun k' error' hfirst' => ?_⟩
    · rw [hstopped, hvalidated]
      simp
    · obtain ⟨hstopped', hhead'⟩ := hstops hfirst'
      exact ⟨hstopped', rfl, _, hvalidated, hhead', hwords, rfl⟩

/-- Of four items the second and the last are refused. -/
theorem readings_agree_refused :
    let items := [Json.object [("prompt", .str "a")], .object [("loop", .object [])],
      .object [("generate", .bool true)], .str "b"]
    (∀ item ∈ items, Judged item) ∧ FirstRefused items 1 (.payload .loop .missingCount) ∧
      ofWire items = .error (.item 1 (.payload .loop .missingCount)) ∧
      (LoadError.item 1 (.payload .loop .missingCount)).message =
        "Instruction 1: 'loop': missing 'loop' count" ∧
      ∃ report, validatePayload (.array items) = .ok (none, report) ∧
        report.errors.map problemWords =
          [("invalid_instruction", some 1, "'loop': missing 'loop' count"),
            ("invalid_instruction", some 3,
              "Instruction must be a mapping with exactly one key, got 'b'")] := by
  intro items
  have hjudged : ∀ item ∈ items, Judged item := by
    simp only [items, List.forall_mem_cons, List.not_mem_nil, false_imp_iff, implies_true, and_true]
    exact ⟨failsOnly_ok _, failsOnly_error ⟨_, rfl⟩, failsOnly_ok _, failsOnly_error ⟨_, rfl⟩⟩
  have hfirst : FirstRefused items 1 (.payload .loop .missingCount) :=
    firstRefused_succ_iff.mpr ⟨⟨_, rfl⟩, firstRefused_zero_iff.mpr rfl⟩
  obtain ⟨-, -, hrefused⟩ := readings_agree hjudged
  obtain ⟨hstopped, hmessage, report, hreport, -, hwords, -⟩ := hrefused 1 _ hfirst
  refine ⟨hjudged, hfirst, hstopped, hmessage.trans (by decide +kernel), report, hreport, ?_⟩
  rw [hwords]
  decide +kernel

end ImageWorkflow.Workflow
