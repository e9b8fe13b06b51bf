import Mathlib
import ImageWorkflow.Instruction.Wire

/-!
# Equality by value

* `Members.get?_of_mem`, `Members.get?_of_not_mem` : look-up among members with distinct keys;
* `Json.distinct_array`, `Json.distinct_object` : when no object in a value repeats a key;
* `Json.same_self`, `Settings.same_self`, `Instruction.same_self` : a value equals itself, unless
  objects in it repeat a key.
-/

namespace ImageWorkflow

theorem Members.get?_of_mem {members : Members} {key : String} {value : Json}
    (hn : (members.map (·.1)).Nodup) (h : (key, value) ∈ members) :
    Members.get? members key = some value := by
  induction members with
  | nil => cases h
  | cons first members ih =>
    obtain ⟨k, v⟩ := first
    obtain ⟨hk, hrest⟩ := List.nodup_cons.mp hn
    rcases List.mem_cons.mp h with heq | hmem
    · cases heq
      exact if_pos rfl
    · have hne : k ≠ key := by
        rintro rfl
        exact hk (List.mem_map.mpr ⟨_, hmem, rfl⟩)
      exact (if_neg hne).trans (ih hrest hmem)

theorem Members.get?_of_not_mem {members : Members} {key : String}
    (h : key ∉ members.map (·.1)) : Members.get? members key = none := by
  induction members with
  | nil => rfl
  | cons first members ih =>
    obtain ⟨k, v⟩ := first
    rw [List.map_cons, List.mem_cons, not_or] at h
    exact (if_neg (Ne.symm h.1)).trans (ih h.2)

namespace Json

@[simp] theorem distinct_bool (b : Bool) : (Json.bool b).Distinct := trivial

@[simp] theorem distinct_int (n : Int) : (Json.int n).Distinct := trivial

@[simp] theorem distinct_float (x : Binary64) : (Json.float x).Distinct := trivial

@[simp] theorem distinct_str (t : String) : (Json.str t).Distinct := trivial

theorem distinctItems_iff {items : List Json} :
    DistinctItems items ↔ ∀ item ∈ items, item.Distinct := by
  induction items with
  | nil => simp [DistinctItems]
  | cons item items ih => simp [DistinctItems, ih]

theorem distinctMembers_iff {members : Members} :
    DistinctMembers members ↔ ∀ m ∈ members, m.2.Distinct := by
  induction members with
  | nil => simp [DistinctMembers]
  | cons first members ih => simp [DistinctMembers, ih]

theorem distinct_array {items : List Json} :
    (Json.array items).Distinct ↔ ∀ item ∈ items, item.Distinct := by
  rw [Distinct, distinctItems_iff]

theorem distinct_object {members : Members} :
    (Json.object members).Distinct ↔
      (members.map (·.1)).Nodup ∧ ∀ m ∈ members, m.2.Distinct := by
  rw [Distinct, distinctMembers_iff]

mutual

/-- A value equals itself. -/
theorem same_self (v : Json) (h : Distinct v) : same v v = true := by
  cases v with
  | array items =>
    rw [Distinct] at h
    rw [same]
    exact sameItems_self items h
  | object members =>
    rw [Distinct] at h
    rw [same, beq_self_eq_true, Bool.true_and]
    exact sameMembers_self members members h.2 fun m hm => Members.get?_of_mem h.1 hm
  | _ => simp [same]

theorem sameItems_self (items : List Json) (h : DistinctItems items) :
    sameItems items items = true := by
  cases items with
  | nil => rw [sameItems]
  | cons item items =>
    rw [DistinctItems] at h
    rw [sameItems, same_self item h.1, sameItems_self items h.2]
    rfl

/-- Members are found in any list in which they are looked up. -/
theorem sameMembers_self (members others : Members) (h : DistinctMembers members)
    (hget : ∀ m ∈ members, Members.get? others m.1 = some m.2) :
    sameMembers members others = true := by
  cases members with
  | nil => rw [sameMembers]
  | cons first members =>
    obtain ⟨key, value⟩ := first
    rw [DistinctMembers] at h
    obtain ⟨hfirst, hrest⟩ := List.forall_mem_cons.mp hget
    rw [sameMembers, hfirst, sameMembers_self members others h.2 hrest, Bool.and_true]
    exact same_self value h.1

end

end Json

theorem Binary64.sameValue_self (x : Binary64) : x.sameValue x = true := by
  simp [sameValue]

namespace Settings
variable {α : Type} {eq : α → α → Bool}

theorem sameOption_self (h : ∀ a, eq a a = true) (o : Option α) : sameOption eq o o = true := by
  cases o with
  | none => rfl
  | some a => exact h a

theorem sameList_self (h : ∀ a, eq a a = true) (l : List α) : sameList eq l l = true := by
  induction l with
  | nil => rfl
  | cons a l ih => rw [sameList, h, ih, Bool.and_true]

theorem same_self (s : Settings) : s.same s = true := by
  have hreal := sameOption_self Binary64.sameValue_self
  have hlora (l : LoRA) : sameLoRA l l = true := by simp [sameLoRA, Binary64.sameValue_self]
  simp [same, hreal, sameOption_self (sameList_self hlora)]

end Settings

/-- An instruction equals itself. -/
theorem Instruction.same_self (i : Instruction)
    (h : ∀ data, i = .poseJson data → (Json.object data).Distinct) : i.same i = true := by
  have hreal := Settings.sameOption_self Binary64.sameValue_self
  cases i with
  | poseJson data => exact Json.same_self _ (h data rfl)
  | config settings => exact settings.same_self
  | moodboardWeights weights =>
    exact Settings.sameList_self (by simp [Binary64.sameValue_self]) weights
  | _ => simp [same, Binary64.sameValue_self, hreal]

end ImageWorkflow
