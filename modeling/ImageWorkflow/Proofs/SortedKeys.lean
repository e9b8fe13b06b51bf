import Mathlib
import ImageWorkflow.Proofs.JsonText

/-!
# Members in key order

* `Members.keySorted` : members in key order, and so in every object inside: what sorting makes of
  an object (`Json.sortKeys_object`);
* `Members.get?_keySorted`, `Json.get?_sortKeys` : look-up finds the same values, sorted; a number
  stays the same (`Json.integer?_sortKeys`, `Json.real?_sortKeys`);
* `Json.sortKeys_sortKeys` : sorting once is enough;
* `Json.Writable.sortKeys` : a sorted value has a text as well;
* `Json.same_of_sortKeys_eq` : values that are sorted alike are equal by value, and so a value
  equals the sorted one (`Json.same_sortKeys`).
-/

namespace ImageWorkflow

/-- What holds of a value whenever it holds of the values right inside holds of every value. -/
@[elab_as_elim]
theorem Json.induct {P : Json → Prop} (null : P .null) (bool : ∀ b, P (.bool b))
    (int : ∀ n, P (.int n)) (float : ∀ x, P (.float x)) (str : ∀ s, P (.str s))
    (array : ∀ items, (∀ item ∈ items, P item) → P (.array items))
    (object : ∀ members : Members, (∀ m ∈ members, P m.2) → P (.object members)) (v : Json) :
    P v := by
  induction h : sizeOf v using Nat.strong_induction_on generalizing v with
  | _ n ih =>
    subst h
    cases v with
    | null => exact null
    | bool b => exact bool b
    | int n => exact int n
    | float x => exact float x
    | str s => exact str s
    | array items =>
      refine array items fun item hi => ih _ ?_ item rfl
      have := List.sizeOf_lt_of_mem hi
      simp only [Json.array.sizeOf_spec]
      omega
    | object members =>
      refine object members fun m hm => ih _ ?_ m.2 rfl
      obtain ⟨key, value⟩ := m
      have := List.sizeOf_lt_of_mem hm
      simp only [Json.object.sizeOf_spec, Prod.mk.sizeOf_spec] at this ⊢
      omega

namespace Members
variable {members others : Members} {key : String} {value : Json}

/-! ## The order of keys -/

/-- Members in key order, and so in every object inside. -/
def keySorted (members : Members) : Members :=
  (Json.sortMembers members).mergeSort fun a b => a.1 ≤ b.1

theorem sortMembers_eq (members : Members) :
    Json.sortMembers members = members.map fun m => (m.1, m.2.sortKeys) := by
  induction members with
  | nil => rw [Json.sortMembers, List.map_nil]
  | cons first members ih => rw [Json.sortMembers, ih, List.map_cons]

theorem keySorted_perm (members : Members) :
    members.keySorted.Perm (members.map fun m => (m.1, m.2.sortKeys)) := by
  rw [keySorted, sortMembers_eq]
  exact List.mergeSort_perm _ _

/-- Sorting by keys puts members in key order. -/
theorem pairwise_mergeSort (members : Members) :
    (members.mergeSort fun a b => a.1 ≤ b.1).Pairwise fun a b => decide (a.1 ≤ b.1) = true := by
  refine List.pairwise_mergeSort (fun a b c hab hbc => ?_) (fun a b => ?_) members
  · exact decide_eq_true (String.le_trans (of_decide_eq_true hab) (of_decide_eq_true hbc))
  · rw [Bool.or_eq_true, decide_eq_true_eq, decide_eq_true_eq]
    exact String.le_total a.1 b.1

theorem pairwise_keySorted (members : Members) :
    members.keySorted.Pairwise fun a b => decide (a.1 ≤ b.1) = true :=
  pairwise_mergeSort _

theorem length_keySorted (members : Members) : members.keySorted.length = members.length := by
  rw [members.keySorted_perm.length_eq, List.length_map]

theorem keySorted_eq_nil : members.keySorted = [] ↔ members = [] := by
  rw [← List.length_eq_zero_iff, length_keySorted, List.length_eq_zero_iff]

theorem keys_keySorted_perm (members : Members) :
    (members.keySorted.map (·.1)).Perm (members.map (·.1)) := by
  have h := members.keySorted_perm.map (·.1)
  rwa [List.map_map] at h

theorem nodup_keySorted (h : (members.map (·.1)).Nodup) : (members.keySorted.map (·.1)).Nodup :=
  members.keys_keySorted_perm.nodup_iff.mpr h

theorem mem_keySorted {m : String × Json} :
    m ∈ members.keySorted ↔ ∃ m' ∈ members, (m'.1, m'.2.sortKeys) = m := by
  rw [members.keySorted_perm.mem_iff, List.mem_map]

/-- Members with distinct keys are sorted in one way only. -/
theorem keySorted_eq_of_perm (hn : (members.map (·.1)).Nodup) (h : members.Perm others) :
    members.keySorted = others.keySorted := by
  have hperm : members.keySorted.Perm others.keySorted :=
    (members.keySorted_perm.trans (h.map _)).trans others.keySorted_perm.symm
  refine List.Perm.eq_of_pairwise (fun a b ha hb hab hba => ?_) members.pairwise_keySorted
    others.pairwise_keySorted hperm
  have hkey := String.le_antisymm (of_decide_eq_true hab) (of_decide_eq_true hba)
  exact List.inj_on_of_nodup_map (nodup_keySorted hn) ha (hperm.mem_iff.mpr hb) hkey

/-! ## Look-up -/

theorem get?_map (f : Json → Json) (members : Members) (key : String) :
    get? (members.map fun m => (m.1, f m.2)) key = (get? members key).map f := by
  induction members with
  | nil => rfl
  | cons first members ih =>
    obtain ⟨k, v⟩ := first
    rw [List.map_cons, get?, get?]
    split
    · rfl
    · exact ih

/-- The order of members with distinct keys does not matter. -/
theorem get?_perm (hn : (members.map (·.1)).Nodup) (h : members.Perm others) (key : String) :
    get? members key = get? others key := by
  have hn' : (others.map (·.1)).Nodup := (h.map (·.1)).nodup_iff.mp hn
  by_cases hkey : key ∈ members.map (·.1)
  · obtain ⟨⟨k, v⟩, hm, rfl⟩ := List.mem_map.mp hkey
    rw [get?_of_mem hn hm, get?_of_mem hn' (h.mem_iff.mp hm)]
  · have hkey' : key ∉ others.map (·.1) := fun hk => hkey ((h.map (·.1)).mem_iff.mpr hk)
    rw [get?_of_not_mem hkey, get?_of_not_mem hkey']

theorem get?_keySorted (hn : (members.map (·.1)).Nodup) (key : String) :
    get? members.keySorted key = (get? members key).map Json.sortKeys := by
  rw [get?_perm (nodup_keySorted hn) members.keySorted_perm, get?_map]

end Members

namespace Json
variable {v : Json} {members : Members}

theorem sortKeys_object (members : Members) :
    (Json.object members).sortKeys = .object members.keySorted := by
  rw [sortKeys]
  rfl

theorem sortKeys_array (items : List Json) :
    (Json.array items).sortKeys = .array (items.map sortKeys) := by
  have h (items : List Json) : sortItems items = items.map sortKeys := by
    induction items with
    | nil => rw [sortItems, List.map_nil]
    | cons item items ih => rw [sortItems, ih, List.map_cons]
  rw [sortKeys, h]

@[simp] theorem sortKeys_null : Json.null.sortKeys = .null := by simp [sortKeys]

@[simp] theorem sortKeys_bool (b : Bool) : (Json.bool b).sortKeys = .bool b := by simp [sortKeys]

@[simp] theorem sortKeys_int (n : ℤ) : (Json.int n).sortKeys = .int n := by simp [sortKeys]

@[simp] theorem sortKeys_float (x : Binary64) : (Json.float x).sortKeys = .float x := by
  simp [sortKeys]

@[simp] theorem sortKeys_str (s : String) : (Json.str s).sortKeys = .str s := by simp [sortKeys]

theorem sortKeys_eq_null : v.sortKeys = .null ↔ v = .null := by
  cases v <;> simp [sortKeys]

theorem sortKeys_eq_object {sorted : Members} :
    v.sortKeys = .object sorted ↔ ∃ members : Members, v = .object members ∧
      members.keySorted = sorted := by
  cases v with
  | object members => simp [sortKeys_object]
  | _ => simp [sortKeys]

theorem integer?_sortKeys (v : Json) : v.sortKeys.integer? = v.integer? := by
  cases v <;> simp [sortKeys, integer?]

theorem real?_sortKeys (v : Json) : v.sortKeys.real? = v.real? := by
  cases v <;> simp [sortKeys, real?]

/-- Look-up in a sorted value finds the same value, sorted. -/
theorem get?_sortKeys (hv : v.Distinct) (key : String) :
    v.sortKeys.get? key = (v.get? key).map sortKeys := by
  cases v with
  | object members =>
    rw [sortKeys_object]
    exact Members.get?_keySorted (distinct_object.mp hv).1 key
  | _ => simp [sortKeys, get?, members?]

/-- What is sorted stays as it is. -/
theorem sortKeys_sortKeys (v : Json) : v.sortKeys.sortKeys = v.sortKeys := by
  induction v using Json.induct with
  | array items ih =>
    rw [sortKeys_array, sortKeys_array, List.map_map]
    exact congrArg Json.array (List.map_congr_left ih)
  | object members ih =>
    have hsorted : Json.sortMembers members.keySorted = members.keySorted := by
      rw [Members.sortMembers_eq]
      refine (List.map_congr_left fun m hm => ?_).trans (List.map_id members.keySorted)
      obtain ⟨m', hm', rfl⟩ := Members.mem_keySorted.mp hm
      rw [ih m' hm', id_eq]
    rw [sortKeys_object, sortKeys_object, Members.keySorted, hsorted]
    exact congrArg Json.object (List.mergeSort_of_pairwise members.pairwise_keySorted)
  | _ => simp

/-- A sorted value has a text as well. -/
theorem Writable.sortKeys (hv : v.Writable) : v.sortKeys.Writable := by
  induction v using Json.induct with
  | array items ih =>
    rw [sortKeys_array]
    refine writable_array fun item hitem => ?_
    obtain ⟨item, hi, rfl⟩ := List.mem_map.mp hitem
    exact ih item hi (hv.item hi)
  | object members ih =>
    rw [sortKeys_object]
    refine writable_object (Members.nodup_keySorted (distinct_object.mp hv.distinct).1) ?_
    intro m hm
    obtain ⟨m', hm', rfl⟩ := Members.mem_keySorted.mp hm
    exact ih m' hm' (hv.member hm')
  | _ => simpa using hv

theorem Distinct.sortKeys (hv : v.Distinct) : v.sortKeys.Distinct := by
  induction v using Json.induct with
  | array items ih =>
    rw [sortKeys_array]
    refine distinct_array.mpr fun item hitem => ?_
    obtain ⟨item, hi, rfl⟩ := List.mem_map.mp hitem
    exact ih item hi (distinct_array.mp hv item hi)
  | object members ih =>
    obtain ⟨hkeys, hvalues⟩ := distinct_object.mp hv
    rw [sortKeys_object]
    refine distinct_object.mpr ⟨Members.nodup_keySorted hkeys, fun m hm => ?_⟩
    obtain ⟨m', hm', rfl⟩ := Members.mem_keySorted.mp hm
    exact ih m' hm' (hvalues m' hm')
  | _ => simp [Distinct]

/-! ## Equality by value -/

theorem sameItems_of_map_eq {f : Json → Json} {items others : List Json}
    (hf : ∀ v ∈ items, ∀ w ∈ others, f v = f w → same v w = true)
    (h : items.map f = others.map f) : sameItems items others = true := by
  induction items generalizing others with
  | nil =>
    obtain rfl := List.map_eq_nil_iff.mp h.symm
    rw [sameItems]
  | cons item items ih =>
    cases others with
    | nil => cases h
    | cons other others =>
      obtain ⟨hitem, hitems⟩ := List.cons.inj h
      rw [sameItems, hf item List.mem_cons_self other List.mem_cons_self hitem,
        ih (fun v hv w hw => hf v (List.mem_cons_of_mem _ hv) w (List.mem_cons_of_mem _ hw)) hitems]
      rfl

theorem sameMembers_of_get? {others : Members} (h : ∀ m ∈ members,
    ∃ w, Members.get? others m.1 = some w ∧ same m.2 w = true) :
    sameMembers members others = true := by
  induction members with
  | nil => rw [sameMembers]
  | cons first members ih =>
    obtain ⟨⟨w, hget, hsame⟩, hrest⟩ := List.forall_mem_cons.mp h
    rw [sameMembers, hget, ih hrest, Bool.and_true]
    exact hsame

/-- Values that are sorted alike are equal, unless objects in them repeat a key. -/
theorem same_of_sortKeys_eq {w : Json} (hv : v.Distinct) (hw : w.Distinct)
    (h : v.sortKeys = w.sortKeys) : v.same w = true := by
  induction v using Json.induct generalizing w with
  | array items ih =>
    cases w with
    | array others =>
      rw [sortKeys_array, sortKeys_array, Json.array.injEq] at h
      rw [same]
      exact sameItems_of_map_eq (fun v hi w ho =>
        ih v hi (distinct_array.mp hv v hi) (distinct_array.mp hw w ho)) h
    | _ => simp [sortKeys] at h
  | object members ih =>
    cases w with
    | object others =>
      rw [sortKeys_object, sortKeys_object, Json.object.injEq] at h
      obtain ⟨hkeys, hvalues⟩ := distinct_object.mp hv
      obtain ⟨hkeys', hvalues'⟩ := distinct_object.mp hw
      have hlength : members.length = others.length := by
        rw [← Members.length_keySorted, h, Members.length_keySorted]
      rw [same, hlength, beq_self_eq_true, Bool.true_and]
      refine sameMembers_of_get? fun m hm => ?_
      have hget := Members.get?_keySorted hkeys' m.1
      rw [← h, Members.get?_keySorted hkeys, Members.get?_of_mem hkeys hm, Option.map_some,
        eq_comm, Option.map_eq_some_iff] at hget
      obtain ⟨w, hw, heq⟩ := hget
      exact ⟨w, hw, ih m hm (hvalues m hm) (hvalues' _ (Members.mem_of_get? hw)) heq.symm⟩
    | _ => simp [sortKeys] at h
  | null =>
    cases w with
    | null => exact same_self _ hw
    | _ => simp [sortKeys] at h
  | _ =>
    cases w with
    | array | object => simp [sortKeys] at h
    | _ =>
      simp only [sortKeys_null, sortKeys_bool, sortKeys_int, sortKeys_float, sortKeys_str] at h
      rw [h]
      exact same_self _ hw

/-- A value equals the sorted one, unless objects in it repeat a key. -/
theorem same_sortKeys (hv : v.Distinct) : v.same v.sortKeys = true :=
  same_of_sortKeys_eq hv hv.sortKeys v.sortKeys_sortKeys.symm

end Json

end ImageWorkflow
