import Mathlib
import ImageWorkflow.Proofs.SortedWire

/-!
# The order of members

* `Json.Reordered` : values that differ only in the order of the members of objects, at any depth;
  `Json.reordered_iff` : those are the values that are sorted alike;
* `Instruction.ofWire_reordered` : of such values either both are read or neither is, and what is
  read of them is equal, as long as no two keys of weights name one index.
-/

namespace ImageWorkflow

namespace Json
variable {v w : Json} {members others : Members} {items items' : List Json}

/-! ## Reordered values -/

/-- The second value is the first with the members of objects in another order, at any depth. -/
inductive Reordered : Json → Json → Prop
  | refl (v : Json) : Reordered v v
  | trans {u v w : Json} : Reordered u v → Reordered v w → Reordered u w
  | members {members others : Members} : members.Perm others →
      Reordered (.object members) (.object others)
  | item {v w : Json} (before after : List Json) : Reordered v w →
      Reordered (.array (before ++ v :: after)) (.array (before ++ w :: after))
  | member {v w : Json} (before after : Members) (key : String) : Reordered v w →
      Reordered (.object (before ++ (key, v) :: after)) (.object (before ++ (key, w) :: after))

theorem Reordered.symm (h : Reordered v w) : Reordered w v := by
  induction h with
  | refl v => exact .refl v
  | trans _ _ ih ih' => exact .trans ih' ih
  | members h => exact .members h.symm
  | item before after _ ih => exact .item before after ih
  | member before after key _ ih => exact .member before after key ih

/-- Reordered values are sorted alike, and repeat no key if one of them repeats none. -/
theorem Reordered.sortKeys_eq (h : Reordered v w) (hv : v.Distinct) :
    v.sortKeys = w.sortKeys ∧ w.Distinct := by
  -- both at once: the second part is what the induction needs at the middle of `trans`
  induction h with
  | refl v => exact ⟨rfl, hv⟩
  | trans _ _ ih ih' =>
    obtain ⟨heq, hv⟩ := ih hv
    obtain ⟨heq', hw⟩ := ih' hv
    exact ⟨heq.trans heq', hw⟩
  | @members members others h =>
    obtain ⟨hn, hvalues⟩ := distinct_object.mp hv
    rw [sortKeys_object, sortKeys_object, Members.keySorted_eq_of_perm hn h]
    exact ⟨rfl, distinct_object.mpr ⟨(h.map _).nodup_iff.mp hn,
      fun m hm => hvalues m (h.mem_iff.mpr hm)⟩⟩
  | @item v w before after _ ih =>
    have hitems := distinct_array.mp hv
    obtain ⟨heq, hw⟩ := ih (hitems v (by simp))
    refine ⟨by simp only [sortKeys_array, List.map_append, List.map_cons, heq], ?_⟩
    refine distinct_array.mpr fun item hitem => ?_
    rcases List.mem_append.mp hitem with hitem | hitem
    · exact hitems item (List.mem_append_left _ hitem)
    · rcases List.mem_cons.mp hitem with rfl | hitem
      · exact hw
      · exact hitems item (by simp [hitem])
  | @member v w before after key _ ih =>
    obtain ⟨hn, hvalues⟩ := distinct_object.mp hv
    obtain ⟨heq, hw⟩ := ih (hvalues (key, v) (by simp))
    refine ⟨?_, distinct_object.mpr ⟨by simpa using hn, fun m hm => ?_⟩⟩
    · simp only [sortKeys_object, Members.keySorted, Members.sortMembers_eq, List.map_append,
        List.map_cons, heq]
    · rcases List.mem_append.mp hm with hm | hm
      · exact hvalues m (List.mem_append_left _ hm)
      · rcases List.mem_cons.mp hm with rfl | hm
        · exact hw
        · exact hvalues m (by simp [hm])

/-! ## Sorted values are reordered ones -/

theorem reordered_items (before : List Json) (h : ∀ item ∈ items, Reordered item item.sortKeys) :
    Reordered (.array (before ++ items)) (.array (before ++ items.map sortKeys)) := by
  induction items generalizing before with
  | nil => exact .refl _
  | cons item items ih =>
    obtain ⟨hitem, hitems⟩ := List.forall_mem_cons.mp h
    -- `before` holds what is sorted already
    have hrest := ih (before ++ [item.sortKeys]) hitems
    rw [List.append_assoc, List.append_assoc] at hrest
    exact .trans (.item before items hitem) hrest

theorem reordered_members (before : Members) (h : ∀ m ∈ members, Reordered m.2 m.2.sortKeys) :
    Reordered (.object (before ++ members))
      (.object (before ++ members.map fun m => (m.1, m.2.sortKeys))) := by
  induction members generalizing before with
  | nil => exact .refl _
  | cons m members ih =>
    obtain ⟨hm, hmembers⟩ := List.forall_mem_cons.mp h
    have hrest := ih (before ++ [(m.1, m.2.sortKeys)]) hmembers
    rw [List.append_assoc, List.append_assoc] at hrest
    exact .trans (.member before members m.1 hm) hrest

theorem reordered_sortKeys (v : Json) : Reordered v v.sortKeys := by
  induction v using Json.induct with
  | array items ih =>
    rw [sortKeys_array]
    exact reordered_items [] ih
  | object members ih =>
    rw [sortKeys_object]
    exact .trans (reordered_members [] ih) (.members members.keySorted_perm.symm)
  | _ =>
    simp only [sortKeys_null, sortKeys_bool, sortKeys_int, sortKeys_float, sortKeys_str]
    exact .refl _

/-- To be sorted alike is to be reordered, unless objects repeat a key. -/
theorem reordered_iff (hv : v.Distinct) :
    Reordered v w ↔ v.sortKeys = w.sortKeys ∧ w.Distinct := by
  refine ⟨fun h => h.sortKeys_eq hv, fun ⟨heq, _⟩ => ?_⟩
  exact v.reordered_sortKeys.trans (heq ▸ w.reordered_sortKeys.symm)

end Json

namespace Instruction
variable {i i' : Instruction} {w w' : Json} {members : Members}

/-! ## Reading reordered values -/

theorem weightsApart_object (h : IndicesApart members) :
    WeightsApart (.object [(Kind.moodboardWeights.key, .object members)]) := by
  rintro _ ⟨⟩
  exact h

theorem ofWire_weights {ws : List (Nat × Binary64)} (h : readWeights members = .ok ws) :
    ofWire (.object [(Kind.moodboardWeights.key, .object members)]) =
      .ok (.moodboardWeights ws) := by
  rw [ofWire, Kind.ofKey?_key]
  exact bind_eq_ok.mpr ⟨members, rfl, bind_eq_ok.mpr ⟨ws, h, rfl⟩⟩

theorem weightsApart_sortKeys : WeightsApart w.sortKeys ↔ WeightsApart w := by
  constructor
  · rintro h members rfl
    rw [sortKeys_singleton, Json.sortKeys_object] at h
    exact indicesApart_keySorted.mp (h _ rfl)
  · intro h sorted hsorted
    obtain ⟨members, rfl, hmembers⟩ := Json.sortKeys_eq_object.mp hsorted
    have hlength : members.length = 1 := by
      rw [← Members.length_keySorted, hmembers, List.length_singleton]
    obtain ⟨⟨key, value⟩, rfl⟩ := List.length_eq_one_iff.mp hlength
    rw [sortKeys_singleton, Json.object.injEq, List.cons.injEq, Prod.mk.injEq] at hsorted
    obtain ⟨⟨rfl, hvalue⟩, -⟩ := hsorted
    obtain ⟨data, rfl, rfl⟩ := Json.sortKeys_eq_object.mp hvalue
    exact indicesApart_keySorted.mpr (h data rfl)

theorem kind_keySorted (i : Instruction) : i.keySorted.kind = i.kind := by
  cases i <;> rfl

theorem exists_eq_poseJson (h : i.kind = .poseJson) : ∃ data, i = .poseJson data := by
  cases i <;> cases h
  exact ⟨_, rfl⟩

/-- Instructions that are sorted alike are equal, unless their free-form data repeat a key. -/
theorem same_of_keySorted_eq (h : i.keySorted = i'.keySorted)
    (hdata : ∀ data, i = .poseJson data → (Json.object data).Distinct)
    (hdata' : ∀ data, i' = .poseJson data → (Json.object data).Distinct) : i.same i' = true := by
  have hkind : i.kind = i'.kind := by rw [← i.kind_keySorted, h, i'.kind_keySorted]
  by_cases hpose : i.kind = .poseJson
  · obtain ⟨data, rfl⟩ := exists_eq_poseJson hpose
    obtain ⟨data', rfl⟩ := exists_eq_poseJson (hkind ▸ hpose)
    rw [keySorted, keySorted, poseJson.injEq] at h
    refine Json.same_of_sortKeys_eq (hdata data rfl) (hdata' data' rfl) ?_
    rw [Json.sortKeys_object, Json.sortKeys_object, h]
  · rw [keySorted_of_kind_ne hpose, keySorted_of_kind_ne (hkind ▸ hpose)] at h
    exact h ▸ same_self i hdata

theorem distinct_data (h : ofWire w = .ok i) (hw : w.Distinct) :
    ∀ data, i = .poseJson data → (Json.object data).Distinct := by
  rintro data rfl
  obtain ⟨key, rfl⟩ := eq_object_of_ofWire_poseJson h
  exact (Json.distinct_object.mp hw).2 _ List.mem_cons_self

/-- Values that differ only in the order of members are read alike: what is read of the one equals
what is read of the other, and if nothing is read of the one neither is of the other.  Of weights no
two keys may name one index, as then the order tells which of them counts. -/
theorem ofWire_reordered (h : w.Reordered w') (hw : w.Distinct) (hapart : WeightsApart w) :
    ((∃ i, ofWire w = .ok i) ↔ ∃ i', ofWire w' = .ok i') ∧
      ∀ i i', ofWire w = .ok i → ofWire w' = .ok i' → i.same i' = true := by
  obtain ⟨heq, hw'⟩ := h.sortKeys_eq hw
  have hapart' : WeightsApart w' :=
    weightsApart_sortKeys.mp (heq ▸ weightsApart_sortKeys.mpr hapart)
  have hsorted : (ofWire w).toOption.map keySorted = (ofWire w').toOption.map keySorted := by
    rw [← toOption_ofWire_sortKeys hw hapart, heq, toOption_ofWire_sortKeys hw' hapart']
  constructor
  · have hread (v : Json) : (∃ i, ofWire v = .ok i) ↔
        ((ofWire v).toOption.map keySorted).isSome = true := by
      simp only [Option.isSome_map, Option.isSome_iff_exists, toOption_eq_some]
    rw [hread, hread, hsorted]
  · intro i i' hi hi'
    rw [hi, hi', toOption_ok, toOption_ok, Option.map_some, Option.map_some, Option.some.injEq]
      at hsorted
    exact same_of_keySorted_eq hsorted (distinct_data hi hw) (distinct_data hi' hw')

/-- Weights come by increasing index, in whatever order they are written. -/
theorem ofWire_reordered_weights :
    let wire (members : Members) : Json := .object [("moodboardWeights", .object members)]
    let w := wire [("index_10", .float .zero), ("index_2", .float (.ofRat 1))]
    let w' := wire [("index_2", .float (.ofRat 1)), ("index_10", .float .zero)]
    let i : Instruction := .moodboardWeights [(2, .ofRat 1), (10, .zero)]
    w.Reordered w' ∧ w.Distinct ∧ WeightsApart w ∧ ofWire w = .ok i ∧
      ∃ i', ofWire w' = .ok i' ∧ i.same i' = true := by
  intro wire w w' i
  have hreadable : WeightsReadable [(2, .ofRat 1), (10, .zero)] :=
    ⟨by simp, by decide +kernel, by decide⟩
  have hreordered : w.Reordered w' := .member [] [] _ (.members (List.Perm.swap _ _ _))
  have hdistinct : w.Distinct := by simp [w, wire, Json.distinct_object]
  have hwritten : w = wire (writeWeights [(10, .zero), (2, .ofRat 1)]) := by
    simp only [w, writeWeights, List.map_cons, List.map_nil]
    rfl
  have hapart : WeightsApart w := by
    rw [hwritten]
    exact weightsApart_object (indicesApart_writeWeights (by decide))
  have hread : ofWire w = .ok i := by
    rw [hwritten]
    exact ofWire_weights (readWeights_write_perm hreadable (List.Perm.swap _ _ _))
  obtain ⟨hiff, hsame⟩ := ofWire_reordered hreordered hdistinct hapart
  obtain ⟨i', hread'⟩ := hiff.mp ⟨i, hread⟩
  exact ⟨hreordered, hdistinct, hapart, hread, i', hread', hsame i i' hread hread'⟩

end Instruction

end ImageWorkflow
