import Mathlib
import ImageWorkflow.Proofs.SettingsKeys

/-!
# Sorted wire objects

What is read of a wire object does not change when the keys of every object in it are sorted, except
that free-form data keep the order in which they come.
* `Instruction.toOption_readWeights_keySorted` : weights may be sorted, if no two keys name one
  index;
* `Instruction.toOption_ofPayload_keySorted` : so may the parameters of every kind, since all others
  are looked up by their keys;
* `Instruction.keySorted` : the instruction of a sorted wire object
  (`Instruction.toOption_ofWire_sortKeys`, `Instruction.ofWire_sortKeys`);
* `Instruction.sortKeys_toWire_keySorted`, `Instruction.same_keySorted` : it has the same sorted
  wire object and equals the instruction by value.
-/

namespace ImageWorkflow

namespace Instruction
variable {i : Instruction} {kind : Kind} {members : Members} {field : String} {value : Json}
  {ws : List (Nat × Binary64)}

/-! ## Weights -/

theorem weightOf_sortKeys_eq_ok {key : String} {value : Json} {entry : Nat × Binary64} :
    weightOf (key, value.sortKeys) = .ok entry ↔ weightOf (key, value) = .ok entry := by
  simp only [weightOf_eq_ok, readReal, mapError_eq_ok, value.real?_sortKeys]

theorem indicesApart_keySorted : IndicesApart members.keySorted ↔ IndicesApart members := by
  simp only [IndicesApart, members.keys_keySorted_perm.mem_iff]

/-- Weights do not depend on the order of keys, as long as no two of them name one index. -/
theorem toOption_readWeights_keySorted (hn : (members.map (·.1)).Nodup)
    (hapart : IndicesApart members) :
    (readWeights members.keySorted).toOption = (readWeights members).toOption := by
  have hmap : (List.Forall₂ (fun m (entry : Nat × Binary64) => weightOf m = .ok entry)
      (members.map fun m => (m.1, m.2.sortKeys))) =
      List.Forall₂ (fun m entry => weightOf m = .ok entry) members := by
    funext entries
    simp only [List.forall₂_map_left_iff, weightOf_sortKeys_eq_ok]
  -- the weights of the members in either order are a permutation of each other
  refine Option.ext fun ws => ?_
  rw [toOption_eq_some, toOption_eq_some, readWeights_eq_ok_iff hn hapart,
    readWeights_eq_ok_iff (Members.nodup_keySorted hn) (indicesApart_keySorted.mpr hapart), ← hmap]
  refine and_congr_right fun _ => ⟨?_, ?_⟩
  · rintro ⟨entries, hperm, hentries⟩
    obtain ⟨entries', hentries', hperm'⟩ :=
      List.perm_comp_forall₂ members.keySorted_perm.symm hentries
    exact ⟨entries', hperm'.trans hperm, hentries'⟩
  · rintro ⟨entries, hperm, hentries⟩
    obtain ⟨entries', hentries', hperm'⟩ := List.perm_comp_forall₂ members.keySorted_perm hentries
    exact ⟨entries', hperm'.trans hperm, hentries'⟩

/-! ## Parameters -/

theorem toOption_readInteger_sortKeys (kind : Kind) (field : Option String) (value : Json) :
    (readInteger kind field value.sortKeys).toOption = (readInteger kind field value).toOption := by
  rw [readInteger, readInteger, toOption_mapError, toOption_mapError, value.integer?_sortKeys]

theorem toOption_readReal_sortKeys (kind : Kind) (field : Option String) (value : Json) :
    (readReal kind field value.sortKeys).toOption = (readReal kind field value).toOption := by
  rw [readReal, readReal, toOption_mapError, toOption_mapError, value.real?_sortKeys]

theorem readBare_object (i : Instruction) (members : Members) :
    (readBare i (.object members)).toOption = if members = [] then some i else none := by
  cases members <;> rfl

theorem toOption_readBare_sortKeys (i : Instruction) (value : Json) :
    (readBare i value.sortKeys).toOption = (readBare i value).toOption := by
  cases value with
  | object members =>
    rw [Json.sortKeys_object, readBare_object, readBare_object]
    simp only [Members.keySorted_eq_nil]
  | array items =>
    rw [Json.sortKeys_array]
    rfl
  | _ => simp

theorem readOptional_of_ne_null {α : Type} {read : Json → Except DecodeFailure α}
    (hget : Members.get? members field = some value) (hvalue : value ≠ .null) :
    readOptional members field read = some <$> read value := by
  rw [readOptional, hget]
  cases value <;> first | rfl | exact absurd rfl hvalue

section members
variable (hn : (members.map (·.1)).Nodup)
include hn

theorem toOption_readOptional_keySorted {α : Type} {read : Json → Except DecodeFailure α}
    (hread : ∀ value, (read value.sortKeys).toOption = (read value).toOption) (field : String) :
    (readOptional members.keySorted field read).toOption =
      (readOptional members field read).toOption := by
  have hsorted := Members.get?_keySorted hn field
  cases hget : Members.get? members field with
  | none => rw [readOptional, readOptional, hsorted, hget, Option.map_none]
  | some value =>
    rw [hget, Option.map_some] at hsorted
    by_cases hnull : value = .null
    · rw [readOptional, readOptional, hsorted, hget, hnull, Json.sortKeys_null]
    · rw [readOptional_of_ne_null hget hnull,
        readOptional_of_ne_null hsorted (mt Json.sortKeys_eq_null.mp hnull), toOption_map,
        toOption_map, hread]

theorem toOption_readFlag_keySorted (kind : Kind) (field : String) :
    (readFlag kind members.keySorted field).toOption = (readFlag kind members field).toOption := by
  refine toOption_readOptional_keySorted hn (fun value => ?_) field
  cases value <;> simp [Json.sortKeys, refuse, Except.toOption]

theorem toOption_readCount_keySorted (kind : Kind) (field : String) :
    (readCount kind members.keySorted field).toOption = (readCount kind members field).toOption :=
  toOption_readOptional_keySorted hn (toOption_readInteger_sortKeys kind (some field)) field

theorem toOption_readAmount_keySorted (kind : Kind) (field : String) :
    (readAmount kind members.keySorted field).toOption =
      (readAmount kind members field).toOption :=
  toOption_readOptional_keySorted hn (toOption_readReal_sortKeys kind (some field)) field

theorem toOption_readRealOr_keySorted (kind : Kind) (field : String) (fallback : Binary64) :
    (readRealOr kind members.keySorted field fallback).toOption =
      (readRealOr kind members field fallback).toOption := by
  rw [readRealOr, readRealOr, Members.get?_keySorted hn]
  cases Members.get? members field with
  | none => rfl
  | some value => exact toOption_readReal_sortKeys kind (some field) value

end members

/-- An object of parameters is read as the sorted one, unless it is free-form data. -/
theorem toOption_ofPayload_keySorted (hkind : kind ≠ .poseJson) (h : (Json.object members).Distinct)
    (hapart : kind = .moodboardWeights → IndicesApart members) :
    (ofPayload kind (.object members.keySorted)).toOption =
      (ofPayload kind (.object members)).toOption := by
  have hn := (Json.distinct_object.mp h).1
  cases kind with
  | poseJson => exact absurd rfl hkind
  | loop =>
    rw [ofPayload, ofPayload, Members.get?_keySorted hn, Members.get?_keySorted hn]
    cases Members.get? members "loop" with
    | none => rfl
    | some count =>
      cases Members.get? members "start" <;>
        simp only [Option.map_some, Option.map_none, toOption_bind, toOption_readInteger_sortKeys]
  | adaptSize =>
    simp only [ofPayload, readMapping, toOption_bind, toOption_ok, Option.bind_some,
      Members.get?_keySorted hn]
    cases Members.get? members "maxWidth" with
    | none => rfl
    | some width =>
      cases Members.get? members "maxHeight" with
      | none => rfl
      | some height =>
        simp only [Option.map_some, toOption_bind, toOption_readInteger_sortKeys]
  | config =>
    simp only [ofPayload, readMapping, readSettings, toOption_bind, toOption_ok, Option.bind_some,
      toOption_mapError, Settings.toOption_ofMembers_keySorted h]
  | moodboardWeights =>
    simp only [ofPayload, readMapping, toOption_bind, toOption_ok, Option.bind_some,
      toOption_readWeights_keySorted hn (hapart rfl)]
  | moveScale | maskBody | inpaintTools | xlMagic =>
    simp only [ofPayload, readMapping, toOption_bind, toOption_ok, Option.bind_some,
      toOption_readRealOr_keySorted hn, toOption_readFlag_keySorted hn,
      toOption_readCount_keySorted hn, toOption_readAmount_keySorted hn]
  | note | prompt | negativePrompt | canvasLoad | canvasSave | moodboardAdd | loopAddMoodboard
  | maskLoad | maskAsk | askZoom | loopLoad | loopSave | frames | moodboardRemove => rfl
  | _ =>
    rw [← Json.sortKeys_object]
    exact toOption_readBare_sortKeys _ _

/-! ## Instructions -/

/-- The instruction with free-form data in key order. -/
def keySorted : Instruction → Instruction
  | .poseJson data => .poseJson data.keySorted
  | i => i

theorem keySorted_of_kind_ne (h : i.kind ≠ .poseJson) : i.keySorted = i := by
  cases i <;> first | rfl | exact absurd rfl h

/-- Sorted parameters are parameters of the sorted instruction. -/
theorem toOption_ofPayload_sortKeys (h : value.Distinct)
    (hapart : kind = .moodboardWeights →
      ∀ members, value = .object members → IndicesApart members) :
    (ofPayload kind value.sortKeys).toOption =
      (ofPayload kind value).toOption.map keySorted := by
  by_cases hkind : kind = .poseJson
  · subst hkind
    cases value with
    | object members =>
      rw [Json.sortKeys_object]
      rfl
    | _ => simp [Json.sortKeys, ofPayload, readMapping, refuse, toOption_error]
  · have hself :
        (ofPayload kind value).toOption.map keySorted = (ofPayload kind value).toOption := by
      cases hread : ofPayload kind value with
      | error failure => rfl
      | ok i =>
        obtain ⟨hi, -⟩ := readable_of_ofPayload hread
        exact congrArg some (keySorted_of_kind_ne (hi ▸ hkind))
    rw [hself]
    cases value with
    | object members =>
      rw [Json.sortKeys_object]
      exact toOption_ofPayload_keySorted hkind h fun hk => hapart hk members rfl
    | array items =>
      rw [Json.sortKeys_array]
      cases kind <;> rfl
    | _ => simp

/-- If the value is a wire object of weights, no two of their keys name one index. -/
def WeightsApart (w : Json) : Prop :=
  ∀ members, w = .object [(Kind.moodboardWeights.key, .object members)] → IndicesApart members

theorem sortKeys_singleton (key : String) (value : Json) :
    (Json.object [(key, value)]).sortKeys = .object [(key, value.sortKeys)] := by
  rw [Json.sortKeys_object, Members.keySorted, Members.sortMembers_eq]
  exact congrArg Json.object (List.mergeSort_singleton _)

theorem ofWire_of_length_ne_one (h : members.length ≠ 1) :
    (ofWire (.object members)).toOption = none := by
  match members with
  | [] => rfl
  | [m] => exact absurd rfl h
  | _ :: _ :: _ => rfl

/-- A sorted wire object is read as the sorted instruction. -/
theorem toOption_ofWire_sortKeys {w : Json} (h : w.Distinct) (hapart : WeightsApart w) :
    (ofWire w.sortKeys).toOption = (ofWire w).toOption.map keySorted := by
  cases w with
  | object members =>
    by_cases hone : members.length = 1
    · obtain ⟨⟨key, value⟩, rfl⟩ := List.length_eq_one_iff.mp hone
      rw [sortKeys_singleton, ofWire, ofWire]
      cases hkind : Kind.ofKey? key with
      | none => rfl
      | some kind =>
        refine toOption_ofPayload_sortKeys ((Json.distinct_object.mp h).2 _ List.mem_cons_self) ?_
        rintro rfl members rfl
        have hkey : Kind.moodboardWeights.key = key := by
          simpa using List.find?_some (p := fun kind : Kind => kind.key == key) hkind
        exact hapart members (by rw [hkey])
    · have hsorted : (Members.keySorted members).length ≠ 1 := by rwa [Members.length_keySorted]
      rw [Json.sortKeys_object, ofWire_of_length_ne_one hsorted, ofWire_of_length_ne_one hone]
      rfl
  | array items =>
    rw [Json.sortKeys_array]
    rfl
  | _ => simp [ofWire, toOption_error]

theorem weightsApart_toWire (h : i.Readable) : WeightsApart i.toWire := by
  intro members hwire
  rw [toWire, Json.object.injEq, List.cons.injEq, Prod.mk.injEq] at hwire
  obtain ⟨⟨hkey, hpayload⟩, -⟩ := hwire
  have hkind : i.kind = .moodboardWeights := by
    rw [← Option.some.injEq, ← Kind.ofKey?_key, hkey, Kind.ofKey?_key]
  cases i <;> cases hkind
  cases hpayload
  exact indicesApart_writeWeights h.short

theorem ofWire_sortKeys (h : i.Readable)
    (hdata : ∀ data, i = .poseJson data → (Json.object data).Distinct) :
    ofWire i.toWire.sortKeys = .ok i.keySorted := by
  refine toOption_eq_some.mp ?_
  rw [toOption_ofWire_sortKeys (distinct_toWire h hdata) (weightsApart_toWire h), ofWire_toWire h]
  rfl

/-- Sorting an instruction does not change its sorted wire object. -/
theorem sortKeys_toWire_keySorted (i : Instruction) :
    i.keySorted.toWire.sortKeys = i.toWire.sortKeys := by
  rw [toWire, toWire, sortKeys_singleton, sortKeys_singleton]
  cases i with
  | poseJson data =>
    have hsorted := Json.sortKeys_sortKeys (.object data)
    rw [Json.sortKeys_object data] at hsorted
    rw [keySorted, payload, payload, Json.sortKeys_object data, hsorted]
    rfl
  | _ => rfl

/-- An instruction equals the sorted one, as long as its free-form data repeat no key. -/
theorem same_keySorted (i : Instruction)
    (hdata : ∀ data, i = .poseJson data → (Json.object data).Distinct) :
    i.same i.keySorted = true := by
  cases i with
  | poseJson data =>
    have h := Json.same_sortKeys (hdata data rfl)
    rwa [Json.sortKeys_object] at h
  | _ => exact same_self _ hdata

end Instruction

end ImageWorkflow
