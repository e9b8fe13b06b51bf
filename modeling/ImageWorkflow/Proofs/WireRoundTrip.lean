import Mathlib
import ImageWorkflow.Proofs.Sameness
import ImageWorkflow.Proofs.SettingsWire
import ImageWorkflow.Proofs.Weights

/-!
# Instructions on the wire and back

* `Instruction.Readable` : an instruction as it is read: its numbers are numbers, its weights and
  settings such as are read (`readable_of_ofWire`);
* `Instruction.ofWire_toWire` : written, such an instruction is read as itself.
-/

namespace ImageWorkflow

theorem Kind.ofKey?_key (kind : Kind) : ofKey? kind.key = some kind := by
  cases kind <;> decide

namespace Instruction
variable {kind : Kind} {field : String} {members : Members} {value : Json} {i : Instruction}

/-! ## Parameters that are read -/

theorem inRange_of_readInteger {field : Option String} {n : Int}
    (h : readInteger kind field value = .ok n) : InRange n :=
  Json.inRange_of_integer? (mapError_eq_ok.mp h)

theorem exists_of_readOptional {α : Type} {read : Json → Except DecodeFailure α} {o : Option α}
    (h : readOptional members field read = .ok o) {a : α} (ha : a ∈ o) :
    ∃ value, read value = .ok a := by
  unfold readOptional at h
  split at h
  · cases h; cases ha
  · cases h; cases ha
  · rename_i value _ _
    obtain ⟨b, hb, h⟩ := map_eq_ok.mp h
    cases h
    cases ha
    exact ⟨value, hb⟩

theorem inRange_of_readCount {o : Option Int} (h : readCount kind members field = .ok o) :
    ∀ n ∈ o, InRange n := by
  intro n hn
  obtain ⟨value, hv⟩ := exists_of_readOptional h hn
  exact inRange_of_readInteger hv

theorem isFinite_of_readAmount {o : Option Binary64} (h : readAmount kind members field = .ok o) :
    ∀ x ∈ o, x.isFinite = true := by
  intro x hx
  obtain ⟨value, hv⟩ := exists_of_readOptional h hx
  exact isFinite_of_readReal hv

theorem isFinite_of_readRealOr {fallback x : Binary64} (hf : fallback.isFinite = true)
    (h : readRealOr kind members field fallback = .ok x) : x.isFinite = true := by
  unfold readRealOr at h
  split at h
  · rwa [← Except.ok.inj h]
  · exact isFinite_of_readReal h

theorem readable_of_readSettings {s : Settings} (h : readSettings members = .ok s) : s.Readable :=
  Settings.readable_of_ofMembers (mapError_eq_ok.mp h)

theorem eq_of_readBare {j : Instruction} (h : readBare i value = .ok j) : i = j := by
  unfold readBare at h
  split at h
  · exact Except.ok.inj h
  · exact Except.ok.inj h
  · cases h

/-- An instruction as it is read. -/
def Readable : Instruction → Prop
  | .loop count start => InRange count ∧ InRange start
  | .config settings => settings.Readable
  | .frames n | .moodboardRemove n => InRange n
  | .moveScale x y scale => x.isFinite = true ∧ y.isFinite = true ∧ scale.isFinite = true
  | .adaptSize maxWidth maxHeight => InRange maxWidth ∧ InRange maxHeight
  | .moodboardWeights weights => WeightsReadable weights
  | .maskBody _ _ _ neck => ∀ n ∈ neck, InRange n
  | .inpaintTools strength maskBlur maskBlurOutset _ =>
    (∀ x ∈ strength, x.isFinite = true) ∧ (∀ n ∈ maskBlur, InRange n) ∧
      ∀ n ∈ maskBlurOutset, InRange n
  | .xlMagic original target negative =>
    (∀ x ∈ original, x.isFinite = true) ∧ (∀ x ∈ target, x.isFinite = true) ∧
      ∀ x ∈ negative, x.isFinite = true
  | _ => True

/-- What is read of a kind is of that kind. -/
theorem readable_of_ofPayload (h : ofPayload kind value = .ok i) :
    i.kind = kind ∧ i.Readable := by
  cases kind with
  | loop =>
    simp only [ofPayload] at h
    split at h
    · split at h
      · cases h
      · obtain ⟨count, hcount, h⟩ := bind_eq_ok.mp h
        split at h
        · cases h
          exact ⟨rfl, inRange_of_readInteger hcount, inRange_zero⟩
        · obtain ⟨start, hstart, h⟩ := bind_eq_ok.mp h
          cases h
          exact ⟨rfl, inRange_of_readInteger hcount, inRange_of_readInteger hstart⟩
    · obtain ⟨count, hcount, h⟩ := bind_eq_ok.mp h
      cases h
      exact ⟨rfl, inRange_of_readInteger hcount, inRange_zero⟩
  | config =>
    obtain ⟨members, -, h⟩ := bind_eq_ok.mp h
    obtain ⟨settings, hs, h⟩ := bind_eq_ok.mp h
    cases h
    exact ⟨rfl, readable_of_readSettings hs⟩
  | frames | moodboardRemove =>
    obtain ⟨n, hn, h⟩ := map_eq_ok.mp h
    cases h
    exact ⟨rfl, inRange_of_readInteger hn⟩
  | moveScale =>
    obtain ⟨members, -, h⟩ := bind_eq_ok.mp h
    obtain ⟨x, hx, h⟩ := bind_eq_ok.mp h
    obtain ⟨y, hy, h⟩ := bind_eq_ok.mp h
    obtain ⟨scale, hscale, h⟩ := bind_eq_ok.mp h
    cases h
    exact ⟨rfl, isFinite_of_readRealOr rfl hx, isFinite_of_readRealOr rfl hy,
      isFinite_of_readRealOr Binary64.isFinite_one hscale⟩
  | adaptSize =>
    obtain ⟨members, -, h⟩ := bind_eq_ok.mp h
    split at h
    · obtain ⟨width, hwidth, h⟩ := bind_eq_ok.mp h
      obtain ⟨height, hheight, h⟩ := bind_eq_ok.mp h
      cases h
      exact ⟨rfl, inRange_of_readInteger hwidth, inRange_of_readInteger hheight⟩
    · cases h
  | moodboardWeights =>
    obtain ⟨members, -, h⟩ := bind_eq_ok.mp h
    obtain ⟨weights, hweights, h⟩ := bind_eq_ok.mp h
    cases h
    exact ⟨rfl, weightsReadable_of_readWeights hweights⟩
  | maskBody =>
    obtain ⟨members, -, h⟩ := bind_eq_ok.mp h
    obtain ⟨upper, -, h⟩ := bind_eq_ok.mp h
    obtain ⟨lower, -, h⟩ := bind_eq_ok.mp h
    obtain ⟨clothes, -, h⟩ := bind_eq_ok.mp h
    obtain ⟨neck, hneck, h⟩ := bind_eq_ok.mp h
    cases h
    exact ⟨rfl, inRange_of_readCount hneck⟩
  | inpaintTools =>
    obtain ⟨members, -, h⟩ := bind_eq_ok.mp h
    obtain ⟨strength, hstrength, h⟩ := bind_eq_ok.mp h
    obtain ⟨maskBlur, hblur, h⟩ := bind_eq_ok.mp h
    obtain ⟨maskBlurOutset, houtset, h⟩ := bind_eq_ok.mp h
    obtain ⟨restoreOriginal, -, h⟩ := bind_eq_ok.mp h
    cases h
    exact ⟨rfl, isFinite_of_readAmount hstrength, inRange_of_readCount hblur,
      inRange_of_readCount houtset⟩
  | xlMagic =>
    obtain ⟨members, -, h⟩ := bind_eq_ok.mp h
    obtain ⟨original, horiginal, h⟩ := bind_eq_ok.mp h
    obtain ⟨target, htarget, h⟩ := bind_eq_ok.mp h
    obtain ⟨negative, hnegative, h⟩ := bind_eq_ok.mp h
    cases h
    exact ⟨rfl, isFinite_of_readAmount horiginal, isFinite_of_readAmount htarget,
      isFinite_of_readAmount hnegative⟩
  | note | prompt | negativePrompt | canvasLoad | canvasSave | moodboardAdd | loopAddMoodboard
  | maskLoad | maskAsk | askZoom | loopLoad | loopSave | poseJson =>
    obtain ⟨a, -, h⟩ := map_eq_ok.mp h
    cases h
    exact ⟨rfl, trivial⟩
  | _ =>
    cases eq_of_readBare h
    exact ⟨rfl, trivial⟩

theorem readable_of_ofWire {w : Json} (h : ofWire w = .ok i) : i.Readable := by
  unfold ofWire at h
  split at h
  · split at h
    · exact (readable_of_ofPayload h).2
    · cases h
  · cases h

/-! ## Parameters that are written -/

theorem readInteger_int {field : Option String} {n : Int} (h : InRange n) :
    readInteger kind field (.int n) = .ok n := by
  rw [readInteger, Json.integer?_int h]
  rfl

section presentMembers
variable {fields : List (String × Option Json)} {key : String} {o : Option Json}

theorem mem_presentMembers : (key, value) ∈ presentMembers fields ↔ (key, some value) ∈ fields := by
  simp only [presentMembers, List.mem_filterMap, Option.map_eq_some_iff, Prod.mk.injEq]
  constructor
  · rintro ⟨⟨k, o⟩, hmem, v, rfl, rfl, rfl⟩
    exact hmem
  · exact fun hmem => ⟨_, hmem, value, rfl, rfl, rfl⟩

theorem nodup_keys_presentMembers (hn : (fields.map (·.1)).Nodup) :
    ((presentMembers fields).map (·.1)).Nodup := by
  refine hn.sublist ?_
  induction fields with
  | nil => exact .slnil
  | cons first fields ih =>
    obtain ⟨k, o⟩ := first
    cases o with
    | none => exact (ih hn.of_cons).cons k
    | some v => exact (ih hn.of_cons).cons_cons k

/-- Looking up a field of those that are there gives what was put in. -/
theorem get?_presentMembers (hn : (fields.map (·.1)).Nodup) (h : (key, o) ∈ fields) :
    Members.get? (presentMembers fields) key = o := by
  cases o with
  | some v => exact Members.get?_of_mem (nodup_keys_presentMembers hn) (mem_presentMembers.mpr h)
  | none =>
    refine Members.get?_of_not_mem fun hkey => ?_
    obtain ⟨⟨k, v⟩, hmem, rfl⟩ := List.mem_map.mp hkey
    cases List.inj_on_of_nodup_map hn h (mem_presentMembers.mp hmem) rfl

end presentMembers

theorem readOptional_map {α : Type} {read : Json → Except DecodeFailure α} {write : α → Json}
    {o : Option α} (hget : Members.get? members field = o.map write)
    (hnull : ∀ a, write a ≠ .null) (hread : ∀ a ∈ o, read (write a) = .ok a) :
    readOptional members field read = .ok o := by
  unfold readOptional
  rw [hget]
  cases o with
  | none => rfl
  | some a =>
    simp only [Option.map_some]
    split
    · rename_i h; cases h
    · rename_i h; exact absurd (Option.some.inj h) (hnull a)
    · rename_i h
      cases h
      rw [hread a rfl]
      rfl

theorem readFlag_map {o : Option Bool} (hget : Members.get? members field = o.map .bool) :
    readFlag kind members field = .ok o :=
  readOptional_map hget (by simp) fun _ _ => rfl

theorem readCount_map {o : Option Int} (hget : Members.get? members field = o.map .int)
    (h : ∀ n ∈ o, InRange n) : readCount kind members field = .ok o :=
  readOptional_map hget (by simp) fun n hn => readInteger_int (h n hn)

theorem readAmount_map {o : Option Binary64} (hget : Members.get? members field = o.map .float)
    (h : ∀ x ∈ o, x.isFinite = true) : readAmount kind members field = .ok o :=
  readOptional_map hget (by simp) fun x hx => readReal_float (h x hx)

theorem ofPayload_payload (h : i.Readable) : ofPayload i.kind i.payload = .ok i := by
  cases i with
  | loop count start =>
    obtain ⟨hcount, hstart⟩ := h
    exact bind_eq_ok.mpr ⟨count, readInteger_int hcount,
      bind_eq_ok.mpr ⟨start, readInteger_int hstart, rfl⟩⟩
  | config settings =>
    have hs : readSettings settings.toWire = .ok settings := by
      rw [readSettings, Settings.ofMembers_toWire h]
      rfl
    refine bind_eq_ok.mpr ⟨settings.toWire, rfl, ?_⟩
    rw [hs]
    rfl
  | frames n | moodboardRemove n =>
    exact map_eq_ok.mpr ⟨n, readInteger_int h, rfl⟩
  | moveScale x y scale =>
    obtain ⟨hx, hy, hscale⟩ := h
    exact bind_eq_ok.mpr ⟨_, rfl, bind_eq_ok.mpr ⟨x, readReal_float hx,
      bind_eq_ok.mpr ⟨y, readReal_float hy, bind_eq_ok.mpr ⟨scale, readReal_float hscale, rfl⟩⟩⟩⟩
  | adaptSize maxWidth maxHeight =>
    obtain ⟨hwidth, hheight⟩ := h
    exact bind_eq_ok.mpr ⟨_, rfl, bind_eq_ok.mpr ⟨maxWidth, readInteger_int hwidth,
      bind_eq_ok.mpr ⟨maxHeight, readInteger_int hheight, rfl⟩⟩⟩
  | moodboardWeights weights =>
    refine bind_eq_ok.mpr ⟨writeWeights weights, rfl, ?_⟩
    rw [readWeights_write h]
    rfl
  | maskBody upper lower clothes neck =>
    exact bind_eq_ok.mpr ⟨_, rfl,
      bind_eq_ok.mpr ⟨upper, readFlag_map (get?_presentMembers (by simp) (by simp)),
      bind_eq_ok.mpr ⟨lower, readFlag_map (get?_presentMembers (by simp) (by simp)),
      bind_eq_ok.mpr ⟨clothes, readFlag_map (get?_presentMembers (by simp) (by simp)),
      bind_eq_ok.mpr ⟨neck, readCount_map (get?_presentMembers (by simp) (by simp)) h, rfl⟩⟩⟩⟩⟩
  | inpaintTools strength maskBlur maskBlurOutset restoreOriginal =>
    obtain ⟨hstrength, hblur, houtset⟩ := h
    exact bind_eq_ok.mpr ⟨_, rfl,
      bind_eq_ok.mpr ⟨_, readAmount_map (get?_presentMembers (by simp) (by simp)) hstrength,
      bind_eq_ok.mpr ⟨_, readCount_map (get?_presentMembers (by simp) (by simp)) hblur,
      bind_eq_ok.mpr ⟨_, readCount_map (get?_presentMembers (by simp) (by simp)) houtset,
      bind_eq_ok.mpr ⟨_, readFlag_map (get?_presentMembers (by simp) (by simp)), rfl⟩⟩⟩⟩⟩
  | xlMagic original target negative =>
    obtain ⟨horiginal, htarget, hnegative⟩ := h
    exact bind_eq_ok.mpr ⟨_, rfl,
      bind_eq_ok.mpr ⟨_, readAmount_map (get?_presentMembers (by simp) (by simp)) horiginal,
      bind_eq_ok.mpr ⟨_, readAmount_map (get?_presentMembers (by simp) (by simp)) htarget,
      bind_eq_ok.mpr ⟨_, readAmount_map (get?_presentMembers (by simp) (by simp)) hnegative,
      rfl⟩⟩⟩⟩
  | _ => rfl

/-- Written, an instruction that was read is read as itself. -/
theorem ofWire_toWire (h : i.Readable) : ofWire i.toWire = .ok i := by
  simp only [ofWire, toWire, Kind.ofKey?_key]
  exact ofPayload_payload h

/-! ## No key is written twice -/

theorem distinct_presentMembers {fields : List (String × Option Json)}
    (hn : (fields.map (·.1)).Nodup)
    (hv : ∀ field ∈ fields, ∀ v, field.2 = some v → v.Distinct) :
    (Json.object (presentMembers fields)).Distinct := by
  refine Json.distinct_object.mpr ⟨nodup_keys_presentMembers hn, fun m hm => ?_⟩
  exact hv _ (mem_presentMembers.mp hm) _ rfl

theorem toWire_eq_presentMembers (s : Settings) : s.toWire = presentMembers
    [("width", s.width.map .int), ("height", s.height.map .int), ("steps", s.steps.map .int),
      ("guidanceScale", s.guidanceScale.map .float), ("seed", s.seed.map .int),
      ("model", s.model.map .str), ("samplerName", s.sampler.map .str),
      ("numFrames", s.numFrames.map .int), ("strength", s.strength.map .float),
      ("batchCount", s.batchCount.map .int), ("batchSize", s.batchSize.map .int),
      ("clipSkip", s.clipSkip.map .int), ("shift", s.shift.map .float),
      ("loras", s.loras.map fun loras => .array (loras.map LoRA.toJson))] := by
  simp only [Settings.toWire, presentMembers, List.filterMap_cons, List.filterMap_nil,
    Option.map_map, id_eq]
  rfl

theorem distinct_toJson (l : LoRA) : l.toJson.Distinct := by
  simp [LoRA.toJson, Json.distinct_object]

theorem distinct_toWire_settings (s : Settings) : (Json.object s.toWire).Distinct := by
  rw [toWire_eq_presentMembers]
  exact distinct_presentMembers (by simp) (by simp [Json.distinct_array, distinct_toJson])

theorem distinct_writeWeights {weights : List (Nat × Binary64)} (h : WeightsReadable weights) :
    (Json.object (writeWeights weights)).Distinct := by
  refine Json.distinct_object.mpr ⟨nodup_writeWeights h.nodup, fun m hm => ?_⟩
  obtain ⟨entry, -, rfl⟩ := List.mem_map.mp hm
  exact Json.distinct_float entry.2

/-- What is written of an instruction that was read repeats no key, as long as free-form data do
not. -/
theorem distinct_toWire (h : i.Readable)
    (hdata : ∀ data, i = .poseJson data → (Json.object data).Distinct) : i.toWire.Distinct := by
  have hpayload : i.payload.Distinct := by
    cases i with
    | config settings => exact distinct_toWire_settings settings
    | moodboardWeights weights => exact distinct_writeWeights h
    | poseJson data => exact hdata data rfl
    | maskBody | inpaintTools | xlMagic =>
      exact distinct_presentMembers (by simp) (by simp [-Bool.exists_bool, -Bool.forall_bool])
    | _ => simp [payload, Json.distinct_object]
  simpa [toWire, Json.distinct_object] using hpayload

theorem eq_object_of_ofWire_poseJson {w : Json} {data : Members}
    (h : ofWire w = .ok (.poseJson data)) : ∃ key, w = .object [(key, .object data)] := by
  unfold ofWire at h
  split at h
  · rename_i key value
    split at h
    · rename_i kind _
      obtain ⟨rfl, -⟩ := readable_of_ofPayload h
      obtain ⟨members, hmembers, hdata⟩ := map_eq_ok.mp h
      cases hdata
      unfold readMapping at hmembers
      split at hmembers
      · cases hmembers
        exact ⟨key, rfl⟩
      · cases hmembers
    · cases h
  · cases h

/-! ## Round trips -/

/-- Written, an instruction that was read is read as itself: what is written is a normal form that
reading and writing leave alone.  It repeats no key if what was read did not, and the instruction
equals itself by value. -/
theorem ofWire_normal {w : Json} (h : ofWire w = .ok i) :
    ofWire i.toWire = .ok i ∧ (w.Distinct → i.toWire.Distinct ∧ i.same i = true) := by
  have hi := readable_of_ofWire h
  refine ⟨ofWire_toWire hi, fun hw => ?_⟩
  have hdata : ∀ data, i = .poseJson data → (Json.object data).Distinct := by
    rintro data rfl
    obtain ⟨key, rfl⟩ := eq_object_of_ofWire_poseJson h
    exact (Json.distinct_object.mp hw).2 _ List.mem_cons_self
  exact ⟨distinct_toWire hi hdata, same_self i hdata⟩

/-- An integer for a real, a real for an integer, and null for a missing member, in any order. -/
theorem ofWire_normal_inpaintTools :
    let w : Json := .object [("inpaintTools", .object [("maskBlur", .float (.ofRat 4)),
      ("maskBlurOutset", .null), ("strength", .int 1)])]
    let i : Instruction := .inpaintTools (some (.ofRat 1)) (some 4) none none
    ofWire w = .ok i ∧ ofWire i.toWire = .ok i ∧ i.toWire = .object [("inpaintTools", .object
      [("strength", .float (.ofRat 1)), ("maskBlur", .int 4)])] := by
  intro w i
  have hstrength : (Json.int 1).real? = .ok (.ofRat 1) := by decide +kernel
  have hblur : (Json.float (.ofRat 4)).integer? = .ok 4 := by decide +kernel
  have h : ofWire w = .ok i := by
    refine bind_eq_ok.mpr ⟨_, rfl, bind_eq_ok.mpr ⟨some (.ofRat 1), ?_,
      bind_eq_ok.mpr ⟨some 4, ?_, bind_eq_ok.mpr ⟨none, rfl, bind_eq_ok.mpr ⟨none, rfl, rfl⟩⟩⟩⟩⟩
    · exact map_eq_ok.mpr ⟨_, mapError_eq_ok.mpr hstrength, rfl⟩
    · exact map_eq_ok.mpr ⟨_, mapError_eq_ok.mpr hblur, rfl⟩
  exact ⟨h, (ofWire_normal h).1, rfl⟩

end Instruction

end ImageWorkflow
