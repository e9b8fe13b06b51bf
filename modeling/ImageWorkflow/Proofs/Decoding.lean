import Mathlib
import ImageWorkflow.Proofs.WireRoundTrip
import ImageWorkflow.Workflow.Validation

/-!
# What validation makes of a payload

Each item of a payload is an instruction or is refused, and validation reports those that are
refused.  It has no answer to a payload with an item that is neither: an integer past every
floating-point number where a number is wanted, or a weight key whose digits are no numeral.
* `Json.Inside v w` : `v` is `w` or stands inside it; `Json.Moderate` : no such integers and no such
  keys inside;
* `Instruction.failsOnly_ofWire` : a moderate value is an instruction or is refused;
* `Workflow.refusals` : the items that are refused, as errors; `Workflow.decodeItems_eq` : decoding
  reports exactly these;
* `Workflow.validatePayload_answers` : when validation answers, and what;
  `Workflow.judged_frames_iff`, `Workflow.judged_weight_iff` : the bounds are sharp.
-/

namespace ImageWorkflow

/-! ## Moderate values -/

theorem Members.mem_of_get? {members : Members} {key : String} {value : Json}
    (h : Members.get? members key = some value) : (key, value) ∈ members := by
  induction members with
  | nil => cases h
  | cons first members ih =>
    obtain ⟨k, v⟩ := first
    unfold Members.get? at h
    split at h
    · rename_i hk
      cases h
      rw [hk]
      exact List.mem_cons_self
    · exact List.mem_cons_of_mem _ (ih h)

namespace Json

/-- The first value is the second, or stands somewhere inside it. -/
inductive Inside (v : Json) : Json → Prop
  | refl : Inside v v
  | item {items : List Json} {item : Json} :
      item ∈ items → Inside v item → Inside v (.array items)
  | member {members : Members} {key : String} {value : Json} :
      (key, value) ∈ members → Inside v value → Inside v (.object members)

/-- Every integer inside is in the range of the floating-point numbers, and the digits of every
weight key inside are a numeral that is short enough to be read. -/
structure Moderate (w : Json) : Prop where
  integers : ∀ n, Inside (.int n) w → InRange n
  numerals : ∀ members key value digits, Inside (.object members) w → (key, value) ∈ members →
    Instruction.weightDigits? key = some digits →
      digits.length ≤ maxIntegerDigits ∧ ∀ c ∈ digits, (Text.decimalValue? c).isSome = true

variable {value entry : Json} {items : List Json} {members : Members} {key : String}

theorem Moderate.item (h : (Json.array items).Moderate) (hi : entry ∈ items) : entry.Moderate where
  integers n hn := h.integers n (.item hi hn)
  numerals members key v digits hm := h.numerals members key v digits (.item hi hm)

theorem Moderate.member (h : (Json.object members).Moderate) (hv : (key, value) ∈ members) :
    value.Moderate where
  integers n hn := h.integers n (.member hv hn)
  numerals members' key' v digits hm := h.numerals members' key' v digits (.member hv hm)

theorem Moderate.get? (h : (Json.object members).Moderate)
    (hv : Members.get? members key = some value) : value.Moderate :=
  h.member (Members.mem_of_get? hv)

theorem moderate_str (text : String) : (Json.str text).Moderate where
  integers _ h := nomatch h
  numerals _ _ _ _ h := nomatch h

theorem moderate_array (h : ∀ entry ∈ items, entry.Moderate) : (Json.array items).Moderate where
  integers n hn := by
    cases hn with
    | item hi hn => exact (h _ hi).integers n hn
  numerals members key v digits hm := by
    cases hm with
    | item hi hm => exact (h _ hi).numerals members key v digits hm

theorem moderate_object (h : ∀ member ∈ members, member.2.Moderate)
    (hkeys : ∀ member ∈ members, Instruction.weightDigits? member.1 = none) :
    (Json.object members).Moderate where
  integers n hn := by
    cases hn with
    | member hv hn => exact (h _ hv).integers n hn
  numerals members' key v digits hm hv hdigits := by
    cases hm with
    | refl => exact absurd hdigits (by simp [hkeys _ hv])
    | member hv' hm => exact (h _ hv').numerals members' key v digits hm hv hdigits

theorem failsOnly_integer? (h : value.Moderate) : FailsOnly (· = .wrongKind) value.integer? := by
  cases value with
  | int n =>
    rw [integer?_int (h.integers n .refl)]
    exact failsOnly_ok n
  | float x =>
    simp only [integer?]
    split
    · exact failsOnly_ok _
    · exact failsOnly_error rfl
  | _ => exact failsOnly_error rfl

theorem failsOnly_real? (h : value.Moderate) : FailsOnly (· = .wrongKind) value.real? := by
  cases value with
  | int n =>
    obtain ⟨x, hx⟩ := Option.isSome_iff_exists.mp (h.integers n .refl)
    rw [real?, hx]
    exact failsOnly_ok x
  | float x =>
    simp only [real?]
    split
    · exact failsOnly_ok x
    · exact failsOnly_error rfl
  | _ => exact failsOnly_error rfl

end Json

/-! ## Settings -/

section Settings
variable {value : Json} {members : Members} {key name : String}

/-- What is wrong is the settings' own fault, and no integer past every number. -/
def SettingsFault.IsOwn (fault : SettingsFault) : Prop := fault ≠ .tooLarge

theorem SettingsFault.isOwn_ofNumber (fault : SettingsFault) (h : fault ≠ .tooLarge) :
    ∀ error, error = NumberFault.wrongKind → (ofNumber fault error).IsOwn := by
  rintro error rfl
  exact h

theorem LoRA.failsOnly_ofJson (h : value.Moderate) : FailsOnly SettingsFault.IsOwn (ofJson value) := by
  cases value with
  | object members =>
    have hfile : FailsOnly SettingsFault.IsOwn (readFile (.object members)) := by
      unfold readFile
      split
      · split
        · exact failsOnly_error nofun
        · exact failsOnly_ok _
      · exact failsOnly_error nofun
    have hweight : FailsOnly SettingsFault.IsOwn (readWeight (.object members)) := by
      unfold readWeight
      split
      · exact failsOnly_ok _
      · rename_i w hw
        refine ((Json.failsOnly_real? (h.get? hw)).imp ?_).mapError
        exact SettingsFault.isOwn_ofNumber (.loraWeight w) nofun
    have hmode : FailsOnly SettingsFault.IsOwn (readMode (.object members)) := by
      unfold readMode
      split
      · exact failsOnly_ok _
      · exact failsOnly_ok _
      · exact failsOnly_error nofun
    exact hfile.bind fun _ _ => hweight.bind fun _ _ => hmode.bind fun _ _ => failsOnly_ok _
  | _ => exact failsOnly_error nofun

namespace Settings

theorem failsOnly_readInteger (h : value.Moderate) :
    FailsOnly SettingsFault.IsOwn (readInteger name value) :=
  ((Json.failsOnly_integer? h).imp
    (SettingsFault.isOwn_ofNumber (.notInteger name value) nofun)).mapError.map

theorem failsOnly_readNumber (h : value.Moderate) :
    FailsOnly SettingsFault.IsOwn (readNumber name value) :=
  ((Json.failsOnly_real? h).imp
    (SettingsFault.isOwn_ofNumber (.notNumber name value) nofun)).mapError.map

theorem failsOnly_readString : FailsOnly SettingsFault.IsOwn (readString name value) := by
  unfold readString
  split
  · exact failsOnly_ok _
  · exact failsOnly_error nofun

theorem failsOnly_readLoRAs (h : value.Moderate) :
    FailsOnly SettingsFault.IsOwn (readLoRAs name value) := by
  cases value with
  | array items =>
    exact (FailsOnly.mapM fun item hi => LoRA.failsOnly_ofJson (h.item hi)).map
  | _ => exact failsOnly_error nofun

theorem failsOnly_readMember (s : Settings) (h : value.Moderate) :
    FailsOnly SettingsFault.IsOwn (s.readMember key value) := by
  unfold readMember
  split
  · exact failsOnly_ok s
  · split
    all_goals first
      | exact failsOnly_ok s
      | exact (failsOnly_readInteger h).bind fun _ _ => failsOnly_ok _
      | exact (failsOnly_readNumber h).bind fun _ _ => failsOnly_ok _
      | exact failsOnly_readString.bind fun _ _ => failsOnly_ok _
      | exact (failsOnly_readLoRAs h).bind fun _ _ => failsOnly_ok _

theorem failsOnly_ofMembers (h : (Json.object members).Moderate) :
    FailsOnly SettingsFault.IsOwn (ofMembers members) :=
  FailsOnly.foldlM _ fun s _ hm => s.failsOnly_readMember (h.member hm)

end Settings

end Settings

/-! ## Instructions -/

/-- The value is refused as an instruction. -/
def DecodeFailure.IsRefusal (failure : DecodeFailure) : Prop := ∃ error, failure = .refused error

namespace Instruction
variable {value : Json} {members : Members} {kind : Kind} {field : String}

theorem failsOnly_refuse {α : Type} {fault : PayloadFault} :
    FailsOnly DecodeFailure.IsRefusal (refuse kind fault : Except DecodeFailure α) :=
  failsOnly_error ⟨_, rfl⟩

theorem failsOnly_readText : FailsOnly DecodeFailure.IsRefusal (readText kind value) := by
  cases value with
  | str text => exact failsOnly_ok text
  | _ => exact failsOnly_refuse

theorem failsOnly_readMapping : FailsOnly DecodeFailure.IsRefusal (readMapping kind value) := by
  cases value with
  | object members => exact failsOnly_ok members
  | _ => exact failsOnly_refuse

/-- What is read from the members of an object that stands for the parameters. -/
theorem failsOnly_readMapping_bind {α : Type} {read : Members → Except DecodeFailure α}
    (h : value.Moderate) (hread : ∀ members, (Json.object members).Moderate →
      FailsOnly DecodeFailure.IsRefusal (read members)) :
    FailsOnly DecodeFailure.IsRefusal (readMapping kind value >>= read) := by
  refine failsOnly_readMapping.bind fun members hm => ?_
  cases value with
  | object members' =>
    cases hm
    exact hread members h
  | _ => cases hm

theorem failsOnly_readInteger {field : Option String} (h : value.Moderate) :
    FailsOnly DecodeFailure.IsRefusal (readInteger kind field value) := by
  refine ((Json.failsOnly_integer? h).imp ?_).mapError
  rintro error rfl
  exact ⟨_, rfl⟩

theorem failsOnly_readReal {field : Option String} (h : value.Moderate) :
    FailsOnly DecodeFailure.IsRefusal (readReal kind field value) := by
  refine ((Json.failsOnly_real? h).imp ?_).mapError
  rintro error rfl
  exact ⟨_, rfl⟩

theorem failsOnly_readOptional {α : Type} {read : Json → Except DecodeFailure α}
    (h : (Json.object members).Moderate)
    (hread : ∀ value, value.Moderate → FailsOnly DecodeFailure.IsRefusal (read value)) :
    FailsOnly DecodeFailure.IsRefusal (readOptional members field read) := by
  unfold readOptional
  split
  · exact failsOnly_ok none
  · exact failsOnly_ok none
  · rename_i value _ hv
    exact (hread value (h.get? hv)).map

theorem failsOnly_readFlag (h : (Json.object members).Moderate) :
    FailsOnly DecodeFailure.IsRefusal (readFlag kind members field) := by
  refine failsOnly_readOptional h fun value _ => ?_
  cases value with
  | bool b => exact failsOnly_ok b
  | _ => exact failsOnly_refuse

theorem failsOnly_readCount (h : (Json.object members).Moderate) :
    FailsOnly DecodeFailure.IsRefusal (readCount kind members field) :=
  failsOnly_readOptional h fun _ => failsOnly_readInteger

theorem failsOnly_readAmount (h : (Json.object members).Moderate) :
    FailsOnly DecodeFailure.IsRefusal (readAmount kind members field) :=
  failsOnly_readOptional h fun _ => failsOnly_readReal

theorem failsOnly_readRealOr {fallback : Binary64} (h : (Json.object members).Moderate) :
    FailsOnly DecodeFailure.IsRefusal (readRealOr kind members field fallback) := by
  unfold readRealOr
  split
  · exact failsOnly_ok fallback
  · rename_i value hv
    exact failsOnly_readReal (h.get? hv)

theorem failsOnly_readSettings (h : (Json.object members).Moderate) :
    FailsOnly DecodeFailure.IsRefusal (readSettings members) := by
  refine ((Settings.failsOnly_ofMembers h).imp ?_).mapError
  intro fault hfault
  split
  · exact absurd rfl hfault
  · exact ⟨_, rfl⟩

theorem failsOnly_readBare (i : Instruction) :
    FailsOnly DecodeFailure.IsRefusal (readBare i value) := by
  unfold readBare
  split
  · exact failsOnly_ok i
  · exact failsOnly_ok i
  · exact failsOnly_refuse

/-! ### Weights -/

/-- The digits that are read as an index are those of a numeral that is short enough. -/
theorem readIndex_isOk_iff {digits : List Char} : (∃ n, readIndex digits = .ok n) ↔
    digits.length ≤ maxIntegerDigits ∧ ∀ c ∈ digits, (Text.decimalValue? c).isSome = true := by
  constructor
  · rintro ⟨n, h⟩
    simp only [readIndex] at h
    split at h
    · cases h
    rename_i hlength
    split at h
    · rename_i m hm
      rw [takeWhile_of_readDigits? hm, Nat.not_lt] at hlength
      exact ⟨hlength, (Text.lt_of_readDigits? hm).1⟩
    · cases h
  · rintro ⟨hlength, hall⟩
    obtain ⟨n, hn⟩ := Text.exists_readDigits? hall
    refine ⟨n, ?_⟩
    simp only [readIndex, takeWhile_of_readDigits? hn, hn]
    rw [if_neg (Nat.not_lt.mpr hlength)]

/-- Digits that are no index are not refused. -/
theorem readIndex_ne_refused {digits : List Char} {error : DecodeError} :
    readIndex digits ≠ .error (.refused error) := by
  intro h
  simp only [readIndex] at h
  split at h
  · cases h
  · split at h
    · cases h
    · cases h

theorem failsOnly_addWeight (h : (Json.object members).Moderate) (ws : List (Nat × Binary64))
    {member : String × Json} (hm : member ∈ members) :
    FailsOnly DecodeFailure.IsRefusal (addWeight ws member) := by
  unfold addWeight
  split
  · exact failsOnly_refuse
  · rename_i digits hdigits
    obtain ⟨n, hn⟩ := readIndex_isOk_iff.mpr (h.numerals _ _ _ _ .refl hm hdigits)
    rw [hn]
    exact (failsOnly_readReal (h.member hm)).bind fun _ _ => failsOnly_ok _

theorem failsOnly_readWeights (h : (Json.object members).Moderate) :
    FailsOnly DecodeFailure.IsRefusal (readWeights members) := by
  have hfold : FailsOnly DecodeFailure.IsRefusal (members.foldlM addWeight []) :=
    FailsOnly.foldlM [] fun ws _ hm => failsOnly_addWeight h ws hm
  exact hfold.bind fun _ _ => failsOnly_ok _

/-! ### All kinds -/

theorem failsOnly_ofPayload (h : value.Moderate) :
    FailsOnly DecodeFailure.IsRefusal (ofPayload kind value) := by
  cases kind with
  | loop =>
    simp only [ofPayload]
    split
    · split
      · exact failsOnly_refuse
      · rename_i members _ count hcount
        refine (failsOnly_readInteger (h.get? hcount)).bind fun _ _ => ?_
        split
        · exact failsOnly_ok _
        · rename_i start hstart
          exact (failsOnly_readInteger (h.get? hstart)).bind fun _ _ => failsOnly_ok _
    · exact (failsOnly_readInteger h).bind fun _ _ => failsOnly_ok _
  | config =>
    refine failsOnly_readMapping_bind h fun members hm => ?_
    exact (failsOnly_readSettings hm).bind fun _ _ => failsOnly_ok _
  | moveScale =>
    refine failsOnly_readMapping_bind h fun members hm => ?_
    refine (failsOnly_readRealOr hm).bind fun _ _ => ?_
    refine (failsOnly_readRealOr hm).bind fun _ _ => ?_
    exact (failsOnly_readRealOr hm).bind fun _ _ => failsOnly_ok _
  | adaptSize =>
    refine failsOnly_readMapping_bind h fun members hm => ?_
    split
    · rename_i width height hwidth hheight
      refine (failsOnly_readInteger (hm.get? hwidth)).bind fun _ _ => ?_
      exact (failsOnly_readInteger (hm.get? hheight)).bind fun _ _ => failsOnly_ok _
    · exact failsOnly_refuse
  | moodboardWeights =>
    refine failsOnly_readMapping_bind h fun members hm => ?_
    exact (failsOnly_readWeights hm).bind fun _ _ => failsOnly_ok _
  | maskBody =>
    refine failsOnly_readMapping_bind h fun members hm => ?_
    refine (failsOnly_readFlag hm).bind fun _ _ => ?_
    refine (failsOnly_readFlag hm).bind fun _ _ => ?_
    refine (failsOnly_readFlag hm).bind fun _ _ => ?_
    exact (failsOnly_readCount hm).bind fun _ _ => failsOnly_ok _
  | inpaintTools =>
    refine failsOnly_readMapping_bind h fun members hm => ?_
    refine (failsOnly_readAmount hm).bind fun _ _ => ?_
    refine (failsOnly_readCount hm).bind fun _ _ => ?_
    refine (failsOnly_readCount hm).bind fun _ _ => ?_
    exact (failsOnly_readFlag hm).bind fun _ _ => failsOnly_ok _
  | xlMagic =>
    refine failsOnly_readMapping_bind h fun members hm => ?_
    refine (failsOnly_readAmount hm).bind fun _ _ => ?_
    refine (failsOnly_readAmount hm).bind fun _ _ => ?_
    exact (failsOnly_readAmount hm).bind fun _ _ => failsOnly_ok _
  | frames | moodboardRemove => exact (failsOnly_readInteger h).map
  | poseJson => exact failsOnly_readMapping.map
  | note | prompt | negativePrompt | canvasLoad | canvasSave | moodboardAdd | loopAddMoodboard
  | maskLoad | maskAsk | askZoom | loopLoad | loopSave => exact failsOnly_readText.map
  | _ => exact failsOnly_readBare _

/-- A moderate value is an instruction or is refused as one. -/
theorem failsOnly_ofWire (h : value.Moderate) : FailsOnly DecodeFailure.IsRefusal (ofWire value) := by
  unfold ofWire
  split
  · rename_i key v
    split
    · exact failsOnly_ofPayload (h.member List.mem_cons_self)
    · exact failsOnly_error ⟨_, rfl⟩
  · exact failsOnly_error ⟨_, rfl⟩

end Instruction

/-! ## Payloads -/

namespace Workflow
variable {items : List Json} {index : Nat}

/-- The value is an instruction, or is refused as one. -/
def Judged (item : Json) : Prop := FailsOnly DecodeFailure.IsRefusal (Instruction.ofWire item)

/-- The instructions among the items. -/
def decoded (items : List Json) : Workflow := items.filterMap fun item =>
  (Instruction.ofWire item).toOption

/-- The error of an item and its index, if the item is refused. -/
def refusal? (entry : Json × Nat) : Option Located :=
  match Instruction.ofWire entry.1 with
  | .error (.refused error) => some ⟨.invalidInstruction error, some entry.2⟩
  | _ => none

/-- The errors of the items that are refused; the first item is at `index`. -/
def refusals (index : Nat) (items : List Json) : List Located :=
  (items.zipIdx index).filterMap refusal?

theorem index_of_refusal? {entry : Json × Nat} {l : Located} (h : refusal? entry = some l) :
    l.index = some entry.2 := by
  unfold refusal? at h
  split at h
  · cases h
    rfl
  · cases h

/-- Refusals are in the order of the items. -/
theorem refusals_pairwise (index : Nat) (items : List Json) :
    ((refusals index items).filterMap (·.index)).Pairwise (· < ·) := by
  have hindices : ((refusals index items).filterMap (·.index)).Sublist
      ((items.zipIdx index).map (·.2)) := by
    rw [refusals, List.filterMap_filterMap]
    generalize items.zipIdx index = entries
    induction entries with
    | nil => exact List.Sublist.refl []
    | cons entry entries ih =>
      rw [List.filterMap_cons, List.map_cons]
      cases h : refusal? entry with
      | none => exact ih.cons entry.2
      | some l =>
        simp only [Option.bind_some, index_of_refusal? h]
        exact ih.cons_cons entry.2
  rw [List.zipIdx_map_snd] at hindices
  exact List.Pairwise.sublist hindices (List.pairwise_lt_range' 1)

theorem decodeItems_eq (h : ∀ item ∈ items, Judged item) :
    decodeItems index items = .ok (decoded items, refusals index items) := by
  induction items generalizing index with
  | nil => rfl
  | cons item rest ih =>
    have hrest : decodeItems (index + 1) rest = .ok (decoded rest, refusals (index + 1) rest) :=
      ih fun item hm => h item (List.mem_cons_of_mem _ hm)
    unfold decodeItems
    split
    · rename_i i hi
      simp [hrest, hi, decoded, refusals, refusal?, bind, Except.bind, Except.toOption, pure,
        Except.pure]
    · rename_i error hi
      simp [hrest, hi, decoded, refusals, refusal?, bind, Except.bind, Except.toOption, pure,
        Except.pure]
    · rename_i cause hcause hi
      obtain ⟨error, rfl⟩ := h item List.mem_cons_self cause hi
      exact absurd rfl (hcause error)

theorem judged_of_decodeItems {r : Workflow × List Located} (h : decodeItems index items = .ok r) :
    ∀ item ∈ items, Judged item := by
  induction items generalizing index r with
  | nil => exact fun _ hm => nomatch hm
  | cons item rest ih =>
    unfold decodeItems at h
    split at h
    · rename_i i hi
      obtain ⟨r', hr, -⟩ := bind_eq_ok.mp h
      refine List.forall_mem_cons.mpr ⟨?_, ih hr⟩
      rw [Judged, hi]
      exact failsOnly_ok i
    · rename_i error hi
      obtain ⟨r', hr, -⟩ := bind_eq_ok.mp h
      refine List.forall_mem_cons.mpr ⟨?_, ih hr⟩
      rw [Judged, hi]
      exact failsOnly_error ⟨error, rfl⟩
    · cases h

theorem validatePayload_array (h : ∀ item ∈ items, Judged item) :
    validatePayload (.array items) = .ok (if (refusals 0 items).isEmpty
      then (some (decoded items), validate (decoded items))
      else (none, { errors := refusals 0 items })) := by
  have heq : decodeItems 0 items = .ok (decoded items, refusals 0 items) := decodeItems_eq h
  simp only [validatePayload, heq, bind, Except.bind]
  split
  · rfl
  · rfl

theorem judged_of_validatePayload {answer : Option Workflow × Report}
    (h : validatePayload (.array items) = .ok answer) : ∀ item ∈ items, Judged item := by
  obtain ⟨r, hr, -⟩ := bind_eq_ok.mp h
  exact judged_of_decodeItems hr

/-- What validation makes of a payload.  It answers if every item is an instruction or is refused,
so it does if the payload is moderate; it reports a payload that is no array, and then the items
that are refused, each at its index, and only then validates the instructions. -/
theorem validatePayload_answers (payload : Json) :
    (payload.Moderate → ∃ answer, validatePayload payload = .ok answer) ∧
    ((∀ items, payload ≠ .array items) →
      validatePayload payload = .ok (none, { errors := [⟨.notAnArray, none⟩] })) ∧
    ∀ items, payload = .array items →
      ((∃ answer, validatePayload payload = .ok answer) ↔ ∀ item ∈ items, Judged item) ∧
      (∀ answer, validatePayload payload = .ok answer →
        answer = if (refusals 0 items).isEmpty
          then (some (decoded items), validate (decoded items))
          else (none, { errors := refusals 0 items })) ∧
      ((refusals 0 items).filterMap (·.index)).Pairwise (· < ·) := by
  have harray : ∀ items : List Json, (∀ item ∈ items, Judged item) →
      ∃ answer, validatePayload (.array items) = .ok answer :=
    fun items h => ⟨_, validatePayload_array h⟩
  refine ⟨fun h => ?_, fun h => ?_, ?_⟩
  · cases payload with
    | array items => exact harray items fun item hm => Instruction.failsOnly_ofWire (h.item hm)
    | _ => exact ⟨_, rfl⟩
  · cases payload with
    | array items => exact absurd rfl (h items)
    | _ => rfl
  · rintro items rfl
    refine ⟨⟨fun ⟨answer, h⟩ => judged_of_validatePayload h, harray items⟩, ?_,
      refusals_pairwise 0 items⟩
    intro answer h
    have hjudged := validatePayload_array (judged_of_validatePayload h)
    exact Except.ok.inj (h.symm.trans hjudged)

/-- Of three items two are refused. -/
theorem validatePayload_answers_refused :
    let items := [Json.object [("prompt", .str "a")], .object [("dance", .str "b")], .str "c"]
    (Json.array items).Moderate ∧
    validatePayload (.array items) = .ok (none, { errors :=
      [⟨.invalidInstruction (.unknownKey "dance"), some 1⟩,
        ⟨.invalidInstruction (.notSingleKey (.str "c")), some 2⟩] }) := by
  intro items
  have hmoderate : (Json.array items).Moderate := by
    refine Json.moderate_array ?_
    simp only [items, List.forall_mem_cons, List.not_mem_nil, false_imp_iff, implies_true, and_true]
    refine ⟨?_, ?_, Json.moderate_str "c"⟩
    · exact Json.moderate_object (by simp [Json.moderate_str]) (by decide)
    · exact Json.moderate_object (by simp [Json.moderate_str]) (by decide)
  obtain ⟨hanswers, -, harray⟩ := validatePayload_answers (.array items)
  obtain ⟨answer, h⟩ := hanswers hmoderate
  obtain ⟨-, hanswer, -⟩ := harray items rfl
  refine ⟨hmoderate, h.trans ?_⟩
  rw [hanswer answer h]
  rfl

/-- A number of frames is judged just if it is in the range of the floating-point numbers. -/
theorem judged_frames_iff {n : Int} : Judged (.object [("frames", .int n)]) ↔ InRange n := by
  have hwire : Instruction.ofWire (.object [("frames", .int n)])
      = Instruction.frames <$> Instruction.readInteger .frames none (.int n) := rfl
  rw [Judged, hwire]
  constructor
  · intro h
    by_contra hn
    have hnone : Binary64.ofInt? n = none := Option.not_isSome_iff_eq_none.mp hn
    have herror : Instruction.readInteger .frames none (.int n) = .error .tooLarge := by
      simp only [Instruction.readInteger, Json.integer?, hnone]
      rfl
    rw [herror] at h
    obtain ⟨error, herror⟩ := h .tooLarge rfl
    cases herror
  · intro h
    rw [Instruction.readInteger, Json.integer?_int h]
    exact failsOnly_ok _

/-- A weight is judged just if the digits of its key are a numeral that is short enough. -/
theorem judged_weight_iff {key : String} {digits : List Char}
    (h : Instruction.weightDigits? key = some digits) :
    Judged (.object [("moodboardWeights", .object [(key, .float .zero)])]) ↔
      digits.length ≤ maxIntegerDigits ∧ ∀ c ∈ digits, (Text.decimalValue? c).isSome = true := by
  have hwire : Instruction.ofWire (.object [("moodboardWeights", .object [(key, .float .zero)])])
      = Instruction.moodboardWeights <$> Instruction.readWeights [(key, .float .zero)] := rfl
  have hadd : [(key, Json.float .zero)].foldlM Instruction.addWeight []
      = (fun n => [(n, Binary64.zero)]) <$> Instruction.readIndex digits := by
    simp only [List.foldlM_cons, List.foldlM_nil, Instruction.addWeight, h]
    cases Instruction.readIndex digits with
    | ok n => rfl
    | error failure => rfl
  rw [Judged, hwire, ← Instruction.readIndex_isOk_iff]
  constructor
  · intro hjudged
    cases hindex : Instruction.readIndex digits with
    | ok n => exact ⟨n, rfl⟩
    | error failure =>
      have hfold : Instruction.readWeights [(key, .float .zero)] = .error failure := by
        refine bind_eq_error.mpr (.inl (hadd.trans ?_))
        rw [hindex]
        rfl
      rw [hfold] at hjudged
      obtain ⟨error, rfl⟩ := hjudged failure rfl
      exact absurd hindex Instruction.readIndex_ne_refused
  · rintro ⟨n, hindex⟩
    rw [hindex] at hadd
    have hweights : Instruction.readWeights [(key, .float .zero)] = .ok [(n, .zero)] :=
      Instruction.readWeights_eq_ok.mpr ⟨[(n, .zero)], hadd, List.mergeSort_singleton _⟩
    rw [hweights]
    exact failsOnly_ok _

/-- Validation has no answer to two payloads: a weight key whose digit is no decimal digit, and an
integer past every floating-point number. -/
theorem validatePayload_unanswered :
    validatePayload (.array [.object [("moodboardWeights", .object [("index_²", .int 1)])]])
      = .error (.notANumeral "²") ∧
    ¬ ∃ answer, validatePayload (.array [.object [("frames", .int (10 ^ 400))]]) = .ok answer := by
  refine ⟨rfl, fun ⟨answer, h⟩ => ?_⟩
  have hjudged := judged_of_validatePayload h _ List.mem_cons_self
  have hrange : ¬ InRange (10 ^ 400) := by
    unfold InRange
    decide +kernel
  exact hrange (judged_frames_iff.mp hjudged)

end Workflow

end ImageWorkflow
