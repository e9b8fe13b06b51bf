import Mathlib
import ImageWorkflow.Settings.Wire
import ImageWorkflow.Proofs.FiniteRange
import ImageWorkflow.Proofs.Results

/-!
# Settings on the wire and back

* `LoRA.Readable`, `Settings.Readable` : adapters and settings as they are read: numbers are numbers
  and files have names (`LoRA.readable_of_ofJson`, `Settings.readable_of_ofMembers`);
* `LoRA.ofJson_toJson`, `Settings.ofMembers_toWire` : written, they are read as themselves.
-/

namespace ImageWorkflow

/-! ## Adapters -/

namespace LoRA
variable {l : LoRA} {ls : List LoRA} {value : Json} {items : List Json}

/-- An adapter as it is read. -/
structure Readable (l : LoRA) : Prop where
  named : l.file ≠ ""
  finite : l.weight.isFinite = true

theorem ne_empty_of_readFile {file : String} (h : readFile value = .ok file) : file ≠ "" := by
  unfold readFile at h
  split at h
  · split at h
    · cases h
    · rename_i hne
      cases h
      exact hne
  · cases h

theorem isFinite_of_readWeight {x : Binary64} (h : readWeight value = .ok x) :
    x.isFinite = true := by
  unfold readWeight at h
  split at h
  · obtain rfl := Except.ok.inj h
    exact Binary64.isFinite_one
  · exact Json.isFinite_of_real? (mapError_eq_ok.mp h)

theorem readable_of_ofJson (h : ofJson value = .ok l) : l.Readable := by
  cases value with
  | object members =>
    obtain ⟨file, hfile, h⟩ := bind_eq_ok.mp h
    obtain ⟨weight, hweight, h⟩ := bind_eq_ok.mp h
    obtain ⟨mode, -, h⟩ := bind_eq_ok.mp h
    cases h
    exact ⟨ne_empty_of_readFile hfile, isFinite_of_readWeight hweight⟩
  | _ => cases h

theorem ofJson_toJson (h : l.Readable) : ofJson l.toJson = .ok l := by
  have hfile : readFile l.toJson = .ok l.file := if_neg h.named
  have hweight : readWeight l.toJson = .ok l.weight := by
    have hget : l.toJson.get? "weight" = some (.float l.weight) := rfl
    simp only [readWeight, hget, Json.real?_float h.finite]
    rfl
  have hmode : readMode l.toJson = .ok l.mode := rfl
  rw [toJson] at hfile hweight hmode ⊢
  simp only [ofJson, hfile, hweight, hmode]
  rfl

theorem readable_of_mapM (h : items.mapM ofJson = .ok ls) : ∀ l ∈ ls, l.Readable := by
  induction items generalizing ls with
  | nil =>
    cases h
    simp
  | cons item items ih =>
    rw [List.mapM_cons] at h
    obtain ⟨l, hl, h⟩ := bind_eq_ok.mp h
    obtain ⟨ls', hls, h⟩ := bind_eq_ok.mp h
    cases h
    exact List.forall_mem_cons.mpr ⟨readable_of_ofJson hl, ih hls⟩

/-- Adapters that are read one by one are read as a list. -/
theorem mapM_ofJson_map {write : LoRA → Json} (h : ∀ l ∈ ls, ofJson (write l) = .ok l) :
    (ls.map write).mapM ofJson = .ok ls := by
  induction ls with
  | nil => rfl
  | cons l ls ih =>
    obtain ⟨hl, hls⟩ := List.forall_mem_cons.mp h
    rw [List.map_cons, List.mapM_cons, hl, ih hls]
    rfl

end LoRA

namespace Settings
variable {s acc : Settings} {name key : String} {value : Json} {members : Members}

/-! ## Settings that are read -/

/-- Settings as they are read. -/
structure Readable (s : Settings) : Prop where
  width : ∀ n ∈ s.width, InRange n
  height : ∀ n ∈ s.height, InRange n
  steps : ∀ n ∈ s.steps, InRange n
  guidanceScale : ∀ x ∈ s.guidanceScale, x.isFinite = true
  seed : ∀ n ∈ s.seed, InRange n
  numFrames : ∀ n ∈ s.numFrames, InRange n
  strength : ∀ x ∈ s.strength, x.isFinite = true
  batchCount : ∀ n ∈ s.batchCount, InRange n
  batchSize : ∀ n ∈ s.batchSize, InRange n
  clipSkip : ∀ n ∈ s.clipSkip, InRange n
  shift : ∀ x ∈ s.shift, x.isFinite = true
  loras : ∀ ls ∈ s.loras, ∀ l ∈ ls, l.Readable

theorem readable_empty : empty.Readable := by
  constructor <;> intro _ h <;> cases h

theorem inRange_of_readInteger {o : Option Int} (h : readInteger name value = .ok o) :
    ∀ n ∈ o, InRange n := by
  obtain ⟨m, hm, h⟩ := map_eq_ok.mp h
  cases h
  rintro n hn
  cases hn
  exact Json.inRange_of_integer? (mapError_eq_ok.mp hm)

theorem isFinite_of_readNumber {o : Option Binary64} (h : readNumber name value = .ok o) :
    ∀ x ∈ o, x.isFinite = true := by
  obtain ⟨y, hy, h⟩ := map_eq_ok.mp h
  cases h
  rintro x hx
  cases hx
  exact Json.isFinite_of_real? (mapError_eq_ok.mp hy)

theorem readable_of_readLoRAs {o : Option (List LoRA)} (h : readLoRAs name value = .ok o) :
    ∀ ls ∈ o, ∀ l ∈ ls, l.Readable := by
  cases value with
  | array items =>
    obtain ⟨ls, hls, h⟩ := map_eq_ok.mp h
    cases h
    rintro ls' hls'
    cases hls'
    exact LoRA.readable_of_mapM hls
  | _ => cases h

/-- Every member that is read keeps what was read before readable. -/
theorem Readable.readMember (hs : acc.Readable) (h : acc.readMember key value = .ok s) :
    s.Readable := by
  unfold Settings.readMember at h
  split at h
  · cases h
    exact hs
  · split at h
    all_goals first
      | (cases h; exact hs)
      | (obtain ⟨o, ho, h⟩ := bind_eq_ok.mp h
         cases h)
    · exact { hs with width := inRange_of_readInteger ho }
    · exact { hs with height := inRange_of_readInteger ho }
    · exact { hs with steps := inRange_of_readInteger ho }
    · exact { hs with guidanceScale := isFinite_of_readNumber ho }
    · exact { hs with seed := inRange_of_readInteger ho }
    · exact { hs with }
    · exact { hs with }
    · exact { hs with numFrames := inRange_of_readInteger ho }
    · exact { hs with strength := isFinite_of_readNumber ho }
    · exact { hs with batchCount := inRange_of_readInteger ho }
    · exact { hs with batchSize := inRange_of_readInteger ho }
    · exact { hs with clipSkip := inRange_of_readInteger ho }
    · exact { hs with shift := isFinite_of_readNumber ho }
    · exact { hs with loras := readable_of_readLoRAs ho }

theorem readable_of_ofMembers (h : ofMembers members = .ok s) : s.Readable :=
  foldlM_keeps (fun _ _ _ hs => hs.readMember) readable_empty h

/-! ## Settings that are written -/

theorem readInteger_int {n : Int} (h : InRange n) (name : String) :
    readInteger name (.int n) = .ok (some n) := by
  rw [readInteger, Json.integer?_int h]
  rfl

theorem readNumber_float {x : Binary64} (h : x.isFinite = true) (name : String) :
    readNumber name (.float x) = .ok (some x) := by
  rw [readNumber, Json.real?_float h]
  rfl

theorem readLoRAs_array {ls : List LoRA} {write : LoRA → Json}
    (h : ∀ l ∈ ls, LoRA.ofJson (write l) = .ok l) (name : String) :
    readLoRAs name (.array (ls.map write)) = .ok (some ls) := by
  rw [readLoRAs, LoRA.mapM_ofJson_map h]
  rfl

/-- Read a member if it is there. -/
def readMember? (s : Settings) : Option (String × Json) → Except SettingsFault Settings
  | none => .ok s
  | some member => s.readMember member.1 member.2

theorem ofMembers_filterMap (members : List (Option (String × Json))) :
    ofMembers (members.filterMap id) = members.foldlM readMember? empty := by
  rw [ofMembers, List.foldlM_filterMap]
  congr 1
  funext s member
  cases member <;> rfl

/-- A field that is written as a member is read back into its place. -/
theorem readMember?_map {α : Type} {p : Settings → Option α → Settings} {field : Option α}
    {write : α → Json} (hnone : p acc none = acc)
    (hread : ∀ a ∈ field, acc.readMember key (write a) = .ok (p acc (some a))) :
    acc.readMember? (field.map fun a => (key, write a)) = .ok (p acc field) := by
  cases field with
  | none => rw [hnone]; rfl
  | some a => exact hread a rfl

theorem readMember?_int {p : Settings → Option Int → Settings} {field : Option Int}
    (hnone : p acc none = acc) (hf : ∀ n ∈ field, InRange n)
    (hread : ∀ n, acc.readMember key (.int n) =
      (do return p acc (← readInteger name (.int n)))) :
    acc.readMember? (field.map fun n => (key, Json.int n)) = .ok (p acc field) := by
  refine readMember?_map hnone fun n hn => ?_
  rw [hread, readInteger_int (hf n hn)]
  rfl

theorem readMember?_real {p : Settings → Option Binary64 → Settings} {field : Option Binary64}
    (hnone : p acc none = acc) (hf : ∀ x ∈ field, x.isFinite = true)
    (hread : ∀ x, acc.readMember key (.float x) =
      (do return p acc (← readNumber name (.float x)))) :
    acc.readMember? (field.map fun x => (key, Json.float x)) = .ok (p acc field) := by
  refine readMember?_map hnone fun x hx => ?_
  rw [hread, readNumber_float (hf x hx)]
  rfl

theorem readMember?_loras {p : Settings → Option (List LoRA) → Settings}
    {field : Option (List LoRA)} (hnone : p acc none = acc)
    (hf : ∀ ls ∈ field, ∀ l ∈ ls, l.Readable)
    (hread : ∀ items, acc.readMember key (.array items) =
      (do return p acc (← readLoRAs name (.array items)))) :
    acc.readMember? (field.map fun ls => (key, Json.array (ls.map LoRA.toJson))) =
      .ok (p acc field) := by
  refine readMember?_map hnone fun ls hls => ?_
  rw [hread, readLoRAs_array fun l hl => LoRA.ofJson_toJson (hf ls hls l hl)]
  rfl

/-- Written, settings that were read are read as themselves. -/
theorem ofMembers_toWire (h : s.Readable) : ofMembers s.toWire = .ok s := by
  rw [toWire, ofMembers_filterMap]
  simp only [List.foldlM_cons, List.foldlM_nil]
  refine bind_eq_ok.mpr ⟨_, readMember?_int (p := ({ · with width := · }))
    rfl h.width fun _ => rfl, ?_⟩
  refine bind_eq_ok.mpr ⟨_, readMember?_int (p := ({ · with height := · }))
    rfl h.height fun _ => rfl, ?_⟩
  refine bind_eq_ok.mpr ⟨_, readMember?_int (p := ({ · with steps := · }))
    rfl h.steps fun _ => rfl, ?_⟩
  refine bind_eq_ok.mpr ⟨_, readMember?_real (p := ({ · with guidanceScale := · }))
    rfl h.guidanceScale fun _ => rfl, ?_⟩
  refine bind_eq_ok.mpr ⟨_, readMember?_int (p := ({ · with seed := · }))
    rfl h.seed fun _ => rfl, ?_⟩
  refine bind_eq_ok.mpr ⟨_, readMember?_map (p := ({ · with model := · }))
    rfl fun _ _ => rfl, ?_⟩
  refine bind_eq_ok.mpr ⟨_, readMember?_map (p := ({ · with sampler := · }))
    rfl fun _ _ => rfl, ?_⟩
  refine bind_eq_ok.mpr ⟨_, readMember?_int (p := ({ · with numFrames := · }))
    rfl h.numFrames fun _ => rfl, ?_⟩
  refine bind_eq_ok.mpr ⟨_, readMember?_real (p := ({ · with strength := · }))
    rfl h.strength fun _ => rfl, ?_⟩
  refine bind_eq_ok.mpr ⟨_, readMember?_int (p := ({ · with batchCount := · }))
    rfl h.batchCount fun _ => rfl, ?_⟩
  refine bind_eq_ok.mpr ⟨_, readMember?_int (p := ({ · with batchSize := · }))
    rfl h.batchSize fun _ => rfl, ?_⟩
  refine bind_eq_ok.mpr ⟨_, readMember?_int (p := ({ · with clipSkip := · }))
    rfl h.clipSkip fun _ => rfl, ?_⟩
  refine bind_eq_ok.mpr ⟨_, readMember?_real (p := ({ · with shift := · }))
    rfl h.shift fun _ => rfl, ?_⟩
  refine bind_eq_ok.mpr ⟨_, readMember?_loras (p := ({ · with loras := · }))
    rfl h.loras fun _ => rfl, ?_⟩
  rfl

end Settings

end ImageWorkflow
