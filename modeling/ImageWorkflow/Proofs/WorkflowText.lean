import Mathlib
import ImageWorkflow.Proofs.JsonReading
import ImageWorkflow.Proofs.SortedWire
import ImageWorkflow.Workflow.Basic

/-!
# Workflows as text and back

* `InRange.length_toDigits_le` : an integer that is read as a number is short enough for a text;
* `Instruction.Storable` : an instruction as it is read, whose free-form data have a text; so has
  its wire object (`Instruction.Storable.writable_toWire`);
* `Workflow.exists_of_ofItems`, `Workflow.ofItems_map` : items are read one by one;
* `Workflow.RoundTrips` : a workflow's text is read as an equal workflow, which has the same text;
* `Workflow.roundTrips_of_ofWire` : so it is with both texts of a workflow that was read;
  `Workflow.roundTrips_of_parse` : if it was read from a text, nothing has to be assumed of it.
-/

namespace ImageWorkflow

/-! ## What is written has a text -/

theorem InRange.natAbs_lt {n : ℤ} (h : InRange n) : n.natAbs < 2 ^ 1024 := by
  refine lt_of_not_ge fun hge => ?_
  have hcast (k : ℕ) (hk : 2 ^ k ≤ n.natAbs) : (2 : ℚ) ^ (k : ℤ) ≤ (n.natAbs : ℚ) / (1 : ℕ) := by
    rw [Nat.cast_one, div_one, zpow_natCast]
    exact_mod_cast hk
  have hinfinite : Binary64.ofRat n = .infinity (if (n : ℚ).num = 0 then false else n < 0) := by
    rw [Binary64.ofRat, Rat.num_intCast, Rat.den_intCast]
    exact Binary64.ofRatio_eq_infinity Nat.one_ne_zero (hcast 1024 hge)
  rw [InRange, Binary64.ofInt?, hinfinite] at h
  cases h

/-- An integer that is read as a number has few enough digits to be read from a text. -/
theorem InRange.length_toDigits_le {n : ℤ} (h : InRange n) :
    (Nat.toDigits 10 n.natAbs).length ≤ maxIntegerDigits := by
  rw [Nat.length_toDigits_le_iff (by decide) (by decide)]
  have hpow (k : ℕ) (hk : k ≤ maxIntegerDigits) : 2 ^ k ≤ 10 ^ maxIntegerDigits :=
    (Nat.pow_le_pow_left (by decide) k).trans (Nat.pow_le_pow_right (by decide) hk)
  exact h.natAbs_lt.trans_le (hpow 1024 (by decide))

namespace Instruction
variable {i : Instruction}

open Json (Writable)

theorem writable_presentMembers {fields : List (String × Option Json)}
    (hn : (fields.map (·.1)).Nodup)
    (hv : ∀ field ∈ fields, ∀ v, field.2 = some v → v.Writable) :
    (Json.object (presentMembers fields)).Writable :=
  Json.writable_object (nodup_keys_presentMembers hn) fun _ hm =>
    hv _ (mem_presentMembers.mp hm) _ rfl

section
variable {v : Json}

theorem writable_integer {o : Option ℤ} (h : ∀ n ∈ o, InRange n) (hv : o.map .int = some v) :
    v.Writable := by
  obtain ⟨n, hn, rfl⟩ := Option.map_eq_some_iff.mp hv
  exact Json.writable_int (h n hn).length_toDigits_le

theorem writable_number {o : Option Binary64} (hv : o.map .float = some v) : v.Writable := by
  obtain ⟨x, -, rfl⟩ := Option.map_eq_some_iff.mp hv
  exact Json.writable_float x

theorem writable_flag {o : Option Bool} (hv : o.map .bool = some v) : v.Writable := by
  obtain ⟨b, -, rfl⟩ := Option.map_eq_some_iff.mp hv
  exact Json.writable_bool b

theorem writable_text {o : Option String} (hv : o.map .str = some v) : v.Writable := by
  obtain ⟨s, -, rfl⟩ := Option.map_eq_some_iff.mp hv
  exact Json.writable_str s

theorem writable_loras {o : Option (List LoRA)}
    (hv : (o.map fun ls => .array (ls.map LoRA.toJson)) = some v) : v.Writable := by
  obtain ⟨ls, -, rfl⟩ := Option.map_eq_some_iff.mp hv
  refine Json.writable_array fun item hitem => ?_
  obtain ⟨l, -, rfl⟩ := List.mem_map.mp hitem
  exact Json.writable_object (by simp) (by simp [Json.writable_str, Json.writable_float])

end

theorem writable_settings {s : Settings} (hs : s.Readable) : (Json.object s.toWire).Writable := by
  rw [toWire_eq_presentMembers]
  refine writable_presentMembers (by simp) ?_
  simp only [List.forall_mem_cons]
  exact ⟨fun _ => writable_integer hs.width, fun _ => writable_integer hs.height,
    fun _ => writable_integer hs.steps, fun _ => writable_number,
    fun _ => writable_integer hs.seed, fun _ => writable_text, fun _ => writable_text,
    fun _ => writable_integer hs.numFrames, fun _ => writable_number,
    fun _ => writable_integer hs.batchCount, fun _ => writable_integer hs.batchSize,
    fun _ => writable_integer hs.clipSkip, fun _ => writable_number, fun _ => writable_loras,
    List.forall_mem_nil _⟩

/-- An instruction as it is read, whose free-form data have a text. -/
structure Storable (i : Instruction) : Prop where
  readable : i.Readable
  data : ∀ data, i = .poseJson data → (Json.object data).Writable

theorem Storable.distinct (h : i.Storable) (data : Members) (hi : i = .poseJson data) :
    (Json.object data).Distinct := (h.data data hi).distinct

/-- What is written of such an instruction has a text. -/
theorem Storable.writable_toWire (h : i.Storable) : i.toWire.Writable := by
  obtain ⟨h, hdata⟩ := h
  have hint {n : ℤ} (hn : InRange n) := Json.writable_int hn.length_toDigits_le
  have hpayload : i.payload.Writable := by
    cases i with
    | poseJson data => exact hdata data rfl
    | config settings => exact writable_settings h
    | moodboardWeights weights =>
      refine Json.writable_object (Json.distinct_object.mp (distinct_writeWeights h)).1 ?_
      intro m hm
      obtain ⟨entry, -, rfl⟩ := List.mem_map.mp hm
      exact Json.writable_float entry.2
    | frames | moodboardRemove => exact hint h
    | loop | adaptSize => exact Json.writable_object (by simp) (by simp [hint h.1, hint h.2])
    | moveScale => exact Json.writable_object (by simp) (by simp [Json.writable_float])
    | maskBody =>
      refine writable_presentMembers (by simp) ?_
      simp only [List.forall_mem_cons]
      exact ⟨fun _ => writable_flag, fun _ => writable_flag, fun _ => writable_flag,
        fun _ => writable_integer h, List.forall_mem_nil _⟩
    | inpaintTools =>
      refine writable_presentMembers (by simp) ?_
      simp only [List.forall_mem_cons]
      exact ⟨fun _ => writable_number, fun _ => writable_integer h.2.1,
        fun _ => writable_integer h.2.2, fun _ => writable_flag, List.forall_mem_nil _⟩
    | xlMagic =>
      refine writable_presentMembers (by simp) ?_
      simp only [List.forall_mem_cons]
      exact ⟨fun _ => writable_number, fun _ => writable_number, fun _ => writable_number,
        List.forall_mem_nil _⟩
    | note | prompt | negativePrompt | canvasLoad | canvasSave | moodboardAdd | loopAddMoodboard
    | maskLoad | maskAsk | askZoom | loopLoad | loopSave => exact Json.writable_str _
    | _ => exact Json.writable_bool true
  exact Json.writable_object (by simp) (by simpa using hpayload)

end Instruction

namespace Workflow
variable {items : List Json} {x : Workflow} {index : ℕ}

/-! ## Items -/

theorem exists_of_ofItems (h : ofItems index items = .ok x) :
    ∀ i ∈ x, ∃ item ∈ items, Instruction.ofWire item = .ok i := by
  induction items generalizing index x with
  | nil =>
    cases h
    simp
  | cons item items ih =>
    unfold ofItems at h
    split at h
    · rename_i i hi
      obtain ⟨y, hy, rfl⟩ := map_eq_ok.mp h
      refine List.forall_mem_cons.mpr ⟨⟨item, List.mem_cons_self, hi⟩, fun j hj => ?_⟩
      obtain ⟨item', hitem', hread⟩ := ih hy j hj
      exact ⟨item', List.mem_cons_of_mem _ hitem', hread⟩
    · cases h
    · cases h

theorem ofItems_map {write : Instruction → Json} {f : Instruction → Instruction}
    (h : ∀ i ∈ x, Instruction.ofWire (write i) = .ok (f i)) :
    ofItems index (x.map write) = .ok (x.map f) := by
  induction x generalizing index with
  | nil => rfl
  | cons i x ih =>
    obtain ⟨hi, hx⟩ := List.forall_mem_cons.mp h
    rw [List.map_cons, ofItems, hi, List.map_cons]
    exact map_eq_ok.mpr ⟨x.map f, ih hx, rfl⟩

theorem same_map {f : Instruction → Instruction} (h : ∀ i ∈ x, i.same (f i) = true) :
    x.same (x.map f) = true := by
  induction x with
  | nil => rfl
  | cons i x ih =>
    obtain ⟨hi, hx⟩ := List.forall_mem_cons.mp h
    exact Bool.and_eq_true_iff.mpr ⟨hi, ih hx⟩

/-! ## Texts -/

theorem storable_of_ofItems (h : ofItems index items = .ok x)
    (hdata : ∀ data, .poseJson data ∈ x → (Json.object data).Writable) : ∀ i ∈ x, i.Storable := by
  intro i hi
  obtain ⟨item, -, hread⟩ := exists_of_ofItems h i hi
  refine ⟨Instruction.readable_of_ofWire hread, ?_⟩
  rintro data rfl
  exact hdata data hi

theorem writable_array_toWire (h : ∀ i ∈ x, i.Storable) : (Json.array x.toWire).Writable := by
  refine Json.writable_array fun item hitem => ?_
  obtain ⟨i, hi, rfl⟩ := List.mem_map.mp hitem
  exact (h i hi).writable_toWire

/-- The text without white space is read as the workflow itself. -/
theorem parse_printCompact (h : ∀ i ∈ x, i.Storable) : parse x.printCompact = .ok x := by
  rw [parse, printCompact, Json.parse_compact (writable_array_toWire h)]
  have hread : ofItems 0 x.toWire = .ok (x.map id) :=
    ofItems_map fun i hi => Instruction.ofWire_toWire (h i hi).readable
  rwa [List.map_id] at hread

/-- The indented text is read as the workflow with its free-form data in key order. -/
theorem parse_print (h : ∀ i ∈ x, i.Storable) :
    parse x.print = .ok (x.map Instruction.keySorted) := by
  have hsorted := Json.parse_pretty (writable_array_toWire h).sortKeys
  rw [Json.sortKeys_array, toWire, List.map_map] at hsorted
  rw [parse, print, Json.prettySorted, Json.sortKeys_array, toWire, List.map_map, ← Json.pretty,
    hsorted]
  exact ofItems_map fun i hi => Instruction.ofWire_sortKeys (h i hi).readable (h i hi).distinct

theorem print_map_keySorted (x : Workflow) : print (x.map Instruction.keySorted) = x.print := by
  have hitems : (toWire (x.map Instruction.keySorted)).map Json.sortKeys =
      x.toWire.map Json.sortKeys := by
    rw [toWire, toWire, List.map_map, List.map_map, List.map_map]
    exact List.map_congr_left fun i _ => i.sortKeys_toWire_keySorted
  rw [print, print, Json.prettySorted, Json.prettySorted, Json.sortKeys_array, hitems,
    ← Json.sortKeys_array]

/-- A workflow's text is read as an equal workflow, which has the same text. -/
def RoundTrips (text : Workflow → String) (x : Workflow) : Prop :=
  ∃ y, parse (text x) = .ok y ∧ x.same y = true ∧ text y = text x

theorem roundTrips_printCompact (h : ∀ i ∈ x, i.Storable) : RoundTrips printCompact x := by
  refine ⟨x, parse_printCompact h, ?_, rfl⟩
  have hsame := same_map (f := id) fun i hi =>
    Instruction.same_self i (h i hi).distinct
  rwa [List.map_id] at hsame

theorem roundTrips_print (h : ∀ i ∈ x, i.Storable) : RoundTrips print x :=
  ⟨x.map Instruction.keySorted, parse_print h,
    same_map fun i hi => Instruction.same_keySorted i (h i hi).distinct, print_map_keySorted x⟩

/-- Both texts of a workflow that was read from the items of an array are read as an equal workflow,
which has the same texts, if free-form data are what is read from their text: they repeat no key,
and their integers are not too long (`Json.parse_compact_iff`). -/
theorem roundTrips_of_ofWire (h : ofWire items = .ok x)
    (hdata : ∀ data, .poseJson data ∈ x →
      Json.parse (Json.object data).compact = .ok (.object data)) :
    RoundTrips printCompact x ∧ RoundTrips print x := by
  have hx := storable_of_ofItems h fun data hi => Json.parse_compact_iff.mp (hdata data hi)
  exact ⟨roundTrips_printCompact hx, roundTrips_print hx⟩

/-- Weights, an adapter and nested free-form data, none of them in key order. -/
theorem roundTrips_unsorted :
    let data : Members :=
      [("joints", .array [.object [("y", .int 2), ("x", .int 1)]]), ("hand", .null)]
    let weights : Members := [("index_10", .float .zero), ("index_2", .float .zero)]
    let adapter : Members :=
      [("file", .str "detail"), ("weight", .float .zero), ("mode", .str "all")]
    let items : List Json := [.object [("moodboardWeights", .object weights)],
      .object [("config", .object [("loras", .array [.object adapter])])],
      .object [("poseJSON", .object data)]]
    let x : Workflow := [.moodboardWeights [(2, .zero), (10, .zero)],
      .config { loras := some [⟨"detail", .zero, "all"⟩] }, .poseJson data]
    ofWire items = .ok x ∧ RoundTrips printCompact x ∧ RoundTrips print x := by
  intro data weights adapter items x
  have hweights : Instruction.readWeights weights = .ok [(2, .zero), (10, .zero)] := by
    have hreadable : Instruction.WeightsReadable [(2, .zero), (10, .zero)] :=
      ⟨by simp, by decide, by decide⟩
    have hwritten : weights = Instruction.writeWeights [(10, .zero), (2, .zero)] := rfl
    rw [hwritten]
    exact Instruction.readWeights_write_perm hreadable (List.Perm.swap _ _ _)
  have hfirst : Instruction.ofWire (.object [("moodboardWeights", .object weights)]) =
      .ok (.moodboardWeights [(2, .zero), (10, .zero)]) :=
    bind_eq_ok.mpr ⟨weights, rfl, bind_eq_ok.mpr ⟨_, hweights, rfl⟩⟩
  have hread : ofWire items = .ok x := by
    rw [ofWire, ofItems, hfirst]
    exact map_eq_ok.mpr ⟨x.tail, rfl, rfl⟩
  have hjoint : (Json.object [("y", .int 2), ("x", .int 1)]).Writable := by
    refine Json.writable_object (by decide) ?_
    simp only [List.forall_mem_cons]
    exact ⟨Json.writable_int (by decide), Json.writable_int (by decide), List.forall_mem_nil _⟩
  have hdata : (Json.object data).Writable := by
    refine Json.writable_object (by decide) ?_
    simp only [data, List.forall_mem_cons]
    exact ⟨Json.writable_array (by simpa using hjoint), Json.writable_null, List.forall_mem_nil _⟩
  refine ⟨hread, roundTrips_of_ofWire hread fun data' hmem => ?_⟩
  have heq : data' = data := by simpa [x] using hmem
  rw [heq]
  exact Json.parse_compact hdata

/-- Of a workflow that was read from a text nothing has to be assumed. -/
theorem roundTrips_of_parse {text : String} (h : parse text = .ok x) :
    RoundTrips printCompact x ∧ RoundTrips print x := by
  unfold parse at h
  split at h
  · cases h
  · cases h
  · rename_i items hjson
    have hitems := Json.writable_of_parse hjson
    have hx := storable_of_ofItems h fun data hi => by
      obtain ⟨item, hitem, hread⟩ := exists_of_ofItems h _ hi
      obtain ⟨key, rfl⟩ := Instruction.eq_object_of_ofWire_poseJson hread
      exact (hitems.item hitem).member List.mem_cons_self
    exact ⟨roundTrips_printCompact hx, roundTrips_print hx⟩
  · cases h

end Workflow

end ImageWorkflow
