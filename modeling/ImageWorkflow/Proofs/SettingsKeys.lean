import Mathlib
import ImageWorkflow.Proofs.JsonReading
import ImageWorkflow.Proofs.SortedKeys
import ImageWorkflow.Proofs.WireRoundTrip
import ImageWorkflow.Settings.Request

/-!
# Settings, key by key

Settings are what they have under each key on the wire, and what is read of members is settled under
each key by the one member that has it.
* `Settings.written?` : what settings have under a key; `Settings.ext_written?` : that determines
  them; `Settings.written?_merge` : of merged settings the later count, key by key;
* `Settings.Sets` : what is to be known of a key: how its value is read and which field it sets;
  `Settings.exists_sets` : that is known of every key, so that nothing else goes through the keys;
* `Settings.ofMember` : the settings of one member; `Settings.ofMembers_cons` : those of members are
  merged from theirs;
* `Settings.ofMembers_eq_ok_iff` : what is read of members with distinct keys, key by key; so their
  order does not matter (`Settings.toOption_ofMembers_keySorted`), and an update is merged
  (`Settings.ofMembers_update`);
* `Settings.merge_acts` : settings are a monoid under merging and act on the parameters of a
  generation; an update of members acts as the settings that are read of it.
-/

namespace ImageWorkflow

/-! ## Members that are updated -/

namespace Members
variable {members others : Members}

theorem get?_insert (members : Members) (key : String) (value : Json) (k : String) :
    get? (members.insert key value) k = if key = k then some value else get? members k := by
  induction members with
  | nil => rfl
  | cons first members ih =>
    obtain ⟨k', v'⟩ := first
    rw [insert]
    split
    · rename_i hk
      subst hk
      rw [get?, get?]
      split <;> rfl
    · rename_i hk
      rw [get?, get?, ih]
      split
      · rename_i hk'
        rw [if_neg (hk' ▸ Ne.symm hk)]
      · rfl

/-- Of two members for a key that of the update counts. -/
theorem get?_update (hn : (others.map (·.1)).Nodup) (key : String) :
    get? (members.update others) key = (get? others key).or (get? members key) := by
  induction others generalizing members with
  | nil => rfl
  | cons first others ih =>
    obtain ⟨k, v⟩ := first
    obtain ⟨hk, hrest⟩ := List.nodup_cons.mp hn
    have hupdate : members.update ((k, v) :: others) = (members.insert k v).update others := rfl
    rw [hupdate, ih hrest, get?_insert, get?]
    split
    · rename_i hkey
      subst hkey
      rw [get?_of_not_mem hk]
      rfl
    · rfl

theorem nodup_update (hn : (members.map (·.1)).Nodup) (others : Members) :
    ((members.update others).map (·.1)).Nodup := by
  induction others generalizing members with
  | nil => exact hn
  | cons first others ih => exact ih (nodup_insert hn first.1 first.2)

theorem mem_update {m : String × Json} (h : m ∈ members.update others) :
    m ∈ members ∨ m ∈ others := by
  induction others generalizing members with
  | nil => exact .inl h
  | cons first others ih =>
    rcases ih h with h | h
    · rcases mem_insert h with rfl | h
      · exact .inr List.mem_cons_self
      · exact .inl h
    · exact .inr (List.mem_cons_of_mem _ h)

end Members

namespace Settings
variable {s t a : Settings} {key : String} {value : Json} {members : Members}

/-! ## What is written under a key -/

/-- The fields with their keys, as they are written. -/
def wireFields (s : Settings) : List (String × Option Json) :=
  [("width", s.width.map .int), ("height", s.height.map .int), ("steps", s.steps.map .int),
    ("guidanceScale", s.guidanceScale.map .float), ("seed", s.seed.map .int),
    ("model", s.model.map .str), ("samplerName", s.sampler.map .str),
    ("numFrames", s.numFrames.map .int), ("strength", s.strength.map .float),
    ("batchCount", s.batchCount.map .int), ("batchSize", s.batchSize.map .int),
    ("clipSkip", s.clipSkip.map .int), ("shift", s.shift.map .float),
    ("loras", s.loras.map fun loras => .array (loras.map LoRA.toJson))]

/-- The keys on the wire. -/
def wireKeys : List String := empty.wireFields.map (·.1)

theorem keys_wireFields (s : Settings) : s.wireFields.map (·.1) = wireKeys := rfl

theorem nodup_wireKeys : wireKeys.Nodup := by decide

/-- What settings have under a key. -/
def written? (s : Settings) (key : String) : Option Json := Members.get? s.toWire key

theorem written?_eq_of_mem {o : Option Json} (h : (key, o) ∈ s.wireFields) :
    s.written? key = o := by
  rw [written?, Instruction.toWire_eq_presentMembers]
  exact Instruction.get?_presentMembers (keys_wireFields s ▸ nodup_wireKeys) h

theorem written?_eq_none (h : key ∉ wireKeys) : s.written? key = none := by
  rw [written?, Instruction.toWire_eq_presentMembers]
  refine Members.get?_of_not_mem fun hkey => ?_
  obtain ⟨⟨k, v⟩, hm, rfl⟩ := List.mem_map.mp hkey
  exact h (List.mem_map_of_mem (f := (·.1)) (Instruction.mem_presentMembers.mp hm))

theorem wireFields_eq (s : Settings) :
    s.wireFields = wireKeys.map fun key => (key, s.written? key) := by
  rw [← keys_wireFields s, List.map_map]
  refine (List.map_id _).symm.trans (List.map_congr_left fun field hfield => ?_)
  rw [id_eq, Function.comp_apply, written?_eq_of_mem hfield]

/-- Settings are determined by what they have under each key. -/
theorem ext_written? (h : ∀ key, s.written? key = t.written? key) : s = t := by
  have hfields : s.wireFields = t.wireFields := by
    rw [wireFields_eq, wireFields_eq]
    exact List.map_congr_left fun key _ => by rw [h]
  have hint := Option.map_injective (f := Json.int) fun _ _ => Json.int.inj
  have hfloat := Option.map_injective (f := Json.float) fun _ _ => Json.float.inj
  have hstr := Option.map_injective (f := Json.str) fun _ _ => Json.str.inj
  have hlora : Function.Injective LoRA.toJson := by
    rintro ⟨file, weight, mode⟩ ⟨file', weight', mode'⟩ h
    simpa [LoRA.toJson] using h
  have hloras := Option.map_injective (f := fun ls => Json.array (ls.map LoRA.toJson))
    fun _ _ h => List.map_injective_iff.mpr hlora (Json.array.inj h)
  cases s
  cases t
  simpa only [wireFields, List.cons.injEq, Prod.mk.injEq, true_and, and_true, hint.eq_iff,
    hfloat.eq_iff, hstr.eq_iff, hloras.eq_iff, Settings.mk.injEq] using hfields

/-- Under each key merged settings have what the later ones have, and else what the earlier
have. -/
theorem written?_merge (s t : Settings) (key : String) :
    (s.merge t).written? key = (t.written? key).or (s.written? key) := by
  have hmerge : (s.merge t).wireFields =
      List.zipWith (fun a b => (a.1, b.2.or a.2)) s.wireFields t.wireFields := by
    simp [wireFields, merge, Option.map_or]
  by_cases hkey : key ∈ wireKeys
  · rw [wireFields_eq, wireFields_eq s, wireFields_eq t, List.zipWith_map, List.zipWith_self]
      at hmerge
    exact (Prod.mk.inj (List.map_inj_left.mp hmerge key hkey)).2
  · rw [written?_eq_none hkey, written?_eq_none hkey, written?_eq_none hkey]
    rfl

/-! ## Merging -/

theorem merge_assoc (a b c : Settings) : (a.merge b).merge c = a.merge (b.merge c) := by
  simp only [merge, Option.or_assoc]

theorem empty_merge (s : Settings) : empty.merge s = s := by
  simp only [merge, empty, Option.or_none]

theorem merge_empty (s : Settings) : s.merge empty = s := rfl

theorem merge_merge_self (a b : Settings) : (a.merge b).merge b = a.merge b := by
  rw [merge_assoc]
  refine ext_written? fun key => ?_
  rw [written?_merge, written?_merge, written?_merge, Option.or_self]

/-! ## Reading a member -/

section readers
variable {α : Type} {read : Json → Except SettingsFault (Option α)}

/-- A reader of values: what it reads is something, and the order of keys in the value does not
matter. -/
structure Reads (read : Json → Except SettingsFault (Option α)) : Prop where
  exists_some : ∀ {value o}, read value = .ok o → ∃ a, o = some a
  sortKeys : ∀ {value : Json}, value.Distinct →
    (read value.sortKeys).toOption = (read value).toOption

theorem reads_integer (name : String) : Reads (readInteger name) where
  exists_some h := by
    obtain ⟨n, -, rfl⟩ := map_eq_ok.mp h
    exact ⟨n, rfl⟩
  sortKeys {value} _ := by
    refine (toOption_map.trans ?_).trans toOption_map.symm
    rw [toOption_mapError, toOption_mapError, value.integer?_sortKeys]

theorem reads_number (name : String) : Reads (readNumber name) where
  exists_some h := by
    obtain ⟨x, -, rfl⟩ := map_eq_ok.mp h
    exact ⟨x, rfl⟩
  sortKeys {value} _ := by
    refine (toOption_map.trans ?_).trans toOption_map.symm
    rw [toOption_mapError, toOption_mapError, value.real?_sortKeys]

theorem reads_string (name : String) : Reads (readString name) where
  exists_some {value _} h := by
    cases value with
    | str text => exact ⟨text, (Except.ok.inj h).symm⟩
    | _ => cases h
  sortKeys {value} _ := by cases value <;> simp [Json.sortKeys, readString, Except.toOption]

end readers

end Settings

namespace LoRA
variable {value : Json}

/-- An adapter does not depend on the order of keys. -/
theorem toOption_ofJson_sortKeys (h : value.Distinct) :
    (ofJson value.sortKeys).toOption = (ofJson value).toOption := by
  have hfile : (readFile value.sortKeys).toOption = (readFile value).toOption := by
    rw [readFile, readFile, Json.get?_sortKeys h]
    cases value.get? "file" with
    | none => rfl
    | some file => cases file <;> simp [Json.sortKeys, Except.toOption]
  have hweight : (readWeight value.sortKeys).toOption = (readWeight value).toOption := by
    rw [readWeight, readWeight, Json.get?_sortKeys h]
    cases value.get? "weight" with
    | none => rfl
    | some weight =>
      simp only [Option.map_some, toOption_mapError, weight.real?_sortKeys]
  have hmode : (readMode value.sortKeys).toOption = (readMode value).toOption := by
    rw [readMode, readMode, Json.get?_sortKeys h]
    cases value.get? "mode" with
    | none => rfl
    | some mode => cases mode <;> simp [Json.sortKeys, Except.toOption]
  cases value with
  | object members =>
    rw [Json.sortKeys_object] at hfile hweight hmode ⊢
    simp only [ofJson, toOption_bind, hfile, hweight, hmode]
  | _ => simp [Json.sortKeys, ofJson, Except.toOption]

end LoRA

namespace Settings
variable {s t a : Settings} {key : String} {value : Json} {members : Members}

theorem reads_loras (name : String) : Reads (readLoRAs name) where
  exists_some {value _} h := by
    cases value with
    | array items =>
      obtain ⟨loras, -, rfl⟩ := map_eq_ok.mp h
      exact ⟨loras, rfl⟩
    | _ => cases h
  sortKeys {value} h := by
    cases value with
    | array items =>
      rw [Json.sortKeys_array, readLoRAs, readLoRAs, toOption_map, toOption_map]
      rw [toOption_mapM fun item hitem =>
        LoRA.toOption_ofJson_sortKeys (Json.distinct_array.mp h item hitem)]
    | _ => simp [Json.sortKeys, readLoRAs, Except.toOption]

/-- A key has its field: the value under it is read and the field set to that.  All but the reader's
own properties holds of a field as soon as it is the one of the key. -/
structure Sets {α : Type} (key : String) (read : Json → Except SettingsFault (Option α))
    (set : Settings → Option α → Settings) : Prop where
  reads : Reads read
  readMember : ∀ (s : Settings) (value : Json),
      s.readMember key value = if value.isNull then .ok s else do return set s (← read value) := by
    intro s value
    cases value <;> rfl
  eq_merge : ∀ s a, set s (some a) = s.merge (set empty (some a)) := by
    intro s a
    rfl
  written : ∀ a, ∃ value, (set empty (some a)).toWire = [(key, value)] := by
    intro a
    exact ⟨_, rfl⟩

theorem exists_sets (h : key ∈ wireKeys) :
    ∃ (α : Type) (read : Json → Except SettingsFault (Option α))
      (set : Settings → Option α → Settings), Sets key read set := by
  simp only [wireKeys, wireFields, List.map_cons, List.map_nil, List.mem_cons, List.not_mem_nil,
    or_false] at h
  -- the keys in the order of `wireFields`; what follows does not go through them again
  rcases h with rfl | rfl | rfl | rfl | rfl | rfl | rfl | rfl | rfl | rfl | rfl | rfl | rfl | rfl
  · exact ⟨_, _, ({ · with width := · }), { reads := reads_integer "width" }⟩
  · exact ⟨_, _, ({ · with height := · }), { reads := reads_integer "height" }⟩
  · exact ⟨_, _, ({ · with steps := · }), { reads := reads_integer "steps" }⟩
  · exact ⟨_, _, ({ · with guidanceScale := · }), { reads := reads_number "guidance_scale" }⟩
  · exact ⟨_, _, ({ · with seed := · }), { reads := reads_integer "seed" }⟩
  · exact ⟨_, _, ({ · with model := · }), { reads := reads_string "model" }⟩
  · exact ⟨_, _, ({ · with sampler := · }), { reads := reads_string "sampler_name" }⟩
  · exact ⟨_, _, ({ · with numFrames := · }), { reads := reads_integer "num_frames" }⟩
  · exact ⟨_, _, ({ · with strength := · }), { reads := reads_number "strength" }⟩
  · exact ⟨_, _, ({ · with batchCount := · }), { reads := reads_integer "batch_count" }⟩
  · exact ⟨_, _, ({ · with batchSize := · }), { reads := reads_integer "batch_size" }⟩
  · exact ⟨_, _, ({ · with clipSkip := · }), { reads := reads_integer "clip_skip" }⟩
  · exact ⟨_, _, ({ · with shift := · }), { reads := reads_number "shift" }⟩
  · exact ⟨_, _, ({ · with loras := · }), { reads := reads_loras "loras" }⟩

theorem readMember_of_not_mem (h : key ∉ wireKeys) (s : Settings) (value : Json) :
    s.readMember key value = .ok s := by
  unfold readMember
  split
  · rfl
  · split
    all_goals first | rfl | exact absurd (by decide) h

/-- The settings of one member. -/
def ofMember (member : String × Json) : Except SettingsFault Settings :=
  empty.readMember member.1 member.2

/-- A member is read on top of settings as it is read alone. -/
theorem readMember_eq_merge (s : Settings) (key : String) (value : Json) :
    s.readMember key value = s.merge <$> ofMember (key, value) := by
  by_cases hkey : key ∈ wireKeys
  · obtain ⟨α, read, set, hsets⟩ := exists_sets hkey
    rw [ofMember, hsets.readMember, hsets.readMember]
    split
    · rfl
    · cases hread : read value with
      | error fault => rfl
      | ok o =>
        obtain ⟨a, rfl⟩ := hsets.reads.exists_some hread
        exact congrArg Except.ok (hsets.eq_merge s a)
  · rw [ofMember, readMember_of_not_mem hkey, readMember_of_not_mem hkey]
    rfl

/-- A member sets what is under its key, unless it sets nothing. -/
theorem ofMember_cases (h : ofMember (key, value) = .ok a) :
    ((value = .null ∨ key ∉ wireKeys) ∧ a = empty) ∨ ∃ written, a.toWire = [(key, written)] := by
  by_cases hkey : key ∈ wireKeys
  · obtain ⟨α, read, set, hsets⟩ := exists_sets hkey
    rw [ofMember, hsets.readMember] at h
    split at h
    · rename_i hnull
      cases value <;> cases hnull
      exact .inl ⟨.inl rfl, (Except.ok.inj h).symm⟩
    · obtain ⟨o, hread, h⟩ := bind_eq_ok.mp h
      obtain ⟨b, rfl⟩ := hsets.reads.exists_some hread
      cases h
      exact .inr (hsets.written b)
  · rw [ofMember, readMember_of_not_mem hkey] at h
    exact .inl ⟨.inr hkey, (Except.ok.inj h).symm⟩

theorem written?_ofMember_of_ne (h : ofMember (key, value) = .ok a) {k : String} (hk : key ≠ k) :
    a.written? k = none := by
  obtain ⟨-, rfl⟩ | ⟨written, hwritten⟩ := ofMember_cases h
  · rfl
  · rw [written?, hwritten, Members.get?, if_neg hk, Members.get?]

/-- The order of keys in the value of a member does not matter. -/
theorem toOption_ofMember_sortKeys (h : value.Distinct) (key : String) :
    (ofMember (key, value.sortKeys)).toOption = (ofMember (key, value)).toOption := by
  by_cases hkey : key ∈ wireKeys
  · obtain ⟨α, read, set, hsets⟩ := exists_sets hkey
    have hnull : value.sortKeys.isNull = value.isNull := by
      cases value <;> simp [Json.sortKeys, Json.isNull]
    rw [ofMember, ofMember, hsets.readMember, hsets.readMember, hnull]
    split
    · rfl
    · rw [toOption_bind, toOption_bind, hsets.reads.sortKeys h]
  · rw [ofMember, ofMember, readMember_of_not_mem hkey, readMember_of_not_mem hkey]

/-! ## Reading members -/

theorem foldlM_readMember (s : Settings) (members : Members) :
    members.foldlM (fun s m => s.readMember m.1 m.2) s = s.merge <$> ofMembers members := by
  induction members generalizing s with
  | nil => rfl
  | cons m members ih =>
    rw [ofMembers, List.foldlM_cons, List.foldlM_cons, readMember_eq_merge s, ← ofMember]
    cases ofMember m with
    | error fault => rfl
    | ok a =>
      calc members.foldlM (fun s m => s.readMember m.1 m.2) (s.merge a)
        _ = (s.merge a).merge <$> ofMembers members := ih (s.merge a)
        _ = s.merge <$> a.merge <$> ofMembers members := by
          rw [← comp_map]
          exact congrArg (· <$> ofMembers members) (funext fun t => merge_assoc s a t)
        _ = s.merge <$> members.foldlM (fun s m => s.readMember m.1 m.2) a := by rw [ih a]

/-- The settings of members are merged from those of each. -/
theorem ofMembers_cons (m : String × Json) (members : Members) :
    ofMembers (m :: members) = ofMember m >>= fun a => a.merge <$> ofMembers members :=
  congrArg (ofMember m >>= ·) (funext fun a => foldlM_readMember a members)

/-- Members are read just if each of them is. -/
theorem exists_ofMembers_iff :
    (∃ s, ofMembers members = .ok s) ↔ ∀ m ∈ members, ∃ a, ofMember m = .ok a := by
  induction members with
  | nil => exact iff_of_true ⟨empty, rfl⟩ (List.forall_mem_nil _)
  | cons m members ih =>
    rw [List.forall_mem_cons, ← ih, ofMembers_cons]
    simp only [bind_eq_ok, map_eq_ok]
    constructor
    · rintro ⟨s, a, ha, t, ht, -⟩
      exact ⟨⟨a, ha⟩, t, ht⟩
    · rintro ⟨⟨a, ha⟩, t, ht⟩
      exact ⟨_, a, ha, t, ht, rfl⟩

/-- What settings have under a key when a value is read there. -/
def readAs? (key : String) (value : Json) : Option Json :=
  (ofMember (key, value)).toOption.bind (·.written? key)

theorem readAs?_eq_none (h : key ∉ wireKeys) (value : Json) : readAs? key value = none := by
  rw [readAs?, ofMember, readMember_of_not_mem h]
  rfl

theorem isSome_readAs? (h : ofMember (key, value) = .ok a) (hkey : key ∈ wireKeys)
    (hvalue : value ≠ .null) : (readAs? key value).isSome = true := by
  rw [readAs?, toOption_eq_some.mpr h, Option.bind_some]
  obtain ⟨hnone | hnone, -⟩ | ⟨written, hwritten⟩ := ofMember_cases h
  · exact absurd hnone hvalue
  · exact absurd hkey hnone
  · rw [written?, hwritten, Members.get?, if_pos rfl, Option.isSome_some]

/-- Under each key settings have what is read of the one member with that key. -/
theorem written?_of_ofMembers (hn : (members.map (·.1)).Nodup) (h : ofMembers members = .ok s)
    (key : String) : s.written? key = (Members.get? members key).bind (readAs? key) := by
  induction members generalizing s with
  | nil =>
    cases h
    rfl
  | cons m members ih =>
    obtain ⟨k, v⟩ := m
    obtain ⟨hk, hrest⟩ := List.nodup_cons.mp hn
    rw [ofMembers_cons] at h
    obtain ⟨a, ha, h⟩ := bind_eq_ok.mp h
    obtain ⟨t, ht, rfl⟩ := map_eq_ok.mp h
    rw [written?_merge, ih hrest ht, Members.get?]
    -- under its own key the first member counts, as no later one has it; elsewhere it has nothing
    split
    · rename_i hkey
      subst hkey
      rw [Members.get?_of_not_mem hk, Option.bind_none, Option.none_or, Option.bind_some, readAs?,
        ha]
      rfl
    · rename_i hkey
      rw [written?_ofMember_of_ne ha hkey, Option.or_none]

/-- What is read of members whose keys are distinct, key by key. -/
theorem ofMembers_eq_ok_iff (hn : (members.map (·.1)).Nodup) : ofMembers members = .ok s ↔
    (∀ m ∈ members, ∃ a, ofMember m = .ok a) ∧
      ∀ key, s.written? key = (Members.get? members key).bind (readAs? key) := by
  constructor
  · exact fun h => ⟨exists_ofMembers_iff.mp ⟨s, h⟩, written?_of_ofMembers hn h⟩
  · rintro ⟨hread, hwritten⟩
    obtain ⟨t, ht⟩ := exists_ofMembers_iff.mpr hread
    rw [ht, ext_written? fun key => (written?_of_ofMembers hn ht key).trans (hwritten key).symm]

/-- Settings do not depend on the order of keys, in their members and in the values of these. -/
theorem toOption_ofMembers_keySorted (h : (Json.object members).Distinct) :
    (ofMembers members.keySorted).toOption = (ofMembers members).toOption := by
  obtain ⟨hkeys, hvalues⟩ := Json.distinct_object.mp h
  have hread (m) (hm : m ∈ members) :
      (∃ a, ofMember (m.1, m.2.sortKeys) = .ok a) ↔ ∃ a, ofMember m = .ok a := by
    simp only [← toOption_eq_some, toOption_ofMember_sortKeys (hvalues m hm)]
  have hwritten (key) : (Members.get? members.keySorted key).bind (readAs? key) =
      (Members.get? members key).bind (readAs? key) := by
    rw [Members.get?_keySorted hkeys, Option.bind_map]
    refine Option.bind_congr fun value hvalue => ?_
    have hmem := Members.mem_of_get? hvalue
    rw [Function.comp_apply, readAs?, readAs?, toOption_ofMember_sortKeys (hvalues _ hmem)]
  refine Option.ext fun s => ?_
  rw [toOption_eq_some, toOption_eq_some, ofMembers_eq_ok_iff (Members.nodup_keySorted hkeys),
    ofMembers_eq_ok_iff hkeys]
  refine and_congr ?_ (forall_congr' fun key => by rw [hwritten])
  simp only [Members.mem_keySorted, forall_exists_index, and_imp, forall_apply_eq_imp_iff₂]
  exact forall₂_congr hread

/-- Members that are updated are read as what is read of them, merged with what is read of the
update; only a value that is null is none of the update's. -/
theorem ofMembers_update {others : Members} (hn : (members.map (·.1)).Nodup)
    (hn' : (others.map (·.1)).Nodup) (hnull : ∀ m ∈ others, m.2 ≠ .null)
    (hs : ofMembers members = .ok s) (ht : ofMembers others = .ok t) :
    ofMembers (members.update others) = .ok (s.merge t) := by
  obtain ⟨hread, hs⟩ := (ofMembers_eq_ok_iff hn).mp hs
  obtain ⟨hread', ht⟩ := (ofMembers_eq_ok_iff hn').mp ht
  refine (ofMembers_eq_ok_iff (Members.nodup_update hn others)).mpr ⟨fun m hm => ?_, fun key => ?_⟩
  · exact (Members.mem_update hm).elim (hread m) (hread' m)
  rw [written?_merge, hs, ht, Members.get?_update hn']
  cases hvalue : Members.get? others key with
  | none => rw [Option.bind_none, Option.none_or, Option.none_or]
  | some value =>
    rw [Option.some_or, Option.bind_some]
    -- a known key is set by the update, since null is excluded; an unknown one is nowhere
    by_cases hkey : key ∈ wireKeys
    · have hmem := Members.mem_of_get? hvalue
      obtain ⟨a, ha⟩ := hread' _ hmem
      exact Option.or_of_isSome (isSome_readAs? ha hkey (hnull _ hmem))
    · rw [readAs?_eq_none hkey, Option.none_or, funext (readAs?_eq_none hkey),
        Option.bind_fun_none]

/-! ## Settings on parameters -/

theorem mem_setFields {field : String} : field ∈ s.setFields ↔ (field, true) ∈ s.fieldFlags := by
  simp [setFields]

theorem mem_setFields_merge {field : String} :
    field ∈ (s.merge t).setFields ↔ field ∈ s.setFields ∨ field ∈ t.setFields := by
  simp only [mem_setFields, fieldFlags, merge, List.mem_cons, List.not_mem_nil, or_false,
    Prod.mk.injEq, Eq.comm (a := true), Option.isSome_or, Bool.or_eq_true, and_or_left]
  exact iff_of_eq (by ac_rfl)

end Settings

namespace Generation

theorem mem_namesSet_merge {s t : Settings} {name : String} :
    name ∈ namesSet (s.merge t) ↔ name ∈ namesSet s ∨ name ∈ namesSet t := by
  simp only [namesSet, List.mem_map, Settings.mem_setFields_merge, or_and_right, exists_or]

theorem withSettings_empty (g : Generation) : g.withSettings .empty = g := by
  have hunchecked : g.unchecked.without (namesSet .empty) = g.unchecked :=
    List.filter_eq_self.mpr fun _ _ => rfl
  rw [withSettings, hunchecked]
  rfl

/-- Merged settings are put on top one after the other. -/
theorem withSettings_merge (g : Generation) (s t : Settings) :
    g.withSettings (s.merge t) = (g.withSettings s).withSettings t := by
  have hunchecked : g.unchecked.without (namesSet (s.merge t)) =
      (g.unchecked.without (namesSet s)).without (namesSet t) := by
    rw [Members.without, Members.without, Members.without, List.filter_filter]
    refine List.filter_congr fun m _ => ?_
    rw [Bool.eq_iff_iff]
    simp [mem_namesSet_merge, and_comm]
  rw [withSettings, hunchecked]
  simp only [withSettings, Settings.merge, Option.map_or, Option.getD_or, Option.or_assoc]

end Generation

namespace Settings

/-- Settings are a monoid under merging, and merging with the same settings again changes nothing.
They act on the parameters of a generation; on the wire an update acts as merging does, unless it
has null under some key. -/
theorem merge_acts :
    (∀ a b c : Settings, (a.merge b).merge c = a.merge (b.merge c)) ∧
      (∀ a : Settings, empty.merge a = a ∧ a.merge empty = a) ∧
      (∀ a b : Settings, (a.merge b).merge b = a.merge b) ∧
      (∀ g : Generation, g.withSettings empty = g) ∧
      (∀ (g : Generation) (a b : Settings),
        g.withSettings (a.merge b) = (g.withSettings a).withSettings b) ∧
      ∀ (members others : Members) (a b : Settings), (members.map (·.1)).Nodup →
        (others.map (·.1)).Nodup → (∀ m ∈ others, m.2 ≠ .null) →
        ofWire (.object members) = .ok a → ofWire (.object others) = .ok b →
        ofWire (.object (members.update others)) = .ok (a.merge b) :=
  ⟨merge_assoc, fun a => ⟨empty_merge a, merge_empty a⟩, merge_merge_self,
    Generation.withSettings_empty, Generation.withSettings_merge,
    fun _ _ _ _ hn hn' hnull ha hb => ofMembers_update hn hn' hnull ha hb⟩

/-- Zero, an empty text and no adapters take the place of what was there; null and what is unknown
do not count. -/
theorem merge_acts_zero :
    let members : Members := [("loras", .array [.object [("file", .str "detail")]]),
      ("steps", .int 8), ("height", .null), ("fps", .int 24), ("samplerName", .str "Euler")]
    let others : Members := [("shift", .int 0), ("samplerName", .str ""), ("fps", .bool true),
      ("loras", .array [])]
    let a : Settings :=
      { loras := some [⟨"detail", .ofRat 1, "all"⟩], steps := some 8, sampler := some "Euler" }
    let b : Settings := { shift := some (.ofRat 0), sampler := some "", loras := some [] }
    ofWire (.object members) = .ok a ∧ ofWire (.object others) = .ok b ∧
      (∀ m ∈ others, m.2 ≠ .null) ∧
      ofWire (.object (members.update others)) = .ok (a.merge b) ∧
      a.merge b =
        { shift := some (.ofRat 0), steps := some 8, sampler := some "", loras := some [] } := by
  intro members others a b
  have ha : ofWire (.object members) = .ok a := toOption_eq_some.mp (by decide +kernel)
  have hb : ofWire (.object others) = .ok b := toOption_eq_some.mp (by decide +kernel)
  have hnull : ∀ m ∈ others, m.2 ≠ .null := by simp [others]
  obtain ⟨-, -, -, -, -, hupdate⟩ := merge_acts
  exact ⟨ha, hb, hnull, hupdate members others a b (by decide) (by decide) hnull ha hb, rfl⟩

end Settings

end ImageWorkflow
