import Mathlib
import ImageWorkflow.Instruction.Wire
import ImageWorkflow.Proofs.FiniteRange
import ImageWorkflow.Proofs.Results

/-!
# Weights on the wire

Keys of weights end in the decimal digits of an index, in any script; the weights that are read are
those of distinct indices, by increasing index.
* `readDigits?_toDigits`, `readIndex_toDigits` : the digits of an index are read as the index;
* `length_toDigits_of_readIndex` : an index that was read has few enough digits to be read again;
* `WeightsGathered` : what each member that is read keeps (`WeightsGathered.addWeight`);
* `WeightsReadable` : weights as they are read (`weightsReadable_of_readWeights`);
* `readWeights_eq_ok_iff` : what is read of weights no two keys of which name one index
  (`IndicesApart`), whatever their order;
* `readWeights_write_perm` : so weights that are written are read as themselves, in whatever order.
-/

namespace ImageWorkflow

/-! ## Decimal digits -/

namespace Text
variable {n k : Nat} {cs : List Char} {c : Char}

theorem decimalValue?_lt (h : decimalValue? c = some n) : n < 10 := by
  unfold decimalValue? at h
  split at h
  · split at h
    · rename_i hc
      cases h
      have : c.toNat ≤ 57 := (Char.isDigit_iff_toNat.mp hc).2
      omega
    · cases h
  · obtain ⟨first, hfirst, rfl⟩ := Option.map_eq_some_iff.mp h
    have := List.find?_some hfirst
    simp only [Bool.and_eq_true, decide_eq_true_eq] at this
    omega

theorem decimalValue?_digitChar (h : n < 10) : decimalValue? n.digitChar = some n := by
  revert n
  decide

theorem readDigits?_concat (cs : List Char) (c : Char) :
    readDigits? (cs ++ [c]) = do return (← readDigits? cs) * 10 + (← decimalValue? c) := by
  simp only [readDigits?, List.foldl_append, List.foldl_cons, List.foldl_nil]

theorem readDigits?_toDigits (n : Nat) : readDigits? (Nat.toDigits 10 n) = some n := by
  induction n using Nat.strong_induction_on with
  | _ n ih =>
    rw [Nat.toDigits_eq_if (by decide)]
    split
    · rename_i h
      rw [← List.nil_append [n.digitChar], readDigits?_concat, decimalValue?_digitChar h]
      simp [readDigits?]
    · rename_i h
      rw [readDigits?_concat, ih (n / 10) (by omega),
        decimalValue?_digitChar (Nat.mod_lt n (by decide))]
      simp only [Option.bind_eq_bind, Option.bind_some, Option.pure_def, Option.some.injEq]
      omega

/-- A numeral has digits only, and its number is below the power of ten for their count. -/
theorem lt_of_readDigits? (h : readDigits? cs = some n) :
    (∀ c ∈ cs, (decimalValue? c).isSome = true) ∧ n < 10 ^ cs.length := by
  induction cs using List.reverseRecOn generalizing n with
  | nil =>
    cases h
    exact ⟨by simp, by simp⟩
  | append_singleton cs c ih =>
    rw [readDigits?_concat] at h
    obtain ⟨m, hm, h⟩ := Option.bind_eq_some_iff.mp h
    obtain ⟨d, hd, h⟩ := Option.bind_eq_some_iff.mp h
    cases h
    obtain ⟨hall, hlt⟩ := ih hm
    have hd10 := decimalValue?_lt hd
    refine ⟨fun c' hc' => ?_, ?_⟩
    · rcases List.mem_append.mp hc' with hc' | hc'
      · exact hall c' hc'
      · rw [List.mem_singleton.mp hc', hd, Option.isSome_some]
    · rw [List.length_append, List.length_singleton, pow_succ]
      omega

theorem exists_readDigits? (h : ∀ c ∈ cs, (decimalValue? c).isSome = true) :
    ∃ n, readDigits? cs = some n := by
  induction cs using List.reverseRecOn with
  | nil => exact ⟨0, rfl⟩
  | append_singleton cs c ih =>
    obtain ⟨m, hm⟩ := ih fun c hc => h c (List.mem_append_left _ hc)
    obtain ⟨d, hd⟩ := Option.isSome_iff_exists.mp (h c (by simp))
    exact ⟨m * 10 + d, by rw [readDigits?_concat, hm, hd]; rfl⟩

theorem isSome_of_mem_toDigits (h : c ∈ Nat.toDigits 10 n) : (decimalValue? c).isSome = true :=
  (lt_of_readDigits? (readDigits?_toDigits n)).1 c h

end Text

namespace Instruction
variable {n : Nat} {digits : List Char} {ws : List (Nat × Binary64)} {members : Members}
  {member : String × Json} {entry : Nat × Binary64}

/-! ## Keys -/

theorem weightDigits?_key (n : Nat) : weightDigits? s!"index_{n}" = some (Nat.toDigits 10 n) := by
  have hkey : (s!"index_{n}").toList =
      'i' :: 'n' :: 'd' :: 'e' :: 'x' :: '_' :: Nat.toDigits 10 n := by
    simp [String.toList_append, toString]
  rw [weightDigits?, hkey]
  have hall : (Nat.toDigits 10 n).all Text.isDigitLike = true := by
    refine List.all_eq_true.mpr fun c hc => ?_
    rw [Text.isDigitLike, Text.isSome_of_mem_toDigits hc, Bool.true_or]
  simp [hall]

theorem takeWhile_of_readDigits? (h : Text.readDigits? digits = some n) :
    (digits.takeWhile fun c => (Text.decimalValue? c).isSome) = digits :=
  List.takeWhile_eq_self_iff.mpr (Text.lt_of_readDigits? h).1

theorem readIndex_toDigits (h : (Nat.toDigits 10 n).length ≤ maxIntegerDigits) :
    readIndex (Nat.toDigits 10 n) = .ok n := by
  simp only [readIndex, takeWhile_of_readDigits? (Text.readDigits?_toDigits n),
    Text.readDigits?_toDigits]
  rw [if_neg (Nat.not_lt.mpr h)]

theorem length_toDigits_of_readIndex (h : readIndex digits = .ok n) :
    (Nat.toDigits 10 n).length ≤ maxIntegerDigits := by
  simp only [readIndex] at h
  split at h
  · cases h
  · rename_i hlength
    split at h
    · rename_i m hm
      cases h
      rw [takeWhile_of_readDigits? hm] at hlength
      rw [Nat.length_toDigits_le_iff (by decide) (by decide)]
      exact Nat.lt_of_lt_of_le (Text.lt_of_readDigits? hm).2
        (Nat.pow_le_pow_right (by decide) (Nat.not_lt.mp hlength))
    · cases h

/-- The index that a key of weights names. -/
def weightIndex? (key : String) : Option Nat :=
  (weightDigits? key).bind fun digits => (readIndex digits).toOption

/-- No two keys name one index. -/
def IndicesApart (members : Members) : Prop :=
  ∀ key ∈ members.map (·.1), ∀ key' ∈ members.map (·.1), ∀ n, weightIndex? key = some n →
    weightIndex? key' = some n → key = key'

/-! ## Weights by their indices -/

theorem mem_setWeight {x : Binary64} (h : entry ∈ setWeight ws n x) :
    entry = (n, x) ∨ entry ∈ ws := by
  induction ws with
  | nil => exact Or.inl (List.mem_singleton.mp h)
  | cons first ws ih =>
    simp only [setWeight] at h
    split at h
    · rename_i hn
      rcases List.mem_cons.mp h with h | h
      · exact Or.inl (by rw [h, hn])
      · exact Or.inr (List.mem_cons_of_mem _ h)
    · rcases List.mem_cons.mp h with h | h
      · exact Or.inr (by rw [h]; exact List.mem_cons_self)
      · exact (ih h).imp id (List.mem_cons_of_mem _)

theorem nodup_setWeight (h : (ws.map (·.1)).Nodup) (n : Nat) (x : Binary64) :
    ((setWeight ws n x).map (·.1)).Nodup := by
  induction ws with
  | nil => simp [setWeight]
  | cons first ws ih =>
    obtain ⟨hfirst, hws⟩ := List.nodup_cons.mp h
    simp only [setWeight]
    split
    · exact List.nodup_cons.mpr ⟨hfirst, hws⟩
    · rename_i hn
      refine List.nodup_cons.mpr ⟨fun hmem => ?_, ih hws⟩
      obtain ⟨entry, hentry, heq⟩ := List.mem_map.mp hmem
      rcases mem_setWeight hentry with rfl | hentry
      · exact hn heq.symm
      · exact hfirst (List.mem_map.mpr ⟨entry, hentry, heq⟩)

theorem setWeight_of_not_mem (h : n ∉ ws.map (·.1)) (x : Binary64) :
    setWeight ws n x = ws ++ [(n, x)] := by
  induction ws with
  | nil => rfl
  | cons first ws ih =>
    rw [List.map_cons, List.mem_cons, not_or] at h
    simp only [setWeight, if_neg (Ne.symm h.1), ih h.2, List.cons_append]

/-! ## Reading and writing -/

/-- Weights as they are read: by increasing index, each of them a number and its index a numeral
that is read. -/
structure WeightsReadable (ws : List (Nat × Binary64)) : Prop where
  sorted : ws.Pairwise fun a b => a.1 < b.1
  finite : ∀ entry ∈ ws, entry.2.isFinite = true
  short : ∀ entry ∈ ws, (Nat.toDigits 10 entry.1).length ≤ maxIntegerDigits

theorem readReal_float {kind : Kind} {field : Option String} {x : Binary64}
    (h : x.isFinite = true) : readReal kind field (.float x) = .ok x := by
  rw [readReal, Json.real?_float h]
  rfl

theorem isFinite_of_readReal {kind : Kind} {field : Option String} {value : Json} {x : Binary64}
    (h : readReal kind field value = .ok x) : x.isFinite = true :=
  Json.isFinite_of_real? (mapError_eq_ok.mp h)

/-- The weight of one member, with its index. -/
def weightOf (member : String × Json) : Except DecodeFailure (Nat × Binary64) :=
  match weightDigits? member.1 with
  | none => refuse .moodboardWeights (.badWeightKey member.1)
  | some digits => do
    let weight ← readReal .moodboardWeights (some member.1) member.2
    return (← readIndex digits, weight)

theorem weightOf_eq_ok : weightOf member = .ok entry ↔ ∃ digits,
    weightDigits? member.1 = some digits ∧ readIndex digits = .ok entry.1 ∧
      readReal .moodboardWeights (some member.1) member.2 = .ok entry.2 := by
  rw [weightOf]
  cases weightDigits? member.1 with
  | none => simp [refuse]
  | some digits =>
    simp only [bind_eq_ok, Option.some.injEq, exists_eq_left']
    constructor
    · rintro ⟨x, hx, n, hn, h⟩
      cases h
      exact ⟨hn, hx⟩
    · exact fun ⟨hn, hx⟩ => ⟨_, hx, _, hn, rfl⟩

/-- The weights with those of one more member. -/
def addWeight (ws : List (Nat × Binary64)) (member : String × Json) :
    Except DecodeFailure (List (Nat × Binary64)) :=
  match weightDigits? member.1 with
  | none => refuse .moodboardWeights (.badWeightKey member.1)
  | some digits => do
    let weight ← readReal .moodboardWeights (some member.1) member.2
    return setWeight ws (← readIndex digits) weight

theorem readWeights_eq_ok : readWeights members = .ok ws ↔
    ∃ ws', members.foldlM addWeight [] = .ok ws' ∧ ws'.mergeSort (fun a b => a.1 ≤ b.1) = ws := by
  have h : readWeights members = members.foldlM addWeight [] >>= fun ws' =>
      .ok (ws'.mergeSort fun a b => a.1 ≤ b.1) := rfl
  rw [h, bind_eq_ok]
  simp only [Except.ok.injEq]

theorem addWeight_eq (ws : List (Nat × Binary64)) (member : String × Json) :
    addWeight ws member = (fun entry => setWeight ws entry.1 entry.2) <$> weightOf member := by
  rw [addWeight, weightOf]
  cases weightDigits? member.1 with
  | none => rfl
  | some digits => simp only [map_bind, map_pure]

theorem addWeight_eq_ok {ws' : List (Nat × Binary64)} (h : addWeight ws member = .ok ws') :
    ∃ n x, ws' = setWeight ws n x ∧ x.isFinite = true ∧
      (Nat.toDigits 10 n).length ≤ maxIntegerDigits := by
  rw [addWeight_eq] at h
  obtain ⟨entry, hentry, rfl⟩ := map_eq_ok.mp h
  obtain ⟨digits, -, hn, hx⟩ := weightOf_eq_ok.mp hentry
  exact ⟨entry.1, entry.2, rfl, isFinite_of_readReal hx, length_toDigits_of_readIndex hn⟩

/-- What is kept of weights as members are added to them in any order. -/
structure WeightsGathered (ws : List (Nat × Binary64)) : Prop where
  nodup : (ws.map (·.1)).Nodup
  finite : ∀ entry ∈ ws, entry.2.isFinite = true
  short : ∀ entry ∈ ws, (Nat.toDigits 10 entry.1).length ≤ maxIntegerDigits

theorem weightsGathered_nil : WeightsGathered [] := ⟨by simp, by simp, by simp⟩

theorem WeightsGathered.addWeight {ws' : List (Nat × Binary64)}
    (h : WeightsGathered ws) (hadd : addWeight ws member = .ok ws') : WeightsGathered ws' := by
  obtain ⟨n, x, rfl, hx, hn⟩ := addWeight_eq_ok hadd
  refine ⟨nodup_setWeight h.nodup n x, fun entry hentry => ?_, fun entry hentry => ?_⟩
  · rcases mem_setWeight hentry with rfl | hentry
    · exact hx
    · exact h.finite entry hentry
  · rcases mem_setWeight hentry with rfl | hentry
    · exact hn
    · exact h.short entry hentry

theorem WeightsGathered.mergeSort (h : WeightsGathered ws) :
    WeightsReadable (ws.mergeSort fun a b => a.1 ≤ b.1) := by
  have hperm := List.mergeSort_perm ws fun a b => a.1 ≤ b.1
  have hsorted : (ws.mergeSort fun a b => a.1 ≤ b.1).Pairwise
      fun a b => decide (a.1 ≤ b.1) = true :=
    List.pairwise_mergeSort (fun a b c hab hbc => by simp only [decide_eq_true_eq] at *; omega)
      (fun a b => by simp only [Bool.or_eq_true, decide_eq_true_eq]; omega) ws
  have hdistinct : (ws.mergeSort fun a b => a.1 ≤ b.1).Pairwise fun a b => a.1 ≠ b.1 :=
    List.pairwise_map.mp ((hperm.map _).nodup_iff.mpr h.nodup)
  exact {
    sorted := (hsorted.and hdistinct).imp fun hab =>
      Nat.lt_of_le_of_ne (of_decide_eq_true hab.1) hab.2
    finite := fun entry hentry => h.finite entry (hperm.mem_iff.mp hentry)
    short := fun entry hentry => h.short entry (hperm.mem_iff.mp hentry) }

theorem weightsReadable_of_readWeights (h : readWeights members = .ok ws) :
    WeightsReadable ws := by
  obtain ⟨ws', hfold, rfl⟩ := readWeights_eq_ok.mp h
  have hgathered : WeightsGathered ws' :=
    foldlM_keeps (fun _ _ _ hws hadd => hws.addWeight hadd) weightsGathered_nil hfold
  exact hgathered.mergeSort

/-! ## Weight by weight -/

/-- Members are added as the weights that they have. -/
theorem foldlM_addWeight_eq_ok {done : List (Nat × Binary64)} :
    members.foldlM addWeight done = .ok ws ↔ ∃ entries : List (Nat × Binary64),
      List.Forall₂ (fun m entry => weightOf m = .ok entry) members entries ∧
        entries.foldl (fun ws entry => setWeight ws entry.1 entry.2) done = ws := by
  induction members generalizing done with
  | nil => simp [List.forall₂_nil_left_iff, pure, Except.pure]
  | cons member members ih =>
    simp only [List.foldlM_cons, bind_eq_ok, addWeight_eq, map_eq_ok, ih,
      List.forall₂_cons_left_iff]
    constructor
    · rintro ⟨_, ⟨entry, hentry, rfl⟩, entries, hentries, h⟩
      exact ⟨entry :: entries, ⟨entry, entries, hentry, hentries, rfl⟩, h⟩
    · rintro ⟨_, ⟨entry, entries, hentry, hentries, rfl⟩, h⟩
      exact ⟨_, ⟨entry, hentry, rfl⟩, entries, hentries, h⟩

theorem foldl_setWeight (done rest : List (Nat × Binary64))
    (h : ((done ++ rest).map (·.1)).Nodup) :
    rest.foldl (fun ws entry => setWeight ws entry.1 entry.2) done = done ++ rest := by
  induction rest generalizing done with
  | nil => exact (List.append_nil done).symm
  | cons entry rest ih =>
    have hnew : entry.1 ∉ done.map (·.1) := by
      intro hmem
      rw [List.map_append, List.nodup_append] at h
      exact h.2.2 _ hmem _ (by simp) rfl
    have happend : done ++ entry :: rest = done ++ [entry] ++ rest := by simp
    rw [List.foldl_cons, setWeight_of_not_mem hnew, ih _ (happend ▸ h), ← happend]

theorem weightIndex?_of_weightOf (h : weightOf member = .ok entry) :
    weightIndex? member.1 = some entry.1 := by
  obtain ⟨digits, hdigits, hn, -⟩ := weightOf_eq_ok.mp h
  rw [weightIndex?, hdigits, Option.bind_some, toOption_eq_some, hn]

/-- Distinct keys that name distinct indices give weights of distinct indices. -/
theorem nodup_indices {entries : List (Nat × Binary64)} (hn : (members.map (·.1)).Nodup)
    (hapart : IndicesApart members)
    (h : List.Forall₂ (fun m entry => weightOf m = .ok entry) members entries) :
    (entries.map (·.1)).Nodup := by
  have hindex :
      members.map (fun m => weightIndex? m.1) = entries.map fun entry => some entry.1 := by
    rw [← List.forall₂_eq_eq_eq, List.forall₂_map_left_iff, List.forall₂_map_right_iff]
    exact h.imp fun _ _ => weightIndex?_of_weightOf
  -- a key without an index would give no weight, so every key here names one
  have hinj : ∀ m ∈ members, ∀ m' ∈ members, weightIndex? m.1 = weightIndex? m'.1 → m = m' := by
    intro m hm m' hm' heq
    have hsome := List.mem_map_of_mem (f := fun m => weightIndex? m.1) hm
    rw [hindex] at hsome
    obtain ⟨entry, -, hentry⟩ := List.mem_map.mp hsome
    exact List.inj_on_of_nodup_map hn hm hm' (hapart m.1 (List.mem_map_of_mem hm) m'.1
      (List.mem_map_of_mem hm') entry.1 hentry.symm (heq ▸ hentry.symm))
  have hnodup := List.Nodup.map_on hinj hn.of_map
  rw [hindex, ← Function.comp_def, ← List.map_map] at hnodup
  exact hnodup.of_map

/-- What is read of weights whose keys name distinct indices: those of the members, by increasing
index. -/
theorem readWeights_eq_ok_iff (hn : (members.map (·.1)).Nodup) (hapart : IndicesApart members) :
    readWeights members = .ok ws ↔ ws.Pairwise (·.1 < ·.1) ∧
      ∃ entries : List (Nat × Binary64), entries.Perm ws ∧
        List.Forall₂ (fun m entry => weightOf m = .ok entry) members entries := by
  constructor
  · intro h
    refine ⟨(weightsReadable_of_readWeights h).sorted, ?_⟩
    obtain ⟨ws', hfold, rfl⟩ := readWeights_eq_ok.mp h
    obtain ⟨entries, hentries, rfl⟩ := foldlM_addWeight_eq_ok.mp hfold
    have hnodup := nodup_indices hn hapart hentries
    rw [foldl_setWeight [] entries hnodup]
    exact ⟨entries, (List.mergeSort_perm _ _).symm, hentries⟩
  · rintro ⟨hsorted, entries, hperm, hentries⟩
    have hnodup := nodup_indices hn hapart hentries
    have hfold := foldlM_addWeight_eq_ok.mpr
      ⟨entries, hentries, foldl_setWeight [] entries hnodup⟩
    have h := readWeights_eq_ok.mpr ⟨_, hfold, rfl⟩
    rw [h, List.nil_append]
    refine congrArg Except.ok (List.Perm.eq_of_pairwise (fun a b _ _ hab hba => ?_)
      (weightsReadable_of_readWeights h).sorted hsorted ((List.mergeSort_perm _ _).trans hperm))
    exact absurd hab (Nat.lt_asymm hba)

/-- Of two keys for one index the later counts. -/
example :
    (readWeights [("index_1", .int 0), ("index_01", .int 1)]).toOption = some [(1, .ofRat 1)] ∧
      (readWeights [("index_01", .int 1), ("index_1", .int 0)]).toOption =
        some [(1, .ofRat 0)] := by
  decide +kernel

/-! ## Writing -/

/-- The weights on the wire. -/
def writeWeights (ws : List (Nat × Binary64)) : Members :=
  ws.map fun entry => (s!"index_{entry.1}", .float entry.2)

theorem index_injective {m n : Nat} (h : s!"index_{m}" = s!"index_{n}") : m = n := by
  have hdigits := weightDigits?_key m
  rw [h, weightDigits?_key, Option.some.injEq] at hdigits
  have hread := Text.readDigits?_toDigits m
  rw [← hdigits, Text.readDigits?_toDigits] at hread
  exact (Option.some.inj hread).symm

theorem nodup_writeWeights (h : (ws.map (·.1)).Nodup) :
    ((writeWeights ws).map (·.1)).Nodup := by
  have hnodup := h.map fun _ _ => index_injective
  rw [List.map_map] at hnodup
  rwa [writeWeights, List.map_map]

theorem WeightsReadable.nodup (h : WeightsReadable ws) : (ws.map (·.1)).Nodup :=
  List.pairwise_map.mpr (h.sorted.imp Nat.ne_of_lt)

theorem indicesApart_writeWeights
    (h : ∀ entry ∈ ws, (Nat.toDigits 10 entry.1).length ≤ maxIntegerDigits) :
    IndicesApart (writeWeights ws) := by
  have hindex {entry : Nat × Binary64} (he : entry ∈ ws) :
      weightIndex? s!"index_{entry.1}" = some entry.1 := by
    rw [weightIndex?, weightDigits?_key, Option.bind_some, readIndex_toDigits (h entry he)]
    rfl
  intro key hkey key' hkey' n hn hn'
  rw [writeWeights, List.map_map] at hkey hkey'
  obtain ⟨entry, hentry, rfl⟩ := List.mem_map.mp hkey
  obtain ⟨entry', hentry', rfl⟩ := List.mem_map.mp hkey'
  obtain rfl := Option.some.inj ((hindex hentry).symm.trans hn)
  have heq := Option.some.inj ((hindex hentry').symm.trans hn')
  rw [Function.comp_apply, Function.comp_apply, heq]

theorem weightOf_write {x : Binary64} (hx : x.isFinite = true)
    (hn : (Nat.toDigits 10 n).length ≤ maxIntegerDigits) :
    weightOf (s!"index_{n}", .float x) = .ok (n, x) :=
  weightOf_eq_ok.mpr ⟨_, weightDigits?_key n, readIndex_toDigits hn, readReal_float hx⟩

/-- Weights that are written in any order are read by increasing index. -/
theorem readWeights_write_perm {ws' : List (Nat × Binary64)} (h : WeightsReadable ws)
    (hp : ws'.Perm ws) : readWeights (writeWeights ws') = .ok ws := by
  have hnodup : (ws'.map (·.1)).Nodup := (hp.map _).nodup_iff.mpr h.nodup
  have hshort (entry) (he : entry ∈ ws') := h.short entry (hp.mem_iff.mp he)
  rw [readWeights_eq_ok_iff (nodup_writeWeights hnodup) (indicesApart_writeWeights hshort)]
  refine ⟨h.sorted, ws', hp, ?_⟩
  rw [writeWeights, List.forall₂_map_left_iff, List.forall₂_same]
  exact fun entry he => weightOf_write (h.finite entry (hp.mem_iff.mp he)) (hshort entry he)

theorem readWeights_write (h : WeightsReadable ws) : readWeights (writeWeights ws) = .ok ws :=
  readWeights_write_perm h (.refl ws)

end Instruction

end ImageWorkflow
