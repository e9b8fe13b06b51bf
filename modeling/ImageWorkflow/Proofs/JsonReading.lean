import Mathlib
import ImageWorkflow.Proofs.JsonText

/-!
# What is read from JSON text

* `Json.Parser.writable_of_readNumber`, `Json.Parser.writable_of_readValue` : whatever is read
  repeats no key, and its integers are as short as an integer must be to be read;
* `Json.writable_of_parse` : so every value that is read has a text;
* `Json.parse_compact_iff`, `Json.parse_pretty_iff` : the values that are read back from their texts
  are the writable ones.
-/

namespace ImageWorkflow

namespace Members
variable {members : Members} {key : String} {value : Json} {m : String × Json}

theorem mem_insert (h : m ∈ members.insert key value) : m = (key, value) ∨ m ∈ members := by
  induction members with
  | nil => exact Or.inl (List.mem_singleton.mp h)
  | cons first members ih =>
    obtain ⟨k, v⟩ := first
    rw [insert] at h
    split at h
    · rename_i hk
      rcases List.mem_cons.mp h with rfl | h
      · exact Or.inl (by rw [hk])
      · exact Or.inr (List.mem_cons_of_mem _ h)
    · rcases List.mem_cons.mp h with rfl | h
      · exact Or.inr List.mem_cons_self
      · exact (ih h).imp id (List.mem_cons_of_mem _)

/-- A key is set in its place, so that none is there twice. -/
theorem nodup_insert (h : (members.map (·.1)).Nodup) (key : String) (value : Json) :
    ((members.insert key value).map (·.1)).Nodup := by
  induction members with
  | nil => simp [insert]
  | cons first members ih =>
    obtain ⟨k, v⟩ := first
    obtain ⟨hk, hrest⟩ := List.nodup_cons.mp h
    rw [insert]
    split
    · exact List.nodup_cons.mpr ⟨hk, hrest⟩
    · rename_i hne
      refine List.nodup_cons.mpr ⟨fun hmem => ?_, ih hrest⟩
      obtain ⟨m, hm, heq⟩ := List.mem_map.mp hmem
      rcases mem_insert hm with rfl | hm
      · exact hne heq.symm
      · exact hk (List.mem_map.mpr ⟨m, hm, heq⟩)

end Members

namespace Json

namespace Parser
variable {position stop : ℕ} {cs rest digits : List Char} {c : Char} {v : Json}

/-! ## Numbers -/

theorem digitsValue_lt (h : ∀ c ∈ digits, c.isDigit = true) :
    digitsValue digits < 10 ^ digits.length := by
  induction digits using List.reverseRecOn with
  | nil => decide
  | append_singleton digits c ih =>
    have hdigits := ih fun c hc => h c (List.mem_append_left _ hc)
    have hc : c.toNat ≤ 57 := (Char.isDigit_iff_toNat.mp (h c (by simp))).2
    have hvalue : digitsValue [c] = c.toNat - 48 := Nat.zero_add _
    rw [digitsValue_append, hvalue, List.length_append, List.length_singleton, pow_succ]
    omega

theorem isDigit_of_mem_wholePart (h : c ∈ (wholePart cs).1) : c.isDigit = true := by
  unfold wholePart at h
  split at h
  · rw [List.mem_singleton.mp h]
    decide
  · rw [spanDigits, List.span_eq_takeWhile_dropWhile] at h
    exact List.mem_takeWhile_imp h

/-- An integer that is read has few enough digits to be read again. -/
theorem writable_of_readNumber {negative : Bool} {start : ℕ}
    (h : readNumber negative start cs position = .ok (v, rest, stop)) : v.Writable := by
  have hdigits : ∀ c ∈ (wholePart cs).1, c.isDigit = true := fun _ => isDigit_of_mem_wholePart
  simp only [readNumber] at h
  generalize (wholePart cs).1 = whole at h hdigits
  split at h
  · cases h
  · split at h
    · cases h
      exact writable_float _
    · split at h
      · split at h
        · cases h
        · rename_i hlength
          cases h
          refine writable_int ?_
          have hvalue : (if negative then -(digitsValue whole : ℤ) else digitsValue whole).natAbs =
              digitsValue whole := by
            split <;> omega
          rw [hvalue, Nat.length_toDigits_le_iff (by decide) (by decide)]
          exact Nat.lt_of_lt_of_le (digitsValue_lt hdigits)
            (Nat.pow_le_pow_right (by decide) (Nat.not_lt.mp hlength))
      · cases h
        exact writable_float _

/-! ## Values -/

mutual

/-- What is read is writable. -/
theorem writable_of_readValue (fuel : ℕ) {cs rest : List Char} {position stop : ℕ} {v : Json}
    (h : readValue fuel cs position = .ok (v, rest, stop)) : v.Writable := by
  cases fuel with
  | zero => cases h
  | succ fuel =>
    unfold readValue at h
    split at h
    · obtain ⟨⟨s, after, p⟩, -, h⟩ := bind_eq_ok.mp h
      cases h
      exact writable_str s
    · split at h
      · cases h
        exact writable_object (by simp) (by simp)
      · exact writable_of_readMembers fuel h (by simp) (by simp)
    · split at h
      · cases h
        exact writable_array (by simp)
      · exact writable_of_readItems fuel h (by simp)
    · cases h
      exact writable_null
    · cases h
      exact writable_bool true
    · cases h
      exact writable_bool false
    · cases h
      exact writable_float _
    · cases h
      exact writable_float _
    · cases h
      exact writable_float _
    · exact writable_of_readNumber h
    · exact writable_of_readNumber h

/-- So is an array, if the items before were. -/
theorem writable_of_readItems (fuel : ℕ) {cs rest : List Char} {position stop : ℕ}
    {read : List Json} {v : Json} (h : readItems fuel cs position read = .ok (v, rest, stop))
    (hread : ∀ item ∈ read, item.Writable) : v.Writable := by
  cases fuel with
  | zero => cases h
  | succ fuel =>
    unfold readItems at h
    obtain ⟨⟨item, after, p⟩, hitem, h⟩ := bind_eq_ok.mp h
    have hnew : ∀ i ∈ item :: read, i.Writable :=
      List.forall_mem_cons.mpr ⟨writable_of_readValue fuel hitem, hread⟩
    dsimp only at h
    split at h
    · cases h
      exact writable_array fun i hi => hnew i (List.mem_reverse.mp hi)
    · exact writable_of_readItems fuel h hnew
    · cases h

/-- And so is an object: setting a key once more leaves it there once. -/
theorem writable_of_readMembers (fuel : ℕ) {cs rest : List Char} {position stop : ℕ}
    {read : Members} {v : Json} (h : readMembers fuel cs position read = .ok (v, rest, stop))
    (hkeys : (read.map (·.1)).Nodup) (hread : ∀ m ∈ read, m.2.Writable) : v.Writable := by
  cases fuel with
  | zero => cases h
  | succ fuel =>
    unfold readMembers at h
    split at h
    · obtain ⟨⟨key, after, p⟩, -, h⟩ := bind_eq_ok.mp h
      dsimp only at h
      split at h
      · obtain ⟨⟨value, after, p⟩, hvalue, h⟩ := bind_eq_ok.mp h
        have hnew : ∀ m ∈ read.insert key value, m.2.Writable := by
          intro m hm
          rcases Members.mem_insert hm with rfl | hm
          · exact writable_of_readValue fuel hvalue
          · exact hread m hm
        have hkeys' := Members.nodup_insert hkeys key value
        dsimp only at h
        split at h
        · cases h
          exact writable_object hkeys' hnew
        · exact writable_of_readMembers fuel h hkeys' hnew
        · cases h
      · cases h
    · cases h

end

end Parser

/-! ## Whole texts -/

variable {text : String} {v : Json}

/-- The value of a text is writable. -/
theorem writable_of_parse (h : parse text = .ok v) : v.Writable := by
  unfold parse parseChars at h
  split at h
  · cases h
  · unfold parseUnmarked at h
    obtain ⟨⟨value, rest, stop⟩, hread, h⟩ := bind_eq_ok.mp h
    dsimp only at h
    split at h
    · cases h
      exact Parser.writable_of_readValue _ hread
    · cases h

/-- The values that are read back from their compact texts are the writable ones. -/
theorem parse_compact_iff : parse v.compact = .ok v ↔ v.Writable :=
  ⟨writable_of_parse, parse_compact⟩

/-- The same holds of the indented texts. -/
theorem parse_pretty_iff : parse (pretty v) = .ok v ↔ v.Writable :=
  ⟨writable_of_parse, parse_pretty⟩

end Json

end ImageWorkflow
