import Mathlib
import ImageWorkflow.Proofs.Decoding
import ImageWorkflow.Proofs.JsonLayout
import ImageWorkflow.Proofs.NumberText

/-!
# JSON text and back

* `Json.Parser.reads_string` : a string is read up to its closing quote, whatever its characters;
* `Json.Writable` : a value that has a text: it repeats no key, and its integers are short enough to
  be read;
* `Json.Parser.reads_laidOut` : such a value is read up to its end, in any layout and in front of
  anything that cannot be part of a number;
* `Json.parse_compact`, `Json.parse_pretty` : the value of a text that was written is what was
  written, its members in the order of the text.
-/

namespace ImageWorkflow

theorem Members.insert_of_not_mem {members : Members} {key : String} (h : key ∉ members.map (·.1))
    (value : Json) : members.insert key value = members ++ [(key, value)] := by
  induction members with
  | nil => rfl
  | cons first members ih =>
    obtain ⟨k, v⟩ := first
    rw [List.map_cons, List.mem_cons, not_or] at h
    rw [Members.insert, if_neg (Ne.symm h.1), ih h.2]
    rfl

namespace Json

/-! ## Strings -/

namespace Parser
variable {start fuel position : ℕ} {read rest : List Char} {c : Char}

theorem hexNumber?_hexPadded : ∀ n < 32, hexNumber? (Text.hexPadded 4 n).toList = some n := by
  decide +kernel

theorem length_hexPadded : ∀ n < 32, (Text.hexPadded 4 n).toList.length = 4 := by decide

/-- A control character is read from its code, if the text goes on. -/
theorem readEscape_code (start position : ℕ) (h : c.toNat < 32) (hrest : rest ≠ []) :
    readEscape start position ('u' :: ((Text.hexPadded 4 c.toNat).toList ++ rest)) =
      .ok (c, 5) := by
  have hcode := hexNumber?_hexPadded c.toNat h
  have hlength := length_hexPadded c.toNat h
  obtain ⟨next, rest, rfl⟩ := List.exists_cons_of_ne_nil hrest
  obtain ⟨a, b, c', d, hdigits⟩ : ∃ a b c' d, (Text.hexPadded 4 c.toNat).toList = [a, b, c', d] :=
    List.length_eq_four.mp hlength
  rw [hdigits] at hcode ⊢
  simp only [List.cons_append, List.nil_append, readEscape, hcode]
  rw [if_neg (by omega), if_neg (by omega), Char.ofNat_toNat]

/-- Each character is read from its escape. -/
theorem readString_escapedChar (start fuel position : ℕ) (read : List Char) (c : Char)
    (hrest : rest ≠ []) : ∃ position',
      readString start (fuel + 1) ((escapedChar c).toList ++ rest) position read =
        readString start fuel rest position' (c :: read) := by
  unfold escapedChar
  split
  iterate 7 exact ⟨_, rfl⟩
  rename_i hquote hslash _ _ _ _ _
  split
  · rename_i hcontrol
    have hescape := readEscape_code start position hcontrol hrest
    have hlength := length_hexPadded c.toNat hcontrol
    refine ⟨position + 1 + 5, ?_⟩
    have hdrop : ('u' :: ((Text.hexPadded 4 c.toNat).toList ++ rest)).drop 5 = rest := by
      rw [List.drop_succ_cons]
      exact List.drop_left' hlength
    rw [String.toList_append]
    show readString start (fuel + 1) ('\\' :: 'u' :: ((Text.hexPadded 4 c.toNat).toList ++ rest))
      position read = _
    rw [readString, if_neg (by decide), if_pos rfl, hescape]
    show readString start fuel (('u' :: ((Text.hexPadded 4 c.toNat).toList ++ rest)).drop 5) _ _ = _
    rw [hdrop]
  · rename_i hcontrol
    refine ⟨position + 1, ?_⟩
    rw [Char.toString_eq_singleton, String.toList_singleton, List.singleton_append, readString,
      if_neg hquote, if_neg hslash, if_neg hcontrol]

/-- A string is read up to its closing quote. -/
theorem reads_string (start position : ℕ) (read cs rest : List Char) (hfuel : cs.length < fuel) :
    Reads (readString start fuel (escapedChars cs ++ '"' :: rest) position read)
      (String.ofList (read.reverse ++ cs)) rest := by
  induction cs generalizing fuel position read with
  | nil =>
    obtain ⟨fuel, rfl⟩ : ∃ k, fuel = k + 1 := ⟨fuel - 1, by simp at hfuel; omega⟩
    rw [List.append_nil]
    exact ⟨_, rfl⟩
  | cons c cs ih =>
    obtain ⟨fuel, rfl⟩ : ∃ k, fuel = k + 1 := ⟨fuel - 1, by omega⟩
    have hrest : escapedChars cs ++ '"' :: rest ≠ [] := by simp
    obtain ⟨position', hstep⟩ := readString_escapedChar start fuel position read c hrest
    have hcons : escapedChars (c :: cs) ++ '"' :: rest =
        (escapedChar c).toList ++ (escapedChars cs ++ '"' :: rest) := by
      rw [escapedChars, List.flatMap_cons, List.append_assoc]
      rfl
    rw [hcons, hstep]
    have htail := ih position' (c :: read) (Nat.lt_of_succ_lt_succ hfuel)
    simpa using htail

theorem length_le_escapedChars (cs : List Char) : cs.length ≤ (escapedChars cs).length := by
  induction cs with
  | nil => simp
  | cons c cs ih =>
    have hc : 0 < (escapedChar c).toList.length := by
      unfold escapedChar
      split
      iterate 7 decide
      split
      · rw [String.toList_append, List.length_append]
        exact Nat.add_pos_left (by decide) _
      · rw [Char.toString_eq_singleton, String.toList_singleton]
        exact Nat.one_pos
    rw [escapedChars, List.flatMap_cons, List.length_append, List.length_cons]
    rw [escapedChars] at ih
    omega

/-- A text in quotes is read from its first quote on. -/
theorem reads_quotedChars (start : ℕ) (text : String) (rest : List Char) : ∃ tail,
    quotedChars text ++ rest = '"' :: tail ∧ ∀ position,
      Reads (readString start (tail.length + 1) tail position []) text rest := by
  refine ⟨escapedChars text.toList ++ '"' :: rest, by simp [quotedChars], fun position => ?_⟩
  have hlength := length_le_escapedChars text.toList
  have hfuel : text.toList.length < (escapedChars text.toList ++ '"' :: rest).length + 1 := by
    rw [List.length_append]
    omega
  simpa using reads_string start position [] text.toList rest hfuel

/-! ## White space -/

theorem skipBlanks_append {blanks : List Char} (hb : ∀ c ∈ blanks, isJsonBlank c = true)
    (rest : List Char) (hr : ∀ c ∈ rest.head?, isJsonBlank c = false) (position : ℕ) :
    ∃ position', skipBlanks (blanks ++ rest) position = (rest, position') := by
  induction blanks generalizing position with
  | nil =>
    cases rest with
    | nil => exact ⟨position, rfl⟩
    | cons c rest => exact ⟨position, by simp [skipBlanks, hr c rfl]⟩
  | cons c blanks ih =>
    obtain ⟨hc, hblanks⟩ := List.forall_mem_cons.mp hb
    obtain ⟨position', h⟩ := ih hblanks (position + 1)
    exact ⟨position', by simpa [skipBlanks, hc] using h⟩

/-- A gap, and then a character that is none. -/
theorem ends_gap {l : Layout} {depth : ℕ} (hc : Ends [c]) : Ends (l.gap depth ++ c :: rest) := by
  intro x hx
  cases hgap : l.gap depth with
  | nil =>
    rw [hgap] at hx
    exact hc x hx
  | cons y gap =>
    rw [hgap] at hx
    obtain rfl : y = x := Option.some.inj hx
    have hblank := l.gap_blank depth y (by simp [hgap])
    simp only [isJsonBlank, Bool.or_eq_true, beq_iff_eq] at hblank
    rcases hblank with ((rfl | rfl) | rfl) | rfl <;> decide

end Parser

/-! ## Values that have a text -/

/-- A value that repeats no key and whose integers are short enough to be read. -/
structure Writable (w : Json) : Prop where
  distinct : w.Distinct
  short : ∀ n, Inside (.int n) w → (Nat.toDigits 10 n.natAbs).length ≤ maxIntegerDigits

section
variable {entry value : Json} {items : List Json} {members : Members} {key : String}

theorem Writable.item (h : (Json.array items).Writable) (hi : entry ∈ items) : entry.Writable where
  distinct := distinct_array.mp h.distinct entry hi
  short n hn := h.short n (.item hi hn)

theorem Writable.member (h : (Json.object members).Writable) (hm : (key, value) ∈ members) :
    value.Writable where
  distinct := (distinct_object.mp h.distinct).2 _ hm
  short n hn := h.short n (.member hm hn)

theorem writable_array (h : ∀ item ∈ items, item.Writable) : (Json.array items).Writable where
  distinct := distinct_array.mpr fun item hi => (h item hi).distinct
  short n hn := by
    cases hn with
    | item hi hn => exact (h _ hi).short n hn

theorem writable_object (hkeys : (members.map (·.1)).Nodup) (h : ∀ m ∈ members, m.2.Writable) :
    (Json.object members).Writable where
  distinct := distinct_object.mpr ⟨hkeys, fun m hm => (h m hm).distinct⟩
  short n hn := by
    cases hn with
    | member hm hn => exact (h _ hm).short n hn

theorem writable_int {n : ℤ} (h : (Nat.toDigits 10 n.natAbs).length ≤ maxIntegerDigits) :
    (Json.int n).Writable where
  distinct := distinct_int n
  short m hm := by
    cases hm
    exact h

theorem writable_null : Json.null.Writable := ⟨trivial, by rintro _ ⟨⟩⟩

theorem writable_bool (b : Bool) : (Json.bool b).Writable := ⟨distinct_bool b, by rintro _ ⟨⟩⟩

theorem writable_float (x : Binary64) : (Json.float x).Writable :=
  ⟨distinct_float x, by rintro _ ⟨⟩⟩

theorem writable_str (s : String) : (Json.str s).Writable := ⟨distinct_str s, by rintro _ ⟨⟩⟩

end

namespace Parser
variable {l : Layout} {depth fuel position : ℕ} {rest : List Char} {c : Char} {v : Json}

open Binary64 (signChars)

/-! ## Numbers and words -/

theorem digit_cases (h : c.isDigit = true) : c = '0' ∨ c = '1' ∨ c = '2' ∨ c = '3' ∨ c = '4' ∨
    c = '5' ∨ c = '6' ∨ c = '7' ∨ c = '8' ∨ c = '9' := by
  obtain ⟨hlow, hhigh⟩ := Char.isDigit_iff_toNat.mp h
  have hlow' : 48 ≤ c.toNat := hlow
  have hhigh' : c.toNat ≤ 57 := hhigh
  have hc := Char.ofNat_toNat c
  generalize c.toNat = n at hc hlow' hhigh'
  subst hc
  interval_cases n <;> simp

/-- A digit, perhaps behind a minus sign, starts a number. -/
theorem readValue_number (fuel position : ℕ) (negative : Bool) (hc : c.isDigit = true)
    (cs : List Char) : ∃ position', readValue (fuel + 1) (signChars negative ++ c :: cs) position =
      readNumber negative position (c :: cs) position' := by
  rcases digit_cases hc with rfl | rfl | rfl | rfl | rfl | rfl | rfl | rfl | rfl | rfl <;>
    cases negative <;> exact ⟨_, rfl⟩

theorem toList_int (n : ℤ) :
    (toString n).toList = signChars (decide (n < 0)) ++ Nat.toDigits 10 n.natAbs := by
  rw [Int.toString_eq_repr, Int.repr_eq_if]
  split
  · rename_i h
    have hsign : ¬ n < 0 := not_lt.mpr h
    simp only [signChars, hsign, decide_false]
    rw [Nat.toList_repr, ← Int.toNat_of_nonneg h]
    rfl
  · rename_i h
    have hsign : n < 0 := not_le.mp h
    have habs : (-n).toNat = n.natAbs := by omega
    simp only [signChars, hsign, decide_true]
    rw [String.toList_append, Nat.toList_repr, habs]
    rfl

theorem exists_toDigits (n : ℕ) : ∃ c cs, Nat.toDigits 10 n = c :: cs ∧ c.isDigit = true := by
  obtain ⟨c, cs, h⟩ := List.exists_cons_of_ne_nil (Nat.toDigits_ne_nil (n := n) (b := 10))
  exact ⟨c, cs, h, isDigit_of_mem_toDigits (by rw [h]; exact List.mem_cons_self)⟩

theorem reads_int {n : ℤ} (hshort : (Nat.toDigits 10 n.natAbs).length ≤ maxIntegerDigits)
    (hr : Ends rest) :
    Reads (readValue (fuel + 1) ((toString n).toList ++ rest) position) (.int n) rest := by
  obtain ⟨c, cs, hdigits, hc⟩ := exists_toDigits n.natAbs
  obtain ⟨position', hvalue⟩ := readValue_number fuel position (decide (n < 0)) hc
    (cs ++ rest)
  have hzero : (Nat.toDigits 10 n.natAbs).head? = some '0' → Nat.toDigits 10 n.natAbs = ['0'] := by
    intro h
    by_cases hn : n.natAbs = 0
    · rw [hn]
      rfl
    · exact absurd h (head_toDigits_ne_zero hn)
  have hread := readNumber_whole (decide (n < 0)) position position'
    (fun _ => isDigit_of_mem_toDigits) Nat.toDigits_ne_nil hzero hshort hr
  have hnumber : (if decide (n < 0) = true then -((n.natAbs : ℕ) : ℤ) else n.natAbs) = n := by
    simp only [decide_eq_true_eq]
    split <;> omega
  rw [digitsValue_toDigits, hnumber, hdigits] at hread
  rw [toList_int, hdigits, List.append_assoc, List.cons_append, hvalue]
  exact hread

theorem reads_float (x : Binary64) (hr : Ends rest) :
    Reads (readValue (fuel + 1) ((floatText x).toList ++ rest) position) (.float x) rest := by
  cases x with
  | nan => exact ⟨_, rfl⟩
  | infinity negative => cases negative <;> exact ⟨_, rfl⟩
  | finite negative exponent fraction =>
    obtain ⟨n, hn, hreal, htext, hvalue⟩ := Binary64.exists_numeral negative exponent fraction
    obtain ⟨c, cs, hwhole⟩ := List.exists_cons_of_ne_nil hn.whole_ne_nil
    have hchars : n.chars ++ rest = c :: (cs ++
        (Numeral.fractionChars n.fraction ++ Numeral.exponentChars n.exponent) ++ rest) := by
      rw [Numeral.chars, hwhole, List.cons_append, List.cons_append]
    obtain ⟨position', hstart⟩ := readValue_number fuel position negative
      (hn.whole c (by rw [hwhole]; exact List.mem_cons_self))
      (cs ++ (Numeral.fractionChars n.fraction ++ Numeral.exponentChars n.exponent) ++ rest)
    have hread := readNumber_real negative position position' hn hreal hr
    rw [hvalue, hchars] at hread
    rw [floatText, htext, List.append_assoc, hchars, hstart]
    · exact hread
    · intro h
      cases h
    · intro _ h
      cases h

/-! ## Items and members -/

/-- A text starts with a character that is no white space, no closing bracket and no mark. -/
def Opens (cs : List Char) : Prop :=
  ∃ c rest, cs = c :: rest ∧ isJsonBlank c = false ∧ c ≠ ']' ∧ c ≠ '}' ∧ c ≠ '\ufeff'

theorem Opens.append {cs : List Char} (h : Opens cs) (rest : List Char) : Opens (cs ++ rest) := by
  obtain ⟨c, tail, rfl, hc⟩ := h
  exact ⟨c, tail ++ rest, rfl, hc⟩

theorem Opens.skipBlanks {cs blanks : List Char} (h : Opens cs)
    (hb : ∀ c ∈ blanks, isJsonBlank c = true) (position : ℕ) :
    ∃ position', skipBlanks (blanks ++ cs) position = (cs, position') := by
  obtain ⟨c, tail, rfl, hc, -⟩ := h
  refine skipBlanks_append hb _ ?_ position
  rintro _ ⟨⟩
  exact hc

theorem opens_digit (hc : c.isDigit = true) (negative : Bool) (cs : List Char) :
    Opens (signChars negative ++ c :: cs) := by
  cases negative with
  | true => exact ⟨'-', c :: cs, rfl, by decide, by decide, by decide⟩
  | false =>
    refine ⟨c, cs, rfl, ?_⟩
    rcases digit_cases hc with rfl | rfl | rfl | rfl | rfl | rfl | rfl | rfl | rfl | rfl <;> decide

theorem opens_quotedChars (text : String) : Opens (quotedChars text) :=
  ⟨'"', _, rfl, by decide, by decide, by decide⟩

theorem opens_laidOut (l : Layout) (depth : ℕ) (v : Json) : Opens (laidOut l depth v) := by
  cases v with
  | null => exact ⟨'n', _, rfl, by decide, by decide, by decide⟩
  | bool b => cases b with
    | true => exact ⟨'t', _, rfl, by decide, by decide, by decide⟩
    | false => exact ⟨'f', _, rfl, by decide, by decide, by decide⟩
  | int n =>
    obtain ⟨c, cs, hdigits, hc⟩ := exists_toDigits n.natAbs
    rw [laidOut, toList_int, hdigits]
    exact opens_digit hc _ cs
  | float x =>
    cases x with
    | nan => exact ⟨'N', _, rfl, by decide, by decide, by decide⟩
    | infinity negative => cases negative with
      | true => exact ⟨'-', _, rfl, by decide, by decide, by decide⟩
      | false => exact ⟨'I', _, rfl, by decide, by decide, by decide⟩
    | finite negative exponent fraction =>
      obtain ⟨n, hn, -, htext, -⟩ := Binary64.exists_numeral negative exponent fraction
      obtain ⟨c, cs, hwhole⟩ := List.exists_cons_of_ne_nil hn.whole_ne_nil
      have hc := hn.whole c (by rw [hwhole]; exact List.mem_cons_self)
      show Opens (Binary64.text (.finite negative exponent fraction)).toList
      rw [htext, Numeral.chars, hwhole]
      exact opens_digit hc negative _
  | str s => exact opens_quotedChars s
  | array items => cases items with
    | nil => exact ⟨'[', _, rfl, by decide, by decide, by decide⟩
    | cons => exact ⟨'[', _, rfl, by decide, by decide, by decide⟩
  | object members => cases members with
    | nil => exact ⟨'{', _, rfl, by decide, by decide, by decide⟩
    | cons => exact ⟨'{', _, rfl, by decide, by decide, by decide⟩

section
variable {cs : List Char} {next : List Char} {item value : Json} {before : List Json}
  {key : String} {read : Members}

/-- An array is read from its first item on. -/
theorem reads_array (ho : Opens cs) (h : ∀ position, Reads (readItems fuel cs position []) v rest) :
    Reads (readValue (fuel + 1) ('[' :: (l.gap depth ++ cs)) position) v rest := by
  obtain ⟨position', hskip⟩ := ho.skipBlanks (l.gap_blank depth) (position + 1)
  obtain ⟨c, tail, rfl, -, hc, -⟩ := ho
  rw [readValue, hskip]
  simpa [hc] using h position'

/-- The last item is followed by a closing bracket. -/
theorem reads_lastItem (l : Layout) (depth : ℕ)
    (h : Reads (readValue fuel cs position) item (l.gap depth ++ ']' :: rest)) :
    Reads (readItems (fuel + 1) cs position before) (.array (before.reverse ++ [item]))
      rest := by
  obtain ⟨position', h⟩ := h
  obtain ⟨position'', hskip⟩ := skipBlanks_append (l.gap_blank depth) (']' :: rest)
    (by rintro _ ⟨⟩; decide) position'
  rw [readItems, h]
  exact ⟨position'' + 1, by simp [hskip, bind, Except.bind]⟩

/-- Any other item is followed by a comma. -/
theorem reads_nextItem (ho : Opens next)
    (h : Reads (readValue fuel cs position) item (',' :: (l.gap depth ++ next)))
    (hnext : ∀ position, Reads (readItems fuel next position (item :: before)) v rest) :
    Reads (readItems (fuel + 1) cs position before) v rest := by
  obtain ⟨position', h⟩ := h
  obtain ⟨position'', hskip⟩ := ho.skipBlanks (l.gap_blank depth) (position' + 1)
  have hcomma : skipBlanks (',' :: (l.gap depth ++ next)) position' =
      (',' :: (l.gap depth ++ next), position') := rfl
  rw [readItems, h]
  simpa [hcomma, hskip, bind, Except.bind] using hnext position''

/-- An object is read from its first member on. -/
theorem reads_object (ho : Opens cs)
    (h : ∀ position, Reads (readMembers fuel cs position []) v rest) :
    Reads (readValue (fuel + 1) ('{' :: (l.gap depth ++ cs)) position) v rest := by
  obtain ⟨position', hskip⟩ := ho.skipBlanks (l.gap_blank depth) (position + 1)
  obtain ⟨c, tail, rfl, -, -, hc, -⟩ := ho
  rw [readValue, hskip]
  simpa [hc] using h position'

/-- The key, the colon and the value of a member. -/
theorem readMembers_value (l : Layout) (key : String) (position : ℕ) {after : List Char}
    (ho : Opens cs) (h : ∀ position, Reads (readValue fuel cs position) value after) :
    ∃ tail keyPosition colon start stop,
      quotedChars key ++ ':' :: (l.afterColon ++ cs) = '"' :: tail ∧
      readString position (tail.length + 1) tail (position + 1) [] =
        .ok (key, ':' :: (l.afterColon ++ cs), keyPosition) ∧
      skipBlanks (':' :: (l.afterColon ++ cs)) keyPosition =
        (':' :: (l.afterColon ++ cs), colon) ∧
      skipBlanks (l.afterColon ++ cs) (colon + 1) = (cs, start) ∧
      readValue fuel cs start = .ok (value, after, stop) := by
  obtain ⟨tail, htail, hkey⟩ := reads_quotedChars position key
    (':' :: (l.afterColon ++ cs))
  obtain ⟨keyPosition, hkey⟩ := hkey (position + 1)
  obtain ⟨start, hskip⟩ := ho.skipBlanks l.afterColon_blank (keyPosition + 1)
  obtain ⟨stop, hvalue⟩ := h start
  exact ⟨tail, keyPosition, keyPosition, start, stop, htail, hkey, rfl, hskip, hvalue⟩

/-- The last member is followed by a closing brace. -/
theorem reads_lastMember (depth : ℕ) (ho : Opens cs)
    (h : ∀ position, Reads (readValue fuel cs position) value (l.gap depth ++ '}' :: rest)) :
    Reads (readMembers (fuel + 1) (quotedChars key ++ ':' :: (l.afterColon ++ cs)) position read)
      (.object (read.insert key value)) rest := by
  obtain ⟨tail, keyPosition, colon, start, stop, htail, hkey, hcolon, hstart, hvalue⟩ :=
    readMembers_value l key position ho h
  obtain ⟨close, hclose⟩ := skipBlanks_append (l.gap_blank depth) ('}' :: rest)
    (by rintro _ ⟨⟩; decide) stop
  rw [htail, readMembers, hkey]
  exact ⟨close + 1, by simp [hcolon, hstart, hvalue, hclose, bind, Except.bind]⟩

/-- Any other member is followed by a comma. -/
theorem reads_nextMember (ho : Opens cs) (hnext : Opens next)
    (h : ∀ position, Reads (readValue fuel cs position) value (',' :: (l.gap depth ++ next)))
    (hrest : ∀ position, Reads (readMembers fuel next position (read.insert key value)) v rest) :
    Reads (readMembers (fuel + 1) (quotedChars key ++ ':' :: (l.afterColon ++ cs)) position read)
      v rest := by
  obtain ⟨tail, keyPosition, colon, start, stop, htail, hkey, hcolon, hstart, hvalue⟩ :=
    readMembers_value l key position ho h
  obtain ⟨position', hskip⟩ := hnext.skipBlanks (l.gap_blank depth) (stop + 1)
  have hcomma : skipBlanks (',' :: (l.gap depth ++ next)) stop =
      (',' :: (l.gap depth ++ next), stop) := rfl
  rw [htail, readMembers, hkey]
  simpa [hcolon, hstart, hvalue, hcomma, hskip, bind, Except.bind] using hrest position'

end

/-! ## Values -/

theorem opens_laidOutItems (l : Layout) (depth : ℕ) (item : Json) (items : List Json) :
    Opens (laidOutItems l depth (item :: items)) := by
  cases items with
  | nil => exact opens_laidOut l depth item
  | cons next items =>
    rw [laidOutItems_cons]
    exact (opens_laidOut l depth item).append _

theorem opens_laidOutMembers (l : Layout) (depth : ℕ) (member : String × Json)
    (members : Members) : Opens (laidOutMembers l depth (member :: members)) := by
  obtain ⟨key, value⟩ := member
  cases members with
  | nil => exact (opens_quotedChars key).append _
  | cons next members =>
    rw [laidOutMembers_cons]
    exact (opens_quotedChars key).append _

theorem ends_bracket : Ends [']'] := by rintro _ ⟨⟩; decide

theorem ends_brace : Ends ['}'] := by rintro _ ⟨⟩; decide

theorem ends_comma (rest : List Char) : Ends (',' :: rest) := by rintro _ ⟨⟩; decide

mutual

/-- A value is read up to its end.  Each step of the reader takes a character at least, and a step
into a value takes two units of fuel at most. -/
theorem reads_laidOut (l : Layout) (v : Json) (hv : v.Writable) (depth fuel position : ℕ)
    {rest : List Char} (hr : Ends rest)
    (hfuel : 2 * (laidOut l depth v ++ rest).length ≤ fuel) :
    Reads (readValue fuel (laidOut l depth v ++ rest) position) v rest := by
  obtain ⟨fuel, rfl⟩ : ∃ k, fuel = k + 1 := by
    obtain ⟨c, cs, h, -⟩ := opens_laidOut l depth v
    rw [h] at hfuel
    exact ⟨fuel - 1, by simp at hfuel; omega⟩
  cases v with
  | null => exact ⟨_, rfl⟩
  | bool b => cases b <;> exact ⟨_, rfl⟩
  | int n => exact reads_int (hv.short n .refl) hr
  | float x => exact reads_float x hr
  | str s =>
    obtain ⟨tail, htail, hread⟩ := reads_quotedChars position s rest
    obtain ⟨position', hread⟩ := hread (position + 1)
    rw [laidOut, htail, readValue, hread]
    exact ⟨position', rfl⟩
  | array items =>
    cases items with
    | nil => exact ⟨_, rfl⟩
    | cons item items =>
      have hitems : ∀ entry ∈ item :: items, entry.Writable := fun _ h => hv.item h
      simp only [laidOut, List.cons_append, List.append_assoc, List.nil_append] at hfuel ⊢
      refine reads_array ((opens_laidOutItems l (depth + 1) item items).append _) fun p => ?_
      refine reads_laidOutItems l (item :: items) (by simp) hitems (depth + 1) depth fuel p [] _
        ?_
      simp only [List.length_cons, List.length_append] at hfuel ⊢
      omega
  | object members =>
    cases members with
    | nil => exact ⟨_, rfl⟩
    | cons member members =>
      have hmembers : ∀ m ∈ member :: members, m.2.Writable := fun _ h => hv.member h
      have hkeys := (distinct_object.mp hv.distinct).1
      simp only [laidOut, List.cons_append, List.append_assoc, List.nil_append] at hfuel ⊢
      refine reads_object ((opens_laidOutMembers l (depth + 1) member members).append _) fun p => ?_
      refine reads_laidOutMembers l (member :: members) (by simp) hmembers (depth + 1) depth fuel p
        [] hkeys _ ?_
      simp only [List.length_cons, List.length_append] at hfuel ⊢
      omega

theorem reads_laidOutItems (l : Layout) (items : List Json) (hne : items ≠ [])
    (hv : ∀ item ∈ items, item.Writable) (depth close fuel position : ℕ) (before : List Json)
    (rest : List Char) (hfuel :
      2 * (laidOutItems l depth items ++ (l.gap close ++ ']' :: rest)).length + 1 ≤ fuel) :
    Reads (readItems fuel (laidOutItems l depth items ++ (l.gap close ++ ']' :: rest)) position
      before) (.array (before.reverse ++ items)) rest := by
  obtain ⟨fuel, rfl⟩ : ∃ k, fuel = k + 1 := ⟨fuel - 1, by omega⟩
  cases items with
  | nil => exact absurd rfl hne
  | cons item items =>
    obtain ⟨hitem, hitems⟩ := List.forall_mem_cons.mp hv
    cases items with
    | nil =>
      refine reads_lastItem l close ?_
      exact reads_laidOut l item hitem depth fuel position (ends_gap ends_bracket) (by
        simp only [laidOutItems] at hfuel ⊢
        omega)
    | cons next items =>
      rw [laidOutItems_cons, List.append_assoc, List.cons_append, List.append_assoc] at hfuel ⊢
      refine reads_nextItem ((opens_laidOutItems l depth next items).append _)
        (reads_laidOut l item hitem depth fuel position (ends_comma _) (by omega)) fun p => ?_
      have hrest := reads_laidOutItems l (next :: items) (by simp) hitems depth close fuel p
        (item :: before) rest (by
          simp only [List.length_cons, List.length_append] at hfuel ⊢
          omega)
      simpa using hrest

theorem reads_laidOutMembers (l : Layout) (members : Members) (hne : members ≠ [])
    (hv : ∀ m ∈ members, m.2.Writable) (depth close fuel position : ℕ) (before : Members)
    (hkeys : ((before ++ members).map (·.1)).Nodup) (rest : List Char) (hfuel :
      2 * (laidOutMembers l depth members ++ (l.gap close ++ '}' :: rest)).length + 1 ≤ fuel) :
    Reads (readMembers fuel (laidOutMembers l depth members ++ (l.gap close ++ '}' :: rest))
      position before) (.object (before ++ members)) rest := by
  obtain ⟨fuel, rfl⟩ : ∃ k, fuel = k + 1 := ⟨fuel - 1, by omega⟩
  cases members with
  | nil => exact absurd rfl hne
  | cons member members =>
    obtain ⟨key, value⟩ := member
    obtain ⟨hvalue, hmembers⟩ := List.forall_mem_cons.mp hv
    have hnew : key ∉ before.map (·.1) := by
      intro hmem
      rw [List.map_append, List.nodup_append] at hkeys
      exact hkeys.2.2 key hmem key (by simp) rfl
    have hinsert := Members.insert_of_not_mem hnew value
    cases members with
    | nil =>
      simp only [laidOutMembers, List.append_assoc, List.cons_append] at hfuel ⊢
      rw [← hinsert]
      refine reads_lastMember close ((opens_laidOut l depth value).append _) fun p => ?_
      exact reads_laidOut l value hvalue depth fuel p (ends_gap ends_brace) (by
        simp only [List.length_cons, List.length_append] at hfuel ⊢
        omega)
    | cons next members =>
      simp only [laidOutMembers_cons, List.append_assoc, List.cons_append] at hfuel ⊢
      have hread := fun p => reads_laidOut l value hvalue depth fuel p
        (ends_comma (l.gap depth ++ (laidOutMembers l depth (next :: members) ++
          (l.gap close ++ '}' :: rest)))) (by
        simp only [List.length_cons, List.length_append] at hfuel ⊢
        omega)
      refine reads_nextMember ((opens_laidOut l depth value).append _)
        ((opens_laidOutMembers l depth next members).append _) hread fun p => ?_
      have hrest := reads_laidOutMembers l (next :: members) (by simp) hmembers depth close fuel p
        (before ++ [(key, value)]) (by simpa using hkeys) rest (by
          simp only [List.length_cons, List.length_append] at hfuel ⊢
          omega)
      rw [hinsert]
      simpa using hrest

end

end Parser

/-! ## Whole texts -/

/-- A text that was written is read as what was written. -/
theorem parseChars_laidOut (l : Layout) {v : Json} (hv : v.Writable) (depth : ℕ) :
    parseChars (laidOut l depth v) = .ok v := by
  have hopens := Parser.opens_laidOut l depth v
  obtain ⟨start, hskip⟩ := hopens.skipBlanks (by simp : ∀ c ∈ [], Parser.isJsonBlank c = true) 0
  have hfuel : 2 * (laidOut l depth v ++ []).length ≤ 2 * (laidOut l depth v).length + 2 := by
    rw [List.append_nil]
    omega
  obtain ⟨stop, hread⟩ := Parser.reads_laidOut l v hv depth _ start (by rintro _ ⟨⟩) hfuel
  rw [List.append_nil] at hread
  rw [List.nil_append] at hskip
  obtain ⟨c, cs, hchars, -, -, -, hmark⟩ := hopens
  have hunmarked : parseChars (laidOut l depth v) = parseUnmarked (laidOut l depth v) := by
    rw [hchars]
    unfold parseChars
    split
    · rename_i heq
      cases heq
      exact absurd rfl hmark
    · rfl
  rw [hunmarked, parseUnmarked, hskip]
  simp only [hread, bind, Except.bind]
  rfl

/-- The compact text of a value has the value. -/
theorem parse_compact {v : Json} (hv : v.Writable) : parse v.compact = .ok v := by
  rw [parse, toList_compact v 0, parseChars_laidOut .none hv]

/-- So has the indented text, with its members in the order of the text. -/
theorem parse_pretty {v : Json} (hv : v.Writable) : parse (pretty v) = .ok v := by
  rw [parse, pretty, toList_prettyAt, parseChars_laidOut .indented hv]

end Json

end ImageWorkflow
