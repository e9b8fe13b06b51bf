import Mathlib
import ImageWorkflow.Json.Parser
import ImageWorkflow.Json.Printer

/-!
# Layouts of JSON text

* `Json.quotedChars` : a text in quotes, its characters escaped (`Json.toList_stringText`);
* `Json.Layout` : where the white space of a text stands; `Json.laidOut` : the text of a value in a
  layout;
* `Json.toList_compact`, `Json.toList_prettyAt` : the compact and the indented text are texts in two
  layouts.
-/

namespace ImageWorkflow

namespace Json

/-! ## Strings -/

/-- The characters of a text, escaped. -/
def escapedChars (cs : List Char) : List Char := cs.flatMap fun c => (escapedChar c).toList

/-- A text in quotes. -/
def quotedChars (text : String) : List Char := '"' :: (escapedChars text.toList ++ ['"'])

theorem toList_stringText (text : String) : (stringText text).toList = quotedChars text := by
  have hfold : ∀ (cs : List Char) (acc : String),
      (cs.foldl (fun acc c => acc ++ escapedChar c) acc).toList =
        acc.toList ++ escapedChars cs := by
    intro cs
    induction cs with
    | nil => simp [escapedChars]
    | cons c cs ih =>
      intro acc
      rw [List.foldl_cons, ih, String.toList_append, List.append_assoc]
      rfl
  simp [stringText, quotedChars, String.foldl_eq_foldl_toList, hfold]

/-! ## Layouts -/

/-- Where the white space of a text stands: in front of each item and of a closing bracket, by
level, and behind each colon. -/
structure Layout where
  gap : ℕ → List Char
  afterColon : List Char
  gap_blank : ∀ depth, ∀ c ∈ gap depth, Parser.isJsonBlank c = true
  afterColon_blank : ∀ c ∈ afterColon, Parser.isJsonBlank c = true

/-- No white space. -/
def Layout.none : Layout where
  gap _ := []
  afterColon := []
  gap_blank := by simp
  afterColon_blank := by simp

/-- Each item on a line of its own, indented by its level. -/
def Layout.indented : Layout where
  gap depth := '\n' :: List.replicate (2 * depth) ' '
  afterColon := [' ']
  gap_blank depth c hc := by
    rcases List.mem_cons.mp hc with rfl | hc
    · decide
    · rw [List.eq_of_mem_replicate hc]
      decide
  afterColon_blank c hc := by
    rw [List.mem_singleton.mp hc]
    decide

@[simp] theorem Layout.gap_none (depth : ℕ) : none.gap depth = [] := rfl

@[simp] theorem Layout.afterColon_none : none.afterColon = [] := rfl

@[simp] theorem Layout.afterColon_indented : indented.afterColon = [' '] := rfl

@[simp] theorem toList_lineStart (depth : ℕ) :
    (lineStart depth).toList = Layout.indented.gap depth := by
  simp [lineStart, Layout.indented]

mutual

/-- The text of a value that stands at level `depth`. -/
def laidOut (l : Layout) (depth : ℕ) : Json → List Char
  | .array [] => ['[', ']']
  | .array items =>
    '[' :: (l.gap (depth + 1) ++ laidOutItems l (depth + 1) items ++ (l.gap depth ++ [']']))
  | .object [] => ['{', '}']
  | .object members =>
    '{' :: (l.gap (depth + 1) ++ laidOutMembers l (depth + 1) members ++ (l.gap depth ++ ['}']))
  | .null => "null".toList
  | .bool b => (if b then "true" else "false").toList
  | .int n => (toString n).toList
  | .float x => (floatText x).toList
  | .str s => quotedChars s

/-- The texts of the items at level `depth`. -/
def laidOutItems (l : Layout) (depth : ℕ) : List Json → List Char
  | [] => []
  | [item] => laidOut l depth item
  | item :: rest => laidOut l depth item ++ ',' :: (l.gap depth ++ laidOutItems l depth rest)

/-- The texts of the members at level `depth`. -/
def laidOutMembers (l : Layout) (depth : ℕ) : List (String × Json) → List Char
  | [] => []
  | [(key, value)] => quotedChars key ++ ':' :: (l.afterColon ++ laidOut l depth value)
  | (key, value) :: rest =>
    quotedChars key ++ ':' :: (l.afterColon ++ (laidOut l depth value ++
      ',' :: (l.gap depth ++ laidOutMembers l depth rest)))

end

section
variable {l : Layout} {depth : ℕ}

theorem laidOutItems_cons (item next : Json) (items : List Json) :
    laidOutItems l depth (item :: next :: items) =
      laidOut l depth item ++ ',' :: (l.gap depth ++ laidOutItems l depth (next :: items)) := by
  rw [laidOutItems]
  simp

theorem laidOutMembers_cons (key : String) (value : Json) (next : String × Json)
    (members : Members) : laidOutMembers l depth ((key, value) :: next :: members) =
      quotedChars key ++ ':' :: (l.afterColon ++ (laidOut l depth value ++
        ',' :: (l.gap depth ++ laidOutMembers l depth (next :: members)))) := by
  rw [laidOutMembers]
  simp

end

theorem toList_intercalate_cons {texts : List String} (separator first : String)
    (h : texts ≠ []) : (separator.intercalate (first :: texts)).toList =
      first.toList ++ (separator.toList ++ (separator.intercalate texts).toList) := by
  rw [String.toList_intercalate, String.toList_intercalate, List.map_cons,
    List.intercalate_cons_of_ne_nil (by simpa using h), List.append_assoc]

/-! ## The compact text -/

mutual

theorem toList_compact (v : Json) (depth : ℕ) : v.compact.toList = laidOut .none depth v := by
  cases v with
  | array items =>
    cases items with
    | nil => rfl
    | cons item items =>
      have hitems := toList_compactItems (item :: items) (depth + 1)
      simp only [compact, String.toList_append, hitems, laidOut, Layout.gap_none]
      rfl
  | object members =>
    cases members with
    | nil => rfl
    | cons member members =>
      have hmembers := toList_compactMembers (member :: members) (depth + 1)
      simp only [compact, String.toList_append, hmembers, laidOut, Layout.gap_none]
      rfl
  | str s => rw [compact, laidOut, toList_stringText]
  | _ => rfl

theorem toList_compactItems (items : List Json) (depth : ℕ) :
    (",".intercalate (compactItems items)).toList = laidOutItems .none depth items := by
  cases items with
  | nil => rfl
  | cons item items =>
    have hitem := toList_compact item depth
    cases items with
    | nil => simpa [compactItems, laidOutItems] using hitem
    | cons next items =>
      have hrest := toList_compactItems (next :: items) depth
      rw [compactItems, toList_intercalate_cons _ _ (by simp [compactItems]), hitem, hrest,
        laidOutItems_cons]
      rfl

theorem toList_compactMembers (members : Members) (depth : ℕ) :
    (",".intercalate (compactMembers members)).toList = laidOutMembers .none depth members := by
  cases members with
  | nil => rfl
  | cons member members =>
    obtain ⟨key, value⟩ := member
    have hvalue := toList_compact value depth
    cases members with
    | nil => simp [compactMembers, laidOutMembers, hvalue, toList_stringText]
    | cons next members =>
      have hrest := toList_compactMembers (next :: members) depth
      rw [compactMembers, toList_intercalate_cons _ _ (by simp [compactMembers]), hrest,
        laidOutMembers_cons]
      simp [hvalue, toList_stringText]

end

/-! ## The indented text -/

mutual

theorem toList_prettyAt (v : Json) (depth : ℕ) :
    (prettyAt depth v).toList = laidOut .indented depth v := by
  cases v with
  | array items =>
    cases items with
    | nil => simp [prettyAt, laidOut]
    | cons item items =>
      have hitems := toList_prettyItems (item :: items) (depth + 1)
      simp only [prettyAt, String.toList_append, hitems, laidOut, toList_lineStart]
      simp
  | object members =>
    cases members with
    | nil => simp [prettyAt, laidOut]
    | cons member members =>
      have hmembers := toList_prettyMembers (member :: members) (depth + 1)
      simp only [prettyAt, String.toList_append, hmembers, laidOut, toList_lineStart]
      simp
  | str s => rw [prettyAt, laidOut, toList_stringText]
  | _ => rfl

theorem toList_prettyItems (items : List Json) (depth : ℕ) :
    (("," ++ lineStart depth).intercalate (prettyItems depth items)).toList =
      laidOutItems .indented depth items := by
  cases items with
  | nil => rfl
  | cons item items =>
    have hitem := toList_prettyAt item depth
    cases items with
    | nil => simpa [prettyItems, laidOutItems] using hitem
    | cons next items =>
      have hrest := toList_prettyItems (next :: items) depth
      rw [prettyItems, toList_intercalate_cons _ _ (by simp [prettyItems]), hitem, hrest,
        laidOutItems_cons, String.toList_append, toList_lineStart]
      rfl

theorem toList_prettyMembers (members : Members) (depth : ℕ) :
    (("," ++ lineStart depth).intercalate (prettyMembers depth members)).toList =
      laidOutMembers .indented depth members := by
  cases members with
  | nil => rfl
  | cons member members =>
    obtain ⟨key, value⟩ := member
    have hvalue := toList_prettyAt value depth
    cases members with
    | nil => simp [prettyMembers, laidOutMembers, hvalue, toList_stringText]
    | cons next members =>
      have hrest := toList_prettyMembers (next :: members) depth
      rw [prettyMembers, toList_intercalate_cons _ _ (by simp [prettyMembers]), hrest,
        laidOutMembers_cons]
      simp [hvalue, toList_stringText]

end

end Json

end ImageWorkflow
