/-!
# Blank characters

`isSpace c` : `c` has the Unicode property `White_Space`.  `isBlank c` : `c` counts as blank, which
the four separators U+001C to U+001F do as well.  `strip` drops blank characters from both ends of a
text; a text is blank when nothing is left (`isBlankText`).
-/

namespace ImageWorkflow.Text

/-- Whether `c` has the property `White_Space`. -/
def isSpace (c : Char) : Bool :=
  let n := c.toNat
  (9 ≤ n && n ≤ 13) || n == 32 || n == 0x85 || n == 0xA0 || n == 0x1680 ||
    (0x2000 ≤ n && n ≤ 0x200A) || n == 0x2028 || n == 0x2029 || n == 0x202F || n == 0x205F ||
    n == 0x3000

/-- Whether `c` counts as blank. -/
def isBlank (c : Char) : Bool := isSpace c || (28 ≤ c.toNat && c.toNat ≤ 31)

/-- The part of `s` between its first and its last character outside the class `drop`. -/
def stripWhere (drop : Char → Bool) (s : String) : String :=
  String.ofList ((s.toList.dropWhile drop).reverse.dropWhile drop).reverse

/-- `s` without blank characters at its ends. -/
def strip (s : String) : String := stripWhere isBlank s

/-- Whether `s` consists of blank characters only. -/
def isBlankText (s : String) : Bool := s.toList.all isBlank

end ImageWorkflow.Text
