import ImageWorkflow.Text.Printable

/-!
# Quoted text

`quote s` : `s` between single quotes, or between double quotes when it holds a single quote and no
double quote.  The chosen quote, the backslash, newline, carriage return and tab are escaped by a
backslash; other characters that are not printable are written by their code point in two, four or
eight hexadecimal digits.
-/

namespace ImageWorkflow.Text

/-- `n` in lower-case hexadecimal, filled up with zeros to `width` digits. -/
def hexPadded (width n : Nat) : String :=
  let digits := Nat.toDigits 16 n
  String.ofList (List.replicate (width - digits.length) '0' ++ digits)

/-- The escape of a character that is not printable. -/
def codePointEscape (c : Char) : String :=
  let n := c.toNat
  if n < 0x100 then "\\x" ++ hexPadded 2 n
  else if n < 0x10000 then "\\u" ++ hexPadded 4 n
  else "\\U" ++ hexPadded 8 n

/-- One character of a text in the quotes `mark`. -/
def quotedChar (mark c : Char) : String :=
  if c = mark ∨ c = '\\' then String.ofList ['\\', c]
  else if c = '\n' then "\\n"
  else if c = '\r' then "\\r"
  else if c = '\t' then "\\t"
  else if isPrintable c then c.toString
  else codePointEscape c

/-- The quote that `quote` chooses for a text. -/
def quoteMark (s : String) : Char :=
  if s.toList.contains '\'' && !s.toList.contains '"' then '"' else '\''

/-- `s` as a quoted literal. -/
def quote (s : String) : String :=
  let mark := quoteMark s
  mark.toString ++ String.join (s.toList.map (quotedChar mark)) ++ mark.toString

end ImageWorkflow.Text
