import ImageWorkflow.Number.Decimal
import ImageWorkflow.Text.Blank

/-!
# Numerals written by hand

`Text.readInteger`, `Text.readReal?` : the number that a text writes, as people write it in
settings: with white space around it, a sign of either kind and single underscores between digits.
An integer may start with any number of zeros and end in a decimal point and zeros
(`Text.NumeralFault` says why a text writes none); a real number may have an exponent, and infinity
and not-a-number have names.
-/

namespace ImageWorkflow.Text

/-- The number that ASCII digits write. -/
def digitsNumber (digits : List Char) : Nat :=
  digits.foldl (fun acc c => acc * 10 + (c.toNat - 48)) 0

/-- A sign at the front, and whether it is a minus. -/
def splitSign : List Char → Bool × List Char
  | '-' :: rest => (true, rest)
  | '+' :: rest => (false, rest)
  | cs => (false, cs)

/-- A text without its underscores, when they are single and not at an end. -/
def withoutUnderscores? (cs : List Char) : Option (List Char) := do
  guard (cs.head? ≠ some '_' ∧ cs.getLast? ≠ some '_')
  guard ((cs.zip cs.tail).all fun pair => pair ≠ ('_', '_'))
  return cs.filter (· ≠ '_')

/-! ## Integers -/

/-- Why a text writes no integer. -/
inductive NumeralFault where
  /-- The text is no numeral. -/
  | malformed
  /-- There are more digits than anybody reads. -/
  | tooLong
  deriving DecidableEq, Repr

/-- The most characters of a sign and digits that are read. -/
def maxNumeralLength : Nat := 4300

/-- Whether `c` may stand among the zeros at the start of a numeral. -/
def isLeading (c : Char) : Bool := c == '0' || c == '_'

/-- Whether `c` may start a numeral. -/
def startsNumeral (c : Char) : Bool := c.isDigit || c == '-'

/-- A numeral without the zeros at its start and the underscores among them; one character stays
where a decimal point or nothing follows.  A sign may stand behind the zeros. -/
def withoutLeadingZeros? : List Char → Option (List Char)
  | '0' :: rest =>
    let last := (rest.takeWhile isLeading).getLastD '0'
    match rest.dropWhile isLeading with
    | [] => some [last]
    | '.' :: after => some (last :: '.' :: after)
    | c :: after => if startsNumeral c then some (c :: after) else none
  | c :: rest => if startsNumeral c then some (c :: rest) else none
  | [] => none

/-- A numeral without a decimal point and zeros at its end; a point with no zero behind it stays. -/
def withoutZeroFraction (cs : List Char) : List Char :=
  match cs.reverse.dropWhile (· == '0') with
  | '.' :: whole => if cs.getLast? = some '0' then whole.reverse else cs
  | _ => cs

/-- A numeral without leading zeros, a fraction of zeros and underscores. -/
def plainNumeral? (cs : List Char) : Option (List Char) :=
  (withoutLeadingZeros? cs).map fun cs =>
    let whole := withoutZeroFraction cs
    (withoutUnderscores? whole).getD whole

/-- The number of digits, of which only the number zero starts with a zero; `signs` is the number of
characters before them. -/
def readDigits (signs : Nat) (cs : List Char) : Except NumeralFault Nat :=
  let digits := cs.takeWhile Char.isDigit
  if digits.head? ≠ some '0' ∧ maxNumeralLength < signs + digits.length then .error .tooLong
  else if digits = [] ∨ digits ≠ cs ∨ (digits.head? = some '0' ∧ digits ≠ ['0']) then
    .error .malformed
  else .ok (digitsNumber digits)

/-- The integer that a text writes. -/
def readInteger (s : String) : Except NumeralFault Int :=
  match (stripWhere isSpace s).toList with
  | '+' :: '-' :: _ => .error .malformed
  | cs =>
    let (isNegative, cs) := splitSign cs
    match plainNumeral? cs, isNegative with
    | none, _ => .error .malformed
    | some ('-' :: _), true => .error .malformed
    | some ('-' :: digits), false | some digits, true =>
      (readDigits 1 digits).map fun n => -(n : Int)
    | some digits, false => (readDigits 0 digits).map fun n => (n : Int)

/-! ## Real numbers -/

/-- The exponent at the end of a real number; zero when there is none. -/
def readExponent? : List Char → Option Int
  | [] => some 0
  | e :: rest => do
    guard (e = 'e' ∨ e = 'E')
    let (negative, digits) := splitSign rest
    guard (!digits.isEmpty && digits.all Char.isDigit)
    let n : Int := digitsNumber digits
    return if negative then -n else n

/-- The real number that a text without white space and underscores writes. -/
def readPlainReal? (cs : List Char) : Option Binary64 := do
  let (negative, rest) := splitSign cs
  match String.ofList (rest.map Char.toLower) with
  | "inf" | "infinity" => return .infinity negative
  | "nan" => return .nan
  | _ =>
    let (whole, rest) := rest.span Char.isDigit
    let (fraction, rest) := match rest with
      | '.' :: rest => rest.span Char.isDigit
      | rest => ([], rest)
    guard (!(whole ++ fraction).isEmpty)
    return .ofDecimal negative
      ⟨digitsNumber (whole ++ fraction), (← readExponent? rest) - fraction.length⟩

/-- The real number that a text writes; one with underscores has no white space around it. -/
def readReal? (s : String) : Option Binary64 :=
  (readPlainReal? (stripWhere isSpace s).toList).or
    ((withoutUnderscores? s.toList).bind readPlainReal?)

end ImageWorkflow.Text
