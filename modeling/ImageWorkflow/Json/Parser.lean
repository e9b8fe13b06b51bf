import ImageWorkflow.Json.Basic
import ImageWorkflow.Number.Decimal

/-!
# Reading JSON text

`Json.parse` : the value of a text, or the fault and the place where reading stops.  Besides the
standard grammar it accepts `NaN`, `Infinity` and `-Infinity`; a number with a point or an exponent
is a binary floating-point number, any other an integer; of members with one key the last value
counts, at the place of the first.
-/

namespace ImageWorkflow

/-- What is wrong with a text that is not JSON. -/
inductive JsonFault where
  | expectedValue
  | expectedKey
  | expectedColon
  | expectedComma
  | unterminatedString
  | controlCharacter
  | badEscape
  | badUnicodeEscape
  | extraData
  | byteOrderMark
  deriving DecidableEq, Repr

/-- The wording of a fault. -/
def JsonFault.message : JsonFault → String
  | .expectedValue => "Expecting value"
  | .expectedKey => "Expecting property name enclosed in double quotes"
  | .expectedColon => "Expecting ':' delimiter"
  | .expectedComma => "Expecting ',' delimiter"
  | .unterminatedString => "Unterminated string starting at"
  | .controlCharacter => "Invalid control character at"
  | .badEscape => "Invalid \\escape"
  | .badUnicodeEscape => "Invalid \\uXXXX escape"
  | .extraData => "Extra data"
  | .byteOrderMark => "Unexpected UTF-8 BOM (decode using utf-8-sig)"

/-- Why a text has no JSON value. -/
inductive JsonError where
  /-- The grammar is left at a place, counted in characters from zero. -/
  | malformed (fault : JsonFault) (position : Nat)
  /-- An integer has more digits than are read. -/
  | tooManyDigits (count : Nat)
  deriving DecidableEq, Repr

/-- The most digits an integer may have. -/
def maxIntegerDigits : Nat := 4300

/-- The complaint about an integer with too many digits. -/
def tooManyDigitsMessage (count : Nat) : String :=
  s!"Exceeds the limit (4300 digits) for integer string conversion: value has {count} digits; " ++
    "use sys.set_int_max_str_digits() to increase the limit"

/-- The wording of an error in `text`: lines and columns count from one, and only a line feed ends a
line. -/
def JsonError.message (text : String) : JsonError → String
  | .malformed fault position =>
    let before := text.toList.take position
    let line := before.count '\n' + 1
    let column := (before.reverse.takeWhile (· ≠ '\n')).length + 1
    s!"{fault.message}: line {line} column {column} (char {position})"
  | .tooManyDigits count => tooManyDigitsMessage count

namespace Json.Parser

/-- Something read, the characters after it, and their place. -/
abbrev Reading (α : Type) := α × List Char × Nat

/-- Stop with a fault. -/
def fail {α : Type} (fault : JsonFault) (position : Nat) : Except JsonError α :=
  .error (.malformed fault position)

/-- The white space of JSON. -/
def isJsonBlank (c : Char) : Bool := c == ' ' || c == '\t' || c == '\n' || c == '\r'

/-- Skip white space. -/
def skipBlanks : List Char → Nat → List Char × Nat
  | c :: rest, position =>
    if isJsonBlank c then skipBlanks rest (position + 1) else (c :: rest, position)
  | [], position => ([], position)

/-- The value of a hexadecimal digit. -/
def hexValue? (c : Char) : Option Nat :=
  if '0' ≤ c ∧ c ≤ '9' then some (c.toNat - 48)
  else if 'a' ≤ c ∧ c ≤ 'f' then some (c.toNat - 87)
  else if 'A' ≤ c ∧ c ≤ 'F' then some (c.toNat - 55)
  else none

/-- The value of hexadecimal digits. -/
def hexNumber? (digits : List Char) : Option Nat :=
  digits.foldl (fun acc c => do return (← acc) * 16 + (← hexValue? c)) (some 0)

/-- The character of a single-letter escape. -/
def shortEscape? : Char → Option Char
  | '"' => some '"'
  | '\\' => some '\\'
  | '/' => some '/'
  | 'b' => some '\x08'
  | 'f' => some '\x0c'
  | 'n' => some '\n'
  | 'r' => some '\r'
  | 't' => some '\t'
  | _ => none

/-- The character of an escape and how many characters it takes after the backslash at `position`,
in the string that starts at `start`.  Two escapes that form a surrogate pair are one character, if
the text goes on after them. -/
def readEscape (start position : Nat) : List Char → Except JsonError (Char × Nat)
  | 'u' :: a :: b :: c :: d :: next :: rest =>
    match hexNumber? [a, b, c, d] with
    | none => fail .badUnicodeEscape (position + 1)
    | some high =>
      if 0xD800 ≤ high ∧ high < 0xDC00 then
        match next, rest with
        | '\\', 'u' :: a :: b :: c :: d :: _ :: _ =>
          match hexNumber? [a, b, c, d] with
          | none => fail .badUnicodeEscape (position + 7)
          | some low =>
            if 0xDC00 ≤ low ∧ low < 0xE000 then
              .ok (Char.ofNat (0x10000 + (high - 0xD800) * 0x400 + (low - 0xDC00)), 11)
            else .ok ('\ufffd', 5)
        | _, _ => .ok ('\ufffd', 5)
      else if 0xDC00 ≤ high ∧ high < 0xE000 then .ok ('\ufffd', 5)
      else .ok (Char.ofNat high, 5)
  | 'u' :: _ => fail .badUnicodeEscape (position + 1)
  | c :: _ =>
    match shortEscape? c with
    | some value => .ok (value, 1)
    | none => fail .badEscape position
  | [] => fail .unterminatedString start

/-- The rest of a string whose opening quote is at `start`; `read` holds what was read, reversed. -/
def readString (start : Nat) :
    (fuel : Nat) → List Char → Nat → (read : List Char) → Except JsonError (Reading String)
  | 0, _, _, _ => fail .unterminatedString start
  | _ + 1, [], _, _ => fail .unterminatedString start
  | fuel + 1, c :: rest, position, read =>
    if c = '"' then .ok (String.ofList read.reverse, rest, position + 1)
    else if c = '\\' then do
      let (value, taken) ← readEscape start position rest
      readString start fuel (rest.drop taken) (position + 1 + taken) (value :: read)
    else if c.toNat < 32 then fail .controlCharacter position
    else readString start fuel rest (position + 1) (c :: read)

/-- The digits at the front and the rest. -/
def spanDigits (cs : List Char) : List Char × List Char := cs.span Char.isDigit

/-- The number that ASCII digits write. -/
def digitsValue (digits : List Char) : Nat :=
  digits.foldl (fun acc c => acc * 10 + (c.toNat - 48)) 0

/-- The whole digits of a number and the rest; a zero at the front stands alone. -/
def wholePart : List Char → List Char × List Char
  | '0' :: rest => (['0'], rest)
  | cs => spanDigits cs

/-- The digits of a fraction and the rest; a point without digits is not taken. -/
def fractionPart (cs : List Char) : List Char × List Char :=
  match cs with
  | '.' :: more => match spanDigits more with
    | ([], _) => ([], cs)
    | (digits, after) => (digits, after)
  | _ => ([], cs)

/-- Whether an exponent is negative, its digits and the rest, and how many characters its sign
takes. -/
def exponentSign : List Char → Bool × List Char × Nat
  | '-' :: digits => (true, digits, 1)
  | '+' :: digits => (false, digits, 1)
  | digits => (false, digits, 0)

/-- Whether an exponent is negative, its digits, the rest, and how many characters it takes; a
letter without digits is not taken. -/
def exponentPart? : List Char → Option (Bool × List Char × List Char × Nat)
  | e :: more =>
    if e = 'e' ∨ e = 'E' then
      let (down, digits, signSize) := exponentSign more
      match spanDigits digits with
      | ([], _) => none
      | (power, after) => some (down, power, after, 1 + signSize + power.length)
    else none
  | [] => none

/-- A number, its sign already read: whole digits, then perhaps a fraction and an exponent. -/
def readNumber (negative : Bool) (start : Nat) (cs : List Char) (position : Nat) :
    Except JsonError (Reading Json) :=
  let (whole, rest) := wholePart cs
  if whole.isEmpty then fail .expectedValue start
  else
    let (fraction, rest) := fractionPart rest
    let fractionSize := if fraction.isEmpty then 0 else fraction.length + 1
    let position := position + whole.length + fractionSize
    match exponentPart? rest with
    | some (down, power, after, size) =>
      let power : Int := digitsValue power
      let d : Decimal :=
        ⟨digitsValue (whole ++ fraction), (if down then -power else power) - fraction.length⟩
      .ok (.float (.ofDecimal negative d), after, position + size)
    | none =>
      if fraction.isEmpty then
        if whole.length > maxIntegerDigits then .error (.tooManyDigits whole.length)
        else
          let n : Int := digitsValue whole
          .ok (.int (if negative then -n else n), rest, position)
      else
        .ok (.float (.ofDecimal negative ⟨digitsValue (whole ++ fraction), -fraction.length⟩), rest,
          position)

mutual

/-- A value whose first character is at `position`. -/
def readValue : (fuel : Nat) → List Char → Nat → Except JsonError (Reading Json)
  | 0, _, position => fail .expectedValue position
  | fuel + 1, cs, position =>
    match cs with
    | '"' :: rest => do
      let (s, rest, position) ← readString position (rest.length + 1) rest (position + 1) []
      return (.str s, rest, position)
    | '{' :: rest =>
      match skipBlanks rest (position + 1) with
      | ('}' :: rest, position) => .ok (.object [], rest, position + 1)
      | (rest, position) => readMembers fuel rest position []
    | '[' :: rest =>
      match skipBlanks rest (position + 1) with
      | (']' :: rest, position) => .ok (.array [], rest, position + 1)
      | (rest, position) => readItems fuel rest position []
    | 'n' :: 'u' :: 'l' :: 'l' :: rest => .ok (.null, rest, position + 4)
    | 't' :: 'r' :: 'u' :: 'e' :: rest => .ok (.bool true, rest, position + 4)
    | 'f' :: 'a' :: 'l' :: 's' :: 'e' :: rest => .ok (.bool false, rest, position + 5)
    | 'N' :: 'a' :: 'N' :: rest => .ok (.float .nan, rest, position + 3)
    | 'I' :: 'n' :: 'f' :: 'i' :: 'n' :: 'i' :: 't' :: 'y' :: rest =>
      .ok (.float (.infinity false), rest, position + 8)
    | '-' :: 'I' :: 'n' :: 'f' :: 'i' :: 'n' :: 'i' :: 't' :: 'y' :: rest =>
      .ok (.float (.infinity true), rest, position + 9)
    | '-' :: rest => readNumber true position rest (position + 1)
    | cs => readNumber false position cs position

/-- The items of an array from the next one on; `read` holds those before it, reversed. -/
def readItems :
    (fuel : Nat) → List Char → Nat → (read : List Json) → Except JsonError (Reading Json)
  | 0, _, position, _ => fail .expectedValue position
  | fuel + 1, cs, position, read => do
    let (item, rest, position) ← readValue fuel cs position
    match skipBlanks rest position with
    | (']' :: rest, position) => .ok (.array (item :: read).reverse, rest, position + 1)
    | (',' :: rest, position) =>
      let (rest, position) := skipBlanks rest (position + 1)
      readItems fuel rest position (item :: read)
    | (_, position) => fail .expectedComma position

/-- The members of an object from the next one on; `read` holds those before it. -/
def readMembers :
    (fuel : Nat) → List Char → Nat → (read : Members) → Except JsonError (Reading Json)
  | 0, _, position, _ => fail .expectedKey position
  | fuel + 1, cs, position, read =>
    match cs with
    | '"' :: rest => do
      let (key, rest, position) ← readString position (rest.length + 1) rest (position + 1) []
      match skipBlanks rest position with
      | (':' :: rest, position) =>
        let (rest, position) := skipBlanks rest (position + 1)
        let (value, rest, position) ← readValue fuel rest position
        match skipBlanks rest position with
        | ('}' :: rest, position) => .ok (.object (read.insert key value), rest, position + 1)
        | (',' :: rest, position) =>
          let (rest, position) := skipBlanks rest (position + 1)
          readMembers fuel rest position (read.insert key value)
        | (_, position) => fail .expectedComma position
      | (_, position) => fail .expectedColon position
    | _ => fail .expectedKey position

end

end Json.Parser

open Json.Parser in
/-- The JSON value that the characters write, the first of which counts like all others. -/
def Json.parseUnmarked (cs : List Char) : Except JsonError Json := do
  let (start, position) := skipBlanks cs 0
  let (value, rest, position) ← readValue (2 * cs.length + 2) start position
  match skipBlanks rest position with
  | ([], _) => return value
  | (_, position) => fail .extraData position

open Json.Parser in
/-- The JSON value that the characters write. -/
def Json.parseChars (cs : List Char) : Except JsonError Json :=
  match cs with
  | '\ufeff' :: _ => fail .byteOrderMark 0
  | cs => Json.parseUnmarked cs

/-- The JSON value that a text writes. -/
def Json.parse (text : String) : Except JsonError Json := Json.parseChars text.toList

end ImageWorkflow
