import ImageWorkflow.Web.HostCharacter
import ImageWorkflow.Web.Punycode

/-!
# International host names

A name is a row of labels between dots.  A label outside ASCII is written in ASCII behind `xn--`, if
it is right: characters that names may hold (`isHostCharacter`, and a few whose neighbours decide),
hyphens only inside, no mark at the start, every letter in its shortest spelling, and one direction
of writing.
* `Label.isRight` : the rules for a label;
* `HostName.toAscii?` : a name in ASCII, if its labels are right and not too long.
-/

namespace ImageWorkflow.Web

namespace Label

/-! ## Characters whose neighbours decide -/

/-- Whether a character is Greek. -/
def isGreek (c : Char) : Bool :=
  (0x370 ≤ c.toNat && c.toNat ≤ 0x3ff) || (0x1f00 ≤ c.toNat && c.toNat ≤ 0x1fff)

/-- Whether a character is Hebrew. -/
def isHebrew (c : Char) : Bool := 0x591 ≤ c.toNat && c.toNat ≤ 0x5f4

/-- Whether a character is of a script of Japanese. -/
def isJapanese (c : Char) : Bool :=
  let n := c.toNat
  (0x3041 ≤ n && n ≤ 0x309f) || (0x30a1 ≤ n && n ≤ 0x30fa) || (0x30fd ≤ n && n ≤ 0x30ff) ||
    (0x31f0 ≤ n && n ≤ 0x31ff) || n == 0x3005 || n == 0x3007 || (0x3400 ≤ n && n ≤ 0x4dbf) ||
    (0x4e00 ≤ n && n ≤ 0x9fff) || (0x20000 ≤ n && n ≤ 0x323af)

/-- Whether a character is an Arabic digit. -/
def isArabicDigit (c : Char) : Bool := 0x660 ≤ c.toNat && c.toNat ≤ 0x669

/-- Whether a character is an Eastern Arabic digit. -/
def isEasternDigit (c : Char) : Bool := 0x6f0 ≤ c.toNat && c.toNat ≤ 0x6f9

/-- The character that keeps two letters from being joined. -/
def nonJoiner : Char := '\u200c'

/-- The character that joins two letters. -/
def joiner : Char := '\u200d'

/-- Whether the letters on both sides, marks apart, would be joined; `before` is latest first. -/
def wouldJoin (before after : List Char) : Bool :=
  (before.dropWhile isMark).head?.any joinsNext && (after.dropWhile isMark).head?.any joinsPrevious

/-- Whether a character may stand between what is before it in a label, latest first, and what is
after it. -/
def allows (label before : List Char) (c : Char) (after : List Char) : Bool :=
  if c = '\u00b7' then before.head? = some 'l' && after.head? = some 'l'
  else if c = '\u0375' then after.head?.any isGreek
  else if c = '\u05f3' ∨ c = '\u05f4' then before.head?.any isHebrew
  else if c = '\u30fb' then label.any isJapanese
  else if c = nonJoiner then before.head?.any isJoiningMark || wouldJoin before after
  else if c = joiner then before.head?.any isJoiningMark
  else if isArabicDigit c then !label.any isEasternDigit
  else if isEasternDigit c then !label.any isArabicDigit
  else isHostCharacter c

/-- Whether the characters behind `before`, which is latest first, may stand where they do. -/
def allowsAll (label before : List Char) : List Char → Bool
  | [] => true
  | c :: rest => allows label before c rest && allowsAll label (c :: before) rest

/-! ## Directions -/

/-- The directions of characters. -/
inductive Direction where
  | leftToRight
  | rightToLeft
  | number
  | arabicNumber
  | mark
  | neutral
  deriving DecidableEq, Repr

/-- The direction of a character. -/
def directionOf (c : Char) : Direction :=
  if c.toNat < 128 then
    if c.isDigit then .number else if c = '-' then .neutral else .leftToRight
  else if isEasternDigit c then .number
  else if isArabicDigit c then .arabicNumber
  else if isMark c then .mark
  else if c = joiner ∨ c = nonJoiner then .neutral
  else if isRightToLeft c then .rightToLeft
  else .leftToRight

/-- Whether directions go together.  It matters only when some run to the left: then the first and
the last character have the direction of the label, a number that ends it apart, none runs the other
way, and digits are of one kind. -/
def areConsistent (directions : List Direction) : Bool :=
  if directions.all fun d => d ≠ .rightToLeft ∧ d ≠ .arabicNumber then true
  else
    let last := (directions.reverse.dropWhile (· = .mark)).head?
    if directions.head? = some .rightToLeft then
      !directions.contains .leftToRight &&
        !(directions.contains .number && directions.contains .arabicNumber) &&
        last.any fun d => d ≠ .neutral
    else false

/-! ## Labels -/

/-- Whether hyphens are inside only, and not both in the third and in the fourth place. -/
def hyphensAreInside (label : List Char) : Bool :=
  label.head? ≠ some '-' && label.getLast? ≠ some '-' && (label.drop 2).take 2 ≠ ['-', '-']

/-- Whether no two characters have a spelling as one. -/
def isShortest (label : List Char) : Bool :=
  (label.zip label.tail).all fun (base, mark) => !isComposed base mark

/-- Whether a label is right. -/
def isRight (label : List Char) : Bool :=
  !label.isEmpty && isShortest label && hyphensAreInside label && !label.head?.any isMark &&
    allowsAll label [] label && areConsistent (label.map directionOf)

/-- What stands in front of a label that is written in ASCII. -/
def asciiMark : List Char := ['x', 'n', '-', '-']

/-- A label in ASCII, if it is right. -/
def toAscii? (label : List Char) : Option (List Char) :=
  if label.all fun c => c.toNat < 128 then
    let rest := label.drop asciiMark.length
    if asciiMark.isPrefixOf label then
      if rest.isEmpty || rest.getLast? = some '-' then none else some label
    else if isRight label then some label
    else none
  else if isRight label then some (asciiMark ++ Punycode.encode label)
  else none

/-- The most characters of a label. -/
def maxLength : Nat := 63

end Label

namespace HostName

/-- Whether a character is a dot, of any script. -/
def isDot (c : Char) : Bool := c == '.' || c == '\u3002' || c == '\uff0e' || c == '\uff61'

/-- The parts between dots. -/
def labels : List Char → List (List Char)
  | [] => [[]]
  | c :: rest =>
    if isDot c then [] :: labels rest
    else
      match labels rest with
      | label :: more => (c :: label) :: more
      | [] => [[c]]

/-- The most characters of a name. -/
def maxLength : Nat := 253

/-- A name of lower-case letters in ASCII, if it is right; a dot may end it. -/
def toAscii? (name : List Char) : Option (List Char) := do
  let parts := labels name
  let endsInDot := parts.getLast? = some []
  let written ← (if endsInDot then parts.dropLast else parts).mapM Label.toAscii?
  guard (written.all fun label => label.length ≤ Label.maxLength)
  let text := ['.'].intercalate written ++ if endsInDot then ['.'] else []
  guard (text.length ≤ maxLength + if endsInDot then 1 else 0)
  return text

end HostName

end ImageWorkflow.Web
