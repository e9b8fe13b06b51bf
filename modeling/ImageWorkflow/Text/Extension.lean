/-!
# File name extensions

`lowerAscii s` : `s` with the ASCII capitals in lower case.  No other character has a lower-case
form with a letter of an image extension in it, so comparing extensions needs no larger case map.
`hasImageExtension`, `endsInPng` : the tests on the end of a name.  `extension name` : the part from
the last dot of a file name on; empty when that dot is the first or the last character.
-/

namespace ImageWorkflow.Text

/-- `s` with the ASCII capitals in lower case. -/
def lowerAscii (s : String) : String := s.map Char.toLower

/-- The extensions of image files, in the order in which they are tried. -/
def imageExtensions : List String := [".png", ".jpg", ".jpeg", ".webp"]

/-- Whether a name ends in `extension`, whatever the case. -/
def endsIn (name extension : String) : Bool :=
  extension.toList.isSuffixOf (lowerAscii name).toList

/-- Whether a name ends in an image extension. -/
def hasImageExtension (name : String) : Bool := imageExtensions.any (endsIn name)

/-- The part of a file name from its last dot on, if that dot is neither first nor last. -/
def extension (name : String) : String :=
  let after := name.toList.reverse.takeWhile (· ≠ '.')
  let stemSize := name.length - after.length
  if after.isEmpty ∨ stemSize ≤ 1 then "" else String.ofList ('.' :: after.reverse)

/-- A file name without its extension. -/
def stem (name : String) : String :=
  String.ofList (name.toList.take (name.length - (extension name).length))

end ImageWorkflow.Text
