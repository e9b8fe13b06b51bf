/-!
# Punycode

Characters of any script in lower-case ASCII.  The ASCII characters come first; of the others, in
the order of their code points, each is given by how far it is from the one before, counted in all
the places where it could stand.  A distance is written in digits of base 36, the lowest first, with
thresholds that adapt to the distances so far (`adapt`).
* `Punycode.digits` : the digits of a distance;
* `Punycode.encode` : the whole text.
-/

namespace ImageWorkflow.Web.Punycode

/-- The digit of a value below 36. -/
def digit (value : Nat) : Char :=
  if value < 26 then Char.ofNat (value + 97) else Char.ofNat (value - 26 + 48)

/-- The threshold at a place, which is a multiple of 36: a digit below it is the last. -/
def threshold (bias place : Nat) : Nat := max 1 (min 26 (place - bias))

theorem threshold_pos (bias place : Nat) : 1 ≤ threshold bias place := by
  unfold threshold
  omega

theorem threshold_le (bias place : Nat) : threshold bias place ≤ 26 := by
  unfold threshold
  omega

/-- The digits of a distance from a place on. -/
def digits (bias place distance : Nat) : List Char :=
  let t := threshold bias place
  if distance < t then [digit distance]
  else digit (t + (distance - t) % (36 - t)) ::
    digits bias (place + 36) ((distance - t) / (36 - t))
termination_by distance
decreasing_by
  have := threshold_pos bias place
  have := threshold_le bias place
  have := Nat.div_le_self (distance - threshold bias place) (36 - threshold bias place)
  omega

/-- How often a distance is divided before it is small, and what is left of it. -/
def shrink (distance : Nat) : Nat × Nat :=
  if 455 < distance then
    let (count, rest) := shrink (distance / 35)
    (count + 1, rest)
  else (0, distance)
termination_by distance
decreasing_by omega

/-- The bias after a distance, which was the one of the `count`-th character, `isFirst` among those
outside ASCII. -/
def adapt (distance count : Nat) ( isFirst : Bool) : Nat :=
  let halved := if isFirst then distance / 700 else distance / 2
  let (divisions, rest) := shrink (halved + halved / count)
  36 * divisions + 36 * rest / (rest + 38)

/-- The state of encoding. -/
structure State where
  written : List Char := []
  /-- The distance since the character written last. -/
  distance : Nat := 0
  bias : Nat := 72
  /-- The number of characters that are written or are ASCII. -/
  count : Nat

/-- Pass a character while characters with the code point `wanted` are written; of `ascii`
characters there were that many. -/
def pass (ascii wanted : Nat) (s : State) (c : Char) : State :=
  if c.toNat < wanted then { s with distance := s.distance + 1 }
  else if c.toNat = wanted then
    { written := s.written ++ digits s.bias 36 s.distance
      distance := 0
      bias := adapt s.distance (s.count + 1) (s.count = ascii)
      count := s.count + 1 }
  else s

/-- Write the characters with each of the code points `wanted`, the smallest first; those below
`next` are written. -/
def writeAll (text : List Char) (ascii next : Nat) (s : State) : (wanted : List Nat) → State
  | [] => s
  | wanted :: more =>
    let s := { s with distance := s.distance + (wanted - next) * (s.count + 1) }
    let s := text.foldl (pass ascii wanted) s
    writeAll text ascii (wanted + 1) { s with distance := s.distance + 1 } more

/-- A text in lower-case ASCII. -/
def encode (text : List Char) : List Char :=
  let ascii := text.filter fun c => c.toNat < 128
  let others := ((text.filter fun c => 128 ≤ c.toNat).map Char.toNat).mergeSort.eraseDups
  let s := writeAll text ascii.length 128 { count := ascii.length } others
  ascii ++ (if ascii.isEmpty then [] else ['-']) ++ s.written

end ImageWorkflow.Web.Punycode
