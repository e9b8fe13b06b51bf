/-!
# Compressed data

The `deflate` format inside a stream with a head and a check sum.  A stream is a row of blocks; a
block is stored, or written in two prefix codes that are fixed or come with the block: one for
literal bytes and lengths, one for distances.  A length with a distance repeats earlier data.
* `Code.ofLengths`, `Code.read` : prefix codes, given by the lengths of their words;
* `inflate` : the data of a stream, and why there are no more (`Stop`).

A reader of the format asks for a number of bytes and wants no more.  It goes on behind the last of
them as long as nothing is added to the data, so a fault there, or a wrong check sum, shows.  Data
come out later than the input goes in: `Inflated.drained` tells how many were out when the last of
the input was taken.
-/

namespace ImageWorkflow.Deflate

/-- Why no more data come out of a stream. -/
inductive Stop where
  /-- The stream is at its end. -/
  | finished
  /-- The input ends before the stream does. -/
  | starved
  /-- The stream has more data than are wanted. -/
  | satisfied
  /-- The stream is against the rules. -/
  | broken
  /-- The stream repeats data from before the first. -/
  | outOfReach
  deriving DecidableEq, Repr

/-- The state of decompression. -/
structure State where
  /-- The rest of the byte that was begun, lowest bit first. -/
  bits : List Bool := []
  /-- The input behind that byte. -/
  input : List UInt8
  output : Array UInt8 := #[]
  /-- The number of data that were out when the last of the input was taken, if it was. -/
  drained : Option Nat := none

/-- Decompression: what came out stays when it stops. -/
abbrev Inflation := ExceptT Stop (StateM State)

/-! ## Input and output -/

/-- The bits of a byte, lowest first. -/
def bitsOf (b : UInt8) : List Bool := (List.range 8).map b.toNat.testBit

/-- The next byte of the input. -/
def byte : Inflation UInt8 := do
  let s ← get
  match s.input with
  | [] => throw .starved
  | [b] => set { s with input := [], drained := some s.output.size }; return b
  | b :: input => set { s with input }; return b

/-- The next bit. -/
def bit : Inflation Bool := do
  let s ← get
  match s.bits with
  | b :: bits => set { s with bits }; return b
  | [] =>
    let b ← byte
    modify ({ · with bits := (bitsOf b).drop 1 })
    return b.toNat.testBit 0

/-- The number that the next `count` bits write, lowest first. -/
def number : (count : Nat) → Inflation Nat
  | 0 => return 0
  | count + 1 => do
    let low ← bit
    return low.toNat + 2 * (← number count)

/-- Go on with a whole byte. -/
def align : Inflation Unit := modify ({ · with bits := [] })

/-- Add a byte to the data, of which `limit` are wanted. -/
def emit (limit : Nat) (b : UInt8) : Inflation Unit := do
  let s ← get
  if s.output.size < limit then set { s with output := s.output.push b } else throw .satisfied

/-- Repeat `count` bytes, each from `distance` before it. -/
def repeatBack (limit distance : Nat) : (count : Nat) → Inflation Unit
  | 0 => return
  | count + 1 => do
    let output := (← get).output
    emit limit (output.getD (output.size - distance) 0)
    repeatBack limit distance count

/-- Copy `count` bytes of the input. -/
def copyInput (limit : Nat) : (count : Nat) → Inflation Unit
  | 0 => return
  | count + 1 => do
    let s ← get
    match s.input with
    | [] => throw .starved
    | b :: _ =>
      emit limit b
      discard byte
      copyInput limit count

/-! ## Prefix codes -/

/-- A prefix code: for each length from one on, the symbols whose words have it, in the order of
their words.  Words of one length are consecutive numbers, and follow on the shorter words. -/
abbrev Code := List (Array Nat)

namespace Code

/-- The code in which the word of symbol `k` has `lengths[k]` bits; a symbol with none has no
word. -/
def ofLengths (lengths : List Nat) : Code :=
  (List.range (max 1 (lengths.foldl max 0))).map fun n =>
    (((List.range lengths.length).zip lengths).filterMap fun (symbol, length) =>
      if length = n + 1 then some symbol else none).toArray

/-- The code in which every bit is a word for zero. -/
def blank : Code := [#[0, 0]]

/-- Read the symbol whose word comes next; `place` counts how far the bits so far are behind the
last of the shorter words. -/
def read : Code → (place : Nat) → Inflation Nat
  | [], _ => throw .broken
  | symbols :: longer, place => do
    let place := 2 * place + (← bit).toNat
    match symbols[place]? with
    | some symbol => return symbol
    | none => read longer (place - symbols.size)

/-- How many further words of the greatest length there could be; nothing when there are words too
many. -/
def room? (code : Code) : Option Nat :=
  code.foldl (fun room symbols => do
    let room ← room
    guard (symbols.size ≤ 2 * room)
    return 2 * room - symbols.size) (some 1)

/-- Whether every word is taken. -/
def isComplete (code : Code) : Bool := code.room? = some 0

/-- Whether every word is taken, or there is at most one word and that has one bit. -/
def isUsable (code : Code) : Bool :=
  code.isComplete || (code.room?.isSome && code.length = 1)

end Code

/-- Refuse a code that lets a rule down. -/
def require (rule : Bool) : Inflation Unit := if rule then return else throw .broken

/-! ## Lengths and distances -/

/-- The smallest value of each symbol, and how many bits are added to it. -/
abbrev Steps := List (Nat × Nat)

/-- The lengths of what is repeated. -/
def lengthSteps : Steps := [
  (3, 0), (4, 0), (5, 0), (6, 0), (7, 0), (8, 0), (9, 0), (10, 0), (11, 1), (13, 1), (15, 1),
  (17, 1), (19, 2), (23, 2), (27, 2), (31, 2), (35, 3), (43, 3), (51, 3), (59, 3), (67, 4),
  (83, 4), (99, 4), (115, 4), (131, 5), (163, 5), (195, 5), (227, 5), (258, 0)
]

/-- The distances to what is repeated. -/
def distanceSteps : Steps := [
  (1, 0), (2, 0), (3, 0), (4, 0), (5, 1), (7, 1), (9, 2), (13, 2), (17, 3), (25, 3), (33, 4),
  (49, 4), (65, 5), (97, 5), (129, 6), (193, 6), (257, 7), (385, 7), (513, 8), (769, 8), (1025, 9),
  (1537, 9), (2049, 10), (3073, 10), (4097, 11), (6145, 11), (8193, 12), (12289, 12), (16385, 13),
  (24577, 13)
]

/-- The value of a symbol with the bits that are added to it. -/
def valueOf (steps : Steps) (symbol : Nat) : Inflation Nat := do
  match steps[symbol]? with
  | some (start, extra) => return start + (← number extra)
  | none => throw .broken

/-! ## Blocks -/

/-- The symbol that ends a block; those below it are literal bytes, those above it lengths. -/
def endSymbol : Nat := 256

/-- The data of a block in two codes; `fuel` bounds the number of symbols. -/
def readSymbols (limit : Nat) (literals distances : Code) : (fuel : Nat) → Inflation Unit
  | 0 => throw .starved
  | fuel + 1 => do
    let symbol ← literals.read 0
    if symbol < endSymbol then
      emit limit (UInt8.ofNat symbol)
      readSymbols limit literals distances fuel
    else if symbol = endSymbol then return
    else
      let count ← valueOf lengthSteps (symbol - endSymbol - 1)
      let distance ← valueOf distanceSteps (← distances.read 0)
      let size := (← get).output.size
      if limit ≤ size then throw .satisfied
      if size < distance then throw .outOfReach
      repeatBack limit distance count
      readSymbols limit literals distances fuel

/-- The data of a stored block. -/
def readStored (limit : Nat) : Inflation Unit := do
  align
  let count ← number 16
  require (count + (← number 16) = 65535)
  copyInput limit count

/-- The fixed code for literal bytes and lengths. -/
def fixedLiterals : Code :=
  .ofLengths (List.replicate 144 8 ++ List.replicate 112 9 ++ List.replicate 24 7 ++
    List.replicate 8 8)

/-- The fixed code for distances. -/
def fixedDistances : Code := .ofLengths (List.replicate 32 5)

/-- The order in which the lengths of the code for lengths come. -/
def lengthOrder : List Nat := [16, 17, 18, 0, 8, 7, 9, 6, 10, 5, 11, 4, 12, 3, 13, 2, 14, 1, 15]

/-- The lengths of words from the next on, up to `total` of them; `lengths` are those before,
latest first.  A symbol stands for a length, for the latest one again, or for zeros. -/
def readLengths (code : Code) (total : Nat) (lengths : List Nat) :
    (fuel : Nat) → Inflation (List Nat)
  | 0 => throw .broken
  | fuel + 1 => do
    if lengths.length = total then return lengths.reverse
    else
      let symbol ← code.read 0
      let (length, count) ← match symbol with
        | 16 => do
          require (!lengths.isEmpty)
          pure (lengths.headD 0, 3 + (← number 2))
        | 17 => do pure (0, 3 + (← number 3))
        | 18 => do pure (0, 11 + (← number 7))
        | length => pure (length, 1)
      require (lengths.length + count ≤ total)
      readLengths code total (List.replicate count length ++ lengths) fuel

/-- The codes that come with a block.  When no length has a word, every bit is a length of zero. -/
def readCodes : Inflation (Code × Code) := do
  let literalCount := 257 + (← number 5)
  let distanceCount := 1 + (← number 5)
  let count := 4 + (← number 4)
  require (literalCount ≤ 286 && distanceCount ≤ 30)
  let given ← (List.range count).mapM fun _ => number 3
  let code := if given.all (· = 0) then Code.blank else
    Code.ofLengths ((List.range 19).map fun symbol => (given[lengthOrder.idxOf symbol]?).getD 0)
  require code.isComplete
  let total := literalCount + distanceCount
  let lengths ← readLengths code total [] (total + 1)
  require (lengths.getD endSymbol 0 ≠ 0)
  let literals := Code.ofLengths (lengths.take literalCount)
  let distances := Code.ofLengths (lengths.drop literalCount)
  require (literals.isUsable && distances.isUsable)
  return (literals, distances)

/-- The data of one block; `fuel` bounds the number of its symbols. -/
def readBlock (limit fuel : Nat) : Inflation Unit := do
  match ← number 2 with
  | 0 => readStored limit
  | 1 => readSymbols limit fixedLiterals fixedDistances fuel
  | 2 => do
    let (literals, distances) ← readCodes
    readSymbols limit literals distances fuel
  | _ => throw .broken

/-- The data of the blocks to the last; `fuel` bounds their number. -/
def readBlocks (limit bound : Nat) : (fuel : Nat) → Inflation Unit
  | 0 => throw .starved
  | fuel + 1 => do
    let isLast ← bit
    readBlock limit bound
    if isLast then return else readBlocks limit bound fuel

/-! ## Streams -/

/-- Two running sums modulo this number make up the check sum of a stream. -/
def adlerModulus : Nat := 65521

/-- The sums with one more byte. -/
def adlerStep (sums : Nat × Nat) (b : UInt8) : Nat × Nat :=
  let low := (sums.1 + b.toNat) % adlerModulus
  (low, (sums.2 + low) % adlerModulus)

/-- The check sum of the two sums. -/
def adlerSum (sums : Nat × Nat) : Nat := sums.2 * 65536 + sums.1

/-- The check sum of data. -/
def adler (data : List UInt8) : Nat := adlerSum (data.foldl adlerStep (1, 0))

/-- The number of the method in the head of a stream. -/
def method : Nat := 8

/-- The head of a stream: method and window, a check of both, and whether a dictionary is needed,
which nobody has. -/
def readHead : Inflation Unit := do
  let first ← number 8
  let second ← number 8
  require ((first * 256 + second) % 31 = 0 && first % 16 = method && first / 16 ≤ 7)
  if second.testBit 5 then throw .starved else return

/-- A whole stream. -/
def readStream (limit fuel : Nat) : Inflation Unit := do
  readHead
  readBlocks limit fuel fuel
  align
  let sum ← (List.range 4).foldlM (fun sum _ => do return sum * 256 + (← number 8)) 0
  require (sum = adlerSum ((← get).output.foldl adlerStep (1, 0)))

/-- What came out of a stream. -/
structure Inflated where
  data : Array UInt8
  /-- Why there are no more. -/
  stop : Stop
  /-- How many there were when the last of the input was taken, if it was. -/
  drained : Option Nat

/-- The data of a stream, of which `limit` bytes are wanted. -/
def inflate (limit : Nat) (input : List UInt8) : Inflated :=
  match (readStream limit (8 * input.length + 1)).run { input } with
  | (.ok (), s) => ⟨s.output, .finished, s.drained⟩
  | (.error stop, s) => ⟨s.output, stop, s.drained⟩

end ImageWorkflow.Deflate
