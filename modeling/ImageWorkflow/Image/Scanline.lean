import ImageWorkflow.Image.Basic

/-!
# Rows of samples

The bytes of a picture, row by row.  A row is the number of a filter and bytes from which the
filter's guess was taken away, a guess from the bytes before and above.  A picture comes in one
pass, or in seven that fill it little by little.
* `Pass` : which pixels come together;
* `Layout` : size, channels and passes of a picture;
* `unfilter` : the samples of a row;
* `Layout.readPasses`, `Layout.image` : the picture of all rows that are there.
-/

namespace ImageWorkflow.Scanline

/-! ## Passes -/

/-- A pass over a picture: where it starts and by what steps it goes on. -/
structure Pass where
  left : Nat
  top : Nat
  across : Nat
  down : Nat
  deriving DecidableEq, Repr

/-- The one pass of a plain picture. -/
def plainPasses : List Pass := [⟨0, 0, 1, 1⟩]

/-- The passes of an interlaced picture. -/
def interlacedPasses : List Pass :=
  [⟨0, 0, 8, 8⟩, ⟨4, 0, 8, 8⟩, ⟨0, 4, 4, 8⟩, ⟨2, 0, 4, 4⟩, ⟨0, 2, 2, 4⟩, ⟨1, 0, 2, 2⟩, ⟨0, 1, 1, 2⟩]

/-- Whether a pass comes by a pixel. -/
def Pass.meets (p : Pass) (x y : Nat) : Bool :=
  p.left ≤ x && p.top ≤ y && (x - p.left) % p.across == 0 && (y - p.top) % p.down == 0

/-- How many steps from `start` on stay below `bound`. -/
def stepsBelow (bound start step : Nat) : Nat := (bound - start + step - 1) / step

/-! ## Layouts -/

/-- How a picture is written. -/
structure Layout where
  width : Nat
  height : Nat
  /-- The channels that are written. -/
  channels : ImageMode
  /-- The bits of a channel. -/
  depth : Nat
  passes : List Pass

namespace Layout

/-- The number of pixels in a row of a pass. -/
def columns (l : Layout) (p : Pass) : Nat := stepsBelow l.width p.left p.across

/-- The number of rows of a pass. -/
def rowCount (l : Layout) (p : Pass) : Nat :=
  if l.columns p = 0 then 0 else stepsBelow l.height p.top p.down

/-- The number of bytes of a row behind its filter. -/
def rowSize (l : Layout) (p : Pass) : Nat :=
  (l.columns p * (l.depth * l.channels.channelCount) + 7) / 8

/-- The number of bytes of a pass. -/
def passSize (l : Layout) (p : Pass) : Nat := l.rowCount p * (l.rowSize p + 1)

/-- The number of bytes of all passes. -/
def size (l : Layout) : Nat := l.passes.foldr (fun p total => l.passSize p + total) 0

/-- The least number of bytes, `count` or more, behind which a row of the passes ends; the number of
all bytes if there are less. -/
def rowEnd (l : Layout) (count : Nat) : List Pass → Nat
  | [] => 0
  | p :: rest =>
    if count ≤ l.passSize p then (count + l.rowSize p) / (l.rowSize p + 1) * (l.rowSize p + 1)
    else l.passSize p + l.rowEnd (count - l.passSize p) rest

/-- The distance to the same channel of the pixel before, at least one byte. -/
def stride (l : Layout) : Nat := (l.depth * l.channels.channelCount + 7) / 8

end Layout

/-! ## Filters -/

/-- The neighbour that is nearest to what their slope predicts: the left one, the upper one, or the
one between them. -/
def nearest (left above corner : Nat) : Nat :=
  let fromLeft := ((above : Int) - corner).natAbs
  let fromAbove := ((left : Int) - corner).natAbs
  let fromCorner := ((left : Int) + above - 2 * corner).natAbs
  if fromLeft ≤ fromAbove ∧ fromLeft ≤ fromCorner then left
  else if fromAbove ≤ fromCorner then above
  else corner

/-- The guess of a filter from the neighbours; there are five filters. -/
def guess? (filter : Nat) (left above corner : UInt8) : Option Nat :=
  match filter with
  | 0 => some 0
  | 1 => some left.toNat
  | 2 => some above.toNat
  | 3 => some ((left.toNat + above.toNat) / 2)
  | 4 => some (nearest left.toNat above.toNat corner.toNat)
  | _ => none

/-- The bytes of a row from what the filter has left of them, below the row `above`. -/
def unfilter (filter stride : Nat) (above raw : Array UInt8) : Option (Array UInt8) :=
  raw.foldl (fun row b => do
    let row ← row
    let before (bytes : Array UInt8) : UInt8 :=
      if row.size < stride then 0 else bytes.getD (row.size - stride) 0
    let guess ← guess? filter (before row) (above.getD row.size 0) (before above)
    return row.push (b + UInt8.ofNat guess)) (if filter ≤ 4 then some #[] else none)

/-- The next `count` rows of `size` bytes from `start` on, behind the rows `read`; nothing when a
filter is none. -/
def readRows (stride size : Nat) (data : Array UInt8) (start : Nat) (read : Array (Array UInt8)) :
    (count : Nat) → Option (Array (Array UInt8))
  | 0 => some read
  | count + 1 => do
    let row ← unfilter (data.getD start 0).toNat stride (read.back?.getD #[])
      (data.extract (start + 1) (start + 1 + size))
    readRows stride size data (start + 1 + size) (read.push row) count

/-! ## Pictures -/

namespace Layout

/-- The whole rows of some passes from `start` on, as far as there are data. -/
def readPasses (l : Layout) (data : Array UInt8) (start : Nat) :
    List Pass → Option (List (Pass × Array (Array UInt8)))
  | [] => some []
  | p :: rest => do
    let count := min (l.rowCount p) ((data.size - start) / (l.rowSize p + 1))
    let rows ← readRows l.stride (l.rowSize p) data start #[] count
    return (p, rows) :: (← l.readPasses data (start + l.passSize p) rest)

/-- The sample with the number `k` of a row: the high byte of a deep one, and a shallow one
stretched to the whole range. -/
def sample (l : Layout) (row : Array UInt8) (k : Nat) : UInt8 :=
  if l.depth = 16 then row.getD (2 * k) 0
  else if l.depth = 8 then row.getD k 0
  else
    let levels := Nat.pow 2 l.depth
    let place := k * l.depth
    let level := (row.getD (place / 8) 0).toNat / Nat.pow 2 (8 - l.depth - place % 8) % levels
    UInt8.ofNat (level * (255 / (levels - 1)))

/-- Whether the picture gets channels that are not written: deep grey levels with opacity become
colours. -/
def isWidened (l : Layout) : Bool := l.depth == 16 && l.channels == .greyAlpha

/-- The mode of the picture. -/
def mode (l : Layout) : ImageMode := if l.isWidened then .rgba else l.channels

/-- The colour of the pixel with the number `k` of a row. -/
def color (l : Layout) (row : Array UInt8) (k : Nat) : Color :=
  let count := l.channels.channelCount
  let color :=
    Color.ofList ((List.range count).map fun channel => l.sample row (k * count + channel))
  if l.isWidened then color.toRgba .greyAlpha else color

/-- The picture with the given rows of its passes; the pixels of missing rows are zero. -/
def image (l : Layout) (passes : List (Pass × Array (Array UInt8))) : Image :=
  Image.ofFn l.mode l.width l.height fun x y =>
    match passes.find? fun entry => entry.1.meets x y with
    | none => {}
    | some (p, rows) =>
      match rows[(y - p.top) / p.down]? with
      | none => {}
      | some row => l.color row ((x - p.left) / p.across)

end Layout

end ImageWorkflow.Scanline
