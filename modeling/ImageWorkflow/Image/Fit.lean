import ImageWorkflow.Image.Basic
import ImageWorkflow.Number.Binary64

/-!
# Fitting an image into bounds

`fittedSize? w h maxWidth maxHeight` : the size of a `w` by `h` image shrunk into the bounds with
its proportions kept, as near as whole pixels allow; an image that fits keeps its size.  The
proportions are compared in floating-point arithmetic, and the remaining side is the floor or the
ceiling of the exact length, whichever comes nearer to the image's aspect (the floor if both are as
near).
-/

namespace ImageWorkflow

/-- The largest integer that is not above a finite number. -/
def Binary64.floor (x : Binary64) : Int := (x.toRat?.map Rat.floor).getD 0

/-- The smallest integer that is not below a finite number. -/
def Binary64.ceil (x : Binary64) : Int := (x.toRat?.map Rat.ceil).getD 0

/-- The quotient of two natural numbers. -/
def aspectRatio (width height : Nat) : Binary64 := Binary64.ofRatio false width height

/-- `x` rounded down or up, whichever has the smaller `distance`, and at least one. -/
def roundSide (x : Binary64) (distance : Nat → Binary64) : Nat :=
  let down := x.floor.toNat
  let up := x.ceil.toNat
  max 1 (if (distance up).lt (distance down) then up else down)

/-- The size of an image shrunk into bounds; one without height has no proportions, so it must fit
as it is. -/
def fittedSize? (width height maxWidth maxHeight : Nat) : Option (Nat × Nat) :=
  if maxWidth ≥ width ∧ maxHeight ≥ height then some (width, height)
  else if height = 0 then none
  else
    let aspect := aspectRatio width height
    if aspect.le (aspectRatio maxWidth maxHeight) then
      let side := (Binary64.ofRat maxHeight).mul aspect
      let distance (n : Nat) := (aspect.sub (aspectRatio n maxHeight)).abs
      some (roundSide side distance, maxHeight)
    else
      let side := (Binary64.ofRat maxWidth).div aspect
      let distance (n : Nat) :=
        if n = 0 then Binary64.zero else (aspect.sub (aspectRatio maxWidth n)).abs
      some (maxWidth, roundSide side distance)

/-- The image shrunk into bounds, if that can be. -/
def Image.fitWithin? (i : Image) (maxWidth maxHeight : Nat) : Option Image :=
  (fittedSize? i.width i.height maxWidth maxHeight).map fun size => i.resize size.1 size.2

end ImageWorkflow
