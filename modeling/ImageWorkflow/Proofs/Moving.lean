import Mathlib
import ImageWorkflow.Proofs.Cropping
import ImageWorkflow.Proofs.Edits
import ImageWorkflow.Proofs.VisitFootprint
import ImageWorkflow.Proofs.WholeNumbers

/-!
# Canvas and mask are moved alike

A move scales canvas and mask to one size and puts both at one place, whatever way of scaling there
is.
* `Scaling` : a way of scaling images, of which only the sizes are known; `Scaling.proportional` :
  that of the runs; `RunState.movedBy r` : what a move with a scaling leaves at the end of a visit;
* `IsScaledSide` : the side of a scaled image; `IsScaledSide.eq_of_one` : it is kept at scale one;
* `Image.Shows whole part left upper` : the whole has the pixels of the part where that is put, and
  empty ones elsewhere;
* `RunState.MaskIsGrey` : masks have grey levels; `Run.Reached.maskIsGrey` : so they do in all runs;
* `Engine.moved_alike` : the canvas and the mask after a move.
-/

namespace ImageWorkflow

/-! ## Ways of scaling -/

/-- A way of scaling images: it gives the size that is asked for, and an image that has that size
already stays as it is. -/
structure Scaling where
  scale : Image → Nat → Nat → Image
  size_scale : ∀ i width height, (scale i width height).size = (width, height)
  scale_self : ∀ i : Image, scale i i.width i.height = i

/-- The scaling of the runs. -/
def Scaling.proportional : Scaling where
  scale := Image.resize
  size_scale := Image.size_resize
  scale_self := Image.resize_self

/-- The image scaled to `size` and put at a place of an empty image of the given mode and size. -/
def Scaling.moved (r : Scaling) (i : Image) (mode : ImageMode) (width height : Nat)
    (size : Nat × Nat) (left upper : Int) : Image :=
  (Image.ofFn mode width height fun _ _ => {}).paste (r.scale i size.1 size.2) left upper

namespace RunState

/-- Scale canvas and mask and move them, with any scaling. -/
def moveScaleBy (r : Scaling) (s : RunState) (x y scale : Binary64) :
    Except VisitFailure RunState := do
  let canvas ← s.requireCanvas .moveScale
  if Binary64.zero.lt scale then
    let extent {α : Type} (answer : Except ExtentFault α) : Except VisitFailure α :=
      answer.mapError fun fault => .unforeseen (.extent fault)
    let size ← extent (scaledSize canvas.width canvas.height scale)
    let left := wholePlace x
    let upper := wholePlace y
    extent (checkPlacement left upper size)
    let moved (image : Image) (mode : ImageMode) : Image :=
      r.moved image mode canvas.width canvas.height size left upper
    return { s.setCanvas (moved canvas.toRgba .rgba) with mask := s.mask.map (moved · .grey) }
  else refuseVisit (.scale scale)

/-- Fit the mask to the canvas, with any scaling. -/
def fitMaskBy (r : Scaling) (s : RunState) : RunState :=
  match s.mask, s.canvas with
  | some mask, some canvas =>
    if mask.size = canvas.image.size then s
    else { s with mask := some (r.scale mask canvas.image.width canvas.image.height) }
  | _, _ => s

/-- What a move leaves when the mask has been fitted to the canvas. -/
def movedBy (r : Scaling) (s : RunState) (x y scale : Binary64) : Except VisitFailure RunState :=
  fitMaskBy r <$> s.moveScaleBy r x y scale

theorem moveScaleBy_proportional (s : RunState) (x y scale : Binary64) :
    s.moveScaleBy .proportional x y scale = s.moveScale x y scale := rfl

theorem fitMaskBy_proportional : fitMaskBy .proportional = fitMask := rfl

theorem MaskFits.fitMaskBy {s : RunState} (h : s.MaskFits) (r : Scaling) : s.fitMaskBy r = s := by
  unfold RunState.fitMaskBy
  split
  · rename_i mask canvas hmask hcanvas
    exact if_pos (h mask canvas hmask hcanvas)
  · rfl

end RunState

/-! ## Sides -/

/-- A side of a scaled image: the nearest whole number to the product, and at least one. -/
def IsScaledSide (side : Nat) (scale : Binary64) (n : Nat) : Prop :=
  ∃ length, ((Binary64.ofRat side).mul scale).toRat? = some length ∧
    (n : Int) = max 1 (roundEven length)

theorem IsScaledSide.pos {side n : Nat} {scale : Binary64} (h : IsScaledSide side scale n) :
    1 ≤ n := by
  obtain ⟨length, -, hn⟩ := h
  omega

theorem IsScaledSide.unique {side m n : Nat} {scale : Binary64} (hm : IsScaledSide side scale m)
    (hn : IsScaledSide side scale n) : m = n := by
  obtain ⟨length, hlength, hm⟩ := hm
  obtain ⟨length', hlength', hn⟩ := hn
  obtain rfl := Option.some.inj (hlength.symm.trans hlength')
  omega

/-- At scale one a side is kept, if it is not past all images. -/
theorem IsScaledSide.eq_of_one {side n : Nat} (h : IsScaledSide side (.ofRat 1) n)
    (hn : (n : Int) ≤ maxScaledSide) : n = max 1 side := by
  obtain ⟨length, hlength, hn'⟩ := h
  obtain hlt | hle := Nat.lt_or_ge side (2 ^ 53)
  · rw [Binary64.toRat?_natCast_mul_one hlt] at hlength
    obtain rfl := Option.some.inj hlength
    rw [roundEven_natCast] at hn'
    omega
  · have hlarge : ((2 ^ 53 : ℕ) : ℚ) ≤ length := by
      have hside : (2 ^ 53 : ℚ) ≤ side := by exact_mod_cast hle
      exact_mod_cast Binary64.le_of_toRat?_mul_one hside hlength
    have hround := le_roundEven hlarge
    unfold maxScaledSide at hn
    omega

theorem isScaledSide_of_scaledSize {width height : Nat} {scale : Binary64} {size : Nat × Nat}
    (h : scaledSize width height scale = .ok size) :
    (IsScaledSide width scale size.1 ∧ (size.1 : Int) ≤ maxScaledSide) ∧
      IsScaledSide height scale size.2 ∧ (size.2 : Int) ≤ maxScaledSide := by
  have hside {side : Nat} {length : Int} (h : scaledSide side scale = .ok length) :
      IsScaledSide side scale length.toNat ∧ (length.toNat : Int) = length := by
    unfold scaledSide at h
    split at h
    · rename_i q hq
      cases h
      have : 0 ≤ max 1 (roundEven q) := by omega
      exact ⟨⟨q, hq, by omega⟩, by omega⟩
    · cases h
  obtain ⟨scaledWidth, hwidth, h⟩ := bind_eq_ok.mp h
  obtain ⟨scaledHeight, hheight, h⟩ := bind_eq_ok.mp h
  obtain ⟨-, -, h⟩ := bind_eq_ok.mp h
  obtain ⟨-, -, h⟩ := bind_eq_ok.mp h
  split at h
  · cases h
  · rename_i hside'
    cases h
    obtain ⟨hwidth, hwidth'⟩ := hside hwidth
    obtain ⟨hheight, hheight'⟩ := hside hheight
    exact ⟨⟨hwidth, by dsimp only; omega⟩, hheight, by dsimp only; omega⟩

theorem checkCoordinate_of_le {n : Int} (hn : 0 ≤ n) (hn' : n ≤ maxScaledSide) :
    checkCoordinate n = .ok () := by
  unfold maxScaledSide at hn'
  unfold checkCoordinate maxWord maxCoordinate
  rw [if_neg (by omega), if_neg (by omega), if_neg (by omega)]

theorem scaledSize_one {width height : Nat} (hwidth : (width : Int) ≤ maxScaledSide)
    (hheight : (height : Int) ≤ maxScaledSide) :
    scaledSize width height (.ofRat 1) = .ok (max 1 width, max 1 height) := by
  have hside {side : Nat} (h : (side : Int) ≤ maxScaledSide) :
      scaledSide side (.ofRat 1) = .ok ((max 1 side : Nat) : Int) ∧
        ((max 1 side : Nat) : Int) ≤ maxScaledSide := by
    unfold maxScaledSide at h ⊢
    unfold scaledSide
    rw [Binary64.toRat?_natCast_mul_one (by omega)]
    dsimp only
    rw [roundEven_natCast]
    exact ⟨by rw [Nat.cast_max, Nat.cast_one], by omega⟩
  obtain ⟨hscaled, hle⟩ := hside hwidth
  obtain ⟨hscaled', hle'⟩ := hside hheight
  unfold scaledSize
  rw [hscaled, hscaled']
  simp only [bind, Except.bind, checkCoordinate_of_le (Int.natCast_nonneg _) hle,
    checkCoordinate_of_le (Int.natCast_nonneg _) hle']
  rw [if_neg (by omega)]
  rfl

theorem checkPlacement_origin {size : Nat × Nat} (hwidth : (size.1 : Int) ≤ maxScaledSide)
    (hheight : (size.2 : Int) ≤ maxScaledSide) : checkPlacement 0 0 size = .ok () := by
  have hzero : checkCoordinate 0 = .ok () := by decide
  unfold checkPlacement
  rw [hzero, zero_add, zero_add, checkCoordinate_of_le (Int.natCast_nonneg _) hwidth,
    checkCoordinate_of_le (Int.natCast_nonneg _) hheight]
  rfl

/-! ## Places -/

namespace Image
variable {i whole part : Image}

/-- The pixel at a place that may lie outside. -/
def at? (i : Image) (x y : Int) : Option Color :=
  if 0 ≤ x ∧ x < i.width ∧ 0 ≤ y ∧ y < i.height then some (i.pixel x.toNat y.toNat) else none

/-- The whole shows the part with its corner at a place: the pixels of the part where they come to
lie, and zero elsewhere. -/
def Shows (whole part : Image) (left upper : Int) : Prop :=
  ∀ x y : Nat, x < whole.width → y < whole.height →
    whole.pixel x y = (part.at? (x - left) (y - upper)).getD {}

theorem shows_paste (mode : ImageMode) (width height : Nat) (part : Image) (left upper : Int) :
    ((ofFn mode width height fun _ _ => {}).paste part left upper).Shows part left upper := by
  intro x y hx hy
  change (if x < width ∧ y < height then _ else _) = _
  rw [if_pos ⟨hx, hy⟩, at?]
  split
  · rfl
  · exact if_pos ⟨hx, hy⟩

/-- An image that shows another of its size in full is that image. -/
theorem Shows.eq_self (r : Scaling) {width height : Nat}
    (h : whole.Shows (r.scale i width height) 0 0) (hmode : whole.mode = i.mode)
    (hsize : whole.size = i.size) (hwidth : width = max 1 i.width)
    (hheight : height = max 1 i.height) : whole = i := by
  obtain ⟨hw, hh⟩ := Prod.mk.inj hsize
  refine ext_inside hmode hw hh fun x y hx hy => ?_
  have hx' : x < i.width := hw ▸ hx
  have hy' : y < i.height := hh ▸ hy
  -- a side without pixels is scaled to one, but then there is no place to look at
  obtain rfl : width = i.width := by omega
  obtain rfl : height = i.height := by omega
  rw [h x y hx hy, r.scale_self, at?, if_pos (by omega)]
  simp

theorem toRgba_of_rgba (h : i.mode = .rgba) : i.toRgba = i := by
  refine ext_inside h.symm rfl rfl fun x y hx hy => ?_
  change (if x < i.width ∧ y < i.height then _ else _) = _
  rw [if_pos ⟨hx, hy⟩, h]
  rfl

theorem mode_resize (i : Image) (width height : Nat) : (i.resize width height).mode = i.mode := by
  unfold resize
  split <;> rfl

end Image

/-! ## Moves -/

theorem Scaling.shows_moved (r : Scaling) (i : Image) (mode : ImageMode) (width height : Nat)
    (size : Nat × Nat) (left upper : Int) :
    (r.moved i mode width height size left upper).Shows (r.scale i size.1 size.2) left upper :=
  Image.shows_paste mode width height _ left upper

namespace RunState
variable {r : Scaling} {s s' : RunState} {x y scale : Binary64} {canvas : Canvas}

/-- Canvas and mask scaled to a size and put at a place. -/
def put (r : Scaling) (s : RunState) (canvas : Image) (size : Nat × Nat) (left upper : Int) :
    RunState :=
  let moved (image : Image) (mode : ImageMode) : Image :=
    r.moved image mode canvas.width canvas.height size left upper
  { s with
    canvas := some { image := moved canvas.toRgba .rgba }
    mask := s.mask.map (moved · .grey) }

theorem maskFits_put (r : Scaling) (s : RunState) (image : Image) (size : Nat × Nat)
    (left upper : Int) : (s.put r image size left upper).MaskFits := by
  intro mask after hmask hafter
  obtain ⟨before, -, rfl⟩ := Option.map_eq_some_iff.mp hmask
  cases hafter
  rfl

theorem moveScaleBy_eq_ok (h : s.moveScaleBy r x y scale = .ok s') :
    ∃ canvas size, s.canvas = some canvas ∧
      scaledSize canvas.image.width canvas.image.height scale = .ok size ∧
      s' = s.put r canvas.image size (wholePlace x) (wholePlace y) := by
  obtain ⟨image, himage, h⟩ := bind_eq_ok.mp h
  obtain ⟨canvas, hcanvas, rfl⟩ := Option.map_eq_some_iff.mp (canvasImage_of_requireCanvas himage)
  split at h
  · obtain ⟨size, hsize, h⟩ := bind_eq_ok.mp h
    obtain ⟨-, -, h⟩ := bind_eq_ok.mp h
    cases h
    exact ⟨canvas, size, hcanvas, mapError_eq_ok.mp hsize, rfl⟩
  · cases h

/-- The mask fits when it has been moved, so nothing is left to be fitted. -/
theorem movedBy_eq_moveScaleBy (r : Scaling) (s : RunState) (x y scale : Binary64) :
    s.movedBy r x y scale = s.moveScaleBy r x y scale := by
  unfold movedBy
  cases hmove : s.moveScaleBy r x y scale with
  | error failure => rfl
  | ok after =>
    obtain ⟨canvas, size, -, -, rfl⟩ := moveScaleBy_eq_ok hmove
    exact congrArg Except.ok ((maskFits_put r s _ _ _ _).fitMaskBy r)

theorem moveScaleBy_of_ok (r : Scaling) {size : Nat × Nat} (hcanvas : s.canvas = some canvas)
    (hpositive : Binary64.zero.lt scale = true)
    (hsize : scaledSize canvas.image.width canvas.image.height scale = .ok size)
    (hplace : checkPlacement (wholePlace x) (wholePlace y) size = .ok ()) :
    s.moveScaleBy r x y scale = .ok (s.put r canvas.image size (wholePlace x) (wholePlace y)) := by
  rw [moveScaleBy, requireCanvas, hcanvas]
  simp only [bind, Except.bind, hpositive, hsize, hplace, Except.mapError]
  rfl

theorem moveScaleBy_one (r : Scaling) (hcanvas : s.canvas = some canvas)
    (hwidth : (canvas.image.width : Int) ≤ maxScaledSide)
    (hheight : (canvas.image.height : Int) ≤ maxScaledSide) (hx : wholePlace x = 0)
    (hy : wholePlace y = 0) : ∃ s', s.moveScaleBy r x y (.ofRat 1) = .ok s' := by
  refine ⟨_, moveScaleBy_of_ok r hcanvas (by decide +kernel) (scaledSize_one hwidth hheight) ?_⟩
  rw [hx, hy]
  unfold maxScaledSide at hwidth hheight
  exact checkPlacement_origin (by unfold maxScaledSide; dsimp only; omega)
    (by unfold maxScaledSide; dsimp only; omega)

end RunState

/-! ## Masks are grey -/

namespace RunState
variable {s s' : RunState} {i : Instruction}

/-- The mask, if there is one, has grey levels. -/
def MaskIsGrey (s : RunState) : Prop := ∀ mask, s.mask = some mask → mask.mode = .grey

instance (s : RunState) : Decidable s.MaskIsGrey :=
  inferInstanceAs (Decidable (∀ mask, s.mask = some mask → mask.mode = .grey))

theorem MaskIsGrey.stretched {canvas : Option Canvas} (h : s.MaskIsGrey)
    (hmask : Stretched canvas s.mask s'.mask) : s'.MaskIsGrey := by
  intro mask hafter
  rw [hafter] at hmask
  generalize hbefore : s.mask = before at hmask
  cases hmask with
  | kept => exact h mask hbefore
  | stretched before => exact (Image.mode_resize ..).trans (h before hbefore)

theorem maskIsGrey_of_some {mask : Image} (hmask : s.mask = some mask) (h : mask.mode = .grey) :
    s.MaskIsGrey := by
  intro other hother
  rw [hmask] at hother
  exact Option.some.inj hother ▸ h

theorem MaskIsGrey.perform {w : Workflow} {directory : FilePath} {files : FileTree} {index : Nat}
    {message : String} (h : s.MaskIsGrey) (hi : i.isLocal = true)
    (hperform : s.perform w directory files index i = .ok (s', message)) : s'.MaskIsGrey := by
  obtain hmask | hkind := (performed_of_perform hi hperform).mask_eq
  · exact fun mask hafter => h mask (hmask ▸ hafter)
  · cases i with
    | maskClear =>
      cases hperform
      nofun
    | maskLoad | maskGet =>
      obtain ⟨image, -, hperform⟩ := bind_eq_ok.mp hperform
      cases hperform
      exact maskIsGrey_of_some rfl rfl
    | moveScale x y scale =>
      obtain ⟨after, hmove, hperform⟩ := bind_eq_ok.mp hperform
      cases hperform
      rw [← moveScaleBy_proportional] at hmove
      obtain ⟨canvas, size, -, -, rfl⟩ := moveScaleBy_eq_ok hmove
      intro mask hmask
      obtain ⟨before, -, rfl⟩ := Option.map_eq_some_iff.mp hmask
      rfl
    | crop =>
      obtain ⟨canvas, -, hcrop⟩ := bind_eq_ok.mp hperform
      split at hcrop
      · cases hcrop
      · cases hcrop
        intro mask hmask
        obtain ⟨before, hbefore, rfl⟩ := Option.map_eq_some_iff.mp hmask
        exact (Image.mode_resize ..).trans (h before hbefore)
    | maskBackground | maskForeground | maskBody | maskAsk => cases hi
    | _ => simp [Instruction.kind, Kind.replacingMask] at hkind

end RunState

namespace Engine
variable {σ : Type} (e : Engine σ) (w : Workflow) (scene : Scene σ) (index : Nat)

theorem applyTool_maskIsGrey (h : scene.state.MaskIsGrey) (i : Instruction) (target : ToolTarget) :
    (e.applyTool scene i target).1.state.MaskIsGrey := by
  unfold applyTool
  split
  · exact h
  · dsimp only
    split
    · exact h
    · split
      · exact h
      · rename_i hreceive
        unfold receive at hreceive
        split at hreceive <;> cases hreceive
        · exact h
        · exact RunState.maskIsGrey_of_some rfl rfl
        · exact h
        · exact h

/-- An instruction leaves a grey mask grey, and makes no others. -/
theorem conduct_maskIsGrey (h : scene.state.MaskIsGrey) (i : Instruction) :
    (e.conduct w scene index i).1.state.MaskIsGrey := by
  obtain hmask | hkind := e.conduct_mask w scene index i
  · exact h.stretched hmask
  obtain hlocal | ⟨target, htarget⟩ | rfl | ⟨name, rfl⟩ | ⟨stem, rfl⟩ := i.carrier_cases
  · rw [conduct_of_isLocal e w scene index hlocal]
    split
    · rename_i hperform
      exact h.perform hlocal hperform
    · exact h
  · rw [conduct_of_tool e w scene index htarget]
    exact e.applyTool_maskIsGrey scene h i target
  all_goals
    simp [Instruction.kind, Kind.replacingMask] at hkind

theorem visit_maskIsGrey (h : scene.state.MaskIsGrey) (i : Instruction) :
    (e.visit w scene index i).1.state.MaskIsGrey := by
  by_cases hi : i.kind.support = .unsupported
  · rw [visit, if_pos hi]
    exact h
  · have hconduct := e.conduct_maskIsGrey w (atVisit index scene) index h i
    rw [visit_of_not_unsupported e w scene index hi]
    generalize e.conduct w (atVisit index scene) index i = result at hconduct ⊢
    obtain ⟨after, answer⟩ := result
    cases answer with
    | error failure => exact hconduct
    | ok message => exact hconduct.stretched after.state.stretched_fitMask

end Engine

/-- All masks of a run are grey. -/
theorem Run.Reached.maskIsGrey {σ : Type} {e : Engine σ} {w : Workflow} {r : Run σ}
    (h : Run.Reached e w r) : r.scene.state.MaskIsGrey := by
  refine h.keeps (P := (·.scene.state.MaskIsGrey)) (fun _ _ _ _ => nofun) fun r i hr _ => ?_
  rw [visited_scene]
  exact e.visit_maskIsGrey w r.scene _ hr i

/-! ## Visits of a move -/

/-- At scale one and no offset, canvas and mask stay as they are. -/
theorem RunState.put_self {s : RunState} {canvas : Canvas} (r : Scaling)
    (hcanvas : s.canvas = some canvas) (hfits : s.MaskFits) (hgrey : s.MaskIsGrey) :
    s.put r canvas.image (max 1 canvas.image.width, max 1 canvas.image.height) 0 0 =
      { s with canvas := some { image := canvas.image.toRgba } } := by
  have hself (image : Image) (mode : ImageMode) (hmode : image.mode = mode)
      (hsize : image.size = canvas.image.size) :
      r.moved image mode canvas.image.width canvas.image.height
        (max 1 canvas.image.width, max 1 canvas.image.height) 0 0 = image := by
    obtain ⟨hwidth, hheight⟩ := Prod.mk.inj hsize
    exact Image.Shows.eq_self r (r.shows_moved image mode _ _ _ 0 0) hmode.symm hsize.symm
      (by rw [hwidth]) (by rw [hheight])
  have hmask : s.mask.map (fun image => r.moved image .grey canvas.image.width canvas.image.height
      (max 1 canvas.image.width, max 1 canvas.image.height) 0 0) = s.mask := by
    cases hm : s.mask with
    | none => rfl
    | some mask =>
      exact congrArg some (hself mask .grey (hgrey mask hm) (hfits mask canvas hm hcanvas))
  unfold put
  simp only [hmask, hself canvas.image.toRgba .rgba rfl rfl]

namespace Engine
variable {σ : Type} (e : Engine σ) (w : Workflow) (scene : Scene σ) (index : Nat)

theorem visit_moveScale (x y scale : Binary64) : e.visit w scene index (.moveScale x y scale) =
    match (atVisit index scene).state.movedBy .proportional x y scale with
    | .ok state => ({ atVisit index scene with state },
        .done s!"Moved to ({x.text}, {y.text}) at scale {scale.text}")
    | .error failure => (atVisit index scene, .failed failure) := by
  have hsupport : (Instruction.moveScale x y scale).kind.support ≠ .unsupported := by
    simp [Instruction.kind, Kind.support]
  rw [visit_of_isLocal e w scene index rfl hsupport, RunState.movedBy,
    RunState.moveScaleBy_proportional, RunState.fitMaskBy_proportional]
  simp only [RunState.perform]
  cases (atVisit index scene).state.moveScale x y scale <;> rfl

theorem breaks_moveScale (x y scale : Binary64) :
    e.breaks w scene index (.moveScale x y scale) = false := by
  refine e.breaks_of_isLocal w scene index rfl fun s message hperform => ?_
  obtain ⟨after, hmove, hperform⟩ := bind_eq_ok.mp hperform
  cases hperform
  rw [← RunState.moveScaleBy_proportional] at hmove
  obtain ⟨canvas, size, -, -, rfl⟩ := RunState.moveScaleBy_eq_ok hmove
  exact RunState.maskFits_put _ _ _ _ _ _

/-- What a visit of a move does, for any way of scaling.  A move that succeeds makes the canvas an
image with opacity, of the size it had, that shows the scaled canvas at the rounded place and is
empty elsewhere; and the mask one of the same size that shows the scaled mask at the same place.
At scale one and no offset both stay as they are. -/
theorem moved_alike (x y scale : Binary64) :
    e.visit w scene index (.moveScale x y scale) =
      (match (atVisit index scene).state.movedBy .proportional x y scale with
      | .ok state => ({ atVisit index scene with state },
          .done s!"Moved to ({x.text}, {y.text}) at scale {scale.text}")
      | .error failure => (atVisit index scene, .failed failure)) ∧
    e.breaks w scene index (.moveScale x y scale) = false ∧
    ∀ (r : Scaling) (s : RunState),
      (∀ s', s.movedBy r x y scale = .ok s' →
        ∃ (canvas : Canvas) (width height : Nat) (moved : Image) (mask : Option Image),
          s.canvas = some canvas ∧
          IsScaledSide canvas.image.width scale width ∧ 1 ≤ width ∧
          IsScaledSide canvas.image.height scale height ∧ 1 ≤ height ∧
          s' = { s with canvas := some { image := moved }, mask } ∧
          moved.mode = .rgba ∧ moved.size = canvas.image.size ∧
          moved.Shows (r.scale canvas.image.toRgba width height) (wholePlace x) (wholePlace y) ∧
          (s.mask = none → mask = none) ∧
          ∀ before, s.mask = some before → ∃ after, mask = some after ∧
            after.mode = .grey ∧ after.size = canvas.image.size ∧
            after.Shows (r.scale before width height) (wholePlace x) (wholePlace y)) ∧
      (scale = .ofRat 1 → wholePlace x = 0 → wholePlace y = 0 → s.MaskFits → s.MaskIsGrey →
        ∀ canvas, s.canvas = some canvas →
          (canvas.image.mode = .rgba → canvas.image.toRgba = canvas.image) ∧
          (∀ s', s.movedBy r x y scale = .ok s' →
            s' = { s with canvas := some { image := canvas.image.toRgba } }) ∧
          ((canvas.image.width : Int) ≤ maxScaledSide →
            (canvas.image.height : Int) ≤ maxScaledSide →
              ∃ s', s.movedBy r x y scale = .ok s')) := by
  refine ⟨e.visit_moveScale w scene index x y scale, e.breaks_moveScale w scene index x y scale,
    fun r s => ?_⟩
  simp only [RunState.movedBy_eq_moveScaleBy]
  refine ⟨fun s' hmoved => ?_, ?_⟩
  · obtain ⟨canvas, size, hcanvas, hsize, rfl⟩ := RunState.moveScaleBy_eq_ok hmoved
    obtain ⟨⟨hwidth, -⟩, hheight, -⟩ := isScaledSide_of_scaledSize hsize
    refine ⟨canvas, size.1, size.2, _, _, hcanvas, hwidth, hwidth.pos, hheight, hheight.pos, rfl,
      rfl, rfl, r.shows_moved canvas.image.toRgba .rgba _ _ size _ _, fun hnone => ?_,
      fun before hbefore => ?_⟩
    · rw [hnone, Option.map_none]
    · rw [hbefore, Option.map_some]
      exact ⟨_, rfl, rfl, rfl, r.shows_moved before .grey _ _ size _ _⟩
  · rintro rfl hx hy hfits hgrey canvas hcanvas
    refine ⟨Image.toRgba_of_rgba, fun s' hmoved => ?_, fun hwidth hheight =>
      RunState.moveScaleBy_one r hcanvas hwidth hheight hx hy⟩
    obtain ⟨canvas', size, hcanvas', hsize, rfl⟩ := RunState.moveScaleBy_eq_ok hmoved
    obtain rfl := Option.some.inj (hcanvas.symm.trans hcanvas')
    obtain ⟨⟨hwidth, hwidth'⟩, hheight, hheight'⟩ := isScaledSide_of_scaledSize hsize
    have hone : size = (max 1 canvas.image.width, max 1 canvas.image.height) :=
      Prod.ext (hwidth.eq_of_one hwidth') (hheight.eq_of_one hheight')
    rw [hone, hx, hy]
    exact RunState.put_self r hcanvas hfits hgrey

/-- A picture and its mask are enlarged and put one to the left and one below; or they are moved
by nothing. -/
theorem moved_alike_enlarged :
    let e := Run.rehearsalEngine {}
    let picture := Image.ofFn .rgb 2 2 fun x y => { c0 := UInt8.ofNat (10 * x + y) }
    let mask := Image.ofFn .grey 2 2 fun x y => { c0 := UInt8.ofNat (100 + 10 * x + y) }
    let state : RunState :=
      { canvas := some { image := picture, origin := some 0 }, mask := some mask }
    let scene : Scene Rehearsal := { state, files := ⟨[]⟩, memory := {} }
    (∃ (moved after : Image) (message : String),
      e.visit [] scene 5 (.moveScale (.ofRat (-1)) (.ofRat 1) (.ofRat 2)) =
        ({ atVisit 5 scene with
            state := { state with
              canvas := some { image := moved }, mask := some after, counter := 6 } },
          .done message) ∧
      moved.size = (2, 2) ∧ moved.pixel 1 1 = { c0 := 10, c3 := 255 } ∧ moved.pixel 0 0 = {} ∧
      after.size = (2, 2) ∧ after.pixel 1 1 = { c0 := 110 } ∧ after.pixel 0 0 = {}) ∧
    state.movedBy .proportional .zero .zero (.ofRat 1) =
      .ok { state with canvas := some { image := picture.toRgba } } := by
  intro e picture mask state scene
  obtain ⟨hvisit, -, hall⟩ := e.moved_alike [] scene 5 (.ofRat (-1)) (.ofRat 1) (.ofRat 2)
  obtain ⟨-, -, hall'⟩ := e.moved_alike [] scene 5 .zero .zero (.ofRat 1)
  constructor
  · have hsize : scaledSize 2 2 (.ofRat 2) = .ok (4, 4) := by decide +kernel
    have hplace : checkPlacement (wholePlace (.ofRat (-1))) (wholePlace (.ofRat 1)) (4, 4) =
        .ok () := by
      decide +kernel
    have hok := RunState.moveScaleBy_of_ok (s := (atVisit 5 scene).state) .proportional rfl
      (by decide +kernel) hsize hplace
    rw [← RunState.movedBy_eq_moveScaleBy] at hok
    obtain ⟨canvas, width, height, moved, _, hcanvas, hwidth, -, hheight, -, hafter, -, hsame,
      hshows, -, hmask⟩ := (hall .proportional (atVisit 5 scene).state).1 _ hok
    obtain ⟨after, rfl, -, hsame', hshows'⟩ := hmask mask rfl
    cases hcanvas
    obtain ⟨⟨hwidth', -⟩, hheight', -⟩ := isScaledSide_of_scaledSize hsize
    obtain rfl := hwidth.unique hwidth'
    obtain rfl := hheight.unique hheight'
    rw [hok, hafter] at hvisit
    obtain ⟨hw, hh⟩ := Prod.mk.inj hsame
    obtain ⟨hw', hh'⟩ := Prod.mk.inj hsame'
    refine ⟨moved, after, _, hvisit, hsame, ?_, ?_, hsame', ?_, ?_⟩
    · rw [hshows 1 1 (hw ▸ by decide) (hh ▸ by decide)]
      decide +kernel
    · rw [hshows 0 0 (hw ▸ by decide) (hh ▸ by decide)]
      decide +kernel
    · rw [hshows' 1 1 (hw' ▸ by decide) (hh' ▸ by decide)]
      decide +kernel
    · rw [hshows' 0 0 (hw' ▸ by decide) (hh' ▸ by decide)]
      decide +kernel
  · obtain ⟨-, hone⟩ := hall' .proportional state
    obtain ⟨-, hunchanged, hexists⟩ :=
      hone rfl (by decide +kernel) (by decide +kernel) (by decide) (by decide) _ rfl
    obtain ⟨s', hok⟩ := hexists (by decide) (by decide)
    rw [hok, hunchanged s' hok]

end Engine

end ImageWorkflow
