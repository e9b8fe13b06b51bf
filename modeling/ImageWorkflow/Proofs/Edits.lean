import Mathlib
import ImageWorkflow.Proofs.Effects

/-!
# Edits of the canvas

Some instructions replace the image on the canvas by one that is made of it.
* `Instruction.isEdit` : which do; `Instruction.Edits` : what each of them makes of the image;
* `Engine.visit_of_isEdit` : a visit of such an instruction that succeeds makes just that of the
  canvas.
-/

namespace ImageWorkflow

namespace Instruction

/-- The instructions that make the canvas a changed image of it. -/
def isEdit : Instruction → Bool
  | .moveScale .. | .adaptSize .. | .crop | .removeBackground | .faceZoom | .askZoom _ => true
  | _ => false

/-- The instruction makes `after` of an image: it scales and moves it, shrinks it into bounds, cuts
it to what is visible, or has a tool work on it. -/
def Edits (tool : ToolCall → Except CallFailure ToolResult) (before after : Image) :
    Instruction → Prop
  | .moveScale x y scale => ∃ size, scaledSize before.width before.height scale = .ok size ∧
      after = before.toRgba.moved .rgba before.width before.height size (wholePlace x) (wholePlace y)
  | .adaptSize maxWidth maxHeight => before.fitWithin? maxWidth.toNat maxHeight.toNat = some after
  | .crop => ∃ box, before.visibleBox? = some box ∧ after = before.crop box
  | i => Engine.toolTarget? i.kind = some .canvas ∧ ∃ answer,
      tool { tool := i.kind, image := before, parameters := Engine.toolParameters i } = .ok answer ∧
        answer.image = some after

theorem edits_tool {tool : ToolCall → Except CallFailure ToolResult} {before after : Image}
    {i : Instruction} {answer : ToolResult} (hi : Engine.toolTarget? i.kind = some .canvas)
    (hanswer : tool { tool := i.kind, image := before, parameters := Engine.toolParameters i } =
      .ok answer) (hafter : answer.image = some after) : i.Edits tool before after := by
  cases i with
  | removeBackground | faceZoom | askZoom => exact ⟨hi, answer, hanswer, hafter⟩
  | _ => cases hi

/-- An edit is carried out by the state itself or by a tool for the canvas. -/
theorem carrier_of_isEdit {i : Instruction} (hi : i.isEdit = true) :
    i.isLocal = true ∨ Engine.toolTarget? i.kind = some .canvas := by
  cases i <;> first | exact .inl rfl | exact .inr rfl | cases hi

end Instruction

namespace RunState
variable {s s' : RunState} {i : Instruction} {tool : ToolCall → Except CallFailure ToolResult}

theorem canvasImage_of_requireCanvas {kind : Kind} {image : Image}
    (h : s.requireCanvas kind = .ok image) : s.canvasImage = some image := by
  unfold requireCanvas at h
  split at h
  · rename_i canvas hcanvas
    cases h
    rw [canvasImage, hcanvas, Option.map_some]
  · cases h

theorem isSome_of_canvasImage {image : Image} (h : s.canvasImage = some image) :
    s.canvas.isSome = true := by
  rw [canvasImage] at h
  rw [← Option.isSome_map, h, Option.isSome_some]

theorem edits_of_moveScale {x y scale : Binary64} (h : s.moveScale x y scale = .ok s') :
    ∃ before after, s.canvasImage = some before ∧ s'.canvasImage = some after ∧
      (Instruction.moveScale x y scale).Edits tool before after := by
  obtain ⟨before, hbefore, h⟩ := bind_eq_ok.mp h
  split at h
  · obtain ⟨size, hsize, h⟩ := bind_eq_ok.mp h
    obtain ⟨-, -, h⟩ := bind_eq_ok.mp h
    cases h
    exact ⟨before, _, canvasImage_of_requireCanvas hbefore, rfl, size, mapError_eq_ok.mp hsize, rfl⟩
  · cases h

theorem edits_of_adaptSize {maxWidth maxHeight : Int} {message : String}
    (h : s.adaptSize maxWidth maxHeight = .ok (s', message)) :
    ∃ before after, s.canvasImage = some before ∧ s'.canvasImage = some after ∧
      (Instruction.adaptSize maxWidth maxHeight).Edits tool before after := by
  obtain ⟨before, hbefore, h⟩ := bind_eq_ok.mp h
  split at h
  · cases h
  · dsimp only at h
    split at h
    · rename_i after hafter
      cases h
      exact ⟨before, after, canvasImage_of_requireCanvas hbefore, rfl, hafter⟩
    · cases h

theorem edits_of_crop {message : String} (h : s.crop = .ok (s', message)) :
    ∃ before after, s.canvasImage = some before ∧ s'.canvasImage = some after ∧
      Instruction.crop.Edits tool before after := by
  obtain ⟨before, hbefore, h⟩ := bind_eq_ok.mp h
  split at h
  · cases h
  · rename_i box hbox
    cases h
    exact ⟨before, _, canvasImage_of_requireCanvas hbefore, rfl, box, hbox, rfl⟩

theorem edits_of_perform {w : Workflow} {directory : FilePath} {files : FileTree} {index : Nat}
    {message : String} (hi : i.isEdit = true) (hlocal : i.isLocal = true)
    (h : s.perform w directory files index i = .ok (s', message)) :
    ∃ before after, s.canvasImage = some before ∧ s'.canvasImage = some after ∧
      i.Edits tool before after := by
  cases i with
  | moveScale x y scale =>
    obtain ⟨t, ht, h⟩ := bind_eq_ok.mp h
    cases h
    exact edits_of_moveScale ht
  | adaptSize maxWidth maxHeight => exact edits_of_adaptSize h
  | crop => exact edits_of_crop h
  | removeBackground | faceZoom | askZoom => cases hlocal
  | _ => cases hi

end RunState

namespace Engine
variable {σ : Type} (e : Engine σ) (w : Workflow) (scene : Scene σ) (index : Nat)

/-- What a tool answers in a scene. -/
def toolAnswer (call : ToolCall) : Except CallFailure ToolResult :=
  (e.provider.applyTool scene.memory call).1.result

theorem edits_of_applyTool {i : Instruction} {message : String}
    (hi : toolTarget? i.kind = some .canvas)
    (h : (e.applyTool scene i .canvas).2 = .ok message) :
    ∃ before after, scene.state.canvasImage = some before ∧
      (e.applyTool scene i .canvas).1.state.canvasImage = some after ∧
      i.Edits (e.toolAnswer scene) before after := by
  unfold applyTool at h ⊢
  split at h
  · cases h
  rename_i before hbefore
  dsimp only at h ⊢
  split at h
  · cases h
  rename_i answer hanswer
  cases himage : answer.image with
  | none =>
    simp only [receive, himage] at h
    cases h
  | some after =>
    refine ⟨before, after, RunState.canvasImage_of_requireCanvas hbefore, ?_,
      Instruction.edits_tool hi hanswer himage⟩
    simp only [receive, himage]
    rfl

theorem edits_of_conduct {i : Instruction} {message : String} (hi : i.isEdit = true)
    (h : (e.conduct w scene index i).2 = .ok message) :
    ∃ before after, scene.state.canvasImage = some before ∧
      (e.conduct w scene index i).1.state.canvasImage = some after ∧
      i.Edits (e.toolAnswer scene) before after := by
  obtain hlocal | htool := Instruction.carrier_of_isEdit hi
  · rw [conduct_of_isLocal e w scene index hlocal] at h ⊢
    split at h
    · rename_i hperform
      exact RunState.edits_of_perform hi hlocal hperform
    · cases h
  · rw [conduct_of_tool e w scene index htool] at h ⊢
    exact edits_of_applyTool e scene htool h

/-- What the visit of an edit makes of the canvas when it succeeds. -/
theorem visit_of_isEdit {i : Instruction} (hi : i.isEdit = true)
    (h : (e.visit w scene index i).2.isDone = true) :
    ∃ before after, scene.state.canvasImage = some before ∧
      (e.visit w scene index i).1.state.canvasImage = some after ∧
      i.Edits (e.toolAnswer scene) before after := by
  obtain ⟨message, mask, hconduct, hvisit⟩ := e.visit_of_isDone w scene index h
  rw [hvisit]
  exact edits_of_conduct e w _ _ hi hconduct

end Engine

end ImageWorkflow
