import Mathlib
import ImageWorkflow.Proofs.CallRecords
import ImageWorkflow.Proofs.Containment

/-!
# What each kind of instruction may change

The footprint of every instruction, whatever state it finds and whatever comes of its visit.
* `Layer` : the parts of a state, the mask apart; `Layer.kinds` : the kinds of instructions that may
  change one; `Layer.Same` : it is as it was;
* `RunState.Conducted.same` : an instruction of another kind leaves a layer as it was;
* `RunState.Stretched` : a mask as it was, or stretched to a canvas; `Engine.conduct_mask` : only some
  kinds do more to the mask;
* `Engine.visit_images_eq` : only some kinds add images;
* `Engine.visit_footprint` : the whole table, for a visit.
-/

namespace ImageWorkflow

/-! ## Layers -/

/-- The parts of a state, the mask apart. -/
inductive Layer where
  | prompt | negativePrompt | settings | inpainting | moodboard | depth | pose | loops | counter
  | fresh | canvas
  deriving DecidableEq, Repr

namespace Layer

/-- The kinds of instructions that may change a layer. -/
def kinds : Layer → List Kind
  | prompt => [.prompt]
  | negativePrompt => [.negativePrompt]
  | settings => [.config, .frames, .adaptSize, .inpaintTools]
  | inpainting => [.inpaintTools]
  | moodboard => [.moodboardClear, .moodboardCanvas, .moodboardAdd, .moodboardRemove,
      .moodboardWeights, .loopAddMoodboard]
  | depth => [.depthExtract, .depthCanvas]
  | pose => [.poseExtract, .poseJson]
  | loops => [.loop, .loopEnd]
  | counter => [.loop, .loopEnd, .stop]
  | fresh => [.generate, .canvasSave, .loopSave, .canvasLoad, .loopLoad, .loopEnd]
  | canvas => [.canvasClear, .canvasLoad, .moveScale, .adaptSize, .crop, .depthToCanvas, .loopLoad,
      .removeBackground, .faceZoom, .askZoom, .generate, .canvasSave, .loopSave]

/-- A layer is the same in both states. -/
def Same (s s' : RunState) : Layer → Prop
  | prompt => s'.prompt = s.prompt
  | negativePrompt => s'.negativePrompt = s.negativePrompt
  | settings => s'.settings = s.settings
  | inpainting => s'.inpainting = s.inpainting
  | moodboard => s'.moodboard = s.moodboard
  | depth => s'.depth = s.depth
  | pose => s'.pose = s.pose
  | loops => s'.loops = s.loops
  | counter => s'.counter = s.counter
  | fresh => s'.fresh = s.fresh
  | canvas => s'.canvas = s.canvas

/-- The mask is no layer. -/
theorem same_mask {s s' : RunState} {mask : Option Image} (layer : Layer) :
    layer.Same s { s' with mask } ↔ layer.Same s s' := by
  cases layer <;> exact Iff.rfl

end Layer

/-- The kinds of instructions that may replace the mask. -/
def Kind.replacingMask : List Kind :=
  [.maskClear, .maskLoad, .maskGet, .maskBackground, .maskForeground, .maskBody, .maskAsk,
    .moveScale, .crop]

namespace Instruction
variable {i : Instruction}

theorem kind_of_isLoad (hi : i.isLoad = true) : i.kind ∈ [Kind.canvasLoad, .loopLoad] := by
  cases i with
  | canvasLoad | loopLoad => simp [kind]
  | _ => cases hi

theorem kind_of_isSave (hi : i.isSave = true) : i.kind ∈ [Kind.canvasSave, .loopSave] := by
  cases i with
  | canvasSave | loopSave => simp [kind]
  | _ => cases hi

theorem kind_of_isTrigger (hi : i.isTrigger = true) :
    i.kind ∈ [Kind.generate, .canvasSave, .loopSave] := by
  cases i with
  | generate | canvasSave | loopSave => simp [kind]
  | _ => cases hi

theorem kind_of_isMoodboard (hi : i.isMoodboard = true) : i.kind ∈ Layer.moodboard.kinds := by
  cases i with
  | moodboardClear | moodboardCanvas | moodboardAdd | moodboardRemove | moodboardWeights
  | loopAddMoodboard => simp [kind, Layer.kinds]
  | _ => cases hi

theorem kind_of_isMask (hi : i.isMask = true) : i.kind ∈ Kind.replacingMask := by
  cases i with
  | maskClear | maskLoad | maskGet => simp [kind, Kind.replacingMask]
  | _ => cases hi

theorem kind_of_savedName {frame? : Option LoopFrame} {name : String}
    (h : i.savedName? frame? = some name) : i.kind ∈ [Kind.canvasSave, .loopSave] := by
  cases i with
  | canvasSave | loopSave => simp [kind]
  | _ => cases h

end Instruction

/-- The kinds of the tools that work for a layer. -/
theorem Engine.kind_of_toolTarget {kind : Kind} {target : ToolTarget}
    (h : toolTarget? kind = some target) : match target with
      | .mask => kind ∈ Kind.replacingMask
      | .depth => kind = .depthExtract
      | .pose => kind = .poseExtract
      | .canvas => kind ∈ [Kind.removeBackground, .faceZoom, .askZoom] := by
  cases kind <;> cases h <;> simp [Kind.replacingMask]

namespace RunState
variable {s s' : RunState} {i : Instruction} {done : Bool}

theorem Performed.same (h : Performed s i s') (layer : Layer) :
    layer.Same s s' ∨ i.kind ∈ layer.kinds := by
  cases h with
  | load image hi =>
    have hloads : [Kind.canvasLoad, .loopLoad] ⊆ Layer.canvas.kinds ∩ Layer.fresh.kinds := by decide
    have hkind := List.mem_inter_iff.mp (hloads (Instruction.kind_of_isLoad hi))
    cases layer with
    | canvas => exact .inr hkind.1
    | fresh => exact .inr hkind.2
    | _ => exact .inl rfl
  | moodboard moodboard hi =>
    cases layer with
    | moodboard => exact .inr (Instruction.kind_of_isMoodboard hi)
    | _ => exact .inl rfl
  | _ =>
    cases layer <;> first | exact .inl rfl | exact .inr (by simp [Instruction.kind, Layer.kinds])

/-- An instruction leaves a layer as it was, unless it is of a kind that may change it. -/
theorem Conducted.same (h : Conducted s i done s') (layer : Layer) :
    layer.Same s s' ∨ i.kind ∈ layer.kinds := by
  have hsaves : ∀ {kind : Kind}, kind ∈ [Kind.canvasSave, .loopSave] →
      kind ∈ Layer.canvas.kinds ∧ kind ∈ Layer.fresh.kinds := by decide
  cases h with
  | failed | toolMask | kept => cases layer <;> exact .inl rfl
  | performed _ hperformed => exact hperformed.same layer
  | toolDepth image htarget =>
    cases layer with
    | depth => exact .inr (by simp [Engine.kind_of_toolTarget htarget, Layer.kinds])
    | _ => exact .inl rfl
  | toolPose data htarget =>
    cases layer with
    | pose => exact .inr (by simp [Engine.kind_of_toolTarget htarget, Layer.kinds])
    | _ => exact .inl rfl
  | toolCanvas image htarget =>
    cases layer with
    | canvas =>
      have htools : [Kind.removeBackground, .faceZoom, .askZoom] ⊆ Layer.canvas.kinds := by decide
      exact .inr (htools (Engine.kind_of_toolTarget htarget))
    | _ => exact .inl rfl
  | generated canvas mask =>
    cases layer with
    | canvas | fresh => exact .inr (by decide)
    | _ => exact .inl rfl
  | taken hi =>
    cases layer with
    | fresh => exact .inr (hsaves (Instruction.kind_of_isSave hi)).2
    | _ => exact .inl rfl
  | rendered canvas mask hi =>
    cases layer with
    | canvas => exact .inr (hsaves (Instruction.kind_of_isSave hi)).1
    | _ => exact .inl rfl

/-! ## The mask -/

/-- A mask as it was, or stretched to a canvas. -/
inductive Stretched (canvas : Option Canvas) : Option Image → Option Image → Prop
  | kept (mask : Option Image) : Stretched canvas mask mask
  | stretched {onto : Canvas} (mask : Image) : canvas = some onto →
      Stretched canvas (some mask) (some (mask.resize onto.image.width onto.image.height))

theorem stretched_fitMask (s : RunState) : Stretched s.canvas s.mask s.fitMask.mask := by
  unfold fitMask
  split
  · rename_i mask canvas hmask hcanvas
    split
    · exact .kept _
    · rw [hmask]
      exact .stretched mask hcanvas
  · exact .kept _

theorem Performed.mask_eq (h : Performed s i s') :
    s'.mask = s.mask ∨ i.kind ∈ Kind.replacingMask := by
  cases h with
  | moveScale | crop => exact .inr (by simp [Instruction.kind, Kind.replacingMask])
  | mask mask hi => exact .inr (Instruction.kind_of_isMask hi)
  | _ => exact .inl rfl

end RunState

namespace Engine
open RunState
variable {σ : Type} (e : Engine σ) (w : Workflow) (scene : Scene σ) (index : Nat)

theorem render_mask :
    Stretched scene.state.canvas scene.state.mask (e.render scene index).1.state.mask := by
  unfold render
  split
  · split
    · dsimp only
      split <;> exact scene.state.stretched_fitMask
    · exact .kept _
  · exact .kept _

theorem settleSave_mask :
    Stretched scene.state.canvas scene.state.mask (e.settleSave scene index).1.state.mask := by
  have hrender := e.render_mask scene index
  unfold settleSave
  split
  · exact .kept _
  · split
    · generalize e.render scene index = answer at hrender ⊢
      obtain ⟨after, answer⟩ := answer
      cases answer <;> exact hrender
    · split <;> exact .kept _

theorem applyTool_mask (i : Instruction) {target : ToolTarget} (htarget : target ≠ .mask) :
    (e.applyTool scene i target).1.state.mask = scene.state.mask := by
  unfold applyTool
  split
  · rfl
  · dsimp only
    split
    · rfl
    · split
      · rfl
      · rename_i hreceive
        unfold receive at hreceive
        split at hreceive
        · cases hreceive
          rfl
        · cases hreceive
        · exact absurd rfl htarget
        · cases hreceive
          rfl
        · cases hreceive
          rfl

/-- Before the visit ends, an instruction that does not replace the mask may have stretched it to
the canvas that it found. -/
theorem conduct_mask (i : Instruction) :
    Stretched scene.state.canvas scene.state.mask (e.conduct w scene index i).1.state.mask ∨
      i.kind ∈ Kind.replacingMask := by
  obtain hlocal | ⟨target, htarget⟩ | rfl | ⟨name, rfl⟩ | ⟨stem, rfl⟩ := i.carrier_cases
  · rw [conduct_of_isLocal e w scene index hlocal]
    split
    · rename_i hperform
      refine (performed_of_perform hlocal hperform).mask_eq.imp_left fun hmask => ?_
      rw [← hmask]
      exact .kept _
    · exact .inl (.kept _)
  · rw [conduct_of_tool e w scene index htarget]
    have hkind := kind_of_toolTarget htarget
    cases target with
    | mask => exact .inr hkind
    | depth | pose | canvas =>
      rw [e.applyTool_mask scene i (by decide)]
      exact .inl (.kept _)
  · have hrender := e.render_mask scene index
    rw [conduct_generate]
    generalize e.render scene index = answer at hrender ⊢
    obtain ⟨after, answer⟩ := answer
    cases answer <;> exact .inl hrender
  · change Stretched _ _ (e.renderAndSave scene index name).1.state.mask ∨ _
    rw [renderAndSave_state]
    exact .inl (e.settleSave_mask scene index)
  · rw [conduct_loopSave]
    split
    · rw [renderAndSave_state]
      exact .inl (e.settleSave_mask scene index)
    · exact .inl (.kept _)

/-! ## Images and calls -/

theorem conduct_images_eq (i : Instruction) :
    (e.conduct w scene index i).1.images = scene.images ∨
      i.kind ∈ [Kind.generate, .canvasSave, .loopSave] := by
  obtain hlocal | ⟨target, htarget⟩ | rfl | ⟨name, rfl⟩ | ⟨stem, rfl⟩ := i.carrier_cases
  · rw [conduct_of_isLocal e w scene index hlocal]
    split <;> exact .inl rfl
  · rw [conduct_of_tool e w scene index htarget]
    exact .inl (e.applyTool_images scene i target)
  all_goals
    exact .inr (by simp [Instruction.kind])

theorem kind_of_generate_mem_asked {i : Instruction} {call : GenerateCall}
    (h : .generate call ∈ e.asked w scene index i) :
    i.kind ∈ [Kind.generate, .canvasSave, .loopSave] := by
  rcases e.mem_asked w scene index h with ⟨hi, -, -⟩ | ⟨canvas, -, htool⟩
  · exact Instruction.kind_of_isTrigger hi
  · cases htool

/-! ## Visits -/

theorem visit_mask (i : Instruction) :
    (∃ mask, Stretched scene.state.canvas scene.state.mask mask ∧
        Stretched (e.visit w scene index i).1.state.canvas mask
          (e.visit w scene index i).1.state.mask) ∨ i.kind ∈ Kind.replacingMask := by
  by_cases hi : i.kind.support = .unsupported
  · rw [visit, if_pos hi]
    exact .inl ⟨_, .kept _, .kept _⟩
  · have hconduct := e.conduct_mask w (atVisit index scene) index i
    rw [visit_of_not_unsupported e w scene index hi]
    generalize e.conduct w (atVisit index scene) index i = result at hconduct ⊢
    obtain ⟨after, answer⟩ := result
    refine hconduct.imp_left fun hmask => ⟨_, hmask, ?_⟩
    cases answer with
    | error failure => exact .kept _
    | ok message =>
      obtain ⟨mask, hfit⟩ := after.state.fitMask_eq
      have hcanvas : after.state.fitMask.canvas = after.state.canvas := by rw [hfit]
      dsimp only
      rw [hcanvas]
      exact after.state.stretched_fitMask

theorem visit_images_eq (i : Instruction) :
    (e.visit w scene index i).1.images = scene.images ∨
      i.kind ∈ [Kind.generate, .canvasSave, .loopSave] := by
  by_cases hi : i.kind.support = .unsupported
  · rw [visit, if_pos hi]
    exact .inl rfl
  · have hconduct := e.conduct_images_eq w (atVisit index scene) index i
    rw [visit_of_not_unsupported e w scene index hi]
    generalize e.conduct w (atVisit index scene) index i = result at hconduct ⊢
    obtain ⟨after, answer⟩ := result
    cases answer <;> exact hconduct

/-- What a visit may change, by the kind of the instruction, whatever comes of it.  Beside the kinds
that replace the mask, a visit may stretch it, to the canvas that it finds and to the one that it
leaves. -/
theorem visit_footprint (i : Instruction) :
    let after := (e.visit w scene index i).1
    (∀ layer : Layer, layer.Same { scene.state with counter := index + 1 } after.state ∨
      i.kind ∈ layer.kinds) ∧
    ((∃ mask, Stretched scene.state.canvas scene.state.mask mask ∧
        Stretched after.state.canvas mask after.state.mask) ∨ i.kind ∈ Kind.replacingMask) ∧
    (after.images = scene.images ∨ i.kind ∈ [Kind.generate, .canvasSave, .loopSave]) ∧
    ((∀ call, .generate call ∉ e.asked w scene index i) ∨
      i.kind ∈ [Kind.generate, .canvasSave, .loopSave]) ∧
    (after.files = scene.files ∨ i.kind ∈ [Kind.canvasSave, .loopSave]) := by
  intro after
  refine ⟨fun layer => ?_, e.visit_mask w scene index i, e.visit_images_eq w scene index i, ?_, ?_⟩
  · obtain ⟨s, hconducted, mask, hafter⟩ := e.visit_conducted w scene index i
    rw [show after.state = { s with mask } from hafter, Layer.same_mask]
    exact hconducted.same layer
  · by_cases hi : i.kind ∈ [Kind.generate, .canvasSave, .loopSave]
    · exact .inr hi
    · exact .inl fun call hcall => hi (e.kind_of_generate_mem_asked w scene index hcall)
  · refine (e.visit_files w scene index i).imp_right ?_
    rintro ⟨name, image, parameters, hname, -⟩
    exact Instruction.kind_of_savedName hname

end Engine

end ImageWorkflow
