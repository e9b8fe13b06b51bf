import Mathlib
import ImageWorkflow.Proofs.Effects
import ImageWorkflow.Proofs.Renumbering
import ImageWorkflow.Proofs.TextsApart

/-!
# Visits, with and without magic prompts in the workflow

A workflow beside the same workflow without some of its magic prompts, under the new indices.
* `RunState.renumber`, `keptEntries`, `RunReport.without` : what a run deals with, under the new
  indices;
* `RunState.perform_renumber` : local instructions do the same under new indices;
* `Scene.Agrees`, `Engine.visit_without`, `Engine.breaks_without` : visits of what is kept do the
  same;
* `Engine.visit_of_gone` : a visit of what is left out does nothing.
-/

namespace ImageWorkflow

variable {gone : Nat → Bool} {w : Workflow} {index : Nat} {i : Instruction}

/-! ## States under new indices -/

/-- The loop, with its new start. -/
def LoopFrame.renumber (gone : Nat → Bool) (f : LoopFrame) : LoopFrame :=
  { f with startIndex := keptBefore gone f.startIndex }

/-- The state, with the new indices. -/
def RunState.renumber (gone : Nat → Bool) (s : RunState) : RunState :=
  { s with counter := keptBefore gone s.counter, loops := s.loops.map (·.renumber gone) }

/-- The image, with the new index of the instruction that asked for it. -/
def GeneratedImage.renumber (gone : Nat → Bool) (g : GeneratedImage) : GeneratedImage :=
  { g with index := keptBefore gone g.index }

/-- The entry, with its new index. -/
def Entry.renumber (gone : Nat → Bool) (entry : Entry) : Entry :=
  { entry with index := keptBefore gone entry.index }

/-- The entries of what is kept, with their new indices. -/
def keptEntries (gone : Nat → Bool) (entries : List Entry) : List Entry :=
  (entries.filter fun entry => !gone entry.index).map (·.renumber gone)

/-- The report, without the entries of what is gone, and with the new indices. -/
def RunReport.without (gone : Nat → Bool) (report : RunReport) : RunReport where
  status := report.status
  entries := keptEntries gone report.entries
  images := report.images.map (·.renumber gone)
  fatalError := report.fatalError

namespace RunState
variable {s : RunState}

theorem fitMask_renumber (s : RunState) :
    (s.renumber gone).fitMask = s.fitMask.renumber gone := by
  unfold fitMask renumber
  dsimp only
  split
  · split <;> rfl
  · rfl

theorem frame?_renumber (s : RunState) :
    (s.renumber gone).frame? = s.frame?.map (·.renumber gone) := by
  rw [frame?, frame?, renumber, List.head?_map]

theorem iteration?_renumber (s : RunState) : (s.renumber gone).iteration? = s.iteration? := by
  rw [iteration?, frame?_renumber, Option.map_map]
  rfl

theorem requireFrame_renumber (s : RunState) (kind : Kind) : (s.renumber gone).requireFrame kind =
    (s.requireFrame kind).map (·.renumber gone) := by
  rw [requireFrame, frame?_renumber, requireFrame]
  cases s.frame? <;> rfl

theorem requireCanvas_renumber (s : RunState) (kind : Kind) :
    (s.renumber gone).requireCanvas kind = s.requireCanvas kind := rfl

theorem records_renumber (s : RunState) (baseline : Generation) (index : Nat)
    (images : List Image) : (s.renumber gone).records baseline (keptBefore gone index) images =
      (s.records baseline index images).map (·.renumber gone) := by
  rw [records, records, List.map_map]
  rfl

/-- The loops being run start at instructions that are kept. -/
def KeptLoops (gone : Nat → Bool) (s : RunState) : Prop :=
  ∀ frame ∈ s.loops, gone frame.startIndex = false

theorem KeptLoops.next {s' : RunState} (h : s.KeptLoops gone) (hi : i.isPlain = false →
    gone s.counter = false) (hposition : s'.position = s.position.next w i) :
    s'.KeptLoops gone := by
  have hloops : s'.loops = (s.position.next w i).loops := congrArg Position.loops hposition
  unfold KeptLoops at h ⊢
  rw [hloops]
  obtain hplain | ⟨count, start, rfl⟩ | rfl | rfl := i.plain_cases
  · rw [Position.next_of_isPlain hplain]
    exact h
  · unfold Position.next
    dsimp only
    split
    · split <;> exact h
    · exact List.forall_mem_cons.mpr ⟨hi rfl, h⟩
  · unfold Position.next position
    dsimp only
    cases hframes : s.loops with
    | nil => exact List.forall_mem_nil _
    | cons frame outer =>
      rw [hframes] at h
      obtain ⟨hframe, houter⟩ := List.forall_mem_cons.mp h
      dsimp only
      split
      · exact List.forall_mem_cons.mpr ⟨hframe, houter⟩
      · exact houter
  · exact h

/-! ## Local instructions -/

theorem moveScale_renumber (s : RunState) (x y scale : Binary64) :
    (s.renumber gone).moveScale x y scale = (s.moveScale x y scale).map (·.renumber gone) := by
  unfold moveScale
  rw [requireCanvas_renumber]
  cases s.requireCanvas .moveScale with
  | error => rfl
  | ok canvas =>
    dsimp only [bind, Except.bind]
    split
    · cases scaledSize canvas.width canvas.height scale with
      | error => rfl
      | ok size =>
        dsimp only [Except.mapError]
        cases checkPlacement (wholePlace x) (wholePlace y) size <;> rfl
    · rfl

theorem adaptSize_renumber (s : RunState) (maxWidth maxHeight : Int) :
    (s.renumber gone).adaptSize maxWidth maxHeight =
      (s.adaptSize maxWidth maxHeight).map (Prod.map (·.renumber gone) id) := by
  unfold adaptSize
  rw [requireCanvas_renumber]
  cases s.requireCanvas .adaptSize with
  | error => rfl
  | ok canvas =>
    dsimp only [bind, Except.bind]
    split
    · rfl
    · cases canvas.fitWithin? maxWidth.toNat maxHeight.toNat <;> rfl

theorem crop_renumber (s : RunState) : (s.renumber gone).crop =
    s.crop.map (Prod.map (·.renumber gone) id) := by
  unfold crop
  rw [requireCanvas_renumber]
  cases s.requireCanvas .crop with
  | error => rfl
  | ok canvas =>
    dsimp only [bind, Except.bind]
    cases canvas.visibleBox? <;> rfl

theorem enterLoop_renumber (honly : w.OnlyMagic gone 0) (hkept : gone index = false)
    {count start : Int} (hi : w[index]? = some (.loop count start)) (s : RunState) :
    (s.renumber gone).enterLoop (w.without gone) (keptBefore gone index) count start =
      (s.enterLoop w index count start).map (·.renumber gone) id := by
  unfold enterLoop
  by_cases hcount : count ≤ 0
  · rw [if_pos hcount, if_pos hcount, Workflow.matchingEnd?_without honly hkept,
      Workflow.length_without]
    cases hend : w.matchingEnd? index with
    | none => rfl
    | some last =>
      have hlast := (Workflow.matchedAt_of_matchingEnd hi hend).isEnd
      have hnext := keptBefore_succ_of_kept (honly.kept hlast (by decide))
      simp only [Option.map_some, Prod.map, renumber, hnext, id]
  · rw [if_neg hcount, if_neg hcount]
    rfl

theorem closeLoop_renumber {s : RunState} (h : s.KeptLoops gone) :
    (s.renumber gone).closeLoop = s.closeLoop.map (Prod.map (·.renumber gone) id) := by
  cases hloops : s.loops with
  | nil =>
    have hloops' : (s.renumber gone).loops = [] := by rw [renumber, hloops]; rfl
    rw [closeLoop_eq_error hloops, closeLoop_eq_error hloops']
    rfl
  | cons frame outer =>
    have hloops' : (s.renumber gone).loops =
        frame.renumber gone :: outer.map (·.renumber gone) := by
      rw [renumber, hloops]
      rfl
    have hstart := keptBefore_succ_of_kept (h frame (hloops ▸ List.mem_cons_self))
    rw [closeLoop, closeLoop, hloops, hloops']
    dsimp only [LoopFrame.renumber]
    by_cases hmore : frame.current + 1 < frame.start + frame.count
    · rw [if_pos hmore, if_pos hmore, ← hstart]
      rfl
    · rw [if_neg hmore, if_neg hmore]
      rfl

/-- A local instruction does the same under new indices, and whatever texts hold. -/
theorem perform_renumber (honly : w.OnlyMagic gone 0) (hi : w[index]? = some i)
    (hkept : gone index = false) {s : RunState} (hloops : s.KeptLoops gone) (directory : FilePath)
    {files files' : FileTree} (hfiles : files'.textless = files.textless) :
    (s.renumber gone).perform (w.without gone) directory files' (keptBefore gone index) i =
      (s.perform w directory files index i).map (Prod.map (·.renumber gone) id) := by
  have hload (role : FileRole) (name : String) :
      loadImage directory files' role name = loadImage directory files role name := by
    rw [← loadImage_textless, hfiles, loadImage_textless]
  have hiteration (folder : String) (frame : LoopFrame) :
      iterationImage directory files' folder (frame.renumber gone) =
        iterationImage directory files folder frame := by
    rw [← iterationImage_textless, hfiles, iterationImage_textless]
    rfl
  cases i with
  | loop count start => exact congrArg Except.ok (enterLoop_renumber honly hkept hi s)
  | loopEnd => exact closeLoop_renumber hloops
  | stop => simp only [perform, Workflow.length_without]; rfl
  | frames | moodboardRemove =>
    simp only [perform]
    rw [apply_ite (Except.map _)]
    rfl
  | depthToCanvas =>
    have hdepth : (s.renumber gone).depth = s.depth := rfl
    simp only [perform, hdepth]
    cases s.depth <;> rfl
  | canvasLoad name =>
    simp only [perform, hload]
    cases loadImage directory files .canvas name <;> rfl
  | moodboardAdd name =>
    simp only [perform, hload]
    cases loadImage directory files .moodboard name <;> rfl
  | maskLoad name =>
    simp only [perform, hload]
    cases loadImage directory files .mask name <;> rfl
  | moveScale x y scale =>
    simp only [perform, moveScale_renumber]
    cases s.moveScale x y scale <;> rfl
  | adaptSize maxWidth maxHeight => exact adaptSize_renumber s maxWidth maxHeight
  | crop => exact crop_renumber s
  | moodboardCanvas | maskGet | depthCanvas =>
    simp only [perform, requireCanvas_renumber]
    cases s.requireCanvas _ <;> rfl
  | loopAddMoodboard folder | loopLoad folder =>
    simp only [perform, requireFrame_renumber]
    cases s.requireFrame _ with
    | error => rfl
    | ok frame =>
      dsimp only [Except.map, bind, Except.bind]
      rw [hiteration]
      cases iterationImage directory files folder frame <;> rfl
  | _ => rfl

end RunState

/-! ## Visits side by side -/

section visits
variable {σ : Type}

/-- Two scenes of runs side by side: the second has the new indices, and the files are alike but for
what texts hold. -/
structure Scene.Agrees (gone : Nat → Bool) (scene scene' : Scene σ) : Prop where
  state : scene'.state = scene.state.renumber gone
  images : scene'.images = scene.images.map (·.renumber gone)
  files : scene'.files.textless = scene.files.textless
  memory : scene'.memory = scene.memory

theorem Scene.Agrees.exists_eq {scene scene' : Scene σ} (h : scene.Agrees gone scene') :
    ∃ files progress, files.textless = scene.files.textless ∧ scene' =
      { state := scene.state.renumber gone
        images := scene.images.map (·.renumber gone)
        files
        memory := scene.memory
        progress } := by
  obtain ⟨state', images', files', memory', progress'⟩ := scene'
  obtain ⟨hstate, himages, hfiles, hmemory⟩ := h
  exact ⟨files', progress', hfiles, by subst hstate himages hmemory; rfl⟩

/-- Two results of visits side by side. -/
structure ResultsAgree {α : Type} (gone : Nat → Bool) (x x' : Scene σ × α) : Prop where
  scene : x.1.Agrees gone x'.1
  answer : x'.2 = x.2

theorem ResultsAgree.exists_eq {α : Type} {x x' : Scene σ × α} (h : ResultsAgree gone x x') :
    ∃ after after' answer, x = (after, answer) ∧ x' = (after', answer) ∧
      after.Agrees gone after' :=
  ⟨x.1, x'.1, x.2, rfl, Prod.ext rfl h.answer, h.scene⟩

theorem noteSaved_renumber (images : List GeneratedImage) (origin : Option Nat) (path : FilePath) :
    Engine.noteSaved (images.map (·.renumber gone)) origin path =
      (Engine.noteSaved images origin path).map (·.renumber gone) := by
  cases origin with
  | none => rfl
  | some place =>
    refine List.ext_getElem? fun n => ?_
    simp only [Engine.noteSaved, List.getElem?_map, List.getElem?_modify]
    cases images[n]? with
    | none => rfl
    | some image =>
      simp only [Option.map_some]
      split <;> rfl

namespace Engine
variable (e : Engine σ) {scene scene' : Scene σ} (h : scene.Agrees gone scene') (index : Nat)
include h

theorem render_without :
    ResultsAgree gone (e.render scene index) (e.render scene' (keptBefore gone index)) := by
  obtain ⟨files, progress, hfiles, rfl⟩ := h.exists_eq
  have hfit : (scene.state.renumber gone).fitMask = scene.state.fitMask.renumber gone :=
    RunState.fitMask_renumber scene.state
  have hcall : (scene.state.renumber gone).fitMask.generateCall e.baseline =
      scene.state.fitMask.generateCall e.baseline := by
    rw [hfit]
    rfl
  unfold render
  dsimp -iota -proj only
  by_cases hcan : scene.state.canGenerate = true
  · have hcan' : (scene.state.renumber gone).canGenerate = true := hcan
    rw [if_pos hcan, if_pos hcan']
    by_cases hfits : scene.state.canFit = true
    · have hfits' : (scene.state.renumber gone).canFit = true := hfits
      rw [if_pos hfits, if_pos hfits', hcall]
      generalize e.provider.generate scene.memory _ = result
      obtain ⟨reply, memory⟩ := result
      dsimp only
      cases reply.result with
      | error => exact ⟨⟨hfit, rfl, hfiles, rfl⟩, rfl⟩
      | ok generated =>
        cases generated with
        | nil => exact ⟨⟨hfit, rfl, hfiles, rfl⟩, rfl⟩
        | cons first rest =>
          dsimp only
          rw [hfit, RunState.records_renumber, ← List.map_append, List.length_map]
          exact ⟨⟨rfl, rfl, hfiles, rfl⟩, rfl⟩
    · have hfits' : ¬ (scene.state.renumber gone).canFit = true := hfits
      rw [if_neg hfits, if_neg hfits']
      exact ⟨⟨rfl, rfl, hfiles, rfl⟩, rfl⟩
  · have hcan' : ¬ (scene.state.renumber gone).canGenerate = true := hcan
    rw [if_neg hcan, if_neg hcan']
    exact ⟨⟨rfl, rfl, hfiles, rfl⟩, rfl⟩

theorem settleSave_without :
    ResultsAgree gone (e.settleSave scene index) (e.settleSave scene' (keptBefore gone index)) := by
  obtain ⟨after, after', answer, hrender, hrender', hafter⟩ :=
    (e.render_without h index).exists_eq
  have hstate : scene'.state = scene.state.renumber gone := h.state
  have hfresh : scene'.state.fresh = scene.state.fresh := by rw [hstate]; rfl
  have hcanvas : scene'.state.canvas = scene.state.canvas := by rw [hstate]; rfl
  have hprompt : scene'.state.hasPrompt = scene.state.hasPrompt := by rw [hstate]; rfl
  unfold settleSave
  rw [hfresh, hcanvas, hprompt, hrender, hrender']
  split
  · exact ⟨⟨by rw [hstate]; rfl, h.images, h.files, h.memory⟩, rfl⟩
  · split
    · cases answer <;> exact ⟨hafter, rfl⟩
    · split <;> exact ⟨h, rfl⟩

theorem renderAndSave_without (name : String) : ResultsAgree gone (e.renderAndSave scene index name)
    (e.renderAndSave scene' (keptBefore gone index) name) := by
  obtain ⟨after, after', answer, hsettle, hsettle', hafter⟩ :=
    (e.settleSave_without h index).exists_eq
  unfold renderAndSave
  rw [hsettle, hsettle']
  cases answer with
  | error => exact ⟨hafter, rfl⟩
  | ok source =>
    obtain ⟨files, progress, hfiles, rfl⟩ := hafter.exists_eq
    have hcanvas : (after.state.renumber gone).canvas = after.state.canvas := rfl
    dsimp only
    rw [hcanvas]
    cases after.state.canvas with
    | none => exact ⟨hafter, rfl⟩
    | some canvas =>
      -- the parameters differ, but not in the prompt
      have hprompt (s : RunState) (index : Nat) :
          Members.get? (e.saveParameters s index) "prompt" = some (.str s.prompt) := if_pos rfl
      have hsame := e.save_textless hfiles ((hprompt (after.state.renumber gone)
        (keptBefore gone index)).trans (hprompt after.state index).symm) canvas.image name
      obtain ⟨saved, saved', answer, hsave, hsave', hsame⟩ := alike_cases hsame
      dsimp only
      rw [hsave, hsave']
      cases answer with
      | error => exact ⟨⟨rfl, rfl, hsame, rfl⟩, rfl⟩
      | ok path => exact ⟨⟨rfl, noteSaved_renumber _ _ _, hsame, rfl⟩, rfl⟩

theorem applyTool_without (i : Instruction) (target : ToolTarget) :
    ResultsAgree gone (e.applyTool scene i target) (e.applyTool scene' i target) := by
  obtain ⟨files, progress, hfiles, rfl⟩ := h.exists_eq
  unfold applyTool
  generalize e.provider.applyTool scene.memory = ask
  dsimp only
  rw [RunState.requireCanvas_renumber]
  cases scene.state.requireCanvas i.kind with
  | error => exact ⟨h, rfl⟩
  | ok image =>
    dsimp only
    generalize ask _ = result
    obtain ⟨reply, memory⟩ := result
    dsimp only
    cases reply.result with
    | error => exact ⟨⟨rfl, rfl, hfiles, rfl⟩, rfl⟩
    | ok answer =>
      have hreceive : receive (scene.state.renumber gone) i.kind target answer =
          (receive scene.state i.kind target answer).map (·.renumber gone) := by
        unfold receive
        cases target <;> cases answer.image <;> rfl
      dsimp only
      rw [hreceive]
      cases receive scene.state i.kind target answer <;> exact ⟨⟨rfl, rfl, hfiles, rfl⟩, rfl⟩

theorem conduct_without (honly : w.OnlyMagic gone 0) (hi : w[index]? = some i)
    (hkept : gone index = false) (hloops : scene.state.KeptLoops gone) :
    ResultsAgree gone (e.conduct w scene index i)
      (e.conduct (w.without gone) scene' (keptBefore gone index) i) := by
  obtain hlocal | ⟨target, htarget⟩ | rfl | ⟨name, rfl⟩ | ⟨stem, rfl⟩ := i.carrier_cases
  · have hperform := RunState.perform_renumber honly hi hkept hloops e.workingDirectory h.files
    obtain ⟨files, progress, hfiles, rfl⟩ := h.exists_eq
    rw [e.conduct_of_isLocal w _ index hlocal, e.conduct_of_isLocal _ _ _ hlocal]
    dsimp only
    rw [hperform]
    cases scene.state.perform w e.workingDirectory scene.files index i <;>
      exact ⟨⟨rfl, rfl, hfiles, rfl⟩, rfl⟩
  · rw [e.conduct_of_tool w _ index htarget, e.conduct_of_tool _ _ _ htarget]
    exact e.applyTool_without h i target
  · obtain ⟨after, after', answer, hrender, hrender', hafter⟩ :=
      (e.render_without h index).exists_eq
    rw [conduct_generate, conduct_generate, hrender, hrender']
    cases answer with
    | error => exact ⟨hafter, rfl⟩
    | ok =>
      obtain ⟨files, progress, hfiles, rfl⟩ := hafter.exists_eq
      exact ⟨⟨rfl, rfl, hfiles, rfl⟩, rfl⟩
  · exact e.renderAndSave_without h index name
  · rw [conduct_loopSave, conduct_loopSave, h.state, RunState.requireFrame_renumber]
    cases scene.state.requireFrame .loopSave with
    | error => exact ⟨h, rfl⟩
    | ok frame => exact e.renderAndSave_without h index _

theorem atVisit_without (hkept : gone index = false) :
    (atVisit index scene).Agrees gone (atVisit (keptBefore gone index) scene') :=
  ⟨by
    rw [atVisit, atVisit, h.state, ← keptBefore_succ_of_kept hkept]
    rfl, h.images, h.files, h.memory⟩

/-- The visit of what is kept does the same in both runs. -/
theorem visit_without (honly : w.OnlyMagic gone 0) (hi : w[index]? = some i)
    (hkept : gone index = false) (hloops : scene.state.KeptLoops gone) :
    ResultsAgree gone (e.visit w scene index i)
      (e.visit (w.without gone) scene' (keptBefore gone index) i) := by
  have hat := atVisit_without h index hkept
  by_cases hsupport : i.kind.support = .unsupported
  · rw [visit, visit, if_pos hsupport, if_pos hsupport]
    exact ⟨hat, rfl⟩
  · obtain ⟨after, after', answer, hconduct, hconduct', hafter⟩ :=
      (e.conduct_without hat index honly hi hkept hloops).exists_eq
    rw [e.visit_of_not_unsupported w _ index hsupport, e.visit_of_not_unsupported _ _ _ hsupport,
      hconduct, hconduct']
    cases answer with
    | error => exact ⟨hafter, rfl⟩
    | ok =>
      obtain ⟨files, progress, hfiles, rfl⟩ := hafter.exists_eq
      exact ⟨⟨RunState.fitMask_renumber _, rfl, hfiles, rfl⟩, rfl⟩

theorem breaks_without (honly : w.OnlyMagic gone 0) (hi : w[index]? = some i)
    (hkept : gone index = false) (hloops : scene.state.KeptLoops gone) :
    e.breaks (w.without gone) scene' (keptBefore gone index) i = e.breaks w scene index i := by
  obtain ⟨after, after', answer, hconduct, hconduct', hafter⟩ :=
    (e.conduct_without (atVisit_without h index hkept) index honly hi hkept hloops).exists_eq
  have hfits : after'.state.canFit = after.state.canFit := by
    rw [hafter.state]
    rfl
  rw [Bool.eq_iff_iff, breaks_iff, breaks_iff, hconduct, hconduct']
  simp [Prod.ext_iff, hfits]

/-- The visit of what is left out does nothing. -/
theorem visit_of_gone (hi : i.kind = .xlMagic) (hgone : gone index = true)
    (hcounter : scene.state.counter = index) : ∃ reason,
      (e.visit w scene index i).2 = .passedOver reason ∧
      (e.visit w scene index i).1.Agrees gone scene' := by
  have hsupport : i.kind.support = .unsupported := by
    rw [hi]
    rfl
  rw [visit, if_pos hsupport]
  refine ⟨_, rfl, ?_, h.images, h.files, h.memory⟩
  rw [h.state, RunState.renumber, RunState.renumber, hcounter, ← keptBefore_succ_of_gone hgone]

end Engine

end visits

end ImageWorkflow
