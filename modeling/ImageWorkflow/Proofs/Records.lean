import Mathlib
import ImageWorkflow.Proofs.Accumulation
import ImageWorkflow.Proofs.Freshness

/-!
# The records of generated images

A run records with each generated image how it was made; plugins are told how a saved image was made
by the state at the time of the save.
* `Gallery` : the canvas and the records; `Gallery.Step` : what a visit can do to them
  (`Engine.visit_gallery`);
* `Run.Rendered` : how the canvas came to be one of the recorded images, and its record;
  `Run.Course.exists_rendered` : a canvas that is marked as one of them did;
* `Run.saved_parameters` : what plugins are told of a saved image is what its record says, if
  nothing was given since the image was rendered.
-/

namespace ImageWorkflow

/-- The record but for where the image was saved. -/
def GeneratedImage.unsaved (g : GeneratedImage) : GeneratedImage := { g with savedAt := none }

/-- What plugins are told of a save itself: the index of the instruction, and of the iteration. -/
def RunState.circumstances (s : RunState) (index : Nat) : Members :=
  ("instruction_index", .int index) ::
    match s.iteration? with
    | some iteration => [("iteration", .int iteration)]
    | none => []

/-- The canvas, and the records of the images but for where they were saved. -/
structure Gallery where
  canvas : Option Canvas
  records : List GeneratedImage

namespace Gallery

/-- The canvas is one of the recorded images, as far as it knows. -/
def origin? (p : Gallery) : Option Nat := p.canvas.bind (·.origin)

/-- With the images of a generation: the first becomes the canvas. -/
def hang (p : Gallery) (first : Image) (records : List GeneratedImage) : Gallery where
  canvas := some { image := first, origin := some p.records.length }
  records := p.records ++ records

end Gallery

/-- The gallery of a scene. -/
def Scene.gallery {σ : Type} (scene : Scene σ) : Gallery :=
  ⟨scene.state.canvas, scene.images.map (·.unsaved)⟩

theorem Scene.origin?_gallery {σ : Type} (scene : Scene σ) :
    scene.gallery.origin? = scene.state.canvas.bind (·.origin) := rfl

/-- What the visit of an instruction at `index` in the state `s`, successful or not, can do to the
gallery. -/
inductive Gallery.Step (s : RunState) (baseline : Generation) (index : Nat) (p : Gallery) :
    Instruction → Bool → Gallery → Prop
  | keep {i : Instruction} {done : Bool} : (done = true → i.isEdit = false) →
      Step s baseline index p i done p
  /-- The canvas is an image that is not recorded, or there is none any more. -/
  | replace {i : Instruction} {done : Bool} (canvas : Option Canvas) :
      canvas.bind (·.origin) = none → Step s baseline index p i done { p with canvas }
  | render {i : Instruction} {done : Bool} (first : Image) (rest : List Image) :
      i.isTrigger = true → (i.isSave = true → s.hasPrompt = true) →
      Step s baseline index p i done (p.hang first (s.records baseline index (first :: rest)))

/-- A visit that is not done may leave the gallery as it is, whatever it visits. -/
theorem Gallery.Step.undone {s : RunState} {baseline : Generation} {index : Nat} {p : Gallery}
    {i : Instruction} : Gallery.Step s baseline index p i false p :=
  .keep fun hdone => Bool.noConfusion hdone

namespace Instruction
variable {i : Instruction} {after : RunState}

/-- The instructions that give a prompt or parameters, whatever the canvas. -/
def givesTerms : Instruction → Bool
  | .prompt _ | .negativePrompt _ | .config _ | .frames _ | .inpaintTools .. => true
  | _ => false

theorem givesTerms_of_isTrigger (hi : i.isTrigger = true) : i.givesTerms = false := by
  cases i <;> first | rfl | cases hi

/-- Besides them only the one edit that sets the size of generations contributes. -/
theorem contribution_of_givesTerms (hi : i.givesTerms = false) (hedit : i.isEdit = false) :
    i.contribution after = {} := by
  cases i with
  | prompt | negativePrompt | config | frames | inpaintTools => cases hi
  | adaptSize => cases hedit
  | _ => rfl

end Instruction

theorem Generation.get?_negativePrompt_metadata {g : Generation} (h : g.unchecked = []) :
    Members.get? g.metadata "negative_prompt" = some (.str g.negativePrompt) := by
  unfold metadata
  simp only [List.append_assoc]
  rw [always, h, List.singleton_append]
  exact if_pos rfl

theorem RunState.unchecked_parameters {baseline : Generation} (h : baseline.unchecked = [])
    (s : RunState) : (s.parameters baseline).unchecked = [] := by
  simp only [parameters, Generation.withInpainting, Generation.withSettings, h]
  rfl

/-! ## What visits do to the gallery -/

namespace RunState
variable {s s' : RunState} {i : Instruction}

theorem Performed.gallery {baseline : Generation} {index : Nat} {records : List GeneratedImage}
    (h : Performed s i s') :
    Gallery.Step s baseline index ⟨s.canvas, records⟩ i true ⟨s'.canvas, records⟩ := by
  cases h with
  | canvasClear | moveScale | adaptSize | crop | depthToCanvas => exact .replace _ rfl
  | load image => exact .replace _ rfl
  | moodboard _ hi | mask _ hi => exact .keep fun _ => by cases i <;> first | rfl | cases hi
  | idle hi => exact .keep fun _ => by cases i <;> first | rfl | simp [Instruction.kind] at hi
  | _ => exact .keep fun _ => rfl

end RunState

namespace Engine
open RunState
variable {σ : Type} (e : Engine σ) (w : Workflow) (scene : Scene σ) (index : Nat)

theorem map_unsaved_records (s : RunState) (baseline : Generation) (images : List Image) :
    (s.records baseline index images).map (·.unsaved) = s.records baseline index images := by
  rw [RunState.records, List.map_map]
  rfl

theorem map_unsaved_noteSaved (images : List GeneratedImage) (origin : Option Nat)
    (path : FilePath) :
    (noteSaved images origin path).map (·.unsaved) = images.map (·.unsaved) := by
  cases origin with
  | none => rfl
  | some place =>
    refine List.ext_getElem? fun n => ?_
    rw [noteSaved, List.getElem?_map, List.getElem?_modify, List.getElem?_map]
    cases images[n]? with
    | none => rfl
    | some image =>
      dsimp only [Option.map_eq_map, Option.map_some]
      split <;> rfl

/-- A render hangs its first image, or changes nothing. -/
theorem render_gallery :
    ((e.render scene index).1.gallery = scene.gallery ∧
      ∃ failure, (e.render scene index).2 = .error failure) ∨
    ∃ first rest answer, (e.render scene index).2 = .ok answer ∧
      (e.render scene index).1.gallery =
        scene.gallery.hang first (scene.state.records e.baseline index (first :: rest)) := by
  obtain ⟨mask, hmask⟩ := scene.state.fitMask_eq
  unfold render
  split
  · split
    · dsimp only
      rw [hmask]
      split
      · exact .inl ⟨rfl, _, rfl⟩
      · exact .inl ⟨rfl, _, rfl⟩
      · rename_i first rest _
        refine .inr ⟨first, rest, _, rfl, ?_⟩
        have hrecords := map_unsaved_records index scene.state e.baseline (first :: rest)
        simp only [Scene.gallery, Gallery.hang, List.map_append, List.length_map]
        exact congrArg (Gallery.mk _ <| scene.images.map (·.unsaved) ++ ·) hrecords
    · exact .inl ⟨rfl, _, rfl⟩
  · exact .inl ⟨rfl, _, rfl⟩

/-- So does a save, which renders with a prompt only. -/
theorem settleSave_gallery {i : Instruction} {done : Bool} (hi : i.isSave = true) :
    Gallery.Step scene.state e.baseline index scene.gallery i done
      (e.settleSave scene index).1.gallery := by
  have hedit : done = true → i.isEdit = false := fun _ => Instruction.isEdit_of_isSave hi
  unfold settleSave
  split
  · exact .keep hedit
  · split
    · rename_i hprompt
      have hrender := e.render_gallery scene index
      generalize e.render scene index = answer at hrender ⊢
      obtain ⟨after, answer⟩ := answer
      obtain ⟨hgallery, failure, hresult⟩ | ⟨first, rest, answer, hresult, hgallery⟩ := hrender
      · cases hresult
        exact hgallery ▸ .keep hedit
      · cases hresult
        exact hgallery ▸ .render first rest (Instruction.isTrigger_of_isSave hi) fun _ => hprompt
    · split
      · exact .keep hedit
      · exact .keep hedit

theorem renderAndSave_gallery {i : Instruction} {done : Bool} (hi : i.isSave = true)
    (name : String) : Gallery.Step scene.state e.baseline index scene.gallery i done
      (e.renderAndSave scene index name).1.gallery := by
  have h : Gallery.Step scene.state e.baseline index scene.gallery i done _ :=
    e.settleSave_gallery scene index hi
  unfold renderAndSave
  generalize e.settleSave scene index = settled at h ⊢
  obtain ⟨after, answer⟩ := settled
  cases answer with
  | error failure => exact h
  | ok source =>
    dsimp only at h ⊢
    split
    · exact h
    · split
      · exact h
      · have hsaved := map_unsaved_noteSaved after.images
        simp only [Scene.gallery, hsaved]
        exact h

theorem applyTool_gallery {i : Instruction} {target : ToolTarget}
    (hi : toolTarget? i.kind = some target) :
    Gallery.Step scene.state e.baseline index scene.gallery i (e.applyTool scene i target).2.isOk
      (e.applyTool scene i target).1.gallery := by
  unfold applyTool
  split
  · exact .undone
  · dsimp only
    split
    · exact .undone
    · split
      · exact .undone
      · rename_i hreceive
        unfold receive at hreceive
        split at hreceive <;> cases hreceive
        · exact .keep fun _ => by cases i <;> first | rfl | cases hi
        · exact .keep fun _ => by cases i <;> first | rfl | cases hi
        · exact .keep fun _ => by cases i <;> first | rfl | cases hi
        · exact .replace _ rfl

theorem conduct_gallery (i : Instruction) :
    Gallery.Step scene.state e.baseline index scene.gallery i (e.conduct w scene index i).2.isOk
      (e.conduct w scene index i).1.gallery := by
  obtain hlocal | ⟨target, htarget⟩ | rfl | ⟨name, rfl⟩ | ⟨stem, rfl⟩ := i.carrier_cases
  · rw [conduct_of_isLocal e w scene index hlocal]
    split
    · rename_i hperform
      exact (performed_of_perform hlocal hperform).gallery
    · exact .undone
  · rw [conduct_of_tool e w scene index htarget]
    exact applyTool_gallery e scene index htarget
  · obtain ⟨hgallery, failure, hresult⟩ | ⟨first, rest, answer, hresult, hgallery⟩ :=
      e.render_gallery scene index
    · rw [conduct_generate_of_error e w scene index hresult]
      exact hgallery ▸ .undone
    · rw [conduct_generate_of_ok e w scene index hresult]
      have hmarked : ({ (e.render scene index).1 with state.fresh := true } : Scene σ).gallery =
          scene.gallery.hang first (scene.state.records e.baseline index (first :: rest)) :=
        hgallery
      rw [hmarked]
      exact .render first rest rfl nofun
  · exact e.renderAndSave_gallery scene index rfl name
  · rw [conduct_loopSave]
    split
    · exact e.renderAndSave_gallery scene index rfl _
    · exact .undone

theorem visit_gallery (i : Instruction) :
    Gallery.Step { scene.state with counter := index + 1 } e.baseline index scene.gallery i
      (e.visit w scene index i).2.isDone (e.visit w scene index i).1.gallery := by
  by_cases hi : i.kind.support = .unsupported
  · rw [visit, if_pos hi]
    exact .undone
  · have h := conduct_gallery e w (atVisit index scene) index i
    rw [visit_of_not_unsupported e w scene index hi]
    generalize e.conduct w (atVisit index scene) index i = result at h ⊢
    obtain ⟨after, answer⟩ := result
    cases answer with
    | error failure => exact h
    | ok message =>
      obtain ⟨mask, hmask⟩ := after.state.fitMask_eq
      dsimp only
      rw [hmask]
      exact h

/-! ## What plugins are told -/

theorem render_files : (e.render scene index).1.files = scene.files := by
  unfold render
  split
  · split
    · dsimp only
      split <;> rfl
    · rfl
  · rfl

theorem settleSave_files : (e.settleSave scene index).1.files = scene.files := by
  have hrender := e.render_files scene index
  unfold settleSave
  split
  · rfl
  · split
    · generalize e.render scene index = answer at hrender ⊢
      obtain ⟨after, answer⟩ := answer
      cases answer <;> exact hrender
    · split <;> rfl

/-- Settling what is saved leaves alone what is told of it. -/
theorem saveParameters_settleSave :
    e.saveParameters (e.settleSave scene index).1.state index =
      e.saveParameters scene.state index := by
  obtain ⟨-, -, hstate, -⟩ | ⟨-, ⟨mask, failure, hstate, -⟩ | ⟨canvas, mask, mode, hstate, -⟩ |
    ⟨-, -, hstate, -⟩⟩ := settleSave_cases e scene index
  all_goals rw [hstate] <;> rfl

/-- Apart from the prompt and the circumstances of the save, plugins are told the parameters. -/
theorem saveParameters_eq (s : RunState) : e.saveParameters s index =
    ("prompt", .str s.prompt) :: (s.parameters e.baseline).metadata ++ s.circumstances index := by
  rw [saveParameters, List.append_assoc, RunState.circumstances]
  rfl

end Engine

namespace Run
variable {σ : Type} {e : Engine σ} {w : Workflow} {r r' : Run σ} {i : Instruction}
  {us ms : List (Run σ × Instruction)} {g : Run σ × Instruction} {k : Nat}
  {record : GeneratedImage}

/-- A save that succeeds writes the canvas and tells the plugins what the state says. -/
theorem exists_saved (hi : i.isSave = true) (h : Succeeds e w (r, i)) :
    ∃ canvas name path, (r.visited e w i).scene.state.canvas = some canvas ∧
      e.save r.scene.files canvas.image name
          (e.saveParameters r.scene.state r.scene.state.counter) =
        ((r.visited e w i).scene.files, .ok path) := by
  obtain ⟨message, mask, hconduct, hvisit⟩ := e.visit_of_isDone w r.scene _ h
  obtain ⟨name, hname⟩ := e.conduct_of_isSave w _ _ hi hconduct
  rw [hname] at hconduct hvisit
  obtain ⟨source, canvas, path, -, hcanvas, hsave, -⟩ := e.renderAndSave_eq_ok _ _ hconduct
  rw [e.settleSave_files, e.saveParameters_settleSave] at hsave
  refine ⟨canvas, name, path, ?_, ?_⟩
  · rw [visited_scene, visitDue, hvisit]
    exact (congrArg RunState.canvas (e.renderAndSave_state _ _ name)).trans hcanvas
  · rw [visited_scene, visitDue, hvisit]
    exact hsave

/-! ## Where recorded images come from -/

theorem visited_gallery (r : Run σ) (i : Instruction) :
    Gallery.Step { r.scene.state with counter := r.scene.state.counter + 1 } e.baseline
      r.scene.state.counter r.scene.gallery i (r.visitDue e w i).2.isDone
      (r.visited e w i).scene.gallery := by
  rw [visited_scene]
  exact e.visit_gallery w r.scene _ i

/-- How the canvas of a run `r` came to be the `k`-th of its images, with the given record: by the
visit `g`, and the visits `ms` after it changed neither the canvas nor the records. -/
structure Rendered (e : Engine σ) (w : Workflow) (g : Run σ × Instruction)
    (ms : List (Run σ × Instruction)) (k : Nat) (record : GeneratedImage) (r : Run σ) : Prop where
  trigger : g.2.isTrigger = true
  /-- A save renders with a prompt only. -/
  prompted : g.2.isSave = true → g.1.scene.state.hasPrompt = true
  prompt : record.prompt = g.1.scene.state.usedPrompt
  negativePrompt : record.negativePrompt = g.1.scene.state.negativePrompt
  parameters : record.parameters = (g.1.scene.state.parameters e.baseline).metadata
  index : record.index = g.1.scene.state.counter
  canvas : r.scene.state.canvas = some { image := record.image, origin := some k }
  recorded : r.scene.gallery.records[k]? = some record
  since : ∀ m ∈ g :: ms, (m.1.visited e w m.2).scene.gallery = r.scene.gallery

theorem Rendered.visited (h : Rendered e w g ms k record r)
    (hsame : (r.visited e w i).scene.gallery = r.scene.gallery) :
    Rendered e w g (ms ++ [(r, i)]) k record (r.visited e w i) where
  trigger := h.trigger
  prompted := h.prompted
  prompt := h.prompt
  negativePrompt := h.negativePrompt
  parameters := h.parameters
  index := h.index
  canvas := (congrArg Gallery.canvas hsame).trans h.canvas
  recorded := (congrArg (·.records[k]?) hsame).trans h.recorded
  since := by
    intro m hm
    rcases List.mem_append.mp (List.cons_append ▸ hm) with hm | hm
    · exact (h.since m hm).trans hsame.symm
    · rw [List.mem_singleton.mp hm]

theorem rendered_of_hang {first : Image} {rest : List Image} (htrigger : i.isTrigger = true)
    (hprompt : i.isSave = true → r.scene.state.hasPrompt = true)
    (h : (r.visited e w i).scene.gallery = r.scene.gallery.hang first
      (r.scene.state.records e.baseline r.scene.state.counter (first :: rest))) :
    ∃ record, Rendered e w (r, i) [] r.scene.gallery.records.length record (r.visited e w i) :=
  ⟨{ image := first
     prompt := r.scene.state.usedPrompt
     negativePrompt := r.scene.state.negativePrompt
     parameters := (r.scene.state.parameters e.baseline).metadata
     index := r.scene.state.counter },
    { trigger := htrigger
      prompted := hprompt
      prompt := rfl
      negativePrompt := rfl
      parameters := rfl
      index := rfl
      canvas := congrArg Gallery.canvas h
      recorded := by
        rw [h]
        simp only [Gallery.hang]
        rw [List.getElem?_append_right (Nat.le_refl _), Nat.sub_self]
        rfl
      since := List.forall_mem_singleton.mpr rfl }⟩

/-- A canvas that is marked as a recorded image was rendered, and is as it was. -/
theorem Course.exists_rendered (h : Course e w r us r') (hr : r.scene.gallery.origin? = none)
    (hk : r'.scene.gallery.origin? = some k) :
    ∃ as g ms record, us = as ++ g :: ms ∧ Rendered e w g ms k record r' := by
  refine h.induction_on_last (P := fun us q => q.scene.gallery.origin? = some k →
    ∃ as g ms record, us = as ++ g :: ms ∧ Rendered e w g ms k record q)
    (fun hk => ?_) (fun us q i _ _ ih hk => ?_) hk
  · rw [hr] at hk
    cases hk
  · have hstep := visited_gallery (e := e) (w := w) q i
    generalize hafter : (q.visited e w i).scene.gallery = after at hstep hk
    cases hstep with
    | keep =>
      obtain ⟨as, g, ms, record, rfl, hrendered⟩ := ih hk
      exact ⟨as, g, ms ++ [(q, i)], record, by simp, hrendered.visited hafter⟩
    | replace canvas hnone =>
      rw [Gallery.origin?, hnone] at hk
      cases hk
    | render first rest htrigger hprompt =>
      obtain rfl : q.scene.gallery.records.length = k := Option.some.inj hk
      obtain ⟨record, hrendered⟩ := rendered_of_hang htrigger hprompt hafter
      exact ⟨us, (q, i), [], record, rfl, hrendered⟩

/-! ## What plugins are told of recorded images -/

/-- A visit that succeeds and leaves a recorded image on the canvas did not edit it. -/
theorem isEdit_of_origin (h : (r.visited e w i).scene.gallery.origin? = some k)
    (hdone : Succeeds e w (r, i)) : i.isEdit = false := by
  have hstep := visited_gallery (e := e) (w := w) r i
  rw [show (r.visitDue e w i).2.isDone = true from hdone] at hstep
  generalize (r.visited e w i).scene.gallery = after at hstep h
  cases hstep with
  | keep hedit => exact hedit rfl
  | replace canvas hnone =>
    rw [Gallery.origin?, hnone] at h
    cases h
  | render first rest htrigger => cases i <;> first | rfl | cases htrigger

theorem Rendered.origin (h : Rendered e w g ms k record r) :
    r.scene.gallery.origin? = some k :=
  congrArg (·.bind (·.origin)) h.canvas

/-- Prompt and parameters are as they were when the image was rendered, if nothing was given
since. -/
theorem Rendered.terms (h : Rendered e w g ms k record r) (hc : Course e w g.1 (g :: ms) r)
    (hms : ∀ m ∈ ms, Succeeds e w m → m.2.givesTerms = false) :
    r.scene.state.terms = g.1.scene.state.terms := by
  refine hc.terms_eq fun m hm => contribution_eq fun hdone => ?_
  -- adapting the size contributes too, but would have replaced the canvas
  have hedit : m.2.isEdit = false :=
    isEdit_of_origin ((congrArg Gallery.origin? (h.since m hm)).trans h.origin) hdone
  have hgives : m.2.givesTerms = false := by
    rcases List.mem_cons.mp hm with rfl | hm
    · exact Instruction.givesTerms_of_isTrigger h.trigger
    · exact hms m hm hdone
  exact Instruction.contribution_of_givesTerms hgives hedit

/-- What plugins are told of a saved image, if it is one of the recorded ones, is what its record
says, unless a prompt, a negative prompt, a config, a number of frames or inpainting options were
given between its rendering and the save, or `generate` rendered it with a prompt of blanks.  So it
is for every image that the save itself renders. -/
theorem saved_parameters {connected : Bool} {interruption : Option Interruption} {files : FileTree}
    {memory : σ} (hb : e.baseline.unchecked = [])
    (hc : Course e w (start e connected interruption files memory) us r) (hd : r.Due w i)
    (hi : i.isSave = true) (h : Succeeds e w (r, i)) :
    ∃ canvas name path, (r.visited e w i).scene.state.canvas = some canvas ∧
      e.save r.scene.files canvas.image name
          (e.saveParameters r.scene.state r.scene.state.counter) =
        ((r.visited e w i).scene.files, .ok path) ∧
      ∀ k, canvas.origin = some k → ∃ as g ms record, us ++ [(r, i)] = as ++ g :: ms ∧
        Rendered e w g ms k record (r.visited e w i) ∧
        ((∀ m ∈ ms, Succeeds e w m → m.2.givesTerms = false) →
          (g.2 = .generate → g.1.scene.state.usedPrompt = g.1.scene.state.prompt) →
          e.saveParameters r.scene.state r.scene.state.counter =
              ("prompt", .str record.prompt) :: record.parameters ++
                r.scene.state.circumstances r.scene.state.counter ∧
            Members.get? record.parameters "negative_prompt" =
              some (.str record.negativePrompt)) := by
  obtain ⟨canvas, name, path, hcanvas, hsave⟩ := exists_saved hi h
  refine ⟨canvas, name, path, hcanvas, hsave, fun k hk => ?_⟩
  have hcourse := hc.concat hd
  have horigin : (r.visited e w i).scene.gallery.origin? = some k := by
    rw [Scene.origin?_gallery, hcanvas]
    exact hk
  obtain ⟨as, g, ms, record, hus, hrendered⟩ := hcourse.exists_rendered rfl horigin
  refine ⟨as, g, ms, record, hus, hrendered, fun hms hblank => ?_⟩
  rw [hus] at hcourse
  have hsaved : (r.visited e w i).scene.state.terms = r.scene.state.terms :=
    (Course.cons hd (.nil _)).terms_eq (List.forall_mem_singleton.mpr
      (contribution_eq fun _ => Instruction.contribution_of_isSave hi))
  have hterms : r.scene.state.terms = g.1.scene.state.terms :=
    hsaved.symm.trans (hrendered.terms (.cons hcourse.split.1 hcourse.split.2) hms)
  have hused : g.1.scene.state.usedPrompt = g.1.scene.state.prompt := by
    rcases Instruction.trigger_cases hrendered.trigger with hgenerate | hsave
    · exact hblank hgenerate
    · rw [RunState.usedPrompt, if_pos (hrendered.prompted hsave)]
  have hprompt : r.scene.state.prompt = record.prompt :=
    (congrArg Terms.prompt hterms).trans (hused.symm.trans hrendered.prompt.symm)
  constructor
  · rw [e.saveParameters_eq, hprompt, RunState.parameters_of_terms hterms, hrendered.parameters]
  · rw [hrendered.parameters, hrendered.negativePrompt]
    exact Generation.get?_negativePrompt_metadata (by rw [RunState.unchecked_parameters hb])

/-- An image that waits for its save while it is put on the moodboard. -/
theorem saved_parameters_pending :
    let script : Script := { steps := [{ images := .inl [Image.solid .rgb 1 1 {}] }] }
    let e := { rehearsalEngine script with plugins := [{ kind := .saveMetadata }] }
    let w : Workflow := [.prompt "a", .generate, .moodboardCanvas, .canvasSave "a.png"]
    let r₁ := (start e true none ⟨[]⟩ {}).visited e w (.prompt "a")
    let r₂ := r₁.visited e w .generate
    let r₃ := r₂.visited e w .moodboardCanvas
    let r₄ := r₃.visited e w (.canvasSave "a.png")
    Succeeds e w (r₃, .canvasSave "a.png") ∧ r₄.scene.gallery.origin? = some 0 ∧
      ∃ record : GeneratedImage, r₄.scene.gallery.records[0]? = some record ∧ record.prompt = "a" ∧
        e.saveParameters r₃.scene.state r₃.scene.state.counter =
          ("prompt", .str record.prompt) :: record.parameters ++
            r₃.scene.state.circumstances r₃.scene.state.counter := by
  intro script e w r₁ r₂ r₃ r₄
  have h₀ : (start e true none ⟨[]⟩ {}).Due w (.prompt "a") := ⟨rfl, rfl, rfl⟩
  have h₁ : r₁.Due w .generate := ⟨rfl, rfl, rfl⟩
  have hcounter₂ : r₂.scene.state.counter = 2 := by decide +kernel
  have h₂ : r₂.Due w .moodboardCanvas :=
    ⟨by decide +kernel, by decide +kernel, by rw [hcounter₂]; rfl⟩
  have hcounter₃ : r₃.scene.state.counter = 3 := by decide +kernel
  have h₃ : r₃.Due w (.canvasSave "a.png") :=
    ⟨by decide +kernel, by decide +kernel, by rw [hcounter₃]; rfl⟩
  have hdone : Succeeds e w (r₃, .canvasSave "a.png") := by
    unfold Succeeds
    decide +kernel
  have horigin : r₄.scene.gallery.origin? = some 0 := by decide +kernel
  let later : List (Run Rehearsal × Instruction) :=
    [(r₁, .generate), (r₂, .moodboardCanvas), (r₃, .canvasSave "a.png")]
  have hgives : ∀ m ∈ later, m.2.givesTerms = false := by decide +kernel
  have hused : ∀ m ∈ later, m.1.scene.state.usedPrompt = "a" := by decide +kernel
  have hprompt : ∀ m ∈ later, m.1.scene.state.prompt = "a" := by decide +kernel
  obtain ⟨canvas, name, path, hcanvas, -, hrecord⟩ :=
    saved_parameters rfl (.cons h₀ (.cons h₁ (.cons h₂ (.nil r₃)))) h₃ rfl hdone
  have hr₄ : r₃.visited e w (.canvasSave "a.png") = r₄ := rfl
  rw [hr₄] at hcanvas
  have hk : canvas.origin = some 0 := by
    rw [Scene.origin?_gallery, hcanvas] at horigin
    exact horigin
  obtain ⟨as, g, ms, record, hus, hrendered, hsaved⟩ := hrecord 0 hk
  cases as with
  | nil =>
    cases hus
    cases hrendered.trigger
  | cons a as =>
    have hlater : later = as ++ g :: ms := (List.cons.inj hus).2
    have hg : g ∈ later := by simp [hlater]
    have hms : ∀ m ∈ ms, m ∈ later := fun m hm => by simp [hlater, hm]
    obtain ⟨hparameters, -⟩ := hsaved (fun m hm _ => hgives m (hms m hm))
      fun _ => (hused g hg).trans (hprompt g hg).symm
    exact ⟨hdone, horigin, record, hrendered.recorded, hrendered.prompt.trans (hused g hg),
      hparameters⟩

/-- A prompt between the generation and the save: the image is recorded with the one before, and the
file beside it has the one after. -/
theorem saved_parameters_later_prompt :
    let script : Script := { steps := [{ images := .inl [Image.solid .rgb 1 1 {}] }] }
    let e := { rehearsalEngine script with plugins := [{ kind := .saveMetadata }] }
    let w : Workflow := [.prompt "a", .generate, .prompt "b", .canvasSave "out.png"]
    ∃ r, (rehearsalSession.run e w).2 = .ok r ∧
      r.entries.map (·.outcome) = List.replicate 4 .executed ∧
      r.entries.head?.map (·.message) = some "Saved generated image: out.png" ∧
      r.scene.images.map (fun image => (image.prompt, image.savedAt)) =
        [("a", some ⟨["out.png"]⟩)] ∧
      (match r.scene.files.node? ⟨["out.txt"]⟩ with
        | some (.file (.text text)) => some text
        | _ => none) = some "b" := by
  intro script e w
  have h : (rehearsalSession.run e w).2 = .ok _ :=
    Session.run_of_ending (by decide) rfl rfl (by decide +kernel)
  exact ⟨_, h, by decide +kernel, by decide +kernel, by decide +kernel, by decide +kernel⟩

end Run

end ImageWorkflow
