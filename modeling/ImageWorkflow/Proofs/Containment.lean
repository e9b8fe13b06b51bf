import Mathlib
import ImageWorkflow.Proofs.Footprint
import ImageWorkflow.Proofs.Records

/-!
# Saves write below the working directory

* `insidePath_eq_ok` : which names stand for a path, and for which;
* `FilePath.Inside root path` : the directory of `path` is `root` or lies below it;
* `Engine.redirect_inside`, `Engine.accompany_changes` : plugins keep an image inside and write
  beside it;
* `Engine.save_changes` : a save changes what lies below the working directory only, unless
  `Engine.LeadsOut`: its name stands for the working directory itself, and a plugin takes that
  directory for an image to be moved into a folder beside it;
* `Session.writes_contained` : the same of every visit of a run, and of the run.
-/

namespace ImageWorkflow

/-- The names that stand for a path, and the path. -/
theorem insidePath_eq_ok {directory path : FilePath} {name : String} :
    insidePath directory name = .ok path ↔
      name ≠ "" ∧ FilePath.hasNull name = false ∧ directory.normalize.resolve name = path ∧
        directory.normalize.parts <+: path.parts := by
  unfold insidePath refuseVisit
  dsimp only
  split
  · rename_i hempty
    exact ⟨nofun, fun h => absurd hempty h.1⟩
  · rename_i hempty
    split
    · rename_i hnull
      refine ⟨nofun, fun h => ?_⟩
      rw [h.2.1] at hnull
      cases hnull
    · rename_i hnull
      split
      · rename_i hcontains
        constructor
        · rintro ⟨⟩
          exact ⟨hempty, Bool.not_eq_true _ ▸ hnull, rfl, List.isPrefixOf_iff_prefix.mp hcontains⟩
        · rintro ⟨-, -, rfl, -⟩
          rfl
      · rename_i hcontains
        refine ⟨nofun, ?_⟩
        rintro ⟨-, -, rfl, hbelow⟩
        exact absurd (List.isPrefixOf_iff_prefix.mpr hbelow) hcontains

/-! ## Plugins -/

namespace FilePath
variable {root path : FilePath}

/-- The directory of the path is `root` or lies below it. -/
structure Inside (root path : FilePath) : Prop where
  plain : root.PlainBelow path
  under : root.parts <+: path.parent.parts

theorem inside_root (path : FilePath) : Inside ⟨[]⟩ path :=
  ⟨fun hroot => absurd rfl hroot, List.nil_prefix⟩

theorem Inside.along (h : root.Inside path) : root.Along path :=
  .inl (h.under.trans (List.dropLast_prefix _))

theorem Below.inside (h : root.Below path.normalize) (hpath : root.PlainBelow path) :
    root.Inside path := by
  by_cases hroot : root = ⟨[]⟩
  · exact hroot ▸ inside_root path
  · rw [(hpath hroot).normalize] at h
    exact ⟨hpath, h.prefix_parent⟩

end FilePath

namespace SavePlugin
variable {p : SavePlugin} {files : FileTree} {root path path' : FilePath}

/-- The plugin puts images into a folder of its own. -/
def hasFolder (p : SavePlugin) : Bool :=
  p.kind == .saveMetadata && (p.isEnabled && (p.option "folder_name" .null).isTruthy)

/-- If the plugin is given a folder, it is a relative name without `..`, such as a single
component. -/
def FolderBelow (p : SavePlugin) : Prop :=
  ∀ folder, p.option "folder_name" .null = .str folder →
    FilePath.isAbsolute folder = false ∧ ".." ∉ FilePath.componentsOf folder

theorem beforeSave_of_hasFolder_eq_false (h : p.hasFolder = false) (files : FileTree)
    (path : FilePath) : p.beforeSave files path = (files, .ok path) := by
  unfold hasFolder at h
  unfold beforeSave
  split
  · rfl
  · rename_i hkind
    rw [hkind, beq_self_eq_true, Bool.true_and] at h
    dsimp only
    rw [h]
    rfl

theorem beforeSave_inside (ht : files.Standing root) (hp : root ≠ ⟨[]⟩ → p.FolderBelow)
    (hpath : root.Inside path) :
    files.ChangesWithin root.Below (p.beforeSave files path).1 ∧
      ∀ path', (p.beforeSave files path).2 = .ok path' → root.Inside path' := by
  have hsame : ∀ path', (Except.ok path : Except PluginError FilePath) = .ok path' →
      root.Inside path' := by
    rintro _ ⟨⟩
    exact hpath
  unfold beforeSave
  split
  · exact ⟨.refl files, hsame⟩
  · dsimp only
    split
    · exact ⟨.refl files, hsame⟩
    · split
      · rename_i folder hfolder
        have hdirectory : root.PlainBelow (path.parent.join folder) ∧
            root.parts <+: (path.parent.join folder).parts := by
          by_cases hroot : root = ⟨[]⟩
          · exact ⟨fun h => absurd hroot h, hroot ▸ List.nil_prefix⟩
          · obtain ⟨hrelative, hplain⟩ := hp hroot folder hfolder
            rw [FilePath.join, hrelative, if_neg Bool.false_ne_true]
            refine ⟨fun _ hmem => ?_, hpath.under.trans (List.prefix_append _ _)⟩
            exact (List.mem_append.mp hmem).elim (hpath.plain hroot).parent hplain
        obtain ⟨hplain, hunder⟩ := hdirectory
        have hchanges := FileTree.makeDirectories_changes ht hplain (.inl hunder)
        split
        · rename_i hmade
          rw [hmade] at hchanges
          refine ⟨hchanges, ?_⟩
          rintro _ ⟨⟩
          cases hlast : path.parts.getLast? with
          | none =>
            -- `path` is the root of all paths, and so is what it lies below
            have hunder := hpath.under
            rw [FilePath.parent, List.getLast?_eq_none_iff.mp hlast] at hunder
            obtain rfl : root = ⟨[]⟩ := congrArg FilePath.mk (List.prefix_nil.mp hunder)
            exact FilePath.inside_root _
          | some name =>
            refine ⟨fun hroot hmem => ?_, ?_⟩
            · obtain hmem | hmem := List.mem_append.mp hmem
              · exact hplain hroot hmem
              · obtain rfl := List.mem_singleton.mp hmem
                exact hpath.plain hroot (List.mem_of_getLast? hlast)
            · exact ((path.parent.join folder).parent_child name).symm ▸ hunder
        · rename_i hmade
          rw [hmade] at hchanges
          exact ⟨hchanges, nofun⟩
      · exact ⟨.refl files, nofun⟩

/-- Files written one after the other along a standing directory lie below it. -/
theorem writeSidecars_changes {sidecars : List (Except PluginError Sidecar)}
    (ht : files.Standing root)
    (h : ∀ sidecar, .ok sidecar ∈ sidecars → root.Along sidecar.path.normalize) :
    files.ChangesWithin root.Below (writeSidecars files sidecars).1 := by
  induction sidecars generalizing files with
  | nil => exact .refl files
  | cons first rest ih =>
    cases first with
    | error error => exact .refl files
    | ok sidecar =>
      rw [writeSidecars]
      split
      · rename_i hwritten
        obtain ⟨-, hchanges⟩ :=
          FileTree.write_changes ht (h sidecar List.mem_cons_self) hwritten
        exact hchanges.trans (ih (hchanges.standing ht)
          fun sidecar hmem => h sidecar (List.mem_cons_of_mem _ hmem))
      · exact .refl files
      · exact .refl files

theorem sibling_eq_ok {name : String} (h : sibling path name = .ok path') :
    ∃ part, path' = path.parent.child part := by
  unfold sibling at h
  split at h
  · split at h
    · cases h
    · cases h
      exact ⟨_, rfl⟩
  · cases h

theorem along_of_promptFile {parameters : Members} {sidecar : Sidecar} (hpath : root.Inside path)
    (h : p.promptFile path parameters = .ok sidecar) : root.Along sidecar.path.normalize := by
  obtain ⟨target, htarget, h⟩ := bind_eq_ok.mp h
  obtain ⟨part, rfl⟩ := sibling_eq_ok htarget
  split at h
  · cases h
    exact hpath.plain.parent.along_normalize_child hpath.under part
  · cases h

theorem along_of_parameterFile {image : Image} {parameters : Members} {now : String}
    {sidecar : Sidecar} (hpath : root.Inside path)
    (h : p.parameterFile image path parameters now = .ok sidecar) :
    root.Along sidecar.path.normalize := by
  obtain ⟨target, htarget, h⟩ := bind_eq_ok.mp h
  obtain ⟨part, rfl⟩ := sibling_eq_ok htarget
  cases h
  exact hpath.plain.parent.along_normalize_child hpath.under part

theorem afterSave_changes (ht : files.Standing root) (hpath : root.Inside path) (image : Image)
    (parameters : Members) (now : String) :
    files.ChangesWithin root.Below (p.afterSave files image path parameters now).1 := by
  unfold afterSave
  split
  · exact .refl files
  · split
    · exact .refl files
    · refine writeSidecars_changes ht fun sidecar hmem => ?_
      obtain hmem | hmem := List.mem_append.mp hmem
      · split at hmem
        · exact along_of_promptFile hpath (List.mem_singleton.mp hmem).symm
        · cases hmem
      · exact along_of_parameterFile hpath (List.mem_singleton.mp hmem).symm

end SavePlugin

/-! ## Saves -/

namespace Engine
variable {files : FileTree} {root path : FilePath} {plugins : List SavePlugin}

theorem redirect_of_hasFolder_eq_false (h : ∀ p ∈ plugins, p.hasFolder = false)
    (files : FileTree) (path : FilePath) : redirect files path plugins = (files, .ok path) := by
  induction plugins with
  | nil => rfl
  | cons plugin rest ih =>
    obtain ⟨hplugin, hrest⟩ := List.forall_mem_cons.mp h
    rw [redirect, SavePlugin.beforeSave_of_hasFolder_eq_false hplugin]
    exact ih hrest

theorem redirect_inside (ht : files.Standing root)
    (hplugins : root ≠ ⟨[]⟩ → ∀ p ∈ plugins, p.FolderBelow) (hpath : root.Inside path) :
    files.ChangesWithin root.Below (redirect files path plugins).1 ∧
      ∀ path', (redirect files path plugins).2 = .ok path' → root.Inside path' := by
  induction plugins generalizing files path with
  | nil =>
    refine ⟨.refl files, ?_⟩
    rintro _ ⟨⟩
    exact hpath
  | cons plugin rest ih =>
    obtain ⟨hchanges, hinside⟩ := SavePlugin.beforeSave_inside ht
      (fun hroot => (List.forall_mem_cons.mp (hplugins hroot)).1) hpath
    rw [redirect]
    split
    · rename_i hbefore
      rw [hbefore] at hchanges hinside
      obtain ⟨hchanges', hinside'⟩ := ih (hchanges.standing ht)
        (fun hroot => (List.forall_mem_cons.mp (hplugins hroot)).2) (hinside _ rfl)
      exact ⟨hchanges.trans hchanges', hinside'⟩
    · rename_i hbefore
      rw [hbefore] at hchanges
      exact ⟨hchanges, nofun⟩

theorem accompany_changes (ht : files.Standing root) (hpath : root.Inside path) (image : Image)
    (parameters : Members) (now : String) (plugins : List SavePlugin) :
    files.ChangesWithin root.Below (accompany files image path parameters now plugins).1 := by
  induction plugins generalizing files with
  | nil => exact .refl files
  | cons plugin rest ih =>
    have hchanges := plugin.afterSave_changes ht hpath image parameters now
    rw [accompany]
    split
    · rename_i hafter
      rw [hafter] at hchanges
      exact hchanges.trans (ih (hchanges.standing ht))
    · rename_i hafter
      rwa [hafter] at hchanges

theorem writeWithDirectories_changes (ht : files.Standing root) (hpath : root.PlainBelow path)
    (h : root.Along path) (image : Image) :
    files.ChangesWithin root.Below (writeWithDirectories files path image).1 ∧
      ((writeWithDirectories files path image).2 = .ok () → root.Inside path) := by
  have hchanges := FileTree.makeDirectories_changes ht hpath.parent h.parent
  unfold writeWithDirectories
  split
  · rename_i hmade
    rw [hmade] at hchanges
    obtain ⟨hchanges', hbelow⟩ :=
      FileTree.writeImage_changes (hchanges.standing ht) (hpath.along_normalize h) image
    exact ⟨hchanges.trans hchanges', fun hok => (hbelow hok).inside hpath⟩
  · rename_i hmade
    rw [hmade] at hchanges
    exact ⟨hchanges, nofun⟩

variable {σ : Type} (e : Engine σ)

/-- A save changes what lies below a standing directory only, if the plugins leave its path along
that directory. -/
theorem save_changes_of_redirect {image : Image} {name : String} {parameters : Members}
    (ht : files.Standing root)
    (h : ∀ path, insidePath e.workingDirectory name = .ok path →
      let answer := redirect files path (e.plugins.filter (·.isEnabled))
      files.ChangesWithin root.Below answer.1 ∧
        ∀ path', answer.2 = .ok path' → root.PlainBelow path' ∧ root.Along path') :
    files.ChangesWithin root.Below (e.save files image name parameters).1 := by
  unfold save
  dsimp only
  split
  · exact .refl files
  · rename_i path hpath
    obtain ⟨hredirect, halong⟩ := h path hpath
    split
    · rename_i hanswer
      rwa [hanswer] at hredirect
    · rename_i hanswer
      rw [hanswer] at hredirect halong
      obtain ⟨hplain, halong⟩ := halong _ rfl
      obtain ⟨hwrite, hinside⟩ :=
        writeWithDirectories_changes (hredirect.standing ht) hplain halong image
      split
      · rename_i hwritten
        rw [hwritten] at hwrite
        exact hredirect.trans hwrite
      · rename_i hwritten
        rw [hwritten] at hwrite hinside
        have hwrite := hredirect.trans hwrite
        have haccompany := accompany_changes (hwrite.standing ht) (hinside rfl) image parameters
          e.now (e.plugins.filter (·.isEnabled))
        split
        · rename_i haccompanied
          rw [haccompanied] at haccompany
          exact hwrite.trans haccompany
        · rename_i haccompanied
          rw [haccompanied] at haccompany
          exact hwrite.trans haccompany

/-- The name stands for the working directory itself, and a plugin has a folder: the image goes into
this folder beside the working directory. -/
def MayLeadOut (name : String) : Prop :=
  insidePath e.workingDirectory name = .ok e.workingDirectory.normalize ∧
    ∃ p ∈ e.plugins, p.hasFolder = true

variable {e} {name : String}

theorem plain_of_insidePath (h : insidePath e.workingDirectory name = .ok path) : path.Plain := by
  obtain ⟨-, -, rfl, -⟩ := insidePath_eq_ok.mp h
  exact FilePath.plain_normalize _

/-- A save changes what lies below a standing directory only, if its name stands for a path
inside. -/
theorem save_changes_of_inside (ht : files.Standing root)
    (hplugins : root ≠ ⟨[]⟩ → ∀ p ∈ e.plugins, p.FolderBelow)
    (h : ∀ path, insidePath e.workingDirectory name = .ok path → root.Inside path) (image : Image)
    (parameters : Members) :
    files.ChangesWithin root.Below (e.save files image name parameters).1 := by
  refine e.save_changes_of_redirect ht fun path hpath => ?_
  obtain ⟨hchanges, hinside⟩ := redirect_inside ht
    (fun hroot p hp => hplugins hroot p (List.mem_of_mem_filter hp)) (h path hpath)
  exact ⟨hchanges, fun path' hpath' => ⟨(hinside path' hpath').plain, (hinside path' hpath').along⟩⟩

theorem save_changes (ht : files.Standing e.workingDirectory.normalize)
    (hplugins : ∀ p ∈ e.plugins, p.FolderBelow) (hname : ¬ e.MayLeadOut name) (image : Image)
    (parameters : Members) : files.ChangesWithin e.workingDirectory.normalize.Below
      (e.save files image name parameters).1 := by
  by_cases hroot : insidePath e.workingDirectory name = .ok e.workingDirectory.normalize
  · -- no plugin moves the image, and a directory cannot be written over
    have hnone : ∀ p ∈ e.plugins.filter (·.isEnabled), p.hasFolder = false := by
      intro p hp
      rw [← Bool.not_eq_true]
      exact fun hfolder => hname ⟨hroot, p, List.mem_of_mem_filter hp, hfolder⟩
    refine e.save_changes_of_redirect ht fun path hpath => ?_
    dsimp only
    rw [redirect_of_hasFolder_eq_false hnone]
    refine ⟨.refl files, ?_⟩
    rintro _ ⟨⟩
    exact ⟨fun _ => plain_of_insidePath hpath, .inl (insidePath_eq_ok.mp hpath).2.2.2⟩
  · refine save_changes_of_inside ht (fun _ => hplugins) (fun path hpath => ?_) image parameters
    have hne : path ≠ e.workingDirectory.normalize := by
      rintro rfl
      exact hroot hpath
    exact ⟨fun _ => plain_of_insidePath hpath,
      FilePath.Below.prefix_parent ⟨(insidePath_eq_ok.mp hpath).2.2.2, hne⟩⟩

/-- Wherever a save leads, it does not get beyond the directory of the working directory. -/
theorem save_changes_parent (ht : files.Standing e.workingDirectory.normalize)
    (hplugins : ∀ p ∈ e.plugins, p.FolderBelow) (name : String) (image : Image)
    (parameters : Members) : files.ChangesWithin e.workingDirectory.normalize.parent.Below
      (e.save files image name parameters).1 :=
  save_changes_of_inside (ht.mono (List.dropLast_prefix _)) (fun _ => hplugins)
    (fun _ hpath => ⟨fun _ => plain_of_insidePath hpath,
      FilePath.parent_prefix_parent (insidePath_eq_ok.mp hpath).2.2.2⟩) image parameters

/-- Whatever folders the plugins have, a save leaves all directories. -/
theorem save_changes_root (files : FileTree) (name : String) (image : Image)
    (parameters : Members) : files.ChangesWithin (FilePath.Below ⟨[]⟩)
      (e.save files image name parameters).1 :=
  save_changes_of_inside files.standing_root (fun hroot => absurd rfl hroot)
    (fun path _ => FilePath.inside_root path) image parameters

end Engine

/-! ## Visits -/

/-- The name under which an instruction saves the canvas. -/
def Instruction.savedName? (frame? : Option LoopFrame) : Instruction → Option String
  | .canvasSave name => some name
  | .loopSave stem => frame?.map fun frame => s!"{stem}{frame.current}.png"
  | _ => none

namespace Engine
variable {σ : Type} (e : Engine σ) (w : Workflow) (scene : Scene σ) (index : Nat)

theorem renderAndSave_files (name : String) :
    (e.renderAndSave scene index name).1.files = scene.files ∨
      ∃ image parameters, (e.renderAndSave scene index name).1.files =
        (e.save scene.files image name parameters).1 := by
  have hsettled := e.settleSave_files scene index
  unfold renderAndSave
  split
  · rename_i hanswer
    rw [hanswer] at hsettled
    exact .inl hsettled
  · rename_i after source hanswer
    rw [hanswer] at hsettled
    split
    · exact .inl hsettled
    · rename_i canvas _
      refine .inr ⟨canvas.image, e.saveParameters after.state index, ?_⟩
      rw [← hsettled]
      dsimp only
      split <;> rename_i hsave <;> rw [hsave]

/-- Only saves change files, each by a save under the name that the instruction gives. -/
theorem conduct_files (i : Instruction) :
    (e.conduct w scene index i).1.files = scene.files ∨
      ∃ name image parameters, i.savedName? scene.state.frame? = some name ∧
        (e.conduct w scene index i).1.files = (e.save scene.files image name parameters).1 := by
  obtain hlocal | ⟨target, htarget⟩ | rfl | ⟨name, rfl⟩ | ⟨stem, rfl⟩ := i.carrier_cases
  · rw [conduct_of_isLocal e w scene index hlocal]
    split <;> exact .inl rfl
  · rw [conduct_of_tool e w scene index htarget]
    unfold applyTool
    split
    · exact .inl rfl
    · dsimp only
      split
      · exact .inl rfl
      · split <;> exact .inl rfl
  · have hrender := e.render_files scene index
    rw [conduct_generate]
    split <;> rename_i hanswer <;> rw [hanswer] at hrender <;> exact .inl hrender
  · refine (e.renderAndSave_files scene index name).imp_right ?_
    rintro ⟨image, parameters, h⟩
    exact ⟨name, image, parameters, rfl, h⟩
  · rw [conduct_loopSave, RunState.requireFrame]
    cases hframe : scene.state.frame? with
    | none => exact .inl rfl
    | some frame =>
      refine (e.renderAndSave_files scene index _).imp_right ?_
      rintro ⟨image, parameters, h⟩
      exact ⟨_, image, parameters, rfl, h⟩

theorem visit_files (i : Instruction) :
    (e.visit w scene index i).1.files = scene.files ∨
      ∃ name image parameters, i.savedName? scene.state.frame? = some name ∧
        (e.visit w scene index i).1.files = (e.save scene.files image name parameters).1 := by
  by_cases hi : i.kind.support = .unsupported
  · rw [visit, if_pos hi]
    exact .inl rfl
  · have h := conduct_files e w (atVisit index scene) index i
    rw [visit_of_not_unsupported e w scene index hi]
    generalize e.conduct w (atVisit index scene) index i = result at h ⊢
    obtain ⟨after, answer⟩ := result
    cases answer <;> exact h

end Engine

/-! ## Runs -/

namespace Run
variable {σ : Type} {e : Engine σ} {w : Workflow} {r r' : Run σ} {i : Instruction}
  {vs : List (Run σ × Instruction)}

/-- The visit saves under a name that may lead out of the working directory. -/
def MayLeadOut (e : Engine σ) (v : Run σ × Instruction) : Prop :=
  ∃ name, v.2.savedName? v.1.scene.state.frame? = some name ∧ e.MayLeadOut name

/-- A visit changes what a save under its name changes. -/
theorem visited_changes {root : FilePath}
    (h : ∀ name image parameters, i.savedName? r.scene.state.frame? = some name →
      r.scene.files.ChangesWithin root.Below (e.save r.scene.files image name parameters).1) :
    r.scene.files.ChangesWithin root.Below (r.visited e w i).scene.files := by
  rw [visited_scene, visitDue]
  obtain hsame | ⟨name, image, parameters, hname, hsave⟩ :=
    e.visit_files w r.scene r.scene.state.counter i
  · rw [hsame]
    exact .refl _
  · rw [hsave]
    exact h name image parameters hname

/-- The working directory stands at every visit. -/
theorem Course.standing {root : FilePath} (h : Course e w r vs r')
    (hr : r.scene.files.Standing root) : ∀ v ∈ vs, v.1.scene.files.Standing root :=
  (h.keeps (P := fun q => q.scene.files.Standing root) (fun q _ hq _ =>
    (visited_changes fun name image parameters _ =>
      Engine.save_changes_root q.scene.files name image parameters).standing hq) hr).2

theorem visited_changes_below (ht : r.scene.files.Standing e.workingDirectory.normalize)
    (hplugins : ∀ p ∈ e.plugins, p.FolderBelow) (h : ¬ MayLeadOut e (r, i)) :
    r.scene.files.ChangesWithin e.workingDirectory.normalize.Below
      (r.visited e w i).scene.files :=
  visited_changes fun name image parameters hname =>
    Engine.save_changes ht hplugins (fun hout => h ⟨name, hname, hout⟩) image parameters

theorem Course.changes (h : Course e w r vs r') (hplugins : ∀ p ∈ e.plugins, p.FolderBelow)
    (hr : r.scene.files.Standing e.workingDirectory.normalize) (hvs : ∀ v ∈ vs, ¬ MayLeadOut e v) :
    r.scene.files.ChangesWithin e.workingDirectory.normalize.Below r'.scene.files := by
  induction h with
  | nil r => exact .refl _
  | cons _ _ ih =>
    obtain ⟨hv, hvs⟩ := List.forall_mem_cons.mp hvs
    have hchanges := visited_changes_below (w := w) hr hplugins hv
    exact hchanges.trans (ih (hchanges.standing hr) hvs)

end Run

namespace Session
open Run
variable {σ : Type} {s : Session σ} {e : Engine σ} {w : Workflow} {checks : Option Bool}
  {enforces : Bool} {r : Run σ}

/-- A run that is not refused has its working directory. -/
theorem standing_start (h : ¬ s.Refuses e w checks enforces) :
    (s.start e w checks).scene.files.Standing e.workingDirectory.normalize := by
  have hfiles : (s.start e w checks).scene.files =
      (s.files.makeDirectories e.workingDirectory).1 := rfl
  rw [hfiles]
  cases hmade : s.files.makeDirectories e.workingDirectory with
  | mk files answer =>
    cases answer with
    | ok => exact FileTree.standing_makeDirectories hmade
    | error error =>
      refine absurd ?_ h
      rw [Refuses, run, hmade]
      split
      · exact ⟨_, rfl, by simp⟩
      split
      · exact ⟨_, rfl, by simp⟩
      · exact ⟨_, rfl, by simp⟩

/-- Every visit of a run changes what lies strictly below the working directory only, unless it
saves under a name that stands for the working directory itself while a plugin has a folder; then it
does not get beyond the directory of the working directory.  No directory gives way. -/
theorem writes_contained (s : Session σ) (w : Workflow) (checks : Option Bool) (enforces : Bool)
    (hplugins : ∀ p ∈ e.plugins, p.FolderBelow) :
    s.Refuses e w checks enforces ∨ ∃ vs stopped, s.Carries e w checks enforces vs stopped ∧
      (∀ v ∈ vs, ¬ MayLeadOut e v → v.1.scene.files.ChangesWithin
        e.workingDirectory.normalize.Below (v.1.visitDue e w v.2).1.files) ∧
      (∀ v ∈ vs, v.1.scene.files.ChangesWithin
        e.workingDirectory.normalize.parent.Below (v.1.visitDue e w v.2).1.files) ∧
      ((∀ v ∈ vs, ¬ MayLeadOut e v) → (s.start e w checks).scene.files.ChangesWithin
        e.workingDirectory.normalize.Below (s.run e w checks enforces).1.files) := by
  refine (refuses_or_carries s e w checks enforces).imp_right ?_
  rintro ⟨vs, stopped, hcarries⟩
  obtain ⟨last, hc, hscene⟩ := hcarries.visits.exists_course
  have hstart := standing_start hcarries.not_refuses
  have hstanding := hc.standing hstart
  refine ⟨vs, stopped, hcarries, fun v hv hout => ?_, fun v hv => ?_, fun hvs => ?_⟩
  · rw [← visited_scene]
    exact visited_changes_below (hstanding v hv) hplugins hout
  · rw [← visited_scene]
    exact visited_changes fun name image parameters _ =>
      Engine.save_changes_parent (hstanding v hv) hplugins name image parameters
  · rw [hcarries.files, hscene]
    exact hc.changes hplugins hstart hvs

/-- A plugin with a folder and a prefix: everything is written below the working directory. -/
theorem writes_contained_with_folder :
    let e : Engine Rehearsal :=
      { rehearsalEngine { steps := [{ images := .inl [Image.solid .rgb 1 1 {}] }] } with
        workingDirectory := ⟨["work"]⟩
        plugins := [{ kind := .saveMetadata
                      options := [("folder_name", .str "sub"), ("filename_prefix", .str "p")] }] }
    let w : Workflow := [.prompt "a", .canvasSave "a.png"]
    ∃ r, (rehearsalSession.run e w).2 = .ok r ∧
      (r.scene.files.node? ⟨["work", "sub", "a.png"]⟩).isSome = true ∧
      (r.scene.files.node? ⟨["work", "sub", "p_a.json"]⟩).isSome = true ∧
      (rehearsalSession.start e w none).scene.files.ChangesWithin
        (FilePath.Below ⟨["work"]⟩) r.scene.files := by
  intro e w
  have h : (rehearsalSession.run e w).2 = .ok _ :=
    Session.run_of_ending (by decide) rfl rfl (by decide +kernel)
  have hplugins : ∀ p ∈ e.plugins, p.FolderBelow := by
    intro p hp folder hfolder
    obtain rfl := List.mem_singleton.mp hp
    cases hfolder
    decide
  obtain ⟨vs, stopped, hcarries, -, -, hcontained⟩ :=
    (writes_contained rehearsalSession w none false hplugins).resolve_left (not_refuses_of_ok h)
  obtain ⟨last, hc, -⟩ := hcarries.visits.exists_course
  have hnone : ∀ v ∈ vs, ¬ MayLeadOut e v := by
    rintro v hv ⟨name, hname, hroot, -⟩
    obtain ⟨us, vs', rfl⟩ := List.append_of_mem hv
    have hmem := List.mem_of_getElem? hc.split.1.here
    obtain hprompt | hsave : v.2 = .prompt "a" ∨ v.2 = .canvasSave "a.png" := by
      simpa [w] using hmem
    · rw [hprompt] at hname
      cases hname
    · rw [hsave] at hname
      cases hname
      obtain ⟨-, -, hpath, -⟩ := insidePath_eq_ok.mp hroot
      exact absurd hpath (by decide)
  have hfiles := hcontained hnone
  rw [run_eq h] at hfiles
  exact ⟨_, h, by decide +kernel, by decide +kernel, hfiles⟩

/-- A save under `.` with a plugin that has a folder: the image goes beside the working
directory. -/
theorem writes_beside_working_directory :
    let e : Engine Rehearsal :=
      { rehearsalEngine { steps := [{ images := .inl [Image.solid .rgb 1 1 {}] }] } with
        workingDirectory := ⟨["work"]⟩
        plugins := [{ kind := .saveMetadata, options := [("folder_name", .str "sub")] }] }
    let w : Workflow := [.prompt "a", .canvasSave "."]
    ∃ r, (rehearsalSession.run e w).2 = .ok r ∧
      r.entries.head?.map (fun entry => (entry.outcome, entry.message)) =
        some (.executed, "Saved txt2img image: .") ∧
      (∀ p ∈ e.plugins, p.FolderBelow) ∧
      ((rehearsalSession.start e w none).scene.files.node? ⟨["sub", "work"]⟩).isSome = false ∧
      (r.scene.files.node? ⟨["sub", "work"]⟩).isSome = true ∧
      ¬ FilePath.Below ⟨["work"]⟩ ⟨["sub", "work"]⟩ := by
  intro e w
  have h : (rehearsalSession.run e w).2 = .ok _ :=
    Session.run_of_ending (by decide) rfl rfl (by decide +kernel)
  refine ⟨_, h, by decide +kernel, ?_, by decide +kernel, by decide +kernel, by decide⟩
  intro p hp folder hfolder
  obtain rfl := List.mem_singleton.mp hp
  cases hfolder
  decide

end Session

end ImageWorkflow
