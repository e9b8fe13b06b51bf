import Mathlib
import ImageWorkflow.Engine.Visit
import ImageWorkflow.Proofs.Results

/-!
# Files, texts apart

What a text file holds makes no difference to what becomes of directories and images.
* `FileTree.textless` : the same directories and files, but with nothing in the text files;
  questions and changes leave `textless` alone, each in a lemma of its own;
* `FileTree.openImage_textless`, `loadImage_textless`, `iterationImage_textless` : images are read
  from the same files;
* `Engine.save_textless` : saves that differ in the parameters, but not in the prompt, leave the
  same files, texts apart.
-/

namespace ImageWorkflow

/-- The content, but for what a text says. -/
def Content.textless : Content → Content
  | .image i => .image i
  | .text _ => .text ""

/-- The node, but for what a text says. -/
def Node.textless : Node → Node
  | .directory => .directory
  | .file content => .file content.textless

namespace FileTree

/-- The directories and files, but for what texts say. -/
def textless (t : FileTree) : FileTree := ⟨t.nodes.map fun entry => (entry.1, entry.2.textless)⟩

variable (t : FileTree) (p : FilePath)

/-! ## Questions -/

@[simp] theorem node?_textless : t.textless.node? p = (t.node? p).map Node.textless := by
  unfold node? textless
  split
  · rfl
  · rw [List.find?_map, Option.map_map, Option.map_map]
    rfl

theorem follow_textless (here : FilePath) (parts : List String) :
    t.textless.follow here parts = t.follow here parts := by
  induction parts generalizing here with
  | nil => rfl
  | cons part rest ih =>
    rw [follow, follow, node?_textless]
    cases t.node? here with
    | none => rfl
    | some node =>
      cases node with
      | file => rfl
      | directory => simp only [Option.map_some, Node.textless, ih]

@[simp] theorem locate_textless : t.textless.locate p = t.locate p := by
  rw [locate, locate, follow_textless]

theorem get_textless : t.textless.get p = (t.get p).map Node.textless := by
  unfold get
  rw [locate_textless]
  cases t.locate p with
  | error => rfl
  | ok q =>
    dsimp only [bind, Except.bind]
    rw [node?_textless]
    cases t.node? q <;> rfl

theorem test_textless {test : Node → Bool} (h : ∀ n : Node, test n.textless = test n) :
    t.textless.test p test = t.test p test := by
  unfold FileTree.test
  rw [get_textless]
  cases t.get p with
  | error => rfl
  | ok n => exact congrArg Except.ok (h n)

@[simp] theorem isFile_textless : t.textless.isFile p = t.isFile p :=
  t.test_textless p fun n => by cases n <;> rfl

@[simp] theorem isDirectory_textless : t.textless.isDirectory p = t.isDirectory p :=
  t.test_textless p fun n => by cases n <;> rfl

theorem read_textless : t.textless.read p = (t.read p).map Content.textless := by
  unfold read
  rw [get_textless]
  cases t.get p with
  | error => rfl
  | ok n => cases n <;> rfl

@[simp] theorem openImage_textless (label : String) :
    t.textless.openImage p label = t.openImage p label := by
  unfold openImage
  rw [read_textless]
  cases t.read p with
  | error => rfl
  | ok content => cases content <;> rfl

@[simp] theorem entryNames_textless : t.textless.entryNames p = t.entryNames p := by
  unfold entryNames textless
  rw [List.filter_map, List.map_map]
  rfl

/-! ## Changes -/

theorem setNode_textless (n : Node) : t.textless.setNode p n.textless = (t.setNode p n).textless := by
  have hany : (t.textless.nodes.any fun entry => entry.1 == p) =
      t.nodes.any fun entry => entry.1 == p := by
    rw [textless, List.any_map]
    rfl
  unfold setNode
  rw [hany]
  split
  · simp only [textless, List.map_map, mk.injEq]
    refine List.map_congr_left fun entry _ => ?_
    simp only [Function.comp_apply]
    split <;> rfl
  · simp [textless]

theorem makeDirectory_textless :
    t.textless.makeDirectory p = (t.makeDirectory p).map textless := by
  unfold makeDirectory
  rw [locate_textless]
  cases t.locate p with
  | error => rfl
  | ok q =>
    dsimp only [bind, Except.bind]
    rw [node?_textless]
    cases t.node? q with
    | none => exact congrArg Except.ok (t.setNode_textless q .directory)
    | some => rfl

theorem ensureDirectory_textless :
    t.textless.ensureDirectory p = (t.ensureDirectory p).map textless id := by
  unfold ensureDirectory
  rw [makeDirectory_textless, isDirectory_textless]
  cases t.makeDirectory p with
  | ok => rfl
  | error error =>
    cases error with
    | nullInPath => rfl
    | fault fault q =>
      cases t.isDirectory p with
      | error => rfl
      | ok answer => cases answer <;> rfl

theorem makeDirectoriesWithin_textless (depth : Nat) : t.textless.makeDirectoriesWithin p depth =
    (t.makeDirectoriesWithin p depth).map textless id := by
  induction depth generalizing p with
  | zero => exact t.ensureDirectory_textless p
  | succ depth ih =>
    unfold makeDirectoriesWithin
    rw [makeDirectory_textless, ensureDirectory_textless, ih]
    cases t.makeDirectory p with
    | ok => rfl
    | error error =>
      cases error with
      | nullInPath => rfl
      | fault fault q =>
        cases fault with
        | notFound =>
          dsimp only [Except.map]
          split
          · rfl
          · generalize t.makeDirectoriesWithin p.parent depth = result
            obtain ⟨above, answer⟩ := result
            cases answer with
            | ok => exact above.ensureDirectory_textless p
            | error => rfl
        | _ => rfl

theorem makeDirectories_textless :
    t.textless.makeDirectories p = (t.makeDirectories p).map textless id :=
  t.makeDirectoriesWithin_textless p _

theorem write_textless (content : Content) :
    t.textless.write p content.textless = (t.write p content).map textless := by
  unfold write
  rw [locate_textless]
  cases t.locate p with
  | error => rfl
  | ok q =>
    have hset := congrArg (Except.ok (ε := FileError)) (t.setNode_textless q (.file content))
    dsimp only [bind, Except.bind]
    rw [node?_textless]
    cases t.node? q with
    | none => exact hset
    | some node =>
      cases node with
      | directory => rfl
      | file => exact hset

theorem writeImage_textless (image : Image) :
    t.textless.writeImage p image = (t.writeImage p image).map textless id := by
  have himage := t.write_textless p (.image image)
  have htext := t.write_textless p (.text "")
  unfold writeImage
  rw [get_textless]
  dsimp only [Content.textless] at himage htext
  rw [himage, htext]
  cases image.formatFault? with
  | none => cases t.write p (.image image) <;> rfl
  | some fault =>
    cases t.write p (.text "") with
    | error => rfl
    | ok written => cases t.get p <;> rfl

end FileTree

/-! ## Images that are read -/

section reading
variable (files : FileTree) (directory : FilePath)

theorem loadImage_textless (role : FileRole) (name : String) :
    loadImage directory files.textless role name = loadImage directory files role name := by
  unfold loadImage
  simp only [FileTree.isFile_textless, FileTree.openImage_textless]

theorem firstFile_textless (names : List String) :
    firstFile files.textless directory names = firstFile files directory names := by
  induction names with
  | nil => rfl
  | cons name names ih => rw [firstFile, firstFile, ih, FileTree.isFile_textless]

theorem iterationImage_textless (folder : String) (frame : LoopFrame) :
    iterationImage directory files.textless folder frame =
      iterationImage directory files folder frame := by
  unfold iterationImage imageNames
  simp only [FileTree.isDirectory_textless, FileTree.openImage_textless, firstFile_textless,
    FileTree.isFile_textless, FileTree.entryNames_textless]

end reading

/-! ## Plugins -/

/-- Two changes with the same answer that leave the same files, texts apart. -/
theorem alike_cases {ε α : Type} {x x' : FileTree × Except ε α}
    (h : x'.map FileTree.textless id = x.map FileTree.textless id) :
    ∃ files files' answer, x = (files, answer) ∧ x' = (files', answer) ∧
      files'.textless = files.textless := by
  obtain ⟨files, answer⟩ := x
  obtain ⟨files', answer'⟩ := x'
  obtain ⟨hfiles, hanswer⟩ := Prod.ext_iff.mp h
  exact ⟨files, files', answer, rfl, congrArg (files', ·) hanswer, hfiles⟩

namespace SavePlugin
variable (p : SavePlugin) (files : FileTree) (path : FilePath)

theorem beforeSave_textless :
    p.beforeSave files.textless path = (p.beforeSave files path).map FileTree.textless id := by
  unfold beforeSave
  cases p.kind with
  | passThrough => rfl
  | saveMetadata =>
    dsimp only
    split
    · rfl
    · split
      · rename_i folder _
        rw [FileTree.makeDirectories_textless]
        generalize files.makeDirectories (path.parent.join folder) = result
        obtain ⟨after, answer⟩ := result
        cases answer <;> rfl
      · rfl

/-- A file beside an image, but for what it says. -/
def Sidecar.textless (sidecar : Sidecar) : Sidecar := { sidecar with text := "" }

theorem writeSidecars_textless (sidecars : List (Except PluginError Sidecar)) :
    writeSidecars files.textless (sidecars.map (Except.map Sidecar.textless)) =
      (writeSidecars files sidecars).map FileTree.textless id := by
  induction sidecars generalizing files with
  | nil => rfl
  | cons first rest ih =>
    cases first with
    | error => rfl
    | ok sidecar =>
      have hwrite := files.write_textless sidecar.path (.text sidecar.text)
      dsimp only [Content.textless] at hwrite
      simp only [List.map_cons, Except.map, Sidecar.textless, writeSidecars, hwrite]
      cases files.write sidecar.path (.text sidecar.text) with
      | ok written => exact ih written
      | error error => cases error <;> rfl

variable {parameters parameters' : Members}

theorem promptFile_congr
    (h : Members.get? parameters' "prompt" = Members.get? parameters "prompt") :
    p.promptFile path parameters' = p.promptFile path parameters := by
  unfold promptFile
  rw [h]

/-- Where the parameters go does not depend on them. -/
theorem parameterFile_textless (parameters parameters' : Members) (image : Image) (now : String) :
    (p.parameterFile image path parameters' now).map Sidecar.textless =
      (p.parameterFile image path parameters now).map Sidecar.textless := by
  unfold parameterFile
  cases sibling path (p.sidecarStem path ++ ".json") <;> rfl

/-- What a plugin adds to a save leaves the same files, texts apart, whatever the parameters are but
for the prompt. -/
theorem afterSave_textless {files' : FileTree} (hfiles : files'.textless = files.textless)
    (h : Members.get? parameters' "prompt" = Members.get? parameters "prompt") (image : Image)
    (now : String) : (p.afterSave files' image path parameters' now).map FileTree.textless id =
      (p.afterSave files image path parameters now).map FileTree.textless id := by
  unfold afterSave
  cases p.kind with
  | passThrough => simp [hfiles]
  | saveMetadata =>
    dsimp only
    split
    · simp [hfiles]
    · rw [← writeSidecars_textless, ← writeSidecars_textless, hfiles, List.map_append,
        List.map_append, promptFile_congr p path h, List.map_singleton, List.map_singleton,
        p.parameterFile_textless path parameters parameters']

end SavePlugin

/-! ## Saves -/

namespace Engine

theorem redirect_textless (files : FileTree) (path : FilePath) (plugins : List SavePlugin) :
    redirect files.textless path plugins =
      (redirect files path plugins).map FileTree.textless id := by
  induction plugins generalizing files path with
  | nil => rfl
  | cons plugin rest ih =>
    rw [redirect, redirect, SavePlugin.beforeSave_textless]
    generalize plugin.beforeSave files path = result
    obtain ⟨after, answer⟩ := result
    cases answer with
    | ok path => exact ih after path
    | error => rfl

theorem writeWithDirectories_textless (files : FileTree) (path : FilePath) (image : Image) :
    writeWithDirectories files.textless path image =
      (writeWithDirectories files path image).map FileTree.textless id := by
  unfold writeWithDirectories
  rw [FileTree.makeDirectories_textless]
  generalize files.makeDirectories path.parent = result
  obtain ⟨after, answer⟩ := result
  cases answer with
  | ok => exact after.writeImage_textless path image
  | error => rfl

variable {files files' : FileTree} {parameters parameters' : Members}

theorem redirect_congr (hfiles : files'.textless = files.textless) (path : FilePath)
    (plugins : List SavePlugin) : (redirect files' path plugins).map FileTree.textless id =
      (redirect files path plugins).map FileTree.textless id := by
  rw [← redirect_textless, hfiles, redirect_textless]

theorem writeWithDirectories_congr (hfiles : files'.textless = files.textless) (path : FilePath)
    (image : Image) : (writeWithDirectories files' path image).map FileTree.textless id =
      (writeWithDirectories files path image).map FileTree.textless id := by
  rw [← writeWithDirectories_textless, hfiles, writeWithDirectories_textless]

theorem accompany_textless (hfiles : files'.textless = files.textless)
    (h : Members.get? parameters' "prompt" = Members.get? parameters "prompt") (image : Image)
    (path : FilePath) (now : String) (plugins : List SavePlugin) :
    (accompany files' image path parameters' now plugins).map FileTree.textless id =
      (accompany files image path parameters now plugins).map FileTree.textless id := by
  induction plugins generalizing files files' with
  | nil => exact congrArg (·, _) hfiles
  | cons plugin rest ih =>
    obtain ⟨after, after', answer, hafter, hafter', hsame⟩ :=
      alike_cases (plugin.afterSave_textless files path hfiles h image now)
    rw [accompany, accompany, hafter, hafter']
    cases answer with
    | ok => exact ih hsame
    | error => exact congrArg (·, _) hsame

/-- Saves that differ in the parameters, but not in the prompt, leave the same files, texts apart. -/
theorem save_textless {σ : Type} (e : Engine σ) (hfiles : files'.textless = files.textless)
    (h : Members.get? parameters' "prompt" = Members.get? parameters "prompt") (image : Image)
    (name : String) : (e.save files' image name parameters').map FileTree.textless id =
      (e.save files image name parameters).map FileTree.textless id := by
  unfold save
  dsimp only
  cases insidePath e.workingDirectory name with
  | error => exact congrArg (·, _) hfiles
  | ok path =>
    dsimp only
    obtain ⟨moved, moved', answer, hmoved, hmoved', hsame⟩ :=
      alike_cases (redirect_congr hfiles path (e.plugins.filter (·.isEnabled)))
    rw [hmoved, hmoved']
    cases answer with
    | error => exact congrArg (·, _) hsame
    | ok path =>
      dsimp only
      obtain ⟨written, written', answer, hwritten, hwritten', hsame⟩ :=
        alike_cases (writeWithDirectories_congr hsame path image)
      rw [hwritten, hwritten']
      cases answer with
      | error => exact congrArg (·, _) hsame
      | ok =>
        dsimp only
        obtain ⟨after, after', answer, hafter, hafter', hsame⟩ :=
          alike_cases (accompany_textless hsame h image path e.now
            (e.plugins.filter (·.isEnabled)))
        rw [hafter, hafter']
        cases answer <;> exact congrArg (·, _) hsame

end Engine

end ImageWorkflow
