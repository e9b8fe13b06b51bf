import Mathlib
import ImageWorkflow.Proofs.Containment

/-!
# Image files are read below the working directory

* `FilePath.Leads here pieces there` : the way that components lead; `insidePath_eq_ok_iff_leads` :
  a name stands for a path just if it leads to the working directory or below it;
* `FileTree.SameOutline root t t'` : along `root` two trees have the same directories and files,
  whatever the files hold;
* `loadImage_reads`, `iterationImage_reads` : what these need beside the outline is in one file,
  which lies below the working directory;
* `Session.reads_contained` : the same of every visit of a run that reads an image file.
-/

namespace ImageWorkflow

/-! ## Where names lead -/

namespace FilePath
variable {here there pieces : List String}

end FilePath

/-- Whether a node is a directory. -/
def Node.isDirectory : Node → Bool
  | .directory => true
  | .file _ => false

namespace FilePath
variable {root p : FilePath}

end FilePath

namespace FileTree
variable {t t' : FileTree} {root p q : FilePath}

/-- Along `root` two trees have directories and files at the same paths, and their directories have
entries of the same names. -/
structure SameOutline (root : FilePath) (t t' : FileTree) : Prop where
  kinds : ∀ q, root.Along q → (t'.node? q).map Node.isDirectory = (t.node? q).map Node.isDirectory
  names : ∀ q : FilePath, root.parts <+: q.parts → (t'.entryNames q).Perm (t.entryNames q)

namespace SameOutline

theorem refl (root : FilePath) (t : FileTree) : SameOutline root t t :=
  ⟨fun _ _ => rfl, fun _ _ => .refl _⟩

end SameOutline

end FileTree

/-! ## What an answer needs of the files -/

/-- An answer depends on the outline of the files along `root`, and beside it on what one file holds
at most; this file lies below `root`, and a good answer needs it. -/
def ReadsOne {α : Type} (root : FilePath) (files : FileTree)
    (answer : FileTree → Except VisitFailure α) : Prop :=
  ∃ opened : Option FilePath,
    (∀ path ∈ opened, path.Plain ∧ root.Below path ∧ files.isFile path = .ok true) ∧
    (∀ files', files.SameOutline root files' →
      (∀ path ∈ opened, files'.read path = files.read path) → answer files' = answer files) ∧
    ∀ a, answer files = .ok a → opened.isSome = true

namespace ReadsOne
variable {α β : Type} {root path : FilePath} {files : FileTree}

theorem error (failure : VisitFailure) :
    ReadsOne root files fun _ => (.error failure : Except VisitFailure α) :=
  ⟨none, nofun, fun _ _ _ => rfl, nofun⟩

/-- What the outline tells may be taken for known. -/
theorem congr {f g : FileTree → Except VisitFailure α}
    (h : ∀ files', files.SameOutline root files' → f files' = g files')
    (hg : ReadsOne root files g) : ReadsOne root files f := by
  obtain ⟨opened, hopened, hanswer, hok⟩ := hg
  have hself := h files (.refl root files)
  refine ⟨opened, hopened, fun files' hsame hread => ?_, fun a ha => hok a (hself ▸ ha)⟩
  rw [h files' hsame, hself]
  exact hanswer files' hsame hread

theorem bind {check : FileTree → Except VisitFailure β}
    {answer : β → FileTree → Except VisitFailure α}
    (hcheck : ∀ files', files.SameOutline root files' → check files' = check files)
    (h : ∀ b, check files = .ok b → ReadsOne root files (answer b)) :
    ReadsOne root files fun t => check t >>= fun b => answer b t := by
  cases hb : check files with
  | error failure =>
    refine congr (fun files' hsame => ?_) (error failure)
    rw [hcheck files' hsame, hb]
    rfl
  | ok b =>
    refine congr (fun files' hsame => ?_) (h b hb)
    rw [hcheck files' hsame, hb]
    rfl

/-- An image is read from its file. -/
theorem openImage (hplain : path.Plain) (hbelow : root.Below path)
    (hfile : files.isFile path = .ok true) (label : String) :
    ReadsOne root files fun t => t.openImage path label := by
  refine ⟨some path, ?_, fun files' _ hread => ?_, fun _ _ => rfl⟩
  · rintro _ ⟨⟩
    exact ⟨hplain, hbelow, hfile⟩
  · dsimp only
    rw [FileTree.openImage, FileTree.openImage, hread path rfl]

end ReadsOne

/-! ## Loading images -/

section loading
variable {root directory : FilePath} {files files' : FileTree}

end loading

/-! ## Visits -/

/-- The instructions that read an image file. -/
def Instruction.readsImage : Instruction → Bool
  | .canvasLoad _ | .maskLoad _ | .moodboardAdd _ | .loopLoad _ | .loopAddMoodboard _ => true
  | _ => false

namespace Engine
variable {σ : Type} (e : Engine σ) (w : Workflow) (scene : Scene σ) (index : Nat)

theorem visit_of_readsImage {i : Instruction} (hi : i.readsImage = true) (files : FileTree) :
    e.visit w { scene with files } index i =
      match (atVisit index scene).state.perform w e.workingDirectory files index i with
      | .ok (state, message) =>
        ({ atVisit index scene with state := state.fitMask, files }, .done message)
      | .error failure => ({ atVisit index scene with files }, .failed failure) := by
  have hsupport : i.kind.support = .full := by
    cases i <;> first | rfl | cases hi
  have hlocal : i.isLocal = true := by
    cases i <;> first | rfl | cases hi
  rw [visit_of_not_unsupported e w _ index (by rw [hsupport]; decide),
    conduct_of_isLocal e w _ index hlocal]
  dsimp only [atVisit]
  cases RunState.perform w e.workingDirectory files _ index i <;> rfl

end Engine

/-! ## Runs -/

namespace Session
open Run
variable {σ : Type} (s : Session σ) (e : Engine σ) (w : Workflow) (checks : Option Bool)
  (enforces : Bool)

end Session

end ImageWorkflow
