import Mathlib
import ImageWorkflow.Proofs.Containment

/-!
# Files beside each other

Images that are written one after the other into one directory.
* `FilePath.Allowed p` : nothing is wrong with the text of `p`; `FileTree.locate_of_allowed` : then
  a path below a standing directory leads to itself;
* `FileTree.Writable t p` : a file can be written at `p`, once the directories above it are made;
* `FileTree.Wrote p image t t'` : so it was; `FileTree.Writable.exists_wrote` : if it can;
* `FileTree.Wrote.read`, `FileTree.Wrote.read_beside`, `FileTree.Wrote.writable` : the image is
  there, the images beside it stay, and more can be written beside it;
* `numberedName`, `numberedPath` : names that differ in a number, and the paths they stand for;
  `exists_numbered` : entries of one directory, `numberedPath_injective` : all different;
* `FileTree.Writable.write_numbered` : one of them after the other can be written.
-/

namespace ImageWorkflow

/-! ## Paths that files can have -/

namespace FilePath
variable {p q directory : FilePath} {a b : String}

/-- There is no null character in the path, and it is not too long, nor is a part of it. -/
structure Allowed (p : FilePath) : Prop where
  noNull : p.parts.any hasNull = false
  short : p.text.utf8ByteSize ≤ maxPathBytes
  parts : ∀ part ∈ p.parts, part.utf8ByteSize ≤ maxNameBytes

theorem Plain.child (h : directory.Plain) (ha : a ≠ "..") : (directory.child a).Plain := by
  intro hmem
  rcases List.mem_append.mp hmem with hmem | hmem
  · exact h hmem
  · exact ha (List.mem_singleton.mp hmem).symm

theorem child_inj : directory.child a = directory.child b ↔ a = b := by
  simp [FilePath.child]

theorem not_prefix_beside (h : a ≠ b) :
    ¬ (directory.child a).parts <+: (directory.child b).parts := by
  intro hshorter
  have hsame : directory.parts ++ [a] = directory.parts ++ [b] :=
    hshorter.eq_of_length (by simp [FilePath.child])
  exact h (by simpa using hsame)

theorem not_prefix_parent :
    ¬ (directory.child a).parts <+: (directory.child a).parent.parts := by
  intro hshorter
  have := hshorter.length_le
  simp [FilePath.child, FilePath.parent] at this

end FilePath

namespace FileTree
variable {t t' : FileTree} {p q here directory : FilePath} {parts : List String}
  {a b : String}

theorem size_of_follow (h : t.follow here parts = .ok q) (hplain : ".." ∉ parts) :
    ∀ part ∈ parts, part.utf8ByteSize ≤ maxNameBytes := by
  induction parts generalizing here with
  | nil => simp
  | cons part parts ih =>
    obtain ⟨hpart, hparts⟩ := not_or.mp (mt List.mem_cons.mpr hplain)
    rw [follow] at h
    split at h
    · cases h
    · cases h
    · rw [if_neg (Ne.symm hpart)] at h
      split at h
      · cases h
      · rename_i hsize
        exact List.forall_mem_cons.mpr ⟨Nat.not_lt.mp hsize, ih h hparts⟩

theorem follow_of_standing (hplain : ".." ∉ parts)
    (hsize : ∀ part ∈ parts, part.utf8ByteSize ≤ maxNameBytes)
    (h : t.Standing (FilePath.parent ⟨here.parts ++ parts⟩)) :
    t.follow here parts = .ok ⟨here.parts ++ parts⟩ := by
  induction parts generalizing here with
  | nil => simp [follow]
  | cons part parts ih =>
    obtain ⟨hpart, hparts⟩ := not_or.mp (mt List.mem_cons.mpr hplain)
    obtain ⟨hpartSize, hpartsSize⟩ := List.forall_mem_cons.mp hsize
    have hhere : t.node? here = some .directory := by
      apply h
      rw [FilePath.parent, List.dropLast_append_of_ne_nil (List.cons_ne_nil part parts)]
      exact List.prefix_append _ _
    have hsame : here.parts ++ part :: parts = (here.child part).parts ++ parts := by
      simp [FilePath.child]
    rw [follow, hhere, if_neg (Ne.symm hpart), if_neg (Nat.not_lt.mpr hpartSize), hsame]
    exact ih hparts hpartsSize (hsame ▸ h)

theorem allowed_of_locate (hp : p.Plain) (h : t.locate p = .ok q) : p.Allowed := by
  unfold locate at h
  split at h
  · cases h
  · rename_i hnull
    split at h
    · cases h
    · rename_i hshort
      exact ⟨Bool.not_eq_true _ ▸ hnull, Nat.not_lt.mp hshort,
        size_of_follow (mapError_eq_ok.mp h) hp⟩

theorem locate_of_allowed (hp : p.Plain) (ha : p.Allowed) (h : t.Standing p.parent) :
    t.locate p = .ok p := by
  have hfollow : t.follow ⟨[]⟩ p.parts = .ok p := follow_of_standing hp ha.parts h
  rw [locate, ha.noNull, if_neg Bool.false_ne_true, if_neg (Nat.not_lt.mpr ha.short), hfollow]
  rfl

/-! ## Directories -/

theorem exists_locate_of_ensureDirectory (h : t.ensureDirectory p = (t', .ok ())) :
    ∃ q, t.locate p = .ok q := by
  unfold ensureDirectory at h
  split at h
  · rename_i hmade
    obtain ⟨q, hq, -⟩ := bind_eq_ok.mp hmade
    exact ⟨q, hq⟩
  · cases h
  · split at h
    · rename_i hdirectory
      unfold isDirectory test at hdirectory
      split at hdirectory
      · rename_i hget
        obtain ⟨q, hq, -⟩ := bind_eq_ok.mp hget
        exact ⟨q, hq⟩
      · cases hdirectory
      · cases hdirectory
    · cases h
    · cases h

theorem allowed_of_makeDirectories (hp : p.Plain) (h : t.makeDirectories p = (t', .ok ())) :
    p.Allowed := by
  have hensure {u : FileTree} (h : u.ensureDirectory p = (t', .ok ())) : p.Allowed := by
    obtain ⟨q, hq⟩ := exists_locate_of_ensureDirectory h
    exact allowed_of_locate hp hq
  unfold makeDirectories at h
  generalize p.parts.length = depth at h
  cases depth with
  | zero => exact hensure h
  | succ depth =>
    rw [makeDirectoriesWithin] at h
    split at h
    · split at h
      · cases h
      · split at h
        · exact hensure h
        · cases h
    · exact hensure h

/-- Directories that are there already stay as they are. -/
theorem makeDirectories_of_standing (hp : p.Plain) (ha : p.Allowed) (h : t.Standing p) :
    t.makeDirectories p = (t, .ok ()) := by
  have hlocate : t.locate p = .ok p := locate_of_allowed hp ha (h.mono (List.dropLast_prefix _))
  have hnode : t.node? p = some .directory := h p (List.prefix_refl _)
  have hmake : t.makeDirectory p = .error (.fault .exists p) := by
    simp [makeDirectory, hlocate, hnode, bind, Except.bind]
  have hdirectory : t.isDirectory p = .ok true := by
    simp [isDirectory, test, get, hlocate, hnode, bind, Except.bind, pure, Except.pure]
  have hensure : t.ensureDirectory p = (t, .ok ()) := by
    simp [ensureDirectory, hmake, hdirectory]
  unfold makeDirectories
  cases p.parts.length with
  | zero => exact hensure
  | succ depth => simp [makeDirectoriesWithin, hmake, hensure]

/-- Nothing changes but the directories themselves. -/
theorem makeDirectories_elsewhere (hp : p.Plain) (hq : ¬ q.parts <+: p.parts) :
    (t.makeDirectories p).1.node? q = t.node? q := by
  have hensure {u : FileTree} {p : FilePath} (hp : p.Plain) (hq : ¬ q.parts <+: p.parts) :
      (u.ensureDirectory p).1.node? q = u.node? q := by
    unfold ensureDirectory
    split
    · rename_i hmade
      obtain ⟨rfl, -⟩ := makeDirectory_eq_ok hmade
      apply node?_setNode_of_ne
      rw [hp.normalize]
      rintro rfl
      exact hq (List.prefix_refl _)
    · rfl
    · split <;> rfl
  have hwithin (depth : Nat) : (t.makeDirectoriesWithin p depth).1.node? q = t.node? q := by
    induction depth generalizing p with
    | zero => exact hensure hp hq
    | succ depth ih =>
      have habove := ih hp.parent fun hshorter => hq (hshorter.trans (List.dropLast_prefix _))
      rw [makeDirectoriesWithin]
      split
      · split
        · rfl
        · split
          · rename_i hmade
            rw [hmade] at habove
            rw [hensure hp hq, habove]
          · rename_i hmade
            rwa [hmade] at habove
      · exact hensure hp hq
  exact hwithin _

/-! ## Images -/

/-- A file can be written at the path, once the directories above it are made. -/
def Writable (t : FileTree) (p : FilePath) : Prop :=
  ∃ above content written,
    t.makeDirectories p.parent = (above, .ok ()) ∧ above.write p content = .ok written

/-- From one tree to the other an image was written at `p`, and the directories above it made. -/
structure Wrote (p : FilePath) (image : Image) (before after : FileTree) : Prop where
  standing : after.Standing p.parent
  here : after.node? p = some (.file (.image image))
  elsewhere : ∀ q, ¬ q.parts <+: p.parts → after.node? q = before.node? q

theorem write_of_standing {content : Content} (hp : p.Plain) (ha : p.Allowed)
    (h : t.Standing p.parent) (hn : t.node? p ≠ some .directory) :
    t.write p content = .ok (t.setNode p (.file content)) := by
  unfold write
  rw [locate_of_allowed hp ha h]
  simp only [bind, Except.bind]
  rfl

theorem Writable.allowed (hp : p.Plain) (h : t.Writable p) : p.Allowed := by
  obtain ⟨above, content, written, -, hwrite⟩ := h
  obtain ⟨q, hq, -⟩ := bind_eq_ok.mp hwrite
  exact allowed_of_locate hp hq

theorem Writable.allowed_parent (hp : p.Plain) (h : t.Writable p) : p.parent.Allowed := by
  obtain ⟨above, content, written, hmade, -⟩ := h
  exact allowed_of_makeDirectories hp.parent hmade

/-- What can be written once can be written again below directories that are there. -/
theorem writable_of_standing (hp : p.Plain) (ha : p.Allowed) (hparent : p.parent.Allowed)
    (h : t.Standing p.parent) (hn : t.node? p ≠ some .directory) : t.Writable p :=
  ⟨t, .text "", _, makeDirectories_of_standing hp.parent hparent h, write_of_standing hp ha h hn⟩

/-- There is no directory where a file can be written. -/
theorem Writable.node? (h : t.Writable (directory.child a)) (hp : (directory.child a).Plain) :
    t.node? (directory.child a) ≠ some .directory := by
  obtain ⟨above, content, written, hmade, hwrite⟩ := h
  obtain ⟨-, hn⟩ := write_eq_ok hwrite
  have hsame := makeDirectories_elsewhere (t := t) hp.parent FilePath.not_prefix_parent
  rw [hmade] at hsame
  rw [hp.normalize] at hn
  exact hsame ▸ hn

/-- An image is written where a file can be. -/
theorem Writable.exists_wrote {image : Image} (h : t.Writable (directory.child a))
    (hp : (directory.child a).Plain) (himage : image.formatFault? = none) :
    ∃ t', Engine.writeWithDirectories t (directory.child a) image = (t', .ok ()) ∧
      Wrote (directory.child a) image t t' := by
  have hn := h.node? hp
  have ha := h.allowed hp
  obtain ⟨above, -, -, hmade, -⟩ := h
  have hstanding : above.Standing (directory.child a).parent :=
    hp.parent.normalize ▸ standing_makeDirectories hmade
  have hsame (q : FilePath) (hq : ¬ q.parts <+: (directory.child a).parent.parts) :
      above.node? q = t.node? q := by
    have := makeDirectories_elsewhere (t := t) hp.parent hq
    rwa [hmade] at this
  have hn : above.node? (directory.child a) ≠ some .directory :=
    (hsame _ FilePath.not_prefix_parent).symm ▸ hn
  refine ⟨above.setNode (directory.child a) (.file (.image image)), ?_, ?_, ?_, ?_⟩
  · rw [Engine.writeWithDirectories, hmade]
    simp [writeImage, himage, write_of_standing hp ha hstanding hn]
  · have hchanges : ChangesWithin (· = directory.child a) above
        (above.setNode (directory.child a) (.file (.image image))) := .setNode rfl hn
    exact hchanges.standing hstanding
  · apply node?_setNode_self
    simp [FilePath.child]
  · intro q hq
    rw [node?_setNode_of_ne, hsame q fun hshorter => hq (hshorter.trans (List.dropLast_prefix _))]
    rintro rfl
    exact hq (List.prefix_refl _)

section wrote
variable {image : Image}

/-- The image can be read. -/
theorem Wrote.read (h : Wrote p image t t') (hp : p.Plain) (ha : p.Allowed) :
    t'.read p = .ok (.image image) := by
  simp [FileTree.read, get, locate_of_allowed hp ha h.standing, h.here, bind, Except.bind, pure,
    Except.pure]

/-- What is beside the image stays. -/
theorem Wrote.read_beside {content : Content} (h : Wrote (directory.child a) image t t')
    (hab : b ≠ a) (hp : (directory.child b).Plain)
    (hread : t.read (directory.child b) = .ok content) :
    t'.read (directory.child b) = .ok content := by
  have hsame : t'.node? (directory.child b) = t.node? (directory.child b) :=
    h.elsewhere _ (FilePath.not_prefix_beside hab)
  obtain ⟨node, hget, hread⟩ := bind_eq_ok.mp hread
  obtain ⟨q, hq, hget⟩ := bind_eq_ok.mp hget
  have hlocate : t'.locate (directory.child b) = .ok q := by
    rw [locate_of_allowed hp (allowed_of_locate hp hq) (by simpa using h.standing),
      (locate_eq_ok hq).1, hp.normalize]
  rw [(locate_eq_ok hq).1, hp.normalize] at hlocate hget
  rw [← hsame] at hget
  show (t'.get (directory.child b) >>= _) = _
  rw [get, hlocate]
  exact bind_eq_ok.mpr ⟨node, hget, hread⟩

/-- More can be written beside the image. -/
theorem Wrote.writable (h : Wrote (directory.child a) image t t') (hab : b ≠ a)
    (hp : (directory.child b).Plain) (hb : t.Writable (directory.child b)) :
    t'.Writable (directory.child b) := by
  apply writable_of_standing hp (hb.allowed hp) (hb.allowed_parent hp)
  · simpa using h.standing
  · rw [h.elsewhere _ (FilePath.not_prefix_beside hab)]
    exact hb.node? hp

/-- So can the image itself be written again. -/
theorem Wrote.writable_again (h : Wrote p image t t') (hp : p.Plain) (hb : t.Writable p) :
    t'.Writable p := by
  apply writable_of_standing hp (hb.allowed hp) (hb.allowed_parent hp) h.standing
  rw [h.here]
  exact nofun

end wrote

end FileTree

/-! ## Numbered names -/

/-- The names of a series of images. -/
def numberedName (stem : String) (k : Int) : String := s!"{stem}{k}.png"

theorem exists_splitOn {α : Type} [BEq α] [LawfulBEq α] (a : α) (l : List α) :
    ∃ front last, ∀ tail, a ∉ tail → (l ++ tail).splitOn a = front ++ [last ++ tail] := by
  induction l with
  | nil =>
    refine ⟨[], [], fun tail htail => ?_⟩
    apply List.splitOnP_eq_singleton
    intro x hx
    exact beq_false_of_ne fun hxa => htail (hxa ▸ hx)
  | cons x l ih =>
    obtain ⟨front, last, ih⟩ := ih
    have hcons (tail : List α) : (x :: l ++ tail).splitOn a =
        if x == a then [] :: (l ++ tail).splitOn a
        else ((l ++ tail).splitOn a).modifyHead (List.cons x) :=
      List.splitOnP_cons_eq_if_modifyHead x (l ++ tail)
    by_cases hx : (x == a) = true
    · refine ⟨[] :: front, last, fun tail htail => ?_⟩
      rw [hcons, if_pos hx, ih tail htail]
      rfl
    · cases front with
      | nil =>
        refine ⟨[], x :: last, fun tail htail => ?_⟩
        rw [hcons, if_neg hx, ih tail htail]
        rfl
      | cons first front =>
        refine ⟨(x :: first) :: front, last, fun tail htail => ?_⟩
        rw [hcons, if_neg hx, ih tail htail]
        rfl

/-- The end of a name without slashes belongs to its last component. -/
theorem exists_componentsOf (stem : String) : ∃ parts front, ∀ tail : String, '/' ∉ tail.toList →
    2 < tail.length → FilePath.componentsOf (stem ++ tail) = parts ++ [front ++ tail] := by
  obtain ⟨front, last, hsplit⟩ := exists_splitOn '/' stem.toList
  refine ⟨(front.map String.ofList).filter fun part => part != "" && part != ".",
    String.ofList last, fun tail htail hlength => ?_⟩
  have hlong (s : String) (hs : s.length ≤ 2) : String.ofList last ++ tail ≠ s := by
    intro heq
    have := congrArg String.length heq
    rw [String.length_append] at this
    omega
  rw [FilePath.componentsOf, String.toList_append, hsplit _ htail, List.map_append,
    List.filter_append]
  have hlast : String.ofList (last ++ tail.toList) = String.ofList last ++ tail := by
    rw [String.ofList_append, String.ofList_toList]
  simp [hlast, hlong "" (by decide), hlong "." (by decide)]

/-- A number is written in digits, and with a sign. -/
theorem notMem_toString {c : Char} (hdigit : c.isDigit = false) (hsign : c ≠ '-') (k : Int) :
    c ∉ (toString k).toList := by
  have hdigits (n : Nat) : c ∉ n.repr.toList := by
    rw [Nat.toList_repr]
    intro hmem
    have := Nat.isDigit_of_mem_toDigits (by decide) (by decide) hmem
    rw [hdigit] at this
    cases this
  show c ∉ k.repr.toList
  rw [Int.repr_eq_if]
  split
  · exact hdigits _
  · rw [String.toList_append, List.mem_append, not_or]
    exact ⟨by simpa using hsign, hdigits _⟩

theorem numberedName_eq (stem : String) (k : Int) :
    numberedName stem k = stem ++ (toString k ++ ".png") := String.append_assoc

theorem numberedName_injective (stem : String) : Function.Injective (numberedName stem) := by
  intro k l h
  rw [numberedName_eq, numberedName_eq, String.append_right_inj, String.append_left_inj] at h
  exact Int.repr_injective h

theorem isAbsolute_append {stem tail : String} (h : '/' ∉ tail.toList) :
    FilePath.isAbsolute (stem ++ tail) = FilePath.isAbsolute stem := by
  unfold FilePath.isAbsolute
  rw [String.toList_append, List.head?_append]
  cases stem.toList with
  | nil =>
    cases htail : tail.toList with
    | nil => rfl
    | cons c rest =>
      have hc : c ≠ '/' := by
        rintro rfl
        simp [htail] at h
      simp [hc]
  | cons c rest => rfl

/-- The names of a series stand for entries of one directory. -/
theorem exists_numbered (root : FilePath) (stem : String) :
    ∃ (directory : FilePath) (front : String), directory.Plain ∧ ∀ k,
      numberedName front k ≠ ".." ∧
        root.resolve (numberedName stem k) = directory.child (numberedName front k) := by
  obtain ⟨parts, front, hparts⟩ := exists_componentsOf stem
  have hslash (k : Int) : '/' ∉ (toString k ++ ".png").toList := by
    rw [String.toList_append, List.mem_append, not_or]
    exact ⟨notMem_toString (by decide) (by decide) k, by decide⟩
  have hlong (k : Int) : (toString k ++ ".png").length = (toString k).length + 4 :=
    String.length_append _ _
  have hcomponents (k : Int) :
      FilePath.componentsOf (numberedName stem k) = parts ++ [numberedName front k] := by
    rw [numberedName_eq, numberedName_eq]
    exact hparts _ (hslash k) (by have := hlong k; omega)
  have hname (k : Int) : numberedName front k ≠ ".." := by
    intro heq
    have hlength : (numberedName front k).length = 2 := by rw [heq]; rfl
    have := hlong k
    rw [numberedName_eq, String.length_append] at hlength
    omega
  -- the directory is what is in front of the last component, seen from where the name begins
  refine ⟨(if FilePath.isAbsolute stem then ⟨parts⟩ else ⟨root.parts ++ parts⟩ :
    FilePath).normalize, front, FilePath.plain_normalize _, fun k => ⟨hname k, ?_⟩⟩
  have hnormalize (parts : List String) : FilePath.normalize ⟨parts ++ [numberedName front k]⟩ =
      (FilePath.normalize ⟨parts⟩).child (numberedName front k) := by
    simp [FilePath.normalize, FilePath.child, FilePath.descend, hname k]
  have habsolute : FilePath.isAbsolute (numberedName stem k) = FilePath.isAbsolute stem := by
    rw [numberedName_eq]
    exact isAbsolute_append (hslash k)
  rw [FilePath.resolve, FilePath.join, habsolute, FilePath.parse, hcomponents, ← List.append_assoc]
  split <;> exact hnormalize _

/-! ## Numbered images -/

/-- The path of a name of a series, seen from a directory. -/
def numberedPath (root : FilePath) (stem : String) (k : Int) : FilePath :=
  root.resolve (numberedName stem k)

theorem numberedPath_injective (root : FilePath) (stem : String) :
    Function.Injective (numberedPath root stem) := by
  obtain ⟨directory, front, -, hnumbered⟩ := exists_numbered root stem
  intro k l h
  rw [numberedPath, numberedPath, (hnumbered k).2, (hnumbered l).2, FilePath.child_inj] at h
  exact numberedName_injective front h

/-- An image of a series is written beside the others: it can be read, the others stay, and where
there was no image yet there can be one as before. -/
theorem FileTree.Writable.write_numbered {t : FileTree} {root : FilePath} {stem : String} {k : Int}
    {image : Image} (h : t.Writable (numberedPath root stem k))
    (himage : image.formatFault? = none) :
    ∃ t', Engine.writeWithDirectories t (numberedPath root stem k) image = (t', .ok ()) ∧
      t'.read (numberedPath root stem k) = .ok (.image image) ∧
      (∀ l content, l ≠ k → t.read (numberedPath root stem l) = .ok content →
        t'.read (numberedPath root stem l) = .ok content) ∧
      ∀ l, t.Writable (numberedPath root stem l) → t'.Writable (numberedPath root stem l) := by
  obtain ⟨directory, front, hdirectory, hnumbered⟩ := exists_numbered root stem
  have hpath (k : Int) : numberedPath root stem k = directory.child (numberedName front k) :=
    (hnumbered k).2
  have hplain (k : Int) : (directory.child (numberedName front k)).Plain :=
    hdirectory.child (hnumbered k).1
  have hne {k l : Int} (hkl : l ≠ k) : numberedName front l ≠ numberedName front k :=
    fun heq => hkl (numberedName_injective front heq)
  simp only [hpath] at h ⊢
  obtain ⟨t', hwritten, hwrote⟩ := h.exists_wrote (hplain k) himage
  refine ⟨t', hwritten, hwrote.read (hplain k) (h.allowed (hplain k)), ?_, ?_⟩
  · intro l content hl
    exact hwrote.read_beside (hne hl) (hplain l)
  · intro l hwritable
    by_cases hl : l = k
    · subst hl
      exact hwrote.writable_again (hplain l) hwritable
    · exact hwrote.writable (hne hl) (hplain l) hwritable

end ImageWorkflow
