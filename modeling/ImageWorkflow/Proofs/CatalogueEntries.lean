import Mathlib
import ImageWorkflow.Proofs.Results
import ImageWorkflow.Provider.Http

/-!
# What the entries of a catalogue say

A catalogue that is answered has one entry for each item of a known form, in the order of the items.
* `Catalogue.Form` : how an item may stand for an entry: as a text, or as an object of some shape;
  `Catalogue.listing` : the items of an answer, with the form that they are to have;
* `Catalogue.Form.Shows` : what the entry of an item says; `Catalogue.Form.forall₂_shows` : the
  entries of items say that of those with the form, and of no others; `Catalogue.entries_eq` : such
  are the entries of an answer;
* `Catalogue.fetch_entries` : so do those of a catalogue that is asked for.  Their names are texts;
  their files are, just if no name has something beside it as its file that is no text
  (`Catalogue.Form.NamesFile`);
* `Catalogue.fetch_file_not_text` : that may happen.
-/

namespace ImageWorkflow

/-- The value is a text. -/
def Json.IsText (value : Json) : Prop := ∃ text, value = .str text

theorem Json.isText_of_str? {value : Json} (h : value.str?.isSome = true) : value.IsText := by
  cases value with
  | str text => exact ⟨text, rfl⟩
  | _ => cases h

/-- What takes the place of a value that counts as nothing is a text. -/
theorem Members.isText_valueOr {m : Members} {key fallback : String} :
    (m.valueOr key fallback).IsText ↔
      ∀ value, m.get? key = some value → value.isTruthy = true → value.IsText := by
  unfold valueOr
  split
  · rename_i value hvalue
    rw [hvalue]
    split
    · rename_i htruthy
      simp [htruthy]
    · rename_i hempty
      simp [hempty, Json.IsText]
  · rename_i hnone
    simp [hnone, Json.IsText]

/-- What holds of all entries, when it is told by the items that they are in relation to. -/
theorem forall_mem_iff_of_forall₂ {α β : Type} {R : α → β → Prop} {P : α → Prop} {Q : β → Prop}
    {as : List α} {bs : List β} (h : List.Forall₂ R as bs) (hR : ∀ a b, R a b → (Q b ↔ P a)) :
    (∀ b ∈ bs, Q b) ↔ ∀ a ∈ as, P a := by
  induction h with
  | nil => simp
  | cons hab _ ih => rw [List.forall_mem_cons, List.forall_mem_cons, hR _ _ hab, ih]

namespace Catalogue

/-! ## Forms of items -/

/-- A shape of objects: there is a text under `key`.  It is the name of the file that is under
`fileKey`, if the shape has that, and else the file itself. -/
structure Shape where
  key : String
  fileKey : Option String

/-- How an item may stand for an entry. -/
structure Form where
  /-- Whether a text stands for the file. -/
  texts : Bool
  /-- The shapes that an object may have; the first that it has counts. -/
  shapes : List Shape

namespace Form
variable {f : Form} {m : Members} {item : Json} {entry : CatalogueEntry}

/-- The shape of an object, if it has one. -/
def shapeOf? (f : Form) (m : Members) : Option Shape :=
  f.shapes.find? fun shape => (m.text? shape.key).isSome

/-- Whether an item has the form. -/
def recognises (f : Form) : Json → Bool
  | .str _ => f.texts
  | .object m => (f.shapeOf? m).isSome
  | _ => false

/-- What the entry of an item says: a file, or a name and the file beside it, where the name stands
for a file that counts as nothing. -/
inductive Shows (f : Form) : Json → CatalogueEntry → Prop
  | text (file : String) : Shows f (.str file) { filename := .str file }
  | file {m : Members} {shape : Shape} {file : String} : f.shapeOf? m = some shape →
      shape.fileKey = none → m.text? shape.key = some file →
      Shows f (.object m) { filename := .str file }
  | named {m : Members} {shape : Shape} {key name : String} : f.shapeOf? m = some shape →
      shape.fileKey = some key → m.text? shape.key = some name →
      Shows f (.object m) { filename := m.valueOr key name, name := .str name }

/-- What stands beside a name as its file is a text, or counts as nothing. -/
def NamesFile (f : Form) (item : Json) : Prop :=
  ∀ m shape key, item = .object m → f.shapeOf? m = some shape → shape.fileKey = some key →
    ∀ value, Members.get? m key = some value → value.isTruthy = true → value.IsText

theorem Shows.isText_name (h : f.Shows item entry) : entry.name.IsText := by
  cases h with
  | text file => exact ⟨"", rfl⟩
  | file => exact ⟨"", rfl⟩
  | named => exact ⟨_, rfl⟩

theorem Shows.isText_filename_iff (h : f.Shows item entry) :
    entry.filename.IsText ↔ f.NamesFile item := by
  cases h with
  | text file => exact iff_of_true ⟨file, rfl⟩ (by rintro _ _ _ ⟨⟩)
  | @file m shape file hshape hfile _ =>
    refine iff_of_true ⟨file, rfl⟩ ?_
    rintro _ shape' key ⟨⟩ hshape' hkey
    obtain rfl := Option.some.inj (hshape.symm.trans hshape')
    cases hfile.symm.trans hkey
  | @named m shape key name hshape hfile _ =>
    rw [Members.isText_valueOr]
    constructor
    · rintro h _ shape' key' ⟨⟩ hshape' hkey'
      obtain rfl := Option.some.inj (hshape.symm.trans hshape')
      obtain rfl := Option.some.inj (hfile.symm.trans hkey')
      exact h
    · exact fun h => h m shape key rfl hshape hfile

theorem namesFile_of_not_recognises (h : f.recognises item = false) : f.NamesFile item := by
  rintro m shape key rfl hshape
  rw [recognises, hshape] at h
  cases h

/-! ## Entries by form -/

/-- The entry of an object of a shape, with the text under the shape's key. -/
def entryOf (m : Members) (shape : Shape) (text : String) : CatalogueEntry :=
  match shape.fileKey with
  | none => { filename := .str text }
  | some key => { filename := m.valueOr key text, name := .str text }

/-- The entry that an item of the form stands for. -/
def shown? (f : Form) : Json → Option CatalogueEntry
  | .str file => if f.texts then some { filename := .str file } else none
  | .object m => (f.shapeOf? m).bind fun shape => (Members.text? m shape.key).map (entryOf m shape)
  | _ => none

/-- There is an entry for the items of the form and for no others. -/
theorem shown?_cases (f : Form) (item : Json) :
    (f.recognises item = true ∧ ∃ entry, f.shown? item = some entry ∧ f.Shows item entry) ∨
      (f.recognises item = false ∧ f.shown? item = none) := by
  cases item with
  | str file =>
    cases htexts : f.texts with
    | true => exact .inl ⟨htexts, _, if_pos htexts, .text file⟩
    | false => exact .inr ⟨htexts, by simp [shown?, htexts]⟩
  | object m =>
    cases hshape : f.shapeOf? m with
    | none => exact .inr ⟨by simp [recognises, hshape], by simp [shown?, hshape]⟩
    | some shape =>
      have hsome := List.find?_some (p := fun shape : Shape => (Members.text? m shape.key).isSome)
        hshape
      obtain ⟨text, htext⟩ := Option.isSome_iff_exists.mp hsome
      refine .inl ⟨by simp [recognises, hshape], entryOf m shape text, ?_, ?_⟩
      · simp [shown?, hshape, htext]
      · unfold entryOf
        split
        · rename_i hfile
          exact .file hshape hfile htext
        · rename_i key hfile
          exact .named hshape hfile htext
  | _ => exact .inr ⟨rfl, rfl⟩

theorem forall₂_shows (f : Form) (items : List Json) :
    List.Forall₂ f.Shows (items.filter f.recognises) (items.filterMap f.shown?) := by
  induction items with
  | nil => exact .nil
  | cons item items ih =>
    obtain ⟨hitem, entry, hentry, hshows⟩ | ⟨hitem, hnone⟩ := f.shown?_cases item
    · rw [List.filter_cons_of_pos hitem, List.filterMap_cons_some hentry]
      exact .cons hshows ih
    · rw [List.filter_cons_of_neg (by simp [hitem]), List.filterMap_cons_none hnone]
      exact ih

end Form

/-! ## Answers -/

/-- The items of an answer, with the form that they are to have. -/
structure Listing where
  form : Form
  items : List Json

/-- The shapes of the objects in a list. -/
def shapes : Catalogue → List Shape
  | .models => [⟨"title", some "model_name"⟩, ⟨"model_name", none⟩, ⟨"name", some "filename"⟩]
  | .loras => [⟨"name", some "path"⟩, ⟨"alias", none⟩]

/-- The form of the items of a list. -/
def listForm (c : Catalogue) : Form := ⟨true, c.shapes⟩

/-- The form of names. -/
def namesForm : Form := ⟨true, []⟩

/-- The form of objects that have a name. -/
def dataForm : Form := ⟨false, [⟨"name", none⟩]⟩

/-- What is listed in an answer: the items of a list, an object's list of names, or else its list of
objects that have a name. -/
def listing (c : Catalogue) : Json → Listing
  | .array items => ⟨c.listForm, items⟩
  | .object m =>
    match Members.items? m c.listKey, Members.items? m "data" with
    | some names, _ => ⟨namesForm, names⟩
    | none, some data => ⟨dataForm, data⟩
    | none, none => ⟨namesForm, []⟩
  | _ => ⟨namesForm, []⟩

theorem modelOf?_eq (m : Members) : modelOf? m = (listForm .models).shown? (.object m) := by
  -- which of the keys have a text decides on both sides
  cases htitle : Members.text? m "title" <;> cases hfile : Members.text? m "model_name" <;>
    cases hname : Members.text? m "name" <;>
    simp [modelOf?, Form.shown?, Form.entryOf, Form.shapeOf?, listForm, shapes, htitle, hfile,
      hname]

theorem loraOf?_eq (m : Members) : loraOf? m = (listForm .loras).shown? (.object m) := by
  cases hname : Members.text? m "name" <;> cases hfile : Members.text? m "alias" <;>
    simp [loraOf?, Form.shown?, Form.entryOf, Form.shapeOf?, listForm, shapes, hname, hfile]

theorem itemOf?_eq (c : Catalogue) : c.itemOf? = c.listForm.shown? := by
  funext item
  cases item with
  | object m =>
    cases c with
    | models => exact modelOf?_eq m
    | loras => exact loraOf?_eq m
  | _ => rfl

theorem nameOf?_eq : nameOf? = namesForm.shown? := by
  funext item
  cases item <;> rfl

theorem datumOf?_eq : datumOf? = dataForm.shown? := by
  funext item
  cases item with
  | object m =>
    have hdatum : datumOf? (.object m) = (Members.text? m "name").map fun file =>
        { filename := .str file } := by
      cases hget : Members.get? m "name" <;>
        simp [datumOf?, nameOf?, Json.get?, Json.members?, Members.text?, hget]
    rw [hdatum]
    cases hname : Members.text? m "name" <;>
      simp [Form.shown?, Form.entryOf, Form.shapeOf?, dataForm, hname]
  | _ => rfl

theorem entries_eq (c : Catalogue) (answer : Json) :
    c.entries answer = (c.listing answer).items.filterMap (c.listing answer).form.shown? := by
  cases answer with
  | array items => rw [entries, listing, itemOf?_eq]
  | object m =>
    simp only [entries, listing, nameOf?_eq, datumOf?_eq]
    cases Members.items? m c.listKey <;> cases Members.items? m "data" <;> rfl
  | _ => rfl

/-- The file and the name of an entry, as far as they are texts. -/
def textsOf (entry : CatalogueEntry) : Option String × Option String :=
  (entry.filename.str?, entry.name.str?)

/-! ## Catalogues that are asked for -/

/-- What is asked for is answered, if the request can be made up. -/
theorem send_of_isOk {c : Configuration} {e : Exchange} {method : HttpMethod} {path : String}
    {members : Option Members} (h : (e.request c method path members).isOk = true) :
    (e.send c method path members).1 = .ok (e.answer e.requests.length) := by
  unfold Exchange.send
  split
  · rename_i error herror
    rw [herror] at h
    cases h
  · rfl

theorem exists_answer (body : String)
    (h : ((Json.parseEncoded body).bind Except.toOption).isSome = true) :
    ∃ answer, Json.parseEncoded body = some (.ok answer) := by
  cases hbody : Json.parseEncoded body with
  | none => simp [hbody] at h
  | some result =>
    cases result with
    | ok answer => exact ⟨answer, rfl⟩
    | error fault => simp [hbody, Except.toOption] at h

/-- What comes of a catalogue that is asked for and answered with some JSON: the entries of the
items that have a known form, in their order.  Their names are texts.  So are their files, unless
something that is no text and does not count as nothing stands beside a name as its file. -/
theorem fetch_entries {c : Configuration} {e : Exchange} {catalogue : Catalogue} {body : String}
    {answer : Json} (hsent : (e.send c .get catalogue.path none).1 = .ok (.response 200 body))
    (hbody : Json.parseEncoded body = some (.ok answer)) :
    let listing := catalogue.listing answer
    ∃ entries, (HttpProvider.fetch c e catalogue).1 = .ok entries ∧
      List.Forall₂ listing.form.Shows (listing.items.filter listing.form.recognises) entries ∧
      (∀ entry ∈ entries, entry.name.IsText) ∧
      ((∀ entry ∈ entries, entry.filename.IsText) ↔
        ∀ item ∈ listing.items, listing.form.NamesFile item) := by
  intro listing
  have hshown := listing.form.forall₂_shows listing.items
  rw [← catalogue.entries_eq] at hshown
  refine ⟨catalogue.entries answer, ?_, hshown, ?_, ?_⟩
  · rcases hsend : e.send c .get catalogue.path none with ⟨reply, e'⟩
    rw [hsend] at hsent
    cases hsent
    have hvalue (complaint : String) : HttpProvider.valueOf complaint 200 body = .ok answer := by
      simp [HttpProvider.valueOf, HttpProvider.successStatus, hbody]
    simp only [HttpProvider.fetch, hsend, hvalue]
  · refine (forall_mem_iff_of_forall₂ (P := fun _ => True) hshown fun item entry h => ?_).mpr
      fun _ _ => trivial
    exact iff_of_true h.isText_name trivial
  · -- items without the form have no file that could be at fault
    rw [forall_mem_iff_of_forall₂ hshown fun _ _ h => h.isText_filename_iff]
    refine ⟨fun h item hitem => ?_, fun h item hitem => h item (List.mem_of_mem_filter hitem)⟩
    by_cases hform : listing.form.recognises item = true
    · exact h item (List.mem_filter.mpr ⟨hitem, hform⟩)
    · exact Form.namesFile_of_not_recognises (Bool.not_eq_true _ ▸ hform)

/-- Beside the first name is nothing, and beside the last one its file; a number is passed over. -/
theorem fetch_entries_two_names :
    let body := "[\x7b\"title\": \"Base\", \"model_name\": null\x7d, 7, \"flux.ckpt\", " ++
      "\x7b\"name\": \"Wide\", \"filename\": \"wide.ckpt\"\x7d]"
    let e : Exchange :=
      { server := { scheme := "http", host := "127.0.0.1", port := some 7860 }
        answers := [.response 200 body] }
    (e.send {} .get models.path none).1 = .ok (.response 200 body) ∧
      ∃ answer entries, Json.parseEncoded body = some (.ok answer) ∧
        (∀ item ∈ (models.listing answer).items, (models.listing answer).form.NamesFile item) ∧
        (HttpProvider.fetch {} e .models).1 = .ok entries ∧
        entries.map textsOf =
          [(some "Base", some "Base"), (some "flux.ckpt", some ""),
            (some "wide.ckpt", some "Wide")] := by
  intro body e
  have hsent : (e.send {} .get models.path none).1 = .ok (.response 200 body) :=
    send_of_isOk (by decide +kernel)
  obtain ⟨answer, hbody⟩ := exists_answer body (by decide +kernel)
  obtain ⟨entries, hfetch, -, -, hfiles⟩ := fetch_entries hsent hbody
  obtain ⟨_, hfetch', htexts⟩ := exists_of_map_toOption
    (x := (HttpProvider.fetch {} e .models).1) (f := (·.map textsOf))
    (b := [(some "Base", some "Base"), (some "flux.ckpt", some ""),
      (some "wide.ckpt", some "Wide")])
    (by decide +kernel)
  cases hfetch.symm.trans hfetch'
  have hsome : ∀ t ∈ entries.map textsOf, t.1.isSome = true := by
    rw [htexts]
    decide
  exact ⟨hsent, answer, entries, hbody, hfiles.mp fun entry hentry =>
    Json.isText_of_str? (hsome _ (List.mem_map_of_mem hentry)), hfetch, htexts⟩

/-- A number beside a title is passed on as its file. -/
theorem fetch_file_not_text :
    let body := "[\x7b\"title\": \"a\", \"model_name\": 5\x7d]"
    let e : Exchange :=
      { server := { scheme := "http", host := "127.0.0.1", port := some 7860 }
        answers := [.response 200 body] }
    (e.send {} .get models.path none).1 = .ok (.response 200 body) ∧
      (∃ answer, Json.parseEncoded body = some (.ok answer)) ∧
      ∃ entries, (HttpProvider.fetch {} e .models).1 = .ok entries ∧
        ¬ ∀ entry ∈ entries, entry.filename.IsText := by
  intro body e
  obtain ⟨entries, hfetch, htexts⟩ := exists_of_map_toOption
    (x := (HttpProvider.fetch {} e .models).1) (f := (·.map textsOf)) (b := [(none, some "a")])
    (by decide +kernel)
  refine ⟨send_of_isOk (by decide +kernel), exists_answer body (by decide +kernel), entries,
    hfetch, ?_⟩
  intro h
  have hnone : (none, some "a") ∈ entries.map textsOf := by
    rw [htexts]
    exact List.mem_cons_self
  obtain ⟨entry, hentry, heq⟩ := List.mem_map.mp hnone
  obtain ⟨file, hfile⟩ := h entry hentry
  rw [textsOf, hfile] at heq
  cases heq

end Catalogue

end ImageWorkflow
