import Mathlib
import ImageWorkflow.Proofs.Requests

/-!
# What passes between a run and its provider

A provider that transcribes what it is asked and what it answers is otherwise as before.
* `Contact` : one question and its answer; `Provider.transcribed` : a provider that transcribes its
  contacts;
* `Engine.contacts`, `Run.contacts` : the contacts of one visit, as the transcript shows them;
  `Engine.contacts_eq` : they answer what the visit asks for;
* `Session.contacts` : the contacts of a whole run; `Session.contacts_cases` : they are those of the
  check of the connection, if it is made, and then those of the visits, one after the other.
-/

namespace ImageWorkflow
variable {σ : Type}

/-- Something asked of a provider, and its answer. -/
inductive Contact where
  | check (answer : Except OtherError Bool)
  | generate (call : GenerateCall) (answer : Except CallFailure (List Image))
  | tool (call : ToolCall) (answer : Except CallFailure ToolResult)

/-- Whether the contact is a check of the connection. -/
def Contact.isCheck : Contact → Bool
  | .check _ => true
  | _ => false

namespace Provider
variable (p : Provider σ)

/-- The contact that a request comes to. -/
def contact (memory : σ) : Request → Contact
  | .generate call => .generate call (p.generate memory call).1.result
  | .tool call => .tool call (p.applyTool memory call).1.result

/-- A provider that transcribes its contacts. -/
def transcribed : Provider (σ × List Contact) where
  name := p.name
  info := p.info
  checkConnection := fun (memory, transcript) =>
    let (answer, memory) := p.checkConnection memory
    (answer, memory, transcript ++ [.check answer])
  generate := fun (memory, transcript) call =>
    let (reply, memory) := p.generate memory call
    (reply, memory, transcript ++ [.generate call reply.result])
  applyTool := fun (memory, transcript) call =>
    let (reply, memory) := p.applyTool memory call
    (reply, memory, transcript ++ [.tool call reply.result])
  models := fun (memory, transcript) =>
    let (answer, memory) := p.models memory
    (answer, memory, transcript)
  loras := fun (memory, transcript) =>
    let (answer, memory) := p.loras memory
    (answer, memory, transcript)
  checkInterruption := fun (memory, _) => p.checkInterruption memory

theorem transcribed_refines : p.transcribed.Refines p Prod.fst :=
  ⟨rfl, fun _ => rfl, fun _ _ => rfl, fun _ _ => rfl, fun _ => rfl⟩

theorem after_transcribed (memory : σ) (transcript : List Contact) (request : Request) :
    p.transcribed.after (memory, transcript) request =
      (p.after memory request, transcript ++ [p.contact memory request]) := by
  cases request <;> rfl

end Provider

/-! ## Visits -/

namespace Engine
variable (e : Engine σ) (w : Workflow) (scene : Scene σ) (index : Nat)

/-- The same engine with a provider that transcribes its contacts. -/
def transcribed : Engine (σ × List Contact) := e.servedBy e.provider.transcribed

/-- What passes between the visit of the instruction at `index` and the provider. -/
def contacts (i : Instruction) : List Contact :=
  (e.transcribed.visit w
    { scene with memory := (scene.memory, ([] : List Contact)) } index i).1.memory.2

/-- A visit asks for one thing at most. -/
theorem asked_cases (i : Instruction) :
    e.asked w scene index i = [] ∨ ∃ request, e.asked w scene index i = [request] := by
  have hrender (s : RunState) :
      e.renderRequests s = [] ∨ ∃ request, e.renderRequests s = [request] := by
    unfold renderRequests
    split
    · exact .inr ⟨_, rfl⟩
    · exact .inl rfl
  have hsave (s : RunState) : e.saveRequests s = [] ∨ ∃ request, e.saveRequests s = [request] := by
    unfold saveRequests
    split
    · exact .inl rfl
    · split
      · exact hrender s
      · exact .inl rfl
  rw [asked_eq]
  split
  · exact .inl rfl
  obtain hlocal | ⟨target, htarget⟩ | rfl | ⟨name, rfl⟩ | ⟨stem, rfl⟩ := i.carrier_cases
  · exact .inl (requests_of_isLocal e hlocal)
  · rw [requests_of_tool e htarget, toolRequests]
    split
    · exact .inr ⟨_, rfl⟩
    · exact .inl rfl
  · exact hrender _
  · exact hsave _
  · rw [requests_loopSave]
    split
    · exact hsave _
    · exact .inl rfl

/-- The transcript grows by the answer to what a visit asks for. -/
theorem visit_transcribed (scene : Scene (σ × List Contact)) (i : Instruction) :
    (e.transcribed.visit w scene index i).1.memory.2 = scene.memory.2 ++
      (e.asked w (scene.forget Prod.fst) index i).map (e.provider.contact scene.memory.1) := by
  have hasked : e.transcribed.asked w scene index i =
      e.asked w (scene.forget Prod.fst) index i := by
    rw [asked_eq, asked_eq]
    rfl
  rw [visit_memory, hasked]
  -- with two requests, the second would be answered by what the first leaves
  obtain hnone | ⟨request, hone⟩ := e.asked_cases w (scene.forget Prod.fst) index i
  · rw [hnone]
    exact (List.append_nil _).symm
  · rw [hone]
    exact congrArg Prod.snd (e.provider.after_transcribed scene.memory.1 scene.memory.2 request)

/-- The contacts of a visit answer what it asks for. -/
theorem contacts_eq (i : Instruction) : e.contacts w scene index i =
    (e.asked w scene index i).map (e.provider.contact scene.memory) :=
  e.visit_transcribed w index { scene with memory := (scene.memory, ([] : List Contact)) } i

end Engine

/-! ## Runs -/

namespace Run
variable {e : Engine σ} {w : Workflow}

/-- What passes between the visit that is due and the provider. -/
def contacts (e : Engine σ) (w : Workflow) (r : Run σ) (i : Instruction) : List Contact :=
  e.contacts w r.scene r.scene.state.counter i

/-- On the way of a run the transcript grows by the contacts of each visit. -/
theorem Course.transcript {r r' : Run (σ × List Contact)}
    {vs : List (Run (σ × List Contact) × Instruction)} (h : Course e.transcribed w r vs r') :
    r'.scene.memory.2 = r.scene.memory.2 ++
      (vs.map (forgetDue Prod.fst)).flatMap fun v => v.1.contacts e w v.2 := by
  induction h with
  | nil r => simp
  | @cons r _ i vs _ _ ih =>
    have hvisit : (r.visited e.transcribed w i).scene.memory.2 =
        r.scene.memory.2 ++ (r.forget Prod.fst).contacts e w i := by
      rw [visited_scene, contacts, Engine.contacts_eq]
      exact e.visit_transcribed w _ r.scene i
    rw [ih, hvisit, List.append_assoc]
    rfl

end Run

/-! ## Sessions -/

namespace Session
variable {s : Session σ} {e : Engine σ} {w : Workflow} {checks : Option Bool} {enforces : Bool}

/-- A session whose provider has transcribed nothing yet. -/
def transcribed (s : Session σ) : Session (σ × List Contact) where
  status := s.status
  files := s.files
  memory := (s.memory, [])

/-- What passes between a run of the session and its provider, in order. -/
def contacts (s : Session σ) (e : Engine σ) (w : Workflow) (checks : Option Bool)
    (enforces : Bool) : List Contact :=
  (s.transcribed.run e.transcribed w checks enforces).1.memory.2

/-- The contact of a run before its first visit. -/
def firstContacts (s : Session σ) (e : Engine σ) (w : Workflow) (checks : Option Bool) :
    List Contact :=
  if checks.getD e.checksConnection && Run.needsProvider w then
    [.check (e.provider.checkConnection s.memory).1]
  else []

theorem checkFirst_transcribed :
    (Run.checkFirst e.transcribed w (checks.getD e.checksConnection) (s.memory, [])).2.2 =
      s.firstContacts e w checks := by
  unfold Run.checkFirst firstContacts
  split <;> rfl

theorem firstContacts_of_error {error : OtherError} {memory : σ × List Contact}
    (h : Run.checkFirst e.transcribed w (checks.getD e.checksConnection) (s.memory, []) =
      (.error error, memory)) : s.firstContacts e w checks = [.check (.error error)] := by
  unfold Run.checkFirst at h
  unfold firstContacts
  split at h
  · rename_i hchecks
    rw [if_pos hchecks]
    exact congrArg (fun answer => [Contact.check answer]) (congrArg Prod.fst h)
  · cases h

/-- The contacts of a run that is refused are none, or the check of the connection that fails; those
of a run that is carried out are the check, if it is made, and then those of its visits. -/
theorem contacts_cases (s : Session σ) (e : Engine σ) (w : Workflow) (checks : Option Bool)
    (enforces : Bool) :
    (s.Refuses e w checks enforces ∧ (s.contacts e w checks enforces = [] ∨
      ∃ error, s.firstContacts e w checks = [.check (.error error)] ∧
        s.contacts e w checks enforces = [.check (.error error)])) ∨
    ∃ vs stopped, s.Carries e w checks enforces vs stopped ∧
      s.contacts e w checks enforces =
        s.firstContacts e w checks ++ vs.flatMap fun v => v.1.contacts e w v.2 := by
  have hrefines := e.provider.transcribed_refines
  have hrefuses : s.Refuses e w checks enforces ↔
      s.transcribed.Refuses e.transcribed w checks enforces :=
    refuses_servedBy (s := s.transcribed) hrefines
  have hfirst : (Run.checkFirst e.transcribed w (checks.getD e.checksConnection)
      (s.memory, [])).2.2 = s.firstContacts e w checks :=
    checkFirst_transcribed
  rw [hrefuses, contacts]
  obtain ⟨files, refusal, hrun, hwhole⟩ | ⟨files, memory, error, hcheck, hrun⟩ | hrun :=
    s.transcribed.run_cases e.transcribed w checks enforces
  · exact .inl ⟨⟨refusal, congrArg Prod.snd hrun, hwhole⟩, .inl (by rw [hrun]; rfl)⟩
  · have hcheck : Run.checkFirst e.transcribed w (checks.getD e.checksConnection) (s.memory, []) =
        (.error error, memory) := hcheck
    have hfailed := firstContacts_of_error hcheck
    rw [hcheck, hfailed] at hfirst
    refine .inl ⟨⟨.check error, congrArg Prod.snd hrun, nofun⟩, .inr ⟨error, hfailed, ?_⟩⟩
    rw [hrun]
    exact hfirst
  · obtain ⟨vs, stopped, hcarries⟩ := exists_carries_of_settles hrun
    refine .inr ⟨_, _, hcarries.forget hrefines, ?_⟩
    obtain ⟨last, hc, hscene⟩ := hcarries.visits.exists_course
    rw [hcarries.memory, hscene, hc.transcript, ← hfirst]
    rfl

end Session

end ImageWorkflow
