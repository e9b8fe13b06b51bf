import Mathlib

/-!
# Computations that may fail

What can be said of the parts when a computation in `Except` came out one way or the other.
* `bind_eq_ok`, `bind_eq_error` : two computations in sequence;
* `toOption_bind`, `toOption_map`, `toOption_mapM` : what comes of a computation, whatever the error
  when nothing does;
* `foldlM_keeps` : what every step of a fold keeps;
* `FailsOnly P x` : whatever error `x` ends with satisfies `P`; so it is with a computation whose
  parts do (`FailsOnly.bind`, `FailsOnly.map`, `FailsOnly.foldlM`, `FailsOnly.mapM`).
-/

namespace ImageWorkflow
variable {ε ε' α β : Type} {x : Except ε α} {error : ε}

theorem bind_eq_ok {f : α → Except ε β} {b : β} :
    x >>= f = .ok b ↔ ∃ a, x = .ok a ∧ f a = .ok b := by
  cases x <;> simp [bind, Except.bind]

theorem bind_eq_error {f : α → Except ε β} :
    x >>= f = .error error ↔ x = .error error ∨ ∃ a, x = .ok a ∧ f a = .error error := by
  cases x <;> simp [bind, Except.bind]

theorem map_eq_ok {f : α → β} {b : β} : f <$> x = .ok b ↔ ∃ a, x = .ok a ∧ f a = b := by
  cases x <;> simp [Functor.map, Except.map]

theorem mapError_eq_ok {f : ε → ε'} {a : α} : x.mapError f = .ok a ↔ x = .ok a := by
  cases x <;> simp [Except.mapError]

/-! ## What comes of a computation -/

theorem toOption_eq_some {a : α} : x.toOption = some a ↔ x = .ok a := by
  cases x <;> simp [Except.toOption]

theorem toOption_ok (a : α) : (.ok a : Except ε α).toOption = some a := rfl

theorem toOption_error (error : ε) : (.error error : Except ε α).toOption = none := rfl

theorem toOption_bind {f : α → Except ε β} :
    (x >>= f).toOption = x.toOption.bind fun a => (f a).toOption := by
  cases x <;> rfl

theorem toOption_map {f : α → β} : (f <$> x).toOption = x.toOption.map f := by
  cases x <;> rfl

theorem toOption_mapError {f : ε → ε'} : (x.mapError f).toOption = x.toOption := by
  cases x <;> rfl

/-- The same comes of items that are changed, if the same comes of each. -/
theorem toOption_mapM {γ : Type} {g : α → γ} {f : α → Except ε β} {f' : γ → Except ε' β}
    {l : List α} (h : ∀ a ∈ l, (f' (g a)).toOption = (f a).toOption) :
    ((l.map g).mapM f').toOption = (l.mapM f).toOption := by
  induction l with
  | nil => rfl
  | cons a l ih =>
    obtain ⟨ha, hl⟩ := List.forall_mem_cons.mp h
    simp only [List.map_cons, List.mapM_cons, toOption_bind, ha, ih hl]
    rfl

theorem exists_of_map_toOption {f : α → β} {b : β} (h : x.toOption.map f = some b) :
    ∃ a, x = .ok a ∧ f a = b := by
  obtain ⟨a, ha, hf⟩ := Option.map_eq_some_iff.mp h
  exact ⟨a, toOption_eq_some.mp ha, hf⟩

/-! ## Folds -/

/-- What every step of a fold keeps holds at the end. -/
theorem foldlM_keeps {P : β → Prop} {f : β → α → Except ε β} {l : List α} {b b' : β}
    (hf : ∀ b a b', P b → f b a = .ok b' → P b') (hb : P b) (h : l.foldlM f b = .ok b') : P b' := by
  induction l generalizing b with
  | nil =>
    cases h
    exact hb
  | cons a l ih =>
    rw [List.foldlM_cons] at h
    obtain ⟨c, hc, h⟩ := bind_eq_ok.mp h
    exact ih (hf b a c hb hc) h

/-! ## Errors -/

/-- Whatever error a computation ends with satisfies `P`. -/
def FailsOnly (P : ε → Prop) (x : Except ε α) : Prop := ∀ error, x = .error error → P error

section FailsOnly
variable {P : ε → Prop}

theorem failsOnly_ok (a : α) : FailsOnly P (.ok a : Except ε α) := nofun

theorem failsOnly_error (h : P error) : FailsOnly P (.error error : Except ε α) := by
  rintro _ ⟨⟩
  exact h

theorem FailsOnly.imp {Q : ε → Prop} (h : FailsOnly P x) (hPQ : ∀ error, P error → Q error) :
    FailsOnly Q x :=
  fun error hx => hPQ error (h error hx)

theorem FailsOnly.bind {f : α → Except ε β} (hx : FailsOnly P x)
    (hf : ∀ a, x = .ok a → FailsOnly P (f a)) : FailsOnly P (x >>= f) := by
  intro error h
  rcases bind_eq_error.mp h with h | ⟨a, ha, h⟩
  · exact hx error h
  · exact hf a ha error h

theorem FailsOnly.map {f : α → β} (hx : FailsOnly P x) : FailsOnly P (f <$> x) := by
  intro error h
  cases x with
  | error e => exact hx error (by cases h; rfl)
  | ok a => cases h

theorem FailsOnly.mapError {P : ε' → Prop} {f : ε → ε'} (h : FailsOnly (fun e => P (f e)) x) :
    FailsOnly P (x.mapError f) := by
  intro error hx
  cases x with
  | error e =>
    cases hx
    exact h e rfl
  | ok a => cases hx

theorem FailsOnly.foldlM {f : β → α → Except ε β} {l : List α} (b : β)
    (hf : ∀ b, ∀ a ∈ l, FailsOnly P (f b a)) : FailsOnly P (l.foldlM f b) := by
  induction l generalizing b with
  | nil => exact failsOnly_ok b
  | cons a l ih =>
    rw [List.foldlM_cons]
    exact (hf b a List.mem_cons_self).bind fun c _ =>
      ih c fun b a ha => hf b a (List.mem_cons_of_mem _ ha)

theorem FailsOnly.mapM {f : α → Except ε β} {l : List α} (hf : ∀ a ∈ l, FailsOnly P (f a)) :
    FailsOnly P (l.mapM f) := by
  induction l with
  | nil => exact failsOnly_ok []
  | cons a l ih =>
    rw [List.mapM_cons]
    exact (hf a List.mem_cons_self).bind fun b _ =>
      (ih fun a ha => hf a (List.mem_cons_of_mem _ ha)).bind fun bs _ => failsOnly_ok (b :: bs)

end FailsOnly

end ImageWorkflow
