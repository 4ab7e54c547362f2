import DiskUploader.Proofs.Keeps
import DiskUploader.Upload.Pipeline

/-!
# How a stage ends

A stage ends in one of three ways: with a value, with a fault, or interrupted. `Ends` states one
postcondition for each way, over the world the stage ends in. Along a bind the first stage must
end so that the rest ends well from wherever it stopped, so a stage written as a sequence of
steps is walked one step at a time; a call that keeps a relation between worlds and ends with a
value or a final fault is passed over in one step.
-/

namespace DiskUploader

variable {σ α β : Type}

namespace Stage

@[simp] theorem run_pure (a : α) (w : World σ) : (pure a : Stage σ α).run.run w = (.ok (.ok a), w) :=
  rfl

@[simp] theorem run_throw (e : Fault) (w : World σ) :
    (throw e : Stage σ α).run.run w = (.ok (.error e), w) := rfl

@[simp] theorem run_call (c : Timed σ (Except Fault α)) (w : World σ) :
    (Stage.call c).run.run w = c.run w := rfl

theorem run_bind (x : Stage σ α) (f : α → Stage σ β) (w : World σ) :
    (x >>= f).run.run w = match x.run.run w with
      | (.ok (.ok a), w') => (f a).run.run w'
      | (.ok (.error e), w') => (.ok (.error e), w')
      | (.error i, w') => (.error i, w') := by
  rw [ExceptT.run_bind, Timed.run_bind]
  rcases x.run.run w with ⟨i | e | a, w'⟩ <;> rfl

theorem run_lift (t : Timed σ α) (w : World σ) :
    (monadLift t : Stage σ α).run.run w = match t.run w with
      | (.ok a, w') => (.ok (.ok a), w')
      | (.error i, w') => (.error i, w') := by
  rw [ExceptT.run_monadLift, Timed.run_map]
  rfl

@[simp] theorem lift_eq (t : Timed σ α) : Stage.lift t = monadLift t := rfl

/-- How a run of a stage ended: with a value, a fault or an interruption. -/
def Ends (Q : α → World σ → Prop) (E : Fault → World σ → Prop) (I : Interrupt → World σ → Prop) :
    Except Interrupt (Except Fault α) × World σ → Prop
  | (.ok (.ok a), w) => Q a w
  | (.ok (.error e), w) => E e w
  | (.error i, w) => I i w

theorem Ends.mono {Q Q' : α → World σ → Prop} {E E' : Fault → World σ → Prop}
    {I I' : Interrupt → World σ → Prop} {o : Except Interrupt (Except Fault α) × World σ}
    (h : Ends Q E I o) (hQ : ∀ a w, Q a w → Q' a w) (hE : ∀ e w, E e w → E' e w)
    (hI : ∀ i w, I i w → I' i w) : Ends Q' E' I' o := by
  rcases o with ⟨i | e | a, w⟩
  · exact hI i w h
  · exact hE e w h
  · exact hQ a w h

theorem ends_bind {Q : β → World σ → Prop} {E : Fault → World σ → Prop}
    {I : Interrupt → World σ → Prop} (x : Stage σ α) (f : α → Stage σ β) (w : World σ) :
    Ends Q E I ((x >>= f).run.run w) =
      Ends (fun a w' => Ends Q E I ((f a).run.run w')) E I (x.run.run w) := by
  rw [run_bind]
  rcases x.run.run w with ⟨i | e | a, w'⟩ <;> rfl

theorem ends_lift {Q : α → World σ → Prop} {E : Fault → World σ → Prop}
    {I : Interrupt → World σ → Prop} (t : Timed σ α) (w : World σ) :
    Ends Q E I ((monadLift t : Stage σ α).run.run w) = match t.run w with
      | (.ok a, w') => Q a w'
      | (.error i, w') => I i w' := by
  rw [run_lift]
  rcases t.run w with ⟨i | a, w'⟩ <;> rfl

@[simp] theorem ends_pure {Q : α → World σ → Prop} {E : Fault → World σ → Prop}
    {I : Interrupt → World σ → Prop} (a : α) (w : World σ) :
    Ends Q E I ((pure a : Stage σ α).run.run w) = Q a w := rfl

@[simp] theorem ends_throw {Q : α → World σ → Prop} {E : Fault → World σ → Prop}
    {I : Interrupt → World σ → Prop} (e : Fault) (w : World σ) :
    Ends Q E I ((throw e : Stage σ α).run.run w) = E e w := rfl

theorem ends_ite {Q : α → World σ → Prop} {E : Fault → World σ → Prop}
    {I : Interrupt → World σ → Prop} (c : Prop) [Decidable c] (x y : Stage σ α) (w : World σ) :
    Ends Q E I ((if c then x else y).run.run w) =
      if c then Ends Q E I (x.run.run w) else Ends Q E I (y.run.run w) := by
  split <;> rfl

/-- A stage that keeps a relation and ends with a value or a final fault: each way it ends is
met from every world it may end in. -/
theorem ends_of_keeps {Q : α → World σ → Prop} {E : Fault → World σ → Prop}
    {I : Interrupt → World σ → Prop} {R : World σ → World σ → Prop} {x : Stage σ α}
    (w : World σ) (hk : Timed.Keeps R x.run) (hy : Timed.Yields Concluded x.run)
    (hQ : ∀ a w', R w w' → Q a w') (hE : ∀ e w', R w w' → e.Final → E e w')
    (hI : ∀ i w', R w w' → I i w') : Ends Q E I (x.run.run w) := by
  have hr := hk w
  rcases h : x.run.run w with ⟨i | e | a, w'⟩ <;> rw [h] at hr
  · exact hI i w' hr
  · exact hE e w' hr (hy w (.error e) w' h e rfl)
  · exact hQ a w' hr

/-- A loop over a list keeps an invariant of its state when every iteration does, or stops the
loop early at a state that meets the postcondition. -/
theorem ends_forIn {γ : Type} {Q : β → World σ → Prop} {E : Fault → World σ → Prop}
    {I : Interrupt → World σ → Prop} (f : γ → β → Stage σ (ForInStep β))
    (inv : β → World σ → Prop) (hinv : ∀ b w, inv b w → Q b w)
    (hf : ∀ a b w, inv b w → Ends (fun s w' => match s with
      | .done b' => Q b' w'
      | .yield b' => inv b' w') E I ((f a b).run.run w)) :
    ∀ (l : List γ) (b : β) (w : World σ), inv b w → Ends Q E I ((forIn l b f).run.run w)
  | [], b, w, h => by
    rw [List.forIn_nil]
    exact hinv b w h
  | a :: l, b, w, h => by
    rw [List.forIn_cons, ends_bind]
    refine (hf a b w h).mono (fun s w' hs => ?_) (fun _ _ he => he) (fun _ _ hi => hi)
    cases s with
    | done b' => exact hs
    | yield b' => exact ends_forIn f inv hinv hf l b' w' hs

theorem ends_lift_of_keeps {Q : α → World σ → Prop} {E : Fault → World σ → Prop}
    {I : Interrupt → World σ → Prop} {R : World σ → World σ → Prop} {P : α → Prop} {t : Timed σ α}
    (w : World σ) (hk : Timed.Keeps R t) (hy : Timed.Yields P t) (hQ : ∀ a w', R w w' → P a → Q a w')
    (hI : ∀ i w', R w w' → I i w') : Ends Q E I ((monadLift t : Stage σ α).run.run w) := by
  rw [ends_lift]
  have hr := hk w
  rcases h : t.run w with ⟨i | a, w'⟩ <;> rw [h] at hr
  · exact hI i w' hr
  · exact hQ a w' hr (hy w a w' h)

end Stage

end DiskUploader
