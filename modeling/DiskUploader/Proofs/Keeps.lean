import DiskUploader.Proofs.Timeline
import DiskUploader.Retry.Engine

/-!
# What timed work keeps and yields

Timed work keeps a relation between worlds when every run of it relates the world it starts in
to the world it ends in, whether it ends with a value or is interrupted. The relations used here
are frames: preorders that allow every change leaving the state alone, so that waits, log events
and the clock never break them. A frame is kept by every retry whose action keeps it.

Timed work yields a property when every value it ends with has it. Whatever its action does, a
retry ends with a value, with a timeout, or with a permanent fault: a transient fault is always
retried or turned into a timeout.
-/

namespace DiskUploader.Timed

variable {σ α β : Type}

def Keeps (R : World σ → World σ → Prop) (x : Timed σ α) : Prop := ∀ w, R w (x.run w).2

/-- A preorder on worlds that allows every change leaving the state alone. -/
structure Frame (R : World σ → World σ → Prop) : Prop where
  trans : ∀ {a b c}, R a b → R b c → R a c
  timeline : ∀ {w w'}, w'.state = w.state → R w w'

def Stateless (x : Timed σ α) : Prop := ∀ w, (x.run w).2.state = w.state

section Frame

variable {R : World σ → World σ → Prop} (hR : Frame R)
include hR

theorem Frame.refl (w : World σ) : R w w := hR.timeline rfl

theorem Keeps.of_stateless {x : Timed σ α} (hx : Stateless x) : Keeps R x :=
  fun w => hR.timeline (hx w)

theorem Keeps.bind {x : Timed σ α} {f : α → Timed σ β} (hx : Keeps R x)
    (hf : ∀ a, Keeps R (f a)) : Keeps R (x >>= f) := by
  intro w
  rw [run_bind]
  rcases h : x.run w with ⟨i | a, w'⟩
  · simpa [h] using hx w
  · exact hR.trans (by simpa [h] using hx w) (hf a w')

omit hR in
theorem Keeps.map {x : Timed σ α} (f : α → β) (hx : Keeps R x) : Keeps R (f <$> x) := by
  intro w
  rw [run_map]
  rcases h : x.run w with ⟨i | a, w'⟩ <;> simpa [h] using hx w

theorem Keeps.tryCatch {x : Timed σ α} {h : Interrupt → Timed σ α} (hx : Keeps R x)
    (hh : ∀ e, Keeps R (h e)) : Keeps R (tryCatch x h) := by
  intro w
  rw [run_tryCatch]
  rcases hr : x.run w with ⟨i | a, w'⟩
  · exact hR.trans (by simpa [hr] using hx w) (hh i w')
  · simpa [hr] using hx w

end Frame

theorem Stateless.pure (a : α) : Stateless (pure a : Timed σ α) := fun _ => rfl

theorem Stateless.throw (e : Interrupt) : Stateless (throw e : Timed σ α) := fun _ => rfl

theorem Stateless.bind {x : Timed σ α} {f : α → Timed σ β} (hx : Stateless x)
    (hf : ∀ a, Stateless (f a)) : Stateless (x >>= f) := by
  intro w
  rw [run_bind]
  rcases h : x.run w with ⟨i | a, w'⟩
  · simpa [h] using hx w
  · simpa [h, hf a w'] using hx w

theorem Stateless.waitUntil (target : Nat) (ids : List Nat) :
    Stateless (waitUntil target ids : Timed σ Unit) := by
  intro w
  simp only [Timed.waitUntil, run_bind, run_get]
  by_cases ht : target ≤ w.now
  · simp [ht]
  · -- every branch sets the world with the state it had
    simp only [ht, if_false]
    repeat' split
    all_goals simp

theorem Stateless.sleep (ms : Nat) : Stateless (sleep ms : Timed σ Unit) := by
  intro w
  by_cases h : ms = 0
  · simp [Timed.sleep, h]
  · simp only [Timed.sleep, h, if_false, run_bind, run_now]
    exact Stateless.waitUntil _ _ w

theorem Stateless.pause (ms : Nat) (deadline : Option Nat) (ids : List Nat) :
    Stateless (pause ms deadline ids : Timed σ Unit) := by
  intro w
  rw [pause_run]
  split
  · rfl
  · exact Stateless.waitUntil _ _ w

theorem Stateless.emit (e : LogEvent) : Stateless (emit e : Timed σ Unit) := fun _ => rfl

theorem Stateless.panic (m : String) : Stateless (panic m : Timed σ α) := fun _ => rfl

theorem Stateless.stopReason (p : Plan) (deadline : Option Nat) (n : Nat) :
    Stateless (p.stopReason deadline n : Timed σ (Option StopReason)) := by
  intro w
  simp only [Plan.stopReason, run_bind, run_anyCancelled]
  -- the checks only read the world
  split
  · rfl
  · split
    · split
      · rfl
      · split
        · simp only [run_bind, run_now]
          split <;> rfl
        · rfl
    · split
      · simp only [run_bind, run_now]
        split <;> rfl
      · rfl

theorem Stateless.giveUp (desc : String) (n : Nat) (r : StopReason) (last : Fault) :
    Stateless (giveUp desc n r last : Timed σ Fault) := fun _ => rfl

section Frame

variable {R : World σ → World σ → Prop} (hR : Frame R)
include hR

theorem Keeps.withLimit (ms : Nat) {act : Timed σ α} (ha : Keeps R act) :
    Keeps R (withLimit ms act) := by
  intro w
  rw [withLimit_run]
  -- only the cutoffs change around the attempt
  have hin := ha { w with cutoffs := (w.now + ms) :: w.cutoffs }
  have hpush : R w { w with cutoffs := (w.now + ms) :: w.cutoffs } := hR.timeline rfl
  generalize act.run { w with cutoffs := (w.now + ms) :: w.cutoffs } = res at hin ⊢
  rcases res with ⟨e | a, w'⟩ <;> dsimp only at hin ⊢
  · have hdrop : R w' { w' with cutoffs := w'.cutoffs.drop 1 } := hR.timeline rfl
    have := hR.trans (hR.trans hpush hin) hdrop
    cases e with
    | cut i => by_cases hi : i = w.now + ms <;> simp only [hi, ↓reduceIte] <;> exact this
    | _ => exact this
  · exact hR.trans (hR.trans hpush hin) (hR.timeline rfl)

theorem Keeps.attempt (p : Plan) (n : Nat) {action : Timed σ (Except Fault α)}
    (ha : Keeps R action) : Keeps R (p.attempt n action) := by
  unfold Plan.attempt
  split
  · refine Keeps.bind hR (Keeps.withLimit hR _ ha) fun r => ?_
    cases r <;> exact Keeps.of_stateless hR (Stateless.pure _)
  · exact ha

theorem Keeps.retryFrom (desc : String) (p : Plan) (deadline : Option Nat)
    {action : Timed σ (Except Fault α)} (ha : Keeps R action) :
    ∀ fuel n, Keeps R (retryFrom desc p deadline action fuel n)
  | 0, _ => Keeps.of_stateless hR (Stateless.throw _)
  | fuel + 1, n => by
    -- after the attempt, everything up to the next attempt leaves the state alone
    have hstop : ∀ m, Keeps R (p.stopReason deadline m : Timed σ (Option StopReason)) :=
      fun m => Keeps.of_stateless hR (Stateless.stopReason p deadline m)
    have hgive : ∀ r e, Keeps R (giveUp desc n r e >>= fun f => (pure (Except.error f) :
        Timed σ (Except Fault α))) := fun r e =>
      Keeps.of_stateless hR (Stateless.bind (Stateless.giveUp _ _ _ _) fun _ => Stateless.pure _)
    simp only [DiskUploader.retryFrom]
    refine Keeps.bind hR (Keeps.attempt hR p n ha) fun r => ?_
    rcases r with e | v
    · dsimp only
      split
      · exact Keeps.of_stateless hR (Stateless.pure _)
      · refine Keeps.bind hR (hstop n) fun r => ?_
        rcases r with _ | r
        · refine Keeps.bind hR (Keeps.of_stateless hR (Stateless.pause _ _ _)) fun _ => ?_
          refine Keeps.bind hR (hstop n) fun r => ?_
          rcases r with _ | r
          · exact Keeps.retryFrom desc p deadline ha fuel (n + 1)
          · exact hgive r _
        · exact hgive r _
    · exact Keeps.of_stateless hR (Stateless.pure _)

theorem Keeps.retry (desc : String) (ss : List Strategy) {action : Timed σ (Except Fault α)}
    (ha : Keeps R action) : Keeps R (DiskUploader.retry desc ss action) := by
  have hloop : ∀ deadline, Keeps R (get >>= fun w : World σ =>
      DiskUploader.retryFrom desc (Plan.ofStrategies ss) deadline action w.attemptCap 1) :=
    fun deadline => Keeps.bind hR (Keeps.of_stateless hR fun _ => rfl) fun w =>
      Keeps.retryFrom hR desc _ deadline ha _ _
  unfold DiskUploader.retry
  refine Keeps.bind hR (Keeps.of_stateless hR fun _ => rfl) fun start => ?_
  dsimp only
  -- the deadline is computed without touching the state, or the call panics
  split
  · split
    · exact Keeps.bind hR (Keeps.of_stateless hR (Stateless.panic _)) hloop
    · exact Keeps.bind hR (Keeps.of_stateless hR (Stateless.pure _)) hloop
  · exact Keeps.bind hR (Keeps.of_stateless hR (Stateless.pure _)) hloop

end Frame

def Yields (Q : α → Prop) (x : Timed σ α) : Prop := ∀ w a w', x.run w = (.ok a, w') → Q a

theorem Yields.pure {Q : α → Prop} {a : α} (h : Q a) : Yields Q (pure a : Timed σ α) := by
  intro w b w' hr
  cases hr
  exact h

theorem Yields.throw {Q : α → Prop} (e : Interrupt) : Yields Q (throw e : Timed σ α) := by
  intro w b w' hr
  cases hr

theorem Yields.bind {Q₁ : α → Prop} {Q : β → Prop} {x : Timed σ α} {f : α → Timed σ β}
    (hx : Yields Q₁ x) (hf : ∀ a, Q₁ a → Yields Q (f a)) : Yields Q (x >>= f) := by
  intro w b w' hr
  rw [run_bind] at hr
  rcases h : x.run w with ⟨i | a, w₁⟩ <;> rw [h] at hr
  · cases hr
  · exact hf a (hx w a w₁ h) w₁ b w' hr

theorem Yields.top (x : Timed σ α) : Yields (fun _ => True) x := fun _ _ _ _ => True.intro

theorem Yields.bind_any {Q : β → Prop} {x : Timed σ α} {f : α → Timed σ β}
    (hf : ∀ a, Yields Q (f a)) : Yields Q (x >>= f) :=
  Yields.bind (Yields.top x) fun a _ => hf a

end DiskUploader.Timed

namespace DiskUploader

variable {σ α : Type}

theorem Code.ne_unidentified_of_permanent {c : Code} (h : c.permanent = true) :
    c ≠ .unidentified := by
  cases c <;> simp_all [Code.permanent]

/-- A fault that trying again cannot mend: a timeout, or a permanent fault. -/
def Fault.Final (e : Fault) : Prop := e.code = .timeout ∨ e.code.permanent = true

def Concluded (r : Except Fault α) : Prop := ∀ e, r = .error e → e.Final

theorem concluded_ok (a : α) : Concluded (.ok a : Except Fault α) := by
  intro e h
  cases h

theorem concluded_error {e : Fault} : Concluded (.error e : Except Fault α) ↔ e.Final :=
  ⟨fun h => h e rfl, fun h _ he => by cases he; exact h⟩

def Answers (P : α → Prop) (r : Except Fault α) : Prop := ∀ a, r = .ok a → P a

theorem answers_error (P : α → Prop) (e : Fault) : Answers P (.error e) := fun _ h => by cases h

theorem giveUp_yields_timeout (desc : String) (n : Nat) (r : StopReason) (last : Fault) :
    Timed.Yields (fun f : Fault => f.code = .timeout) (giveUp desc n r last : Timed σ Fault) := by
  intro w f w' hr
  cases hr
  exact Fault.wrap_code_of_ne (by decide) _

namespace Timed

theorem Yields.imp {Q Q' : α → Prop} {x : Timed σ α} (hx : Yields Q x) (h : ∀ a, Q a → Q' a) :
    Yields Q' x :=
  fun w a w' hr => h a (hx w a w' hr)

theorem Yields.withLimit (ms : Nat) {Q : α → Prop} {act : Timed σ α} (hx : Yields Q act) :
    Yields (fun o => ∀ a, o = some a → Q a) (withLimit ms act) := by
  intro w o w' hr a ha
  subst ha
  rw [withLimit_run] at hr
  rcases h : act.run { w with cutoffs := (w.now + ms) :: w.cutoffs } with ⟨e | v, w₁⟩ <;>
    rw [h] at hr
  · cases e with
    | cut i => by_cases hi : i = w.now + ms <;> simp [hi] at hr
    | _ => cases hr
  · cases hr
    exact hx _ _ _ h

theorem Yields.attempt_answers {P : α → Prop} (p : Plan) (n : Nat)
    {action : Timed σ (Except Fault α)} (ha : Yields (Answers P) action) :
    Yields (Answers P) (p.attempt n action) := by
  unfold Plan.attempt
  split
  · refine Yields.bind (Yields.withLimit _ ha) fun o ho => ?_
    rcases o with _ | r
    · exact Yields.pure (answers_error P _)
    · exact Yields.pure (ho r rfl)
  · exact ha

theorem Yields.retryFrom_answers {P : α → Prop} (desc : String) (p : Plan)
    (deadline : Option Nat) {action : Timed σ (Except Fault α)} (ha : Yields (Answers P) action) :
    ∀ fuel n, Yields (fun r => Concluded r ∧ Answers P r)
      (DiskUploader.retryFrom desc p deadline action fuel n)
  | 0, _ => Yields.throw _
  | fuel + 1, n => by
    have hgive : ∀ r e, Yields (fun r => Concluded r ∧ Answers P r) (giveUp desc n r e >>= fun f =>
        (Pure.pure (Except.error f) : Timed σ (Except Fault α))) := fun r e =>
      Yields.bind (giveUp_yields_timeout desc n r e) fun f hf =>
        Yields.pure ⟨concluded_error.2 (.inl hf), answers_error P f⟩
    simp only [DiskUploader.retryFrom]
    refine Yields.bind (Yields.attempt_answers p n ha) fun r hr => ?_
    rcases r with e | v
    · dsimp only
      split
      · -- a permanent fault keeps its code
        rename_i hperm
        refine Yields.pure ⟨concluded_error.2 (.inr ?_), answers_error P _⟩
        rw [Fault.wrap_code_of_ne (Code.ne_unidentified_of_permanent hperm)]
        exact hperm
      · refine Yields.bind_any fun r => ?_
        rcases r with _ | r
        · refine Yields.bind_any fun _ => Yields.bind_any fun r => ?_
          rcases r with _ | r
          · exact Yields.retryFrom_answers desc p deadline ha fuel (n + 1)
          · exact hgive r _
        · exact hgive r _
    · exact Yields.pure ⟨concluded_ok v, hr⟩

theorem Yields.retry_answers {P : α → Prop} (desc : String) (ss : List Strategy)
    {action : Timed σ (Except Fault α)} (ha : Yields (Answers P) action) :
    Yields (fun r => Concluded r ∧ Answers P r) (DiskUploader.retry desc ss action) := by
  unfold DiskUploader.retry
  refine Yields.bind_any fun start => ?_
  dsimp only
  split
  · split
    · exact Yields.bind_any fun _ => Yields.bind_any fun _ => Yields.retryFrom_answers _ _ _ ha _ _
    · exact Yields.bind_any fun _ => Yields.bind_any fun _ => Yields.retryFrom_answers _ _ _ ha _ _
  · exact Yields.bind_any fun _ => Yields.bind_any fun _ => Yields.retryFrom_answers _ _ _ ha _ _

theorem Yields.retryFrom (desc : String) (p : Plan) (deadline : Option Nat)
    (action : Timed σ (Except Fault α)) (fuel n : Nat) :
    Yields Concluded (DiskUploader.retryFrom desc p deadline action fuel n) :=
  (Yields.retryFrom_answers (P := fun _ => True) desc p deadline (fun _ _ _ _ _ _ => trivial)
    fuel n).imp fun _ h => h.1

theorem Yields.retry (desc : String) (ss : List Strategy) (action : Timed σ (Except Fault α)) :
    Yields Concluded (DiskUploader.retry desc ss action) :=
  (Yields.retry_answers (P := fun _ => True) desc ss (fun _ _ _ _ _ _ => trivial)).imp
    fun _ h => h.1

end Timed

end DiskUploader
