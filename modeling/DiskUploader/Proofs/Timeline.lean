import Mathlib
import DiskUploader.Timeline.Basic

/-!
# Running timed work

Equations for running timed work one step at a time: how a bind, a handler and the state
primitives run, and what a wait does to the clock. A wait with no tokens to watch ends at its
target, unless the limit of a running attempt falls before it; a wait that watches tokens ends
at the earliest due cancellation before its target.
-/

namespace DiskUploader.Timed

variable {σ α β : Type}

@[simp] theorem run_pure (a : α) (w : World σ) : (pure a : Timed σ α).run w = (.ok a, w) := rfl

@[simp] theorem run_throw (e : Interrupt) (w : World σ) :
    (throw e : Timed σ α).run w = (.error e, w) := rfl

@[simp] theorem run_get (w : World σ) : (get : Timed σ (World σ)).run w = (.ok w, w) := rfl

@[simp] theorem run_set (w w' : World σ) : (set w' : Timed σ Unit).run w = (.ok (), w') := rfl

@[simp] theorem run_modify (f : World σ → World σ) (w : World σ) :
    (modify f : Timed σ Unit).run w = (.ok (), f w) := rfl

@[simp] theorem run_modifyGet (f : World σ → α × World σ) (w : World σ) :
    (modifyGet f : Timed σ α).run w = (.ok (f w).1, (f w).2) := rfl

@[simp] theorem run_now (w : World σ) : (now : Timed σ Nat).run w = (.ok w.now, w) := rfl

@[simp] theorem run_state (w : World σ) : (state : Timed σ σ).run w = (.ok w.state, w) := rfl

@[simp] theorem run_modifyState (f : σ → σ) (w : World σ) :
    (modifyState f).run w = (.ok (), { w with state := f w.state }) := rfl

@[simp] theorem run_emit (e : LogEvent) (w : World σ) :
    (emit e : Timed σ Unit).run w = (.ok (), { w with log := w.log.push e }) := rfl

@[simp] theorem run_anyCancelled (ids : List Nat) (w : World σ) :
    (anyCancelled ids : Timed σ Bool).run w =
      (.ok (ids.any fun i => (w.tokens[i]?.map w.fired).getD false), w) := rfl

@[simp] theorem run_isCancelled (i : Nat) (w : World σ) :
    (isCancelled i : Timed σ Bool).run w = (.ok ((w.tokens[i]?.map w.fired).getD false), w) := rfl

@[simp] theorem run_bind (x : Timed σ α) (f : α → Timed σ β) (w : World σ) :
    (x >>= f).run w = match x.run w with
      | (.ok a, w') => (f a).run w'
      | (.error e, w') => (.error e, w') := by
  show StateT.bind x (ExceptT.bindCont f) w = _
  simp only [StateT.bind, Timed.run, ExceptT.run, StateT.run]
  rcases (x w : Except Interrupt α × World σ) with ⟨_ | _, _⟩ <;> rfl

@[simp] theorem run_map (f : α → β) (x : Timed σ α) (w : World σ) :
    (f <$> x).run w = match x.run w with
      | (.ok a, w') => (.ok (f a), w')
      | (.error e, w') => (.error e, w') := by
  simp only [Timed.run, ExceptT.run, StateT.run, Functor.map, ExceptT.map, ExceptT.mk, bind,
    StateT.bind]
  rcases (x w : Except Interrupt α × World σ) with ⟨_ | _, _⟩ <;> rfl

theorem run_map_world (f : α → β) (x : Timed σ α) (w : World σ) :
    ((f <$> x).run w).2 = (x.run w).2 := by
  rw [run_map]
  rcases x.run w with ⟨_ | _, _⟩ <;> rfl

theorem run_tryCatch (x : Timed σ α) (h : Interrupt → Timed σ α) (w : World σ) :
    (tryCatch x h).run w = match x.run w with
      | (.ok a, w') => (.ok a, w')
      | (.error e, w') => (h e).run w' := by
  simp only [Timed.run, ExceptT.run, StateT.run, tryCatch, tryCatchThe, MonadExceptOf.tryCatch,
    ExceptT.tryCatch, ExceptT.mk, bind, StateT.bind]
  rcases (x w : Except Interrupt α × World σ) with ⟨_ | _, _⟩ <;> rfl

theorem waitUntil_free (target : Nat) (w : World σ) (hw : w.now < target)
    (hc : w.cutoffs = []) :
    (waitUntil target []).run w =
      (.ok (), { w with now := target, settled := decide (w.precedence = .cancellation) }) := by
  simp [waitUntil, World.nextDue, hc, Nat.not_le.2 hw]

theorem sleep_free (ms : Nat) (w : World σ) (hc : w.cutoffs = []) :
    (sleep ms).run w = (.ok (), if ms = 0 then w
      else { w with now := w.now + ms, settled := decide (w.precedence = .cancellation) }) := by
  by_cases h : ms = 0
  · simp [sleep, h]
  · have hw : w.now < w.now + ms := by omega
    simp [sleep, h, waitUntil_free _ w hw hc]

theorem sleep_limited (ms c : Nat) (w : World σ) (hc : w.cutoffs = [c]) (hms : 0 < ms) :
    (sleep ms).run w = if c < w.now + ms then
        (.error (.cut c), { w with now := c, settled := decide (w.precedence = .cancellation) })
      else (.ok (), { w with now := w.now + ms, settled := decide (w.precedence = .cancellation) }) := by
  have h1 : ¬ ms = 0 := by omega
  have h2 : ¬ w.now + ms ≤ w.now := by omega
  by_cases hcut : c < w.now + ms
  · simp [sleep, waitUntil, World.nextDue, h1, h2, hc, hcut]
  · simp [sleep, waitUntil, World.nextDue, h1, h2, hc, hcut]

theorem withLimit_run (ms : Nat) (act : Timed σ α) (w : World σ) :
    (withLimit ms act).run w =
      match act.run { w with cutoffs := (w.now + ms) :: w.cutoffs } with
      | (.ok a, w') => (.ok (some a), { w' with cutoffs := w'.cutoffs.drop 1 })
      | (.error e, w') =>
        match e with
        | .cut i => if i = w.now + ms then (.ok none, { w' with cutoffs := w'.cutoffs.drop 1 })
          else (.error (.cut i), { w' with cutoffs := w'.cutoffs.drop 1 })
        | e => (.error e, { w' with cutoffs := w'.cutoffs.drop 1 }) := by
  simp only [withLimit, run_bind, run_now, run_modify, run_tryCatch, run_map]
  rcases act.run { w with cutoffs := (w.now + ms) :: w.cutoffs } with ⟨e | a, w'⟩
  · cases e with
    | cut i => by_cases hi : i = w.now + ms <;> simp [hi]
    | _ => rfl
  · rfl

/-- A fold whose every step keeps its accumulator or takes the due instant of a watched token
that has not fired ends where it started or at such an instant. -/
private theorem foldl_due {w : World σ} (f : Option Nat → Nat → Option Nat)
    (hf : ∀ acc i, f acc i = acc ∨ ∃ t, w.tokens[i]? = some t ∧ w.fired t = false ∧ f acc i = t.due)
    (acc : Option Nat) (l : List Nat) {d : Nat} (h : l.foldl f acc = some d) :
    acc = some d ∨ ∃ i ∈ l, ∃ t, w.tokens[i]? = some t ∧ w.fired t = false ∧ t.due = some d := by
  induction l generalizing acc with
  | nil => exact .inl h
  | cons i l ih =>
    rcases ih _ h with hacc | ⟨j, hj, t, ht⟩
    · rcases hf acc i with hkeep | ⟨t, hti, hft, hdue⟩
      · exact .inl (hkeep ▸ hacc)
      · exact .inr ⟨i, List.mem_cons_self .., t, hti, hft, hdue ▸ hacc⟩
    · exact .inr ⟨j, List.mem_cons_of_mem _ hj, t, ht⟩

theorem nextDue_mem {w : World σ} {ids : List Nat} {d : Nat} (h : w.nextDue ids = some d) :
    ∃ i ∈ ids, ∃ t, w.tokens[i]? = some t ∧ w.fired t = false ∧ t.due = some d := by
  refine (foldl_due _ (fun acc i => ?_) none ids h).resolve_left nofun
  show _ = acc ∨ _
  -- one step of the fold: an absent or fired token, or one with no due instant, keeps the
  -- accumulator; otherwise the step takes the smaller of the two instants
  split
  · split
    · exact .inl rfl
    · split
      · rename_i t hti hfired _ _ e a hdue
        by_cases hle : e ≤ a
        · exact .inr ⟨t, hti, Bool.eq_false_iff.2 hfired, by rw [Nat.min_eq_left hle, hdue]⟩
        · exact .inl (by rw [Nat.min_eq_right (by omega)])
      · rename_i t hti hfired _ _ e hdue
        exact .inr ⟨t, hti, Bool.eq_false_iff.2 hfired, hdue.symm⟩
      · exact .inl rfl
  · exact .inl rfl

theorem pause_run (ms : Nat) (deadline : Option Nat) (ids : List Nat) (w : World σ) :
    (pause ms deadline ids).run w = if ms = 0 then (.ok (), w) else
      (waitUntil (deadline.elim (w.now + ms) (min · (w.now + ms))) ids).run w := by
  by_cases h : ms = 0
  · simp [pause, h]
  · simp only [pause, h, if_false, run_bind, run_now]
    cases deadline <;> rfl

/-- On a timeline where the work wakes first and no attempt limit runs, a wait ends at its target
or, earlier, at the due instant of a watched token that had not fired; only in the second case
have the cancellations due at the wake-up instant happened. -/
theorem waitUntil_quiet (target : Nat) (ids : List Nat) (w : World σ)
    (hp : w.precedence = .work) (hc : w.cutoffs = []) (hw : w.now < target) :
    ∃ wake, (waitUntil target ids).run w =
        (.ok (), { w with now := wake, settled := decide (wake < target) }) ∧
      (wake < target → ∃ i ∈ ids, ∃ t, w.tokens[i]? = some t ∧ w.fired t = false ∧
        t.due = some wake) := by
  cases hn : w.nextDue ids with
  | none =>
    refine ⟨target, ?_, fun h => absurd h (Nat.lt_irrefl _)⟩
    simp [waitUntil, hn, hc, hp, Nat.not_le.2 hw]
  | some d =>
    by_cases hd : d < target
    · refine ⟨d, ?_, fun _ => nextDue_mem hn⟩
      simp [waitUntil, hn, hc, hp, hd, Nat.not_le.2 hw]
    · refine ⟨target, ?_, fun h => absurd h (Nat.lt_irrefl _)⟩
      simp [waitUntil, hn, hc, hp, hd, Nat.not_le.2 hw]

end DiskUploader.Timed
