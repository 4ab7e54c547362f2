import DiskUploader.Proofs.PollCountdown
import DiskUploader.Proofs.Backoff

/-!
# The schedule of a retried call

A retried call whose attempts all fail transiently, on a timeline where no watched token ever
cancels, follows a schedule fixed by its plan and by how long its attempts run. The first attempt
starts at once and attempt `i` ends `runtime i` after it started. The next attempt starts once
the delay after it has passed, exactly when attempts are left and that delay ends before the time
limit. Otherwise the call gives up after attempt `i`: as it ends, naming the attempt count, when
that is spent; else at the time limit, or as the attempt ends if that is later, naming the limit.

When the attempts take no time the call goes on while the delays add up to less than the time
limit, so it makes `min M (1 + #{j ≥ 1 | waited j < T})` attempts; that number is finite when
the attempts are counted or the first delay is positive.
-/

namespace DiskUploader

variable {σ α : Type}

namespace Script

variable (s : Script α) (p : Plan)

/-- When attempt `i`, counted from zero, starts in a call whose earlier attempts all failed and
were retried. -/
def startAt : Nat → Nat
  | 0 => 0
  | i + 1 => startAt i + s.runtime p i + clockMillis (p.delay (i + 1))

def endAt (i : Nat) : Nat := s.startAt p i + s.runtime p i

/-- After attempt `i` the call goes on: attempts are left, and the delay after the attempt ends
before the time limit. -/
def GoesOn (i : Nat) : Prop :=
  (∀ m ∈ p.maxAttempts, i + 1 < m) ∧
    ∀ t ∈ p.timeout, s.endAt p i + clockMillis (p.delay (i + 1)) < clockMillis t

/-- Why and at which instant the call gives up after attempt `i`. -/
inductive StopsAt (i : Nat) : StopReason → Nat → Prop
  | attempts {m : Nat} : p.maxAttempts = some m → m ≤ i + 1 →
      StopsAt i (.attempts m) (s.endAt p i)
  | deadline {t : Nat} : (∀ m ∈ p.maxAttempts, i + 1 < m) → p.timeout = some t →
      clockMillis t ≤ s.endAt p i + clockMillis (p.delay (i + 1)) →
      StopsAt i (.deadline t) (max (clockMillis t) (s.endAt p i))

@[simp] theorem startAt_zero : s.startAt p 0 = 0 := rfl

theorem startAt_succ (i : Nat) :
    s.startAt p (i + 1) = s.endAt p i + clockMillis (p.delay (i + 1)) := rfl

variable {s p}

theorem stopsAt_of_not_goesOn {i : Nat} (h : ¬ s.GoesOn p i) : ∃ r t, s.StopsAt p i r t := by
  -- a spent count stops the call first; otherwise the time limit has come
  by_cases hm : ∃ m ∈ p.maxAttempts, m ≤ i + 1
  · obtain ⟨m, hma, hle⟩ := hm
    exact ⟨_, _, .attempts hma hle⟩
  have hm' : ∀ m ∈ p.maxAttempts, i + 1 < m := fun m h' =>
    Nat.lt_of_not_le fun hle => hm ⟨m, h', hle⟩
  cases hto : p.timeout with
  | none => exact absurd ⟨hm', by simp [hto]⟩ h
  | some t =>
    refine ⟨_, _, .deadline hm' hto (Nat.le_of_not_lt fun hlt => h ⟨hm', fun t' h' => ?_⟩)⟩
    rw [hto, Option.mem_def, Option.some.injEq] at h'
    exact h' ▸ hlt

theorem StopsAt.unique {i : Nat} {r r' : StopReason} {t t' : Nat} (h : s.StopsAt p i r t)
    (h' : s.StopsAt p i r' t') : r = r' ∧ t = t' := by
  cases h with
  | attempts hma hle =>
    cases h' with
    | attempts hma' _ => simp_all
    | deadline hm' _ _ => exact absurd (hm' _ hma) (by omega)
  | deadline hm hto hle =>
    cases h' with
    | attempts hma' hle' => exact absurd (hm _ hma') (by omega)
    | deadline _ hto' _ => simp_all

end Script

theorem World.Calm.moved {w : World σ} (hw : w.Calm) (t : Nat) (st : σ) :
    ({ w with now := t, state := st } : World σ).Calm :=
  ⟨hw.work, hw.idle, hw.unsettled⟩

namespace Timed

/-- On a calm timeline whose watched tokens are silent, a pause moves the clock to where it ends,
at the deadline if that comes first, and changes nothing else. -/
theorem pause_calm {w : World σ} (hw : w.Calm) {ids : List Nat} (hq : ∀ i ∈ ids, w.Silent i)
    (ms : Nat) (deadline : Option Nat) :
    (pause ms deadline ids).run w =
      (.ok (), { w with now := max w.now (deadline.elim (w.now + ms) (min · (w.now + ms))) }) := by
  rw [pause_run]
  by_cases hms : ms = 0
  · subst hms
    have hmax : max w.now (deadline.elim (w.now + 0) (min · (w.now + 0))) = w.now := by
      cases deadline <;> simp
    rw [if_pos rfl, hmax]
  · generalize deadline.elim (w.now + ms) (min · (w.now + ms)) = target
    rw [if_neg hms]
    by_cases ht : target ≤ w.now
    · simp [waitUntil, ht]
    · have hset : decide (w.precedence = .cancellation) = w.settled := by
        simp [hw.work, hw.unsettled]
      simp [waitUntil, ht, World.nextDue_silent hq, hw.idle, hset,
        Nat.max_eq_right (Nat.le_of_not_le ht)]

end Timed

namespace Plan

variable {p : Plan} {w : World σ} (hq : ∀ k ∈ p.tokens, w.Silent k)
include hq

theorem cancelledBefore_silent (now : Nat) : p.cancelledBefore w.tokens now = false := by
  rw [cancelledBefore, List.any_eq_false]
  intro k hk
  cases ht : w.tokens[k]? with
  | none => simp
  | some t =>
    obtain ⟨hc, hd⟩ := hq k hk t (Option.mem_def.2 ht)
    simp [Token.firedBefore, hc, hd]

theorem stopAt_none {n now : Nat} (hm : ∀ m ∈ p.maxAttempts, n < m)
    (ht : ∀ t ∈ p.timeout, now < clockMillis t) : p.stopAt w.tokens n now = none := by
  have hm' : p.maxAttempts.any (· ≤ n) = false := by
    cases hma : p.maxAttempts <;> simp_all
  have ht' : p.timeout.any (clockMillis · ≤ now) = false := by
    cases hto : p.timeout <;> simp_all
  simp [stopAt, cancelledBefore_silent hq, hm', ht']

theorem stopAt_attempts {n now m : Nat} (hma : p.maxAttempts = some m) (hle : m ≤ n) :
    p.stopAt w.tokens n now = some (.attempts m) := by
  simp [stopAt, cancelledBefore_silent hq, hma, hle]

theorem stopAt_deadline {n now t : Nat} (hm : ∀ m ∈ p.maxAttempts, n < m)
    (hto : p.timeout = some t) (hle : clockMillis t ≤ now) :
    p.stopAt w.tokens n now = some (.deadline t) := by
  have hm' : p.maxAttempts.any (· ≤ n) = false := by
    cases hma : p.maxAttempts <;> simp_all
  simp [stopAt, cancelledBefore_silent hq, hm', hto, hle]

omit hq in
theorem ofStrategies_maxAttempts_pos (ss : List Strategy) :
    ∀ m ∈ (ofStrategies ss).maxAttempts, 1 ≤ m := by
  intro m hm
  rw [(ofStrategies_ofList ss).maxAttempts] at hm
  obtain ⟨st, -, hst⟩ := List.mem_filterMap.1 (List.min?_mem hm)
  cases st <;> simp only [Strategy.attemptBudget, reduceCtorEq, Option.some.injEq] at hst
  omega

omit hq in
theorem pause_one_le (p : Plan) (i : Nat) :
    clockMillis (p.delay 1) ≤ clockMillis (p.delay (i + 1)) :=
  clockMillis_mono (p.delay_mono (Nat.le_add_left 1 i))

end Plan

namespace Script

section Step

variable {s : Script α} {p : Plan} (desc : String) {w : World AttemptLog} (hw : w.Calm)
  (hq : ∀ k ∈ p.tokens, w.Silent k) (hn : w.now = s.startAt p w.state.starts.size) {e : Fault}
  (he : s.answer p w.state.starts.size = .error e) (hperm : e.classified.permanent = false)
include hw hq hn he hperm

/-- A call that goes on after a failed attempt starts the next one once the delay after it has
passed, on a timeline as calm as before. -/
theorem retryFrom_goesOn (hgo : s.GoesOn p w.state.starts.size) (fuel : Nat) :
    (retryFrom desc p (p.timeout.map clockMillis) s.attempt (fuel + 1) (w.state.starts.size + 1)).run w =
      (retryFrom desc p (p.timeout.map clockMillis) s.attempt fuel (w.state.starts.size + 1 + 1)).run
        { w with
          now := s.startAt p (w.state.starts.size + 1)
          state := ⟨w.state.starts.push w.now⟩ } := by
  obtain ⟨hm, ht⟩ := hgo
  have hend : w.now + s.runtime p w.state.starts.size = s.endAt p w.state.starts.size := by
    rw [hn]
    rfl
  have hc₁ := hw.moved (s.endAt p w.state.starts.size) ⟨w.state.starts.push w.now⟩
  -- the delay ends before the time limit, so it runs in full and neither check stops the call
  have hwake : max (s.endAt p w.state.starts.size)
      ((p.timeout.map clockMillis).elim
        (s.endAt p w.state.starts.size + clockMillis (p.delay (w.state.starts.size + 1)))
        (min · (s.endAt p w.state.starts.size + clockMillis (p.delay (w.state.starts.size + 1))))) =
      s.startAt p (w.state.starts.size + 1) := by
    rw [startAt_succ]
    cases hto : p.timeout with
    | none => simp
    | some t =>
      have := ht t hto
      simp only [Option.map_some, Option.elim_some]
      omega
  have hc₂ := hw.moved (s.startAt p (w.state.starts.size + 1)) ⟨w.state.starts.push w.now⟩
  have hgo₁ : p.stopAt w.tokens (w.state.starts.size + 1) (s.endAt p w.state.starts.size) = none :=
    Plan.stopAt_none hq hm fun t h => by
      have := ht t h
      omega
  have hgo₂ : p.stopAt w.tokens (w.state.starts.size + 1)
      (s.startAt p (w.state.starts.size + 1)) = none :=
    Plan.stopAt_none hq hm fun t h => by
      rw [startAt_succ]
      exact ht t h
  rw [retryFrom]
  simp only [Timed.run_bind, s.attempt_calm p w hw, he, hend, hperm, Bool.false_eq_true, if_false,
    p.stopReason_unsettled _ hc₁.unsettled, hgo₁, Timed.pause_calm hc₁ hq, hwake,
    p.stopReason_unsettled _ hc₂.unsettled, hgo₂]

/-- A call that gives up after a failed attempt does so at the instant and for the reason the
schedule says, wrapping the attempt's failure and logging why. -/
theorem retryFrom_stopsAt {r : StopReason} {t : Nat} (hst : s.StopsAt p w.state.starts.size r t)
    (fuel : Nat) :
    ∃ ev, (retryFrom desc p (p.timeout.map clockMillis) s.attempt (fuel + 1) (w.state.starts.size + 1)).run w =
      (.ok (.error { code := .timeout
                     message := s!"failed to {desc} after {w.state.starts.size + 1} attempt(s): {r.text}"
                     cause := e.classified.chain }),
       { w with now := t, state := ⟨w.state.starts.push w.now⟩, log := w.log.push ev }) := by
  have hend : w.now + s.runtime p w.state.starts.size = s.endAt p w.state.starts.size := by
    rw [hn]
    rfl
  have hc₁ := hw.moved (s.endAt p w.state.starts.size) ⟨w.state.starts.push w.now⟩
  rw [retryFrom]
  simp only [Timed.run_bind, s.attempt_calm p w hw, he, hend, hperm, Bool.false_eq_true, if_false,
    p.stopReason_unsettled _ hc₁.unsettled]
  cases hst with
  | @attempts m hma hle =>
    -- the spent count stops the call as the attempt ends
    obtain ⟨ev, hg⟩ := giveUp_run desc (w.state.starts.size + 1) (.attempts m) e.classified
      ({ w with now := s.endAt p w.state.starts.size, state := ⟨w.state.starts.push w.now⟩ } :
        World AttemptLog)
    refine ⟨ev, ?_⟩
    simp only [Plan.stopAt_attempts hq hma hle, Timed.run_bind, hg, Timed.run_pure]
  | @deadline t hm hto hle =>
    by_cases hlate : clockMillis t ≤ s.endAt p w.state.starts.size
    · -- the time limit has come by the end of the attempt
      obtain ⟨ev, hg⟩ := giveUp_run desc (w.state.starts.size + 1) (.deadline t) e.classified
        ({ w with now := s.endAt p w.state.starts.size, state := ⟨w.state.starts.push w.now⟩ } :
          World AttemptLog)
      refine ⟨ev, ?_⟩
      simp only [Plan.stopAt_deadline hq hm hto hlate, Timed.run_bind, hg, Timed.run_pure,
        Nat.max_eq_right hlate]
    · -- the delay after the attempt is cut short at the time limit
      have hwake : max (s.endAt p w.state.starts.size)
          ((p.timeout.map clockMillis).elim
            (s.endAt p w.state.starts.size + clockMillis (p.delay (w.state.starts.size + 1)))
            (min · (s.endAt p w.state.starts.size + clockMillis (p.delay (w.state.starts.size + 1))))) =
            clockMillis t := by
        simp only [hto, Option.map_some, Option.elim_some]
        omega
      have hc₂ := hw.moved (clockMillis t) ⟨w.state.starts.push w.now⟩
      obtain ⟨ev, hg⟩ := giveUp_run desc (w.state.starts.size + 1) (.deadline t) e.classified
        ({ w with now := clockMillis t, state := ⟨w.state.starts.push w.now⟩ } : World AttemptLog)
      have hgo : p.stopAt w.tokens (w.state.starts.size + 1) (s.endAt p w.state.starts.size) = none :=
        Plan.stopAt_none hq hm fun t' h' => by
          rw [hto, Option.mem_def, Option.some.injEq] at h'
          subst h'
          omega
      refine ⟨ev, ?_⟩
      simp only [hgo, Timed.run_bind, Timed.pause_calm hc₁ hq, hwake,
        p.stopReason_unsettled _ hc₂.unsettled, Plan.stopAt_deadline hq hm hto (Nat.le_refl _), hg,
        Timed.run_pure, Nat.max_eq_left (Nat.le_of_lt (Nat.lt_of_not_le hlate))]

end Step

/-- A timeline at the start of attempt `i` of the schedule: calm, with silent tokens, the earlier
attempts started where the schedule says, and the clock where attempt `i` starts. -/
structure OnSchedule (s : Script α) (p : Plan) (w : World AttemptLog) : Prop where
  calm : w.Calm
  silent : ∀ k ∈ p.tokens, w.Silent k
  starts : w.state.starts.toList = (List.range w.state.starts.size).map (s.startAt p)
  now : w.now = s.startAt p w.state.starts.size

theorem OnSchedule.next {s : Script α} {p : Plan} {w : World AttemptLog} (hw : OnSchedule s p w) :
    OnSchedule s p { w with
      now := s.startAt p (w.state.starts.size + 1)
      state := ⟨w.state.starts.push w.now⟩ } where
  calm := hw.calm.moved _ _
  silent := hw.silent
  starts := by simp [hw.starts, hw.now, List.range_succ]
  now := by simp

section Run

variable {s : Script α} {p : Plan} (desc : String) (htr : ∀ i, Transient (s.answer p i))
  {n : Nat} {r : StopReason} {t : Nat}
include htr

/-- The schedule's last attempt, attempt `n`: the call gives up after it, at the instant and for
the reason the schedule says, with every attempt started on schedule. -/
theorem retryFrom_last (hstop : s.StopsAt p n r t) (fuel : Nat) {w : World AttemptLog}
    (hw : OnSchedule s p w) (hn : w.state.starts.size = n) :
    ∃ e, s.answer p n = .error e ∧ ∃ w',
      (retryFrom desc p (p.timeout.map clockMillis) s.attempt (fuel + 1) (w.state.starts.size + 1)).run w =
        (.ok (.error { code := .timeout
                       message := s!"failed to {desc} after {n + 1} attempt(s): {r.text}"
                       cause := e.classified.chain }), w') ∧
      w'.now = t ∧ w'.state.starts.toList = (List.range (n + 1)).map (s.startAt p) := by
  subst hn
  obtain ⟨e, he, hperm⟩ := htr w.state.starts.size
  obtain ⟨ev, hrun⟩ := retryFrom_stopsAt desc hw.calm hw.silent hw.now he hperm hstop fuel
  refine ⟨e, he, _, hrun, rfl, ?_⟩
  simp [hw.starts, hw.now, List.range_succ]

/-- From any attempt on schedule, a call that goes on after each attempt before attempt `n` and
not after it makes exactly `n + 1` attempts, each starting on schedule, and gives up after the
last at the instant and for the reason the schedule says, provided the timeline allows them.
By induction on the attempts the timeline has left; each goes on by `retryFrom_goesOn`. -/
theorem retryFrom_schedule (hgo : ∀ j < n, s.GoesOn p j) (hstop : s.StopsAt p n r t)
    (fuel : Nat) :
    ∀ w : World AttemptLog, OnSchedule s p w → w.state.starts.size ≤ n →
      n ≤ w.state.starts.size + fuel →
      ∃ e, s.answer p n = .error e ∧ ∃ w',
        (retryFrom desc p (p.timeout.map clockMillis) s.attempt (fuel + 1) (w.state.starts.size + 1)).run w =
          (.ok (.error { code := .timeout
                         message := s!"failed to {desc} after {n + 1} attempt(s): {r.text}"
                         cause := e.classified.chain }), w') ∧
        w'.now = t ∧ w'.state.starts.toList = (List.range (n + 1)).map (s.startAt p) := by
  induction fuel with
  | zero =>
    intro w hw hle hfuel
    exact retryFrom_last desc htr hstop 0 hw (by omega)
  | succ fuel ih =>
    intro w hw hle hfuel
    by_cases hlast : w.state.starts.size = n
    · exact retryFrom_last desc htr hstop (fuel + 1) hw hlast
    obtain ⟨e, he, hperm⟩ := htr w.state.starts.size
    rw [retryFrom_goesOn desc hw.calm hw.silent hw.now he hperm (hgo _ (by omega))]
    have hnext := ih _ hw.next (by simp; omega) (by simp; omega)
    simp only [Array.size_push] at hnext
    exact hnext

/-- From any attempt on schedule, a call that would go on after every attempt the timeline allows
is cut off once they are made, each started on schedule. -/
theorem retryFrom_exhausted (fuel : Nat) :
    ∀ w : World AttemptLog, OnSchedule s p w →
      (∀ j, w.state.starts.size ≤ j → j ≤ w.state.starts.size + fuel → s.GoesOn p j) →
      ∃ w', (retryFrom desc p (p.timeout.map clockMillis) s.attempt (fuel + 1) (w.state.starts.size + 1)).run w =
          (.error .exhausted, w') ∧
        w'.state.starts.toList =
          (List.range (w.state.starts.size + fuel + 1)).map (s.startAt p) := by
  induction fuel with
  | zero =>
    intro w hw hgo
    obtain ⟨e, he, hperm⟩ := htr w.state.starts.size
    rw [retryFrom_goesOn desc hw.calm hw.silent hw.now he hperm (hgo _ le_rfl (by omega))]
    refine ⟨_, rfl, ?_⟩
    simp [hw.starts, hw.now, List.range_succ]
  | succ fuel ih =>
    intro w hw hgo
    obtain ⟨e, he, hperm⟩ := htr w.state.starts.size
    rw [retryFrom_goesOn desc hw.calm hw.silent hw.now he hperm (hgo _ le_rfl (by omega))]
    have hnext := ih _ hw.next fun j h₁ h₂ => hgo j (by simp at h₁; omega) (by simp at h₂; omega)
    simp only [Array.size_push] at hnext
    obtain ⟨w', hrun, hst⟩ := hnext
    exact ⟨w', hrun, by rw [hst]; congr 2; omega⟩

end Run

theorem onSchedule_start (s : Script α) (p : Plan) (cap : Nat) {ts : List Token}
    (hts : ∀ tk ∈ ts, tk.cancelled = false ∧ tk.due = none) :
    OnSchedule s p
      ({ World.start .work {} with tokens := ts.toArray, attemptCap := cap } : World AttemptLog) where
  calm := ⟨rfl, rfl, rfl⟩
  silent k _ tk htk := by
    simp only [Option.mem_def, List.getElem?_toArray] at htk
    exact hts tk (List.mem_of_getElem? htk)
  starts := rfl
  now := rfl

section Instant

variable {s : Script α} {p : Plan} (h0 : ∀ i, s.runtime p i = 0)
include h0

theorem startAt_instant (i : Nat) : s.startAt p i = p.waited i := by
  induction i with
  | zero => rfl
  | succ i ih => rw [startAt_succ, endAt, ih, h0, Nat.add_zero, Plan.waited_succ]

/-- When the attempts take no time, the call goes on after attempt `i` exactly when the plan goes
on after `i + 1` failures. -/
theorem goesOn_instant (i : Nat) : s.GoesOn p i ↔ p.Continues (i + 1) := by
  simp only [GoesOn, Plan.Continues, endAt, startAt_instant h0, h0, Nat.add_zero, Plan.waited_succ]

end Instant

/-- With the attempts taking no time, a call that goes on after each attempt before attempt `n`
and not after it makes as many attempts as the count allows, and at most one more than the
delays whose running sums stay short of the time limit. -/
theorem attempts_instant {s : Script α} {p : Plan} (h0 : ∀ i, s.runtime p i = 0)
    (hM : ∀ m ∈ p.maxAttempts, 1 ≤ m)
    {n : Nat} {r : StopReason} {t : Nat} (hgo : ∀ j < n, s.GoesOn p j)
    (hstop : s.StopsAt p n r t) :
    ((n + 1 : Nat) : ℕ∞) = min (p.maxAttempts.elim ⊤ fun m => (m : ℕ∞))
      (1 + {j : Nat | 1 ≤ j ∧ ∀ T ∈ p.timeout, p.waited j < clockMillis T}.encard) := by
  have hcont : ∀ j, 1 ≤ j → j ≤ n → p.Continues j := fun j h₁ h₂ => by
    have := (goesOn_instant h0 (j - 1)).1 (hgo (j - 1) (by omega))
    rwa [Nat.sub_add_cancel h₁] at this
  -- the first `n` running sums stay short of the limit
  have hsub :
      (↑(Finset.Icc 1 n) : Set Nat) ⊆ {j | 1 ≤ j ∧ ∀ T ∈ p.timeout, p.waited j < clockMillis T} :=
    fun j hj => by
      simp only [Finset.coe_Icc, Set.mem_Icc] at hj
      exact ⟨hj.1, (hcont j hj.1 hj.2).2⟩
  have hK := Set.encard_le_encard hsub
  rw [Set.encard_coe_eq_coe_finsetCard, Nat.card_Icc, Nat.add_sub_cancel] at hK
  cases hstop with
  | @attempts m hma hle =>
    -- the count is spent after exactly `n + 1` attempts
    have hm : m = n + 1 := by
      rcases Nat.eq_zero_or_pos n with rfl | hn
      · have := hM m hma
        omega
      · have := (hcont n hn le_rfl).1 m hma
        omega
    rw [hma, Option.elim_some, hm, min_eq_left]
    calc ((n + 1 : Nat) : ℕ∞) = 1 + (n : ℕ∞) := by push_cast; ring
      _ ≤ _ := add_le_add_right hK 1
  | @deadline T hm hto hle =>
    -- the running sums stay short of the limit exactly up to the `n`-th
    have hset :
        {j : Nat | 1 ≤ j ∧ ∀ T ∈ p.timeout, p.waited j < clockMillis T} = ↑(Finset.Icc 1 n) := by
      refine Set.Subset.antisymm (fun j ⟨h₁, hj⟩ => ?_) hsub
      simp only [Finset.coe_Icc, Set.mem_Icc]
      refine ⟨h₁, Nat.le_of_not_lt fun hgt => ?_⟩
      have hw := p.waited_mono (show n + 1 ≤ j by omega)
      have := hj T hto
      simp only [endAt, startAt_instant h0, h0, Nat.add_zero, ← Plan.waited_succ] at hle
      omega
    rw [hset, Set.encard_coe_eq_coe_finsetCard, Nat.card_Icc, Nat.add_sub_cancel, min_eq_right]
    · push_cast
      ring
    cases hma : p.maxAttempts with
    | none => simp
    | some m =>
      have := hm m hma
      simp only [Option.elim_some]
      exact_mod_cast (show 1 + n ≤ m by omega)

theorem startAt_ge (s : Script α) (p : Plan) (i : Nat) :
    i * clockMillis (p.delay 1) ≤ s.startAt p i := by
  induction i with
  | zero => simp
  | succ i ih =>
    rw [startAt_succ, endAt, Nat.succ_mul]
    have := p.pause_one_le i
    omega

/-- A call whose plan counts its attempts, or limits its time and waits after the first attempt,
gives up after some attempt of its schedule. -/
theorem stops_eventually (s : Script α) {p : Plan}
    (hlim : p.maxAttempts.isSome ∨ p.timeout.isSome) (hfin : p.maxAttempts.isSome ∨ 0 < p.delay 1) :
    ∃ n r t, (∀ j < n, s.GoesOn p j) ∧ s.StopsAt p n r t := by
  classical
  have hex : ∃ i, ¬ s.GoesOn p i := by
    cases hma : p.maxAttempts with
    | some m => exact ⟨m, fun h => absurd (h.1 m hma) (by omega)⟩
    | none =>
      obtain ⟨T, hto⟩ := Option.isSome_iff_exists.1 (hlim.resolve_left (by simp [hma]))
      have hd : 0 < clockMillis (p.delay 1) := clockMillis_pos (hfin.resolve_left (by simp [hma]))
      -- by attempt `clockMillis T` the first pauses alone have used up the time limit
      refine ⟨clockMillis T, fun h => ?_⟩
      have h₁ := h.2 T hto
      have h₂ := s.startAt_ge p (clockMillis T)
      have h₃ : clockMillis T ≤ clockMillis T * clockMillis (p.delay 1) :=
        Nat.le_mul_of_pos_right _ hd
      unfold endAt at h₁
      omega
  obtain ⟨r, t, h⟩ := stopsAt_of_not_goesOn (Nat.find_spec hex)
  exact ⟨Nat.find hex, r, t, fun j hj => not_not.1 (Nat.find_min hex hj), h⟩

section Retried

variable (s : Script α) (desc : String) (cap : Nat) {ss : List Strategy} {ts : List Token}
  (hts : ∀ tk ∈ ts, tk.cancelled = false ∧ tk.due = none)
  (htr : ∀ i, Transient (s.answer (Plan.ofStrategies ss) i))
  (hfit : ¬ (Plan.ofStrategies ss).DeadlineOverflows)
include hts htr hfit

theorem retried_on_schedule {n : Nat} {r : StopReason} {t : Nat}
    (hgo : ∀ j < n, s.GoesOn (Plan.ofStrategies ss) j)
    (hstop : s.StopsAt (Plan.ofStrategies ss) n r t) (hcap : n ≤ cap) :
    ∃ e, s.answer (Plan.ofStrategies ss) n = .error e ∧
      (s.retried desc ss ts (cap + 1)).1 = .ok (.error
        { code := .timeout
          message := s!"failed to {desc} after {n + 1} attempt(s): {r.text}"
          cause := e.classified.chain }) ∧
      (s.retried desc ss ts (cap + 1)).2.now = t ∧
      (s.retried desc ss ts (cap + 1)).2.state.starts.toList =
        (List.range (n + 1)).map (s.startAt (Plan.ofStrategies ss)) := by
  obtain ⟨e, he, w', hrun, hnow, hst⟩ := retryFrom_schedule desc htr hgo hstop cap _
    (onSchedule_start s _ (cap + 1) hts) (Nat.zero_le n) (by simpa [World.start] using hcap)
  rw [retried_of_fits s desc (cap + 1) ts hfit]
  refine ⟨e, he, ?_⟩
  erw [hrun]
  exact ⟨rfl, hnow, hst⟩

/-- Within the clock's range, a call that would go on after every attempt the guard allows is
stopped after them. -/
theorem retried_exhausted (hgo : ∀ j ≤ cap, s.GoesOn (Plan.ofStrategies ss) j) :
    (s.retried desc ss ts (cap + 1)).1 = .error .exhausted ∧
      (s.retried desc ss ts (cap + 1)).2.state.starts.toList =
        (List.range (cap + 1)).map (s.startAt (Plan.ofStrategies ss)) := by
  have hsz : ({ World.start .work {} with tokens := ts.toArray, attemptCap := cap + 1 } :
      World AttemptLog).state.starts.size = 0 := rfl
  have hcut := retryFrom_exhausted desc htr cap _ (onSchedule_start s _ (cap + 1) hts)
  simp only [hsz, Nat.zero_add] at hcut
  obtain ⟨w', hrun, hst⟩ := hcut fun j _ hj => hgo j hj
  rw [retried_of_fits s desc (cap + 1) ts hfit, hrun]
  exact ⟨rfl, hst⟩

end Retried

end Script

end DiskUploader
