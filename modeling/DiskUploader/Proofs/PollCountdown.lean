import DiskUploader.Proofs.RetryContract

/-!
# Retries of polls that count down

A poll asks after a resource in transition and fails, transiently, until the resource has
settled. When every poll takes no time the attempt law of a plan reads as arithmetic: after
failed attempt `n` the retry has paused for `waited n`, the sum of the first `n` delays, and it
makes another attempt exactly when attempts are left and that sum stays short of the time limit.
A plan allows `k` attempts when it goes on after each of the first `k - 1` failures.

A poll that fails `k` times before it answers then ends one of two ways. If the plan allows
`k + 1` attempts, the retry answers the poll's value after `k + 1` polls, the clock moved on by
`waited k`. Otherwise it gives up after fewer polls, and no later. Both hold on a timeline where
no watched token ever cancels, no attempt limit runs, the attempt cap is not reached and every
deadline lies within the clock's range.
-/

namespace DiskUploader

variable {σ α : Type}

namespace Plan

variable (p : Plan)

/-- How long a retry has paused after `n` failed attempts that took no time, when no pause was
cut short, in the clock's milliseconds. -/
def waited : Nat → Nat
  | 0 => 0
  | n + 1 => waited n + clockMillis (p.delay (n + 1))

/-- After failed attempt `n` the retry makes another: attempts are left, and the pause after the
failure ends before the time limit. -/
def Continues (n : Nat) : Prop :=
  (∀ m ∈ p.maxAttempts, n < m) ∧ ∀ t ∈ p.timeout, p.waited n < clockMillis t

def Allows (k : Nat) : Prop := ∀ n < k, 0 < n → p.Continues n

def FitsBy (latest : Nat) : Prop :=
  ∀ t ∈ p.timeout, (latest * nanosPerMilli + t) / nanosPerSecond ≤ instantSecondsMax

instance (n : Nat) : Decidable (p.Continues n) := inferInstanceAs (Decidable (_ ∧ _))

instance (k : Nat) : Decidable (p.Allows k) := inferInstanceAs (Decidable (∀ n < k, _))

@[simp] theorem waited_zero : p.waited 0 = 0 := rfl

@[simp] theorem waited_succ (n : Nat) :
    p.waited (n + 1) = p.waited n + clockMillis (p.delay (n + 1)) := rfl

theorem waited_mono {m n : Nat} (h : m ≤ n) : p.waited m ≤ p.waited n := by
  induction h with
  | refl => exact Nat.le_refl _
  | step _ ih => exact ih.trans (Nat.le_add_right _ _)

variable {p}

theorem FitsBy.mono {a b : Nat} (hf : p.FitsBy b) (h : a ≤ b) : p.FitsBy a :=
  fun t ht => (Nat.div_le_div_right (Nat.add_le_add_right (Nat.mul_le_mul_right _ h) t)).trans
    (hf t ht)

theorem allows_succ_iff {k : Nat} : p.Allows (k + 1) ↔ ∀ n, 0 < n → n ≤ k → p.Continues n :=
  ⟨fun h n hn hk => h n (by omega) hn, fun h n hk hn => h n hn (by omega)⟩

theorem attempt_free (h : p.attemptLimit = none) (n : Nat) (action : Timed σ (Except Fault α)) :
    p.attempt n action = action := by
  simp [attempt, h]

end Plan

/-- A token that has not cancelled and is not due to: it never cancels. -/
def World.Silent (w : World σ) (i : Nat) : Prop :=
  ∀ t ∈ w.tokens[i]?, t.cancelled = false ∧ t.due = none

/-- Where timed work that started from `w` ended: with the clock at `t`, the serial at `k` and
the state `s`, under the tokens, attempt limits, attempt cap and precedence of `w`. The log, and
whether the cancellations due at the present instant have happened, are left open. -/
structure World.Lands (w : World σ) (t k : Nat) (s : σ) (w' : World σ) : Prop where
  now : w'.now = t
  serial : w'.serial = k
  state : w'.state = s
  tokens : w'.tokens = w.tokens
  cutoffs : w'.cutoffs = w.cutoffs
  attemptCap : w'.attemptCap = w.attemptCap
  precedence : w'.precedence = w.precedence

/-- A timeline where a retry may make an attempt with no limit running, by the instant `latest`. -/
structure World.Ready (latest : Nat) (w : World σ) : Prop where
  early : w.now ≤ latest
  idle : w.cutoffs = []
  capped : 0 < w.attemptCap

namespace World

variable {w w₁ w₂ : World σ} {t t' k k' : Nat} {s s' : σ}

theorem Lands.refl (w : World σ) : w.Lands w.now w.serial w.state w :=
  ⟨rfl, rfl, rfl, rfl, rfl, rfl, rfl⟩

theorem Lands.state_only (w : World σ) (s : σ) : w.Lands w.now w.serial s { w with state := s } :=
  ⟨rfl, rfl, rfl, rfl, rfl, rfl, rfl⟩

theorem Lands.trans (h₁ : w.Lands t k s w₁) (h₂ : w₁.Lands t' k' s' w₂) : w.Lands t' k' s' w₂ :=
  ⟨h₂.now, h₂.serial, h₂.state, h₂.tokens.trans h₁.tokens, h₂.cutoffs.trans h₁.cutoffs,
    h₂.attemptCap.trans h₁.attemptCap, h₂.precedence.trans h₁.precedence⟩

theorem Lands.trans_clock (h₁ : w.Lands t k s w₁) (h₂ : w₁.Lands t' w₁.serial w₁.state w₂) :
    w.Lands t' k s w₂ := by
  rw [h₁.serial, h₁.state] at h₂
  exact h₁.trans h₂

theorem Lands.silent (h : w.Lands t k s w₁) {i : Nat} (hi : w.Silent i) : w₁.Silent i := by
  unfold Silent
  rw [h.tokens]
  exact hi

theorem fired_silent {i : Nat} (hi : w.Silent i) {tk : Token} (ht : w.tokens[i]? = some tk) :
    w.fired tk = false := by
  obtain ⟨hc, hd⟩ := hi tk (Option.mem_def.2 ht)
  simp [fired, hc, hd]

theorem anyCancelled_silent {ids : List Nat} (hq : ∀ i ∈ ids, w.Silent i) :
    (ids.any fun i => (w.tokens[i]?.map w.fired).getD false) = false := by
  rw [List.any_eq_false]
  intro i hi
  cases ht : w.tokens[i]? with
  | none => simp
  | some tk => simp [fired_silent (hq i hi) ht]

theorem nextDue_silent {ids : List Nat} (hq : ∀ i ∈ ids, w.Silent i) : w.nextDue ids = none := by
  cases h : w.nextDue ids with
  | none => rfl
  | some d =>
    obtain ⟨i, hi, tk, ht, -, hd⟩ := Timed.nextDue_mem h
    rw [(hq i hi tk (Option.mem_def.2 ht)).2] at hd
    cases hd

end World

namespace Timed

variable {w : World σ}

theorem waitUntil_silent (target : Nat) {ids : List Nat} (hq : ∀ i ∈ ids, w.Silent i)
    (hc : w.cutoffs = []) :
    ∃ w', (waitUntil target ids).run w = (.ok (), w') ∧
      w.Lands (max w.now target) w.serial w.state w' := by
  by_cases ht : target ≤ w.now
  · refine ⟨w, by simp [waitUntil, ht], ?_⟩
    rw [Nat.max_eq_left ht]
    exact World.Lands.refl w
  · refine ⟨{ w with now := target, settled := decide (w.precedence = .cancellation) },
      by simp [waitUntil, ht, World.nextDue_silent hq, hc], ?_⟩
    exact ⟨by simp only; omega, rfl, rfl, rfl, rfl, rfl, rfl⟩

/-- A pause that watches only silent tokens ends after its delay, or at the deadline if that
comes first, but never before the present instant. -/
theorem pause_silent (ms : Nat) (deadline : Option Nat) {ids : List Nat}
    (hq : ∀ i ∈ ids, w.Silent i) (hc : w.cutoffs = []) :
    ∃ w', (pause ms deadline ids).run w = (.ok (), w') ∧
      w.Lands (max w.now (deadline.elim (w.now + ms) (min · (w.now + ms)))) w.serial w.state w' := by
  rw [pause_run]
  by_cases hms : ms = 0
  · -- a pause of nothing leaves the clock where it is
    subst hms
    have hmax : max w.now (deadline.elim (w.now + 0) (min · (w.now + 0))) = w.now := by
      cases deadline <;> simp
    rw [hmax]
    exact ⟨w, rfl, World.Lands.refl w⟩
  · simp only [hms, ↓reduceIte]
    exact waitUntil_silent _ hq hc

end Timed

namespace Plan

variable {p : Plan} {w : World σ} (hq : ∀ i ∈ p.tokens, w.Silent i)
include hq

theorem stopReason_none {start n : Nat} (hm : ∀ m ∈ p.maxAttempts, n < m)
    (ht : ∀ t ∈ p.timeout, w.now < start + clockMillis t) :
    (p.stopReason (p.timeout.map (start + clockMillis ·)) n).run w = (.ok none, w) := by
  simp only [stopReason, Timed.run_bind, Timed.run_anyCancelled, World.anyCancelled_silent hq]
  cases hma : p.maxAttempts with
  | none =>
    cases hto : p.timeout with
    | none => rfl
    | some t =>
      have := ht t hto
      simp [Nat.not_le.2 this]
  | some m =>
    have hnm := hm m hma
    cases hto : p.timeout with
    | none => simp [Nat.not_le.2 hnm]
    | some t =>
      have := ht t hto
      simp [Nat.not_le.2 hnm, Nat.not_le.2 this]

theorem stopReason_some {start n : Nat}
    (h : ¬ ((∀ m ∈ p.maxAttempts, n < m) ∧ ∀ t ∈ p.timeout, w.now < start + clockMillis t)) :
    ∃ r, (p.stopReason (p.timeout.map (start + clockMillis ·)) n).run w = (.ok (some r), w) := by
  simp only [stopReason, Timed.run_bind, Timed.run_anyCancelled, World.anyCancelled_silent hq]
  cases hma : p.maxAttempts with
  | none =>
    cases hto : p.timeout with
    | none => simp [hma, hto] at h
    | some t =>
      have : start + clockMillis t ≤ w.now := by simpa [hma, hto] using h
      simp [this]
  | some m =>
    by_cases hnm : m ≤ n
    · simp [hnm]
    · cases hto : p.timeout with
      | none => simp [hma, hto] at h; omega
      | some t =>
        have : start + clockMillis t ≤ w.now := by simpa [hma, hto, Nat.lt_of_not_le hnm] using h
        simp [hnm, this]

end Plan

/-- A poll that, from the states of `orbit`, fails transiently `k` times and then answers `v`,
taking no time and moving the state one step along the orbit each time. -/
structure Timed.Countdown (latest : Nat) (poll : Timed σ (Except Fault α)) (orbit : Nat → σ)
    (k : Nat) (v : α) : Prop where
  pending : ∀ j < k, ∀ w : World σ, w.state = orbit j → w.Ready latest →
    ∃ e w', poll.run w = (.ok (.error e), w') ∧ e.classified.permanent = false ∧
      w.Lands w.now w.serial (orbit (j + 1)) w'
  done : ∀ w : World σ, w.state = orbit k → w.Ready latest →
    ∃ w', poll.run w = (.ok (.ok v), w') ∧ w.Lands w.now w.serial (orbit (k + 1)) w'

section Steps

variable {p : Plan} (hl : p.attemptLimit = none) (desc : String) {poll : Timed σ (Except Fault α)}
  {start j fuel : Nat} {w w₁ : World σ}
include hl

theorem retryFrom_ok {v : α} (hrun : poll.run w = (.ok (.ok v), w₁)) (deadline : Option Nat) :
    (retryFrom desc p deadline poll (fuel + 1) (j + 1)).run w = (.ok (.ok v), w₁) := by
  simp [retryFrom, Plan.attempt_free hl, hrun]

theorem retryFrom_permanent {e : Fault} (hrun : poll.run w = (.ok (.error e), w₁))
    (hperm : e.classified.permanent = true) (deadline : Option Nat) :
    (retryFrom desc p deadline poll (fuel + 1) (j + 1)).run w =
      (.ok (.error (Fault.wrap e.classified.chain e.classified.code s!"failed to {desc}")), w₁) := by
  simp [retryFrom, Plan.attempt_free hl, hrun, hperm]

variable (hq : ∀ i ∈ p.tokens, w₁.Silent i) (hc : w₁.cutoffs = [])
  (hn : w₁.now = start + p.waited j)
include hq hc hn

/-- A transient failure the plan goes on after: the loop starts its next attempt once the pause
has brought the clock to `waited (j + 1)`. -/
theorem retryFrom_continue {e : Fault} (hrun : poll.run w = (.ok (.error e), w₁))
    (hperm : e.classified.permanent = false) (hgo : p.Continues (j + 1)) :
    ∃ w₂, (retryFrom desc p (p.timeout.map (start + clockMillis ·)) poll (fuel + 1) (j + 1)).run w =
        (retryFrom desc p (p.timeout.map (start + clockMillis ·)) poll fuel (j + 1 + 1)).run w₂ ∧
      w₁.Lands (start + p.waited (j + 1)) w₁.serial w₁.state w₂ := by
  obtain ⟨hm, ht⟩ := hgo
  -- the pause ends before the deadline, so neither check stops the loop
  have hbefore : ∀ t ∈ p.timeout, w₁.now < start + clockMillis t := fun t h => by
    have := ht t h
    simp only [Plan.waited_succ] at this
    omega
  have hafter : ∀ t ∈ p.timeout, start + p.waited (j + 1) < start + clockMillis t :=
    fun t h => Nat.add_lt_add_left (ht t h) start
  obtain ⟨w₂, hpause, hw₂⟩ := Timed.pause_silent (clockMillis (p.delay (j + 1))) (p.timeout.map (start + clockMillis ·)) hq hc
  have hnow : max w₁.now ((p.timeout.map (start + clockMillis ·)).elim (w₁.now + clockMillis (p.delay (j + 1)))
      (min · (w₁.now + clockMillis (p.delay (j + 1))))) = start + p.waited (j + 1) := by
    cases hto : p.timeout with
    | none => simp [hn, Nat.add_assoc]
    | some t =>
      have := ht t hto
      simp only [Plan.waited_succ] at this ⊢
      simp only [Option.map_some, Option.elim_some, hn]
      rw [Nat.min_eq_right (by omega), Nat.max_eq_right (by omega), Nat.add_assoc]
  rw [hnow] at hw₂
  have hq₂ : ∀ i ∈ p.tokens, w₂.Silent i := fun i hi => hw₂.silent (hq i hi)
  refine ⟨w₂, ?_, hw₂⟩
  simp [retryFrom, Plan.attempt_free hl, hrun, hperm, Plan.stopReason_none hq hm hbefore, hpause,
    Plan.stopReason_none hq₂ hm (hw₂.now ▸ hafter)]

variable (fuel) in
/-- A transient failure the plan does not go on after: the loop gives up, no later than the
pause after the failure would end. -/
theorem retryFrom_stop {e : Fault} (hrun : poll.run w = (.ok (.error e), w₁))
    (hperm : e.classified.permanent = false) (hstop : ¬ p.Continues (j + 1)) :
    ∃ f w₂, (retryFrom desc p (p.timeout.map (start + clockMillis ·)) poll (fuel + 1) (j + 1)).run w =
        (.ok (.error f), w₂) ∧ w₁.Lands w₂.now w₁.serial w₁.state w₂ ∧
      w₂.now ≤ start + p.waited (j + 1) := by
  have hle : w₁.now ≤ start + p.waited (j + 1) := by
    rw [hn]
    exact Nat.add_le_add_left (p.waited_mono (Nat.le_succ j)) start
  by_cases hfirst : (∀ m ∈ p.maxAttempts, j + 1 < m) ∧ ∀ t ∈ p.timeout, w₁.now < start + clockMillis t
  · -- the first check lets the loop pause; the pause reaches the deadline, which stops it
    obtain ⟨w₂, hpause, hw₂⟩ :=
      Timed.pause_silent (clockMillis (p.delay (j + 1))) (p.timeout.map (start + clockMillis ·)) hq hc
    have hq₂ : ∀ i ∈ p.tokens, w₂.Silent i := fun i hi => hw₂.silent (hq i hi)
    have hdead : ∀ t ∈ p.timeout, start + clockMillis t ≤ start + p.waited (j + 1) := fun t h => by
      by_contra hlt
      exact hstop ⟨hfirst.1, fun t' h' => by rw [h] at h'; cases h'; omega⟩
    have hlate : ¬ ((∀ m ∈ p.maxAttempts, j + 1 < m) ∧ ∀ t ∈ p.timeout, w₂.now < start + clockMillis t) := by
      rintro ⟨-, ht⟩
      cases hto : p.timeout with
      | none => exact hstop ⟨hfirst.1, by simp [hto]⟩
      | some t =>
        have h1 := ht t hto
        rw [hw₂.now, hto] at h1
        -- the pause ended before the deadline, so it lasted its whole delay
        have h4 : w₁.now + clockMillis (p.delay (j + 1)) < start + clockMillis t := by
          rcases min_lt_iff.1 (lt_of_le_of_lt (le_max_right _ _) h1) with h | h
          · exact absurd h (lt_irrefl _)
          · exact h
        have h2 := hdead t hto
        simp only [Plan.waited_succ] at h2
        omega
    obtain ⟨r, hr⟩ := Plan.stopReason_some hq₂ hlate
    obtain ⟨ev, hg⟩ := giveUp_run desc (j + 1) r e.classified w₂
    have hend : (retryFrom desc p (p.timeout.map (start + clockMillis ·)) poll (fuel + 1) (j + 1)).run w =
        (.ok (.error { code := .timeout, message := s!"failed to {desc} after {j + 1} attempt(s): {r.text}",
                       cause := e.classified.chain }), { w₂ with log := w₂.log.push ev }) := by
      simp [retryFrom, Plan.attempt_free hl, hrun, hperm, Plan.stopReason_none hq hfirst.1 hfirst.2,
        hpause, hr, hg]
    refine ⟨_, _, hend, ⟨rfl, hw₂.serial, hw₂.state, hw₂.tokens, hw₂.cutoffs, hw₂.attemptCap,
      hw₂.precedence⟩, ?_⟩
    · show w₂.now ≤ _
      rw [hw₂.now]
      cases hto : p.timeout with
      | none => simp [hn, Nat.add_assoc]
      | some t =>
        simp only [Option.map_some, Option.elim_some, hn, Plan.waited_succ]
        omega
  · obtain ⟨r, hr⟩ := Plan.stopReason_some hq hfirst
    obtain ⟨ev, hg⟩ := giveUp_run desc (j + 1) r e.classified w₁
    have hend : (retryFrom desc p (p.timeout.map (start + clockMillis ·)) poll (fuel + 1) (j + 1)).run w =
        (.ok (.error { code := .timeout, message := s!"failed to {desc} after {j + 1} attempt(s): {r.text}",
                       cause := e.classified.chain }), { w₁ with log := w₁.log.push ev }) := by
      simp [retryFrom, Plan.attempt_free hl, hrun, hperm, hr, hg]
    exact ⟨_, _, hend, ⟨rfl, rfl, rfl, rfl, rfl, rfl, rfl⟩, hle⟩

end Steps

section Loop

variable {p : Plan} (hl : p.attemptLimit = none) (desc : String) {latest k : Nat}
  {poll : Timed σ (Except Fault α)} {orbit : Nat → σ} {v : α}
  (hc : Timed.Countdown latest poll orbit k v) (start : Nat) (hlate : start + p.waited k ≤ latest)
include hl hc hlate

/-- From poll `j` on, a loop whose plan goes on after every failure still to come answers the
value once the last poll is made. By induction on the fuel: each failed poll moves the clock to
the next `waited` and the state one step along the orbit. -/
theorem retryFrom_countdown_ok : ∀ fuel j (w : World σ), w.state = orbit j →
    w.now = start + p.waited j → j ≤ k → k - j < fuel → w.cutoffs = [] → 0 < w.attemptCap →
    (∀ i ∈ p.tokens, w.Silent i) → (∀ n, j < n → n ≤ k → p.Continues n) →
    ∃ w', (retryFrom desc p (p.timeout.map (start + clockMillis ·)) poll fuel (j + 1)).run w =
        (.ok (.ok v), w') ∧ w.Lands (start + p.waited k) w.serial (orbit (k + 1)) w'
  | 0, _, _, _, _, _, hf, _, _, _, _ => absurd hf (Nat.not_lt_zero _)
  | fuel + 1, j, w, hs, hn, hj, hf, hcut, hcap, hq, hgo => by
    have hready : w.Ready latest :=
      ⟨hn ▸ (Nat.add_le_add_left (p.waited_mono hj) start).trans hlate, hcut, hcap⟩
    rcases Nat.lt_or_ge j k with hjk | hjk
    · obtain ⟨e, w₁, hrun, hperm, hw₁⟩ := hc.pending j hjk w hs hready
      obtain ⟨w₂, hstep, hw₂⟩ := retryFrom_continue hl desc (fun i hi => hw₁.silent (hq i hi))
        (hw₁.cutoffs.trans hcut) (hw₁.now.trans hn) hrun hperm (hgo (j + 1) (by omega) hjk)
      have hw := hw₁.trans_clock hw₂
      obtain ⟨w', hrec, hw'⟩ := retryFrom_countdown_ok fuel (j + 1) w₂ hw.state hw.now hjk
        (by omega) (hw.cutoffs.trans hcut) (hw.attemptCap ▸ hcap) (fun i hi => hw.silent (hq i hi))
        (fun n h₁ h₂ => hgo n (by omega) h₂)
      exact ⟨w', hstep.trans hrec, hw.serial ▸ hw.trans hw'⟩
    · obtain rfl : j = k := Nat.le_antisymm hj hjk
      obtain ⟨w₁, hrun, hw₁⟩ := hc.done w hs hready
      exact ⟨w₁, retryFrom_ok hl desc hrun _, hn ▸ hw₁⟩

/-- From poll `j` on, a loop whose plan stops after some failure still to come gives up, with
the state somewhere on the orbit and the clock no later than `waited k`. -/
theorem retryFrom_countdown_error : ∀ fuel j (w : World σ), w.state = orbit j →
    w.now = start + p.waited j → j ≤ k → k - j < fuel → w.cutoffs = [] → 0 < w.attemptCap →
    (∀ i ∈ p.tokens, w.Silent i) → ¬ (∀ n, j < n → n ≤ k → p.Continues n) →
    ∃ f w' i, (retryFrom desc p (p.timeout.map (start + clockMillis ·)) poll fuel (j + 1)).run w =
        (.ok (.error f), w') ∧ w.Lands w'.now w.serial (orbit i) w' ∧ w'.now ≤ start + p.waited k
  | 0, _, _, _, _, _, hf, _, _, _, _ => absurd hf (Nat.not_lt_zero _)
  | fuel + 1, j, w, hs, hn, hj, hf, hcut, hcap, hq, hstop => by
    have hready : w.Ready latest :=
      ⟨hn ▸ (Nat.add_le_add_left (p.waited_mono hj) start).trans hlate, hcut, hcap⟩
    -- the last poll succeeds, so the loop stops after an earlier one
    have hjk : j < k := by
      by_contra h
      exact hstop fun n h₁ h₂ => absurd h₂ (by omega)
    obtain ⟨e, w₁, hrun, hperm, hw₁⟩ := hc.pending j hjk w hs hready
    have hq₁ : ∀ i ∈ p.tokens, w₁.Silent i := fun i hi => hw₁.silent (hq i hi)
    by_cases hgo : p.Continues (j + 1)
    · obtain ⟨w₂, hstep, hw₂⟩ := retryFrom_continue hl desc hq₁ (hw₁.cutoffs.trans hcut)
        (hw₁.now.trans hn) hrun hperm hgo
      have hw := hw₁.trans_clock hw₂
      have hrest : ¬ (∀ n, j + 1 < n → n ≤ k → p.Continues n) := fun h =>
        hstop fun n h₁ h₂ => if hn' : n = j + 1 then hn' ▸ hgo else h n (by omega) h₂
      obtain ⟨f, w', i, hrec, hw', hle⟩ := retryFrom_countdown_error fuel (j + 1) w₂ hw.state hw.now
        hjk (by omega) (hw.cutoffs.trans hcut) (hw.attemptCap ▸ hcap)
        (fun i hi => hw.silent (hq i hi)) hrest
      exact ⟨f, w', i, hstep.trans hrec, hw.serial ▸ hw.trans hw', hle⟩
    · obtain ⟨f, w₂, hend, hw₂, hle⟩ := retryFrom_stop hl desc fuel hq₁
        (hw₁.cutoffs.trans hcut) (hw₁.now.trans hn) hrun hperm hgo
      refine ⟨f, w₂, j + 1, hend, hw₁.trans_clock hw₂, ?_⟩
      exact hle.trans (Nat.add_le_add_left (p.waited_mono hjk) start)

end Loop

/-- A retry whose deadline lies within the clock's range is its loop from the first attempt,
with the deadline its time limit after the present instant. -/
theorem retry_run_fits (desc : String) {ss : List Strategy} {action : Timed σ (Except Fault α)}
    (w : World σ) (hfit : (Plan.ofStrategies ss).FitsBy w.now) :
    (retry desc ss action).run w =
      (retryFrom desc (Plan.ofStrategies ss) ((Plan.ofStrategies ss).timeout.map (w.now + clockMillis ·)) action
        w.attemptCap 1).run w := by
  unfold retry
  simp only [Timed.run_bind, Timed.run_now]
  cases ht : (Plan.ofStrategies ss).timeout with
  | none => rfl
  | some t =>
    have := hfit t ht
    simp [Nat.not_lt.2 this]

section Retry

variable (desc : String) {ss : List Strategy} (hl : (Plan.ofStrategies ss).attemptLimit = none)
  {w : World σ} (hfit : (Plan.ofStrategies ss).FitsBy w.now)
include hl hfit

theorem retry_first {action : Timed σ (Except Fault α)} {v : α} {w' : World σ}
    (hcap : 0 < w.attemptCap) (hrun : action.run w = (.ok (.ok v), w')) :
    (retry desc ss action).run w = (.ok (.ok v), w') := by
  rw [retry_run_fits desc w hfit]
  obtain ⟨c, hc⟩ := Nat.exists_eq_succ_of_ne_zero (Nat.pos_iff_ne_zero.1 hcap)
  rw [hc]
  exact retryFrom_ok hl desc hrun _

/-- A retry whose first attempt fails permanently ends with that failure under its own
description, in the world the attempt left. -/
theorem retry_permanent {action : Timed σ (Except Fault α)} {e : Fault} {w' : World σ}
    (hcap : 0 < w.attemptCap) (hrun : action.run w = (.ok (.error e), w'))
    (hperm : e.classified.permanent = true) :
    (retry desc ss action).run w =
      (.ok (.error (Fault.wrap e.classified.chain e.classified.code s!"failed to {desc}")), w') := by
  rw [retry_run_fits desc w hfit]
  obtain ⟨c, hc⟩ := Nat.exists_eq_succ_of_ne_zero (Nat.pos_iff_ne_zero.1 hcap)
  rw [hc]
  exact retryFrom_permanent hl desc hrun hperm _

variable {latest k : Nat} {poll : Timed σ (Except Fault α)} {orbit : Nat → σ} {v : α}
  (hc : Timed.Countdown latest poll orbit k v) (hs : w.state = orbit 0)
  (hlate : w.now + (Plan.ofStrategies ss).waited k ≤ latest) (hcut : w.cutoffs = [])
  (hcap : k < w.attemptCap) (hq : ∀ i ∈ (Plan.ofStrategies ss).tokens, w.Silent i)
include hc hs hlate hcut hcap hq

/-- A retried countdown that its plan lets run to the end answers the poll's value after `k + 1`
polls, with the clock moved on by `waited k`. -/
theorem retry_countdown_ok (hA : (Plan.ofStrategies ss).Allows (k + 1)) :
    ∃ w', (retry desc ss poll).run w = (.ok (.ok v), w') ∧
      w.Lands (w.now + (Plan.ofStrategies ss).waited k) w.serial (orbit (k + 1)) w' := by
  rw [retry_run_fits desc w hfit]
  exact retryFrom_countdown_ok hl desc hc w.now hlate w.attemptCap 0 w hs (by simp)
    (Nat.zero_le k) (by omega) hcut (by omega) hq
    fun n h₁ h₂ => Plan.allows_succ_iff.1 hA n h₁ h₂

/-- A retried countdown that its plan stops short of the end gives up, with the state somewhere
on the orbit and the clock moved on by no more than `waited k`. -/
theorem retry_countdown_error (hA : ¬ (Plan.ofStrategies ss).Allows (k + 1)) :
    ∃ f w' i, (retry desc ss poll).run w = (.ok (.error f), w') ∧
      w.Lands w'.now w.serial (orbit i) w' ∧ w'.now ≤ w.now + (Plan.ofStrategies ss).waited k := by
  rw [retry_run_fits desc w hfit]
  exact retryFrom_countdown_error hl desc hc w.now hlate w.attemptCap 0 w hs (by simp)
    (Nat.zero_le k) (by omega) hcut (by omega) hq
    fun h => hA (Plan.allows_succ_iff.2 fun n h₁ h₂ => h n h₁ h₂)

end Retry

end DiskUploader
