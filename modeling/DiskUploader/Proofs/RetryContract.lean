import DiskUploader.Retry.Script
import DiskUploader.Proofs.Timeline
import DiskUploader.Proofs.RetryPlan
import DiskUploader.Proofs.Keeps

/-!
# The retry contract

A retried call of scripted attempts, for every script, strategy list and schedule of
cancellations. Unless its deadline lies beyond the clock's range, the call runs the script at
least once, even when a token has cancelled already. It stops right after the first success and
answers its value, and right after the first failure that is permanent once classified, which it
wraps under its own code. Otherwise it gives up with a `timeout` fault once a stop condition
holds, naming the number of attempts and the reason. No attempt after the first starts once a
watched token has cancelled, the attempt count is spent or the deadline has come.

The loop is followed one iteration at a time on a calm timeline: the work wakes first, no
attempt limit is running, and no cancellation due at the present instant has happened yet.
-/

namespace DiskUploader

variable {σ α : Type}

/-- A timeline between the attempts of a retried script. -/
structure World.Calm (w : World σ) : Prop where
  work : w.precedence = .work
  idle : w.cutoffs = []
  unsettled : w.settled = false

def Token.firedBefore (t : Token) (now : Nat) : Bool := t.cancelled || t.due.any (· < now)

theorem World.fired_unsettled {w : World σ} (hw : w.settled = false) (t : Token) :
    w.fired t = t.firedBefore w.now := by
  cases h : t.due <;> simp [World.fired, Token.firedBefore, h, hw]

theorem Fault.wrap_of_ne {c : Code} (h : c ≠ .unidentified) (cause : List Layer) (m : String) :
    Fault.wrap cause c m = { code := c, message := m, cause } := by
  simp [Fault.wrap, Fault.wrapCode, h]

/-- A failure the retry engine tries again: not permanent once classified. -/
def Transient (o : Except Fault α) : Prop := ∃ e, o = .error e ∧ e.classified.permanent = false

namespace Script

variable (s : Script α) (p : Plan)

/-- How long attempt `i`, counted from zero, runs: to its scripted end, or to the attempt limit. -/
def runtime (i : Nat) : Nat :=
  match p.attemptLimit with
  | some l => min (s.step i).delay (clockMillis l)
  | none => (s.step i).delay

/-- What attempt `i`, counted from zero, answers: a timeout when the attempt limit cuts it off,
else its scripted outcome. -/
def answer (i : Nat) : Except Fault α :=
  match p.attemptLimit with
  | some l =>
    if clockMillis l < (s.step i).delay then
      .error (Fault.new .timeout s!"attempt {i + 1} did not finish within {Text.duration l}")
    else (s.step i).outcome
  | none => (s.step i).outcome

theorem attempt_run (w : World AttemptLog) :
    s.attempt.run w =
      match (Timed.sleep (s.step w.state.starts.size).delay).run
          { w with state := (⟨w.state.starts.push w.now⟩ : AttemptLog) } with
      | (.ok (), w') => (.ok (s.step w.state.starts.size).outcome, w')
      | (.error e, w') => (.error e, w') := by
  simp only [Script.attempt, Timed.run_bind, Timed.run_get, Timed.run_modifyState]
  generalize (Timed.sleep _).run _ = r
  rcases r with ⟨e | ⟨⟩, w'⟩ <;> rfl

theorem attempt_calm (w : World AttemptLog) (hw : w.Calm) :
    (p.attempt (w.state.starts.size + 1) s.attempt).run w =
      (.ok (s.answer p w.state.starts.size),
       { w with now := w.now + s.runtime p w.state.starts.size,
                state := ⟨w.state.starts.push w.now⟩ }) := by
  obtain ⟨hp, hc, hs⟩ := hw
  unfold Plan.attempt
  cases hl : p.attemptLimit with
  | none =>
    rw [attempt_run,
      Timed.sleep_free _ { w with state := (⟨w.state.starts.push w.now⟩ : AttemptLog) } hc]
    by_cases hd : (s.step w.state.starts.size).delay = 0 <;> simp [hd, answer, runtime, hl, hp, hs]
  | some l =>
    simp only [Timed.run_bind, Timed.withLimit_run, attempt_run]
    by_cases hd : (s.step w.state.starts.size).delay = 0
    · simp [hd, answer, runtime, hl, Timed.sleep, hc]
    · -- the attempt limit cuts the attempt off exactly when it is shorter than the attempt
      rw [Timed.sleep_limited _ (w.now + clockMillis l) _ (by simp [hc]) (by omega)]
      by_cases hcut : clockMillis l < (s.step w.state.starts.size).delay
      · simp [answer, runtime, hl, hp, hs, hc, hcut]
        omega
      · simp [answer, runtime, hl, hp, hs, hc, hcut]
        omega

end Script

namespace Plan

variable (p : Plan) (ts : Array Token)

def cancelledBefore (now : Nat) : Bool :=
  p.tokens.any fun k => (ts[k]?.map (·.firedBefore now)).getD false

def stopAt (n now : Nat) : Option StopReason :=
  if p.cancelledBefore ts now then some .cancelled
  else if p.maxAttempts.any (· ≤ n) then p.maxAttempts.map .attempts
  else if p.timeout.any (clockMillis · ≤ now) then p.timeout.map .deadline
  else none

/-- Attempt `i`, counted from zero, may start at `now`: the attempt count is not spent, the
deadline has not come and no watched token has cancelled before. -/
def MayStart (i now : Nat) : Prop :=
  (∀ m ∈ p.maxAttempts, i < m) ∧ (∀ d ∈ p.timeout, now < clockMillis d) ∧
    ∀ k ∈ p.tokens, ∀ t ∈ ts[k]?, t.cancelled = false ∧ ∀ d ∈ t.due, now ≤ d

def Holds (n now : Nat) : StopReason → Prop
  | .cancelled => ∃ k ∈ p.tokens, ∃ t ∈ ts[k]?, t.cancelled = true ∨ ∃ d ∈ t.due, d ≤ now
  | .attempts m => p.maxAttempts = some m ∧ m ≤ n
  | .deadline t => p.timeout = some t ∧ clockMillis t ≤ now

theorem stopReason_unsettled (w : World σ) (hw : w.settled = false) (n : Nat) :
    (p.stopReason (p.timeout.map clockMillis) n).run w = (.ok (p.stopAt w.tokens n w.now), w) := by
  have hf : w.fired = fun t => t.firedBefore w.now := funext (World.fired_unsettled hw)
  have hc : (p.tokens.any fun i => (w.tokens[i]?.map w.fired).getD false) =
      p.cancelledBefore w.tokens w.now := by
    simp only [cancelledBefore, hf]
  simp only [stopReason, Timed.run_bind, Timed.run_anyCancelled, hc]
  by_cases h1 : p.cancelledBefore w.tokens w.now
  · simp [stopAt, h1]
  · cases hm : p.maxAttempts with
    | none =>
      cases ht : p.timeout with
      | none => simp [stopAt, h1, hm, ht]
      | some t => by_cases h2 : clockMillis t ≤ w.now <;> simp [stopAt, h1, hm, ht, h2]
    | some m =>
      cases ht : p.timeout with
      | none => by_cases h2 : m ≤ n <;> simp [stopAt, h1, hm, ht, h2]
      | some t =>
        by_cases h2 : m ≤ n <;> by_cases h3 : clockMillis t ≤ w.now <;>
          simp [stopAt, h1, hm, ht, h2, h3]

theorem mayStart_of_stopAt {n now : Nat} (h : p.stopAt ts n now = none) : p.MayStart ts n now := by
  unfold stopAt at h
  split at h
  · cases h
  rename_i hc
  split at h
  · cases hma : p.maxAttempts <;> simp_all
  rename_i hm
  split at h
  · cases hto : p.timeout <;> simp_all
  rename_i ht
  refine ⟨fun m hm' => ?_, fun d hd => ?_, fun k hk t ht' => ?_⟩
  · simp only [Option.mem_def] at hm'
    simp only [hm', Option.any_some, decide_eq_true_eq] at hm
    omega
  · simp only [Option.mem_def] at hd
    simp only [hd, Option.any_some, decide_eq_true_eq] at ht
    omega
  · simp only [cancelledBefore, List.any_eq_true, not_exists, not_and] at hc
    have := hc k hk
    simp only [Option.mem_def] at ht'
    simp only [ht', Option.map_some, Option.getD_some, Token.firedBefore, Bool.or_eq_true,
      Option.any_eq_true, not_or, not_exists, not_and, Bool.not_eq_true, decide_eq_true_eq] at this
    exact ⟨this.1, fun d hd => Nat.not_lt.1 (this.2 d hd)⟩

theorem holds_of_stopAt {n now : Nat} {r : StopReason} (h : p.stopAt ts n now = some r) :
    p.Holds ts n now r := by
  unfold stopAt at h
  split at h
  · cases h
    rename_i hc
    simp only [cancelledBefore, List.any_eq_true] at hc
    obtain ⟨k, hk, hfk⟩ := hc
    cases htk : ts[k]? with
    | none => simp [htk] at hfk
    | some t =>
      simp only [htk, Option.map_some, Option.getD_some, Token.firedBefore, Bool.or_eq_true,
        Option.any_eq_true, decide_eq_true_eq] at hfk
      exact ⟨k, hk, t, htk, hfk.imp id fun ⟨d, hd, hlt⟩ => ⟨d, hd, by omega⟩⟩
  split at h
  · rename_i hm
    cases hma : p.maxAttempts with
    | none => simp [hma] at hm
    | some m =>
      simp only [hma, Option.map_some, Option.some.injEq] at h
      subst h
      simp only [hma, Option.any_some, decide_eq_true_eq] at hm
      exact ⟨hma, hm⟩
  split at h
  · rename_i ht
    cases hto : p.timeout with
    | none => simp [hto] at ht
    | some t =>
      simp only [hto, Option.map_some, Option.some.injEq] at h
      subst h
      simp only [hto, Option.any_some, decide_eq_true_eq] at ht
      exact ⟨hto, ht⟩
  · cases h

theorem stopReason_of_fired (w : World σ) {k : Nat} (hk : k ∈ p.tokens) {t : Token}
    (ht : w.tokens[k]? = some t) (hf : w.fired t = true) (deadline : Option Nat) (n : Nat) :
    (p.stopReason deadline n).run w = (.ok (some .cancelled), w) := by
  have hany : (p.tokens.any fun i => (w.tokens[i]?.map w.fired).getD false) = true :=
    List.any_eq_true.2 ⟨k, hk, by simp [ht, hf]⟩
  simp [stopReason, hany]

/-- How a call that made `n` attempts, the last answering `o`, ends at `now`: with that success,
with that permanent failure under its own code, or giving up for a reason that holds. -/
def Concludes (desc : String) (n now : Nat) (o : Except Fault α)
    (r : Except Interrupt (Except Fault α)) : Prop :=
  match o with
  | .ok v => r = .ok (.ok v)
  | .error e =>
    if e.classified.permanent then
      r = .ok (.error { code := e.classified.code, message := s!"failed to {desc}",
                        cause := e.classified.chain })
    else ∃ reason, p.Holds ts n now reason ∧
      r = .ok (.error { code := .timeout,
                        message := s!"failed to {desc} after {n} attempt(s): {reason.text}",
                        cause := e.classified.chain })

end Plan

theorem giveUp_run (desc : String) (n : Nat) (r : StopReason) (last : Fault) (w : World σ) :
    ∃ e, (giveUp desc n r last).run w =
      (.ok { code := .timeout, message := s!"failed to {desc} after {n} attempt(s): {r.text}",
             cause := last.chain }, { w with log := w.log.push e }) :=
  ⟨_, by
    simp only [giveUp, Timed.run_bind, Timed.run_emit, Timed.run_pure,
      Fault.wrap_of_ne (show Code.timeout ≠ .unidentified by decide)]
    rfl⟩

theorem Plan.giveUp_concludes (p : Plan) (ts : Array Token) (desc : String) {n : Nat}
    {r : StopReason} {e : Fault} (hperm : e.classified.permanent = false) (w : World σ)
    (hr : p.Holds ts n w.now r) :
    ∃ out w', (giveUp desc n r e.classified >>= fun f => pure (Except.error f)).run w =
        (out, w') ∧ w'.state = w.state ∧ w'.tokens = w.tokens ∧ w'.now = w.now ∧
      p.Concludes ts desc n w'.now (.error e : Except Fault α) out := by
  obtain ⟨ev, hg⟩ := giveUp_run desc n r e.classified w
  simp only [Timed.run_bind, hg, Timed.run_pure]
  refine ⟨_, _, rfl, rfl, rfl, rfl, ?_⟩
  simp only [Plan.Concludes, hperm, Bool.false_eq_true, ite_false]
  exact ⟨r, hr, rfl⟩

namespace Script

variable (s : Script α) (p : Plan) (desc : String)

/-- One iteration of the loop from a calm timeline: the call ends as the contract says, or the
attempt failed transiently, the next attempt may start, and the loop goes on from a calm
timeline. -/
theorem retryFrom_step (fuel : Nat) (w : World AttemptLog) (hw : w.Calm) :
    (∃ r w', (retryFrom desc p (p.timeout.map clockMillis) s.attempt (fuel + 1) (w.state.starts.size + 1)).run w =
        (r, w') ∧ w'.state.starts = w.state.starts.push w.now ∧ w'.tokens = w.tokens ∧
      p.Concludes w.tokens desc (w.state.starts.size + 1) w'.now (s.answer p w.state.starts.size) r) ∨
    (∃ w', w'.Calm ∧ w'.state.starts = w.state.starts.push w.now ∧ w'.tokens = w.tokens ∧
      Transient (s.answer p w.state.starts.size) ∧
      p.MayStart w.tokens (w.state.starts.size + 1) w'.now ∧
      (retryFrom desc p (p.timeout.map clockMillis) s.attempt (fuel + 1) (w.state.starts.size + 1)).run w =
        (retryFrom desc p (p.timeout.map clockMillis) s.attempt fuel (w.state.starts.size + 1 + 1)).run w') := by
  rw [retryFrom]
  simp only [Timed.run_bind, attempt_calm s p w hw]
  cases ha : s.answer p w.state.starts.size with
  | ok v =>
    left
    exact ⟨_, _, rfl, rfl, rfl, by simp [Plan.Concludes]⟩
  | error e =>
    have hc1 : ({ w with now := w.now + s.runtime p w.state.starts.size,
                         state := ⟨w.state.starts.push w.now⟩ } : World AttemptLog).Calm :=
      ⟨hw.work, hw.idle, hw.unsettled⟩
    generalize hw1 : ({ w with now := w.now + s.runtime p w.state.starts.size,
                               state := ⟨w.state.starts.push w.now⟩ } : World AttemptLog) = w1 at hc1 ⊢
    have hs1 : w1.state.starts = w.state.starts.push w.now := by rw [← hw1]
    have ht1 : w1.tokens = w.tokens := by rw [← hw1]
    simp only
    by_cases hperm : e.classified.permanent = true
    · left
      simp only [hperm, ite_true, Timed.run_pure]
      refine ⟨_, _, rfl, hs1, ht1, ?_⟩
      simp [Plan.Concludes, hperm, Fault.wrap_of_ne (Code.ne_unidentified_of_permanent hperm)]
    simp only [Bool.not_eq_true] at hperm
    have htr : Transient (.error e : Except Fault α) := ⟨e, rfl, hperm⟩
    simp only [hperm, Bool.false_eq_true, ite_false, Timed.run_bind,
      p.stopReason_unsettled w1 hc1.unsettled]
    -- the stop check right after the failed attempt
    cases hc : p.stopAt w1.tokens (w.state.starts.size + 1) w1.now with
    | some r =>
      left
      obtain ⟨out, w', hrun, hst, htk, -, hcon⟩ :=
        p.giveUp_concludes w.tokens desc hperm w1 (ht1 ▸ p.holds_of_stopAt w1.tokens hc)
      exact ⟨out, w', hrun, hst ▸ hs1, htk ▸ ht1, hcon⟩
    | none =>
      have hm1 := p.mayStart_of_stopAt w1.tokens hc
      simp only [Timed.run_bind, Timed.pause_run]
      by_cases hd0 : clockMillis (p.delay (w.state.starts.size + 1)) = 0
      · right
        simp only [hd0, if_true, p.stopReason_unsettled w1 hc1.unsettled, hc]
        exact ⟨w1, hc1, hs1, ht1, htr, ht1 ▸ hm1, rfl⟩
      -- a wait of positive length ends at its target, or earlier when a watched token cancels
      generalize htg : (p.timeout.map clockMillis).elim
          (w1.now + clockMillis (p.delay (w.state.starts.size + 1)))
          (min · (w1.now + clockMillis (p.delay (w.state.starts.size + 1)))) = target
      have hlt : w1.now < target := by
        rw [← htg]
        cases hto : p.timeout with
        | none => simp only [Option.map_none, Option.elim]; omega
        | some d =>
          have := hm1.2.1 d hto
          simp only [Option.map_some, Option.elim]
          omega
      obtain ⟨wake, hwait, htok⟩ :=
        Timed.waitUntil_quiet target p.tokens w1 hc1.work hc1.idle hlt
      simp only [hd0, if_false, hwait]
      by_cases hwt : wake < target
      · obtain ⟨k, hk, t, htk, -, hdue⟩ := htok hwt
        have hfired : ({ w1 with now := wake, settled := decide (wake < target) } :
            World AttemptLog).fired t = true := by
          simp [World.fired, hdue, hwt]
        rw [p.stopReason_of_fired { w1 with now := wake, settled := decide (wake < target) } hk htk
          hfired]
        left
        have hr : p.Holds w.tokens (w.state.starts.size + 1) wake .cancelled :=
          ⟨k, hk, t, ht1 ▸ htk, .inr ⟨wake, hdue, Nat.le_refl _⟩⟩
        obtain ⟨out, w', hrun, hst, htk', -, hcon⟩ := p.giveUp_concludes w.tokens desc hperm
          { w1 with now := wake, settled := decide (wake < target) } hr
        exact ⟨out, w', hrun, hst ▸ hs1, htk' ▸ ht1, hcon⟩
      · have hcalm : ({ w1 with now := wake, settled := decide (wake < target) } :
            World AttemptLog).Calm := ⟨hc1.work, hc1.idle, by simp [hwt]⟩
        rw [p.stopReason_unsettled _ hcalm.unsettled]
        -- the stop check after the wait
        cases hc2 : p.stopAt w1.tokens (w.state.starts.size + 1) wake with
        | some r =>
          left
          obtain ⟨out, w', hrun, hst, htk', -, hcon⟩ :=
            p.giveUp_concludes w.tokens desc hperm
              { w1 with now := wake, settled := decide (wake < target) }
              (ht1 ▸ p.holds_of_stopAt w1.tokens hc2)
          exact ⟨out, w', hrun, hst ▸ hs1, htk' ▸ ht1, hcon⟩
        | none =>
          right
          exact ⟨_, hcalm, hs1, ht1, htr, ht1 ▸ p.mayStart_of_stopAt w1.tokens hc2, rfl⟩

/-- What the loop does from attempt `starts₀.size` on, entered at `now₀`: the attempts it adds
start at `now₀` and then only where they may; each of them but the last failed transiently; and
the call ends as the contract says, or the guard stops it after `cap` attempts where the next
one may start, so that the loop would have gone on. -/
structure Loop (ts : Array Token) (cap : Nat) (starts₀ : Array Nat) (now₀ : Nat)
    (starts : Array Nat) (now : Nat) (r : Except Interrupt (Except Fault α)) : Prop where
  grows : ∃ rest, starts = starts₀.push now₀ ++ rest
  retried : ∀ i, starts₀.size ≤ i → i + 1 < starts.size → Transient (s.answer p i)
  mayStart : ∀ i t, starts[i]? = some t → starts₀.size < i → p.MayStart ts i t
  ends : p.Concludes ts desc starts.size now (s.answer p (starts.size - 1)) r ∨
    (r = .error .exhausted ∧ Transient (s.answer p (starts.size - 1)) ∧ starts.size = cap ∧
      p.MayStart ts starts.size now)

theorem Loop.of_stop {ts : Array Token} {cap : Nat} {starts₀ : Array Nat} {now₀ now : Nat}
    {r : Except Interrupt (Except Fault α)}
    (hcon : p.Concludes ts desc (starts₀.size + 1) now (s.answer p starts₀.size) r) :
    s.Loop p desc ts cap starts₀ now₀ (starts₀.push now₀) now r where
  grows := ⟨#[], by simp⟩
  retried i hi hlt := absurd hlt (by simp; omega)
  mayStart i t ht hi := by
    have : i < starts₀.size + 1 := by simpa using (Array.getElem?_eq_some_iff.1 ht).1
    omega
  ends := .inl (by simpa using hcon)

theorem retryFrom_loop (fuel : Nat) (w : World AttemptLog) (hw : w.Calm) :
    s.Loop p desc w.tokens (w.state.starts.size + fuel + 1) w.state.starts w.now
      ((retryFrom desc p (p.timeout.map clockMillis) s.attempt (fuel + 1) (w.state.starts.size + 1)).run w).2.state.starts
      ((retryFrom desc p (p.timeout.map clockMillis) s.attempt (fuel + 1) (w.state.starts.size + 1)).run w).2.now
      ((retryFrom desc p (p.timeout.map clockMillis) s.attempt (fuel + 1) (w.state.starts.size + 1)).run w).1 := by
  -- induction on the attempts left; each step is one iteration of `retryFrom_step`
  induction fuel generalizing w with
  | zero =>
    rcases s.retryFrom_step p desc 0 w hw with
      ⟨r, w', hrun, hst, -, hcon⟩ | ⟨w', -, hst, htk, htr, hms, hrun⟩
    · rw [hrun]
      simpa only [hst] using Loop.of_stop s p desc hcon
    · -- the guard stops the loop where the next attempt may start
      have hex : (retryFrom desc p (p.timeout.map clockMillis) s.attempt 0 (w.state.starts.size + 1 + 1)).run w' =
          (.error .exhausted, w') := rfl
      rw [hrun, hex]
      refine ⟨⟨#[], by simp [hst]⟩, fun i hi hlt => absurd hlt (by simp [hst]; omega),
        fun i t ht hi => ?_, .inr ⟨rfl, by simpa [hst] using htr, by simp [hst],
          by simpa [hst] using hms⟩⟩
      have : i < w.state.starts.size + 1 := by
        simpa [hst] using (Array.getElem?_eq_some_iff.1 ht).1
      omega
  | succ fuel ih =>
    rcases s.retryFrom_step p desc (fuel + 1) w hw with
      ⟨r, w', hrun, hst, -, hcon⟩ | ⟨w', hc', hst, htk, htr, hms, hrun⟩
    · rw [hrun]
      simpa only [hst] using Loop.of_stop s p desc hcon
    · have hsz : w'.state.starts.size = w.state.starts.size + 1 := by simp [hst]
      have hl := ih w' hc'
      rw [hsz, htk, hst] at hl
      rw [hrun]
      obtain ⟨⟨rest, hrest⟩, hretried, hmay, hends⟩ := hl
      refine ⟨⟨#[w'.now] ++ rest, by simp [hrest]⟩, fun i hi hlt => ?_, fun i t ht hi => ?_, ?_⟩
      · -- the attempt of this iteration failed transiently; later ones by the induction
        rcases Nat.lt_or_ge i (w.state.starts.size + 1) with h | h
        · have : i = w.state.starts.size := by omega
          subst this
          exact htr
        · exact hretried i (by simpa using h) hlt
      · -- the next attempt starts where it may; later ones by the induction
        rcases Nat.lt_or_ge (w.state.starts.size + 1) i with h | h
        · exact hmay i t ht (by simpa using h)
        · have hi' : i = w.state.starts.size + 1 := by omega
          subst hi'
          rw [hrest, Array.getElem?_append_left (by simp)] at ht
          simp only [Array.getElem?_push, Array.size_push, if_true, Option.some.injEq] at ht
          exact ht ▸ hms
      · rcases hends with h | ⟨hr, htr', hcap, hnext⟩
        · exact .inl h
        · exact .inr ⟨hr, htr', by omega, hnext⟩

/-- The retry contract for a call of the script whose attempts started at `starts` and which
answered `r` with its timeline at `now`; `cap` is the guard's number of attempts. The first
attempt starts at once; every attempt but the last failed transiently; every later attempt starts
only where it may; and the call ends as the last attempt decides, or the guard stops it where the
loop would go on. -/
structure Contract (ts : Array Token) (cap : Nat) (starts : Array Nat) (now : Nat)
    (r : Except Interrupt (Except Fault α)) : Prop where
  first : starts[0]? = some 0
  retried : ∀ i, i + 1 < starts.size → Transient (s.answer p i)
  mayStart : ∀ i t, starts[i]? = some t → 0 < i → p.MayStart ts i t
  ends : p.Concludes ts desc starts.size now (s.answer p (starts.size - 1)) r ∨
    (r = .error .exhausted ∧ Transient (s.answer p (starts.size - 1)) ∧ starts.size = cap ∧
      p.MayStart ts starts.size now)

/-- Entered at instant zero before any attempt, the loop keeps the contract under a guard of any
number of attempts. -/
theorem contract_of_calm (cap : Nat) (w : World AttemptLog) (hw : w.Calm)
    (h0 : w.state.starts = #[]) (hn : w.now = 0) :
    s.Contract p desc w.tokens (cap + 1)
      ((retryFrom desc p (p.timeout.map clockMillis) s.attempt (cap + 1) 1).run w).2.state.starts
      ((retryFrom desc p (p.timeout.map clockMillis) s.attempt (cap + 1) 1).run w).2.now
      ((retryFrom desc p (p.timeout.map clockMillis) s.attempt (cap + 1) 1).run w).1 := by
  have hl := s.retryFrom_loop p desc cap w hw
  simp only [h0, hn, Array.size_empty, Nat.zero_add] at hl
  obtain ⟨⟨rest, hrest⟩, hretried, hmay, hends⟩ := hl
  exact ⟨by rw [hrest, Array.getElem?_append_left (by simp)]; rfl,
    fun i hlt => hretried i (Nat.zero_le _) hlt, hmay, hends⟩

end Script

def Plan.DeadlineOverflows (p : Plan) : Prop :=
  ∃ t ∈ p.timeout, instantSecondsMax < t / nanosPerSecond

namespace Script

variable (s : Script α) (desc : String) (cap : Nat)

theorem retried_eq (ss : List Strategy) (ts : List Token) :
    s.retried desc ss ts cap = (retry desc ss s.attempt).run
      { World.start .work {} with tokens := ts.toArray, attemptCap := cap } := rfl

theorem retried_overflow {ss : List Strategy} (ts : List Token)
    (h : (Plan.ofStrategies ss).DeadlineOverflows) :
    (s.retried desc ss ts cap).1 = .error (.panic (some "overflow when adding duration to instant")) ∧
      (s.retried desc ss ts cap).2.state.starts = #[] := by
  obtain ⟨t, ht, hbig⟩ := h
  simp only [Option.mem_def] at ht
  simp [retried_eq, retry, ht, hbig, Timed.panic, World.start]

/-- Within the clock's range, the call enters the loop at instant zero with the deadline of
its plan and the guard's number of attempts. -/
theorem retried_of_fits {ss : List Strategy} (ts : List Token)
    (h : ¬ (Plan.ofStrategies ss).DeadlineOverflows) :
    s.retried desc ss ts cap = (retryFrom desc (Plan.ofStrategies ss)
      ((Plan.ofStrategies ss).timeout.map clockMillis) s.attempt cap 1).run { World.start .work {} with tokens := ts.toArray, attemptCap := cap } := by
  rw [retried_eq]
  cases ht : (Plan.ofStrategies ss).timeout with
  | none => simp [retry, ht, World.start]
  | some t =>
    have hfit : ¬ instantSecondsMax < t / nanosPerSecond := fun hb => h ⟨t, ht, hb⟩
    simp [retry, ht, hfit, World.start]

theorem retried_contract_of_fits {ss : List Strategy} (ts : List Token)
    (h : ¬ (Plan.ofStrategies ss).DeadlineOverflows) :
    s.Contract (Plan.ofStrategies ss) desc ts.toArray (cap + 1)
      (s.retried desc ss ts (cap + 1)).2.state.starts (s.retried desc ss ts (cap + 1)).2.now
      (s.retried desc ss ts (cap + 1)).1 := by
  rw [retried_of_fits s desc (cap + 1) ts h]
  exact s.contract_of_calm (Plan.ofStrategies ss) desc cap
    { World.start .work {} with tokens := ts.toArray, attemptCap := cap + 1 } ⟨rfl, rfl, rfl⟩ rfl rfl

theorem retried_nil (ts : List Token) :
    s.retried desc [] ts cap = s.retried desc Strategy.defaults ts cap := by
  simp only [retried_eq, retry, Plan.ofStrategies_nil]

end Script

end DiskUploader
