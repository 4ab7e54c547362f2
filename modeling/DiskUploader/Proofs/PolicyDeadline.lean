import Mathlib
import DiskUploader.Proofs.NestedWaits
import DiskUploader.Config.Settings

/-!
# When a retry policy panics

A retried call computes its deadline as its start plus its time limit, and an instant past the
clock's range is a panic. Nothing else in the retry loop panics: waits, stop checks, attempt
limits and giving up never do, so a call whose action never panics panics exactly when its
deadline overflows, and then before its first attempt, with the timeline as it was.

For a retry policy of the settings the time limit is its own `timeout_secs`, or the minute of the
default strategies for a policy that sets nothing, or the fallback five minutes for one that
bounds neither attempts nor time. A policy may name any number of seconds below `2 ^ 64`, while
the clock holds fewer than `2 ^ 63` seconds: the largest limits panic every call.
-/

namespace DiskUploader

variable {σ α β : Type}

namespace Timed

def PanicFree (x : Timed σ α) : Prop := ∀ w m, (x.run w).1 ≠ .error (.panic m)

namespace PanicFree

theorem of_answers {x : Timed σ α} (h : ∀ w, ∃ a w', x.run w = (.ok a, w')) : PanicFree x := by
  intro w m
  obtain ⟨a, w', hr⟩ := h w
  simp [hr]

theorem pure (a : α) : PanicFree (pure a : Timed σ α) := of_answers fun w => ⟨a, w, rfl⟩

theorem throw {e : Interrupt} (he : ∀ m, e ≠ .panic m) : PanicFree (throw e : Timed σ α) :=
  fun w m h => he m (by simpa using h)

theorem bind {x : Timed σ α} {f : α → Timed σ β} (hx : PanicFree x) (hf : ∀ a, PanicFree (f a)) :
    PanicFree (x >>= f) := by
  intro w m
  rw [run_bind]
  have hxw := hx w m
  rcases h : x.run w with ⟨e | a, w'⟩
  · rw [h] at hxw
    simpa using hxw
  · exact hf a w' m

theorem waitUntil (target : Nat) (ids : List Nat) :
    PanicFree (waitUntil target ids : Timed σ Unit) := by
  intro w m
  simp only [Timed.waitUntil, run_bind, run_get]
  by_cases ht : target ≤ w.now
  · simp [ht]
  · simp only [ht, if_false]
    repeat' split
    all_goals simp

theorem pause (ms : Nat) (deadline : Option Nat) (ids : List Nat) :
    PanicFree (pause ms deadline ids : Timed σ Unit) := by
  intro w m
  rw [pause_run]
  split
  · simp
  · exact waitUntil _ _ w m

/-- An attempt limit turns the cut at its own instant into `none` and passes on every other
interruption of the work it runs. -/
theorem withLimit (ms : Nat) {act : Timed σ α} (ha : PanicFree act) :
    PanicFree (withLimit ms act) := by
  intro w m
  rw [withLimit_run]
  have hin := ha { w with cutoffs := (w.now + ms) :: w.cutoffs } m
  rcases hr : act.run { w with cutoffs := (w.now + ms) :: w.cutoffs } with ⟨e | a, w'⟩
  · rw [hr] at hin
    cases e with
    | cut i => by_cases hi : i = w.now + ms <;> simp [hi]
    | panic m' => simpa using hin
    | exhausted => simp
  · simp

theorem stopReason (p : Plan) (deadline : Option Nat) (n : Nat) :
    PanicFree (p.stopReason deadline n : Timed σ (Option StopReason)) :=
  of_answers fun w => (p.stopReason_reads deadline n w).imp fun _ h => ⟨w, h⟩

theorem giveUp (desc : String) (n : Nat) (r : StopReason) (last : Fault) :
    PanicFree (DiskUploader.giveUp desc n r last : Timed σ Fault) :=
  of_answers fun w => (giveUp_run desc n r last w).elim fun _ h => ⟨_, _, h⟩

theorem attempt (p : Plan) (n : Nat) {action : Timed σ (Except Fault α)} (ha : PanicFree action) :
    PanicFree (p.attempt n action) := by
  unfold Plan.attempt
  split
  · refine bind (withLimit _ ha) fun r => ?_
    cases r <;> exact pure _
  · exact ha

theorem retryFrom (desc : String) (p : Plan) (deadline : Option Nat)
    {action : Timed σ (Except Fault α)} (ha : PanicFree action) :
    ∀ fuel n, PanicFree (DiskUploader.retryFrom desc p deadline action fuel n)
  | 0, _ => throw nofun
  | fuel + 1, n => by
    have hgive : ∀ r e, PanicFree (DiskUploader.giveUp desc n r e >>= fun f =>
        (Pure.pure (Except.error f) : Timed σ (Except Fault α))) :=
      fun r e => bind (giveUp desc n r e) fun _ => pure _
    simp only [DiskUploader.retryFrom]
    refine bind (attempt p n ha) fun r => ?_
    rcases r with e | v
    · dsimp only
      split
      · exact pure _
      · refine bind (stopReason p deadline n) fun r => ?_
        rcases r with _ | r
        · refine bind (pause _ _ _) fun _ => bind (stopReason p deadline n) fun r => ?_
          rcases r with _ | r
          · exact retryFrom desc p deadline ha fuel (n + 1)
          · exact hgive r _
        · exact hgive r _
    · exact pure _

end PanicFree

end Timed

/-- A deadline beyond the clock's range panics before the first attempt, leaving the timeline
as it was. -/
theorem retry_run_overflow (desc : String) (ss : List Strategy) (action : Timed σ (Except Fault α))
    (w : World σ) (h : ¬ (Plan.ofStrategies ss).FitsBy w.now) :
    (retry desc ss action).run w =
      (.error (.panic (some "overflow when adding duration to instant")), w) := by
  simp only [Plan.FitsBy, not_forall, Nat.not_le] at h
  obtain ⟨t, ht, hbig⟩ := h
  simp only [Option.mem_def] at ht
  simp [retry, ht, hbig, Timed.panic]

theorem retry_panics_iff_overflow (desc : String) (ss : List Strategy)
    {action : Timed σ (Except Fault α)} (ha : Timed.PanicFree action) (w : World σ) :
    (∃ m, ((retry desc ss action).run w).1 = .error (.panic m)) ↔
      ¬ (Plan.ofStrategies ss).FitsBy w.now := by
  constructor
  · rintro ⟨m, hm⟩ hfit
    rw [retry_run_fits desc w hfit] at hm
    exact Timed.PanicFree.retryFrom desc _ _ ha _ _ w m hm
  · intro h
    exact ⟨_, by rw [retry_run_overflow desc ss action w h]⟩

/-- The time limit in seconds that a retry policy puts on a call: its own; else a minute, the
limit of the default strategies, for a policy that sets nothing; else none when it bounds the
attempts, and the fallback five minutes when it does not. -/
def RetryPolicy.limitSecs (p : RetryPolicy) : Option Nat :=
  match p.timeoutSecs, p.maxAttempts with
  | some s, _ => some s
  | none, some _ => none
  | none, none => if p.baseDelayMs.isNone && p.fixedDelayMs.isNone then some 60 else some 300

theorem RetryPolicy.ofStrategies_timeout (p : RetryPolicy) :
    (Plan.ofStrategies p.strategies).timeout = p.limitSecs.map (· * nanosPerSecond) := by
  rw [(Plan.ofStrategies_ofList _).timeout]
  obtain ⟨ma, bd, fd, ts⟩ := p
  -- each of the sixteen shapes of a policy folds by evaluation
  cases ts <;> cases ma <;> cases bd <;> cases fd <;> rfl

/-- A call under a policy whose action never panics panics exactly when the present instant,
in whole seconds, plus the policy's time limit passes the clock's range; it then panics before
its first attempt, with the timeline as it was. -/
theorem RetryPolicy.retry_panics_iff (p : RetryPolicy) (desc : String)
    {action : Timed σ (Except Fault α)} (ha : Timed.PanicFree action) (w : World σ) :
    ((∃ m, ((retry desc p.strategies action).run w).1 = .error (.panic m)) ↔
      ∃ s ∈ p.limitSecs, instantSecondsMax < w.now / 1000 + s) ∧
    ∀ s ∈ p.limitSecs, instantSecondsMax < w.now / 1000 + s →
      (retry desc p.strategies action).run w =
        (.error (.panic (some "overflow when adding duration to instant")), w) := by
  -- the present instant is in milliseconds and the limit in whole seconds
  have hdiv : ∀ s, (w.now * nanosPerMilli + s * nanosPerSecond) / nanosPerSecond = w.now / 1000 + s :=
    fun s => by
      simp only [nanosPerMilli, nanosPerSecond]
      omega
  have hsecs : ¬ (Plan.ofStrategies p.strategies).FitsBy w.now ↔
      ∃ s ∈ p.limitSecs, instantSecondsMax < w.now / 1000 + s := by
    simp [Plan.FitsBy, p.ofStrategies_timeout, hdiv]
  refine ⟨(retry_panics_iff_overflow desc _ ha w).trans hsecs, fun s hs hbig => ?_⟩
  exact retry_run_overflow desc _ action w (hsecs.2 ⟨s, hs, hbig⟩)

/-- The read policy of the defaults never panics a call, not even one that keeps failing. -/
theorem RetryPolicy.read_policy_never_panics :
    let act : Timed Unit (Except Fault Unit) := pure (.error (Fault.new .connection "refused"))
    Timed.PanicFree act ∧
      ¬ ∃ m, ((retry "read the disk" RetryDefaults.standard.read.strategies act).run
        (World.start .work ())).1 = .error (.panic m) := by
  intro act
  have ha : Timed.PanicFree act := Timed.PanicFree.pure _
  refine ⟨ha, fun hp => ?_⟩
  obtain ⟨s, hs, hbig⟩ := (RetryPolicy.retry_panics_iff _ "read the disk" ha _).1.1 hp
  -- a minute from instant zero lies well within the clock's range
  have h60 : s = 60 := Option.some_inj.1 hs.symm
  subst h60
  exact absurd hbig (by decide)

/-- A policy with the largest time limit it can name panics a call that would succeed at once. -/
theorem retry_largest_timeout_panics :
    ((retry "do work" ({ timeoutSecs := some 18446744073709551615 } : RetryPolicy).strategies
      (pure (.ok ()) : Timed Unit (Except Fault Unit))).run (World.start .work ())).1 =
      .error (.panic (some "overflow when adding duration to instant")) := by
  rfl

end DiskUploader
