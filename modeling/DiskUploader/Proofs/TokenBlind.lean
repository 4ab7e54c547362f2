import DiskUploader.Proofs.Keeps
import DiskUploader.Proofs.RetryPlan
import DiskUploader.Engine.Waits
import DiskUploader.Config.Settings

/-!
# Work that never reads a token

Timed work is blind when, run from a world whose tokens are replaced by any others, it ends
with the same outcome in the same world but for the tokens. Every primitive that leaves the
tokens unread is blind, binds and handlers keep blindness, and so do waits that watch no token
and retries whose strategies hold no cancellation. To blind work it makes no difference whether
a token has cancelled, is due to cancel at some later instant, or never cancels.
-/

namespace DiskUploader

variable {σ α β : Type}

def World.withTokens (w : World σ) (ts : Array Token) : World σ := { w with tokens := ts }

namespace World

variable (w : World σ) (ts : Array Token)

@[simp] theorem withTokens_now : (w.withTokens ts).now = w.now := rfl
@[simp] theorem withTokens_cutoffs : (w.withTokens ts).cutoffs = w.cutoffs := rfl
@[simp] theorem withTokens_precedence : (w.withTokens ts).precedence = w.precedence := rfl
@[simp] theorem withTokens_attemptCap : (w.withTokens ts).attemptCap = w.attemptCap := rfl
@[simp] theorem withTokens_state : (w.withTokens ts).state = w.state := rfl

end World

namespace Timed

def Blind (x : Timed σ α) : Prop :=
  ∀ w ts, ∃ ts', x.run (w.withTokens ts) = ((x.run w).1, (x.run w).2.withTokens ts')

namespace Blind

theorem pure (a : α) : Blind (pure a : Timed σ α) := fun _ ts => ⟨ts, rfl⟩

theorem throw (e : Interrupt) : Blind (throw e : Timed σ α) := fun _ ts => ⟨ts, rfl⟩

theorem now : Blind (now : Timed σ Nat) := fun _ ts => ⟨ts, rfl⟩

theorem state : Blind (state : Timed σ σ) := fun _ ts => ⟨ts, rfl⟩

theorem modifyState (f : σ → σ) : Blind (modifyState f) := fun _ ts => ⟨ts, rfl⟩

theorem emit (e : LogEvent) : Blind (emit e : Timed σ Unit) := fun _ ts => ⟨ts, rfl⟩

theorem fresh : Blind (fresh : Timed σ Nat) := fun _ ts => ⟨ts, rfl⟩

theorem panic (m : String) : Blind (panic m : Timed σ α) := fun _ ts => ⟨ts, rfl⟩

theorem cancel (i : Nat) : Blind (cancel i : Timed σ Unit) := fun _ ts => ⟨ts.modify i _, rfl⟩

theorem anyCancelled_nil : Blind (anyCancelled [] : Timed σ Bool) := fun _ ts => ⟨ts, rfl⟩

theorem bind {x : Timed σ α} {f : α → Timed σ β} (hx : Blind x) (hf : ∀ a, Blind (f a)) :
    Blind (x >>= f) := by
  intro w ts
  obtain ⟨ts₁, h₁⟩ := hx w ts
  rw [run_bind, run_bind, h₁]
  rcases x.run w with ⟨e | a, w₁⟩
  · exact ⟨ts₁, rfl⟩
  · exact hf a w₁ ts₁

theorem map {x : Timed σ α} (f : α → β) (hx : Blind x) : Blind (f <$> x) := by
  intro w ts
  obtain ⟨ts₁, h₁⟩ := hx w ts
  rw [run_map, run_map, h₁]
  rcases x.run w with ⟨e | a, w₁⟩ <;> exact ⟨ts₁, rfl⟩

theorem tryCatch {x : Timed σ α} {h : Interrupt → Timed σ α} (hx : Blind x)
    (hh : ∀ e, Blind (h e)) : Blind (tryCatch x h) := by
  intro w ts
  obtain ⟨ts₁, h₁⟩ := hx w ts
  rw [run_tryCatch, run_tryCatch, h₁]
  rcases x.run w with ⟨e | a, w₁⟩
  · exact hh e w₁ ts₁
  · exact ⟨ts₁, rfl⟩

theorem get_bind {f : World σ → Timed σ β} (hf : ∀ w ts, f (w.withTokens ts) = f w)
    (hb : ∀ w, Blind (f w)) : Blind (get >>= f) := by
  intro w ts
  rw [run_bind, run_bind, run_get, run_get]
  dsimp only
  rw [hf]
  exact hb w w ts

theorem isCancelled_bind {i : Nat} {f : Bool → Timed σ β} (hf : ∀ b, f b = f false)
    (hk : Blind (f false)) : Blind (isCancelled i >>= f) := by
  intro w ts
  simp only [run_bind, run_isCancelled]
  -- both runs read some answer, and either answer leads to the same work
  rw [hf (Option.getD _ _), hf (Option.getD _ _)]
  exact hk w ts

theorem waitUntil (target : Nat) : Blind (waitUntil target [] : Timed σ Unit) := by
  intro w ts
  refine ⟨ts, ?_⟩
  simp only [Timed.waitUntil, run_bind, run_get, World.nextDue, List.foldl_nil,
    World.withTokens_now, World.withTokens_precedence, World.withTokens_cutoffs]
  by_cases ht : target ≤ w.now
  · simp only [ht, ↓reduceIte, run_pure]
  · simp only [ht, ↓reduceIte]
    -- with no watched token the wake-up instant is the target, whatever the tokens
    cases w.cutoffs.min? with
    | none => rfl
    | some c =>
      dsimp only
      by_cases hc : c < target <;> simp [hc, World.withTokens] <;> rfl

theorem pause (ms : Nat) (deadline : Option Nat) : Blind (pause ms deadline [] : Timed σ Unit) := by
  intro w ts
  rw [pause_run, pause_run]
  split
  · exact ⟨ts, rfl⟩
  · exact waitUntil _ w ts

theorem withLimit (ms : Nat) {act : Timed σ α} (ha : Blind act) : Blind (withLimit ms act) := by
  intro w ts
  rw [withLimit_run, withLimit_run]
  -- the attempt runs from the world with its limit pushed, which is the same world with other tokens
  obtain ⟨ts₁, h₁⟩ := ha { w with cutoffs := (w.now + ms) :: w.cutoffs } ts
  have hw : { w.withTokens ts with cutoffs := ((w.withTokens ts).now + ms) :: (w.withTokens ts).cutoffs } =
      ({ w with cutoffs := (w.now + ms) :: w.cutoffs } : World σ).withTokens ts := rfl
  rw [hw, h₁]
  rcases act.run { w with cutoffs := (w.now + ms) :: w.cutoffs } with ⟨e | a, w₁⟩
  · cases e with
    | cut i =>
      by_cases hi : i = w.now + ms <;> simp only [World.withTokens_now, hi, ↓reduceIte] <;>
        exact ⟨ts₁, rfl⟩
    | _ => exact ⟨ts₁, rfl⟩
  · exact ⟨ts₁, rfl⟩

section Retry

variable {p : Plan} (hp : p.tokens = [])
include hp

theorem stopReason (deadline : Option Nat) (n : Nat) :
    Blind (p.stopReason deadline n : Timed σ (Option StopReason)) := by
  unfold Plan.stopReason
  rw [hp]
  refine bind anyCancelled_nil fun c => ?_
  dsimp only
  -- past the token check, the plan looks only at its attempt count and the clock
  split
  · exact pure _
  · split
    · split
      · exact pure _
      · split
        · exact bind now fun _ => by split <;> exact pure _
        · exact pure _
    · split
      · exact bind now fun _ => by split <;> exact pure _
      · exact pure _

theorem retryFrom (desc : String) (deadline : Option Nat) {action : Timed σ (Except Fault α)}
    (ha : Blind action) : ∀ fuel n, Blind (retryFrom desc p deadline action fuel n)
  | 0, _ => throw _
  | fuel + 1, n => by
    have hattempt : Blind (p.attempt n action) := by
      unfold Plan.attempt
      split
      · exact bind (withLimit _ ha) fun r => by cases r <;> exact pure _
      · exact ha
    have hgive : ∀ r e, Blind (giveUp desc n r e >>= fun f =>
        (Pure.pure (Except.error f) : Timed σ (Except Fault α))) := fun r e =>
      bind (bind (emit _) fun _ => pure _) fun _ => pure _
    simp only [DiskUploader.retryFrom]
    refine bind hattempt fun r => ?_
    rcases r with e | v
    · dsimp only
      split
      · exact pure _
      · refine bind (stopReason hp deadline n) fun r => ?_
        rcases r with _ | r
        · refine bind (hp ▸ pause _ _) fun _ => bind (stopReason hp deadline n) fun r => ?_
          rcases r with _ | r
          · exact retryFrom desc deadline ha fuel (n + 1)
          · exact hgive r _
        · exact hgive r _
    · exact pure _

end Retry

theorem retry (desc : String) {ss : List Strategy} (hss : (Plan.ofStrategies ss).tokens = [])
    {action : Timed σ (Except Fault α)} (ha : Blind action) :
    Blind (DiskUploader.retry desc ss action) := by
  have hloop : ∀ deadline, Blind (get >>= fun w : World σ =>
      DiskUploader.retryFrom desc (Plan.ofStrategies ss) deadline action w.attemptCap 1) :=
    fun deadline => get_bind (fun _ _ => rfl) fun w => retryFrom hss desc deadline ha _ _
  unfold DiskUploader.retry
  refine bind now fun start => ?_
  dsimp only
  split
  · split
    · exact bind (panic _) hloop
    · exact bind (pure _) hloop
  · exact bind (pure _) hloop

end Blind

end Timed

theorem RetryPolicy.plan_tokens (p : RetryPolicy) : (Plan.ofStrategies p.strategies).tokens = [] := by
  rw [(Plan.ofStrategies_ofList p.strategies).tokens]
  unfold Strategy.effective
  split
  · rfl
  · simp only [RetryPolicy.strategies, List.filterMap_append]
    cases p.maxAttempts <;> cases p.baseDelayMs <;> cases p.fixedDelayMs <;> cases p.timeoutSecs <;>
      rfl

namespace Timed.Blind

variable {api : Engine σ} {read wait : List Strategy}
  (hread : (Plan.ofStrategies read).tokens = []) (hwait : (Plan.ofStrategies wait).tokens = [])
include hread hwait

theorem waitForJobs {c : CorrelationId} (hl : Blind (api.listJobs c)) :
    Blind (waitForJobs api c read wait) := by
  refine retry _ hwait (bind (retry _ hread hl) fun r => ?_)
  rcases r with e | jobs
  · exact pure _
  · dsimp only
    split
    · exact pure _
    · split <;> exact pure _

theorem waitForDiskOk {id : String} (hg : Blind (api.getDisk id)) :
    Blind (waitForDiskOk api id read wait) := by
  refine retry _ hwait (bind (retry _ hread hg) fun r => ?_)
  rcases r with e | d
  · exact pure _
  · dsimp only
    split <;> exact pure _

theorem waitForDiskStable {id : String} {c : CorrelationId} (hg : Blind (api.getDisk id))
    (hl : Blind (api.listJobs c)) : Blind (waitForDiskStable api id c read wait) := by
  refine bind (waitForDiskOk hread hwait hg) fun r => ?_
  rcases r with e | d
  · exact pure _
  · exact bind (waitForJobs hread hwait hl) fun r => by cases r <;> exact pure _

end Timed.Blind

end DiskUploader
