import Mathlib
import DiskUploader.Proofs.Backoff
import DiskUploader.Retry.Script

/-!
# Only the set of strategies counts

Folding a strategy list keeps, for each kind of limit, the tightest one, and for each kind of
delay the longest one; the tokens it collects are only ever asked whether one of them has
cancelled and when the first of them is due. So a retried call reads nothing of its list but
which strategies it holds: two lists with the same members, in any order and with any
repetitions, make the same call, step for step.

Two plans agree when they have the same limits and delays and watch the same tokens, perhaps in
another order or more than once; the retry loop of one is the retry loop of the other.
-/

namespace DiskUploader

variable {σ α : Type}

theorem min?_congr {xs ys : List Nat} (h : ∀ a, a ∈ xs ↔ a ∈ ys) : xs.min? = ys.min? := by
  ext m
  simp only [List.min?_eq_some_iff, h]

theorem max?_congr {xs ys : List Nat} (h : ∀ a, a ∈ xs ↔ a ∈ ys) : xs.max? = ys.max? := by
  ext m
  simp only [List.max?_eq_some_iff, h]

theorem filterMap_congr_mem {β : Type} {xs ys : List α} (f : α → Option β)
    (h : ∀ a, a ∈ xs ↔ a ∈ ys) (b : β) : b ∈ xs.filterMap f ↔ b ∈ ys.filterMap f := by
  simp only [List.mem_filterMap, h]

theorem any_congr_mem {xs ys : List α} (h : ∀ a, a ∈ xs ↔ a ∈ ys) (f : α → Bool) :
    xs.any f = ys.any f := by
  apply Bool.eq_iff_iff.2
  simp only [List.any_eq_true, h]

def World.pendingDue (w : World σ) (i : Nat) : Option Nat :=
  w.tokens[i]?.bind fun t => if w.fired t then none else t.due

theorem min?_toList_append (l r : List Nat) : (l.min?.toList ++ r).min? = (l ++ r).min? := by
  cases l with
  | nil => rfl
  | cons a l => simp only [List.min?_cons', Option.toList, List.cons_append, List.nil_append,
      List.foldl_append]

/-- A fold whose every step takes the least of the accumulator and the pending due instant of
a token ends at the least pending due instant. -/
theorem World.foldl_pendingDue (w : World σ) (f : Option Nat → Nat → Option Nat)
    (hf : ∀ acc i, f acc i = (acc.toList ++ (w.pendingDue i).toList).min?) (ids : List Nat)
    (acc : Option Nat) : ids.foldl f acc = (acc.toList ++ ids.filterMap w.pendingDue).min? := by
  induction ids generalizing acc with
  | nil => cases acc <;> rfl
  | cons i ids ih =>
    rw [List.foldl_cons, ih, hf, min?_toList_append]
    cases hp : w.pendingDue i <;> simp [hp]

theorem World.nextDue_eq_min? (w : World σ) (ids : List Nat) :
    w.nextDue ids = (ids.filterMap w.pendingDue).min? := by
  unfold World.nextDue
  refine w.foldl_pendingDue _ (fun acc i => ?_) ids none
  -- a token that is absent, has fired or has no due instant leaves the accumulator alone
  cases ht : w.tokens[i]? with
  | none => cases acc <;> simp [pendingDue, ht]
  | some t =>
    by_cases hf : w.fired t
    · cases acc <;> simp [pendingDue, ht, hf]
    · cases hd : t.due with
      | none => cases acc <;> simp [pendingDue, ht, hf, hd]
      | some d => cases acc <;> simp [pendingDue, ht, hf, hd, Nat.min_comm]

theorem World.nextDue_congr (w : World σ) {ids ids' : List Nat} (h : ∀ i, i ∈ ids ↔ i ∈ ids') :
    w.nextDue ids = w.nextDue ids' := by
  rw [nextDue_eq_min?, nextDue_eq_min?]
  exact min?_congr (filterMap_congr_mem _ h)

namespace Timed

variable {ids ids' : List Nat} (h : ∀ i, i ∈ ids ↔ i ∈ ids')
include h

theorem anyCancelled_congr : (anyCancelled ids : Timed σ Bool) = anyCancelled ids' := by
  simp only [anyCancelled, any_congr_mem h]

theorem waitUntil_congr (target : Nat) :
    (waitUntil target ids : Timed σ Unit) = waitUntil target ids' := by
  simp only [waitUntil, fun w : World σ => w.nextDue_congr h]

theorem pause_congr (ms : Nat) (deadline : Option Nat) :
    (pause ms deadline ids : Timed σ Unit) = pause ms deadline ids' := by
  simp only [pause, waitUntil_congr h]

end Timed

/-- Two plans with the same limits and delays that watch the same tokens. -/
structure Plan.Agree (p q : Plan) : Prop where
  maxAttempts : p.maxAttempts = q.maxAttempts
  timeout : p.timeout = q.timeout
  backoff : p.backoff = q.backoff
  fixed : p.fixed = q.fixed
  attemptLimit : p.attemptLimit = q.attemptLimit
  tokens : ∀ i, i ∈ p.tokens ↔ i ∈ q.tokens

namespace Plan.Agree

variable {p q : Plan} (h : p.Agree q)
include h

theorem delay (n : Nat) : p.delay n = q.delay n := by
  simp only [Plan.delay, h.backoff, h.fixed]

theorem attempt (n : Nat) (action : Timed σ (Except Fault α)) :
    p.attempt n action = q.attempt n action := by
  simp only [Plan.attempt, h.attemptLimit]

theorem stopReason (deadline : Option Nat) (n : Nat) :
    (p.stopReason deadline n : Timed σ (Option StopReason)) = q.stopReason deadline n := by
  simp only [Plan.stopReason, Timed.anyCancelled_congr h.tokens, h.maxAttempts, h.timeout]

theorem retryFrom (desc : String) (deadline : Option Nat) (action : Timed σ (Except Fault α))
    (fuel n : Nat) : DiskUploader.retryFrom desc p deadline action fuel n =
      DiskUploader.retryFrom desc q deadline action fuel n := by
  induction fuel generalizing n with
  | zero => rfl
  | succ fuel ih =>
    simp only [DiskUploader.retryFrom, h.attempt, h.stopReason, h.delay,
      Timed.pause_congr h.tokens, ih]

end Plan.Agree

namespace Plan

open Strategy

theorem effective_congr {ss ss' : List Strategy} (h : ∀ s, s ∈ ss ↔ s ∈ ss') (s : Strategy) :
    s ∈ effective ss ↔ s ∈ effective ss' := by
  by_cases he : ss = []
  · -- a list with no members has no members in the other either
    have he' : ss' = [] := List.eq_nil_iff_forall_not_mem.2 fun a ha => by
      simpa [he] using (h a).2 ha
    simp [effective, he, he']
  · have he' : ss' ≠ [] := fun he' => he (List.eq_nil_iff_forall_not_mem.2 fun a ha => by
      simpa [he'] using (h a).1 ha)
    simp [effective, he, he', h]

theorem ofStrategies_agree {ss ss' : List Strategy} (h : ∀ s, s ∈ ss ↔ s ∈ ss') :
    (ofStrategies ss).Agree (ofStrategies ss') := by
  have he := effective_congr h
  have hb : ((effective ss).filterMap attemptBudget = []) ↔
      ((effective ss').filterMap attemptBudget = []) := by
    simp only [List.eq_nil_iff_forall_not_mem, filterMap_congr_mem attemptBudget he]
  refine ⟨?_, ?_, ?_, ?_, ?_, ?_⟩
  · rw [(ofStrategies_ofList ss).maxAttempts, (ofStrategies_ofList ss').maxAttempts]
    exact min?_congr (filterMap_congr_mem _ he)
  · rw [(ofStrategies_ofList ss).timeout, (ofStrategies_ofList ss').timeout,
      min?_congr (filterMap_congr_mem timeLimit he)]
    simp only [hb]
  · rw [ofStrategies_backoff, ofStrategies_backoff]
    exact max?_congr (filterMap_congr_mem _ he)
  · rw [ofStrategies_fixed, ofStrategies_fixed]
    exact max?_congr (filterMap_congr_mem _ he)
  · rw [ofStrategies_attemptLimit_min, ofStrategies_attemptLimit_min]
    exact min?_congr (filterMap_congr_mem _ he)
  · rw [(ofStrategies_ofList ss).tokens, (ofStrategies_ofList ss').tokens]
    exact filterMap_congr_mem _ he

end Plan

/-- A retried call reads only which strategies its list holds: two lists with the same
members, in any order and with any repetitions, make the same call. -/
theorem retry_eq_of_same_members {ss ss' : List Strategy} (h : ∀ s, s ∈ ss ↔ s ∈ ss')
    (desc : String) (action : Timed σ (Except Fault α)) :
    retry desc ss action = retry desc ss' action := by
  have hp := Plan.ofStrategies_agree h
  simp only [retry, hp.timeout, hp.retryFrom desc]

/-- A list of strategies, and the same strategies reordered with some repeated, retry a refused
connection alike. -/
theorem retry_reordered_alike :
    let s : Script Unit := ⟨[{ delay := 5, outcome := .error (Fault.new .connection "refused") }],
      by simp⟩
    let ss := [Strategy.fixedDelay 100, .maxAttempts 3, .cancellation 0, .backoff 10]
    let ss' := [Strategy.cancellation 0, .backoff 10, .maxAttempts 3, .fixedDelay 100,
      .backoff 10, .cancellation 0]
    (∀ st, st ∈ ss ↔ st ∈ ss') ∧ retry "probe the image URL" ss s.attempt =
      retry "probe the image URL" ss' s.attempt := by
  intro s ss ss'
  have h : ∀ st, st ∈ ss ↔ st ∈ ss' := fun st => by
    simp only [ss, ss', List.mem_cons, List.not_mem_nil, or_false]
    tauto
  exact ⟨h, retry_eq_of_same_members h _ _⟩

end DiskUploader
