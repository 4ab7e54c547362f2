import Mathlib
import DiskUploader.Proofs.RetryPlan

/-!
# The backoff law

The delay after failed attempt `j`, read off the strategy list: the larger of the exponential
delay `b * 2 ^ (j - 1)` of the largest backoff base `b`, capped at `maxBackoff`, and the largest
fixed delay; `defaultDelay` when the list has neither.

The plan caps the exponent at 20 and lets the product saturate at the longest duration. The
saturation never shows, since the cap lies far below it, so the delay is what exact arithmetic
gives. The capped exponent shows only for bases below `maxBackoff / 2 ^ 20`, about 28.6
microseconds: a base of a millisecond or more already passes `maxBackoff` after `2 ^ 20` of
itself. For every base the delay grows with the attempt number and never passes the larger of
`maxBackoff` and the fixed delay.
-/

namespace DiskUploader

namespace Strategy

def backoffBase : Strategy → Option Nat
  | .backoff b => some b
  | _ => none

def fixedInterval : Strategy → Option Nat
  | .fixedDelay d => some d
  | _ => none

end Strategy

namespace Plan

open Strategy

theorem foldl_backoff (L : List Strategy) (p : Plan) :
    (L.foldl add p).backoff = (p.backoff.toList ++ L.filterMap backoffBase).max? :=
  foldl_largest backoff backoffBase (fun p s => by cases s <;> rfl) L p

theorem foldl_fixed (L : List Strategy) (p : Plan) :
    (L.foldl add p).fixed = (p.fixed.toList ++ L.filterMap fixedInterval).max? :=
  foldl_largest fixed fixedInterval (fun p s => by cases s <;> rfl) L p

theorem ofStrategies_eq_fold (ss : List Strategy) :
    ∃ t, ofStrategies ss = { (effective ss).foldl add {} with timeout := t } := by
  have he : (if ss.isEmpty then defaults else ss) = effective ss := by
    by_cases h : ss = [] <;> simp [effective, h]
  unfold ofStrategies
  rw [he]
  generalize (effective ss).foldl add {} = p
  dsimp only
  split
  · exact ⟨_, rfl⟩
  · exact ⟨p.timeout, rfl⟩

theorem ofStrategies_backoff (ss : List Strategy) :
    (ofStrategies ss).backoff = ((effective ss).filterMap backoffBase).max? := by
  obtain ⟨t, ht⟩ := ofStrategies_eq_fold ss
  rw [ht]
  exact foldl_backoff (effective ss) {}

theorem ofStrategies_fixed (ss : List Strategy) :
    (ofStrategies ss).fixed = ((effective ss).filterMap fixedInterval).max? := by
  obtain ⟨t, ht⟩ := ofStrategies_eq_fold ss
  rw [ht]
  exact foldl_fixed (effective ss) {}

theorem min_saturatingMul (d k : Nat) :
    min (Duration.saturatingMul d k) maxBackoff = min (d * k) maxBackoff := by
  have hcap : maxBackoff ≤ Duration.maxNanos := by decide
  rw [Duration.saturatingMul, Nat.min_assoc, Nat.min_eq_right hcap]

/-- Capping the exponent at 20 never changes the capped delay of a base that passes the cap at
exponent 20. -/
theorem min_pow_capped {b : Nat} (hb : maxBackoff ≤ b * 2 ^ 20) (j : Nat) :
    min (b * 2 ^ min (j - 1) 20) maxBackoff = min (b * 2 ^ (j - 1)) maxBackoff := by
  rcases Nat.le_total (j - 1) 20 with hj | hj
  · rw [Nat.min_eq_left hj]
  · have hgrow : b * 2 ^ 20 ≤ b * 2 ^ (j - 1) :=
      Nat.mul_le_mul_left b (Nat.pow_le_pow_right (by decide) hj)
    rw [Nat.min_eq_right hj, Nat.min_eq_right hb, Nat.min_eq_right (hb.trans hgrow)]

theorem min_pow_capped_of_millis {b : Nat} (hb : b % nanosPerMilli = 0) (j : Nat) :
    min (b * 2 ^ min (j - 1) 20) maxBackoff = min (b * 2 ^ (j - 1)) maxBackoff := by
  rcases Nat.eq_zero_or_pos b with rfl | hpos
  · simp
  -- a base of one millisecond or more passes the cap at exponent 20 already
  · refine min_pow_capped ?_ j
    have hms : nanosPerMilli ≤ b := Nat.le_of_dvd hpos (Nat.dvd_of_mod_eq_zero hb)
    calc maxBackoff ≤ nanosPerMilli * 2 ^ 20 := by decide
      _ ≤ b * 2 ^ 20 := Nat.mul_le_mul_right _ hms

/-- The delay after attempt `j`: the larger of the capped exponential delay and the fixed
delay, as far as the plan has them, and the default delay when it has neither. -/
theorem delay_eq (p : Plan) (j : Nat) :
    p.delay j = ((p.backoff.map fun b => min (b * 2 ^ min (j - 1) 20) maxBackoff).max
      p.fixed).getD defaultDelay := by
  unfold delay
  cases p.backoff <;> cases p.fixed <;> simp [Option.max, min_saturatingMul]

theorem exponential_mono (b : Nat) : Monotone fun j => min (b * 2 ^ min (j - 1) 20) maxBackoff := by
  intro j k hjk
  have hpow : 2 ^ min (j - 1) 20 ≤ 2 ^ min (k - 1) 20 :=
    Nat.pow_le_pow_right (by decide) (by omega)
  exact min_le_min_right _ (Nat.mul_le_mul_left b hpow)

theorem delay_mono (p : Plan) : Monotone p.delay := by
  intro j k hjk
  rw [delay_eq, delay_eq]
  cases p.backoff with
  | none => exact le_rfl
  | some b =>
    cases p.fixed with
    | none => exact exponential_mono b hjk
    | some f => exact max_le_max (exponential_mono b hjk) le_rfl

theorem delay_le (p : Plan) (j : Nat) : p.delay j ≤ max maxBackoff (p.fixed.getD 0) := by
  rw [delay_eq]
  cases p.backoff with
  | none =>
    cases p.fixed with
    | none => exact (show defaultDelay ≤ max maxBackoff 0 by decide)
    | some f => exact le_max_right _ _
  | some b =>
    cases p.fixed with
    | none => exact (Nat.min_le_right _ _).trans (le_max_left _ _)
    | some f => exact max_le_max (Nat.min_le_right _ _) le_rfl

/-- The backoff law of a strategy list, for the largest backoff base `b` and the largest fixed
delay `f`. For every base the delay after attempt `j` is the larger of `b * 2 ^ min (j - 1) 20`,
capped at `maxBackoff`, and `f`, or `defaultDelay` when the list has neither, as exact
arithmetic gives it: the saturating product never shows. For a base of whole milliseconds the
exponent's cap never shows either, and the delay is the larger of `b * 2 ^ (j - 1)`, capped, and
`f`. For every base the delay grows with `j` and never passes the larger of the cap and `f`. -/
theorem strategies_delay_law (ss : List Strategy) :
    (∀ j, (ofStrategies ss).delay j =
      ((((effective ss).filterMap backoffBase).max?.map
          fun b => min (b * 2 ^ min (j - 1) 20) maxBackoff).max
        ((effective ss).filterMap fixedInterval).max?).getD defaultDelay) ∧
    (∀ j, (∀ b ∈ ((effective ss).filterMap backoffBase).max?, b % nanosPerMilli = 0) →
      (ofStrategies ss).delay j =
        ((((effective ss).filterMap backoffBase).max?.map
            fun b => min (b * 2 ^ (j - 1)) maxBackoff).max
          ((effective ss).filterMap fixedInterval).max?).getD defaultDelay) ∧
    Monotone (ofStrategies ss).delay ∧
    ∀ j, (ofStrategies ss).delay j ≤
      max maxBackoff (((effective ss).filterMap fixedInterval).max?.getD 0) := by
  refine ⟨fun j => ?_, fun j hms => ?_, delay_mono _, fun j => ?_⟩
  · rw [delay_eq, ofStrategies_backoff, ofStrategies_fixed]
  · rw [delay_eq, ofStrategies_backoff, ofStrategies_fixed]
    cases hb : ((effective ss).filterMap backoffBase).max? with
    | none => rfl
    | some b => simp only [Option.map_some, min_pow_capped_of_millis (hms b (by simp [hb])) j]
  · rw [← ofStrategies_fixed]
    exact delay_le _ j

end Plan

end DiskUploader
