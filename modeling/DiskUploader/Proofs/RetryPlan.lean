import Mathlib
import DiskUploader.Retry.Strategy

/-!
# The plan of a strategy list

What a strategy list folds into, read off the list itself: the least attempt count, each raised
to one; the least time limit, or the fallback limit when the list bounds neither attempts nor
time; and the watched tokens in order. An empty list stands for the default strategies.

Each numeric field obeys one of two fold laws: a field the strategies tighten ends as the least
of what they name (`foldl_least`), a field they raise as the largest (`foldl_largest`, which
gives the delays of the backoff law).
-/

namespace DiskUploader

theorem clockMillis_mono {a b : Nat} (h : a ≤ b) : clockMillis a ≤ clockMillis b := by
  unfold clockMillis nanosPerMilli
  by_cases ha : a % 1000000 = 0 <;> by_cases hb : b % 1000000 = 0 <;>
    simp only [ha, hb, if_true, if_false] <;> omega

theorem clockMillis_pos {a : Nat} (h : 0 < a) : 0 < clockMillis a := by
  unfold clockMillis nanosPerMilli
  by_cases ha : a % 1000000 = 0 <;> simp only [ha, if_true, if_false] <;> omega

@[simp] theorem clockMillis_zero : clockMillis 0 = 0 := rfl

namespace Strategy

def attemptBudget : Strategy → Option Nat
  | .maxAttempts n => some (max n 1)
  | _ => none

def timeLimit : Strategy → Option Nat
  | .wallClock t => some t
  | _ => none

def token? : Strategy → Option Nat
  | .cancellation i => some i
  | _ => none

def attemptLimit? : Strategy → Option Nat
  | .attemptLimit t => some t
  | _ => none

/-- The strategies a list stands for: the defaults when it is empty. -/
def effective (ss : List Strategy) : List Strategy := if ss = [] then defaults else ss

end Strategy

namespace Plan

open Strategy

/-- The limits of a plan, as the strategy list `L` gives them. -/
structure OfList (L : List Strategy) (p : Plan) : Prop where
  maxAttempts : p.maxAttempts = (L.filterMap attemptBudget).min?
  timeout : p.timeout = ((L.filterMap timeLimit).min?.or
    (if L.filterMap attemptBudget = [] then some fallbackTimeout else none))
  tokens : p.tokens = L.filterMap token?

/-- A field of the plan that each strategy either leaves alone or tightens to what it names ends
as the least of its start and of all the strategies name. -/
theorem foldl_least (get : Plan → Option Nat) (pick : Strategy → Option Nat)
    (hadd : ∀ p s, get (p.add s) = (pick s).elim (get p) (tighten min (get p)))
    (L : List Strategy) (p : Plan) :
    get (L.foldl add p) = ((get p).toList ++ L.filterMap pick).min? := by
  induction L generalizing p with
  | nil => cases h : get p <;> simp [h]
  | cons s L ih =>
    rw [List.foldl_cons, ih, hadd]
    cases hs : pick s with
    | none => simp [hs]
    | some n =>
      -- both sides fold `min` over the start, `n` and the rest
      cases get p <;>
        simp only [hs, tighten, Option.elim, Option.toList, List.filterMap_cons,
          List.nil_append, List.cons_append]
      rfl

/-- A field of the plan that each strategy either leaves alone or raises to what it names ends
as the largest of its start and of all the strategies name. -/
theorem foldl_largest (get : Plan → Option Nat) (pick : Strategy → Option Nat)
    (hadd : ∀ p s, get (p.add s) = (pick s).elim (get p) (tighten max (get p)))
    (L : List Strategy) (p : Plan) :
    get (L.foldl add p) = ((get p).toList ++ L.filterMap pick).max? := by
  induction L generalizing p with
  | nil => cases h : get p <;> simp [h]
  | cons s L ih =>
    rw [List.foldl_cons, ih, hadd]
    cases hs : pick s with
    | none => simp [hs]
    | some n =>
      -- both sides fold `max` over the start, `n` and the rest
      cases get p <;>
        simp only [hs, tighten, Option.elim, Option.toList, List.filterMap_cons,
          List.nil_append, List.cons_append]
      rfl

theorem foldl_maxAttempts (L : List Strategy) (p : Plan) :
    (L.foldl add p).maxAttempts = (p.maxAttempts.toList ++ L.filterMap attemptBudget).min? :=
  foldl_least maxAttempts attemptBudget (fun p s => by cases s <;> rfl) L p

theorem foldl_timeout (L : List Strategy) (p : Plan) :
    (L.foldl add p).timeout = (p.timeout.toList ++ L.filterMap timeLimit).min? :=
  foldl_least timeout timeLimit (fun p s => by cases s <;> rfl) L p

theorem foldl_attemptLimit_min (L : List Strategy) (p : Plan) :
    (L.foldl add p).attemptLimit = (p.attemptLimit.toList ++ L.filterMap attemptLimit?).min? :=
  foldl_least attemptLimit attemptLimit? (fun p s => by cases s <;> rfl) L p

theorem foldl_tokens (L : List Strategy) (p : Plan) :
    (L.foldl add p).tokens = p.tokens ++ L.filterMap token? := by
  induction L generalizing p with
  | nil => simp
  | cons s L ih =>
    rw [List.foldl_cons, ih]
    cases s with
    | cancellation i => simp [add, token?]
    | _ => rfl

theorem ofStrategies_ofList (ss : List Strategy) : (ofStrategies ss).OfList (effective ss) := by
  have he : (if ss.isEmpty then defaults else ss) = effective ss := by
    by_cases h : ss = [] <;> simp [effective, h]
  have hm := foldl_maxAttempts (effective ss) {}
  have ht := foldl_timeout (effective ss) {}
  have hk := foldl_tokens (effective ss) {}
  simp only [Option.toList, List.nil_append] at hm ht hk
  unfold ofStrategies
  rw [he]
  generalize (effective ss).foldl add {} = p at hm ht hk
  dsimp only
  constructor
  · split <;> simpa using hm
  · -- the fallback applies exactly when the list bounds neither attempts nor time
    by_cases hb : (effective ss).filterMap attemptBudget = []
    · cases hl : (effective ss).filterMap timeLimit with
      | nil => simp_all
      | cons t l => simp_all
    · have hsome : p.maxAttempts.isNone = false := by simp [hm, hb]
      simp [hsome, ht, hb]
  · split <;> simpa using hk

theorem ofStrategies_attemptLimit_min (ss : List Strategy) :
    (ofStrategies ss).attemptLimit = ((effective ss).filterMap attemptLimit?).min? := by
  have he : (if ss.isEmpty then defaults else ss) = effective ss := by
    by_cases h : ss = [] <;> simp [effective, h]
  have hl := foldl_attemptLimit_min (effective ss) {}
  simp only [Option.toList, List.nil_append] at hl
  unfold ofStrategies
  rw [he]
  generalize (effective ss).foldl add {} = p at hl
  dsimp only
  split <;> exact hl

theorem ofStrategies_nil : ofStrategies [] = ofStrategies defaults := by
  simp [ofStrategies, defaults]

end Plan

end DiskUploader
