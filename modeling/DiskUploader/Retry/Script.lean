import DiskUploader.Retry.Engine

/-!
# Scripted attempts

A script says what each attempt of a call does: it runs for a while, then succeeds or fails.
Attempt `n`, counted from zero, follows step `n` of the script, and every attempt past the end
follows the last step. The instant at which each attempt starts is recorded, so that a run shows
exactly when the retry engine tried again.
-/

namespace DiskUploader

variable {α : Type}

/-- What one scripted attempt does: runs `delay` milliseconds, then answers `outcome`. -/
structure ScriptStep (α : Type) where
  delay : Nat := 0
  outcome : Except Fault α

/-- A non-empty list of scripted attempts. -/
structure Script (α : Type) where
  steps : List (ScriptStep α)
  nonempty : steps ≠ []

/-- The start instants of the attempts made so far. -/
structure AttemptLog where
  starts : Array Nat := #[]
  deriving Inhabited

namespace Script

def step (s : Script α) (n : Nat) : ScriptStep α :=
  s.steps.get ⟨min n (s.steps.length - 1), by
    have := List.length_pos_iff.2 s.nonempty
    omega⟩

/-- One attempt of the script: records its start, runs, and answers. -/
def attempt (s : Script α) : Timed AttemptLog (Except Fault α) := do
  let w ← get
  let st := s.step w.state.starts.size
  Timed.modifyState fun l => { l with starts := l.starts.push w.now }
  Timed.sleep st.delay
  return st.outcome

/-- A retried call of the script, on a timeline where the work wakes before a cancellation due
at the same instant, with the given tokens, and whose guard stops the loop after `cap` attempts. -/
def retried (s : Script α) (desc : String) (strategies : List Strategy) (tokens : List Token)
    (cap : Nat) : Except Interrupt (Except Fault α) × World AttemptLog :=
  (retry desc strategies s.attempt).run
    { World.start .work {} with tokens := tokens.toArray, attemptCap := cap }

theorem step_last (s : Script α) (n : Nat) (h : s.steps.length ≤ n + 1) :
    s.step n = s.steps.getLast s.nonempty := by
  simp only [step, List.getLast_eq_getElem, List.get_eq_getElem]
  congr 1
  omega

end Script

end DiskUploader
