import DiskUploader.Retry.Strategy
import DiskUploader.Timeline.Basic
import DiskUploader.Fault.Basic

/-!
# Retrying a call

`retry` runs an action until it succeeds, fails permanently, or its plan says to stop. Each
failure is first classified. A permanent failure ends the call at once. Otherwise the plan is
asked whether to stop, first after the failure and again after the wait that follows it: a
cancelled token stops the call, then a spent attempt count, then a passed deadline. Stopping
wraps the last failure in a `timeout` fault that says why, and logs a warning.

The deadline is the start plus the plan's time limit; an instant past the clock's range is a
panic. An attempt limit runs every attempt under `Timed.withLimit`. Waits, limits and the deadline
fall on the clock's whole milliseconds.
-/

namespace DiskUploader

variable {σ α : Type}

def instantSecondsMax : Nat := Nat.pow 2 63 - 1

def Plan.stopReason (p : Plan) (deadline : Option Nat) (attempts : Nat) :
    Timed σ (Option StopReason) := do
  if ← Timed.anyCancelled p.tokens then return some .cancelled
  if let some m := p.maxAttempts then
    if attempts ≥ m then return some (.attempts m)
  if let (some d, some t) := (deadline, p.timeout) then
    if (← Timed.now) ≥ d then return some (.deadline t)
  return none

def giveUp (desc : String) (attempts : Nat) (reason : StopReason) (last : Fault) :
    Timed σ Fault := do
  Timed.emit { level := .warn, source := .retry,
               message := s!"{desc}: giving up ({reason.text})",
               fields := [("attempts", .shown (toString attempts)), ("code", .shown last.code.name),
                          ("error", .shown last.fullMessage)] }
  return Fault.wrap last.chain .timeout
    s!"failed to {desc} after {attempts} attempt(s): {reason.text}"

def Plan.attempt (p : Plan) (n : Nat) (action : Timed σ (Except Fault α)) :
    Timed σ (Except Fault α) :=
  match p.attemptLimit with
  | some l => do
    match ← Timed.withLimit (clockMillis l) action with
    | some r => return r
    | none =>
      return .error (Fault.new .timeout s!"attempt {n} did not finish within {Text.duration l}")
  | none => action

/-- Attempts from number `n` on; `fuel` is how many more attempts the timeline allows. -/
def retryFrom (desc : String) (p : Plan) (deadline : Option Nat)
    (action : Timed σ (Except Fault α)) : Nat → Nat → Timed σ (Except Fault α)
  | 0, _ => throw .exhausted
  | fuel + 1, n => do
    match ← p.attempt n action with
    | .ok v => return .ok v
    | .error e =>
      let e := e.classified
      if e.permanent then return .error (Fault.wrap e.chain e.code s!"failed to {desc}")
      if let some r ← p.stopReason deadline n then return .error (← giveUp desc n r e)
      Timed.pause (clockMillis (p.delay n)) deadline p.tokens
      if let some r ← p.stopReason deadline n then return .error (← giveUp desc n r e)
      retryFrom desc p deadline action fuel (n + 1)

def retry (desc : String) (strategies : List Strategy) (action : Timed σ (Except Fault α)) :
    Timed σ (Except Fault α) := do
  let p := Plan.ofStrategies strategies
  let start ← Timed.now
  let deadline ← match p.timeout with
    | some t =>
      if (start * nanosPerMilli + t) / nanosPerSecond > instantSecondsMax then
        Timed.panic "overflow when adding duration to instant"
      else pure (some (start + clockMillis t))
    | none => pure none
  retryFrom desc p deadline action (← get).attemptCap 1

end DiskUploader
