import DiskUploader.Proofs.MockIsolation

/-!
# The in-memory engine, step by step

A test takes steps against one engine: requests, and the settings a test makes between them,
namely faults, a forced transfer phase, the status disks take after finalization, and disks
inserted from outside. A request is answered as `MockState.answer` says. `MockStep.after` is the
world once the steps are taken, and `MockStep.trace` records every step with the world it was
taken in and what it answered.
-/

namespace DiskUploader

/-- A step of a test against one in-memory engine: a request, or a setting of the engine. -/
inductive MockStep where
  | call (r : EngineRequest)
  | fail (c : EngineCall) (code : Code)
  | failTimes (c : EngineCall) (code : Code) (times : Nat)
  | forcePhase (p : TransferPhase)
  | statusAfterFinalize (s : DiskStatus)
  | insertDisk (aliasName : String) (size : Nat) (format : DiskFormat)

namespace MockStep

/-- Takes a step: a request answers the engine's reply, a setting answers nothing. -/
def run (b : MockBehavior) : MockStep → Timed MockState (Option EngineReply)
  | call r => some <$> r.send (Mock.engine b (Lens.id MockState))
  | fail c code => do Timed.modifyState (·.fail c code); return none
  | failTimes c code t => do Timed.modifyState (·.failTimes c code t); return none
  | forcePhase p => do Timed.modifyState (·.forcePhase p); return none
  | statusAfterFinalize s => do Timed.modifyState (·.setStatusAfterFinalize s); return none
  | insertDisk a size f => do
    let _ ← Mock.insertDisk (Lens.id MockState) a size f
    return none

/-- A step as a function of the engine and the next fresh id: its reply, the engine after it,
and how many ids it took. -/
def apply (b : MockBehavior) (m : MockState) (n : Nat) : MockStep → Option EngineReply × MockState × Nat
  | call r => (some (m.answer b n r).1, (m.answer b n r).2.1, (m.answer b n r).2.2)
  | fail c code => (none, m.fail c code, 0)
  | failTimes c code t => (none, m.failTimes c code t, 0)
  | forcePhase p => (none, m.forcePhase p, 0)
  | statusAfterFinalize s => (none, m.setStatusAfterFinalize s, 0)
  | insertDisk a size f => (none, m.insertDisk (uuidOf n) a size f, 1)

theorem run_apply (b : MockBehavior) (w : World MockState) (s : MockStep) :
    (s.run b).run w =
      (.ok (s.apply b w.state w.serial).1,
        { w with
          state := (s.apply b w.state w.serial).2.1
          serial := w.serial + (s.apply b w.state w.serial).2.2 }) := by
  cases s with
  | call r => simp [run, apply, Mock.send_answer]
  | insertDisk a size f =>
    simp [run, apply, Mock.insertDisk, Mock.view, Mock.store, freshId, Timed.fresh, Lens.id]
  | _ => simp [run, apply]

def after (b : MockBehavior) : List MockStep → World MockState → World MockState
  | [], w => w
  | s :: ss, w => after b ss ((s.run b).run w).2

def trace (b : MockBehavior) :
    List MockStep → World MockState → List (World MockState × MockStep × Option EngineReply)
  | [], _ => []
  | s :: ss, w => (w, s, (s.apply b w.state w.serial).1) :: trace b ss ((s.run b).run w).2

variable (b : MockBehavior)

@[simp] theorem after_nil (w : World MockState) : after b [] w = w := rfl

@[simp] theorem after_cons (s : MockStep) (ss : List MockStep) (w : World MockState) :
    after b (s :: ss) w = after b ss ((s.run b).run w).2 := rfl

theorem after_append (ss ts : List MockStep) (w : World MockState) :
    after b (ss ++ ts) w = after b ts (after b ss w) := by
  induction ss generalizing w with
  | nil => rfl
  | cons s ss ih => exact ih _

@[simp] theorem trace_nil (w : World MockState) : trace b [] w = [] := rfl

@[simp] theorem trace_cons (s : MockStep) (ss : List MockStep) (w : World MockState) :
    trace b (s :: ss) w = (w, s, (s.apply b w.state w.serial).1) :: trace b ss ((s.run b).run w).2 :=
  rfl

theorem trace_append (ss ts : List MockStep) (w : World MockState) :
    trace b (ss ++ ts) w = trace b ss w ++ trace b ts (after b ss w) := by
  induction ss generalizing w with
  | nil => rfl
  | cons s ss ih => simp [ih]

end MockStep

end DiskUploader
