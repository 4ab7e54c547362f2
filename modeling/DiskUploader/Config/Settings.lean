import DiskUploader.Retry.Strategy

/-!
# Settings

The settings of the tool: where the engine is and how to log in, how each kind of call is
retried, and how uploads behave. Every field has a default, and the retry policies of the
defaults are what `RetryDefaults.standard` gives.

A retry policy turns into strategies field by field, in a fixed order, leaving out the fields
that are not set; its time limit is in seconds.
-/

namespace DiskUploader

/-- One retry policy as the settings give it. -/
structure RetryPolicy where
  maxAttempts : Option Nat := none
  baseDelayMs : Option Nat := none
  fixedDelayMs : Option Nat := none
  timeoutSecs : Option Nat := none
  deriving DecidableEq, Repr, Inhabited

/-- The strategies of a policy: attempts, backoff, fixed delay, time limit, as far as set. -/
def RetryPolicy.strategies (p : RetryPolicy) : List Strategy :=
  (p.maxAttempts.map Strategy.maxAttempts).toList ++
  (p.baseDelayMs.map fun ms => Strategy.backoff (ms * nanosPerMilli)).toList ++
  (p.fixedDelayMs.map fun ms => Strategy.fixedDelay (ms * nanosPerMilli)).toList ++
  (p.timeoutSecs.map fun s => Strategy.wallClock (s * nanosPerSecond)).toList

/-- The policies of the four kinds of call. -/
structure RetryDefaults where
  /-- Short reads such as fetching a disk or a transfer. -/
  read : RetryPolicy
  /-- Writes that change the engine's state: create, finalize, remove. -/
  write : RetryPolicy
  /-- Waiting for a resource to leave a transitional state. -/
  pending : RetryPolicy
  /-- Probes of transfer endpoints. -/
  probe : RetryPolicy
  deriving DecidableEq, Repr, Inhabited

def RetryDefaults.standard : RetryDefaults where
  read := { maxAttempts := some 3, baseDelayMs := some 1000, timeoutSecs := some 60 }
  write := { maxAttempts := some 10, baseDelayMs := some 1000, timeoutSecs := some 300 }
  pending := { fixedDelayMs := some 5000, timeoutSecs := some 1200 }
  probe := { maxAttempts := some 3, baseDelayMs := some 500, timeoutSecs := some 30 }

inductive CancelScope where
  /-- Until the transfer URL is verified. -/
  | initialization
  /-- Also streaming, finalizing and the last wait. -/
  | full
  deriving DecidableEq, Repr, Inhabited

def CancelScope.name : CancelScope → String
  | .initialization => "initialization"
  | .full => "full"

/-- Where the engine is and how to reach it. -/
structure EngineSettings where
  url : String
  username : String
  insecure : Bool
  caFile : Option String
  requestTimeoutSecs : Nat
  deriving DecidableEq, Repr, Inhabited

structure UploadSettings where
  sparse : Bool
  cancelScope : CancelScope
  deriving DecidableEq, Repr, Inhabited

structure Settings where
  version : String
  engine : EngineSettings
  retry : RetryDefaults
  upload : UploadSettings
  deriving DecidableEq, Repr, Inhabited

def Settings.standard : Settings where
  version := "1.0"
  engine := { url := "https://localhost", username := "admin@internal", insecure := false,
              caFile := none, requestTimeoutSecs := 60 }
  retry := RetryDefaults.standard
  upload := { sparse := true, cancelScope := .initialization }

end DiskUploader
