import DiskUploader.Image.Qcow
import DiskUploader.Number.Shortest

/-!
# Upload sessions

An upload goes through a fixed sequence of phases and ends either done or aborted. Its session
records the last phase reached, the phase being attempted, the bytes counted so far, what the
engine handed out (disk, transfer, URL) and, once finished, the outcome. A session finishes only
once: later outcomes are ignored.

Progress is the share of the declared bytes counted so far, in percent, as a double; an upload
of zero bytes is at 100 % once done and at 0 % before.
-/

namespace DiskUploader

/-- The phases of an upload, in order. -/
inductive Phase where
  | created | diskRequested | diskUnlocked | transferNegotiated | transferReady | urlVerified
  | bytesSent | finalized | diskStable | done | aborted
  deriving DecidableEq, Repr, Inhabited

namespace Phase

def index : Phase → Nat
  | created => 0 | diskRequested => 1 | diskUnlocked => 2 | transferNegotiated => 3
  | transferReady => 4 | urlVerified => 5 | bytesSent => 6 | finalized => 7 | diskStable => 8
  | done => 9 | aborted => 10

def name : Phase → String
  | created => "created" | diskRequested => "disk_requested" | diskUnlocked => "disk_unlocked"
  | transferNegotiated => "transfer_negotiated" | transferReady => "transfer_ready"
  | urlVerified => "url_verified" | bytesSent => "bytes_sent" | finalized => "finalized"
  | diskStable => "disk_stable" | done => "done" | aborted => "aborted"

def title : Phase → String
  | created => "Created" | diskRequested => "DiskRequested" | diskUnlocked => "DiskUnlocked"
  | transferNegotiated => "TransferNegotiated" | transferReady => "TransferReady"
  | urlVerified => "UrlVerified" | bytesSent => "BytesSent" | finalized => "Finalized"
  | diskStable => "DiskStable" | done => "Done" | aborted => "Aborted"

def isTerminal (p : Phase) : Bool := p = .done || p = .aborted

end Phase

/-- A watched value: each send replaces it and starts a new version, which subscribers that saw
an older one receive as a change. -/
structure Watch (α : Type) where
  value : α
  version : Nat := 0
  deriving DecidableEq, Repr, Inhabited

namespace Watch

variable {α : Type}

def sendReplace (w : Watch α) (a : α) : Watch α := { value := a, version := w.version + 1 }

def hasChanged (w : Watch α) (seen : Nat) : Bool := w.version != seen

end Watch

structure Session where
  aliasName : String
  correlation : CorrelationId
  image : ImageInfo
  /-- The token that cancels the upload. -/
  cancelToken : Nat
  phase : Option Phase := none
  /-- The phase the upload is trying to reach. -/
  attempting : Option Phase := none
  failedPhase : Option Phase := none
  uploaded : Nat := 0
  diskId : Option String := none
  disk : Option Disk := none
  transferId : Option String := none
  url : Option String := none
  error : Option Fault := none
  /-- The bytes read when the image stream ended before the declared size. -/
  truncatedAt : Option Nat := none
  done : Bool := false
  /-- The instant the session was set up. -/
  startedAt : Nat := 0
  /-- The instant the upload finished. -/
  finishedAt : Option Nat := none
  /-- Turns true when the upload finishes. -/
  completion : Watch Bool := { value := false }
  deriving DecidableEq, Repr, Inhabited

namespace Session

def total (s : Session) : Nat := s.image.declaredSize

def currentPhase (s : Session) : Phase := s.phase.getD .created

def progress (s : Session) : Float :=
  if s.total = 0 then (if s.done then 100.0 else 0.0)
  else s.uploaded.toFloat * 100.0 / s.total.toFloat

def begin (s : Session) (p : Phase) : Session := { s with attempting := some p }

def reach (s : Session) (p : Phase) : Session := { s with phase := some p, attempting := none }

def addUploaded (s : Session) (n : Nat) : Session :=
  { s with uploaded := min (s.uploaded + n) s.total }

def abort (s : Session) : Session :=
  { s with failedPhase := s.attempting.orElse fun _ => s.phase, phase := some .aborted }

/-- A subscription to the completion watch: the version it has seen. -/
def subscribe (s : Session) : Nat := s.completion.version

/-- Records the outcome at an instant and signals completion; a finished session stays as it
is. -/
def finish (s : Session) (now : Nat) (outcome : Except Fault Unit) : Session :=
  if s.done then s
  else
    let s := { s with done := true, finishedAt := some now,
                      completion := s.completion.sendReplace true }
    match outcome with
    | .ok () => { s with phase := some .done }
    | .error e =>
      let s := if s.phase = some .aborted then s
        else { s with failedPhase := s.attempting.orElse fun _ => s.phase, phase := some .aborted }
      { s with error := some e }

theorem finish_done (s : Session) (now : Nat) (o : Except Fault Unit) (h : s.done = true) :
    s.finish now o = s := by
  simp [finish, h]

theorem addUploaded_le (s : Session) (n : Nat) : (s.addUploaded n).uploaded ≤ s.total :=
  Nat.min_le_right _ _

end Session

def cancelledFault : Fault := Fault.new .timeout "upload cancelled"

def truncatedText (read expected : Nat) : String :=
  s!"image stream ended after {read} of {expected} bytes"

def truncatedFault (read expected : Nat) : Fault :=
  Fault.new .badArgument (truncatedText read expected)

end DiskUploader
