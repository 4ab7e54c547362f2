import DiskUploader.Upload.Session
import DiskUploader.Upload.Transport
import DiskUploader.Image.Stream
import DiskUploader.Engine.Waits
import DiskUploader.Config.Settings
import DiskUploader.Engine.Mock

/-!
# The upload pipeline

An upload walks through its phases in order: the disk is requested and waited for until it is
unlocked and its jobs are done, a transfer is negotiated and waited for until it transfers, the
first endpoint that answers a probe acceptably is verified, the bytes are sent, the transfer is
finalized, and the disk is waited for until it is stable again. Every engine call runs under the
retry policy that fits it: `write` for changes, `read` for single reads, `pending` for waits and
`probe` for endpoint probes. Every change is tagged with the upload's correlation id.

Cancellation is checked as each phase begins and, through a cancellation strategy, by the
retries of the phase; the cancel scope decides which phases it reaches. When a phase fails the
session is aborted, the transfer is cancelled and a disk the upload created is removed, under
the `write` policy and with no cancellation, before the failure is reported. A panic in the
pipeline fails the upload as a bug.

An upload is rehearsed against the in-memory engine and a scripted transport. The world of a
rehearsal holds the engine's state, what the transport saw and the upload in progress, so that
all three can be looked at once the upload has finished.
-/

namespace DiskUploader

/-- The token that cancels an upload, and how far the cancellation reaches. -/
structure UploadOptions where
  cancel : Nat
  scope : CancelScope
  deriving Inhabited

inductive Target where
  | newDisk (creation : DiskCreation)
  | existing (id : String)
  deriving Inhabited

/-- An upload in progress: its session, its body, and what compensation has to undo. -/
structure UploadRun where
  session : Session
  target : Target
  options : UploadOptions
  body : Body
  /-- The bytes counted through the body reader. -/
  counted : Nat := 0
  createdDisk : Option String := none
  createdTransfer : Option String := none
  deriving Inhabited

/-- What is asked for when uploading into a new disk. -/
structure UploadRequest where
  storageDomainId : String
  aliasName : String
  /-- The number of bytes the image stream holds. -/
  size : Nat
  /-- Overrides the configured sparseness. -/
  sparse : Option Bool := none

/-- What uploads are done with, over a world `σ` that holds the upload in progress. -/
structure Uploader (σ : Type) where
  api : Engine σ
  transport : Transport σ
  policies : RetryDefaults
  sparse : Bool
  run : Lens σ UploadRun

/-- A stage of the pipeline: timed work that may fail with a fault. -/
abbrev Stage (σ : Type) := ExceptT Fault (Timed σ)

def Stage.call {σ α : Type} (c : Timed σ (Except Fault α)) : Stage σ α := ExceptT.mk c

def Stage.lift {σ α : Type} (t : Timed σ α) : Stage σ α := ExceptT.lift t

def UploadOptions.reaches (o : UploadOptions) (p : Phase) : Bool :=
  match o.scope with
  | .initialization => p.index ≤ Phase.urlVerified.index
  | .full => p.index < Phase.done.index

def UploadOptions.strategies (o : UploadOptions) (policy : RetryPolicy) (p : Phase) :
    List Strategy :=
  policy.strategies ++ (if o.reaches p then [.cancellation o.cancel] else [])

def phaseDebug : Option Phase → String
  | some p => s!"Some({p.title})"
  | none => "None"

def uploadEvent (level : Level) (message : String) (fields : List (String × FieldValue)) :
    LogEvent :=
  { level, source := .upload, message, fields }

namespace Uploader

variable {σ : Type} (u : Uploader σ)

def current : Timed σ UploadRun := return u.run.view (← Timed.state)

def cancelled (o : UploadOptions) : Timed σ Bool := Timed.isCancelled o.cancel

def log (level : Level) (message : String) (fields : List (String × FieldValue)) : Timed σ Unit :=
  Timed.emit (uploadEvent level message fields)

def change (f : UploadRun → UploadRun) : Timed σ Unit := Timed.modifyState (u.run.update f)

def changeSession (f : Session → Session) : Timed σ Unit :=
  u.change fun r => { r with session := f r.session }

/-- Starts a phase; a cancellation requested before it stops the upload here. -/
def begin (o : UploadOptions) (p : Phase) : Stage σ Unit := do
  u.changeSession (·.begin p)
  if o.reaches p && (← (cancelled o : Timed σ Bool)) then throw cancelledFault

def reach (p : Phase) : Stage σ Unit := u.changeSession (·.reach p)

def waitForTransfer (o : UploadOptions) (id : String) : Stage σ Transfer :=
  let read := o.strategies u.policies.read .transferReady
  Stage.call <| retry s!"wait for image transfer {id} to start"
    (o.strategies u.policies.pending .transferReady) do
    match ← retry s!"get image transfer {id}" read (u.api.getTransfer id) with
    | .error e => return .error e
    | .ok t =>
      match t.phase with
      | .transferring => return .ok t
      | .initializing =>
        return .error (Fault.new .pending s!"image transfer {id} is still initializing")
      | p =>
        return .error (Fault.new .unexpectedStatus
          s!"image transfer {id} is in unexpected phase {p.text}")

def probeUrl (o : UploadOptions) (url : String) : Timed σ (Except Fault Unit) :=
  retry s!"probe {url}" (o.strategies u.policies.probe .urlVerified) do
    match ← u.transport.probe url with
    | .error e => return .error e
    | .ok status =>
      if status < 400 then return .ok ()
      return .error (Fault.new (statusCode status) s!"{url} answered OPTIONS with status {status}")

def verifyUrl (o : UploadOptions) (t : Transfer) : Stage σ String := do
  let mut last : Option Fault := none
  for url in t.candidateUrls do
    match ← Stage.lift (u.probeUrl o url) with
    | .ok () => return url
    | .error err =>
      if (← (cancelled o : Timed σ Bool)) && o.reaches .urlVerified then throw err
      Stage.lift (log .warn "transfer endpoint unusable"
        [("url", .shown url), ("error", .shown err.fullMessage)])
      last := some err
  let message := s!"no usable endpoint for image transfer {t.id}"
  match last with
  | some e => throw (Fault.wrap e.chain .connection message)
  | none => throw (Fault.new .connection message)

/-- Reads the body for the transport, counting bytes into the session. Checks the cancellation
before every read when `check` is set, and fails when the stream ends before the declared
size. -/
def countingRead (o : UploadOptions) (check : Bool) : BodyReader σ := fun want => do
  if check && (← (cancelled o : Timed σ Bool)) then return .error cancelledFault.throughIo
  let r ← u.current
  let (bs, body) := r.body.read want
  if bs.size > 0 then
    u.change fun r => { r with body, counted := r.counted + bs.size,
                               session := r.session.addUploaded bs.size }
    return .ok bs
  u.change ({ · with body })
  if want > 0 && r.counted < r.session.total then
    u.changeSession ({ · with truncatedAt := some r.counted })
    return .error (truncatedFault r.counted r.session.total).throughIo
  return .ok bs

def sendBytes (o : UploadOptions) (url : String) : Stage σ Unit := do
  let total := (← u.current).session.total
  let check := o.reaches .bytesSent
  Stage.lift (log .info "streaming image" [("url", .quoted url), ("bytes", .shown (toString total))])
  match ← Stage.lift (u.transport.put url total (u.countingRead o check)) with
  | .error err =>
    if check && (← (cancelled o : Timed σ Bool)) then
      throw (Fault.wrap err.chain .timeout "upload cancelled while streaming")
    if let some read := (← u.current).session.truncatedAt then
      throw (Fault.wrap err.chain .badArgument (truncatedText read total))
    throw (err.context s!"failed to upload image to {url}")
  | .ok () =>
    let sent := (← u.current).session.uploaded
    if sent < total then throw (truncatedFault sent total)

/-- Requests the disk of an upload into a new disk, or takes the existing one, and waits until
it is unlocked; answers the disk's id. -/
def acquireDisk (o : UploadOptions) (corr : CorrelationId) : Target → Stage σ String
  | .newDisk c => do
    u.begin o .diskRequested
    let disk ← Stage.call (retry s!"create disk {c.aliasName}" (o.strategies u.policies.write .diskRequested)
      (u.api.createDisk c corr))
    u.change ({ · with createdDisk := some disk.id })
    u.changeSession ({ · with diskId := some disk.id })
    u.reach .diskRequested
    u.begin o .diskUnlocked
    let _ ← Stage.call (waitForDiskStable u.api disk.id corr
      (o.strategies u.policies.read .diskUnlocked) (o.strategies u.policies.pending .diskUnlocked))
    u.reach .diskUnlocked
    pure disk.id
  | .existing id => do
    u.changeSession ({ · with diskId := some id })
    u.begin o .diskUnlocked
    let _ ← Stage.call (waitForDiskOk u.api id
      (o.strategies u.policies.read .diskUnlocked) (o.strategies u.policies.pending .diskUnlocked))
    u.reach .diskUnlocked
    pure id

def openTransfer (o : UploadOptions) (corr : CorrelationId) (diskId : String) :
    Stage σ Transfer := do
  u.begin o .transferNegotiated
  let t ← Stage.call (retry s!"create image transfer for disk {diskId}"
    (o.strategies u.policies.write .transferNegotiated) (u.api.createTransfer diskId .upload corr))
  u.change ({ · with createdTransfer := some t.id })
  u.changeSession ({ · with transferId := some t.id })
  u.reach .transferNegotiated
  u.begin o .transferReady
  let t ← u.waitForTransfer o t.id
  u.reach .transferReady
  pure t

def deliver (o : UploadOptions) (t : Transfer) : Stage σ Unit := do
  u.begin o .urlVerified
  let url ← u.verifyUrl o t
  u.changeSession ({ · with url := some url })
  u.reach .urlVerified
  u.begin o .bytesSent
  u.sendBytes o url
  u.reach .bytesSent

def settle (o : UploadOptions) (corr : CorrelationId) (diskId : String) (t : Transfer) :
    Stage σ Unit := do
  u.begin o .finalized
  Stage.call (retry s!"finalize image transfer {t.id}" (o.strategies u.policies.write .finalized)
    (u.api.finalizeTransfer t.id corr))
  u.reach .finalized
  u.begin o .diskStable
  let disk ← Stage.call (waitForDiskStable u.api diskId corr
    (o.strategies u.policies.read .diskStable) (o.strategies u.policies.pending .diskStable))
  u.changeSession ({ · with disk := some disk })
  u.reach .diskStable

def execute : Stage σ Unit := do
  let r ← u.current
  let o := r.options
  let corr := r.session.correlation
  let diskId ← u.acquireDisk o corr r.target
  let t ← u.openTransfer o corr diskId
  u.deliver o t
  u.settle o corr diskId t

def compensate : Timed σ Unit := do
  let r ← u.current
  u.change ({ · with createdDisk := none, createdTransfer := none })
  let ss := u.policies.write.strategies
  if let some t := r.createdTransfer then
    match ← retry s!"cancel image transfer {t}" ss (u.api.cancelTransfer t) with
    | .ok () => pure ()
    | .error e =>
      (log .warn "failed to cancel image transfer"
        [("transfer_id", .shown t), ("error", .shown e.fullMessage)])
  if let some d := r.createdDisk then
    match ← retry s!"remove disk {d}" ss (u.api.removeDisk d) with
    | .ok () =>
      (log .info "removed disk created by failed upload" [("disk_id", .shown d)])
    | .error e =>
      (log .warn "failed to remove disk created by failed upload"
        [("disk_id", .shown d), ("error", .shown e.fullMessage)])

def fail (err : Fault) : Timed σ Unit := do
  u.changeSession Session.abort
  let s := (← u.current).session
  (log .warn "upload failed, cleaning up"
    [("alias", .quoted s.aliasName), ("phase", .shown (phaseDebug s.failedPhase)),
     ("code", .shown err.code.name), ("error", .shown err.fullMessage)])
  u.compensate
  let now ← Timed.now
  u.changeSession (·.finish now (.error err))

def pipeline : Timed σ Unit := do
  match ← u.execute.run with
  | .ok () =>
    let s := (← u.current).session
    (log .info "upload finished"
      [("alias", .quoted s.aliasName), ("bytes", .shown (toString s.uploaded)),
       ("correlation_id", .shown s.correlation.text)])
    let now ← Timed.now
    u.changeSession (·.finish now (.ok ()))
  | .error e => u.fail e

def panicText : Option String → String
  | some m => m
  | none => "unknown panic"

def panicFault (m : Option String) : Fault := Fault.new .bug s!"upload task panicked: {panicText m}"

/-- What follows an interruption of the pipeline: a panic fails the upload as a bug, unless the
upload has already finished; any other interruption passes through. -/
def recover : Interrupt → Timed σ Unit
  | .panic m => do
    if (← u.current).session.done then return
    u.fail (panicFault m)
  | i => throw i

/-- Runs the pipeline; a panic that escapes it fails the upload as a bug. -/
def runTask : Timed σ Unit := tryCatch u.pipeline u.recover

/-- Inspects the image and sets up an upload into a new disk. An image too short to inspect is
refused here; every later failure is reported through the session. -/
def startNew (req : UploadRequest) (src : ImageSource) (o : UploadOptions) :
    Timed σ (Except Fault Unit) := do
  match peekImage src req.size with
  | .error e => return .error e
  | .ok (image, replay) =>
    let creation : DiskCreation :=
      { storageDomainId := req.storageDomainId, aliasName := req.aliasName, format := image.format,
        provisionedSize := image.logicalSize,
        initialSize := if image.format = .cow then some image.declaredSize else none,
        sparse := req.sparse.getD u.sparse }
    let corr := CorrelationId.generate "image_upload" req.aliasName (← Timed.fresh)
    (log .info "starting upload to new disk"
      [("alias", .shown req.aliasName), ("format", .shown image.format.name),
       ("size", .shown (toString image.logicalSize)), ("correlation_id", .shown corr.text)])
    let now ← Timed.now
    u.change fun _ =>
      { session := { aliasName := req.aliasName, correlation := corr, image, cancelToken := o.cancel,
                     startedAt := now },
        target := .newDisk creation, options := o, body := ⟨replay, image.declaredSize⟩ }
    return .ok ()

def startExisting (diskId : String) (size : Nat) (src : ImageSource) (o : UploadOptions) :
    Timed σ (Except Fault Unit) := do
  match peekImage src size with
  | .error e => return .error e
  | .ok (image, replay) =>
    let corr := CorrelationId.generate "image_upload" diskId (← Timed.fresh)
    (log .info "starting upload to existing disk"
      [("disk_id", .quoted diskId), ("format", .shown image.format.name),
       ("correlation_id", .shown corr.text)])
    let now ← Timed.now
    u.change fun _ =>
      { session := { aliasName := diskId, correlation := corr, image, cancelToken := o.cancel,
                     startedAt := now },
        target := .existing diskId, options := o, body := ⟨replay, image.declaredSize⟩ }
    return .ok ()

end Uploader

structure UploadOutcome where
  disk : Disk
  transferId : String
  bytes : Nat

/-- The outcome of a finished session: its fault, or the disk and transfer it ended with. -/
def Session.outcome (s : Session) : Except Fault UploadOutcome :=
  match s.error with
  | some e => .error e
  | none =>
    match s.disk, s.transferId with
    | some d, some t => .ok ⟨d, t, s.uploaded⟩
    | _, _ => .error (Fault.new .bug "upload finished without a disk or transfer")

structure Rehearsal where
  engine : MockState := {}
  transport : TransportLog := {}
  run : UploadRun := default
  deriving Inhabited

namespace Rehearsal

def engineLens : Lens Rehearsal MockState := ⟨(·.engine), fun f w => { w with engine := f w.engine }⟩

def transportLens : Lens Rehearsal TransportLog :=
  ⟨(·.transport), fun f w => { w with transport := f w.transport }⟩

def runLens : Lens Rehearsal UploadRun := ⟨(·.run), fun f w => { w with run := f w.run }⟩

def uploader (b : MockBehavior) (t : TransportScript) (policies : RetryDefaults) (sparse : Bool) :
    Uploader Rehearsal where
  api := Mock.engine b engineLens
  transport := t.transport transportLens
  policies
  sparse
  run := runLens

end Rehearsal

end DiskUploader
