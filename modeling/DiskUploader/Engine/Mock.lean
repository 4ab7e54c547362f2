import DiskUploader.Engine.Api

/-!
# An engine in memory

An engine that keeps disks, transfers and jobs in memory. Transitional states last a set number
of polls, so that waiting code goes round its loop: a new disk stays locked for `lockedPolls`
reads, a transfer initializing for `initializingPolls` reads, and a job running for
`runningJobPolls` listings. Finalizing a transfer locks its disk again for as many reads, after
which the disk shows the status set by `statusAfterFinalize`, if any, from then on.

Every call is counted first. Then an injected fault may fail it: a fault for a number of calls
fails that many, and the call after them clears the fault and goes ahead.
-/

namespace DiskUploader

structure MockBehavior where
  lockedPolls : Nat := 1
  runningJobPolls : Nat := 1
  initializingPolls : Nat := 1
  deriving Repr, Inhabited

/-- A fault injected into one call: always, or for a number of calls. -/
structure InjectedFault where
  code : Code
  remaining : Option Nat
  deriving Repr, Inhabited

/-- A disk with the polls it stays locked and the status it is pinned to. -/
structure StoredDisk where
  disk : Disk
  lockedLeft : Nat
  statusOverride : Option DiskStatus
  deriving Repr, Inhabited

/-- A transfer with the polls it stays initializing. -/
structure StoredTransfer where
  transfer : Transfer
  initializingLeft : Nat
  deriving Repr, Inhabited

/-- A job with its correlation id and the listings it stays running. -/
structure StoredJob where
  job : Job
  correlation : CorrelationId
  pollsLeft : Nat
  deriving Repr, Inhabited

structure MockState where
  disks : List StoredDisk := []
  transfers : List StoredTransfer := []
  jobs : List StoredJob := []
  faults : List (EngineCall × InjectedFault) := []
  calls : List (EngineCall × Nat) := []
  removed : List String := []
  cancelled : List String := []
  finalized : List String := []
  forcedPhase : Option TransferPhase := none
  statusAfterFinalize : Option DiskStatus := none
  deriving Repr, Inhabited

namespace MockState

def callCount (m : MockState) (c : EngineCall) : Nat :=
  ((m.calls.find? (·.1 == c)).map (·.2)).getD 0

def inject (m : MockState) (c : EngineCall) (f : InjectedFault) : MockState :=
  { m with faults := (m.faults.filter (·.1 != c)) ++ [(c, f)] }

def enter (m : MockState) (c : EngineCall) : Except Fault Unit × MockState :=
  let m : MockState :=
    { m with calls := (m.calls.filter fun p => p.1 != c) ++ [(c, m.callCount c + 1)] }
  match m.faults.find? (fun p => p.1 == c) with
  | none => (.ok (), m)
  | some (_, f) =>
    let failure := Fault.new f.code s!"injected {f.code.name} failure in {c.title}"
    match f.remaining with
    | some 0 => (.ok (), { m with faults := m.faults.filter (·.1 != c) })
    | some (n + 1) => (.error failure, m.inject c { f with remaining := some n })
    | none => (.error failure, m)

def disk? (m : MockState) (id : String) : Option StoredDisk :=
  m.disks.find? (·.disk.id == id)

def updateDisk (m : MockState) (id : String) (f : StoredDisk → StoredDisk) : MockState :=
  { m with disks := m.disks.map fun d => if d.disk.id == id then f d else d }

def transfer? (m : MockState) (id : String) : Option StoredTransfer :=
  m.transfers.find? (·.transfer.id == id)

def updateTransfer (m : MockState) (id : String) (f : StoredTransfer → StoredTransfer) :
    MockState :=
  { m with transfers := m.transfers.map fun t => if t.transfer.id == id then f t else t }

def fail (m : MockState) (c : EngineCall) (code : Code) : MockState :=
  m.inject c ⟨code, none⟩

def failTimes (m : MockState) (c : EngineCall) (code : Code) (times : Nat) : MockState :=
  m.inject c ⟨code, some times⟩

def forcePhase (m : MockState) (p : TransferPhase) : MockState :=
  { m with forcedPhase := some p }

def setStatusAfterFinalize (m : MockState) (s : DiskStatus) : MockState :=
  { m with statusAfterFinalize := some s }

/-- A disk that someone else created earlier: ready, with no domains and no written size. -/
def insertDisk (m : MockState) (id aliasName : String) (size : Nat) (format : DiskFormat) :
    MockState :=
  { m with disks := m.disks ++ [⟨⟨id, aliasName, .ok, format, size, none, []⟩, 0, none⟩] }

end MockState

def notFound (kind id : String) : Fault := Fault.new .notFound s!"{kind} {id} not found"

namespace Mock

variable {σ : Type} (b : MockBehavior) (l : Lens σ MockState)

def view : Timed σ MockState := return l.view (← Timed.state)

def store (m : MockState) : Timed σ Unit := Timed.modifyState (l.update fun _ => m)

def enter (c : EngineCall) : Timed σ (Except Fault Unit) := do
  let (r, m) := (← view l).enter c
  store l m
  return r

def entered {α : Type} (c : EngineCall) (k : Timed σ (Except Fault α)) :
    Timed σ (Except Fault α) := do
  match ← enter l c with
  | .error e => return .error e
  | .ok () => k

def startJob (correlation : CorrelationId) (description : String) : Timed σ Unit := do
  let id ← freshId
  let status := if b.runningJobPolls > 0 then JobStatus.started else .finished
  let m ← view l
  store l { m with jobs := m.jobs ++ [⟨⟨id, description, status⟩, correlation, b.runningJobPolls⟩] }

def createDisk (p : DiskCreation) (correlation : CorrelationId) : Timed σ (Except Fault Disk) :=
  entered l .createDisk do
  let id ← freshId
  let disk : Disk := { id, aliasName := p.aliasName, status := if b.lockedPolls > 0 then .locked else .ok,
                       format := p.format, provisionedSize := p.provisionedSize,
                       totalSize := p.initialSize, storageDomainIds := [p.storageDomainId] }
  let m ← view l
  store l { m with disks := m.disks ++ [⟨disk, b.lockedPolls, none⟩] }
  startJob b l correlation s!"Adding disk {p.aliasName}"
  return .ok disk

/-- Reads a disk: its pinned status, or locked while polls are left, or ok. -/
def getDisk (id : String) : Timed σ (Except Fault Disk) :=
  entered l .getDisk do
  let m ← view l
  match m.disk? id with
  | none => return .error (notFound "disk" id)
  | some d =>
    let d' : StoredDisk := match d.statusOverride with
      | some s => { d with disk := { d.disk with status := s } }
      | none =>
        if d.lockedLeft > 0 then { d with lockedLeft := d.lockedLeft - 1, disk := { d.disk with status := .locked } }
        else { d with disk := { d.disk with status := .ok } }
    store l (m.updateDisk id fun _ => d')
    return .ok d'.disk

def removeDisk (id : String) : Timed σ (Except Fault Unit) :=
  entered l .removeDisk do
  let m ← view l
  match m.disk? id with
  | none => return .error (notFound "disk" id)
  | some _ =>
    store l { m with disks := m.disks.filter (·.disk.id != id), removed := m.removed ++ [id] }
    return .ok ()

def createTransfer (diskId : String) (_direction : Direction) (_correlation : CorrelationId) :
    Timed σ (Except Fault Transfer) :=
  entered l .createTransfer do
  let m ← view l
  if (m.disk? diskId).isNone then return .error (notFound "disk" diskId)
  let id ← freshId
  let t : Transfer := { id, diskId, phase := .initializing,
                        transferUrl := some s!"https://host.mock:54322/images/{id}",
                        proxyUrl := some s!"https://engine.mock:54323/images/{id}" }
  let m ← view l
  store l { m with transfers := m.transfers ++ [⟨t, b.initializingPolls⟩] }
  return .ok t

/-- Reads a transfer: the forced phase if any, else it starts transferring once its
initializing polls are used up. -/
def getTransfer (id : String) : Timed σ (Except Fault Transfer) :=
  entered l .getTransfer do
  let m ← view l
  match m.transfer? id with
  | none => return .error (notFound "image transfer" id)
  | some t =>
    let t' : StoredTransfer := match m.forcedPhase with
      | some p => { t with transfer := { t.transfer with phase := p } }
      | none =>
        if t.transfer.phase = .initializing then
          if t.initializingLeft > 0 then { t with initializingLeft := t.initializingLeft - 1 }
          else { t with transfer := { t.transfer with phase := .transferring } }
        else t
    store l (m.updateTransfer id fun _ => t')
    return .ok t'.transfer

/-- Finalizes a transfer: its disk is locked again and then pinned, and a job starts. -/
def finalizeTransfer (id : String) (correlation : CorrelationId) : Timed σ (Except Fault Unit) :=
  entered l .finalizeTransfer do
  let m ← view l
  match m.transfer? id with
  | none => return .error (notFound "image transfer" id)
  | some t =>
    let m := m.updateTransfer id fun t =>
      { t with transfer := { t.transfer with phase := .other "finalizing_success" } }
    let m := m.updateDisk t.transfer.diskId fun d =>
      { d with lockedLeft := b.lockedPolls, statusOverride := m.statusAfterFinalize }
    store l { m with finalized := m.finalized ++ [id] }
    startJob b l correlation s!"Finalizing transfer {id}"
    return .ok ()

def cancelTransfer (id : String) : Timed σ (Except Fault Unit) :=
  entered l .cancelTransfer do
  let m ← view l
  match m.transfer? id with
  | none => return .error (notFound "image transfer" id)
  | some _ =>
    let m := m.updateTransfer id fun t =>
      { t with transfer := { t.transfer with phase := .other "cancelled" } }
    store l { m with cancelled := m.cancelled ++ [id] }
    return .ok ()

/-- One listing's effect on a running job: a poll used up, finished when none are left. -/
def StoredJob.poll (j : StoredJob) : StoredJob :=
  if j.job.status = .started then
    let left := j.pollsLeft - 1
    { j with pollsLeft := left, job := { j.job with status := if left = 0 then .finished else .started } }
  else j

def listJobs (correlation : CorrelationId) : Timed σ (Except Fault (List Job)) :=
  entered l .listJobs do
  let m ← view l
  let mine := m.jobs.filter (·.correlation == correlation)
  store l { m with jobs := m.jobs.map fun j => if j.correlation == correlation then StoredJob.poll j else j }
  return .ok (mine.map (·.job))

def insertDisk (aliasName : String) (size : Nat) (format : DiskFormat) : Timed σ String := do
  let id ← freshId
  store l ((← view l).insertDisk id aliasName size format)
  return id

def engine : Engine σ where
  createDisk := createDisk b l
  getDisk := getDisk l
  removeDisk := removeDisk l
  createTransfer := createTransfer b l
  getTransfer := getTransfer l
  finalizeTransfer := finalizeTransfer b l
  cancelTransfer := cancelTransfer l
  listJobs := listJobs l
  name := "mock"

end Mock

end DiskUploader
