import DiskUploader.Engine.Api
import DiskUploader.Retry.Engine

/-!
# Waiting for the engine

The engine reports a disk as ok before the job that created or changed it has finished, and
touching the disk in that window fails. So a caller waits for the disk's status and then for
every job tagged with its correlation id.

Every wait takes two strategy lists: `read` bounds the retries of one engine read, and `wait`
bounds how long the resource may stay in a transitional state. A resource still in transition
is a retried failure (`pending`, `diskLocked`); one that ended badly is permanent
(`unexpectedStatus`) and ends the wait at once.
-/

namespace DiskUploader

variable {σ : Type}

def waitForJobs (api : Engine σ) (c : CorrelationId) (read wait : List Strategy) :
    Timed σ (Except Fault Unit) :=
  retry s!"wait for jobs with correlation id {c.text}" wait do
    match ← retry s!"list jobs with correlation id {c.text}" read (api.listJobs c) with
    | .error e => return .error e
    | .ok jobs =>
      match jobs.find? fun j => j.status = .failed || j.status = .aborted with
      | some j =>
        return .error (Fault.new .unexpectedStatus
          s!"job {j.id} ({j.description}) ended as {j.status.title}")
      | none =>
        let running := (jobs.filter (·.status = .started)).length
        if running > 0 then return .error (Fault.new .pending s!"{running} job(s) still running")
        return .ok ()

def waitForDiskOk (api : Engine σ) (id : String) (read wait : List Strategy) :
    Timed σ (Except Fault Disk) :=
  retry s!"wait for disk {id} to become ok" wait do
    match ← retry s!"get disk {id}" read (api.getDisk id) with
    | .error e => return .error e
    | .ok d =>
      match d.status with
      | .ok => return .ok d
      | .locked => return .error (Fault.new .diskLocked s!"disk {id} is locked")
      | s => return .error (Fault.new .unexpectedStatus s!"disk {id} is in unexpected status {s.text}")

def waitForDiskStable (api : Engine σ) (id : String) (c : CorrelationId)
    (read wait : List Strategy) : Timed σ (Except Fault Disk) := do
  match ← waitForDiskOk api id read wait with
  | .error e => return .error e
  | .ok d =>
    match ← waitForJobs api c read wait with
    | .error e => return .error e
    | .ok () => return .ok d

end DiskUploader
