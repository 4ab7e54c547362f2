import DiskUploader.Upload.Transport
import DiskUploader.Net.Http
import DiskUploader.Text.Basic

/-!
# Reaching transfer endpoints over HTTP

An endpoint is probed with `OPTIONS` and its status answered as it is. A body is sent with one
`PUT` that declares its length: once the connection is open the body is read to its end and
streamed, and a failure of the body fails the request. A request that cannot be sent is a
connection problem for a probe, and for a body whatever its cause reveals; a body refused with an
unsuccessful status fails with the status and the endpoint's trimmed answer, coded as
`statusCode` says.

The endpoints trust the same certificates as the engine, so the transport is made from the
engine settings and checks their certificate authority first.
-/

namespace DiskUploader

def statusLabel (status : Nat) : String :=
  match reasonPhrase status with
  | some p => s!"{status} {p}"
  | none => toString status

variable {σ : Type}

def Network.probe (n : Network σ) (url : String) : Timed σ (Except Fault Nat) := do
  match ← n.send { method := .options, url } with
  | .error e => return .error (Fault.wrap e .connection s!"OPTIONS {url} failed")
  | .ok r => return .ok r.status

def streamPiece : Nat := 4096

/-- Reads a body to its end, `piece` bytes at a time; `fuel` bounds the reads. -/
def BodyReader.drain (read : BodyReader σ) (piece : Nat) : Nat → ByteArray →
    Timed σ (Except (List Layer) ByteArray)
  | 0, acc => return .ok acc
  | fuel + 1, acc => do
    match ← read piece with
    | .error e => return .error e
    | .ok bs => if bs.size = 0 then return .ok acc else BodyReader.drain read piece fuel (acc ++ bs)

/-- Sends a body: connects to the endpoint, streams the body read to its end, then reads the
answer. -/
def Network.putBody (n : Network σ) (url : String) (size : Nat) (read : BodyReader σ) :
    Timed σ (Except Fault Unit) := do
  let failed := fun (e : List Layer) => Fault.wrap e .unidentified s!"PUT {url} failed"
  let req : Request :=
    { method := .put, url, payload := .stream ByteArray.empty,
      headers := [("Content-Type", "application/octet-stream"), ("Content-Length", toString size)] }
  match req.checked with
  | .error e => return .error (failed e)
  | .ok u =>
    match ← n.connect u with
    | .error e => return .error (failed e)
    | .ok () =>
      match ← read.drain streamPiece (size + 1) ByteArray.empty with
      | .error e => return .error (failed (bodyFailure u e))
      | .ok data =>
        match ← n.exchange { req with payload := .stream data } u with
        | .error e => return .error (failed e)
        | .ok r =>
          if isSuccess r.status then return .ok ()
          let answer := Text.trimBlank r.body
          return .error
            (Fault.new (statusCode r.status) s!"PUT {url} returned {statusLabel r.status}: {answer}")

def Network.transport (n : Network σ) (s : EngineSettings) (fs : FileSystem) :
    Except Fault (Transport σ) := do
  s.checkTrust fs
  return { probe := n.probe, put := n.putBody }

end DiskUploader
