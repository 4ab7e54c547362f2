import DiskUploader.Timeline.Basic
import DiskUploader.Fault.Basic

/-!
# Image transports

A transport reaches the endpoints of an image transfer: it probes an endpoint and answers the
status it got, and it sends a body of a declared size with one request, pulling the bytes from a
body reader as it goes. A body reader may fail like any input stream; such a failure is an I/O
error, given by its cause chain.

An unsuccessful endpoint status is `permanentHttpError` for client errors (400 to 499) and
`connection` otherwise.

A scripted transport answers probes from a list of answers, each matching URLs that contain a
text, optionally for a limited number of probes; other probes get 200. It reads bodies in pieces
of a set size and can be told to fail, or to panic, when sending. It can also cancel a token
during a given probe, or once a given number of body bytes has been read.
-/

namespace DiskUploader

/-- Reads up to a number of bytes of a body; a failure is an I/O error's cause chain. -/
abbrev BodyReader (σ : Type) := Nat → Timed σ (Except (List Layer) ByteArray)

/-- A way to reach the endpoints of an image transfer. -/
structure Transport (σ : Type) where
  /-- Probes an endpoint and answers its status. -/
  probe : String → Timed σ (Except Fault Nat)
  /-- Sends exactly the declared number of bytes of a body. -/
  put : String → Nat → BodyReader σ → Timed σ (Except Fault Unit)

def statusCode (status : Nat) : Code :=
  if 400 ≤ status && status ≤ 499 then .permanentHttpError else .connection

/-- A scripted answer to probes of URLs containing `pattern`. -/
structure ProbeAnswer where
  pattern : String
  /-- A status, or the code of a failed probe. -/
  outcome : Except Code Nat
  /-- How many probes the answer serves; always when absent. -/
  times : Option Nat := none
  deriving Inhabited

structure Delivery where
  url : String
  length : Nat
  /-- Whether the bytes are the first bytes of the image. -/
  matchesSource : Bool
  deriving DecidableEq, Repr, Inhabited

structure TransportScript where
  answers : List ProbeAnswer := []
  putFailure : Option Code := none
  /-- Panics when sending, with a message when the payload is text. -/
  putPanic : Option (Option String) := none
  readChunk : Nat := 8192
  /-- Cancels `token` during this probe, counted from one. -/
  cancelOnProbe : Option Nat := none
  /-- Cancels `token` once this many body bytes were read. -/
  cancelOnBytes : Option Nat := none
  token : Nat := 0
  /-- The image the bodies are compared with. -/
  source : ByteArray := ByteArray.empty

structure TransportLog where
  /-- How many probes each answer has served, by position. -/
  used : List Nat := []
  probes : List String := []
  deliveries : List Delivery := []
  deriving Inhabited

def containsText (s pat : String) : Bool :=
  pat.isEmpty || (s.splitOn pat).length > 1

namespace TransportScript

variable {σ : Type} (t : TransportScript) (l : Lens σ TransportLog)

def answerFor (log : TransportLog) (url : String) : Option (Nat × ProbeAnswer) :=
  (t.answers.zipIdx.find? fun (a, i) =>
    containsText url a.pattern && a.times.all (log.used.getD i 0 < ·)).map fun (a, i) => (i, a)

def probe (url : String) : Timed σ (Except Fault Nat) := do
  let log := l.view (← Timed.state)
  let log := { log with probes := log.probes ++ [url] }
  if t.cancelOnProbe = some log.probes.length then Timed.cancel t.token
  match t.answerFor log url with
  | none =>
    Timed.modifyState (l.update fun _ => log)
    return .ok 200
  | some (i, a) =>
    let used := (List.range (max log.used.length (i + 1))).map fun k =>
      log.used.getD k 0 + (if k = i then 1 else 0)
    Timed.modifyState (l.update fun _ => { log with used })
    match a.outcome with
    | .ok s => return .ok s
    | .error c => return .error (Fault.new c s!"probe of {url} failed")

/-- Reads a body to its end in pieces of `readChunk` bytes; `fuel` bounds the reads. -/
def receive (read : BodyReader σ) : Nat → ByteArray → Bool →
    Timed σ (Except (List Layer) ByteArray)
  | 0, acc, _ => return .ok acc
  | fuel + 1, acc, fired => do
    match ← read t.readChunk with
    | .error e => return .error e
    | .ok bs =>
      if bs.size = 0 then return .ok acc
      let acc := acc ++ bs
      let due := !fired && t.cancelOnBytes.any (· ≤ acc.size)
      if due then Timed.cancel t.token
      receive read fuel acc (fired || due)

/-- Sends a body: reads it all, then checks the scripted failure and the length. -/
def put (url : String) (size : Nat) (read : BodyReader σ) : Timed σ (Except Fault Unit) := do
  if let some m := t.putPanic then throw (.panic m)
  match ← t.receive read (size + 1) ByteArray.empty false with
  | .error e => return .error (Fault.wrap e .connection "connection closed mid-upload")
  | .ok body =>
    if let some c := t.putFailure then return .error (Fault.new c "injected PUT failure")
    if body.size ≠ size then
      return .error (Fault.new .connection s!"expected {size} bytes, got {body.size}")
    let d : Delivery := ⟨url, body.size, body == t.source.extract 0 body.size⟩
    Timed.modifyState (l.update fun log => { log with deliveries := log.deliveries ++ [d] })
    return .ok ()

def transport : Transport σ where
  probe := probe t l
  put := put t l

end TransportScript

theorem statusCode_client (s : Nat) (h1 : 400 ≤ s) (h2 : s ≤ 499) :
    statusCode s = .permanentHttpError := by
  simp [statusCode, h1, h2]

end DiskUploader
