/-!
# What a virtualization engine stores

Disks live on storage domains and carry a status; an image transfer moves bytes into a disk and
goes through phases; jobs are the engine's background work, found by the correlation id that
tagged the request which started them. Statuses and phases arrive as text and are read
case-insensitively in ASCII; an unknown one is kept, lower-cased.
-/

namespace DiskUploader

inductive DiskFormat where
  | raw | cow
  deriving DecidableEq, Repr, Inhabited

def DiskFormat.name : DiskFormat → String
  | .raw => "raw"
  | .cow => "cow"

inductive DiskStatus where
  | ok | locked | illegal
  | other (name : String)
  deriving DecidableEq, Repr, Inhabited

namespace DiskStatus

def parse (s : String) : DiskStatus :=
  match s.toLower with
  | "ok" => .ok
  | "locked" => .locked
  | "illegal" => .illegal
  | o => .other o

def text : DiskStatus → String
  | .ok => "ok"
  | .locked => "locked"
  | .illegal => "illegal"
  | .other s => s

theorem parse_text_known (s : DiskStatus) (h : ∀ o, s ≠ .other o) : parse s.text = s := by
  cases s with
  | other o => exact absurd rfl (h o)
  | _ => decide +kernel

end DiskStatus

structure Disk where
  id : String
  aliasName : String
  status : DiskStatus
  format : DiskFormat
  provisionedSize : Nat
  totalSize : Option Nat
  storageDomainIds : List String
  deriving DecidableEq, Repr, Inhabited

/-- What is asked for when creating a disk on a storage domain. -/
structure DiskCreation where
  storageDomainId : String
  aliasName : String
  format : DiskFormat
  /-- The logical size a guest sees. -/
  provisionedSize : Nat
  /-- The bytes that will be written; meaningful only for sparse cow disks. -/
  initialSize : Option Nat
  sparse : Bool
  deriving DecidableEq, Repr, Inhabited

inductive Direction where
  | upload | download
  deriving DecidableEq, Repr, Inhabited

def Direction.name : Direction → String
  | .upload => "upload"
  | .download => "download"

inductive TransferPhase where
  | initializing | transferring
  | other (name : String)
  deriving DecidableEq, Repr, Inhabited

namespace TransferPhase

def parse (s : String) : TransferPhase :=
  match s.toLower with
  | "initializing" => .initializing
  | "transferring" => .transferring
  | o => .other o

def text : TransferPhase → String
  | .initializing => "initializing"
  | .transferring => "transferring"
  | .other s => s

end TransferPhase

/-- An image transfer: the disk it writes, its phase and the URLs it can be reached at. -/
structure Transfer where
  id : String
  diskId : String
  phase : TransferPhase
  /-- The direct URL on the host that serves the disk. -/
  transferUrl : Option String
  /-- The URL on the engine's image proxy. -/
  proxyUrl : Option String
  deriving DecidableEq, Repr, Inhabited

/-- The endpoints worth trying, the direct URL first; empty URLs are skipped. -/
def Transfer.candidateUrls (t : Transfer) : List String :=
  [t.transferUrl, t.proxyUrl].filterMap fun u => u.filter (· ≠ "")

inductive JobStatus where
  | started | finished | failed | aborted | unknown
  deriving DecidableEq, Repr, Inhabited

namespace JobStatus

/-- Reads a job status, ignoring ASCII case; an unknown one is `unknown`. -/
def parse (s : String) : JobStatus :=
  match s.toLower with
  | "started" => .started
  | "finished" => .finished
  | "failed" => .failed
  | "aborted" => .aborted
  | _ => .unknown

def name : JobStatus → String
  | .started => "started"
  | .finished => "finished"
  | .failed => "failed"
  | .aborted => "aborted"
  | .unknown => "unknown"

def title : JobStatus → String
  | .started => "Started"
  | .finished => "Finished"
  | .failed => "Failed"
  | .aborted => "Aborted"
  | .unknown => "Unknown"

end JobStatus

structure Job where
  id : String
  description : String
  status : JobStatus
  deriving DecidableEq, Repr, Inhabited

/-- A tag that ties a request to the jobs it started: operation, subject and a suffix that is
never reused. -/
structure CorrelationId where
  text : String
  deriving DecidableEq, Repr, Inhabited

namespace CorrelationId

/-- The subject as it appears in a correlation id: every character other than an ASCII letter,
digit or dash becomes a dash, and at most 32 characters are kept. -/
def subjectPart (subject : String) : String :=
  String.ofList ((subject.toList.map fun c => if c.isAlphanum || c = '-' then c else '-').take 32)

def prefixFor (operation subject : String) : String :=
  s!"{operation}_{subjectPart subject}_"

def hexDigit (n : Nat) : Char :=
  if n < 10 then Char.ofNat (48 + n) else Char.ofNat (87 + n)

def suffixOf (n : Nat) : String :=
  String.ofList ((List.range 10).reverse.map fun i => hexDigit (n / Nat.pow 16 i % 16))

def generate (operation subject : String) (serial : Nat) : CorrelationId :=
  ⟨prefixFor operation subject ++ suffixOf serial⟩

instance : ToString CorrelationId := ⟨CorrelationId.text⟩

theorem suffixOf_length (n : Nat) : (suffixOf n).length = 10 := by
  simp [suffixOf]

end CorrelationId

end DiskUploader
