import DiskUploader.Engine.Model
import DiskUploader.Timeline.Basic
import DiskUploader.Fault.Basic

/-!
# The engine interface

What the uploader asks of a virtualization engine: create, read and remove disks; create, read,
finalize and cancel image transfers; list the jobs of a correlation id. Every call is timed work
that answers a value or a fault. An engine is a record of these calls over the state `σ` of the
world it lives in.
-/

namespace DiskUploader

inductive EngineCall where
  | createDisk | getDisk | removeDisk | createTransfer | getTransfer
  | finalizeTransfer | cancelTransfer | listJobs
  deriving DecidableEq, Repr, Inhabited

namespace EngineCall

def all : List EngineCall :=
  [createDisk, getDisk, removeDisk, createTransfer, getTransfer, finalizeTransfer, cancelTransfer,
    listJobs]

def name : EngineCall → String
  | createDisk => "create_disk"
  | getDisk => "get_disk"
  | removeDisk => "remove_disk"
  | createTransfer => "create_transfer"
  | getTransfer => "get_transfer"
  | finalizeTransfer => "finalize_transfer"
  | cancelTransfer => "cancel_transfer"
  | listJobs => "list_jobs"

def title : EngineCall → String
  | createDisk => "CreateDisk"
  | getDisk => "GetDisk"
  | removeDisk => "RemoveDisk"
  | createTransfer => "CreateTransfer"
  | getTransfer => "GetTransfer"
  | finalizeTransfer => "FinalizeTransfer"
  | cancelTransfer => "CancelTransfer"
  | listJobs => "ListJobs"

def ofName? (s : String) : Option EngineCall := all.find? (·.name == s)

end EngineCall

abbrev Call (σ α : Type) := Timed σ (Except Fault α)

structure Engine (σ : Type) where
  createDisk : DiskCreation → CorrelationId → Call σ Disk
  getDisk : String → Call σ Disk
  removeDisk : String → Call σ Unit
  createTransfer : String → Direction → CorrelationId → Call σ Transfer
  getTransfer : String → Call σ Transfer
  finalizeTransfer : String → CorrelationId → Call σ Unit
  cancelTransfer : String → Call σ Unit
  listJobs : CorrelationId → Call σ (List Job)
  name : String

def hexText (width n : Nat) : String :=
  String.ofList ((List.range width).reverse.map fun i => CorrelationId.hexDigit (n / Nat.pow 16 i % 16))

def uuidOf (n : Nat) : String :=
  "00000000-0000-4000-8000-" ++ hexText 12 n

def freshId {σ : Type} : Timed σ String := return uuidOf (← Timed.fresh)

end DiskUploader
