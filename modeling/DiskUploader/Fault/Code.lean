/-!
# Fault codes

Every fault carries exactly one code, which says what went wrong in terms a caller can act on.
The codes have a fixed order, used wherever a set of codes is listed. Permanent codes name
failures that no amount of retrying can repair.
-/

namespace DiskUploader

/-- What went wrong, in the order in which codes are always listed. -/
inductive Code where
  | accessDenied
  | notAnEngine
  | tlsError
  | notFound
  | bug
  | connection
  | pending
  | timeout
  | fieldMissing
  | unidentified
  | unsupported
  | permanentHttpError
  | conflict
  | diskLocked
  | unexpectedStatus
  | badArgument
  deriving DecidableEq, Repr, Inhabited

namespace Code

def all : List Code :=
  [accessDenied, notAnEngine, tlsError, notFound, bug, connection, pending, timeout,
    fieldMissing, unidentified, unsupported, permanentHttpError, conflict, diskLocked,
    unexpectedStatus, badArgument]

def name : Code → String
  | accessDenied => "access_denied"
  | notAnEngine => "not_an_engine"
  | tlsError => "tls_error"
  | notFound => "not_found"
  | bug => "bug"
  | connection => "connection"
  | pending => "pending"
  | timeout => "timeout"
  | fieldMissing => "field_missing"
  | unidentified => "unidentified"
  | unsupported => "unsupported"
  | permanentHttpError => "permanent_http_error"
  | conflict => "conflict"
  | diskLocked => "disk_locked"
  | unexpectedStatus => "unexpected_status"
  | badArgument => "bad_argument"

def typeName : Code → String
  | accessDenied => "AccessDenied"
  | notAnEngine => "NotAnEngine"
  | tlsError => "TlsError"
  | notFound => "NotFound"
  | bug => "Bug"
  | connection => "Connection"
  | pending => "Pending"
  | timeout => "Timeout"
  | fieldMissing => "FieldMissing"
  | unidentified => "Unidentified"
  | unsupported => "Unsupported"
  | permanentHttpError => "PermanentHttpError"
  | conflict => "Conflict"
  | diskLocked => "DiskLocked"
  | unexpectedStatus => "UnexpectedStatus"
  | badArgument => "BadArgument"

def ofName? (s : String) : Option Code :=
  all.find? (·.name == s)

def permanent : Code → Bool
  | accessDenied | notAnEngine | tlsError | notFound | bug | fieldMissing | unsupported
  | permanentHttpError | unexpectedStatus | badArgument => true
  | connection | pending | timeout | unidentified | conflict | diskLocked => false

theorem mem_all (c : Code) : c ∈ all := by
  cases c <;> simp [all]

theorem ofName_name (c : Code) : ofName? c.name = some c := by
  cases c <;> rfl

end Code

end DiskUploader
