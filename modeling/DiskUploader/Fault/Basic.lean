import DiskUploader.Fault.Classify

/-!
# Faults

A fault is a code, a message and the chain of what caused it. Wrapping a cause with the code
`unidentified` asks for the best code available: the one the cause chain reveals, else the code
of the nearest fault in it. Any other code is kept as given.

Seen through an I/O error that carries it, a fault shows its own message but hides itself: the
chain continues with the fault's own cause.
-/

namespace DiskUploader

/-- A failure with its code, its message and its cause chain, outermost first. -/
structure Fault where
  code : Code
  message : String
  cause : List Layer := []
  deriving DecidableEq, Repr, Inhabited

namespace Fault

def new (code : Code) (message : String) : Fault := { code, message }

def chain (f : Fault) : List Layer := .fault f.code f.message :: f.cause

/-- The code a wrapper gets: `unidentified` asks for the best code the cause offers. -/
def wrapCode (cause : List Layer) (code : Code) : Code :=
  if code = .unidentified then
    ((classify cause).orElse fun _ => inheritedCode cause).getD .unidentified
  else code

def wrap (cause : List Layer) (code : Code) (message : String) : Fault :=
  { code := wrapCode cause code, message, cause }

def context (f : Fault) (message : String) : Fault :=
  wrap f.chain .unidentified message

def classified (f : Fault) : Fault :=
  if f.code = .unidentified then
    match classify f.chain with
    | some c => { f with code := c }
    | none => f
  else f

def has (f : Fault) (c : Code) : Bool :=
  f.code == c || f.cause.any (·.code? == some c)

def codes (f : Fault) : List Code :=
  Code.all.filter f.has

def fullMessage (f : Fault) : String :=
  ": ".intercalate (f.message :: f.cause.map Layer.message)

def permanent (f : Fault) : Bool := f.code.permanent

def detach (f : Fault) : Fault :=
  { f with cause := f.cause.map Layer.detach }

def ofJson (message : String) : Fault :=
  wrap [Layer.text message] .fieldMissing "failed to decode engine response"

/-- The chain of an I/O error carrying the fault: its text, then the fault's own cause. -/
def throughIo (f : Fault) : List Layer :=
  Layer.text f.message :: f.cause

theorem wrap_code_of_ne {cause : List Layer} {code : Code} (h : code ≠ .unidentified)
    (m : String) : (wrap cause code m).code = code := by
  simp [wrap, wrapCode, h]

theorem has_self (f : Fault) : f.has f.code = true := by
  simp [has]

end Fault

end DiskUploader
