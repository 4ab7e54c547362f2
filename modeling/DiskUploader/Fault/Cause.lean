import DiskUploader.Fault.Code

/-!
# Cause chains

A failure is reported together with the chain of failures that caused it, outermost first.
Each layer of a chain is either a fault of this library, with its code, or a foreign error of
which only the text is known, and, for HTTP client errors, what kind of HTTP failure it was.
-/

namespace DiskUploader

/-- What is known about a foreign error besides its text. -/
inductive Origin where
  /-- Nothing: only the text. -/
  | plain
  /-- An HTTP client error, with the response status it carries, whether the request timed
  out, and whether the connection could not be made. -/
  | http (status : Option Nat) (timedOut connectFailed : Bool)
  deriving DecidableEq, Repr, Inhabited

inductive Layer where
  | fault (code : Code) (message : String)
  | foreign (origin : Origin) (message : String)
  deriving DecidableEq, Repr, Inhabited

namespace Layer

def message : Layer → String
  | fault _ m => m
  | foreign _ m => m

def code? : Layer → Option Code
  | fault c _ => some c
  | foreign _ _ => none

def http? : Layer → Option (Option Nat × Bool × Bool)
  | foreign (.http s t c) _ => some (s, t, c)
  | _ => none

def detach : Layer → Layer
  | fault c m => fault c m
  | foreign _ m => foreign .plain m

def text (m : String) : Layer := foreign .plain m

end Layer

def inheritedCode : List Layer → Option Code
  | [] => none
  | l :: rest => l.code?.orElse fun _ => inheritedCode rest

def firstHttp : List Layer → Option (Option Nat × Bool × Bool)
  | [] => none
  | l :: rest => l.http?.orElse fun _ => firstHttp rest

def plainChain (texts : List String) : List Layer :=
  texts.map Layer.text

theorem inheritedCode_cons_fault (c : Code) (m : String) (rest : List Layer) :
    inheritedCode (.fault c m :: rest) = some c := rfl

theorem inheritedCode_plainChain (texts : List String) :
    inheritedCode (plainChain texts) = none := by
  induction texts with
  | nil => rfl
  | cons t ts ih => simpa [plainChain, inheritedCode, Layer.text, Layer.code?] using ih

end DiskUploader
