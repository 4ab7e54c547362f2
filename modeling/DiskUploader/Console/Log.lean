import DiskUploader.Timeline.Basic
import DiskUploader.Text.Basic

/-!
# Log lines

The tool logs to standard error, one event a line: the level in capitals, the part of the tool
the event comes from, a colon, the message, and then each field as `name=value`. A field shown
as it is stands bare; a text field stands in double quotes with its escapes.

How much is logged is chosen on the command line: everything with `-v`, only errors with `-q`,
and otherwise everything but debugging events.
-/

namespace DiskUploader

def Level.label : Level → String
  | .error => "ERROR"
  | .warn => "WARN"
  | .info => "INFO"
  | .debug => "DEBUG"

def Source.target : Source → String
  | .retry => "ovirtkit_core::retry"
  | .upload => "ovirtkit_storage::upload"
  | .rest => "ovirtkit_core::rest"

namespace Console

inductive Verbosity where
  | quiet | normal | verbose
  deriving DecidableEq, Repr, Inhabited

def Verbosity.shows : Verbosity → Level → Bool
  | .quiet, l => l == .error
  | .normal, l => l != .debug
  | .verbose, _ => true

def toolTarget : String := "ovirtkit"

def fieldText : String × FieldValue → String
  | (k, .shown v) => k ++ "=" ++ v
  | (k, .quoted v) => k ++ "=" ++ Text.debugQuote v

def logLine (level : Level) (target message : String) (fields : List (String × FieldValue)) :
    String :=
  " ".intercalate ((level.label ++ " " ++ target ++ ": " ++ message) :: fields.map fieldText)

def logText (v : Verbosity) (events : List LogEvent) : String :=
  String.join ((events.filter fun e => v.shows e.level).map fun e =>
    logLine e.level e.source.target e.message e.fields ++ "\n")

theorem Verbosity.shows_error (v : Verbosity) : v.shows .error = true := by
  cases v <;> rfl

end Console

end DiskUploader
