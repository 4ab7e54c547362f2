/-!
# Mistakes on the command line

Each mistake the reader of a command line can find is a constructor below, holding what its
message names and the usage line it ends with. The message reads `error: ` and one sentence,
then the allowed values in brackets where there are some, then tips, each on a line of its own
after a blank line, then the usage line after another blank line, and last a pointer to
`--help`.

A word that looks like a misspelling gets a tip naming the closest accepted word; an unknown
word that starts with a dash, where the command also takes values by position, gets a tip on
passing it after `--` instead.
-/

namespace DiskUploader.CommandLine

/-- A close match suggested for an unknown named argument: the long name alone, or together
with the command below that accepts it. -/
structure Suggestion where
  name : String
  command : Option String := none
  deriving DecidableEq, Repr, Inhabited

inductive Mistake where
  /-- A word that no argument of the command matches. -/
  | unknownArgument (word : String) (suggestion : Option Suggestion) (passAsValue : Bool)
      (usage : String)
  /-- A command name given after `--`. -/
  | commandAfterEscape (name : String) (usage : String)
  /-- A word where a command name must stand, with the names it is close to. -/
  | unknownCommand (word : String) (similar : List String) (usage : Option String)
  /-- A value that is not one of the allowed names. -/
  | invalidValue (value arg : String) (allowed : List String) (similar : Option String)
  /-- A value left out or given empty. -/
  | emptyValue (arg : String) (allowed : List String)
  /-- Required arguments that were not given. -/
  | missingRequired (args : List String) (usage : String)
  /-- An argument given together with arguments it cannot be given with. -/
  | conflict (arg : String) (others : List String) (usage : String)
  /-- An argument given twice. -/
  | repeated (arg : String) (usage : String)
  /-- A value attached to a switch with `=`. -/
  | unexpectedValue (value arg : String) (usage : String)
  /-- A command that needs a command below it, given none. -/
  | missingCommand (path : String) (names : List String) (usage : String)
  deriving DecidableEq, Repr, Inhabited

namespace Mistake

/-- A value as it appears in a list: quoted when it holds white space. -/
def listed (s : String) : String := if s.any Char.isWhitespace then "\"" ++ s ++ "\"" else s

def valueList (title : String) (values : List String) : String :=
  if values.isEmpty then ""
  else
    let vs := ", ".intercalate (values.map listed)
    s!"\n  [{title}: {vs}]"

def sentence : Mistake → String
  | unknownArgument w _ _ _ => s!"unexpected argument '{w}' found"
  | commandAfterEscape _ _ => "unexpected argument '--' found"
  | unknownCommand w _ _ => s!"unrecognized subcommand '{w}'"
  | invalidValue v a allowed _ =>
    (if v.isEmpty then s!"a value is required for '{a}' but none was supplied"
     else s!"invalid value '{v}' for '{a}'") ++ valueList "possible values" allowed
  | emptyValue a allowed =>
    s!"a value is required for '{a}' but none was supplied" ++ valueList "possible values" allowed
  | missingRequired args _ =>
    "the following required arguments were not provided:" ++
      String.join (args.map fun a => "\n  " ++ a)
  | conflict a [o] _ => s!"the argument '{a}' cannot be used with '{o}'"
  | conflict a others _ =>
    s!"the argument '{a}' cannot be used with:" ++ String.join (others.map fun o => "\n  " ++ o)
  | repeated a _ => s!"the argument '{a}' cannot be used multiple times"
  | unexpectedValue v a _ => s!"unexpected value '{v}' for '{a}' found; no more were expected"
  | missingCommand p names _ =>
    s!"'{p}' requires a subcommand but one was not provided" ++ valueList "subcommands" names

def similarTip (kind : String) (names : List String) : String :=
  let quoted := ", ".intercalate (names.map fun n => s!"'{n}'")
  match names with
  | [_] => s!"a similar {kind} exists: {quoted}"
  | _ => s!"some similar {kind}s exist: {quoted}"

/-- The tips: close matches first, then further advice. -/
def tips : Mistake → List String
  | unknownArgument w s passAsValue _ =>
    (match s with
      | some ⟨n, none⟩ => [similarTip "argument" [n]]
      | _ => []) ++
    (if passAsValue then [s!"to pass '{w}' as a value, use '-- {w}'"] else []) ++
    (match s with
      | some ⟨n, some c⟩ => [s!"'{c} {n}' exists"]
      | _ => [])
  | commandAfterEscape n _ => [s!"subcommand '{n}' exists; to use it, remove the '--' before it"]
  | unknownCommand _ similar _ => if similar.isEmpty then [] else [similarTip "subcommand" similar]
  | invalidValue _ _ _ (some s) => [similarTip "value" [s]]
  | _ => []

def usage? : Mistake → Option String
  | unknownArgument _ _ _ u => some u
  | commandAfterEscape _ u => some u
  | unknownCommand _ _ u => u
  | invalidValue .. => none
  | emptyValue .. => none
  | missingRequired _ u => some u
  | conflict _ _ u => some u
  | repeated _ u => some u
  | unexpectedValue _ _ u => some u
  | missingCommand _ _ u => some u

def message (m : Mistake) : String :=
  let tipText := match m.tips with
    | [] => ""
    | ts => "\n" ++ String.join (ts.map fun t => "\n  tip: " ++ t)
  let usageText := match m.usage? with
    | some u => "\n\nUsage: " ++ u
    | none => ""
  "error: " ++ m.sentence ++ tipText ++ usageText ++ "\n\nFor more information, try '--help'.\n"

end Mistake

theorem Mistake.valueList_nil (title : String) : Mistake.valueList title [] = "" := rfl

end DiskUploader.CommandLine
