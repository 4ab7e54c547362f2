import DiskUploader.CommandLine.Grammar
import DiskUploader.Text.Layout

/-!
# Usage lines and help pages

A usage line names the command by its path and then what it needs. The help page's usage line
shows `[OPTIONS]` when the command has a named argument other than the generated switches, the
required named arguments, every positional (`<NAME>` when required, `[NAME]` when not) and
`<COMMAND>` when a command must follow. A usage line in an error instead shows the required
arguments together with the ones the error is about, named arguments first.

A help page is the command's description, its usage line, and sections for the commands below,
the positionals and the named arguments. Rows are indented by two columns and their
descriptions aligned two columns after the widest entry of the section. When a description
would run past a 100-column terminal, and the entries take more than 40 percent of it, every
row of that section puts its description on a line of its own, indented by ten columns. After a
description come, in brackets, the environment variable, the default and the allowed values.
-/

namespace DiskUploader.CommandLine

def terminalWidth : Nat := 100

def spaces (n : Nat) : String := String.ofList (List.replicate n ' ')

def lookupEnv (env : List (String × String)) (name : String) : Option String :=
  (env.find? (·.1 == name)).map (·.2)

namespace Arg

/-- The bracketed notes after an argument's description: its environment variable with the
current value (unless hidden), its default and the names its value may take. -/
def notes (a : Arg) (env : List (String × String)) : String :=
  let envNote := match a.env with
    | some v =>
      if a.hideEnvValue then [s!"[env: {v}]"]
      else
        let cur := (lookupEnv env v).getD ""
        [s!"[env: {v}={cur}]"]
    | none => []
  let quoted (s : String) : String := if s.any Char.isWhitespace then "\"" ++ s ++ "\"" else s
  let defaultNote := match a.default with
    | some d => if a.takesValue then [s!"[default: {quoted d}]"] else []
    | none => []
  let choiceNote :=
    if a.takesValue && !a.choices.isEmpty then
      let names := ", ".intercalate (a.choices.map quoted)
      [s!"[possible values: {names}]"]
    else []
  " ".intercalate (envNote ++ defaultNote ++ choiceNote)

/-- The key that orders named arguments of one display order: the short name in lower case,
marked after it as lower or upper case, else the long name. -/
def sortKey (a : Arg) : String :=
  match a.short, a.long with
  | some c, _ => c.toLower.toString ++ (if c.isLower then "0" else "1")
  | none, some l => l
  | none, none => "\x7b" ++ a.id

def helpText (a : Arg) (env : List (String × String)) : String :=
  let n := a.notes env
  if n.isEmpty then a.help else if a.help.isEmpty then n else a.help ++ " " ++ n

end Arg

/-- Whether a section's rows put descriptions on lines of their own: some row's description
would not fit beside entries taking `taken` columns, which are over 40 percent of the width. -/
def wrapsBelow (taken : Nat) (helpWidths : List Nat) : Bool :=
  helpWidths.any fun w =>
    taken ≤ terminalWidth && 2 * terminalWidth < 5 * taken && w > terminalWidth - taken

/-- One row: the entry, then the description `gap` columns after it or on the next line. -/
def row (entry : String) (gap : Nat) (text : String) (below : Bool) : String :=
  if below then
    "  " ++ entry ++ (if text.isEmpty then "" else "\n" ++ spaces 10 ++ text)
  else
    "  " ++ entry ++ spaces gap ++ text

def sortByKeys {α : Type} (key : α → Nat × String) (xs : List α) : List α :=
  xs.mergeSort fun x y =>
    let (a, s) := key x
    let (b, t) := key y
    a < b || (a == b && decide (s ≤ t))

namespace Command

def commandRows (c : Command) : List String :=
  let entries := sortByKeys (fun (o, n, _) => (o, n))
    (c.subcommands.map (fun s => (s.order, s.name, s.about)) ++ [(999, "help", helpCommandAbout)])
  let longest := (entries.map fun (_, n, _) => Text.columns n).foldl max 2
  let below := wrapsBelow (longest + 4) (entries.map fun (_, _, h) => Text.columns h)
  entries.map fun (_, n, h) => row n (longest + 2 - Text.columns n) h below

def positionalRows (c : Command) (env : List (String × String)) : List String :=
  let ps := c.positionals
  let longest := (ps.map fun a => Text.columns a.display).foldl max 2
  let below := wrapsBelow (longest + 4) (ps.map fun a => Text.columns (a.help ++ a.notes env))
  ps.map fun a => row a.display (longest + 2 - Text.columns a.display) (a.helpText env) below

def namedRows (c : Command) (env : List (String × String)) : List String :=
  let ns := sortByKeys (fun a => (a.order, a.sortKey)) c.named
  let longest := (ns.map fun a => Text.columns a.display).foldl max 2
  let below := wrapsBelow (longest + 8) (ns.map fun a => Text.columns (a.help ++ a.notes env))
  ns.map fun a =>
    let shortPart := match a.short, a.long with
      | some ch, some _ => s!"-{ch}, "
      | some ch, none => s!"-{ch}"
      | none, _ => "    "
    let longPart := match a.long with
      | some l => "--" ++ l ++ (match a.valueName? with | some v => s!" <{v}>" | none => "")
      | none => ""
    -- an entry without a long name leaves room for the missing long part
    let gap := longest + (if a.long.isSome then 2 else 6) - Text.columns a.display
    row (shortPart ++ longPart) gap (a.helpText env) below

def showsOptions (c : Command) : Bool :=
  c.named.any fun a => a.shape != .help && a.shape != .version && !a.required

def usageWith (c : Command) (path : String) (extra : List String) (helpPage : Bool) : String :=
  let ids := c.requiredIds ++ extra
  let args := ids.filterMap c.find?
  let named := (args.filter (!·.isPositional)).map (·.display)
  let named := named.foldl (fun acc s => if acc.contains s then acc else acc ++ [s]) []
  let required (a : Arg) := ids.contains a.id
  let positional := c.positionals.map fun a => a.usageText (required a)
  let parts := (if helpPage && c.showsOptions then ["[OPTIONS]"] else []) ++ named ++ positional ++
    (if c.subcommandRequired then ["<COMMAND>"] else [])
  " ".intercalate (path :: parts)

def helpUsage (c : Command) (path : String) : String := c.usageWith path [] true

/-- The usage line of an error about the arguments `used`; with none, the help page's line. -/
def usageFor (c : Command) (path : String) (used : List String) : String :=
  if used.isEmpty then c.helpUsage path else c.usageWith path used false

def helpPage (c : Command) (path : String) (env : List (String × String)) : String :=
  let sections :=
    (if c.hasSubcommands then ["Commands:\n" ++ "\n".intercalate c.commandRows] else []) ++
    (if c.positionals.isEmpty then [] else ["Arguments:\n" ++ "\n".intercalate (c.positionalRows env)]) ++
    (if c.named.isEmpty then [] else ["Options:\n" ++ "\n".intercalate (c.namedRows env)])
  let head := if c.about.isEmpty then "" else c.about ++ "\n\n"
  head ++ "Usage: " ++ c.helpUsage path ++ "\n\n" ++ "\n\n".intercalate sections ++ "\n"

end Command

theorem spaces_length (n : Nat) : (spaces n).length = n := by
  simp [spaces]

end DiskUploader.CommandLine
