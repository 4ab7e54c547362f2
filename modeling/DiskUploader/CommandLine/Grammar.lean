/-!
# Command-line grammars

A command line is read against a tree of commands. Each command has a name, a one-line
description, the arguments it accepts and the commands below it. An argument is a switch, a
named option with one value, or a value given by position; it may be required, required unless
another argument is given, or refused beside others; it may cancel another switch, take its
value from an environment variable or a default, and restrict its value to a few names.

A global argument of a command is accepted by every command below it as well. Every command
accepts `-h`/`--help`, the top command `-V`/`--version` when it has a version, and a command
with commands below it also accepts the word `help` followed by a path of command names.

Arguments are listed in help pages by a display order and then by name; the order is given with
the argument, and the generated ones come last.
-/

namespace DiskUploader.CommandLine

/-- How an argument is written and what it takes. -/
inductive Shape where
  /-- A switch, present or absent. -/
  | flag
  /-- A named option that takes one value. -/
  | option (valueName : String)
  /-- A value given by its position among the plain words. -/
  | positional (valueName : String)
  /-- The switch that prints the help of its command. -/
  | help
  /-- The switch that prints the version of the program. -/
  | version
  deriving DecidableEq, Repr, Inhabited

/-- What a value of an argument must be. -/
inductive ValueKind where
  /-- Any text. -/
  | text
  /-- A path: any text but the empty one. -/
  | path
  /-- One of a few names, spelled exactly. -/
  | choice (names : List String)
  deriving DecidableEq, Repr, Inhabited

structure Arg where
  id : String
  shape : Shape
  long : Option String := none
  short : Option Char := none
  help : String := ""
  /-- The place in the help page's listing. -/
  order : Nat := 999
  /-- Whether commands below accept it too. -/
  global : Bool := false
  required : Bool := false
  /-- Required unless one of these arguments is given. -/
  requiredUnless : List String := []
  /-- Arguments it cannot be given with. -/
  conflicts : List String := []
  /-- Arguments it cancels when given after them, and that cancel it. -/
  overrides : List String := []
  /-- The environment variable it takes its value from when not given. -/
  env : Option String := none
  /-- Whether help pages leave out the variable's value. -/
  hideEnvValue : Bool := false
  kind : ValueKind := .text
  default : Option String := none
  deriving DecidableEq, Repr, Inhabited

/-- A command: its arguments and the commands below it. -/
structure Command where
  name : String
  about : String
  args : List Arg := []
  subcommands : List Command := []
  version : Option String := none
  /-- Whether one of the commands below must follow. -/
  subcommandRequired : Bool := false
  /-- Whether the command shows its help when given no argument at all. -/
  helpWhenEmpty : Bool := false
  /-- The place in the parent's listing. -/
  order : Nat := 999

instance : Inhabited Command := ⟨{ name := "", about := "" }⟩

namespace Arg

def isPositional (a : Arg) : Bool :=
  match a.shape with
  | .positional _ => true
  | _ => false

def takesValue (a : Arg) : Bool :=
  match a.shape with
  | .option _ | .positional _ => true
  | _ => false

def valueName? (a : Arg) : Option String :=
  match a.shape with
  | .option n | .positional n => some n
  | _ => none

def choices (a : Arg) : List String :=
  match a.kind with
  | .choice names => names
  | _ => []

/-- How the argument is named in messages: `--long <VALUE>`, `--long`, `-s` or `<VALUE>`. -/
def display (a : Arg) : String :=
  match a.shape with
  | .positional n => s!"<{n}>"
  | .option n =>
    match a.long, a.short with
    | some l, _ => s!"--{l} <{n}>"
    | none, some c => s!"-{c} <{n}>"
    | none, none => s!"<{n}>"
  | _ =>
    match a.long, a.short with
    | some l, _ => "--" ++ l
    | none, some c => "-" ++ c.toString
    | none, none => a.id

/-- How the argument is named in a usage line; a positional that may be left out is bracketed. -/
def usageText (a : Arg) (required : Bool) : String :=
  match a.shape with
  | .positional n => if required then s!"<{n}>" else s!"[{n}]"
  | _ => a.display

def helpSwitch : Arg :=
  { id := "help", shape := .help, long := some "help", short := some 'h', help := "Print help" }

def versionSwitch : Arg :=
  { id := "version", shape := .version, long := some "version", short := some 'V',
    help := "Print version" }

end Arg

def helpCommandAbout : String := "Print this message or the help of the given subcommand(s)"

namespace Command

/-- The command with what it inherits and what is generated for it: the global arguments of
the commands above that it does not declare itself, then the help switch, then the version
switch when it has a version. -/
def prepare (inherited : List Arg) (c : Command) : Command :=
  let extra := inherited.filter fun a => !c.args.any (·.id == a.id)
  let generated := [Arg.helpSwitch] ++ (if c.version.isSome then [Arg.versionSwitch] else [])
  { c with args := c.args ++ extra ++ generated }

def globals (c : Command) : List Arg := c.args.filter (·.global)

def child? (c : Command) (name : String) : Option Command :=
  (c.subcommands.find? (·.name == name)).map (prepare c.globals)

def hasSubcommands (c : Command) : Bool := !c.subcommands.isEmpty

def subcommandNames (c : Command) : List String :=
  if c.hasSubcommands then c.subcommands.map (·.name) ++ ["help"] else []

def positionals (c : Command) : List Arg := c.args.filter (·.isPositional)

def named (c : Command) : List Arg := c.args.filter (!·.isPositional)

def find? (c : Command) (id : String) : Option Arg := c.args.find? (·.id == id)

def findLong? (c : Command) (name : String) : Option Arg :=
  c.args.find? (·.long == some name)

def findShort? (c : Command) (ch : Char) : Option Arg :=
  c.args.find? (·.short == some ch)

def longNames (c : Command) : List String := c.args.filterMap (·.long)

def requiredIds (c : Command) : List String := (c.args.filter (·.required)).map (·.id)

end Command

theorem Arg.display_positional (a : Arg) (n : String) (h : a.shape = .positional n) :
    a.display = s!"<{n}>" := by
  simp [Arg.display, h]

end DiskUploader.CommandLine
