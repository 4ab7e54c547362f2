import DiskUploader.CommandLine.Help
import DiskUploader.CommandLine.Error
import DiskUploader.Text.Similarity

/-!
# Reading a command line

The words are read one at a time against the current command. A word that names a command
below starts reading that command with the words after it; `help` prints the help of the
command path that follows it. `--` makes every later word a positional value. A word starting
with `--` names a long argument, with its value after `=` or in the next word; a word starting
with one dash is a cluster of short switches. Any other word is the value an option waits for,
or else the next positional value.

A value is taken, and checked, when the next argument starts or when the command's words end,
so a mistake in a command below is found before a bad value given to the command above it.
When the words of a command end, the arguments not given take their value from their
environment variable and then from their default, and the command is checked: a command given no
argument at all may show its help instead, one that needs a command below must have one, no
two arguments given may conflict, and every required argument must be given.

A global argument given to several commands of the path counts with the value from the best
source (the command line over the environment over a default), and of two from equal sources,
with the value given further down the path.
-/

namespace DiskUploader.CommandLine

inductive Source where
  | default | environment | commandLine
  deriving DecidableEq, Repr, Inhabited

/-- The rank of a source: a higher rank wins. -/
def Source.rank : Source → Nat
  | .default => 0
  | .environment => 1
  | .commandLine => 2

/-- The value an argument was given and where it came from; a switch has the value `true`
or `false`. -/
structure Given where
  id : String
  value : String
  source : Source
  deriving DecidableEq, Repr, Inhabited

def Given.explicit (g : Given) : Bool := g.source != .default

/-- Why reading stopped before the program could run. -/
inductive Stop where
  /-- Help was asked for: the page goes to standard output. -/
  | help (page : String)
  /-- The version was asked for. -/
  | version (text : String)
  /-- The command was given nothing: its help goes to standard error. -/
  | helpInstead (page : String)
  | mistake (m : Mistake)
  deriving DecidableEq, Repr, Inhabited

/-- A command of the path with what it was given. -/
structure Matched where
  command : Command
  path : String
  given : List Given

def Matched.value? (m : Matched) (id : String) : Option String :=
  (m.given.find? (·.id == id)).map (·.value)

def Matched.flag (m : Matched) (id : String) : Bool := m.value? id == some "true"

/-- An argument waiting for its values to be taken. -/
structure Pending where
  arg : Arg
  values : List String

structure Reading where
  command : Command
  path : String
  env : List (String × String)
  given : List Given := []
  pending : Option Pending := none
  /-- Whether an option waits for its value in the next word. -/
  waiting : Bool := false
  /-- The number of positional values taken so far. -/
  position : Nat := 0
  /-- Whether `--` was given. -/
  escaped : Bool := false

abbrev ReadResult := Except Stop

namespace Reading

variable (r : Reading)

def has (id : String) : Bool := r.given.any (·.id == id)

def explicitIds : List String := (r.given.filter (·.explicit)).map (·.id)

def hasExplicit (id : String) : Bool := r.explicitIds.contains id

def fail {α : Type} (m : Mistake) : ReadResult α := .error (.mistake m)

def check (a : Arg) (v : String) : ReadResult Unit :=
  match a.kind with
  | .text => .ok ()
  | .path => if v.isEmpty then fail (.emptyValue a.display []) else .ok ()
  | .choice names =>
    if names.contains v then .ok ()
    else fail (.invalidValue v a.display names (Text.alikeWords v names).getLast?)

def dropOverridden (a : Arg) : Reading :=
  let cancelled (id : String) : Bool :=
    a.overrides.contains id ||
      (r.command.find? id).any fun o => o.overrides.contains a.id
  { r with given := r.given.filter fun g => !cancelled g.id }

/-- Records values of an argument; a switch given on the command line prints help or the
version, and any argument may be given once only. -/
def take (a : Arg) (values : List String) (source : Source) : ReadResult Reading := do
  if source == .commandLine && a.takesValue && values.isEmpty then
    fail (.emptyValue a.display a.choices)
  match a.shape with
  | .help => .error (.help (r.command.helpPage r.path r.env))
  | .version =>
    let number := r.command.version.getD ""
    .error (.version s!"{r.command.name} {number}\n")
  | _ =>
    if r.has a.id then fail (.repeated a.display (r.command.usageFor r.path []))
    let r := if source == .commandLine then r.dropOverridden a else r
    let value := if a.takesValue then values.headD "" else values.headD "true"
    if a.takesValue then check a value
    return { r with given := r.given ++ [⟨a.id, value, source⟩] }

def settle : ReadResult Reading :=
  match r.pending with
  | some p => { r with pending := none, waiting := false }.take p.arg p.values .commandLine
  | none => .ok { r with waiting := false }

def settleQuietly : Reading :=
  match r.settle with
  | .ok r' => r'
  | .error _ => { r with pending := none, waiting := false }

def give (a : Arg) (values : List String) : ReadResult Reading := do
  let r ← r.settle
  r.take a values .commandLine

def await (a : Arg) : ReadResult Reading := do
  let r ← r.settle
  return { r with pending := some ⟨a, []⟩, waiting := true }

/-- The suggestion for an unknown long name: the closest long name of the command, else the
closest of a command below that is named among the remaining words. -/
def suggestLong (name : String) (rest : List String) : Option Suggestion :=
  match (Text.alikeWords name r.command.longNames).getLast? with
  | some n => some ⟨n, none⟩
  | none =>
    r.command.subcommands.findSome? fun s =>
      let sub := Command.prepare r.command.globals s
      match (Text.alikeWords name sub.longNames).getLast? with
      | some n => if rest.contains s.name then some ⟨n, some s.name⟩ else none
      | none => none

def unknownLong (name : String) (rest : List String) : Mistake :=
  let r := r.settleQuietly
  let s := r.suggestLong name rest
  -- a suggested argument of this command counts as given in the usage line
  let r := match s with
    | some ⟨n, none⟩ =>
      match r.command.findLong? n with
      | some a =>
        let r := r.dropOverridden a
        let g : Given := ⟨a.id, "", .commandLine⟩
        if r.has a.id then r else { r with given := r.given ++ [g] }
      | none => r
    | _ => r
  let passAsValue := s.isNone && !r.escaped && !r.command.positionals.isEmpty
  .unknownArgument ("--" ++ name) (s.map fun x => { x with name := "--" ++ x.name }) passAsValue
    (r.command.usageFor r.path r.explicitIds)

def readLong (body : String) (rest : List String) : ReadResult Reading :=
  let (name, attached) := match body.splitOn "=" with
    | n :: v :: more => (n, some ("=".intercalate (v :: more)))
    | _ => (body, none)
  if name.isEmpty then fail (r.unknownLong name rest)
  else match r.command.findLong? name with
    | none => fail (r.unknownLong name rest)
    | some a =>
      if a.takesValue then
        match attached with
        | some v => r.give a [v]
        | none => r.await a
      else
        match attached with
        | some v =>
          let required := r.command.requiredIds
          let used := (r.explicitIds.filter fun i => !required.contains i) ++ [a.id]
          fail (.unexpectedValue v a.display (r.command.usageFor r.path used))
        | none => r.give a []

def readShorts : Reading → List Char → ReadResult Reading
  | r, [] => .ok r
  | r, c :: cs =>
    match r.command.findShort? c with
    | none =>
      let r := r.settleQuietly
      let passAsValue := !r.escaped && !r.command.positionals.isEmpty
      fail (.unknownArgument ("-" ++ c.toString) none passAsValue (r.command.usageFor r.path []))
    | some a =>
      if a.takesValue then
        let attached := String.ofList cs
        let attached := if attached.startsWith "=" then String.ofList (cs.drop 1) else attached
        if attached.isEmpty then r.await a else r.give a [attached]
      else do
        let r ← r.give a []
        readShorts r cs

def stray (w : String) : Mistake :=
  let r := r.settleQuietly
  let names := r.command.subcommandNames
  let looksNamed := w.startsWith "-" && w != "-" && w != "--"
  let passAsValue := !r.escaped && !r.command.positionals.isEmpty && looksNamed
  let usage := r.command.usageFor r.path []
  if r.escaped && names.contains w then .commandAfterEscape w usage
  else if r.command.hasSubcommands then
    let similar := Text.alikeWords w names
    if !similar.isEmpty || r.command.positionals.isEmpty then .unknownCommand w similar (some usage)
    else .unknownArgument w none passAsValue usage
  else .unknownArgument w none passAsValue usage

/-- Reads a plain word: the value an option waits for, or the next positional value. -/
def readPlain (w : String) : ReadResult Reading :=
  if r.waiting && !r.escaped then
    .ok { r with pending := r.pending.map (fun p => { p with values := p.values ++ [w] }),
                 waiting := false }
  else
    match r.command.positionals[r.position]? with
    | some a => do
      let r ← r.settle
      return { r with pending := some ⟨a, [w]⟩, position := r.position + 1 }
    | none => fail (r.stray w)

def fromEnvironment : ReadResult Reading :=
  r.command.args.foldlM (fun (r : Reading) a =>
    if r.has a.id then .ok r
    else match a.env.bind (lookupEnv r.env) with
      | some v => r.take a [v] .environment
      | none => .ok r) r

/-- Gives defaults to arguments still not given; a switch not given is `false`. -/
def withDefaults : Reading :=
  r.command.args.foldl (fun (r : Reading) a =>
    if r.has a.id then r
    else match a.shape, a.default with
      | .flag, _ => { r with given := r.given ++ [⟨a.id, "false", .default⟩] }
      | _, some d => { r with given := r.given ++ [⟨a.id, d, .default⟩] }
      | _, none => r) r

def conflictsOf (a : Arg) : List String :=
  let direct (x : Arg) : List String := x.conflicts ++ x.overrides
  let found := r.explicitIds.filter fun o =>
    o != a.id && ((direct a).contains o ||
      (r.command.find? o).any fun b => (direct b).contains a.id)
  found

def checkConflicts : ReadResult Unit :=
  match r.explicitIds.findSome? fun i =>
      (r.command.find? i).bind fun a =>
        match r.conflictsOf a with
        | [] => none
        | cs => some (a, cs) with
  | none => .ok ()
  | some (a, cs) =>
    let others := cs.filterMap fun i => (r.command.find? i).map (·.display)
    let used := r.explicitIds.filter fun i => !cs.contains i
    fail (.conflict a.display others (r.command.usageFor r.path used))

def missing : List String :=
  let c := r.command
  let required := c.requiredIds.filter fun i =>
    !r.hasExplicit i && ((c.find? i).map r.conflictsOf).getD [] == []
  let conditional := (c.args.filter fun a =>
    !r.hasExplicit a.id && !a.requiredUnless.isEmpty &&
      !a.requiredUnless.any r.hasExplicit).map (·.id)
  required ++ conditional

def checkRequired : ReadResult Unit :=
  match r.missing with
  | [] => .ok ()
  | missing =>
    let c := r.command
    let wanted := (c.requiredIds ++ missing).filter fun i => !r.hasExplicit i
    let args := wanted.filterMap c.find?
    let named := ((args.filter (!·.isPositional)).map (·.display)).foldl
      (fun acc s => if acc.contains s then acc else acc ++ [s]) []
    let positional := (c.positionals.filter fun a => wanted.contains a.id).map (·.usageText true)
    fail (.missingRequired (named ++ positional) (c.usageFor r.path (r.explicitIds ++ missing)))

def finish (below : Bool) : ReadResult Matched := do
  let r ← r.settle
  let r ← r.fromEnvironment
  let r := r.withDefaults
  let c := r.command
  if !below && c.helpWhenEmpty && r.explicitIds.isEmpty then
    .error (.helpInstead (c.helpPage r.path r.env))
  if !below && c.subcommandRequired then
    fail (.missingCommand r.path c.subcommandNames (c.usageFor r.path []))
  r.checkConflicts
  r.checkRequired
  return ⟨c, r.path, r.given⟩

end Reading

def helpCommandPage (path : String) : String :=
  helpCommandAbout ++ "\n\nUsage: " ++ path ++ " [COMMAND]...\n\nArguments:\n" ++
    "  [COMMAND]...  Print help for the subcommand(s)\n"

def helpFor (env : List (String × String)) : Command → String → List String → Stop
  | c, path, [] => .help (c.helpPage path env)
  | c, path, w :: rest =>
    match c.child? w with
    | some sub => helpFor env sub (path ++ " " ++ w) rest
    | none =>
      if w == "help" && c.hasSubcommands then
        match rest with
        | [] => .help (helpCommandPage (path ++ " help"))
        | x :: _ => .mistake (.unknownCommand x [] (some (path ++ " help [COMMAND]...")))
      else .mistake (.unknownCommand w [] (some (c.usageFor path [])))

def Reading.start (c : Command) (path : String) (env : List (String × String)) : Reading :=
  { command := c, path, env }

def readWords : Reading → List String → ReadResult (List Matched)
  | r, [] => do return [← r.finish false]
  | r, w :: rest =>
    let sub := if r.escaped then none else r.command.child? w
    match sub with
    | some c => do
      let below ← readWords (Reading.start c (r.path ++ " " ++ w) r.env) rest
      let here ← r.finish true
      return here :: below
    | none =>
      if !r.escaped && w == "help" && r.command.hasSubcommands then
        .error (helpFor r.env r.command r.path rest)
      else if !r.escaped && w == "--" then readWords { r with escaped := true } rest
      else
        let step :=
          if !r.escaped && w.startsWith "--" then r.readLong (w.drop 2).toString rest
          else if !r.escaped && w.startsWith "-" && w.length > 1 then
            r.readShorts (w.toList.drop 1)
          else r.readPlain w
        match step with
        | .ok r' => readWords r' rest
        | .error e => .error e

/-- The value of a global argument at every command of the path: the best-ranked source wins,
and of equal ones the command further down. -/
def settleGlobals (levels : List Matched) : List Matched :=
  let ids := ((levels.head?.map (·.command.globals)).getD []).map (·.id)
  let best := ids.filterMap fun i =>
    levels.foldl (fun (acc : Option Given) m =>
      match m.given.find? (·.id == i), acc with
      | some g, some a => if a.source.rank > g.source.rank then some a else some g
      | some g, none => some g
      | none, a => a) none
  levels.map fun m =>
    { m with given := m.given.map fun g => (best.find? (·.id == g.id)).getD g }

def readCommandLine (top : Command) (words : List String) (env : List (String × String)) :
    ReadResult (List Matched) := do
  let c := Command.prepare [] top
  let levels ← readWords (Reading.start c c.name env) words
  return settleGlobals levels

theorem Source.rank_commandLine_max (s : Source) : s.rank ≤ Source.commandLine.rank := by
  cases s <;> decide

end DiskUploader.CommandLine
