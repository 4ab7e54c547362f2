import DiskUploader.Console.Grammar
import DiskUploader.Console.Log
import DiskUploader.CommandLine.Read
import DiskUploader.Config.Read
import DiskUploader.Config.Write
import DiskUploader.Json.Print
import DiskUploader.Text.Layout
import DiskUploader.Number.ByteSize
import DiskUploader.Image.Stream
import DiskUploader.Engine.Rest
import DiskUploader.Upload.HttpTransport
import DiskUploader.Upload.Pipeline

/-!
# Running the tool

A run of the tool reads its command line, loads the settings file and carries out the command,
writing to standard output and standard error and possibly changing files. It ends with status
0 when it succeeds, 2 when the command line is wrong, and 1 when the command fails.

* A settings file that cannot be loaded stops the run before any command, with a report of the
  failure and each of its causes.
* A failed command prints `✗` and the failure with its causes joined by colons.
* `config show` prints the settings as YAML (as JSON with `--format json`); `config path` prints
  where the settings file is; `config init` writes the default settings, unless the file exists
  and `--force` is not given, in which case it only warns.
* `inspect` prints the image's format, its virtual size, the file's size and the qcow2 version,
  as a table, a JSON list or a YAML list.
* `upload` takes the engine settings from the file, overridden by the command line and the
  environment, and uploads the image into a new disk (named by `--alias` or after the file) or an
  existing one, printing a summary when it succeeds. No engine is reachable from a run of the
  tool, so every request fails to connect.
-/

namespace DiskUploader.Console

open CommandLine

/-- What a run of the tool is given. -/
structure Invocation where
  args : List String
  env : List (String × String)
  files : FileSystem

structure Outcome where
  exitCode : Nat
  stdout : String := ""
  stderr : String := ""
  files : FileSystem

/-- The causes of a failure, as a report lists them: indented by four columns, and numbered
when there are several. -/
def causeLines (causes : List String) : String :=
  let indentLines (first rest : String) (text : String) : String :=
    match text.splitOn "\n" with
    | [] => first
    | l :: ls => first ++ l ++ String.join (ls.map fun x => "\n" ++ rest ++ x)
  match causes with
  | [c] => indentLines "    " "    " c
  | cs => "\n".intercalate (cs.zipIdx.map fun (c, i) =>
      let n := toString i
      indentLines (spaces (5 - n.length) ++ n ++ ": ") "       " c)

def failureReport (f : Fault) : String :=
  let causes := f.cause.map Layer.message
  "Error: " ++ f.message ++
    (if causes.isEmpty then "" else "\n\nCaused by:\n" ++ causeLines causes) ++ "\n"

def failureLine (message : String) : String := "✗ " ++ message ++ "\n"

/-- One column of a result: its heading in a table, its key in JSON and YAML. -/
structure Column where
  heading : String
  key : String

def printRows (format : String) (columns : List Column) (rows : List (List String)) : String :=
  match format with
  | "json" =>
    let items := rows.map fun r => Json.obj ((columns.zip r).map fun (c, v) => (c.key, Json.str v))
    Json.pretty 0 (.arr items) ++ "\n"
  | "yaml" =>
    let events := [Yaml.Emit.sequenceStart] ++
      (rows.flatMap fun r =>
        [Yaml.Emit.mappingStart] ++ ((columns.zip r).flatMap fun (c, v) => textEntry c.key v) ++
          [Yaml.Emit.mappingEnd]) ++ [Yaml.Emit.sequenceEnd]
    Yaml.emitDocument events ++ "\n"
  | _ =>
    if rows.isEmpty then "No data to display\n"
    else Text.drawTable (columns.map (·.heading)) rows ++ "\n"

def printSettings (format : String) (s : Settings) : String :=
  if format == "json" then Json.pretty 0 s.toJson ++ "\n" else s.toYaml ++ "\n"

def failed (fs : FileSystem) (message : String) : Outcome :=
  { exitCode := 1, stderr := failureLine message, files := fs }

def showSettings (fs : FileSystem) (s : Settings) (format : String) : Outcome :=
  { exitCode := 0, stdout := printSettings format s, files := fs }

def showSettingsPath (fs : FileSystem) : Outcome :=
  { exitCode := 0, stdout := fs.settingsPath ++ "\n", files := fs }

def writeDefaultSettings (fs : FileSystem) (force : Bool) : Outcome :=
  let path := fs.settingsPath
  if fs.existsAt path && !force then
    { exitCode := 0, stderr := "⚠ " ++ path ++ " already exists; use --force to overwrite it\n",
      files := fs }
  else match fs.saveSettings Settings.standard with
    | .error f => failed fs f.fullMessage
    | .ok fs' =>
      { exitCode := 0, files := fs',
        stdout := "✓ Wrote default configuration to " ++ path ++ "\n" ++
          "ℹ Set engine.url and engine.username before uploading\n" }

def imageColumns : List Column :=
  [⟨"File", "file"⟩, ⟨"Format", "format"⟩, ⟨"Virtual Size", "virtual_size"⟩,
   ⟨"File Size", "file_size"⟩, ⟨"QCOW Version", "qcow_version"⟩]

def inspectImage (fs : FileSystem) (file format : String) : Outcome :=
  match fs.inspect file with
  | .error f => failed fs s!"cannot inspect {file}: {f.fullMessage}"
  | .ok info =>
    let version := match info.qcowVersion with
      | some v => toString v
      | none => "-"
    let row := [file, info.format.name, Number.byteSize info.logicalSize,
      Number.byteSize info.declaredSize, version]
    { exitCode := 0, stdout := printRows format imageColumns [row], files := fs }

def lastComponent? (path : String) : Option String :=
  match ((path.splitOn "/").filter fun p => !p.isEmpty && p != ".").getLast? with
  | some ".." => none
  | other => other

/-- A file name without its extension: up to its last dot, unless that dot starts the name. -/
def stem (name : String) : String :=
  let cs := name.toList
  match (cs.zipIdx.filter fun (c, _) => c == '.').getLast? with
  | some (_, i) => if i == 0 then name else String.ofList (cs.take i)
  | none => name

/-- The alias of a new disk uploaded from a path: the file name without its extension. -/
def defaultAlias (path : String) : String :=
  match (lastComponent? path).map stem with
  | some s => if s.isEmpty then "uploaded-image" else s
  | none => "uploaded-image"

/-- The world an upload of the tool runs in: the engine's session token and the upload. -/
structure UploadWorld where
  token : Option String := none
  run : UploadRun := default
  deriving Inhabited

def UploadWorld.tokenLens : Lens UploadWorld (Option String) :=
  ⟨(·.token), fun f w => { w with token := f w.token }⟩

def UploadWorld.runLens : Lens UploadWorld UploadRun :=
  ⟨(·.run), fun f w => { w with run := f w.run }⟩

/-- What to upload into: a new disk, or the disk with an id. -/
inductive UploadTarget where
  | newDisk (storageDomain : String) (aliasName : Option String) (sparse : Option Bool)
  | existing (diskId : String)

def summaryColumns : List Column :=
  [⟨"Disk ID", "disk_id"⟩, ⟨"Alias", "alias"⟩, ⟨"Format", "format"⟩,
   ⟨"Virtual Size", "virtual_size"⟩, ⟨"Uploaded", "uploaded"⟩,
   ⟨"Correlation ID", "correlation_id"⟩]

def overrideEngine (m : Matched) (e : EngineSettings) : EngineSettings :=
  { e with
    url := (m.value? "url").getD e.url
    username := (m.value? "username").getD e.username
    insecure := e.insecure || m.flag "insecure"
    caFile := (m.value? "ca_file").orElse fun _ => e.caFile }

def interruptText : Interrupt → String
  | .panic m => "upload task panicked: " ++ (m.getD "unknown panic")
  | .cut _ => "upload task was cut off"
  | .exhausted => "upload task made too many attempts"

def uploadImage (fs : FileSystem) (s : Settings) (m : Matched) (format : String)
    (v : Verbosity) : Outcome :=
  let file := (m.value? "file").getD ""
  let engine := overrideEngine m s.engine
  match m.value? "password" with
  | none => failed fs "no password given; pass --password or set OVIRT_PASSWORD"
  | some password =>
  match fs.openFile file with
  | .error e => failed fs s!"cannot open {file}: {e.message}"
  | .ok () =>
  match RestClient.connect engine fs password Network.unreachable UploadWorld.tokenLens with
  | .error f => failed fs f.fullMessage
  | .ok client =>
  match Network.unreachable.transport engine fs with
  | .error f => failed fs f.fullMessage
  | .ok transport =>
  let target := match m.value? "disk_id" with
    | some d => UploadTarget.existing d
    | none =>
      let sparse := if m.flag "sparse" then some true else if m.flag "no_sparse" then some false
        else none
      .newDisk ((m.value? "storage_domain").getD "") (m.value? "alias") sparse
  let (announce, aliasName) := match target with
    | .newDisk _ a _ =>
      let aliasName := a.getD (defaultAlias file)
      (s!"ℹ Uploading {file} as new disk '{aliasName}'\n", aliasName)
    | .existing d => (s!"ℹ Uploading {file} into disk {d}\n", d)
  match fs.read file with
  | .error e =>
    { exitCode := 1, stdout := announce, files := fs,
      stderr := failureLine (Fault.ofIo [Layer.text e.message]).fullMessage }
  | .ok bytes =>
  let u : Uploader UploadWorld :=
    { api := client.engine, transport, policies := s.retry, sparse := s.upload.sparse,
      run := UploadWorld.runLens }
  let src := ImageSource.chunked bytes 8192
  let o : UploadOptions := ⟨0, .full⟩
  let start := match target with
    | .newDisk sd _ sparse => u.startNew ⟨sd, aliasName, bytes.size, sparse⟩ src o
    | .existing d => u.startExisting d bytes.size src o
  let w0 : World UploadWorld := { World.start .work (default : UploadWorld) with tokens := #[{}] }
  let (started, w1) := Timed.run start w0
  let finishWith (w : World UploadWorld) (code : Nat) (out err : String) : Outcome :=
    { exitCode := code, stdout := announce ++ out, stderr := logText v w.log.toList ++ err,
      files := fs }
  match started with
  | .error i => finishWith w1 1 "" (failureLine (interruptText i))
  | .ok (.error f) => finishWith w1 1 "" (failureLine f.fullMessage)
  | .ok (.ok ()) =>
    let (ran, w2) := Timed.run u.runTask w1
    match ran with
    | .error i => finishWith w2 1 "" (failureLine (interruptText i))
    | .ok () =>
      let session := w2.state.run.session
      match session.outcome with
      | .error f => finishWith w2 1 "" (failureLine s!"upload of {file} failed: {f.fullMessage}")
      | .ok _ =>
        let row := [session.diskId.getD "", session.aliasName, session.image.format.name,
          Number.byteSize session.image.logicalSize, Number.byteSize session.uploaded,
          session.correlation.text]
        finishWith w2 0 ("✓ Upload complete\n" ++ printRows format summaryColumns [row]) ""

def execute (fs : FileSystem) (s : Settings) (levels : List Matched) (format : String)
    (v : Verbosity) : Outcome :=
  match levels.getLast? with
  | none => failed fs "no command"
  | some leaf =>
    match levels.map (·.command.name) with
    | [_, "upload"] => uploadImage fs s leaf format v
    | [_, "inspect"] => inspectImage fs ((leaf.value? "file").getD "") format
    | [_, "config", "show"] => showSettings fs s format
    | [_, "config", "path"] => showSettingsPath fs
    | [_, "config", "init"] => writeDefaultSettings fs (leaf.flag "force")
    | _ => failed fs "no command"

def run (inv : Invocation) : Outcome :=
  let fs := inv.files
  match readCommandLine toolCommand inv.args inv.env with
  | .error (.help page) => { exitCode := 0, stdout := page, files := fs }
  | .error (.version text) => { exitCode := 0, stdout := text, files := fs }
  | .error (.helpInstead page) => { exitCode := 2, stderr := page, files := fs }
  | .error (.mistake m) => { exitCode := 2, stderr := m.message, files := fs }
  | .ok levels =>
    let top := levels.headD ⟨toolCommand, toolCommand.name, []⟩
    let v := if top.flag "verbose" then Verbosity.verbose
      else if top.flag "quiet" then .quiet else .normal
    let format := (top.value? "format").getD "table"
    match fs.loadSettings with
    | .error f => { exitCode := 1, stderr := failureReport f, files := fs }
    | .ok s =>
      let loaded :=
        if v.shows .debug then
          logLine .debug toolTarget "configuration loaded" [("engine", .shown s.engine.url)] ++ "\n"
        else ""
      let out := execute fs s levels format v
      { out with stderr := loaded ++ out.stderr }

theorem failed_exitCode (fs : FileSystem) (message : String) : (failed fs message).exitCode = 1 :=
  rfl

end DiskUploader.Console
