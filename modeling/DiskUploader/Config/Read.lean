import DiskUploader.Config.Settings
import DiskUploader.Yaml.Decode
import DiskUploader.Fault.Basic
import DiskUploader.Config.Write
import DiskUploader.Files.Basic

/-!
# Reading settings from YAML

A settings file is a mapping with the keys `version`, `engine`, `retry` and `upload`, each
required. The engine needs `url`, `username`, `insecure` and `request_timeout_secs`, and may
give `ca_file`; the retry defaults need all four policies; a policy may give any of
`max_attempts` (32 bits), `base_delay_ms`, `fixed_delay_ms` and `timeout_secs` (64 bits); the
upload section needs `sparse` and `cancel_scope`, which is `initialization` or `full`.

A file that cannot be read this way is a bad argument, "invalid configuration file", caused by
the reader's message.

The settings live in `.ovirtkit/config.yaml` under the home directory. Loading reads that file
when it exists and gives the default settings when it does not; a file that cannot be read is an
I/O error, and one that is not valid UTF-8 reads as invalid data. Saving creates the directory
with its parents and writes the settings as YAML.
-/

namespace DiskUploader

open Yaml

def RetryPolicy.decode (path : Path) : Decode RetryPolicy :=
  Decode.struct "RetryPolicy" ["max_attempts", "base_delay_ms", "fixed_delay_ms", "timeout_secs"]
    ({} : RetryPolicy)
    (fun name path p => do
      match name with
      | "max_attempts" => return { p with maxAttempts := ← Decode.option (Decode.natural 32) path }
      | "base_delay_ms" => return { p with baseDelayMs := ← Decode.option (Decode.natural 64) path }
      | "fixed_delay_ms" =>
        return { p with fixedDelayMs := ← Decode.option (Decode.natural 64) path }
      | "timeout_secs" => return { p with timeoutSecs := ← Decode.option (Decode.natural 64) path }
      | _ => return p)
    .ok path

structure RetryDraft where
  read : Option RetryPolicy := none
  write : Option RetryPolicy := none
  pending : Option RetryPolicy := none
  probe : Option RetryPolicy := none

def RetryDefaults.decode (path : Path) : Decode RetryDefaults :=
  Decode.struct "RetryDefaults" ["read", "write", "pending", "probe"] ({} : RetryDraft)
    (fun name path d => do
      match name with
      | "read" => return { d with read := some (← RetryPolicy.decode path) }
      | "write" => return { d with write := some (← RetryPolicy.decode path) }
      | "pending" => return { d with pending := some (← RetryPolicy.decode path) }
      | "probe" => return { d with probe := some (← RetryPolicy.decode path) }
      | _ => return d)
    (fun d => do
      let read ← Decode.required "read" d.read
      let write ← Decode.required "write" d.write
      let pending ← Decode.required "pending" d.pending
      let probe ← Decode.required "probe" d.probe
      return { read, write, pending, probe })
    path

structure EngineDraft where
  url : Option String := none
  username : Option String := none
  insecure : Option Bool := none
  caFile : Option String := none
  requestTimeoutSecs : Option Nat := none

def EngineSettings.decode (path : Path) : Decode EngineSettings :=
  Decode.struct "EngineConfig"
    ["url", "username", "insecure", "ca_file", "request_timeout_secs"] ({} : EngineDraft)
    (fun name path d => do
      match name with
      | "url" => return { d with url := some (← Decode.text "a string" path) }
      | "username" => return { d with username := some (← Decode.text "a string" path) }
      | "insecure" => return { d with insecure := some (← Decode.bool path) }
      | "ca_file" => return { d with caFile := ← Decode.option (Decode.text "path string") path }
      | "request_timeout_secs" =>
        return { d with requestTimeoutSecs := some (← Decode.natural 64 path) }
      | _ => return d)
    (fun d => do
      let url ← Decode.required "url" d.url
      let username ← Decode.required "username" d.username
      let insecure ← Decode.required "insecure" d.insecure
      let requestTimeoutSecs ← Decode.required "request_timeout_secs" d.requestTimeoutSecs
      return { url, username, insecure, caFile := d.caFile, requestTimeoutSecs })
    path

structure UploadDraft where
  sparse : Option Bool := none
  cancelScope : Option CancelScope := none

def UploadSettings.decode (path : Path) : Decode UploadSettings :=
  Decode.struct "UploadConfig" ["sparse", "cancel_scope"] ({} : UploadDraft)
    (fun name path d => do
      match name with
      | "sparse" => return { d with sparse := some (← Decode.bool path) }
      | "cancel_scope" =>
        return { d with
          cancelScope := some (← Decode.choice
            [("initialization", CancelScope.initialization), ("full", CancelScope.full)] path) }
      | _ => return d)
    (fun d => do
      let sparse ← Decode.required "sparse" d.sparse
      let cancelScope ← Decode.required "cancel_scope" d.cancelScope
      return { sparse, cancelScope })
    path

structure SettingsDraft where
  version : Option String := none
  engine : Option EngineSettings := none
  retry : Option RetryDefaults := none
  upload : Option UploadSettings := none

def Settings.decode (path : Path) : Decode Settings :=
  Decode.struct "Config" ["version", "engine", "retry", "upload"] ({} : SettingsDraft)
    (fun name path d => do
      match name with
      | "version" => return { d with version := some (← Decode.text "a string" path) }
      | "engine" => return { d with engine := some (← EngineSettings.decode path) }
      | "retry" => return { d with retry := some (← RetryDefaults.decode path) }
      | "upload" => return { d with upload := some (← UploadSettings.decode path) }
      | _ => return d)
    (fun d => do
      let version ← Decode.required "version" d.version
      let engine ← Decode.required "engine" d.engine
      let retry ← Decode.required "retry" d.retry
      let upload ← Decode.required "upload" d.upload
      return { version, engine, retry, upload })
    path

def Settings.ofYaml (text : String) : Except Fault Settings :=
  match decodeFirst text Settings.decode with
  | .ok s => .ok s
  | .error e => .error (Fault.wrap [Layer.text e.text] .badArgument "invalid configuration file")

def FileSystem.settingsPath (fs : FileSystem) : String := fs.home ++ "/.ovirtkit/config.yaml"

def invalidUtf8Message : String := "stream did not contain valid UTF-8"

def FileSystem.loadSettings (fs : FileSystem) : Except Fault Settings :=
  let path := fs.settingsPath
  if !fs.existsAt path then .ok Settings.standard
  else match fs.read path with
    | .error e => .error (Fault.ofIo [Layer.text e.message])
    | .ok bytes =>
      match String.fromUTF8? bytes with
      | some text => Settings.ofYaml text
      | none => .error (Fault.ofIo [Layer.text invalidUtf8Message])

def FileSystem.saveSettings (fs : FileSystem) (s : Settings) : Except Fault FileSystem := do
  let path := fs.settingsPath
  let io {α : Type} (r : Except OsError α) : Except Fault α :=
    r.mapError fun e => Fault.ofIo [Layer.text e.message]
  let fs ← io (fs.createDirAll (FileSystem.parent path))
  io (fs.write path s.toYaml.toUTF8)

theorem FileSystem.settingsPath_home (fs : FileSystem) :
    fs.settingsPath = fs.home ++ "/.ovirtkit/config.yaml" := rfl

end DiskUploader
