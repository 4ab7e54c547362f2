import DiskUploader.Config.Settings
import DiskUploader.Yaml.Emit
import DiskUploader.Json.Basic

/-!
# Writing settings

Settings are written as the mapping a settings file holds, every field in the order of its
structure, an absent value as `null`. Text values are written so that they read back as the
same text. As JSON they are an object with the same keys in the same order.
-/

namespace DiskUploader

open Yaml

def textEntry (k v : String) : List Emit := [.scalar k (textStyle k), .scalar v (textStyle v)]

/-- A key and a value written as it is: a number, a boolean or `null`. -/
def plainEntry (k v : String) : List Emit := [.scalar k (textStyle k), .scalar v .plain]

def numberEntry (k : String) (v : Option Nat) : List Emit :=
  plainEntry k (match v with | some n => toString n | none => "null")

def mappingEntry (k : String) (body : List Emit) : List Emit :=
  .scalar k (textStyle k) :: .mappingStart :: body ++ [.mappingEnd]

def RetryPolicy.events (p : RetryPolicy) : List Emit :=
  numberEntry "max_attempts" p.maxAttempts ++ numberEntry "base_delay_ms" p.baseDelayMs ++
  numberEntry "fixed_delay_ms" p.fixedDelayMs ++ numberEntry "timeout_secs" p.timeoutSecs

def Settings.events (s : Settings) : List Emit :=
  let e := s.engine
  let r := s.retry
  [.mappingStart] ++
  textEntry "version" s.version ++
  mappingEntry "engine" (
    textEntry "url" e.url ++ textEntry "username" e.username ++
    plainEntry "insecure" (toString e.insecure) ++
    (match e.caFile with
      | some f => textEntry "ca_file" f
      | none => plainEntry "ca_file" "null") ++
    numberEntry "request_timeout_secs" (some e.requestTimeoutSecs)) ++
  mappingEntry "retry" (
    mappingEntry "read" r.read.events ++ mappingEntry "write" r.write.events ++
    mappingEntry "pending" r.pending.events ++ mappingEntry "probe" r.probe.events) ++
  mappingEntry "upload" (
    plainEntry "sparse" (toString s.upload.sparse) ++
    textEntry "cancel_scope" s.upload.cancelScope.name) ++
  [.mappingEnd]

def Settings.toYaml (s : Settings) : String := emitDocument s.events

def RetryPolicy.toJson (p : RetryPolicy) : Json :=
  .obj [("max_attempts", Json.opt Json.nat p.maxAttempts),
    ("base_delay_ms", Json.opt Json.nat p.baseDelayMs),
    ("fixed_delay_ms", Json.opt Json.nat p.fixedDelayMs),
    ("timeout_secs", Json.opt Json.nat p.timeoutSecs)]

def Settings.toJson (s : Settings) : Json :=
  let e := s.engine
  .obj [("version", .str s.version),
    ("engine", .obj [("url", .str e.url), ("username", .str e.username), ("insecure", .bool e.insecure),
      ("ca_file", Json.opt Json.str e.caFile), ("request_timeout_secs", Json.nat e.requestTimeoutSecs)]),
    ("retry", .obj [("read", s.retry.read.toJson), ("write", s.retry.write.toJson),
      ("pending", s.retry.pending.toJson), ("probe", s.retry.probe.toJson)]),
    ("upload", .obj [("sparse", .bool s.upload.sparse), ("cancel_scope", .str s.upload.cancelScope.name)])]

theorem RetryPolicy.toJson_keys (p : RetryPolicy) :
    (match p.toJson with | .obj fs => fs.map (·.1) | _ => []) =
      ["max_attempts", "base_delay_ms", "fixed_delay_ms", "timeout_secs"] := rfl

end DiskUploader
