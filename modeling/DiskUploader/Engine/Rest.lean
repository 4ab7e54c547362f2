import DiskUploader.Engine.Api
import DiskUploader.Net.Http
import DiskUploader.Json.Read
import DiskUploader.Json.Print
import DiskUploader.Text.Basic

/-!
# The engine over its REST API

The engine answers JSON over HTTP. A client first obtains an access token from the engine's
single sign-on endpoint with the password grant, keeps it, and sends it with every API call. A
call answered with 401 drops the token and is sent once more with a fresh one.

An unsuccessful status becomes a fault whose message names the method, the path, the status and
the engine's explanation, and whose code follows the status: 401 and 403 deny access, 404 finds
nothing, 409 is a locked disk when the explanation says so and a conflict otherwise, other
client errors are permanent, and everything else is a connection problem worth retrying.

Answers are read leniently: sizes may be numbers or decimal text, an unknown format is raw,
optional fields may be missing, and only the identifiers and statuses that a caller cannot do
without are required.
-/

namespace DiskUploader

def Json.unexpected : Json → String
  | .null => "null"
  | .bool b => s!"boolean `{b}`"
  | .num (.nat n) => s!"integer `{n}`"
  | .num (.neg n) => s!"integer `-{n}`"
  | .num (.float _) => "floating point"
  | .str s => "string " ++ Json.quote s
  | .arr _ => "sequence"
  | .obj _ => "map"

/-- Reads a record of optional text fields named `fields`, from an object or from an array that
lists the fields in order; `name` is the record's name in messages. -/
def readTextRecord (name : String) (fields : List String) (text : String) :
    Except String (List (Option String)) := do
  let j ← match Json.read text with
    | .ok j => pure j
    | .error e => throw e.message
  let field := fun (v : Json) => match v with
    | .null => pure none
    | .str s => pure (some s)
    | v => throw s!"invalid type: {v.unexpected}, expected a string"
  match j with
  | .obj members =>
    for k in fields do
      if (members.filter (·.1 == k)).length > 1 then throw s!"duplicate field `{k}`"
    fields.mapM fun k => match members.lookup k with
      | some v => field v
      | none => pure none
  | .arr items =>
    if items.length < fields.length then
      throw s!"invalid length {items.length}, expected struct {name} with {fields.length} elements"
    if items.length > fields.length then throw "trailing characters"
    items.mapM field
  | v => throw s!"invalid type: {v.unexpected}, expected struct {name}"

def requiredText (v : Json) (field entity : String) : Except Fault String :=
  match v.get? field with
  | some (.str s) => .ok s
  | _ => .error (Fault.new .fieldMissing s!"{entity} response has no {field} field")

def optionalText (v : Json) (field : String) : Option String :=
  (v.get? field).bind Json.str?

def readSize (s : String) : Option Nat :=
  let ds := match s.toList with
    | '+' :: rest => rest
    | cs => cs
  if ds.isEmpty || !ds.all Char.isDigit then none
  else
    let n := ds.foldl (fun a c => a * 10 + (c.toNat - 48)) 0
    if n < Nat.pow 2 64 then some n else none

/-- A size field: a number or decimal text. -/
def sizeField (v : Json) (field : String) : Option Nat :=
  match v.get? field with
  | some (.str s) => readSize s
  | some (.num (.nat n)) => if n < Nat.pow 2 64 then some n else none
  | _ => none

def Disk.ofJson (v : Json) : Except Fault Disk := do
  let format := if optionalText v "format" == some "cow" then DiskFormat.cow else .raw
  let domains := match (v.get? "storage_domains").bind (·.get? "storage_domain") with
    | some (.arr ds) => ds.filterMap (optionalText · "id")
    | _ => []
  let id ← requiredText v "id" "disk"
  let aliasName := (optionalText v "alias").getD ""
  let status := DiskStatus.parse (← requiredText v "status" "disk")
  return { id, aliasName, status, format, provisionedSize := (sizeField v "provisioned_size").getD 0,
           totalSize := sizeField v "total_size", storageDomainIds := domains }

def Transfer.ofJson (v : Json) : Except Fault Transfer := do
  let id ← requiredText v "id" "image transfer"
  let disk := match (v.get? "disk").bind (·.get? "id") with
    | some d => some d
    | none => (v.get? "image").bind (·.get? "id")
  let diskId := (disk.bind Json.str?).getD ""
  let phase := TransferPhase.parse (← requiredText v "phase" "image transfer")
  return { id, diskId, phase, transferUrl := optionalText v "transfer_url",
           proxyUrl := optionalText v "proxy_url" }

def Job.ofJson (v : Json) : Except Fault Job := do
  let id ← requiredText v "id" "job"
  let description := (optionalText v "description").getD ""
  let status := JobStatus.parse (← requiredText v "status" "job")
  return { id, description, status }

/-- The fault of an unsuccessful status: `body` is the engine's explanation, read as its reason
and detail when it is such a record, else its first 200 characters. -/
def statusFault (status : Nat) (m : Method) (path body : String) : Fault :=
  let detail := match readTextRecord "Fault" ["reason", "detail"] body with
    | .ok [reason, detail] => (reason.getD "") ++ " " ++ (detail.getD "")
    | _ => String.ofList (body.toList.take 200)
  let code := match status with
    | 401 | 403 => Code.accessDenied
    | 404 => .notFound
    | 409 => if Text.mentions (Text.fold detail) "locked" then .diskLocked else .conflict
    | s => if 400 ≤ s && s ≤ 499 then .permanentHttpError else .connection
  Fault.new code s!"{m.name} {path} returned {statusText status}: {Text.trimBlank detail}"

/-- A client of the engine's REST API, over the state `σ` that keeps its token. -/
structure RestClient (σ : Type) where
  network : Network σ
  /-- The engine's address without trailing slashes. -/
  base : String
  username : String
  password : String
  token : Lens σ (Option String)

/-- A client for engine settings: the certificate authority is checked first. -/
def RestClient.connect {σ : Type} (s : EngineSettings) (fs : FileSystem) (password : String)
    (network : Network σ) (token : Lens σ (Option String)) : Except Fault (RestClient σ) := do
  s.checkTrust fs
  let base := String.ofList (s.url.toList.reverse.dropWhile (· == '/')).reverse
  return { network, base, username := s.username, password, token }

def requestFault (chain : List Layer) : Fault :=
  Fault.wrap chain .unidentified "engine request failed"

namespace RestClient

variable {σ : Type} (c : RestClient σ)

def ssoUrl : String := c.base ++ "/ovirt-engine/sso/oauth/token"

def apiUrl (path : String) : String := c.base ++ "/ovirt-engine/api" ++ path

def authenticate : Timed σ (Except Fault String) := do
  let req : Request :=
    { method := .post, url := c.ssoUrl, headers := [("Accept", "application/json")],
      payload := .form [("grant_type", "password"), ("scope", "ovirt-app-api"),
        ("username", c.username), ("password", c.password)] }
  match ← c.network.send req with
  | .error e => return .error (requestFault e)
  | .ok resp =>
    match readTextRecord "SsoResponse" ["access_token", "error", "error_description"] resp.body with
    | .error m => return .error (Fault.wrap [Layer.text m] .notAnEngine "non-array SSO response")
    | .ok fields =>
      let field := fun (i : Nat) => (fields.getD i none)
      if let some err := field 1 then
        let description := (field 2).getD ""
        return .error (Fault.new .accessDenied s!"authentication failed: {err} {description}")
      match field 0 with
      | none => return .error (Fault.new .notAnEngine "SSO response carries no access token")
      | some t =>
        Timed.emit { level := .info, source := .rest, message := "authenticated against engine",
                     fields := [("username", .shown c.username)] }
        Timed.modifyState (c.token.update fun _ => some t)
        return .ok t

def currentToken : Timed σ (Except Fault String) := do
  match c.token.view (← Timed.state) with
  | some t => return .ok t
  | none => c.authenticate

def exchange (m : Method) (path : String) (query : List (String × String)) (body : Option Json) :
    Timed σ (Except Fault Response) := do
  match ← c.currentToken with
  | .error f => return .error f
  | .ok t =>
    let req : Request :=
      { method := m, url := c.apiUrl path, query,
        headers := [("Authorization", "Bearer " ++ t), ("Accept", "application/json")],
        payload := match body with | some j => .json j | none => .empty }
    match ← c.network.send req with
    | .error e => return .error (requestFault e)
    | .ok r => return .ok r

/-- The outcome of an API call's response: its JSON, none for an empty body. -/
def outcome (m : Method) (path : String) (r : Response) : Except Fault (Option Json) :=
  if !isSuccess r.status then .error (statusFault r.status m path r.body)
  else if (Text.trimBlank r.body).isEmpty then .ok none
  else match Json.read r.body with
    | .ok j => .ok (some j)
    | .error e => .error (Fault.ofJson e.message)

/-- Sends an API call; a 401 drops the token and sends it once more. -/
def send (m : Method) (path : String) (query : List (String × String) := [])
    (body : Option Json := none) : Timed σ (Except Fault (Option Json)) := do
  match ← c.exchange m path query body with
  | .error f => return .error f
  | .ok r =>
    if r.status == 401 then
      Timed.modifyState (c.token.update fun _ => none)
      match ← c.exchange m path query body with
      | .error f => return .error f
      | .ok r => return outcome m path r
    return outcome m path r

def fetch (m : Method) (path : String) (query : List (String × String) := [])
    (body : Option Json := none) : Timed σ (Except Fault Json) := do
  match ← c.send m path query body with
  | .error f => return .error f
  | .ok (some j) => return .ok j
  | .ok none => return .error (Fault.new .fieldMissing s!"empty response body for {m.name} {path}")

def diskBody (p : DiskCreation) : Json :=
  .obj ([("alias", .str p.aliasName), ("format", .str p.format.name)] ++
    (p.initialSize.map fun n => ("initial_size", Json.str (toString n))).toList ++
    [("provisioned_size", .str (toString p.provisionedSize)), ("sparse", .bool p.sparse),
     ("storage_domains", .obj [("storage_domain", .arr [.obj [("id", .str p.storageDomainId)]])])])

def createDisk (p : DiskCreation) (corr : CorrelationId) : Timed σ (Except Fault Disk) := do
  return (← c.fetch .post "/disks" [("correlation_id", corr.text)] (some (diskBody p))).bind
    Disk.ofJson

def getDisk (id : String) : Timed σ (Except Fault Disk) := do
  return (← c.fetch .get s!"/disks/{id}").bind Disk.ofJson

def removeDisk (id : String) : Timed σ (Except Fault Unit) := do
  return (← c.send .delete s!"/disks/{id}").map fun _ => ()

def createTransfer (id : String) (dir : Direction) (corr : CorrelationId) :
    Timed σ (Except Fault Transfer) := do
  let body := Json.obj [("direction", .str dir.name), ("disk", .obj [("id", .str id)])]
  return (← c.fetch .post "/imagetransfers" [("correlation_id", corr.text)] (some body)).bind
    Transfer.ofJson

def getTransfer (id : String) : Timed σ (Except Fault Transfer) := do
  return (← c.fetch .get s!"/imagetransfers/{id}").bind Transfer.ofJson

def finalizeTransfer (id : String) (corr : CorrelationId) : Timed σ (Except Fault Unit) := do
  let r ← c.send .post s!"/imagetransfers/{id}/finalize" [("correlation_id", corr.text)]
    (some (.obj []))
  return r.map fun _ => ()

def cancelTransfer (id : String) : Timed σ (Except Fault Unit) := do
  return (← c.send .post s!"/imagetransfers/{id}/cancel" [] (some (.obj []))).map fun _ => ()

/-- Lists the jobs of a correlation id; an answer without a list of jobs has none. -/
def listJobs (corr : CorrelationId) : Timed σ (Except Fault (List Job)) := do
  match ← c.send .get "/jobs" [("search", s!"correlation_id={corr.text}")] with
  | .error f => return .error f
  | .ok v =>
    match v.bind (·.get? "job") with
    | some (.arr jobs) => return jobs.mapM Job.ofJson
    | _ => return .ok []

def engine : Engine σ :=
  { createDisk := c.createDisk, getDisk := c.getDisk, removeDisk := c.removeDisk,
    createTransfer := c.createTransfer, getTransfer := c.getTransfer,
    finalizeTransfer := c.finalizeTransfer, cancelTransfer := c.cancelTransfer,
    listJobs := c.listJobs, name := "rest" }

end RestClient

end DiskUploader
