import DiskUploader.Net.Url
import DiskUploader.Json.Basic
import DiskUploader.Timeline.Basic
import DiskUploader.Fault.Cause
import DiskUploader.Files.Basic
import DiskUploader.Config.Settings

/-!
# HTTP exchanges

A request names a method, a URL as the caller wrote it, query pairs, headers and a payload; a
response carries a status and a body text. Sending goes through the client's checks first: the
URL must be absolute, and it must name an HTTP scheme. The query pairs are then
form-encoded onto the URL and the request goes to a `Network`, which answers a response or
the failure of the exchange.

A failure of the client is a cause chain whose outermost layer is an HTTP failure: a request
that could not be built, or one that could not be sent because no connection could be made. On
an unreachable network every connection fails.

A status shows as its number and its canonical reason phrase.

A client may be told to trust a certificate authority from a PEM file besides the system's. The
file must be readable, which is a matter of the caller's arguments, and must hold a certificate,
which is a matter of TLS. Both are checked when the client is made, before any request.
-/

namespace DiskUploader

inductive Method where
  | get | post | put | delete | options
  deriving DecidableEq, Repr, Inhabited

def Method.name : Method → String
  | .get => "GET"
  | .post => "POST"
  | .put => "PUT"
  | .delete => "DELETE"
  | .options => "OPTIONS"

inductive Payload where
  | empty
  /-- Form fields, sent form-encoded. -/
  | form (fields : List (String × String))
  | json (value : Json)
  /-- A body streamed from a reader, with the bytes the reader yielded. -/
  | stream (data : ByteArray)
  deriving Inhabited

structure Request where
  method : Method
  url : String
  query : List (String × String) := []
  headers : List (String × String) := []
  payload : Payload := .empty
  deriving Inhabited

structure Response where
  status : Nat
  body : String
  deriving Inhabited

def reasonPhrase : Nat → Option String
  | 100 => "Continue" | 101 => "Switching Protocols" | 102 => "Processing"
  | 200 => "OK" | 201 => "Created" | 202 => "Accepted"
  | 203 => "Non Authoritative Information" | 204 => "No Content" | 205 => "Reset Content"
  | 206 => "Partial Content" | 207 => "Multi-Status" | 208 => "Already Reported"
  | 226 => "IM Used"
  | 300 => "Multiple Choices" | 301 => "Moved Permanently" | 302 => "Found"
  | 303 => "See Other" | 304 => "Not Modified" | 305 => "Use Proxy"
  | 307 => "Temporary Redirect" | 308 => "Permanent Redirect"
  | 400 => "Bad Request" | 401 => "Unauthorized" | 402 => "Payment Required"
  | 403 => "Forbidden" | 404 => "Not Found" | 405 => "Method Not Allowed"
  | 406 => "Not Acceptable" | 407 => "Proxy Authentication Required"
  | 408 => "Request Timeout" | 409 => "Conflict" | 410 => "Gone" | 411 => "Length Required"
  | 412 => "Precondition Failed" | 413 => "Payload Too Large" | 414 => "URI Too Long"
  | 415 => "Unsupported Media Type" | 416 => "Range Not Satisfiable"
  | 417 => "Expectation Failed" | 418 => "I'm a teapot" | 421 => "Misdirected Request"
  | 422 => "Unprocessable Entity" | 423 => "Locked" | 424 => "Failed Dependency"
  | 426 => "Upgrade Required" | 428 => "Precondition Required" | 429 => "Too Many Requests"
  | 431 => "Request Header Fields Too Large" | 451 => "Unavailable For Legal Reasons"
  | 500 => "Internal Server Error" | 501 => "Not Implemented" | 502 => "Bad Gateway"
  | 503 => "Service Unavailable" | 504 => "Gateway Timeout"
  | 505 => "HTTP Version Not Supported" | 506 => "Variant Also Negotiates"
  | 507 => "Insufficient Storage" | 508 => "Loop Detected" | 510 => "Not Extended"
  | 511 => "Network Authentication Required"
  | _ => none

def statusText (status : Nat) : String :=
  toString status ++ " " ++ (reasonPhrase status).getD "<unknown status code>"

def isSuccess (status : Nat) : Bool := 200 ≤ status && status < 300

/-- Form-encodes a text: letters, digits and `*-._` stay, a space becomes `+`, every other
byte is escaped. -/
def formEncode (s : String) : String :=
  String.join (s.toList.map fun c =>
    if c.isAlphanum || "*-._".contains c then String.singleton c
    else if c == ' ' then "+"
    else String.ofList (Url.escape c))

def formText (fields : List (String × String)) : String :=
  "&".intercalate (fields.map fun (k, v) => formEncode k ++ "=" ++ formEncode v)

def builderFailure (e : UrlError) : List Layer :=
  [.foreign (.http none false false) "builder error", Layer.text e.message]

def badSchemeFailure (url : Url) : List Layer :=
  [.foreign (.http none false false) s!"builder error for url ({url.text})",
    Layer.text "URL scheme is not allowed"]

def unreachableFailure (url : Url) : List Layer :=
  [.foreign (.http none false true) s!"error sending request for url ({url.text})",
    Layer.text "client error (Connect)", Layer.text "tcp connect error",
    Layer.text "Network is unreachable (os error 101)"]

/-- The chain of a request whose body failed while it was streamed: the body's own failure
under the client's. -/
def bodyFailure (url : Url) (e : List Layer) : List Layer :=
  [.foreign (.http none false false) s!"error sending request for url ({url.text})",
    Layer.text "client error (SendRequest)", Layer.text "error from user's Body stream"] ++ e

/-- What lies behind the client: it opens a connection to the host of a URL, over which a body
is then streamed, and it takes a checked request to its URL and answers a response or the
failure's chain. -/
structure Network (σ : Type) where
  connect : Url → Timed σ (Except (List Layer) Unit)
  exchange : Request → Url → Timed σ (Except (List Layer) Response)

def Network.unreachable {σ : Type} : Network σ :=
  ⟨fun url => return .error (unreachableFailure url), fun _ url => return .error (unreachableFailure url)⟩

/-- The URL a request goes to: its text read, its query pairs appended form-encoded. -/
def Request.target (r : Request) : Except (List Layer) Url :=
  match Url.parse r.url with
  | .error e => .error (builderFailure e)
  | .ok u =>
    if !u.hasHost then .error (badSchemeFailure u)
    else if r.query.isEmpty then .ok u
    else
      let extra := formText r.query
      .ok { u with query := some (match u.query with | some q => q ++ "&" ++ extra | none => extra) }

/-- The URL a request goes to once it passes the client's checks: only HTTP schemes go out. -/
def Request.checked (r : Request) : Except (List Layer) Url :=
  match r.target with
  | .error e => .error e
  | .ok u => if u.scheme == "http" || u.scheme == "https" then .ok u else .error (badSchemeFailure u)

/-- Sends a request: its URL is checked, and only HTTP schemes go to the network. -/
def Network.send {σ : Type} (n : Network σ) (r : Request) :
    Timed σ (Except (List Layer) Response) :=
  match r.checked with
  | .error e => return .error e
  | .ok u => n.exchange r u

def certificateHeaders : List String :=
  ["-----BEGIN CERTIFICATE-----", "-----BEGIN X509 CERTIFICATE-----",
    "-----BEGIN TRUSTED CERTIFICATE-----"]

def holdsCertificate (bytes : ByteArray) : Bool :=
  match String.fromUTF8? bytes with
  | some text => certificateHeaders.any fun h => (text.splitOn h).length > 1
  | none => false

def noCertificateFailure : List Layer :=
  [.foreign (.http none false false) "builder error",
    Layer.text "error:0480006C:PEM routines:get_name:no start line:crypto/pem/pem_lib.c:794:Expecting: CERTIFICATE"]

def EngineSettings.checkTrust (s : EngineSettings) (fs : FileSystem) : Except Fault Unit :=
  match s.caFile with
  | none => .ok ()
  | some path =>
    match fs.read path with
    | .error e => .error (Fault.wrap [Layer.text e.message] .badArgument s!"cannot read CA file {path}")
    | .ok bytes =>
      if holdsCertificate bytes then .ok ()
      else .error (Fault.wrap noCertificateFailure .tlsError s!"invalid CA certificate in {path}")

theorem EngineSettings.checkTrust_none (s : EngineSettings) (fs : FileSystem)
    (h : s.caFile = none) : s.checkTrust fs = .ok () := by
  simp [EngineSettings.checkTrust, h]

end DiskUploader
