/-!
# URLs

Absolute URLs as an HTTP client reads them, by the rules of the WHATWG URL standard. Leading and
trailing blanks and controls are dropped and tabs and line breaks removed; then come the scheme,
for the special schemes (`http`, `https`, `ws`, `wss`, `ftp`, `file`) an authority of user
information, host and port, and last the path, query and fragment, each percent-encoded with its
own set of characters.

A host is a domain, an IPv4 address or a bracketed IPv6 address. A domain is lower-cased, may
not hold a forbidden character, and a label beyond ASCII is written in Punycode. A domain whose
last label is a number is read as an IPv4 address in the standard's loose syntax. A special
scheme's default port is dropped. In the path the segments `.` and `..` are resolved.

A text that is not an absolute URL is refused with the reason the standard gives.
-/

namespace DiskUploader

/-- Why a text is not an absolute URL. -/
inductive UrlError where
  | emptyHost
  | idna
  | invalidPort
  | invalidIpv4
  | invalidIpv6
  | invalidDomainCharacter
  | relativeWithoutBase
  deriving DecidableEq, Repr, Inhabited

def UrlError.message : UrlError → String
  | emptyHost => "empty host"
  | idna => "invalid international domain name"
  | invalidPort => "invalid port number"
  | invalidIpv4 => "invalid IPv4 address"
  | invalidIpv6 => "invalid IPv6 address"
  | invalidDomainCharacter => "invalid domain character"
  | relativeWithoutBase => "relative URL without a base"

inductive Host where
  /-- A domain, or the host of a non-special URL, as written out. -/
  | domain (name : String)
  | ipv4 (address : Nat)
  /-- Eight pieces of sixteen bits. -/
  | ipv6 (pieces : List Nat)
  deriving DecidableEq, Repr, Inhabited

/-- An absolute URL, each part already percent-encoded. -/
structure Url where
  scheme : String
  username : String := ""
  password : String := ""
  host : Option Host := none
  port : Option Nat := none
  path : String
  query : Option String := none
  fragment : Option String := none
  deriving DecidableEq, Repr, Inhabited

namespace Url

def upperHex (n : Nat) : Char :=
  if n < 10 then Char.ofNat (48 + n) else Char.ofNat (55 + n)

def utf8 (c : Char) : List UInt8 := (String.singleton c).toUTF8.toList

def escape (c : Char) : List Char :=
  (utf8 c).flatMap fun b => ['%', upperHex (b.toNat / 16), upperHex (b.toNat % 16)]

def controlSet (c : Char) : Bool := c.toNat < 0x20 || c.toNat ≥ 0x7F

def fragmentSet (c : Char) : Bool := controlSet c || " \"<>`".contains c

def pathSet (c : Char) : Bool := fragmentSet c || "#?".contains c || c == '\x7b' || c == '\x7d'

def userinfoSet (c : Char) : Bool := pathSet c || "/:;=@[\\]^|".contains c

/-- Escaped in a query; a special scheme's query also escapes the apostrophe. -/
def querySet (special : Bool) (c : Char) : Bool :=
  controlSet c || " \"#<>".contains c || (special && c == '\'')

def encode (set : Char → Bool) (cs : List Char) : String :=
  String.ofList (cs.flatMap fun c => if set c then escape c else [c])

def forbiddenHost (c : Char) : Bool :=
  c.toNat == 0 || "\t\n\r #/:<>?@[\\]^|".contains c

def forbiddenDomain (c : Char) : Bool :=
  forbiddenHost c || c.toNat ≤ 0x1F || c == '%' || c.toNat == 0x7F

def isSpecial (scheme : String) : Bool :=
  ["http", "https", "ws", "wss", "ftp", "file"].contains scheme

def defaultPort : String → Option Nat
  | "http" | "ws" => some 80
  | "https" | "wss" => some 443
  | "ftp" => some 21
  | _ => none

/-- The text without leading and trailing blanks and controls, and without tabs and line
breaks. -/
def clean (s : String) : List Char :=
  let cs := s.toList.dropWhile (·.toNat ≤ 0x20)
  let cs := (cs.reverse.dropWhile (·.toNat ≤ 0x20)).reverse
  cs.filter fun c => c != '\t' && c != '\n' && c != '\r'

def splitScheme : List Char → Option (String × List Char)
  | c :: rest =>
    if c.isAlpha then
      match rest.span fun d => d.isAlphanum || d == '+' || d == '-' || d == '.' with
      | (s, ':' :: after) => some (String.ofList ((c :: s).map Char.toLower), after)
      | _ => none
    else none
  | [] => none

def digitIn (radix : Nat) (c : Char) : Option Nat :=
  let v := if c.isDigit then some (c.toNat - 48)
    else if 'a' ≤ c && c ≤ 'f' then some (c.toNat - 87)
    else if 'A' ≤ c && c ≤ 'F' then some (c.toNat - 55)
    else none
  v.bind fun d => if d < radix then some d else none

/-- The number written by digits of a radix; none if a character is not such a digit. -/
def readRadix (radix : Nat) (cs : List Char) : Option Nat :=
  cs.foldl (fun acc c => acc.bind fun n => (digitIn radix c).map (n * radix + ·)) (some 0)

/-- A part of a loose IPv4 address: decimal, octal after a leading zero, hexadecimal after
`0x`. -/
def ipv4Number : List Char → Option Nat
  | [] => none
  | '0' :: x :: rest =>
    if x == 'x' || x == 'X' then readRadix 16 rest else readRadix 8 (x :: rest)
  | cs => readRadix 10 cs

def endsInNumber (domain : List Char) : Bool :=
  let parts := domain.splitOn '.'
  let parts := if parts.getLast? == some [] && parts.length > 1 then parts.dropLast else parts
  match parts.getLast? with
  | some last =>
    (!last.isEmpty && last.all Char.isDigit) ||
      (match last with
       | '0' :: x :: hex => (x == 'x' || x == 'X') && hex.all fun c => (digitIn 16 c).isSome
       | _ => false)
  | none => false

/-- Reads a loose IPv4 address: up to four parts, every part but the last below 256, the last
filling the bytes that remain. -/
def parseIpv4 (domain : List Char) : Except UrlError Nat := do
  let parts := domain.splitOn '.'
  let parts := if parts.getLast? == some [] && parts.length > 1 then parts.dropLast else parts
  if parts.length > 4 then throw .invalidIpv4
  let nums ← parts.mapM fun p => match ipv4Number p with
    | some n => pure n
    | none => throw UrlError.invalidIpv4
  let front := nums.dropLast
  let last := nums.getLastD 0
  if front.any (· > 255) then throw .invalidIpv4
  if last ≥ Nat.pow 256 (5 - nums.length) then throw .invalidIpv4
  return front.zipIdx.foldl (fun acc (n, i) => acc + n * Nat.pow 256 (3 - i)) last

def ipv4Text (a : Nat) : String :=
  s!"{a / Nat.pow 2 24 % 256}.{a / Nat.pow 2 16 % 256}.{a / Nat.pow 2 8 % 256}.{a % 256}"

def ipv6Tail (cs : List Char) : Option (Nat × Nat) := do
  let parts := cs.splitOn '.'
  if parts.length != 4 then none
  let bytes ← parts.mapM fun p =>
    match p with
    | [] => none
    | '0' :: _ :: _ => none
    | _ => (readRadix 10 p).bind fun n => if n ≤ 255 then some n else none
  match bytes with
  | [a, b, c, d] => some (a * 256 + b, c * 256 + d)
  | _ => none

/-- Reads the pieces of an IPv6 address: hexadecimal groups of at most four digits separated by
colons, one `::` compressing a run of zeros, and possibly a dotted IPv4 tail of two pieces.
Answers the pieces in order and how many stand before the compression; the compression takes a
slot of its own, so at most seven pieces go with it. `fuel` bounds the groups. -/
def ipv6Groups : Nat → List Char → List Nat → Option Nat → Option (List Nat × Option Nat)
  | 0, _, _, _ => none
  | _, [], acc, compress => some (acc, compress)
  | fuel + 1, cs, acc, compress => do
    let used := acc.length + (if compress.isSome then 1 else 0)
    if used == 8 then none
    match cs with
    | ':' :: rest =>
      if compress.isSome then none
      ipv6Groups fuel rest acc (some acc.length)
    | _ =>
      let (group, rest) := cs.span fun c => (digitIn 16 c).isSome
      let (group, rest) := (group.take 4, group.drop 4 ++ rest)
      match rest with
      | '.' :: _ =>
        if group.isEmpty || used > 6 then none
        let (hi, lo) ← ipv6Tail cs
        some (acc ++ [hi, lo], compress)
      | ':' :: [] => none
      | ':' :: after =>
        let v ← readRadix 16 group
        ipv6Groups fuel after (acc ++ [v]) compress
      | [] => some (acc ++ [← readRadix 16 group], compress)
      | _ => none

def parseIpv6 (cs : List Char) : Except UrlError (List Nat) :=
  let start := match cs with
    | ':' :: ':' :: rest => some (rest, some 0)
    | ':' :: _ => none
    | _ => some (cs, none)
  match start.bind fun (rest, c) => ipv6Groups (cs.length + 1) rest [] c with
  | some (pieces, none) => if pieces.length == 8 then .ok pieces else .error .invalidIpv6
  | some (pieces, some pos) =>
    .ok (pieces.take pos ++ List.replicate (8 - pieces.length) 0 ++ pieces.drop pos)
  | none => .error .invalidIpv6

def pieceText (n : Nat) : String :=
  let rec digits : Nat → Nat → List Char → List Char
    | 0, _, acc => acc
    | fuel + 1, m, acc =>
      let acc := (if m % 16 < 10 then Char.ofNat (48 + m % 16) else Char.ofNat (87 + m % 16)) :: acc
      if m < 16 then acc else digits fuel (m / 16) acc
  String.ofList (digits 5 n [])

def zeroRun (pieces : List Nat) : Option (Nat × Nat) :=
  let runs := (List.range pieces.length).filterMap fun i =>
    if pieces.getD i 1 == 0 && (i == 0 || pieces.getD (i - 1) 1 != 0) then
      some (i, ((pieces.drop i).takeWhile (· == 0)).length)
    else none
  runs.foldl (fun best (i, n) => if n ≥ 2 && best.all (·.2 < n) then some (i, n) else best) none

/-- The text of an IPv6 address, the first longest run of zeros written `::`. -/
def ipv6Text (pieces : List Nat) : String :=
  let join (ps : List Nat) := ":".intercalate (ps.map pieceText)
  match zeroRun pieces with
  | some (i, n) => join (pieces.take i) ++ "::" ++ join (pieces.drop (i + n))
  | none => join pieces

def lowerChar (c : Char) : Char :=
  if ('A' ≤ c && c ≤ 'Z') || (0xC0 ≤ c.toNat && c.toNat ≤ 0xDE && c.toNat != 0xD7) then
    Char.ofNat (c.toNat + 32)
  else c

def punyDigit (d : Nat) : Char :=
  if d < 26 then Char.ofNat (97 + d) else Char.ofNat (22 + d)

def punyThreshold (k bias : Nat) : Nat :=
  if k ≤ bias then 1 else if k ≥ bias + 26 then 26 else k - bias

/-- The digits of a delta, least significant first; `fuel` bounds the digits. -/
def punyDelta (bias : Nat) : Nat → Nat → Nat → List Char
  | 0, _, q => [punyDigit (q % 36)]
  | fuel + 1, k, q =>
    let t := punyThreshold k bias
    if q < t then [punyDigit q]
    else punyDigit (t + (q - t) % (36 - t)) :: punyDelta bias fuel (k + 36) ((q - t) / (36 - t))

def punyAdapt (delta points : Nat) (first : Bool) : Nat :=
  let d := if first then delta / 700 else delta / 2
  let d := d + d / points
  let rec shrink : Nat → Nat → Nat → Nat × Nat
    | 0, d, k => (d, k)
    | fuel + 1, d, k => if d > 455 then shrink fuel (d / 35) (k + 36) else (d, k)
  let (d, k) := shrink 64 d 0
  k + 36 * d / (d + 38)

def punycode (label : List Char) : String :=
  let codes := label.map Char.toNat
  let basic := label.filter (·.toNat < 128)
  let b := basic.length
  let targets := ((codes.filter (· ≥ 128)).mergeSort (· ≤ ·)).eraseDups
  let step := fun (st : List Char × Nat × Nat × Nat × Nat) (m : Nat) =>
    let (out, n, delta, bias, h) := st
    let delta := delta + (m - n) * (h + 1)
    let (out, delta, bias, h) := codes.foldl (fun (out, delta, bias, h) c =>
      if c < m then (out, delta + 1, bias, h)
      else if c == m then
        (out ++ punyDelta bias 64 36 delta, 0, punyAdapt delta (h + 1) (h == b), h + 1)
      else (out, delta, bias, h)) (out, delta, bias, h)
    (out, m + 1, delta + 1, bias, h)
  let (out, _) := targets.foldl step ([], 128, 0, 72, b)
  String.ofList (basic ++ (if b > 0 then ['-'] else []) ++ out)

/-- A domain in ASCII: lower-cased, labels beyond ASCII in Punycode. -/
def domainToAscii (domain : List Char) : Except UrlError String := do
  if domain.any forbiddenDomain then throw .idna
  let labels := (domain.map lowerChar).splitOn '.'
  let labels := labels.map fun l =>
    if l.all (·.toNat < 128) then String.ofList l else "xn--" ++ punycode l
  return ".".intercalate labels

def percentDecode : List Char → List UInt8
  | '%' :: a :: b :: rest =>
    match digitIn 16 a, digitIn 16 b with
    | some x, some y => (x * 16 + y).toUInt8 :: percentDecode rest
    | _, _ => utf8 '%' ++ percentDecode (a :: b :: rest)
  | c :: rest => utf8 c ++ percentDecode rest
  | [] => []

def parseHost (cs : List Char) : Except UrlError Host := do
  if cs.head? == some '[' then
    if cs.getLast? != some ']' then throw .invalidIpv6
    return .ipv6 (← parseIpv6 ((cs.drop 1).dropLast))
  let decoded ← match String.fromUTF8? (ByteArray.mk (percentDecode cs).toArray) with
    | some s => pure s.toList
    | none => throw UrlError.idna
  let domain ← domainToAscii decoded
  if domain.isEmpty then throw .emptyHost
  if endsInNumber domain.toList then return .ipv4 (← parseIpv4 domain.toList)
  return .domain domain

/-- Reads the host of a non-special URL: kept as written, controls escaped. -/
def parseOpaqueHost (cs : List Char) : Except UrlError Host := do
  if cs.head? == some '[' then
    if cs.getLast? != some ']' then throw .invalidIpv6
    return .ipv6 (← parseIpv6 ((cs.drop 1).dropLast))
  if cs.any forbiddenHost then throw .invalidDomainCharacter
  return .domain (encode controlSet cs)

def hostText : Host → String
  | .domain d => d
  | .ipv4 a => ipv4Text a
  | .ipv6 ps => "[" ++ ipv6Text ps ++ "]"

def isSingleDot (s : String) : Bool := s == "." || s.toLower == "%2e"

def isDoubleDot (s : String) : Bool :=
  ["..", ".%2e", "%2e.", "%2e%2e"].contains s.toLower

/-- Resolves the segments of a path: `.` is dropped and `..` drops the segment before it; either
one at the end leaves an empty last segment. -/
def resolveSegments : List String → List String → List String
  | [], acc => acc.reverse
  | [s], acc =>
    if isDoubleDot s then ("" :: acc.drop 1).reverse
    else if isSingleDot s then ("" :: acc).reverse
    else (s :: acc).reverse
  | s :: rest, acc =>
    if isDoubleDot s then resolveSegments rest (acc.drop 1)
    else if isSingleDot s then resolveSegments rest acc
    else resolveSegments rest (s :: acc)

/-- The path of a hierarchical URL: one leading separator dropped, the rest split at separators
(also backslashes for a special scheme), each segment escaped, dots resolved. -/
def parsePath (special : Bool) (cs : List Char) : String :=
  let sep := fun c => c == '/' || (special && c == '\\')
  let cs := match cs with
    | c :: rest => if sep c then rest else cs
    | [] => []
  let segments := (cs.splitOnP sep).map (encode pathSet)
  String.join ((resolveSegments segments []).map ("/" ++ ·))

def splitTail (special : Bool) (cs : List Char) : List Char × Option String × Option String :=
  let (before, fragment) := match cs.span (· != '#') with
    | (b, '#' :: f) => (b, some (encode fragmentSet f))
    | (b, _) => (b, none)
  match before.span (· != '?') with
  | (p, '?' :: q) => (p, some (encode (querySet special) q), fragment)
  | (p, _) => (p, none, fragment)

def splitUserinfo (auth : List Char) : Option (List Char) × List Char :=
  match auth.reverse.span (· != '@') with
  | (revHost, '@' :: revUser) => (some revUser.reverse, revHost.reverse)
  | _ => (none, auth)

def splitPort : List Char → Bool → List Char → List Char × Option (List Char)
  | [], _, acc => (acc.reverse, none)
  | c :: rest, inside, acc =>
    if c == ':' && !inside then (acc.reverse, some rest)
    else splitPort rest (if c == '[' then true else if c == ']' then false else inside) (c :: acc)

/-- Reads a port: digits up to 65535; the scheme's default port is dropped. -/
def parsePort (scheme : String) : Option (List Char) → Except UrlError (Option Nat)
  | none | some [] => .ok none
  | some cs =>
    if !cs.all Char.isDigit then .error .invalidPort
    else match readRadix 10 cs with
      | some n =>
        if n > 65535 then .error .invalidPort
        else if defaultPort scheme == some n then .ok none else .ok (some n)
      | none => .error .invalidPort

def parseAuthority (scheme : String) (auth : List Char) :
    Except UrlError (String × String × Option Host × Option Nat) := do
  let special := isSpecial scheme
  let (info, hostPort) := splitUserinfo auth
  let (user, pass) := match info with
    | some i => match i.span (· != ':') with
      | (u, ':' :: p) => (encode userinfoSet u, encode userinfoSet p)
      | (u, _) => (encode userinfoSet u, "")
    | none => ("", "")
  let (hostText, portText) := splitPort hostPort false []
  if hostText.isEmpty then
    if special then throw .emptyHost
    return (user, pass, some (.domain ""), ← parsePort scheme portText)
  let host ← if special then parseHost hostText else parseOpaqueHost hostText
  return (user, pass, some host, ← parsePort scheme portText)

def parse (s : String) : Except UrlError Url := do
  let some (scheme, rest) := splitScheme (clean s) | throw .relativeWithoutBase
  let special := isSpecial scheme
  let isSep := fun c => c == '/' || (special && c == '\\')
  if scheme == "file" then
    let (host, rest) := match rest with
      | a :: b :: r => if isSep a && isSep b then
          let (h, r) := r.span fun c => !(isSep c || c == '?' || c == '#')
          (h, r)
        else ([], rest)
      | _ => ([], rest)
    let h ← if host.isEmpty then pure (Host.domain "") else parseHost host
    let h := if h == .domain "localhost" then .domain "" else h
    let (p, query, fragment) := splitTail special rest
    return { scheme, host := some h, path := parsePath true p, query, fragment }
  if special then
    let rest := rest.dropWhile isSep
    let (auth, rest) := rest.span fun c => !(isSep c || c == '?' || c == '#')
    let (username, password, host, port) ← parseAuthority scheme auth
    let (p, query, fragment) := splitTail special rest
    return { scheme, username, password, host, port, path := parsePath true p, query, fragment }
  match rest with
  | '/' :: '/' :: r =>
    let (auth, rest) := r.span fun c => !(c == '/' || c == '?' || c == '#')
    let (username, password, host, port) ← parseAuthority scheme auth
    let (p, query, fragment) := splitTail false rest
    let path := if p.isEmpty then "" else parsePath false p
    return { scheme, username, password, host, port, path, query, fragment }
  | _ =>
    let (p, query, fragment) := splitTail false rest
    let path := if p.head? == some '/' then parsePath false p else encode controlSet p
    return { scheme, path, query, fragment }

def text (u : Url) : String :=
  let info := if u.username.isEmpty && u.password.isEmpty then ""
    else u.username ++ (if u.password.isEmpty then "" else ":" ++ u.password) ++ "@"
  let authority := match u.host with
    | some h => "//" ++ info ++ hostText h ++ (match u.port with | some p => s!":{p}" | none => "")
    | none => ""
  let query := match u.query with | some q => "?" ++ q | none => ""
  let fragment := match u.fragment with | some f => "#" ++ f | none => ""
  u.scheme ++ ":" ++ authority ++ u.path ++ query ++ fragment

def hasHost (u : Url) : Bool := u.host.isSome

end Url

theorem Url.parse_of_no_scheme (s : String) (h : Url.splitScheme (Url.clean s) = none) :
    Url.parse s = .error .relativeWithoutBase := by
  simp [Url.parse, h]
  rfl

end DiskUploader
