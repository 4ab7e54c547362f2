import DiskUploader.Json.Basic

/-!
# Reading JSON

A strict reader: one value, surrounded only by spaces, tabs, carriage returns and line feeds.
Nesting deeper than 127 arrays or objects is refused.

A failure names what went wrong and where, as a line counted from one and a column counting the
bytes of that line up to the place. Two places are used: the end of what was consumed, and one
byte past it, the byte that was looked at but not taken. Which place an error gets, and which
error wins when the text has several problems, follows from the order in which the reader looks
at the text.

Integers that fit in 64 bits stay exact; other numbers become doubles, and one too large for a
double is refused.
-/

namespace DiskUploader.Json

inductive ReadErrorKind where
  | eofList | eofObject | eofString | eofValue
  | expectedColon | expectedListCommaOrEnd | expectedObjectCommaOrEnd
  | expectedIdent | expectedValue
  | invalidEscape | invalidNumber | numberOutOfRange | controlCharacter
  | keyMustBeString | loneLeadingSurrogate | unexpectedEndOfHexEscape
  | trailingComma | trailingCharacters | recursionLimit
  deriving DecidableEq, Repr, Inhabited

def ReadErrorKind.text : ReadErrorKind → String
  | .eofList => "EOF while parsing a list"
  | .eofObject => "EOF while parsing an object"
  | .eofString => "EOF while parsing a string"
  | .eofValue => "EOF while parsing a value"
  | .expectedColon => "expected `:`"
  | .expectedListCommaOrEnd => "expected `,` or `]`"
  | .expectedObjectCommaOrEnd => "expected `,` or `\x7d`"
  | .expectedIdent => "expected ident"
  | .expectedValue => "expected value"
  | .invalidEscape => "invalid escape"
  | .invalidNumber => "invalid number"
  | .numberOutOfRange => "number out of range"
  | .controlCharacter => "control character (\\u0000-\\u001F) found while parsing a string"
  | .keyMustBeString => "key must be a string"
  | .loneLeadingSurrogate => "lone leading surrogate in hex escape"
  | .unexpectedEndOfHexEscape => "unexpected end of hex escape"
  | .trailingComma => "trailing comma"
  | .trailingCharacters => "trailing characters"
  | .recursionLimit => "recursion limit exceeded"

structure ReadError where
  kind : ReadErrorKind
  line : Nat
  column : Nat
  deriving DecidableEq, Repr, Inhabited

def ReadError.message (e : ReadError) : String :=
  s!"{e.kind.text} at line {e.line} column {e.column}"

/-- The unread rest of a text and the place of what was consumed. -/
structure Cursor where
  rest : List Char
  line : Nat := 1
  column : Nat := 0

namespace Cursor

def advance (c : Cursor) : Cursor :=
  match c.rest with
  | [] => c
  | '\n' :: r => { rest := r, line := c.line + 1, column := 0 }
  | ch :: r => { rest := r, line := c.line, column := c.column + ch.utf8Size }

def here (c : Cursor) (k : ReadErrorKind) : ReadError := ⟨k, c.line, c.column⟩

def ahead (c : Cursor) (k : ReadErrorKind) : ReadError :=
  match c.rest with
  | [] => ⟨k, c.line, c.column⟩
  | '\n' :: _ => ⟨k, c.line + 1, 0⟩
  | _ :: _ => ⟨k, c.line, c.column + 1⟩

def skipBlank (c : Cursor) : Cursor :=
  match h : c.rest with
  | ch :: r =>
    if ch = ' ' || ch = '\n' || ch = '\t' || ch = '\r' then
      have : r.length < c.rest.length := by simp [h]
      skipBlank { c.advance with rest := r, line := c.advance.line, column := c.advance.column }
    else c
  | [] => c
termination_by c.rest.length

end Cursor

abbrev Reader := StateT Cursor (Except ReadError)

def failHere {α : Type} (k : ReadErrorKind) : Reader α := do throw ((← get).here k)

def failAhead {α : Type} (k : ReadErrorKind) : Reader α := do throw ((← get).ahead k)

def peek : Reader (Option Char) := return (← get).rest.head?

def eat : Reader Unit := modify Cursor.advance

def peekBlank : Reader (Option Char) := do
  modify Cursor.skipBlank
  peek

def next : Reader (Option Char) := do
  let c ← peek
  if c.isSome then eat
  return c

def hexValue (c : Char) : Option Nat :=
  if '0' ≤ c && c ≤ '9' then some (c.toNat - 48)
  else if 'a' ≤ c && c ≤ 'f' then some (c.toNat - 87)
  else if 'A' ≤ c && c ≤ 'F' then some (c.toNat - 55)
  else none

def hexEscape : Reader Nat := do
  let c ← get
  match c.rest with
  | a :: b :: d :: e :: _ =>
    eat; eat; eat; eat
    match hexValue a, hexValue b, hexValue d, hexValue e with
    | some w, some x, some y, some z => return ((w * 16 + x) * 16 + y) * 16 + z
    | _, _, _, _ => failHere .invalidEscape
  | _ =>
    set { c with rest := [], column := c.column + c.rest.foldl (fun n ch => n + Char.utf8Size ch) 0 }
    failHere .eofString

/-- The character of a `\u` escape, after the `u`; a leading surrogate must be followed by an
escaped trailing one. -/
def unicodeEscape : Reader Char := do
  let n ← hexEscape
  if 0xDC00 ≤ n && n ≤ 0xDFFF then failHere .loneLeadingSurrogate
  if n < 0xD800 || n > 0xDBFF then return Char.ofNat n
  match ← peek with
  | none => failHere .eofString
  | some '\\' => eat
  | some _ => eat; failHere .unexpectedEndOfHexEscape
  match ← peek with
  | none => failHere .eofString
  | some 'u' => eat
  | some _ => eat; failHere .unexpectedEndOfHexEscape
  let n2 ← hexEscape
  if n2 < 0xDC00 || n2 > 0xDFFF then failHere .loneLeadingSurrogate
  return Char.ofNat ((n - 0xD800) * 1024 + (n2 - 0xDC00) + 0x10000)

def escape : Reader Char := do
  match ← next with
  | none => failHere .eofString
  | some '"' => return '"'
  | some '\\' => return '\\'
  | some '/' => return '/'
  | some 'b' => return Char.ofNat 8
  | some 'f' => return Char.ofNat 12
  | some 'n' => return '\n'
  | some 'r' => return '\r'
  | some 't' => return '\t'
  | some 'u' => unicodeEscape
  | some _ => failHere .invalidEscape

/-- The rest of a string after its opening quote; `fuel` bounds the characters read. -/
def stringBody : Nat → List Char → Reader String
  | 0, _ => failHere .eofString
  | fuel + 1, acc => do
    match ← next with
    | none => failHere .eofString
    | some '"' => return String.ofList acc.reverse
    | some '\\' => stringBody fuel ((← escape) :: acc)
    | some ch =>
      if ch.val < 0x20 then failHere .controlCharacter
      else stringBody fuel (ch :: acc)

/-- A run of digits; answers them, most significant first. -/
def digitRun : Nat → List Nat → Reader (List Nat)
  | 0, acc => return acc.reverse
  | fuel + 1, acc => do
    match ← peek with
    | some c => if c.isDigit then do eat; digitRun fuel ((c.toNat - 48) :: acc) else return acc.reverse
    | none => return acc.reverse

def digitsValue (ds : List Nat) : Nat := ds.foldl (fun a d => a * 10 + d) 0

def number (positive : Bool) (fuel : Nat) : Reader JsonNumber := do
  let intDigits ← match ← next with
    | none => failHere .eofValue
    | some '0' =>
      match ← peek with
      | some c => if c.isDigit then failAhead .invalidNumber else pure [0]
      | none => pure [0]
    | some c =>
      if c.isDigit then do
        let more ← digitRun fuel []
        pure ((c.toNat - 48) :: more)
      else failHere .invalidNumber
  let mut mantissa := digitsValue intDigits
  let mut exp : Int := 0
  let mut isFloat := false
  if (← peek) == some '.' then
    eat
    let frac ← digitRun fuel []
    if frac.isEmpty then
      match ← peek with
      | some _ => failAhead .invalidNumber
      | none => failAhead .eofValue
    mantissa := digitsValue (intDigits ++ frac)
    exp := -(frac.length : Int)
    isFloat := true
  if (← peek) == some 'e' || (← peek) == some 'E' then
    eat
    let sign ← match ← peek with
      | some '+' => do eat; pure true
      | some '-' => do eat; pure false
      | _ => pure true
    match ← peek with
    | none => eat; failHere .eofValue
    | some c => if c.isDigit then pure () else do eat; failHere .invalidNumber
    let ds ← digitRun fuel []
    let e := digitsValue ds
    exp := if sign then exp + e else exp - e
    isFloat := true
  if !isFloat then
    if positive then
      if mantissa < Nat.pow 2 64 then return .nat mantissa
    else if 0 < mantissa && mantissa ≤ Nat.pow 2 63 then return .neg mantissa
  let x := if exp ≥ 0 then Float.ofScientific (mantissa * Nat.pow 10 exp.toNat) false 0
    else Float.ofScientific mantissa true (-exp).toNat
  if x.isInf then failHere .numberOutOfRange
  return .float (if positive then x else -x)

def ident (rest : List Char) : Reader Unit := do
  for c in rest do
    match ← next with
    | none => failHere .eofValue
    | some d => if d != c then failHere .expectedIdent

mutual

/-- A value; `depth` counts how many more arrays or objects may open. -/
def value (depth : Nat) : Nat → Reader Json
  | 0 => failAhead .recursionLimit
  | fuel + 1 => do
    match ← peekBlank with
    | none => failAhead .eofValue
    | some 'n' => eat; ident ['u', 'l', 'l']; return .null
    | some 't' => eat; ident ['r', 'u', 'e']; return .bool true
    | some 'f' => eat; ident ['a', 'l', 's', 'e']; return .bool false
    | some '-' => eat; return .num (← number false fuel)
    | some '"' => eat; return .str (← stringBody fuel [])
    | some '[' =>
      if depth ≤ 1 then failAhead .recursionLimit
      eat
      let xs ← items (depth - 1) fuel true []
      match ← peekBlank with
      | some ']' => eat; return .arr xs
      | some _ => failAhead .trailingCharacters
      | none => failAhead .eofList
    | some '{' =>
      if depth ≤ 1 then failAhead .recursionLimit
      eat
      let fs ← members (depth - 1) fuel true []
      match ← peekBlank with
      | some '}' => eat; return .obj fs
      | some _ => failAhead .trailingCharacters
      | none => failAhead .eofObject
    | some c =>
      if c.isDigit then return .num (← number true fuel)
      else failAhead .expectedValue

def items (depth : Nat) : Nat → Bool → List Json → Reader (List Json)
  | 0, _, acc => return acc.reverse
  | fuel + 1, first, acc => do
    match ← peekBlank with
    | some ']' => return acc.reverse
    | some ',' =>
      if first then failAhead .expectedValue
      eat
      match ← peekBlank with
      | some ']' => failAhead .trailingComma
      | none => failAhead .eofValue
      | some _ => items depth fuel false ((← value depth fuel) :: acc)
    | some _ =>
      if first then items depth fuel false ((← value depth fuel) :: acc)
      else failAhead .expectedListCommaOrEnd
    | none => failAhead .eofList

def members (depth : Nat) : Nat → Bool → List (String × Json) → Reader (List (String × Json))
  | 0, _, acc => return acc.reverse
  | fuel + 1, first, acc => do
    let key ← match ← peekBlank with
      | some '}' => return acc.reverse
      | some ',' =>
        if first then failAhead .keyMustBeString
        eat
        match ← peekBlank with
        | some '"' => pure ()
        | some '}' => failAhead .trailingComma
        | some _ => failAhead .keyMustBeString
        | none => failAhead .eofValue
        eat
        stringBody fuel []
      | some '"' =>
        if first then do eat; stringBody fuel []
        else failAhead .expectedObjectCommaOrEnd
      | some _ => if first then failAhead .keyMustBeString else failAhead .expectedObjectCommaOrEnd
      | none => failAhead .eofObject
    match ← peekBlank with
    | some ':' => eat
    | some _ => failAhead .expectedColon
    | none => failAhead .eofObject
    let v ← value depth fuel
    members depth fuel false ((key, v) :: acc)

end

def read (s : String) : Except ReadError Json := do
  let cs := s.toList
  let (v, c) ← (value 128 (cs.length + 1)).run { rest := cs }
  let c := c.skipBlank
  if c.rest.isEmpty then return v else throw (c.ahead .trailingCharacters)

end DiskUploader.Json
