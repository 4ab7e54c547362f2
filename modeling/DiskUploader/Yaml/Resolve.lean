import DiskUploader.Number.Decimal
import DiskUploader.Text.Basic

/-!
# What a plain scalar means

A plain scalar with no tag is read by the core schema: empty text and `~`, `null`, `Null`,
`NULL` are null; `true`, `True`, `TRUE` and the three spellings of false are booleans;
integers may carry a sign and a `0x`, `0o` or `0b` radix prefix, but a decimal with a leading
zero followed by more digits is text; decimals and `.inf`, `-.inf`, `.nan` are floats; everything
else is text.

Integers are told apart by width, the way a reader that meets one where it expected something
else names it: up to 64 bits, then up to 128 bits, signed or not. A float beyond the largest
finite double is text.
-/

namespace DiskUploader.Yaml

/-- A float value as a scalar may give it. -/
inductive FloatValue where
  | finite (x : Number.ShortDecimal)
  | infinite (negative : Bool)
  | notANumber
  deriving DecidableEq, Repr, Inhabited

def FloatValue.text : FloatValue → String
  | .finite x => x.pointedText
  | .infinite true => "-inf"
  | .infinite false => "inf"
  | .notANumber => "NaN"

inductive Resolved where
  | null
  | bool (b : Bool)
  /-- An integer in 64 bits, without sign or with one. -/
  | unsigned (n : Nat)
  | signed (i : Int)
  /-- An integer that only fits 128 bits. -/
  | wideUnsigned (n : Nat)
  | wideSigned (i : Int)
  | float (x : FloatValue)
  | text (s : String)
  deriving DecidableEq, Repr, Inhabited

def Resolved.unexpected : Resolved → String
  | .null => "unit value"
  | .bool b => s!"boolean `{b}`"
  | .unsigned n => s!"integer `{n}`"
  | .signed i => s!"integer `{i}`"
  | .wideUnsigned n => s!"integer `{n}` as u128"
  | .wideSigned i => s!"integer `{i}` as i128"
  | .float x => "floating point `" ++ x.text ++ "`"
  | .text s => "string " ++ Text.debugQuote s

def isNull (s : String) : Bool := s == "~" || s == "null" || s == "Null" || s == "NULL"

def boolOf? (s : String) : Option Bool :=
  if s == "true" || s == "True" || s == "TRUE" then some true
  else if s == "false" || s == "False" || s == "FALSE" then some false
  else none

/-- Whether a text is a leading zero followed by more digits, after an optional sign: such
text is not a number. -/
def digitsButNotNumber (s : String) : Bool :=
  let cs := match s.toList with
    | '-' :: r => r
    | '+' :: r => r
    | r => r
  match cs with
  | '0' :: r => !r.isEmpty && r.all Char.isDigit
  | _ => false

def digitValue (radix : Nat) (c : Char) : Option Nat :=
  let v :=
    if c.isDigit then c.toNat - 48
    else if 'a' ≤ c && c ≤ 'z' then c.toNat - 87
    else if 'A' ≤ c && c ≤ 'Z' then c.toNat - 55
    else radix
  if v < radix then some v else none

def digitsValue (radix : Nat) (cs : List Char) : Option Nat :=
  if cs.isEmpty then none
  else cs.foldlM (fun acc c => (digitValue radix c).map fun d => radix * acc + d) 0

/-- Reads a natural number written with digits of a radix, allowing one leading plus, below a
limit. -/
def naturalBelow (radix limit : Nat) (cs : List Char) : Option Nat :=
  let cs := match cs with
    | '+' :: r => r
    | r => r
  match digitsValue radix cs with
  | some n => if n < limit then some n else none
  | none => none

/-- Reads an integer written with digits of a radix, allowing one leading sign, within
`[-limit, limit)`. -/
def integerWithin (radix limit : Nat) (cs : List Char) : Option Int :=
  match cs with
  | '-' :: r =>
    match digitsValue radix r with
    | some n => if n ≤ limit then some (-(n : Int)) else none
    | none => none
  | r => (naturalBelow radix limit r).map Int.ofNat

/-- Reads a non-negative integer below a limit: an optional plus, then a radix prefix or
decimal digits. -/
def unsignedBelow? (limit : Nat) (s : String) : Option Nat :=
  let u := match s.toList with
    | '+' :: r => r
    | r => r
  let prefixed (p : Char) (radix : Nat) (k : Option Nat → Option Nat) : Option Nat :=
    match u with
    | '0' :: c :: rest =>
      if c == p then
        match rest with
        | '+' :: _ | '-' :: _ => none
        | _ => match naturalBelow radix limit rest with
          | some n => some n
          | none => k none
      else k none
    | _ => k none
  prefixed 'x' 16 fun _ => prefixed 'o' 8 fun _ => prefixed 'b' 2 fun _ =>
    match u with
    | '+' :: _ | '-' :: _ => none
    | _ => if digitsButNotNumber s then none else naturalBelow 10 limit u

def signedWithin? (limit : Nat) (s : String) : Option Int :=
  let cs := s.toList
  let prefixed (p : Char) (radix : Nat) (k : Unit → Option Int) : Option Int :=
    match cs with
    | '-' :: '0' :: c :: rest =>
      if c == p then
        match integerWithin radix limit ('-' :: rest) with
        | some i => some i
        | none => k ()
      else k ()
    | _ => k ()
  prefixed 'x' 16 fun _ => prefixed 'o' 8 fun _ => prefixed 'b' 2 fun _ =>
    if digitsButNotNumber s then none else integerWithin 10 limit cs

/-- Reads a float: the infinities and not-a-number by name, or a finite decimal. -/
def floatOf? (s : String) : Option FloatValue :=
  let (unpositive, signed) := match s.toList with
    | '+' :: r => (String.ofList r, true)
    | _ => (s, false)
  if signed && (unpositive.startsWith "+" || unpositive.startsWith "-") then none
  else if unpositive == ".inf" || unpositive == ".Inf" || unpositive == ".INF" then
    some (.infinite false)
  else if s == "-.inf" || s == "-.Inf" || s == "-.INF" then some (.infinite true)
  else if s == ".nan" || s == ".NaN" || s == ".NAN" then some .notANumber
  else (Number.readFinite? unpositive).map FloatValue.finite

def integerOf? (s : String) : Option Resolved :=
  match unsignedBelow? (Nat.pow 2 64) s with
  | some n => some (.unsigned n)
  | none =>
    match signedWithin? (Nat.pow 2 63) s with
    | some i => some (.signed i)
    | none =>
      match unsignedBelow? (Nat.pow 2 128) s with
      | some n => some (.wideUnsigned n)
      | none =>
        match signedWithin? (Nat.pow 2 127) s with
        | some i => some (.wideSigned i)
        | none => none

def resolvePlain (s : String) : Resolved :=
  if s.isEmpty || isNull s then .null
  else match boolOf? s with
    | some b => .bool b
    | none =>
      match integerOf? s with
      | some r => r
      | none =>
        match (if digitsButNotNumber s then none else floatOf? s) with
        | some x => .float x
        | none => .text s

end DiskUploader.Yaml
