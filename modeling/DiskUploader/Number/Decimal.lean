import DiskUploader.Number.Shortest

/-!
# Reading decimals as doubles

A decimal text is an optional sign, digits with at most one decimal point and at least one
digit, and an optional exponent `e` or `E` with an optional sign and at least one digit. Its
value `d * 10 ^ e` is rounded to the nearest double, ties to the even mantissa, all on exact
naturals. A value beyond the largest finite double has no finite reading; one below half the
smallest subnormal reads as zero.

A finite double is shown positionally, never with an exponent: its shortest digits, padded with
zeros up to the decimal point, or with the point placed inside or before them.
-/

namespace DiskUploader.Number

/-- A finite double as its sign and its shortest decimal digits, `digits * 10 ^ exponent`. -/
structure ShortDecimal where
  negative : Bool
  digits : Nat
  exponent : Int
  deriving DecidableEq, Repr, Inhabited

/-- The parts of a decimal text: sign, digits as a number, and the exponent of the last digit. -/
def decimalParts? (s : String) : Option (Bool × Nat × Int) :=
  let cs := s.toList
  let (negative, cs) := match cs with
    | '-' :: r => (true, r)
    | '+' :: r => (false, r)
    | r => (false, r)
  let whole := cs.takeWhile Char.isDigit
  let cs := cs.drop whole.length
  let (frac, cs) := match cs with
    | '.' :: r => let f := r.takeWhile Char.isDigit; (f, r.drop f.length)
    | r => ([], r)
  if whole.isEmpty && frac.isEmpty then none
  else
    let expPart : Option Int := match cs with
      | [] => some 0
      | c :: r =>
        if c == 'e' || c == 'E' then
          let (eneg, r) := match r with
            | '-' :: t => (true, t)
            | '+' :: t => (false, t)
            | t => (false, t)
          if !r.isEmpty && r.all Char.isDigit then
            let n : Int := (String.ofList r).toNat!
            some (if eneg then -n else n)
          else none
        else none
    match expPart with
    | none => none
    | some e =>
      let ds := whole ++ frac
      let d := ds.foldl (fun acc c => 10 * acc + (c.toNat - 48)) 0
      some (negative, d, e - frac.length)

/-- The double nearest to `d * 10 ^ e` for `d > 0`, as a mantissa and binary exponent, or
`none` beyond the largest finite double. Zero mantissa means the value rounds to zero. -/
def nearestBinary (d : Nat) (e : Int) : Option (Nat × Int) :=
  let num := d * Nat.pow 10 e.toNat
  let den := Nat.pow 10 (-e).toNat
  -- the binary exponent of the leading bit: `⌊log₂ (num / den)⌋`
  let guess : Int := (Nat.log2 num : Int) - Nat.log2 den
  let lead : Int :=
    if num * Nat.pow 2 (-guess).toNat ≥ den * Nat.pow 2 guess.toNat then guess else guess - 1
  let q : Int := max (lead - 52) (-1074)
  let n := num * Nat.pow 2 (-q).toNat
  let v := den * Nat.pow 2 q.toNat
  let m := n / v
  let r := n % v
  let m := if 2 * r > v || (2 * r == v && m % 2 == 1) then m + 1 else m
  let (m, q) := if m == Nat.pow 2 53 then (Nat.pow 2 52, q + 1) else (m, q)
  if q > 971 then none else some (m, q)

def readFinite? (s : String) : Option ShortDecimal :=
  match decimalParts? s with
  | none => none
  | some (negative, d, e) =>
    if d == 0 then some ⟨negative, 0, 0⟩
    else
      let width : Int := (digits d).length
      if width + e > 310 then none
      else if width + e < -345 then some ⟨negative, 0, 0⟩
      else
        match nearestBinary d e with
        | none => none
        | some (0, _) => some ⟨negative, 0, 0⟩
        | some (m, q) =>
          let (ds, k) := shortest ⟨m, q, m == Nat.pow 2 52 && q > -1074⟩
          some ⟨negative, ds, k⟩

/-- The positional text of a finite double: no exponent, no trailing point. -/
def ShortDecimal.plainText (x : ShortDecimal) : String :=
  let sign := if x.negative then "-" else ""
  if x.digits == 0 then sign ++ "0"
  else
    let ds := Number.digits x.digits
    let point : Int := ds.length + x.exponent
    let body :=
      if 0 ≤ x.exponent then digitText ds ++ String.ofList (List.replicate x.exponent.toNat '0')
      else if 0 < point then
        digitText (ds.take point.toNat) ++ "." ++ digitText (ds.drop point.toNat)
      else "0." ++ String.ofList (List.replicate (-point).toNat '0') ++ digitText ds
    sign ++ body

def ShortDecimal.pointedText (x : ShortDecimal) : String :=
  let t := x.plainText
  if t.contains '.' then t else t ++ ".0"

end DiskUploader.Number
