/-!
# The shortest decimal that reads back as a double

A finite positive double is `m * 2 ^ q`. Every real strictly between the midpoints to its two
neighbours reads back as it, and so do the midpoints themselves when `m` is even. The shortest
decimal is found by trying grids of 1, 2, … 17 significant digits: on each grid the two points
around the value are tested, the first grid with a point inside wins, and of two points inside
the nearer one, an exact tie going to the even one. All arithmetic is exact on naturals.

The layout is the one of JSON writers: positional when the decimal point falls within 16
digits of the first digit and at most 5 places before it, and `1.5e-7`, `1e21` otherwise;
always with a fraction or an exponent.
-/

namespace DiskUploader.Number

def digits (n : Nat) : List Nat :=
  if _h : n < 10 then [n] else digits (n / 10) ++ [n % 10]
termination_by n
decreasing_by omega

def digitText (ds : List Nat) : String :=
  String.ofList (ds.map fun d => Char.ofNat (48 + d))

/-- A finite positive double as `m * 2 ^ q`. -/
structure Binary where
  mantissa : Nat
  exponent : Int
  /-- Whether the neighbour below is half as far away as the one above. -/
  closerBelow : Bool
  deriving Repr

def Binary.ofBits (bits : UInt64) : Binary :=
  let frac : Nat := bits.toNat % Nat.pow 2 52
  let e : Nat := bits.toNat / Nat.pow 2 52 % 2048
  if e = 0 then ⟨frac, -1074, false⟩
  else ⟨frac + Nat.pow 2 52, (e : Int) - 1075, frac = 0 && e > 1⟩

def cmpScaled (a : Nat) (k : Int) (b : Nat) (e : Int) : Ordering :=
  compare (a * Nat.pow 10 k.toNat * Nat.pow 2 (-e).toNat) (b * Nat.pow 2 e.toNat * Nat.pow 10 (-k).toNat)

def leadExponent (m : Nat) (q : Int) : Int :=
  let num := m * Nat.pow 2 q.toNat
  let den := Nat.pow 2 (-q).toNat
  let guess : Int := ((digits num).length : Int) - (digits den).length
  -- the leading exponent is `guess` or `guess - 1`
  if cmpScaled den guess num 0 != .gt then guess else guess - 1

/-- The shortest significant digits `d` and exponent `k` with `d * 10 ^ k` reading back as the
double `m * 2 ^ q`. -/
def shortest (b : Binary) : Nat × Int :=
  let m := b.mantissa
  let q := b.exponent
  let lead := leadExponent m q
  -- the interval is [lo, hi] * 2 ^ (q - 2)
  let lo := 4 * m - (if b.closerBelow then 1 else 2)
  let hi := 4 * m + 2
  let inclusive := m % 2 = 0
  let inside (d : Nat) (k : Int) : Bool :=
    let above := cmpScaled d k lo (q - 2)
    let below := cmpScaled d k hi (q - 2)
    (above == .gt || (inclusive && above == .eq)) && (below == .lt || (inclusive && below == .eq))
  let pick (n : Nat) : Option (Nat × Int) :=
    let s : Int := lead - n + 1
    -- the grid point at or below the value
    let dlo := m * Nat.pow 2 q.toNat * Nat.pow 10 (-s).toNat / (Nat.pow 2 (-q).toNat * Nat.pow 10 s.toNat)
    let dhi := dlo + 1
    match dlo > 0 && inside dlo s, inside dhi s with
    | true, true =>
      -- nearer of the two: compare 2 * value with dlo + dhi
      match cmpScaled (dlo + dhi) s (2 * m) q with
      | .gt => some (dlo, s)
      | .lt => some (dhi, s)
      | .eq => some (if dlo % 2 = 0 then dlo else dhi, s)
    | true, false => some (dlo, s)
    | false, true => some (dhi, s)
    | false, false => none
  let found := ((List.range 17).map (· + 1)).findSome? pick
  let (d, k) := found.getD (m, q)
  -- drop trailing zeros
  let rec strip (fuel : Nat) (d : Nat) (k : Int) : Nat × Int :=
    match fuel with
    | 0 => (d, k)
    | f + 1 => if d > 0 && d % 10 = 0 then strip f (d / 10) (k + 1) else (d, k)
  strip 20 d k

def jsonLayout (ds : List Nat) (k : Int) : String :=
  let len := ds.length
  let point : Int := len + k
  let text := digitText ds
  if 0 ≤ k && point ≤ 16 then text ++ String.ofList (List.replicate k.toNat '0') ++ ".0"
  else if 0 < point && point ≤ 16 then
    digitText (ds.take point.toNat) ++ "." ++ digitText (ds.drop point.toNat)
  else if -5 < point && point ≤ 0 then
    "0." ++ String.ofList (List.replicate (-point).toNat '0') ++ text
  else
    let e := point - 1
    let mant := if len = 1 then text else digitText (ds.take 1) ++ "." ++ digitText (ds.drop 1)
    mant ++ "e" ++ toString e

/-- The text of a double as JSON writers give it; non-finite values have none. -/
def jsonText? (x : Float) : Option String :=
  if x.isNaN || x.isInf then none
  else
    let bits := x.toBits
    let sign := if bits.toNat ≥ Nat.pow 2 63 then "-" else ""
    if bits.toNat % Nat.pow 2 63 = 0 then some (sign ++ "0.0")
    else
      let (d, k) := shortest (Binary.ofBits bits)
      some (sign ++ jsonLayout (digits d) k)

end DiskUploader.Number
