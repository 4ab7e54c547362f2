/-!
# Byte counts with binary units

A byte count below 1024 is written as a whole number of bytes, `N B`. A larger count is taken as
a double, divided by 1024 while it is at least 1024 and a larger unit remains (up to TiB), and
written with one decimal, a half going to the even neighbour: `1.5 KiB`, `10.0 GiB`.

A count of 2^53 or more is first rounded to the nearest double, ties to even, so that the text is
that of the double the count becomes. Dividing a double by 1024 is exact, so the shown value is
the exact quotient of that double by a power of 1024.
-/

namespace DiskUploader.Number

def bitLength (n : Nat) : Nat := (Nat.toDigits 2 n).length

def nearestDouble (n : Nat) : Nat :=
  let len := bitLength n
  if len ≤ 53 then n
  else
    let drop := len - 53
    let unit := Nat.pow 2 drop
    let q := n / unit
    let r := n % unit
    let half := unit / 2
    let q := if r > half || (r == half && q % 2 == 1) then q + 1 else q
    q * unit

def roundHalfEven (num den : Nat) : Nat :=
  let q := num / den
  let r := num % den
  if 2 * r > den || (2 * r == den && q % 2 == 1) then q + 1 else q

def binaryUnits : List String := ["B", "KiB", "MiB", "GiB", "TiB"]

def unitIndex (d : Nat) : Nat :=
  ((List.range 4).filter fun k => Nat.pow 1024 (k + 1) ≤ d).length

def byteSize (bytes : Nat) : String :=
  if bytes < 1024 then s!"{bytes} B"
  else
    let d := nearestDouble bytes
    let k := unitIndex d
    let tenths := roundHalfEven (d * 10) (Nat.pow 1024 k)
    let unit := binaryUnits.getD k ""
    s!"{tenths / 10}.{tenths % 10} {unit}"

theorem byteSize_small (n : Nat) (h : n < 1024) : byteSize n = s!"{n} B" := by
  simp [byteSize, h]

end DiskUploader.Number
