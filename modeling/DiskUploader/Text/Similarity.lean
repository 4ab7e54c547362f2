/-!
# How alike two words are

The Jaro similarity of two words counts the characters they share within a window of half the
longer length less one, and the shared characters that appear in a different order
(transpositions, counted in pairs). With `m` shared characters, `t` transpositions and lengths
`a` and `b`, it is `(m / a + m / b + (m - t) / m) / 3`; two empty words are alike, and an empty
word is unlike any other.

The value is kept as an exact fraction, so that comparisons are exact.
-/

namespace DiskUploader.Text

structure Fraction where
  num : Nat
  den : Nat
  deriving DecidableEq, Repr, Inhabited

def Fraction.lt (x y : Fraction) : Bool := x.num * y.den < y.num * x.den

def markMatch (b : Array Char) (used : Array Bool) (c : Char) (lo hi : Nat) :
    Option (Array Bool) :=
  match (List.range' lo (hi - lo)).find? (fun j => b[j]? == some c && used[j]? == some false) with
  | some j => some (used.set! j true)
  | none => none

def jaro (s t : String) : Fraction :=
  let a := s.toList.toArray
  let b := t.toList.toArray
  if a.isEmpty && b.isEmpty then ⟨1, 1⟩
  else if a.isEmpty || b.isEmpty then ⟨0, 1⟩
  else
    let range := max a.size b.size / 2 - 1
    -- mark shared characters in both words
    let (aUsed, bUsed) := (List.range a.size).foldl (fun (acc : Array Bool × Array Bool) i =>
      let lo := i - range
      let hi := min b.size (i + range + 1)
      match markMatch b acc.2 (a[i]?.getD ' ') lo hi with
      | some bu => (acc.1.set! i true, bu)
      | none => acc) (Array.replicate a.size false, Array.replicate b.size false)
    let sharedA := (List.range a.size).filterMap fun i => if aUsed[i]? == some true then a[i]? else none
    let sharedB := (List.range b.size).filterMap fun j => if bUsed[j]? == some true then b[j]? else none
    let m := sharedA.length
    if m == 0 then ⟨0, 1⟩
    else
      let t := ((sharedA.zip sharedB).filter fun (x, y) => x != y).length / 2
      -- (m/a + m/b + (m-t)/m) / 3 over the common denominator 3abm
      ⟨m * b.size * m + m * a.size * m + (m - t) * a.size * b.size, 3 * a.size * b.size * m⟩

/-- Whether two words are alike enough to suggest one for the other: a similarity above 0.7. -/
def alike (s t : String) : Bool :=
  let j := jaro s t
  7 * j.den < 10 * j.num

/-- The words alike to a given one, least alike first; of equally alike words the earlier
comes first. -/
def alikeWords (word : String) (candidates : List String) : List String :=
  let scored := (candidates.filter (alike word)).map fun c => (jaro word c, c)
  (scored.mergeSort fun x y => !(y.1.lt x.1)).map (·.2)

end DiskUploader.Text
