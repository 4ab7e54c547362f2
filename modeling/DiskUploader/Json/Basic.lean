/-!
# JSON values

A JSON value keeps its object members in the order they were written or built, since that
order is what a printer shows. Numbers are unsigned or negative integers when they fit in 64
bits, and doubles otherwise. Looking a key up finds its last occurrence, so a repeated key
counts with its last value.
-/

namespace DiskUploader

/-- A JSON number: an integer of at most 64 bits, or a double. -/
inductive JsonNumber where
  /-- A non-negative integer. -/
  | nat (n : Nat)
  /-- A negative integer, by its magnitude. -/
  | neg (n : Nat)
  | float (x : Float)
  deriving Inhabited

inductive Json where
  | null
  | bool (b : Bool)
  | num (n : JsonNumber)
  | str (s : String)
  | arr (items : List Json)
  | obj (fields : List (String × Json))
  deriving Inhabited

namespace Json

def nat (n : Nat) : Json := .num (.nat n)

def opt {α : Type} (f : α → Json) : Option α → Json
  | some a => f a
  | none => .null

def get? (j : Json) (k : String) : Option Json :=
  match j with
  | .obj fs => (fs.reverse.find? (·.1 == k)).map (·.2)
  | _ => none

def str? : Json → Option String
  | .str s => some s
  | _ => none

def nat? : Json → Option Nat
  | .num (.nat n) => some n
  | _ => none

def bool? : Json → Option Bool
  | .bool b => some b
  | _ => none

def arr? : Json → Option (List Json)
  | .arr xs => some xs
  | _ => none

def obj? : Json → Option (List (String × Json))
  | .obj fs => some fs
  | _ => none

def isNull : Json → Bool
  | .null => true
  | _ => false

theorem get?_cons_self (k : String) (v : Json) (fs : List (String × Json))
    (h : (fs.reverse.find? (·.1 == k)) = none) : (obj ((k, v) :: fs)).get? k = some v := by
  simp [get?, List.find?_append, h]

end Json

end DiskUploader
