import DiskUploader.Yaml.Document
import DiskUploader.Yaml.Resolve

/-!
# Reading typed data from a YAML document

A reader walks the items of a document, one value at a time. An alias is followed to the node
its anchor names, read there, and reading goes on after the alias.

Every value that does not fit its type is reported with the position of its node and the path
that leads to it: the key names from the root joined by dots, `?` for a key that is not a
scalar. The innermost value that fails gives both.

The readers here are the ones settings need:
* text: any scalar;
* booleans: the six spellings of a plain scalar;
* naturals of a bit width: a plain scalar read as an unsigned integer, refused as too large
  when it needs more bits;
* options: absent for a plain null or empty scalar, present otherwise;
* a choice among names, given by a scalar;
* structs: a mapping, or an empty plain scalar or no document at all for the empty mapping.
  Unknown keys are skipped, a known key given twice is refused, and a missing field is
  refused unless the struct gives it a default.

A value of the wrong kind is named the way the core schema reads it, so a quoted `'30'` where a
number belongs is the string `"30"`, and a plain `30` where text belongs is fine.
-/

namespace DiskUploader.Yaml

inductive Path where
  | root
  | key (parent : Path) (name : String)
  /-- The value of a key that is not a scalar. -/
  | unknown (parent : Path)
  /-- A value reached through an alias. -/
  | aliasRef (parent : Path)
  deriving DecidableEq, Repr, Inhabited

/-- The text of a path: `.` for the root, keys joined by dots. -/
def Path.text : Path → String
  | .root => "."
  | .key p k => (if p == .root then "" else p.text ++ ".") ++ k
  | .unknown p => (if p == .root then "" else p.text ++ ".") ++ "?"
  | .aliasRef p => p.text

def nullTag : String := "tag:yaml.org,2002:null"
def boolTag : String := "tag:yaml.org,2002:bool"
def intTag : String := "tag:yaml.org,2002:int"
def floatTag : String := "tag:yaml.org,2002:float"

/-- Whether a scalar may be read as a value of a tag's kind: plain, or a literal block carrying
that tag. -/
def plainOrTaggedLiteral (expected : String) (style : ScalarStyle) (tag : Option String) : Bool :=
  style == .plain || (style == .literal && tag == some expected)

def scalarMismatch (v : String) (style : ScalarStyle) (tag : Option String)
    (expected : String) : ReadError :=
  let invalid (what : String) :=
    ReadError.message ("invalid type: " ++ what ++ ", expected " ++ expected) none
  let badValue (what : String) :=
    ReadError.message ("invalid value: string " ++ Text.debugQuote v ++ ", expected " ++ what) none
  match tag with
  | some t =>
    if t == boolTag then
      match boolOf? v with
      | some b => invalid (Resolved.bool b).unexpected
      | none => badValue "a boolean"
    else if t == intTag then
      match integerOf? v with
      | some r => invalid r.unexpected
      | none => badValue "an integer"
    else if t == floatTag then
      match floatOf? v with
      | some x => invalid (Resolved.float x).unexpected
      | none => badValue "a float"
    else if t == nullTag then
      if isNull v then invalid Resolved.null.unexpected else badValue "null"
    else if t.startsWith "!" && style == .plain then invalid (resolvePlain v).unexpected
    else invalid (Resolved.text v).unexpected
  | none =>
    if style == .plain then invalid (resolvePlain v).unexpected
    else invalid (Resolved.text v).unexpected

def invalidType (item : Item) (expected : String) : ReadError :=
  match item with
  | .scalar v style tag => scalarMismatch v style tag expected
  | .sequenceStart _ => .message ("invalid type: sequence, expected " ++ expected) none
  | .mappingStart _ => .message ("invalid type: map, expected " ++ expected) none
  | _ => .endOfStream

/-- Reading typed data: the document, and the position of the next item. -/
abbrev Decode := ReaderT Document (ExceptT ReadError (StateM Nat))

namespace Decode

/-- The next item, not consumed; past the last one, the failure that ended loading. -/
def peek : Decode (Item × Mark) := do
  let doc ← read
  match doc.items[← get]? with
  | some x => return x
  | none => throw (doc.failure.getD .endOfStream)

def next : Decode (Item × Mark) := do
  let x ← peek
  modify (· + 1)
  return x

def fail {α : Type} (text : String) : Decode α := throw (.message text none)

def fixAt {α : Type} (m : Mark) (path : Path) (act : Decode α) : Decode α :=
  tryCatch act fun e =>
    throw (match e with
      | .message t none => .message t (some (m, path.text))
      | e => e)

def jump {α : Type} (anchor : Nat) (act : Decode α) : Decode α := do
  let back ← get
  set ((← read).anchored.getD anchor 0)
  let r ← act
  set back
  return r

/-- As many steps as there are items: enough for any loop that consumes an item a step. -/
def fuel : Decode Nat := return (← read).items.size + 1

/-- Consumes the next node, following an alias to its anchored node, and reads it with `k`,
which is given the node's position and path. -/
def node {α : Type} (path : Path) (k : Item → Mark → Path → Decode α) : Decode α := do
  let (item, m) ← next
  match item with
  | .aliasRef id => jump id do
    let (item, m) ← next
    k item m (.aliasRef path)
  | _ => k item m path

def skip : Decode Unit := do
  let mut depth : Nat := 0
  for _ in [0:← fuel] do
    let (item, _) ← next
    match item with
    | .sequenceStart _ | .mappingStart _ => depth := depth + 1
    | .sequenceEnd | .mappingEnd => depth := depth - 1
    | _ => pure ()
    if depth == 0 then break

def text (expected : String) (path : Path) : Decode String :=
  node path fun item m path => fixAt m path do
    match item with
    | .scalar v _ _ => return v
    | _ => throw (invalidType item expected)

def bool (path : Path) : Decode Bool :=
  node path fun item m path => fixAt m path do
    if let .scalar v style tag := item then
      if plainOrTaggedLiteral boolTag style tag then
        if let some b := boolOf? v then return b
    throw (invalidType item "a boolean")

def natural (bits : Nat) (path : Path) : Decode Nat :=
  node path fun item m path => fixAt m path do
    let expected := "u" ++ toString bits
    if let .scalar v style tag := item then
      if plainOrTaggedLiteral intTag style tag then
        if let some n := unsignedBelow? (Nat.pow 2 64) v then
          if n < Nat.pow 2 bits then return n
          fail ("invalid value: integer `" ++ toString n ++ "`, expected " ++ expected)
    throw (invalidType item expected)

/-- Whether an item gives a value to an option: a plain null or empty scalar and no document at
all give none. A scalar tagged null must be a null. -/
def present (item : Item) : Decode Bool :=
  match item with
  | .scalar v style tag =>
    if style != .plain then return true
    else match tag with
      | some t =>
        if t == nullTag then
          if isNull v then return false
          else fail ("invalid value: string " ++ Text.debugQuote v ++ ", expected null")
        else return true
      | none => return !v.isEmpty && !isNull v
  | .void => return false
  | _ => return true

def optionHere {α : Type} (inner : Path → Decode α) (path : Path) : Decode (Option α) := do
  let (item, _) ← peek
  if ← present item then some <$> inner path
  else
    modify (· + 1)
    return none

def option {α : Type} (inner : Path → Decode α) (path : Path) : Decode (Option α) := do
  let (item, _) ← peek
  match item with
  | .aliasRef id =>
    modify (· + 1)
    jump id (optionHere inner (.aliasRef path))
  | _ => optionHere inner path

def offered (names : List String) : String :=
  match names with
  | [] => "there are no variants"
  | [a] => "expected `" ++ a ++ "`"
  | [a, b] => "expected `" ++ a ++ "` or `" ++ b ++ "`"
  | _ => "expected one of " ++ ", ".intercalate (names.map fun n => "`" ++ n ++ "`")

def localTag (tag : Option String) : Option String :=
  match tag with
  | some t => if t.startsWith "!" && t.length > 1 then some (t.drop 1).toString else none
  | none => none

def choice {α : Type} (choices : List (String × α)) (path : Path) : Decode α :=
  node path fun item m path => fixAt m path do
    let pick (name : String) : Decode α :=
      match choices.lookup name with
      | some a => return a
      | none => fail ("unknown variant `" ++ name ++ "`, " ++ offered (choices.map (·.1)))
    match item with
    | .scalar v style tag =>
      match localTag tag with
      | some name =>
        let a ← pick name
        if style == .plain && (v.isEmpty || isNull v) then return a
        throw (scalarMismatch v style tag "unit")
      | none => pick v
    | .mappingStart _ => fail "invalid type: map, expected a YAML tag starting with '!'"
    | .sequenceStart _ => fail "invalid type: sequence, expected a YAML tag starting with '!'"
    | _ => throw .endOfStream

def key (path : Path) : Decode String :=
  node path fun item m path => fixAt m path do
    match item with
    | .scalar v _ _ => return v
    | _ => throw (invalidType item "field identifier")

/-- Reads the entries of a mapping into a draft: each known key's value is read by `field`
into the draft, unknown keys are skipped, and a known key given twice is refused. -/
def entries {β : Type} (known : List String) (draft : β)
    (field : String → Path → β → Decode β) (path : Path) : Decode β := do
  let mut draft := draft
  let mut seen : List String := []
  for _ in [0:← fuel] do
    let (k, _) ← peek
    match k with
    | .mappingEnd | .void => break
    | _ =>
      let valuePath := match k with
        | .scalar v _ _ => Path.key path v
        | _ => Path.unknown path
      let name ← key path
      if known.contains name then
        if seen.contains name then fail ("duplicate field `" ++ name ++ "`")
        seen := name :: seen
        draft ← field name valuePath draft
      else skip
  let _ ← next
  return draft

/-- Reads a struct named `name`: its entries go into a draft by `field`, and `finish` turns the
draft into the value or names the first missing field. -/
def struct {α β : Type} (name : String) (known : List String) (draft : β)
    (field : String → Path → β → Decode β) (finish : β → Except String α) (path : Path) :
    Decode α :=
  node path fun item m path => fixAt m path do
    let filled ← match item with
      | .mappingStart _ => entries known draft field path
      | .void => pure draft
      | .scalar "" .plain _ => pure draft
      | _ => throw (invalidType item ("struct " ++ name))
    match finish filled with
    | .ok a => return a
    | .error msg => fail msg

def required {α : Type} (name : String) : Option α → Except String α
  | some a => .ok a
  | none => .error ("missing field `" ++ name ++ "`")

end Decode

/-- Reads the first document of a text with a reader. A parse problem that ended loading early
is reported even when the reader did not reach it, and a second document is refused. -/
def decodeFirst {α : Type} (text : String) (reader : Path → Decode α) : Except ReadError α :=
  let (doc, more) := loadFirst text
  match ((reader .root).run doc).run.run 0 with
  | (.error e, _) => .error e
  | (.ok a, _) =>
    match doc.failure with
    | some e => .error e
    | none => if more then .error .moreThanOneDocument else .ok a

theorem Path.text_key_root (k : String) : (Path.key .root k).text = k := by
  simp [Path.text]

end DiskUploader.Yaml
