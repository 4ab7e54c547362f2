import DiskUploader.Yaml.Parser

/-!
# Loading a YAML document

Typed reading works on the first document of a text, loaded as a flat list of items: scalars,
and the starts and ends of sequences and mappings, each with its position. An alias becomes the
number of its anchor; anchors are numbered by how many distinct names came before, and a name
used again points at its latest node. An alias to a name never anchored stops loading there.

A stream with no document at all loads as a single void item at its end. A parse problem in the
first document is kept beside the items loaded before it: the reader meets it only when it runs
out of items, so a wrong type earlier in the text is reported first.

A failure of reading is a `ReadError`. Messages about the data name the path of the value and
its position, leaving out the path at the root and the position at the very start of the text.
-/

namespace DiskUploader.Yaml

/-- Why reading a text as typed data failed. -/
inductive ReadError where
  /-- The text is not well-formed. -/
  | problem (p : Problem)
  /-- The items ran out where a value was expected. -/
  | endOfStream
  | moreThanOneDocument
  | unknownAnchor (place : Mark)
  /-- The data do not fit the type; the place is the position and the path. -/
  | message (text : String) (place : Option (Mark × String))
  deriving DecidableEq, Repr, Inhabited

def Mark.suffix (m : Mark) : String := if m.atStart then "" else " at " ++ m.text

def ReadError.text : ReadError → String
  | .problem p => p.message
  | .endOfStream => "EOF while parsing a value"
  | .moreThanOneDocument =>
    "deserializing from YAML containing more than one document is not supported"
  | .unknownAnchor m => "unknown anchor" ++ m.suffix
  | .message t none => t
  | .message t (some (m, path)) => (if path == "." then "" else path ++ ": ") ++ t ++ m.suffix

inductive Item where
  /-- An alias to the anchor with this number. -/
  | aliasRef (anchor : Nat)
  | scalar (value : String) (style : ScalarStyle) (tag : Option String)
  | sequenceStart (tag : Option String)
  | sequenceEnd
  | mappingStart (tag : Option String)
  | mappingEnd
  /-- The stand-in for a stream with no document. -/
  | void
  deriving DecidableEq, Repr, Inhabited

/-- The first document of a text. -/
structure Document where
  items : Array (Item × Mark) := #[]
  /-- The item each anchor number points at. -/
  anchored : Array Nat := #[]
  /-- The failure that ended loading early, met after the last item. -/
  failure : Option ReadError := none
  deriving Inhabited

/-- The state of loading: the document so far and the anchor names with their numbers. -/
structure Loading where
  doc : Document := {}
  names : List (String × Nat) := []
  deriving Inhabited

def Loading.anchor (l : Loading) : Option String → Loading
  | none => l
  | some name =>
    let id := l.names.length
    let known := l.names.any (·.1 == name)
    { doc := { l.doc with anchored := l.doc.anchored.push l.doc.items.size }
      names := if known then l.names.map (fun p => if p.1 == name then (name, id) else p)
               else l.names ++ [(name, id)] }

def Loading.push (l : Loading) (i : Item) (m : Mark) : Loading :=
  { l with doc := { l.doc with items := l.doc.items.push (i, m) } }

/-- Loads events from position `k` on; answers the document and whether anything follows it. -/
def loadFrom (evs : Array (Event × Mark)) (problem : Option Problem) :
    Nat → Nat → Loading → Document × Bool
  | 0, _, l => (l.doc, false)
  | fuel + 1, k, l =>
    match evs[k]? with
    | none => ({ l.doc with failure := problem.map ReadError.problem }, false)
    | some (e, m) =>
      match e with
      | .streamStart | .documentStart => loadFrom evs problem fuel (k + 1) l
      | .streamEnd =>
        ((if l.doc.items.isEmpty then (l.push .void m).doc else l.doc), false)
      | .documentEnd =>
        let more := match evs[k + 1]? with
          | some (.streamEnd, _) => false
          | _ => true
        (l.doc, more)
      | .aliasRef name =>
        match l.names.lookup name with
        | some id => loadFrom evs problem fuel (k + 1) (l.push (.aliasRef id) m)
        | none => ({ l.doc with failure := some (.unknownAnchor m) }, false)
      | .scalar a t v style =>
        loadFrom evs problem fuel (k + 1) ((l.anchor a).push (.scalar v style t) m)
      | .sequenceStart a t =>
        loadFrom evs problem fuel (k + 1) ((l.anchor a).push (.sequenceStart t) m)
      | .sequenceEnd => loadFrom evs problem fuel (k + 1) (l.push .sequenceEnd m)
      | .mappingStart a t =>
        loadFrom evs problem fuel (k + 1) ((l.anchor a).push (.mappingStart t) m)
      | .mappingEnd => loadFrom evs problem fuel (k + 1) (l.push .mappingEnd m)

def loadFirst (text : String) : Document × Bool :=
  let (evs, problem) := events text
  loadFrom evs problem (evs.size + 1) 0 {}

theorem ReadError.text_root (t : String) (m : Mark) :
    (ReadError.message t (some (m, "."))).text = t ++ m.suffix := by
  simp [ReadError.text]

end DiskUploader.Yaml
