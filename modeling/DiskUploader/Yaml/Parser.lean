import DiskUploader.Yaml.Scanner

/-!
# Parsing YAML

The parser turns tokens into events: the stream and its documents, scalars, aliases, and the
starts and ends of sequences and mappings. It is a state machine with a stack of states to
return to, one event per step. A missing value or entry becomes an empty plain scalar placed at
the token that follows it.

When the scanner failed, the parser works through the released tokens and meets the scanner's
problem where it would have asked for the next one; a problem of its own that comes first wins.
-/

namespace DiskUploader.Yaml

inductive Event where
  | streamStart | streamEnd | documentStart | documentEnd
  | aliasRef (name : String)
  | scalar (anchor tag : Option String) (value : String) (style : ScalarStyle)
  | sequenceStart (anchor tag : Option String)
  | sequenceEnd
  | mappingStart (anchor tag : Option String)
  | mappingEnd
  deriving DecidableEq, Repr, Inhabited

inductive ParseState where
  | streamStart | implicitDocumentStart | documentStart | documentContent | documentEnd
  | blockNode | blockSequenceFirstEntry | blockSequenceEntry | indentlessSequenceEntry
  | blockMappingFirstKey | blockMappingKey | blockMappingValue
  | flowSequenceFirstEntry | flowSequenceEntry | flowSequenceEntryMappingKey
  | flowSequenceEntryMappingValue | flowSequenceEntryMappingEnd
  | flowMappingFirstKey | flowMappingKey | flowMappingValue | flowMappingEmptyValue
  | finished
  deriving DecidableEq, Repr, Inhabited

structure Parser where
  tokens : Array Token
  /-- The scanner's problem, met after the last token. -/
  scanProblem : Option Problem
  pos : Nat := 0
  state : ParseState := .streamStart
  states : List ParseState := []
  marks : List Mark := []
  tagHandles : List (String × String) := []
  deriving Inhabited

abbrev Parse := ExceptT Problem (StateM Parser)

namespace Parse

/-- The next token; past the released tokens, the scanner's problem. -/
def peek : Parse Token := do
  let p ← get
  match p.tokens[p.pos]? with
  | some t => return t
  | none => throw (p.scanProblem.getD { problem := "unexpected end of tokens" })

def skipToken : Parse Unit := modify fun p => { p with pos := p.pos + 1 }

def goTo (s : ParseState) : Parse Unit := modify fun p => { p with state := s }

def pushState (s : ParseState) : Parse Unit := modify fun p => { p with states := s :: p.states }

def popState : Parse Unit :=
  modify fun p => { p with state := p.states.headD .finished, states := p.states.drop 1 }

def pushMark (m : Mark) : Parse Unit := modify fun p => { p with marks := m :: p.marks }

def popMark : Parse Mark := do
  let p ← get
  set { p with marks := p.marks.drop 1 }
  return p.marks.headD {}

def failAt {α : Type} (context : Option String) (contextMark : Mark) (problem : String)
    (place : Mark) : Parse α :=
  throw { problem, problemMark := place, context, contextMark }

def emptyScalar (m : Mark) : Event × Mark := (.scalar none none "" .plain, m)

def isKey (t : Token) : Bool := t.kind == .key
def isValue (t : Token) : Bool := t.kind == .value
def isBlockEnd (t : Token) : Bool := t.kind == .blockEnd
def isBlockEntry (t : Token) : Bool := t.kind == .blockEntry
def isFlowEntry (t : Token) : Bool := t.kind == .flowEntry

def isDocumentBoundary (t : Token) : Bool :=
  match t.kind with
  | .versionDirective _ _ | .tagDirective _ _ | .documentStart | .documentEnd | .streamEnd => true
  | _ => false

def resolveTag (handle suffix : String) (nodeMark tagMark : Mark) : Parse String := do
  if handle.isEmpty then return suffix
  let handles := (← get).tagHandles ++ [("!", "!"), ("!!", "tag:yaml.org,2002:")]
  match handles.lookup handle with
  | some pre => return pre ++ suffix
  | none => failAt (some "while parsing a node") nodeMark "found undefined tag handle" tagMark

/-- Parses a node: an alias, or a scalar or collection with optional anchor and tag. -/
def node (block indentless : Bool) : Parse (Event × Mark) := do
  let t ← peek
  if let .aliasRef name := t.kind then
    popState
    skipToken
    return (.aliasRef name, t.start)
  let start := t.start
  let mut anchor : Option String := none
  let mut tagParts : Option (String × String × Mark) := none
  let mut t := t
  if let .anchor a := t.kind then
    anchor := some a
    skipToken
    t ← peek
    if let .tag h s := t.kind then
      tagParts := some (h, s, t.start)
      skipToken
      t ← peek
  else if let .tag h s := t.kind then
    tagParts := some (h, s, t.start)
    skipToken
    t ← peek
    if let .anchor a := t.kind then
      anchor := some a
      skipToken
      t ← peek
  let tag ← match tagParts with
    | some (h, s, m) => some <$> resolveTag h s start m
    | none => pure none
  if indentless && isBlockEntry t then
    goTo .indentlessSequenceEntry
    return (.sequenceStart anchor tag, start)
  match t.kind with
  | .scalar v style =>
    popState
    skipToken
    return (.scalar anchor tag v style, start)
  | .flowSequenceStart =>
    goTo .flowSequenceFirstEntry
    return (.sequenceStart anchor tag, start)
  | .flowMappingStart =>
    goTo .flowMappingFirstKey
    return (.mappingStart anchor tag, start)
  | .blockSequenceStart =>
    if block then
      goTo .blockSequenceFirstEntry
      return (.sequenceStart anchor tag, start)
    failAt (some "while parsing a flow node") start "did not find expected node content" t.start
  | .blockMappingStart =>
    if block then
      goTo .blockMappingFirstKey
      return (.mappingStart anchor tag, start)
    failAt (some "while parsing a flow node") start "did not find expected node content" t.start
  | _ =>
    if anchor.isSome || tag.isSome then
      popState
      return (.scalar anchor tag "" .plain, start)
    failAt (some (if block then "while parsing a block node" else "while parsing a flow node"))
      start "did not find expected node content" t.start

def documentStart (implicit : Bool) : Parse (Event × Mark) := do
  let mut t ← peek
  if !implicit then
    for _ in [0:(← get).tokens.size] do
      if t.kind == .documentEnd then
        skipToken
        t ← peek
      else break
  if implicit && !isDocumentBoundary t then
    pushState .documentEnd
    goTo .blockNode
    return (.documentStart, t.start)
  if t.kind == .streamEnd then
    goTo .finished
    skipToken
    return (.streamEnd, t.start)
  let start := t.start
  for _ in [0:(← get).tokens.size] do
    match t.kind with
    | .versionDirective _ _ =>
      skipToken
      t ← peek
    | .tagDirective h pre =>
      modify fun p => { p with tagHandles := p.tagHandles ++ [(h, pre)] }
      skipToken
      t ← peek
    | _ => break
  if t.kind != .documentStart then
    failAt none {} "did not find expected <document start>" t.start
  pushState .documentEnd
  goTo .documentContent
  skipToken
  return (.documentStart, start)

def documentContent : Parse (Event × Mark) := do
  let t ← peek
  if isDocumentBoundary t then
    popState
    return emptyScalar t.start
  node true false

def documentEnd : Parse (Event × Mark) := do
  let t ← peek
  if t.kind == .documentEnd then skipToken
  modify fun p => { p with tagHandles := [] }
  goTo .documentStart
  return (.documentEnd, t.start)

def blockSequenceEntry (first : Bool) : Parse (Event × Mark) := do
  if first then
    pushMark (← peek).start
    skipToken
  let t ← peek
  if isBlockEntry t then
    let m := t.stop
    skipToken
    let t ← peek
    if !isBlockEntry t && !isBlockEnd t then
      pushState .blockSequenceEntry
      node true false
    else
      goTo .blockSequenceEntry
      return emptyScalar m
  else if isBlockEnd t then
    popState
    let _ ← popMark
    skipToken
    return (.sequenceEnd, t.start)
  else
    let m ← popMark
    failAt (some "while parsing a block collection") m "did not find expected '-' indicator" t.start

def indentlessSequenceEntry : Parse (Event × Mark) := do
  let t ← peek
  if isBlockEntry t then
    let m := t.stop
    skipToken
    let t ← peek
    if !isBlockEntry t && !isKey t && !isValue t && !isBlockEnd t then
      pushState .indentlessSequenceEntry
      node true false
    else
      goTo .indentlessSequenceEntry
      return emptyScalar m
  else
    popState
    return (.sequenceEnd, t.start)

def blockMappingKey (first : Bool) : Parse (Event × Mark) := do
  if first then
    pushMark (← peek).start
    skipToken
  let t ← peek
  if isKey t then
    let m := t.stop
    skipToken
    let t ← peek
    if !isKey t && !isValue t && !isBlockEnd t then
      pushState .blockMappingValue
      node true true
    else
      goTo .blockMappingValue
      return emptyScalar m
  else if isBlockEnd t then
    popState
    let _ ← popMark
    skipToken
    return (.mappingEnd, t.start)
  else
    let m ← popMark
    failAt (some "while parsing a block mapping") m "did not find expected key" t.start

def blockMappingValue : Parse (Event × Mark) := do
  let t ← peek
  if isValue t then
    let m := t.stop
    skipToken
    let t ← peek
    if !isKey t && !isValue t && !isBlockEnd t then
      pushState .blockMappingKey
      node true true
    else
      goTo .blockMappingKey
      return emptyScalar m
  else
    goTo .blockMappingKey
    return emptyScalar t.start

def flowSequenceEntry (first : Bool) : Parse (Event × Mark) := do
  if first then
    pushMark (← peek).start
    skipToken
  let mut t ← peek
  if t.kind != .flowSequenceEnd then
    if !first then
      if isFlowEntry t then
        skipToken
        t ← peek
      else
        let m ← popMark
        failAt (some "while parsing a flow sequence") m "did not find expected ',' or ']'" t.start
    if isKey t then
      goTo .flowSequenceEntryMappingKey
      skipToken
      return (.mappingStart none none, t.start)
    if t.kind != .flowSequenceEnd then
      pushState .flowSequenceEntry
      return ← node false false
  popState
  let _ ← popMark
  skipToken
  return (.sequenceEnd, t.start)

def flowSequenceEntryMappingKey : Parse (Event × Mark) := do
  let t ← peek
  if !isValue t && !isFlowEntry t && t.kind != .flowSequenceEnd then
    pushState .flowSequenceEntryMappingValue
    node false false
  else
    goTo .flowSequenceEntryMappingValue
    return emptyScalar t.start

def flowSequenceEntryMappingValue : Parse (Event × Mark) := do
  let t ← peek
  if isValue t then
    skipToken
    let t ← peek
    if !isFlowEntry t && t.kind != .flowSequenceEnd then
      pushState .flowSequenceEntryMappingEnd
      return ← node false false
    goTo .flowSequenceEntryMappingEnd
    return emptyScalar t.start
  goTo .flowSequenceEntryMappingEnd
  return emptyScalar t.start

def flowSequenceEntryMappingEnd : Parse (Event × Mark) := do
  goTo .flowSequenceEntry
  return (.mappingEnd, (← peek).start)

def flowMappingKey (first : Bool) : Parse (Event × Mark) := do
  if first then
    pushMark (← peek).start
    skipToken
  let mut t ← peek
  if t.kind != .flowMappingEnd then
    if !first then
      if isFlowEntry t then
        skipToken
        t ← peek
      else
        let m ← popMark
        failAt (some "while parsing a flow mapping") m "did not find expected ',' or '\x7d'" t.start
    if isKey t then
      skipToken
      let k ← peek
      if !isValue k && !isFlowEntry k && k.kind != .flowMappingEnd then
        pushState .flowMappingValue
        return ← node false false
      goTo .flowMappingValue
      return emptyScalar k.start
    if t.kind != .flowMappingEnd then
      pushState .flowMappingEmptyValue
      return ← node false false
  popState
  let _ ← popMark
  skipToken
  return (.mappingEnd, t.start)

def flowMappingValue (empty : Bool) : Parse (Event × Mark) := do
  let t ← peek
  if empty then
    goTo .flowMappingKey
    return emptyScalar t.start
  if isValue t then
    skipToken
    let t ← peek
    if !isFlowEntry t && t.kind != .flowMappingEnd then
      pushState .flowMappingKey
      return ← node false false
    goTo .flowMappingKey
    return emptyScalar t.start
  goTo .flowMappingKey
  return emptyScalar t.start

def step : Parse (Event × Mark) := do
  match (← get).state with
  | .streamStart =>
    let t ← peek
    skipToken
    goTo .implicitDocumentStart
    return (.streamStart, t.start)
  | .implicitDocumentStart => documentStart true
  | .documentStart => documentStart false
  | .documentContent => documentContent
  | .documentEnd => documentEnd
  | .blockNode => node true false
  | .blockSequenceFirstEntry => blockSequenceEntry true
  | .blockSequenceEntry => blockSequenceEntry false
  | .indentlessSequenceEntry => indentlessSequenceEntry
  | .blockMappingFirstKey => blockMappingKey true
  | .blockMappingKey => blockMappingKey false
  | .blockMappingValue => blockMappingValue
  | .flowSequenceFirstEntry => flowSequenceEntry true
  | .flowSequenceEntry => flowSequenceEntry false
  | .flowSequenceEntryMappingKey => flowSequenceEntryMappingKey
  | .flowSequenceEntryMappingValue => flowSequenceEntryMappingValue
  | .flowSequenceEntryMappingEnd => flowSequenceEntryMappingEnd
  | .flowMappingFirstKey => flowMappingKey true
  | .flowMappingKey => flowMappingKey false
  | .flowMappingValue => flowMappingValue false
  | .flowMappingEmptyValue => flowMappingValue true
  | .finished => throw { problem := "no more events" }

end Parse

def Parser.drive (fuel : Nat) (p : Parser) (out : Array (Event × Mark)) :
    Array (Event × Mark) × Option Problem :=
  match fuel with
  | 0 => (out, none)
  | fuel + 1 =>
    match (Parse.step.run).run p with
    | (.error e, _) => (out, some e)
    | (.ok e, p') => if e.1 == .streamEnd then (out.push e, none) else drive fuel p' (out.push e)

/-- The events of a text, up to the end of the stream or to the first problem. Every step
either consumes a token or moves towards one, so four steps a token suffice. -/
def events (text : String) : Array (Event × Mark) × Option Problem :=
  let (tokens, scanProblem) := scan text
  Parser.drive (4 * tokens.size + 16) { tokens, scanProblem } #[]

end DiskUploader.Yaml
