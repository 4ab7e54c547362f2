import DiskUploader.Yaml.Token

/-!
# Scanning YAML

The scanner walks the text once and produces tokens. Indentation opens and closes block
collections: a line that starts further right than the current block opens a new one, and one
that starts further left closes blocks with `blockEnd` tokens. A mapping key is usually not
marked: a scalar or collection that could be a key is remembered as a *simple key*, and when a
`:` follows on the same line the key token, and if needed the start of a block mapping, are
inserted in front of it after the fact. A simple key at the indentation of a block mapping must
find its `:`; one that is left behind by the end of its line is a problem.

Tokens are released in order, but a token that a remembered simple key may still precede is
held back. When the scanner fails, the tokens released so far are kept together with the
problem, so that a reader of the tokens sees everything it could have seen before the failure.

Before scanning, the text is checked for characters YAML does not allow at all.
-/

namespace DiskUploader.Yaml

/-- A place where a mapping key may begin without an explicit `?`. -/
structure SimpleKey where
  possible : Bool := false
  required : Bool := false
  /-- Where the key token goes in the token list. -/
  tokenNumber : Nat := 0
  mark : Mark := {}
  deriving Inhabited

structure Scanner where
  text : Array Char
  mark : Mark := {}
  tokens : Array Token := #[]
  /-- How many tokens no remembered simple key can precede any more. -/
  released : Nat := 0
  indent : Int := -1
  indents : List Int := []
  simpleKeyAllowed : Bool := false
  /-- One entry per flow level, the innermost first. -/
  simpleKeys : List SimpleKey := []
  flowLevel : Nat := 0
  streamStarted : Bool := false
  streamEnded : Bool := false
  deriving Inhabited

/-- Scanning work: it may fail with a problem, and the state survives the failure. -/
abbrev Scan := ExceptT Problem (StateM Scanner)

def isBreak (c : Char) : Bool :=
  c == '\r' || c == '\n' || c.toNat == 0x85 || c.toNat == 0x2028 || c.toNat == 0x2029

def isBlank (c : Char) : Bool := c == ' ' || c == '\t'

def isEnd (c : Char) : Bool := c.toNat == 0

def isBreakz (c : Char) : Bool := isBreak c || isEnd c

def isBlankz (c : Char) : Bool := isBlank c || isBreakz c

def isWordChar (c : Char) : Bool := c.isAlphanum || c == '_' || c == '-'

def allowedChar (c : Char) : Bool :=
  let n := c.toNat
  n == 0x09 || n == 0x0A || n == 0x0D || (0x20 ≤ n && n ≤ 0x7E) || n == 0x85 ||
    (0xA0 ≤ n && n ≤ 0xD7FF) || (0xE000 ≤ n && n ≤ 0xFFFD) || 0x10000 ≤ n

namespace Scan

/-- The character `k` places ahead; NUL beyond the end. -/
def peekAt (k : Nat) : Scan Char := do
  let s ← get
  return s.text.getD (s.mark.index + k) (Char.ofNat 0)

def mark : Scan Mark := return (← get).mark

def skip : Scan Unit :=
  modify fun s =>
    { s with mark := { s.mark with index := s.mark.index + 1, column := s.mark.column + 1 } }

/-- Moves past a line break; a carriage return and line feed count as one. -/
def skipLine : Scan Unit := do
  let c ← peekAt 0
  let n := if c == '\r' && (← peekAt 1) == '\n' then 2 else if isBreak c then 1 else 0
  if n > 0 then
    modify fun s =>
      { s with mark := { index := s.mark.index + n, line := s.mark.line + 1, column := 0 } }

/-- Reads a line break: the ASCII ones and the next-line control read as a line feed. -/
def readLine : Scan String := do
  let c ← peekAt 0
  skipLine
  return if c.toNat == 0x2028 || c.toNat == 0x2029 then String.singleton c else "\n"

def readChar : Scan Char := do
  let c ← peekAt 0
  skip
  return c

def fuel : Scan Nat := do
  let s ← get
  return s.text.size - s.mark.index + 1

def fail {α : Type} (context : String) (contextMark : Mark) (problem : String) : Scan α := do
  throw { problem, problemMark := ← mark, context := some context, contextMark }

def failHere {α : Type} (problem : String) : Scan α := do
  throw { problem, problemMark := ← mark }

def atDocumentIndicator : Scan Bool := do
  let s ← get
  if s.mark.column != 0 then return false
  let c0 ← peekAt 0
  let c1 ← peekAt 1
  let c2 ← peekAt 2
  let c3 ← peekAt 3
  return ((c0 == '-' && c1 == '-' && c2 == '-') || (c0 == '.' && c1 == '.' && c2 == '.')) &&
    isBlankz c3

def push (kind : TokenKind) (start stop : Mark) : Scan Unit :=
  modify fun s => { s with tokens := s.tokens.push ⟨kind, start, stop⟩ }

/-- Forgets the innermost simple key; one that had to find its `:` is a problem. -/
def removeSimpleKey : Scan Unit := do
  let s ← get
  match s.simpleKeys with
  | k :: rest =>
    if k.possible && k.required then
      fail "while scanning a simple key" k.mark "could not find expected ':'"
    set { s with simpleKeys := { k with possible := false } :: rest }
  | [] => pure ()

def saveSimpleKey : Scan Unit := do
  let s ← get
  if s.simpleKeyAllowed then
    let key : SimpleKey :=
      { possible := true, required := s.flowLevel == 0 && s.indent == (s.mark.column : Int),
        tokenNumber := s.tokens.size, mark := s.mark }
    removeSimpleKey
    modify fun s => { s with simpleKeys := match s.simpleKeys with
      | _ :: rest => key :: rest
      | [] => [key] }

def staleSimpleKeys : Scan Unit := do
  let s ← get
  let keys ← s.simpleKeys.reverse.mapM fun k => do
    if k.possible && (k.mark.line < s.mark.line || k.mark.index + 1024 < s.mark.index) then
      if k.required then fail "while scanning a simple key" k.mark "could not find expected ':'"
      pure { k with possible := false }
    else pure k
  modify fun s => { s with simpleKeys := keys.reverse }

/-- Opens a block collection when a line starts further right than the current block; the
token goes at the end, or in front of the token numbered `number`. -/
def rollIndent (column : Int) (number : Option Nat) (kind : TokenKind) (m : Mark) : Scan Unit := do
  let s ← get
  if s.flowLevel > 0 || column ≤ s.indent then return
  let t : Token := ⟨kind, m, m⟩
  let tokens := match number with
    | some n => s.tokens.insertIdxIfInBounds n t
    | none => s.tokens.push t
  set { s with indents := s.indent :: s.indents, indent := column, tokens }

def closeBlocks (column : Int) (m : Mark) : Int → List Int → Array Token → Int × List Int × Array Token
  | indent, i :: rest, acc =>
    if indent > column then closeBlocks column m i rest (acc.push ⟨.blockEnd, m, m⟩)
    else (indent, i :: rest, acc)
  | indent, [], acc => (indent, [], acc)

def unrollIndent (column : Int) : Scan Unit := do
  let s ← get
  if s.flowLevel > 0 then return
  let (indent, indents, tokens) := closeBlocks column s.mark s.indent s.indents s.tokens
  set { s with indent, indents, tokens }

def increaseFlowLevel : Scan Unit :=
  modify fun s => { s with simpleKeys := {} :: s.simpleKeys, flowLevel := s.flowLevel + 1 }

def decreaseFlowLevel : Scan Unit :=
  modify fun s =>
    if s.flowLevel > 0 then { s with flowLevel := s.flowLevel - 1, simpleKeys := s.simpleKeys.drop 1 }
    else s

def allowSimpleKey (b : Bool) : Scan Unit := modify fun s => { s with simpleKeyAllowed := b }

def scanToNextToken : Scan Unit := do
  for _ in [0:← fuel] do
    let s ← get
    if s.mark.column == 0 && (← peekAt 0).toNat == 0xFEFF then skip
    for _ in [0:← fuel] do
      let c ← peekAt 0
      let s ← get
      if c == ' ' || ((s.flowLevel > 0 || !s.simpleKeyAllowed) && c == '\t') then skip else break
    if (← peekAt 0) == '#' then
      for _ in [0:← fuel] do
        if isBreakz (← peekAt 0) then break
        skip
    if isBreak (← peekAt 0) then
      skipLine
      if (← get).flowLevel == 0 then allowSimpleKey true
    else break

/-- Joins the line breaks and blanks met inside a scalar, as folding asks: a single line feed
becomes a space, and further breaks stay. -/
def fold (leadingBreak trailingBreaks : String) : String :=
  if leadingBreak.startsWith "\n" then
    if trailingBreaks.isEmpty then " " else trailingBreaks
  else leadingBreak ++ trailingBreaks

def plainScalar : Scan Unit := do
  let start ← mark
  let indent := (← get).indent + 1
  let mut out := ""
  let mut leadingBreak := ""
  let mut trailingBreaks := ""
  let mut whitespaces := ""
  let mut leadingBlanks := false
  let mut stop := start
  for _ in [0:← fuel] do
    if ← atDocumentIndicator then break
    if (← peekAt 0) == '#' then break
    for _ in [0:← fuel] do
      let c ← peekAt 0
      if isBlankz c then break
      let c1 ← peekAt 1
      let flow := (← get).flowLevel > 0
      if flow && c == ':' && ",?[]\x7b\x7d".contains c1 then
        fail "while scanning a plain scalar" start "found unexpected ':'"
      if (c == ':' && isBlankz c1) || (flow && ",[]\x7b\x7d".contains c) then break
      if leadingBlanks || !whitespaces.isEmpty then
        if leadingBlanks then
          out := out ++ fold leadingBreak trailingBreaks
          leadingBreak := ""
          trailingBreaks := ""
          leadingBlanks := false
        else
          out := out ++ whitespaces
          whitespaces := ""
      out := out.push c
      skip
      stop ← mark
    let c ← peekAt 0
    if !(isBlank c || isBreak c) then break
    for _ in [0:← fuel] do
      let c ← peekAt 0
      if isBlank c then
        if leadingBlanks && ((← get).mark.column : Int) < indent && c == '\t' then
          fail "while scanning a plain scalar" start "found a tab character that violates indentation"
        if !leadingBlanks then whitespaces := whitespaces.push c
        skip
      else if isBreak c then
        if !leadingBlanks then
          whitespaces := ""
          leadingBreak ← readLine
          leadingBlanks := true
        else
          trailingBreaks := trailingBreaks ++ (← readLine)
      else break
    let s ← get
    if s.flowLevel == 0 && (s.mark.column : Int) < indent then break
  push (.scalar out .plain) start stop
  if leadingBlanks then allowSimpleKey true

/-- The character a double-quoted escape stands for, or the number of hexadecimal digits that
follow it. -/
def escapeOf (c : Char) : Option (Sum Char Nat) :=
  match c with
  | '0' => some (.inl (Char.ofNat 0)) | 'a' => some (.inl (Char.ofNat 7))
  | 'b' => some (.inl (Char.ofNat 8)) | 't' => some (.inl '\t') | '\t' => some (.inl '\t')
  | 'n' => some (.inl '\n') | 'v' => some (.inl (Char.ofNat 11))
  | 'f' => some (.inl (Char.ofNat 12)) | 'r' => some (.inl '\r')
  | 'e' => some (.inl (Char.ofNat 27)) | ' ' => some (.inl ' ') | '"' => some (.inl '"')
  | '/' => some (.inl '/') | '\\' => some (.inl '\\') | 'N' => some (.inl (Char.ofNat 0x85))
  | '_' => some (.inl (Char.ofNat 0xA0)) | 'L' => some (.inl (Char.ofNat 0x2028))
  | 'P' => some (.inl (Char.ofNat 0x2029))
  | 'x' => some (.inr 2) | 'u' => some (.inr 4) | 'U' => some (.inr 8)
  | _ => none

def hexValue (c : Char) : Option Nat :=
  if c.isDigit then some (c.toNat - 48)
  else if 'a' ≤ c && c ≤ 'f' then some (c.toNat - 87)
  else if 'A' ≤ c && c ≤ 'F' then some (c.toNat - 55)
  else none

def quotedScalar (single : Bool) : Scan Unit := do
  let start ← mark
  skip
  let quote := if single then '\'' else '"'
  let mut out := ""
  let mut leadingBreak := ""
  let mut trailingBreaks := ""
  let mut whitespaces := ""
  for _ in [0:← fuel] do
    if ← atDocumentIndicator then
      fail "while scanning a quoted scalar" start "found unexpected document indicator"
    if isEnd (← peekAt 0) then
      fail "while scanning a quoted scalar" start "found unexpected end of stream"
    let mut leadingBlanks := false
    for _ in [0:← fuel] do
      let c ← peekAt 0
      if isBlankz c then break
      let c1 ← peekAt 1
      if single && c == '\'' && c1 == '\'' then
        out := out.push '\''
        skip
        skip
      else if c == quote then break
      else if !single && c == '\\' && isBreak c1 then
        skip
        skipLine
        leadingBlanks := true
        break
      else if !single && c == '\\' then
        match escapeOf c1 with
        | none => fail "while parsing a quoted scalar" start "found unknown escape character"
        | some (.inl e) =>
          out := out.push e
          skip
          skip
        | some (.inr width) =>
          skip
          skip
          let mut v := 0
          for _ in [0:width] do
            match hexValue (← peekAt 0) with
            | some d =>
              v := v * 16 + d
              skip
            | none =>
              fail "while parsing a quoted scalar" start "did not find expected hexdecimal number"
          if (0xD800 ≤ v && v ≤ 0xDFFF) || v > 0x10FFFF then
            fail "while parsing a quoted scalar" start "found invalid Unicode character escape code"
          out := out.push (Char.ofNat v)
      else
        out := out.push c
        skip
    if (← peekAt 0) == quote then break
    for _ in [0:← fuel] do
      let c ← peekAt 0
      if isBlank c then
        if !leadingBlanks then whitespaces := whitespaces.push c
        skip
      else if isBreak c then
        if !leadingBlanks then
          whitespaces := ""
          leadingBreak ← readLine
          leadingBlanks := true
        else
          trailingBreaks := trailingBreaks ++ (← readLine)
      else break
    if leadingBlanks then
      out := out ++ fold leadingBreak trailingBreaks
      leadingBreak := ""
      trailingBreaks := ""
    else
      out := out ++ whitespaces
      whitespaces := ""
  skip
  push (.scalar out (if single then .singleQuoted else .doubleQuoted)) start (← mark)

/-- Skips the indentation and empty lines in front of a block scalar's next line, collecting
the line breaks; fixes the indentation from the deepest empty line when it is still open. -/
def blockBreaks (indent : Nat) (start : Mark) : Scan (Nat × String × Mark) := do
  let mut breaks := ""
  let mut maxIndent := 0
  let mut stop ← mark
  for _ in [0:← fuel] do
    for _ in [0:← fuel] do
      let col := (← get).mark.column
      if (indent == 0 || col < indent) && (← peekAt 0) == ' ' then skip else break
    let col := (← get).mark.column
    if col > maxIndent then maxIndent := col
    if (indent == 0 || col < indent) && (← peekAt 0) == '\t' then
      fail "while scanning a block scalar" start
        "found a tab character where an indentation space is expected"
    if !isBreak (← peekAt 0) then break
    breaks := breaks ++ (← readLine)
    stop ← mark
  let parent := (← get).indent
  let indent := if indent == 0 then
      let i := max maxIndent (parent + 1).toNat
      max i 1
    else indent
  return (indent, breaks, stop)

def blockScalar (literal : Bool) : Scan Unit := do
  let start ← mark
  skip
  let mut chomping : Int := 0
  let mut increment := 0
  let c ← peekAt 0
  if c == '+' || c == '-' then
    chomping := if c == '+' then 1 else -1
    skip
    let d ← peekAt 0
    if d.isDigit then
      if d == '0' then
        fail "while scanning a block scalar" start "found an indentation indicator equal to 0"
      increment := d.toNat - 48
      skip
  else if c.isDigit then
    if c == '0' then
      fail "while scanning a block scalar" start "found an indentation indicator equal to 0"
    increment := c.toNat - 48
    skip
    let d ← peekAt 0
    if d == '+' || d == '-' then
      chomping := if d == '+' then 1 else -1
      skip
  for _ in [0:← fuel] do
    if isBlank (← peekAt 0) then skip else break
  if (← peekAt 0) == '#' then
    for _ in [0:← fuel] do
      if isBreakz (← peekAt 0) then break
      skip
  if !isBreakz (← peekAt 0) then
    fail "while scanning a block scalar" start "did not find expected comment or line break"
  if isBreak (← peekAt 0) then skipLine
  let parent := (← get).indent
  let indent0 := if increment > 0 then
      (if parent ≥ 0 then (parent + increment).toNat else increment)
    else 0
  let (indent, firstBreaks, stop0) ← blockBreaks indent0 start
  let mut stop := stop0
  let mut trailingBreaks := firstBreaks
  let mut leadingBreak := ""
  let mut leadingBlank := false
  let mut out := ""
  for _ in [0:← fuel] do
    if (← get).mark.column != indent || isEnd (← peekAt 0) then break
    let trailingBlank := isBlank (← peekAt 0)
    if !literal && leadingBreak.startsWith "\n" && !leadingBlank && !trailingBlank then
      if trailingBreaks.isEmpty then out := out.push ' '
      leadingBreak := ""
    else
      out := out ++ leadingBreak
      leadingBreak := ""
    out := out ++ trailingBreaks
    trailingBreaks := ""
    leadingBlank := isBlank (← peekAt 0)
    for _ in [0:← fuel] do
      let c ← peekAt 0
      if isBreakz c then break
      out := out.push c
      skip
    if isEnd (← peekAt 0) then break
    leadingBreak ← readLine
    let (_, breaks, s) ← blockBreaks indent start
    trailingBreaks := breaks
    stop := s
  if chomping != -1 then out := out ++ leadingBreak
  if chomping == 1 then out := out ++ trailingBreaks
  push (.scalar out (if literal then .literal else .folded)) start stop

def anchorOrAlias (isAlias : Bool) : Scan Unit := do
  let start ← mark
  skip
  let mut name := ""
  for _ in [0:← fuel] do
    let c ← peekAt 0
    if isWordChar c then
      name := name.push c
      skip
    else break
  let c ← peekAt 0
  if name.isEmpty || !(isBlankz c || "?:,]\x7d%@`".contains c) then
    fail (if isAlias then "while scanning an alias" else "while scanning an anchor") start
      "did not find expected alphabetic or numeric character"
  push (if isAlias then .aliasRef name else .anchor name) start (← mark)

/-- Scans a tag: `!<uri>`, `!handle!suffix` or `!suffix`. -/
def tag : Scan Unit := do
  let start ← mark
  let flow := (← get).flowLevel > 0
  let tagChar := fun (c : Char) => !isBlankz c && !(flow && ",[]\x7b\x7d".contains c)
  if (← peekAt 1) == '<' then
    skip
    skip
    let mut suffix := ""
    for _ in [0:← fuel] do
      let c ← peekAt 0
      if c == '>' || isBlankz c then break
      suffix := suffix.push c
      skip
    if (← peekAt 0) != '>' then fail "while scanning a tag" start "did not find the expected '>'"
    skip
    push (.tag "" suffix) start (← mark)
  else
    skip
    let mut word := ""
    for _ in [0:← fuel] do
      let c ← peekAt 0
      if isWordChar c then
        word := word.push c
        skip
      else break
    let mut handle := "!"
    let mut suffix := word
    if (← peekAt 0) == '!' then
      skip
      handle := "!" ++ word ++ "!"
      suffix := ""
    for _ in [0:← fuel] do
      let c ← peekAt 0
      if !tagChar c then break
      suffix := suffix.push c
      skip
    if suffix.isEmpty && handle == "!" then
      handle := ""
      suffix := "!"
    let c ← peekAt 0
    if !isBlankz c && !(flow && c == ',') then
      fail "while scanning a tag" start "did not find expected whitespace or line break"
    push (.tag handle suffix) start (← mark)

def directive : Scan Unit := do
  let start ← mark
  skip
  let mut name := ""
  for _ in [0:← fuel] do
    let c ← peekAt 0
    if isWordChar c then
      name := name.push c
      skip
    else break
  if name.isEmpty then
    fail "while scanning a directive" start "could not find expected directive name"
  if !isBlankz (← peekAt 0) then
    fail "while scanning a directive" start "found unexpected non-alphabetical character"
  for _ in [0:← fuel] do
    if isBlank (← peekAt 0) then skip else break
  let mut arg := ""
  for _ in [0:← fuel] do
    let c ← peekAt 0
    if isBlankz c then break
    arg := arg.push c
    skip
  if name == "YAML" then
    match arg.splitOn "." with
    | [a, b] =>
      match a.toNat?, b.toNat? with
      | some major, some minor => push (.versionDirective major minor) start (← mark)
      | _, _ => fail "while scanning a %YAML directive" start "did not find expected digit or '.' character"
    | _ => fail "while scanning a %YAML directive" start "did not find expected digit or '.' character"
  else if name == "TAG" then
    for _ in [0:← fuel] do
      if isBlank (← peekAt 0) then skip else break
    let mut pre := ""
    for _ in [0:← fuel] do
      let c ← peekAt 0
      if isBlankz c then break
      pre := pre.push c
      skip
    push (.tagDirective arg pre) start (← mark)
  else
    fail "while scanning a directive" start "found unknown directive name"
  for _ in [0:← fuel] do
    if isBlank (← peekAt 0) then skip else break
  if (← peekAt 0) == '#' then
    for _ in [0:← fuel] do
      if isBreakz (← peekAt 0) then break
      skip
  if !isBreakz (← peekAt 0) then
    fail "while scanning a directive" start "did not find expected comment or line break"
  if isBreak (← peekAt 0) then skipLine

def fetchNext : Scan Unit := do
  if !(← get).streamStarted then
    modify fun s =>
      { s with indent := -1, simpleKeyAllowed := true, simpleKeys := [{}], streamStarted := true }
    push .streamStart (← mark) (← mark)
    return
  scanToNextToken
  staleSimpleKeys
  unrollIndent (← get).mark.column
  let c ← peekAt 0
  let c1 ← peekAt 1
  let flow := (← get).flowLevel > 0
  let here ← mark
  let single := fun (kind : TokenKind) => do
    skip
    push kind here (← mark)
  if isEnd c then
    let s ← get
    if s.mark.column != 0 then
      set { s with mark := { s.mark with column := 0, line := s.mark.line + 1 } }
    unrollIndent (-1)
    removeSimpleKey
    allowSimpleKey false
    modify fun s => { s with streamEnded := true }
    push .streamEnd (← mark) (← mark)
  else if here.column == 0 && c == '%' then
    unrollIndent (-1)
    removeSimpleKey
    allowSimpleKey false
    directive
  else if ← atDocumentIndicator then
    unrollIndent (-1)
    removeSimpleKey
    allowSimpleKey false
    skip
    skip
    skip
    push (if c == '-' then .documentStart else .documentEnd) here (← mark)
  else if c == '[' || c == '{' then
    saveSimpleKey
    increaseFlowLevel
    allowSimpleKey true
    single (if c == '[' then .flowSequenceStart else .flowMappingStart)
  else if c == ']' || c == '}' then
    removeSimpleKey
    decreaseFlowLevel
    allowSimpleKey false
    single (if c == ']' then .flowSequenceEnd else .flowMappingEnd)
  else if c == ',' then
    removeSimpleKey
    allowSimpleKey true
    single .flowEntry
  else if c == '-' && isBlankz c1 then
    if !flow then
      if !(← get).simpleKeyAllowed then
        failHere "block sequence entries are not allowed in this context"
      rollIndent here.column none .blockSequenceStart here
    removeSimpleKey
    allowSimpleKey true
    single .blockEntry
  else if c == '?' && (flow || isBlankz c1) then
    if !flow then
      if !(← get).simpleKeyAllowed then
        failHere "mapping keys are not allowed in this context"
      rollIndent here.column none .blockMappingStart here
    removeSimpleKey
    allowSimpleKey !flow
    single .key
  else if c == ':' && (flow || isBlankz c1) then
    let s ← get
    match s.simpleKeys with
    | k :: rest =>
      if k.possible then
        let keyToken : Token := ⟨.key, k.mark, k.mark⟩
        modify fun s => { s with tokens := s.tokens.insertIdxIfInBounds k.tokenNumber keyToken }
        rollIndent k.mark.column (some k.tokenNumber) .blockMappingStart k.mark
        modify fun s => { s with simpleKeys := { k with possible := false } :: rest }
        allowSimpleKey false
      else
        if !flow then
          if !s.simpleKeyAllowed then
            failHere "mapping values are not allowed in this context"
          rollIndent here.column none .blockMappingStart here
        allowSimpleKey !flow
    | [] => allowSimpleKey !flow
    single .value
  else if c == '*' || c == '&' then
    saveSimpleKey
    allowSimpleKey false
    anchorOrAlias (c == '*')
  else if c == '!' then
    saveSimpleKey
    allowSimpleKey false
    tag
  else if (c == '|' || c == '>') && !flow then
    removeSimpleKey
    allowSimpleKey true
    blockScalar (c == '|')
  else if c == '\'' || c == '"' then
    saveSimpleKey
    allowSimpleKey false
    quotedScalar (c == '\'')
  else if !(isBlankz c || "-?:,[]\x7b\x7d#&*!|>'\"%@`".contains c) || (c == '-' && !isBlank c1) ||
      (!flow && (c == '?' || c == ':') && !isBlankz c1) then
    saveSimpleKey
    allowSimpleKey false
    plainScalar
  else
    fail "while scanning for the next token" here "found character that cannot start any token"

/-- How many tokens are released: those in front of every simple key that may still be
inserted. -/
def releasable : Scan Nat := do
  let s ← get
  return s.simpleKeys.foldl (fun n k => if k.possible then min n k.tokenNumber else n) s.tokens.size

end Scan

def firstForbidden (cs : List Char) : Option Nat :=
  let rec go : List Char → Nat → Option Nat
    | [], _ => none
    | c :: rest, offset => if allowedChar c then go rest (offset + c.utf8Size) else some offset
  go cs 0

/-- The tokens of a text: all of them, or those released before a problem and the problem. -/
def scan (text : String) : Array Token × Option Problem :=
  let cs := match text.toList with
    | c :: rest => if c.toNat == 0xFEFF then rest else c :: rest
    | [] => []
  match firstForbidden cs with
  | some offset => (#[], some { problem := "control characters are not allowed", offset })
  | none =>
    let run : Scan Unit := do
      for _ in [0:cs.length + 3] do
        if (← get).streamEnded then break
        Scan.fetchNext
        let n ← Scan.releasable
        modify fun s => { s with released := n }
    match (run.run).run { text := cs.toArray } with
    | (.ok (), s) => (s.tokens, none)
    | (.error p, s) => (s.tokens.extract 0 s.released, some p)

end DiskUploader.Yaml
