import DiskUploader.Yaml.Resolve

/-!
# Writing YAML

A document is written from a flat list of events: scalars and the starts and ends of block
mappings and sequences. Mappings are indented by two columns per level, a key and its scalar
value share a line, and a nested mapping starts on the line after its key. Each item of a
sequence starts with `- ` on a line of its own; a sequence under a key is not indented further,
and a mapping item starts on the line of its dash. Empty collections are written `[]` and `{}`.

Each scalar is written in the simplest style that reads back as the same text:
* plain, unless the text starts with an indicator, holds `": "` or `" #"`, starts or ends with
  a space or a break, or holds a break at all;
* single-quoted otherwise, doubling each quote, unless the text holds a character that does not
  print (tab and other controls, the C1 controls, characters beyond the basic plane, the byte
  order mark) or a space next to a break;
* double-quoted as the last resort, with backslash escapes for what does not print;
* a literal block when one is asked for and the text allows it, with an indentation hint when it
  starts with a space or a break and a chomping hint for how it ends.

Text is asked to be single-quoted when it would otherwise read back as something else (a null,
a boolean, a number), and as a literal block when it holds a line feed. Plain and quoted lines
longer than 80 columns are folded at a single space.
-/

namespace DiskUploader.Yaml

/-- The style a scalar is asked to be written in. -/
inductive Requested where
  | any | plain | singleQuoted | literal
  deriving DecidableEq, Repr, Inhabited

inductive Written where
  | plain | singleQuoted | doubleQuoted | literal
  deriving DecidableEq, Repr, Inhabited

inductive Emit where
  | scalar (value : String) (style : Requested)
  | mappingStart
  | mappingEnd
  | sequenceStart
  | sequenceEnd
  deriving DecidableEq, Repr, Inhabited

def isLineBreak (c : Char) : Bool :=
  c == '\r' || c == '\n' || c.val == 0x85 || c.val == 0x2028 || c.val == 0x2029

def isPrintable (c : Char) : Bool :=
  let v := c.val
  c == '\n' || (0x20 ≤ v && v ≤ 0x7e) || (0xa0 ≤ v && v ≤ 0xd7ff) ||
    (0xe000 ≤ v && v ≤ 0xfffd && v != 0xfeff)

def isBlankOrEnd : Option Char → Bool
  | none => true
  | some c => c == ' ' || c == '\t' || isLineBreak c

structure Allowed where
  multiline : Bool
  plain : Bool
  singleQuoted : Bool
  block : Bool
  deriving DecidableEq, Repr, Inhabited

structure Survey where
  blockIndicators : Bool := false
  lineBreaks : Bool := false
  special : Bool := false
  leadingSpace : Bool := false
  leadingBreak : Bool := false
  trailingSpace : Bool := false
  trailingBreak : Bool := false
  breakSpace : Bool := false
  spaceBreak : Bool := false
  previousSpace : Bool := false
  previousBreak : Bool := false
  precededByBlank : Bool := true

def Survey.step (s : Survey) (i n : Nat) (c : Char) (next : Option Char) : Survey :=
  let followed := isBlankOrEnd next
  let block :=
    if i == 0 then
      "#,[]\x7b\x7d&*!|>'\"%@`".contains c || ((c == '?' || c == ':') && followed) ||
        (c == '-' && followed)
    else (c == ':' && followed) || (c == '#' && s.precededByBlank)
  let s := { s with
    blockIndicators := s.blockIndicators || block
    special := s.special || !isPrintable c
    lineBreaks := s.lineBreaks || isLineBreak c }
  let s :=
    if c == ' ' then
      { s with
        leadingSpace := s.leadingSpace || i == 0
        trailingSpace := s.trailingSpace || i + 1 == n
        breakSpace := s.breakSpace || s.previousBreak
        previousSpace := true, previousBreak := false }
    else if isLineBreak c then
      { s with
        leadingBreak := s.leadingBreak || i == 0
        trailingBreak := s.trailingBreak || i + 1 == n
        spaceBreak := s.spaceBreak || s.previousSpace
        previousSpace := false, previousBreak := true }
    else { s with previousSpace := false, previousBreak := false }
  { s with precededByBlank := isBlankOrEnd (some c) }

def analyze (value : String) : Allowed :=
  let cs := value.toList
  if cs.isEmpty then ⟨false, true, true, false⟩
  else
    let n := cs.length
    let start : Survey :=
      { blockIndicators := value.startsWith "---" || value.startsWith "..." }
    let s := (cs.zipIdx.foldl (fun (s : Survey) (c, i) => s.step i n c cs[i + 1]?) start)
    let plainOk := !(s.leadingSpace || s.leadingBreak || s.trailingSpace || s.trailingBreak ||
      s.breakSpace || s.spaceBreak || s.special || s.lineBreaks || s.blockIndicators)
    let singleOk := !(s.breakSpace || s.spaceBreak || s.special)
    let blockOk := !(s.trailingSpace || s.spaceBreak || s.special)
    ⟨s.lineBreaks, plainOk, singleOk, blockOk⟩

def chooseStyle (value : String) (requested : Requested) (asKey : Bool) : Written :=
  let a := analyze value
  let style : Written := match requested with
    | .any | .plain => .plain
    | .singleQuoted => .singleQuoted
    | .literal => .literal
  let style := if asKey && a.multiline then .doubleQuoted else style
  let style :=
    if style == .plain && (!a.plain || (value.isEmpty && asKey)) then .singleQuoted else style
  let style := if style == .singleQuoted && !a.singleQuoted then .doubleQuoted else style
  if style == .literal && (!a.block || asKey) then .doubleQuoted else style

/-- The style text is asked for: a literal block when it holds a line feed, single quotes when
it would read back as anything but text. -/
def textStyle (value : String) : Requested :=
  if value.contains '\n' then .literal
  else match resolvePlain value with
    | .text _ => if digitsButNotNumber value then .singleQuoted else .any
    | _ => .singleQuoted

def bestWidth : Nat := 80

/-- The writer's state: the text so far, the column, and whether the last thing written was
white space or indentation. -/
structure Writer where
  out : String := ""
  column : Nat := 0
  whitespace : Bool := true
  indention : Bool := true
  deriving Inhabited

namespace Writer

def put (w : Writer) (c : Char) : Writer := { w with out := w.out.push c, column := w.column + 1 }

def newline (w : Writer) : Writer := { w with out := w.out.push '\n', column := 0 }

def lineBreak (w : Writer) (c : Char) : Writer :=
  if c == '\n' then w.newline else { w with out := w.out.push c, column := 0 }

def indent (w : Writer) (n : Nat) : Writer :=
  let w := if !w.indention || w.column > n || (w.column == n && !w.whitespace) then w.newline
    else w
  let w := { w with out := w.out ++ String.ofList (List.replicate (n - w.column) ' '),
                    column := max w.column n }
  { w with whitespace := true, indention := true }

def indicator (w : Writer) (text : String) (needSpace isSpace isIndention : Bool) : Writer :=
  let w := if needSpace && !w.whitespace then w.put ' ' else w
  let w := text.foldl put w
  { w with whitespace := isSpace, indention := w.indention && isIndention }

/-- The state of writing the characters of a quoted or plain scalar. -/
structure Run where
  w : Writer
  spaces : Bool := false
  breaks : Bool := false

def plain (w : Writer) (value : String) (allowBreaks : Bool) (ind : Nat) : Writer :=
  let cs := value.toList
  let w := if !w.whitespace && !cs.isEmpty then w.put ' ' else w
  let r := cs.zipIdx.foldl (fun (r : Run) (c, i) =>
    if c == ' ' then
      if allowBreaks && !r.spaces && r.w.column > bestWidth && cs[i + 1]? != some ' ' then
        { r with w := r.w.indent ind, spaces := true }
      else { r with w := r.w.put c, spaces := true }
    else if isLineBreak c then
      let w := if !r.breaks && c == '\n' then r.w.newline else r.w
      { r with w := { w.lineBreak c with indention := true }, breaks := true }
    else
      let w := if r.breaks then r.w.indent ind else r.w
      { w := { w.put c with indention := false }, spaces := false, breaks := false }) { w }
  { r.w with whitespace := false, indention := false }

def singleQuoted (w : Writer) (value : String) (allowBreaks : Bool) (ind : Nat) : Writer :=
  let cs := value.toList
  let n := cs.length
  let w := w.indicator "'" true false false
  let r := cs.zipIdx.foldl (fun (r : Run) (c, i) =>
    if c == ' ' then
      if allowBreaks && !r.spaces && r.w.column > bestWidth && i != 0 && i + 1 != n &&
          cs[i + 1]? != some ' ' then
        { r with w := r.w.indent ind, spaces := true }
      else { r with w := r.w.put c, spaces := true }
    else if isLineBreak c then
      let w := if !r.breaks && c == '\n' then r.w.newline else r.w
      { r with w := { w.lineBreak c with indention := true }, breaks := true }
    else
      let w := if r.breaks then r.w.indent ind else r.w
      let w := if c == '\'' then w.put '\'' else w
      { w := { w.put c with indention := false }, spaces := false, breaks := false }) { w }
  let w := if r.breaks then r.w.indent ind else r.w
  { w.indicator "'" false false false with whitespace := false, indention := false }

def hexPadded (width v : Nat) : String :=
  let ds := (Nat.toDigits 16 v).map Char.toUpper
  String.ofList (List.replicate (width - ds.length) '0' ++ ds)

def escape (c : Char) : String :=
  match c.val.toNat with
  | 0x00 => "0" | 0x07 => "a" | 0x08 => "b" | 0x09 => "t" | 0x0a => "n" | 0x0b => "v"
  | 0x0c => "f" | 0x0d => "r" | 0x1b => "e" | 0x22 => "\"" | 0x5c => "\\" | 0x85 => "N"
  | 0xa0 => "_" | 0x2028 => "L" | 0x2029 => "P"
  | v =>
    if v ≤ 0xff then "x" ++ hexPadded 2 v
    else if v ≤ 0xffff then "u" ++ hexPadded 4 v
    else "U" ++ hexPadded 8 v

def doubleQuoted (w : Writer) (value : String) (allowBreaks : Bool) (ind : Nat) : Writer :=
  let cs := value.toList
  let n := cs.length
  let w := w.indicator "\"" true false false
  let r := cs.zipIdx.foldl (fun (r : Run) (c, i) =>
    if !isPrintable c || c.val == 0xfeff || isLineBreak c || c == '"' || c == '\\' then
      { r with w := (escape c).foldl put (r.w.put '\\'), spaces := false }
    else if c == ' ' then
      if allowBreaks && !r.spaces && r.w.column > bestWidth && i != 0 && i + 1 != n then
        let w := r.w.indent ind
        { r with w := if cs[i + 1]? == some ' ' then w.put '\\' else w, spaces := true }
      else { r with w := r.w.put c, spaces := true }
    else { r with w := r.w.put c, spaces := false }) { w }
  { r.w.indicator "\"" false false false with whitespace := false, indention := false }

def literal (w : Writer) (value : String) (ind : Nat) : Writer :=
  let cs := value.toList
  let w := w.indicator "|" true false false
  let w := match cs.head? with
    | some c => if c == ' ' || isLineBreak c then w.indicator "2" false false false else w
    | none => w
  let chomp :=
    match cs.reverse with
    | [] => some "-"
    | last :: rest =>
      if !isLineBreak last then some "-"
      else match rest with
        | [] => some "+"
        | before :: _ => if isLineBreak before then some "+" else none
  let w := match chomp with
    | some h => w.indicator h false false false
    | none => w
  let w := { w.newline with indention := true, whitespace := true }
  let r := cs.foldl (fun (r : Run) c =>
    if isLineBreak c then { r with w := { r.w.lineBreak c with indention := true }, breaks := true }
    else
      let w := if r.breaks then r.w.indent ind else r.w
      { r with w := { w.put c with indention := false }, breaks := false }) { w, breaks := true }
  r.w

def scalar (w : Writer) (value : String) (style : Written) (asKey : Bool) (ind : Nat) :
    Writer :=
  match style with
  | .plain => w.plain value (!asKey) ind
  | .singleQuoted => w.singleQuoted value (!asKey) ind
  | .doubleQuoted => w.doubleQuoted value (!asKey) ind
  | .literal => w.literal value ind

end Writer

/-- An open collection: its indentation, whether it is a sequence, and inside a mapping whether
a key comes next. -/
structure Level where
  indent : Nat
  expectKey : Bool
  sequence : Bool := false

def afterNode : List Level → List Level
  | l :: ls => if l.sequence then l :: ls else { l with expectKey := !l.expectKey } :: ls
  | [] => []

def itemLead (levels : List Level) (w : Writer) : Writer :=
  match levels with
  | l :: _ => if l.sequence then (w.indent l.indent).indicator "-" true false true else w
  | [] => w

def nestedIndent (levels : List Level) (sequence : Bool) : Nat :=
  match levels with
  | l :: _ => if sequence && !l.sequence then l.indent else l.indent + 2
  | [] => 0

def emitAll : List Emit → List Level → Writer → Writer
  | [], _, w => w
  | .mappingStart :: .mappingEnd :: rest, levels, w =>
    let w := (itemLead levels w).indicator "\x7b" true true false
    let w := { w.indicator "\x7d" false false false with whitespace := false }
    emitAll rest (afterNode levels) w
  | .sequenceStart :: .sequenceEnd :: rest, levels, w =>
    let w := (itemLead levels w).indicator "[" true true false
    let w := { w.indicator "]" false false false with whitespace := false }
    emitAll rest (afterNode levels) w
  | .mappingStart :: rest, levels, w =>
    emitAll rest (⟨nestedIndent levels false, true, false⟩ :: levels) (itemLead levels w)
  | .sequenceStart :: rest, levels, w =>
    emitAll rest (⟨nestedIndent levels true, true, true⟩ :: levels) (itemLead levels w)
  | .mappingEnd :: rest, levels, w => emitAll rest (afterNode (levels.drop 1)) w
  | .sequenceEnd :: rest, levels, w => emitAll rest (afterNode (levels.drop 1)) w
  | .scalar v style :: rest, levels, w =>
    match levels with
    | l :: ls =>
      if l.sequence then
        let w := (itemLead levels w).scalar v (chooseStyle v style false) false (l.indent + 2)
        emitAll rest levels w
      else if l.expectKey then
        let w := w.indent l.indent
        let w := w.scalar v (chooseStyle v style true) true (l.indent + 2)
        emitAll rest ({ l with expectKey := false } :: ls) (w.indicator ":" false false false)
      else
        let w := w.scalar v (chooseStyle v style false) false (l.indent + 2)
        emitAll rest ({ l with expectKey := true } :: ls) w
    | [] => emitAll rest [] (w.scalar v (chooseStyle v style false) false 0)

def emitDocument (events : List Emit) : String :=
  ((emitAll events [] {}).indent 0).out

end DiskUploader.Yaml
