/-!
# YAML tokens

A YAML text is read in two stages: a scanner turns characters into tokens, and a parser turns
tokens into events. Both report where things are by a `Mark`: the index of a character, its
line and its column, all counted from zero.

A failure of either stage is a `Problem`: what went wrong and where, and optionally what was
being read and where that began. Its text gives a position only when it is not the very start
of the text, and gives the context's position only when it differs from the problem's.
-/

namespace DiskUploader.Yaml

structure Mark where
  index : Nat := 0
  line : Nat := 0
  column : Nat := 0
  deriving DecidableEq, Repr, Inhabited

def Mark.text (m : Mark) : String := s!"line {m.line + 1} column {m.column + 1}"

def Mark.atStart (m : Mark) : Bool := m.line == 0 && m.column == 0

inductive ScalarStyle where
  | plain | singleQuoted | doubleQuoted | literal | folded
  deriving DecidableEq, Repr, Inhabited

inductive TokenKind where
  | streamStart | streamEnd
  | versionDirective (major minor : Nat)
  | tagDirective (handle pre : String)
  | documentStart | documentEnd
  | blockSequenceStart | blockMappingStart | blockEnd
  | flowSequenceStart | flowSequenceEnd | flowMappingStart | flowMappingEnd
  | blockEntry | flowEntry | key | value
  | aliasRef (name : String)
  | anchor (name : String)
  | tag (handle suffix : String)
  | scalar (value : String) (style : ScalarStyle)
  deriving DecidableEq, Repr, Inhabited

structure Token where
  kind : TokenKind
  start : Mark
  stop : Mark
  deriving DecidableEq, Repr, Inhabited

structure Problem where
  problem : String
  problemMark : Mark := {}
  /-- The byte offset of a character that may not appear at all. -/
  offset : Nat := 0
  context : Option String := none
  contextMark : Mark := {}
  deriving DecidableEq, Repr, Inhabited

def Problem.message (p : Problem) : String :=
  let place :=
    if !p.problemMark.atStart then " at " ++ p.problemMark.text
    else if p.offset != 0 then s!" at position {p.offset}"
    else ""
  let context := match p.context with
    | some c =>
      let differs := p.contextMark.line != p.problemMark.line ||
        p.contextMark.column != p.problemMark.column
      ", " ++ c ++ (if !p.contextMark.atStart && differs then " at " ++ p.contextMark.text else "")
    | none => ""
  p.problem ++ place ++ context

theorem Problem.message_plain (s : String) : ({ problem := s } : Problem).message = s := by
  simp [Problem.message, Mark.atStart]

end DiskUploader.Yaml
