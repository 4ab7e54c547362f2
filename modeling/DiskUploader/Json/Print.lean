import DiskUploader.Json.Basic
import DiskUploader.Number.Shortest

/-!
# Writing JSON

Strings escape the quote, the backslash and every control character: the five with a short
form as `\b`, `\f`, `\n`, `\r`, `\t`, the others as `\u00xx` in lower-case hexadecimal; all other
characters are written as they are. Doubles are written with the fewest digits that read back,
and a double that is not finite is written `null`.

`compact` writes no spaces at all. `pretty` puts every item and member on a line of its own,
indented by two spaces per level, with `": "` after a key; empty arrays and objects stay `[]`
and `{}`.
-/

namespace DiskUploader

def JsonNumber.text : JsonNumber → String
  | .nat n => toString n
  | .neg n => "-" ++ toString n
  | .float x => (Number.jsonText? x).getD "null"

namespace Json

def escapeChar (c : Char) : String :=
  match c with
  | '"' => "\\\""
  | '\\' => "\\\\"
  | '\n' => "\\n"
  | '\r' => "\\r"
  | '\t' => "\\t"
  | _ =>
    if c.val = 8 then "\\b"
    else if c.val = 12 then "\\f"
    else if c.val < 32 then
      let hex (n : Nat) : Char := if n < 10 then Char.ofNat (48 + n) else Char.ofNat (87 + n)
      String.ofList ['\\', 'u', '0', '0', hex (c.val.toNat / 16), hex (c.val.toNat % 16)]
    else c.toString

def quote (s : String) : String :=
  "\"" ++ String.join (s.toList.map escapeChar) ++ "\""

mutual

def compact : Json → String
  | .null => "null"
  | .bool b => if b then "true" else "false"
  | .num n => n.text
  | .str s => quote s
  | .arr xs => "[" ++ compactItems xs ++ "]"
  | .obj fs => "\x7b" ++ compactFields fs ++ "\x7d"

def compactItems : List Json → String
  | [] => ""
  | [x] => compact x
  | x :: xs => compact x ++ "," ++ compactItems xs

def compactFields : List (String × Json) → String
  | [] => ""
  | [(k, v)] => quote k ++ ":" ++ compact v
  | (k, v) :: fs => quote k ++ ":" ++ compact v ++ "," ++ compactFields fs

end

def indent (level : Nat) : String := String.ofList (List.replicate (2 * level) ' ')

mutual

def pretty (level : Nat) : Json → String
  | .arr [] => "[]"
  | .obj [] => "\x7b\x7d"
  | .arr xs => "[\n" ++ prettyItems (level + 1) xs ++ "\n" ++ indent level ++ "]"
  | .obj fs => "\x7b\n" ++ prettyFields (level + 1) fs ++ "\n" ++ indent level ++ "\x7d"
  | j => compact j

def prettyItems (level : Nat) : List Json → String
  | [] => ""
  | [x] => indent level ++ pretty level x
  | x :: xs => indent level ++ pretty level x ++ ",\n" ++ prettyItems level xs

def prettyFields (level : Nat) : List (String × Json) → String
  | [] => ""
  | [(k, v)] => indent level ++ quote k ++ ": " ++ pretty level v
  | (k, v) :: fs => indent level ++ quote k ++ ": " ++ pretty level v ++ ",\n" ++ prettyFields level fs

end

end Json

end DiskUploader
