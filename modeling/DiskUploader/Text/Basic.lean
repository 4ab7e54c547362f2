/-!
# Text rules shared by the tool

Three rules on characters that several layers share.

The blank characters are those of Unicode's White_Space property: the ASCII tab, line feed,
vertical tab, form feed, carriage return and space, the next-line control, the no-break space,
and the spaces and separators of the general punctuation and ideographic blocks. Trimming
removes them from both ends of a text.

Diagnostics show a text between double quotes with the quote, the backslash, tab, carriage
return, line feed and NUL escaped by a backslash, and every character that does not print on its
own written as `\u{hex}` with lower-case digits and no leading zeros. Characters that do not
print on their own are the control characters, the soft hyphen, and the combining marks, which
would otherwise join the character before them.

Fault messages are searched for ASCII patterns after lower-casing. Only the part of Unicode
lower-casing that can change such a match is kept: ASCII capitals, the Kelvin sign, which becomes
`k`, and the capital I with a dot, which becomes `i` followed by a combining dot. Every other
character lower-cases to characters outside ASCII, or to itself, so it can neither create nor
break an ASCII match. A pattern that starts with a digit must be a whole word, words being the
maximal runs of ASCII letters and digits; any other pattern may occur anywhere.
-/

namespace DiskUploader.Text

def isBlank (c : Char) : Bool :=
  let n := c.toNat
  (0x09 ≤ n && n ≤ 0x0D) || n == 0x20 || n == 0x85 || n == 0xA0 || n == 0x1680 ||
    (0x2000 ≤ n && n ≤ 0x200A) || n == 0x2028 || n == 0x2029 || n == 0x202F ||
    n == 0x205F || n == 0x3000

def trimBlank (s : String) : String :=
  String.ofList ((s.toList.dropWhile isBlank).reverse.dropWhile isBlank).reverse

theorem isBlank_of_isWhitespace (c : Char) (h : c.isWhitespace = true) : isBlank c = true := by
  simp only [Char.isWhitespace, Bool.or_eq_true, decide_eq_true_eq] at h
  rcases h with ((h | h) | h) | h <;> subst h <;> decide

def needsUnicodeEscape (c : Char) : Bool :=
  let v := c.val
  v < 0x20 || (0x7f ≤ v && v ≤ 0x9f) || v = 0xad || (0x300 ≤ v && v ≤ 0x36f)

def hexDigits (n : Nat) : String :=
  String.ofList ((Nat.toDigits 16 n).map Char.toLower)

def debugChar (c : Char) : String :=
  match c with
  | '"' => "\\\""
  | '\\' => "\\\\"
  | '\t' => "\\t"
  | '\r' => "\\r"
  | '\n' => "\\n"
  | _ =>
    if c.val = 0 then "\\0"
    else if needsUnicodeEscape c then "\\u" ++ "\x7b" ++ hexDigits c.val.toNat ++ "\x7d"
    else c.toString

def debugQuote (s : String) : String :=
  "\"" ++ String.join (s.toList.map debugChar) ++ "\""

def foldChar (c : Char) : List Char :=
  if c.isUpper then [c.toLower]
  else if c.val = 0x212A then ['k']
  else if c.val = 0x130 then ['i', Char.ofNat 0x307]
  else [c]

def fold (s : String) : List Char :=
  s.toList.flatMap foldChar

def occursIn (pat : List Char) : List Char → Bool
  | [] => pat.isEmpty
  | c :: rest => pat.isPrefixOf (c :: rest) || occursIn pat rest

def words : List Char → List (List Char)
  | [] => [[]]
  | c :: rest =>
    match words rest with
    | [] => [[c]]
    | w :: ws => if c.isAlphanum then (c :: w) :: ws else [] :: w :: ws

/-- Whether a pattern is mentioned: as a whole word when it starts with a digit, anywhere
otherwise. -/
def mentions (text : List Char) (pat : String) : Bool :=
  match pat.toList with
  | [] => true
  | c :: cs => if c.isDigit then (words text).contains (c :: cs) else occursIn (c :: cs) text

theorem occursIn_nil (text : List Char) : occursIn [] text = true := by
  cases text <;> simp [occursIn]

theorem words_ne_nil (text : List Char) : words text ≠ [] := by
  cases text with
  | nil => simp [words]
  | cons c rest =>
    simp only [words]
    split
    · simp
    · split <;> simp

end DiskUploader.Text
