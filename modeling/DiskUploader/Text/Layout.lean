/-!
# Display width and tables

The number of terminal columns a text takes: control characters and combining marks take none,
East Asian wide and full-width characters and most emoji take two, and every other character
takes one.

A table is drawn with ASCII borders: a rule of `-` between `+` corners above, below and between
rows, and `|` between cells. Each column is as wide as its widest line, counted in display
columns, with one space of padding on each side; text is aligned left. A cell with line breaks
spans several lines, and its row is as tall as its tallest cell.
-/

namespace DiskUploader.Text

def zeroWidthRanges : List (Nat × Nat) :=
  [(0x0000, 0x001f), (0x007f, 0x009f), (0x00ad, 0x00ad), (0x0300, 0x036f), (0x0483, 0x0489),
   (0x0591, 0x05bd), (0x05bf, 0x05bf), (0x05c1, 0x05c2), (0x05c4, 0x05c5), (0x05c7, 0x05c7),
   (0x0610, 0x061a), (0x064b, 0x065f), (0x0670, 0x0670), (0x06d6, 0x06dc), (0x06df, 0x06e4),
   (0x06e7, 0x06e8), (0x06ea, 0x06ed), (0x0900, 0x0902), (0x093a, 0x093a), (0x093c, 0x093c),
   (0x0941, 0x0948), (0x094d, 0x094d), (0x0951, 0x0957), (0x0e31, 0x0e31), (0x0e34, 0x0e3a),
   (0x0e47, 0x0e4e), (0x1160, 0x11ff), (0x200b, 0x200f), (0x2028, 0x202e), (0x2060, 0x2064),
   (0x20d0, 0x20ff), (0xfe00, 0xfe0f), (0xfe20, 0xfe2f), (0xfeff, 0xfeff),
   (0x1f3fb, 0x1f3ff), (0xe0000, 0xe0fff)]

def wideRanges : List (Nat × Nat) :=
  [(0x1100, 0x115f), (0x231a, 0x231b), (0x2329, 0x232a), (0x23e9, 0x23ec), (0x23f0, 0x23f0),
   (0x23f3, 0x23f3), (0x25fd, 0x25fe), (0x2614, 0x2615), (0x2648, 0x2653), (0x267f, 0x267f),
   (0x2693, 0x2693), (0x26a1, 0x26a1), (0x26aa, 0x26ab), (0x26bd, 0x26be), (0x26c4, 0x26c5),
   (0x26ce, 0x26ce), (0x26d4, 0x26d4), (0x26ea, 0x26ea), (0x26f2, 0x26f3), (0x26f5, 0x26f5),
   (0x26fa, 0x26fa), (0x26fd, 0x26fd), (0x2705, 0x2705), (0x270a, 0x270b), (0x2728, 0x2728),
   (0x274c, 0x274c), (0x274e, 0x274e), (0x2753, 0x2755), (0x2757, 0x2757), (0x2795, 0x2797),
   (0x27b0, 0x27b0), (0x27bf, 0x27bf), (0x2b1b, 0x2b1c), (0x2b50, 0x2b50), (0x2b55, 0x2b55),
   (0x2e80, 0x303e), (0x3041, 0x33ff), (0x3400, 0x4dbf), (0x4e00, 0x9fff), (0xa000, 0xa4cf),
   (0xa960, 0xa97f), (0xac00, 0xd7a3), (0xf900, 0xfaff), (0xfe10, 0xfe19), (0xfe30, 0xfe6f),
   (0xff00, 0xff60), (0xffe0, 0xffe6), (0x16fe0, 0x16fe4), (0x17000, 0x18cff),
   (0x1b000, 0x1b2ff), (0x1f004, 0x1f004), (0x1f0cf, 0x1f0cf), (0x1f18e, 0x1f18e),
   (0x1f191, 0x1f19a), (0x1f200, 0x1f202), (0x1f210, 0x1f23b), (0x1f240, 0x1f248),
   (0x1f250, 0x1f251), (0x1f260, 0x1f265), (0x1f300, 0x1f320), (0x1f32d, 0x1f335),
   (0x1f337, 0x1f37c), (0x1f37e, 0x1f393), (0x1f3a0, 0x1f3ca), (0x1f3cf, 0x1f3d3),
   (0x1f3e0, 0x1f3f0), (0x1f3f4, 0x1f3f4), (0x1f3f8, 0x1f3fa), (0x1f400, 0x1f43e),
   (0x1f440, 0x1f440), (0x1f442, 0x1f4fc), (0x1f4ff, 0x1f53d), (0x1f54b, 0x1f54e),
   (0x1f550, 0x1f567), (0x1f57a, 0x1f57a), (0x1f595, 0x1f596), (0x1f5a4, 0x1f5a4),
   (0x1f5fb, 0x1f64f), (0x1f680, 0x1f6c5), (0x1f6cc, 0x1f6cc), (0x1f6d0, 0x1f6d2),
   (0x1f6d5, 0x1f6d7), (0x1f6eb, 0x1f6ec), (0x1f6f4, 0x1f6fc), (0x1f7e0, 0x1f7eb),
   (0x1f90c, 0x1f93a), (0x1f93c, 0x1f945), (0x1f947, 0x1f9ff), (0x1fa70, 0x1faff),
   (0x20000, 0x2fffd), (0x30000, 0x3fffd)]

def inRanges (v : Nat) (rs : List (Nat × Nat)) : Bool := rs.any fun (lo, hi) => lo ≤ v && v ≤ hi

def Char.columns (c : Char) : Nat :=
  let v := c.val.toNat
  if 0x20 ≤ v ∧ v < 0x7f then 1
  else if inRanges v zeroWidthRanges then 0
  else if inRanges v wideRanges then 2
  else 1

def columns (s : String) : Nat := s.foldl (fun n c => n + Char.columns c) 0

theorem Char.columns_ascii (c : Char) (h1 : 0x20 ≤ c.val.toNat) (h2 : c.val.toNat < 0x7f) :
    Char.columns c = 1 := by
  unfold Char.columns
  rw [if_pos ⟨h1, h2⟩]

def padTo (width : Nat) (s : String) : String :=
  s ++ String.ofList (List.replicate (width - columns s) ' ')

def cellLines (s : String) : List String := s.splitOn "\n"

def columnWidths (rows : List (List String)) : List Nat :=
  let n := (rows.map List.length).foldl max 0
  (List.range n).map fun i =>
    rows.foldl (fun w row => ((cellLines (row.getD i "")).map columns).foldl max w) 0

def rule (widths : List Nat) : String :=
  "+" ++ String.join (widths.map fun w => String.ofList (List.replicate (w + 2) '-') ++ "+")

def rowLines (widths : List Nat) (row : List String) : List String :=
  let cells := widths.zipIdx.map fun (_, i) => cellLines (row.getD i "")
  let height := (cells.map List.length).foldl max 1
  (List.range height).map fun k =>
    "|" ++ String.join (widths.zipIdx.map fun (w, i) =>
      " " ++ padTo w ((cells.getD i []).getD k "") ++ " |")

def drawTable (header : List String) (rows : List (List String)) : String :=
  let all := header :: rows
  let widths := columnWidths all
  let body := all.map fun row => rowLines widths row ++ [rule widths]
  "\n".intercalate (rule widths :: body.flatten)

end DiskUploader.Text
