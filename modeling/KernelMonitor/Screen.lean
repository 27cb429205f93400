/-! # Text screen

25 rows of 80 cells, written at the cursor column of the bottom row. A line feed scrolls the
cells up in place, cell by cell, and blanks the bottom row; the cursor column is at most 80, so
every cell read or written lies in the buffer.
-/

namespace KernelMonitor

structure Cell where
  ch : UInt8
  color : UInt8
  deriving DecidableEq, Repr

/-- The cells of a text screen: 25 rows from the top, of 80 cells each. -/
abbrev Grid := Vector (Vector Cell 80) 25

/-- A text screen with its cursor column and colour. A full bottom row leaves the cursor at
column 80 until the next byte. -/
structure Screen where
  cells : Grid
  col : Fin 81
  color : UInt8
  deriving DecidableEq, Repr

namespace Grid

def setBottom (g : Grid) (c : Fin 80) (x : Cell) : Grid := g.set 24 (g[24].set c x)

def copyUp (g : Grid) (r : Fin 24) (c : Fin 80) : Grid :=
  g.set r.castSucc (g[r.castSucc].set c g[r.succ][c])

/-- Copies rows 1 to 24 one row up, cell by cell: from the top row down, each row from its first
cell. -/
def shiftUp (g : Grid) : Grid :=
  (List.finRange 24).foldl (fun g r => (List.finRange 80).foldl (fun g c => g.copyUp r c) g) g

def clearBottom (g : Grid) (x : Cell) : Grid :=
  (List.finRange 80).foldl (fun g c => g.setBottom c x) g

end Grid

namespace Screen

/-- A screen of zero cells, the cursor at column 0 of the bottom row, light grey on black. -/
def initial : Screen := ⟨Vector.replicate 25 (Vector.replicate 80 ⟨0, 0⟩), 0, 0x07⟩

def blank (s : Screen) : Cell := ⟨0x20, s.color⟩

def rows (s : Screen) : List (List Cell) := s.cells.toList.map Vector.toList

def newLine (s : Screen) : Screen :=
  { s with cells := s.cells.shiftUp.clearBottom s.blank, col := 0 }

def setBottom (s : Screen) (c : Fin 80) (x : Cell) : Screen :=
  { s with cells := s.cells.setBottom c x }

/-- The character a byte shows as: itself if it is printable ASCII, else 0xfe. -/
def glyph (b : UInt8) : UInt8 := if 0x20 ≤ b && b < 0x7f then b else 0xfe

def putAt (s : Screen) (c : Fin 80) (b : UInt8) : Screen :=
  { s.setBottom c ⟨glyph b, s.color⟩ with col := c.succ }

def putByte (s : Screen) (b : UInt8) : Screen :=
  if b = 10 then s.newLine
  else if b = 13 then { s with col := 0 }
  else if b = 8 then
    if h : 0 < s.col.val then
      let c : Fin 80 := ⟨s.col.val - 1, by omega⟩
      { s.setBottom c s.blank with col := c.castSucc }
    else s
  else if h : s.col.val < 80 then s.putAt ⟨s.col.val, h⟩ b
  else s.newLine.putAt 0 b

def write (s : Screen) (t : String) : Screen := t.toUTF8.toList.foldl putByte s

/-- A row without its trailing cells that were never written. -/
def trimmed (row : List Cell) : List Cell :=
  (row.reverse.dropWhile (· == ⟨0, 0⟩)).reverse

end Screen

end KernelMonitor
