import KernelMonitor.Screen

/-! # The screen shows the last rows of its history

Output to the text screen is a history of rows that only grows; the screen always shows its last
25 rows with the cursor at its column. Scrolling in place, cell by cell, loses, repeats or
reorders no row but the one that leaves the top.
-/

namespace KernelMonitor

namespace Grid

variable {g : Grid}

theorem getElem_copyUp (r : Fin 24) (c : Fin 80) {i j : Nat} (hi : i < 25) (hj : j < 80) :
    (g.copyUp r c)[i][j] = if i = r.val ∧ j = c.val then g[r.val + 1][j] else g[i][j] := by
  simp only [copyUp, Fin.getElem_fin, Vector.getElem_set, Fin.val_castSucc, Fin.val_succ]
  by_cases hr : r.val = i <;> by_cases hc : c.val = j <;> simp [hr, hc] <;> omega

theorem take_finRange_add_one {n k : Nat} (hk : k < n) :
    (List.finRange n).take (k + 1) = (List.finRange n).take k ++ [⟨k, hk⟩] := by
  rw [List.take_add_one, List.getElem?_eq_getElem (by simpa using hk), List.getElem_finRange]
  rfl

theorem getElem_foldl_take_copyUp (r : Fin 24) (g : Grid) {k : Nat} (hk : k ≤ 80) {i j : Nat}
    (hi : i < 25) (hj : j < 80) :
    (((List.finRange 80).take k).foldl (fun g c => g.copyUp r c) g)[i][j] =
      if i = r.val ∧ j < k then g[r.val + 1][j] else g[i][j] := by
  induction k generalizing i j with
  | zero => simp
  | succ k ih =>
    -- cell `k` is copied last, from row `r + 1`, which no copy writes
    have hbelow := ih (by omega) (show r.val + 1 < 25 by omega) hj
    rw [if_neg (by omega)] at hbelow
    rw [take_finRange_add_one (by omega), List.foldl_append, List.foldl_cons, List.foldl_nil,
      getElem_copyUp r _ hi hj, hbelow, ih (by omega) hi hj]
    dsimp only
    by_cases hc : j = k
    · subst hc
      by_cases hr : i = r.val <;> simp [hr]
    · have hlt : j < k + 1 ↔ j < k := by omega
      simp [hc, hlt]

theorem eq_set_of_getElem {g' : Grid} {r : Nat} (hr : r < 25) {v : Vector Cell 80}
    (h : ∀ i j (hi : i < 25) (hj : j < 80), g'[i][j] = if i = r then v[j] else g[i][j]) :
    g' = g.set r v hr := by
  apply Vector.ext
  intro i hi
  apply Vector.ext
  intro j hj
  rw [h i j hi hj, Vector.getElem_set]
  by_cases hir : i = r
  · simp [hir]
  · simp [hir, Ne.symm hir]

theorem foldl_copyUp_row (r : Fin 24) (g : Grid) :
    (List.finRange 80).foldl (fun g c => g.copyUp r c) g = g.set r.val g[r.val + 1] := by
  refine eq_set_of_getElem _ fun i j hi hj => ?_
  have hall := getElem_foldl_take_copyUp r g (Nat.le_refl 80) hi hj
  rw [List.take_of_length_le (by simp)] at hall
  simp [hall, hj]

theorem getElem_foldl_take_set (g : Grid) {k : Nat} (hk : k ≤ 24) {i : Nat} (hi : i < 25) :
    (((List.finRange 24).take k).foldl (fun g (r : Fin 24) => g.set r.val g[r.val + 1]) g)[i] =
      if h : i < k then g[i + 1] else g[i] := by
  induction k generalizing i with
  | zero => simp
  | succ k ih =>
    -- row `k` is set last, from row `k + 1`, which no earlier step has touched
    have hstep : (List.finRange 24)[k]?.toList = [⟨k, by omega⟩] := by
      rw [List.getElem?_eq_getElem (by simp; omega), List.getElem_finRange]
      rfl
    have hbelow := ih (by omega) (show k + 1 < 25 by omega)
    rw [dif_neg (by omega)] at hbelow
    rw [List.take_add_one, hstep, List.foldl_append, List.foldl_cons, List.foldl_nil,
      Vector.getElem_set]
    dsimp only
    rw [hbelow, ih (by omega) hi]
    by_cases hik : k = i
    · subst hik
      simp
    · rw [if_neg hik]
      by_cases hlt : i < k
      · simp [hlt, show i < k + 1 by omega]
      · simp [hlt, show ¬ i < k + 1 by omega]

theorem getElem_shiftUp (g : Grid) {i : Nat} (hi : i < 25) :
    g.shiftUp[i] = if h : i < 24 then g[i + 1] else g[i] := by
  have hrows : g.shiftUp =
      ((List.finRange 24).take 24).foldl (fun g (r : Fin 24) => g.set r.val g[r.val + 1]) g := by
    simp only [shiftUp, foldl_copyUp_row]
    rw [List.take_of_length_le (by simp)]
  rw [hrows, getElem_foldl_take_set g (Nat.le_refl 24) hi]

theorem getElem_setBottom (c : Fin 80) (x : Cell) {i j : Nat} (hi : i < 25) (hj : j < 80) :
    (g.setBottom c x)[i][j] = if i = 24 ∧ j = c.val then x else g[i][j] := by
  simp only [setBottom, Vector.getElem_set]
  by_cases hr : i = 24
  · subst hr
    by_cases hc : j = c.val <;> simp [hc, eq_comm]
  · simp [hr, Ne.symm hr]

theorem getElem_foldl_take_setBottom (x : Cell) (g : Grid) {k : Nat} (hk : k ≤ 80) {i j : Nat}
    (hi : i < 25) (hj : j < 80) :
    (((List.finRange 80).take k).foldl (fun g c => g.setBottom c x) g)[i][j] =
      if i = 24 ∧ j < k then x else g[i][j] := by
  induction k generalizing i j with
  | zero => simp
  | succ k ih =>
    rw [take_finRange_add_one (by omega), List.foldl_append, List.foldl_cons, List.foldl_nil,
      getElem_setBottom _ x hi hj, ih (by omega) hi hj]
    by_cases hc : j = k
    · subst hc
      by_cases hr : i = 24 <;> simp [hr]
    · have hlt : j < k + 1 ↔ j < k := by omega
      simp [hc, hlt]

theorem clearBottom_eq (g : Grid) (x : Cell) :
    g.clearBottom x = g.set 24 (Vector.replicate 80 x) (Nat.lt_succ_self 24) := by
  refine eq_set_of_getElem _ fun i j hi hj => ?_
  have hall := getElem_foldl_take_setBottom x g (Nat.le_refl 80) hi hj
  rw [List.take_of_length_le (by simp)] at hall
  simp [clearBottom, hall, hj]

end Grid

namespace Screen

-- Stated once here: by `rfl` on the unfolded definition. Matching `s.newLine` against `s`
-- field by field would evaluate the scroll loops.
@[simp] theorem color_newLine (s : Screen) : s.newLine.color = s.color := by
  unfold newLine
  rfl

@[simp] theorem col_newLine (s : Screen) : s.newLine.col = 0 := by
  unfold newLine
  rfl

theorem rows_newLine (s : Screen) :
    s.newLine.rows = s.rows.tail ++ [List.replicate 80 s.blank] := by
  apply List.ext_getElem
  · simp [rows]
  · intro i h1 h2
    have hi : i < 25 := by simpa [rows, newLine] using h1
    simp only [rows, newLine, Grid.clearBottom_eq, List.getElem_map, Vector.getElem_toList,
      Vector.getElem_set, Grid.getElem_shiftUp _ hi, List.getElem_append, List.getElem_tail]
    by_cases h24 : i = 24
    · subst h24
      simp
    · simp [show i < 24 by omega, Ne.symm h24]

theorem rows_setBottom (s : Screen) (c : Fin 80) (x : Cell) :
    (s.setBottom c x).rows = s.rows.modify 24 (·.set c x) := by
  apply List.ext_getElem
  · simp [rows, setBottom]
  · intro i h1 h2
    simp only [rows, setBottom, Grid.setBottom, List.getElem_map, Vector.getElem_toList,
      Vector.getElem_set, List.getElem_modify]
    by_cases h24 : 24 = i
    · subst h24
      simp [Vector.toList_set]
    · simp [h24]

end Screen

/-! ## The history of rows -/

/-- The rows output has produced, oldest first, with the cursor column. Rows are only ever added
at the end, and only the newest row is ever changed. -/
structure RowHistory where
  rows : List (List Cell)
  col : Nat

namespace RowHistory

def blankCell : Cell := ⟨0x20, 0x07⟩

/-- The 25 rows of zero cells before any output, the cursor at column 0. -/
def initial : RowHistory := ⟨List.replicate 25 (List.replicate 80 ⟨0, 0⟩), 0⟩

/-- Adds a blank row and returns to column 0. -/
def feed (h : RowHistory) : RowHistory := ⟨h.rows ++ [List.replicate 80 blankCell], 0⟩

def setLast (h : RowHistory) (c : Nat) (x : Cell) : RowHistory :=
  { h with rows := h.rows.modify (h.rows.length - 1) (·.set c x) }

/-- Takes one byte of output: a line feed, or any byte but a carriage return or a backspace at
column 80, adds a blank row; a carriage return goes to column 0; a backspace blanks the cell
before the cursor; any other byte is shown at the cursor in light grey on black, as itself if it
is printable ASCII and as 0xfe if not, and the cursor moves past it. -/
def putByte (h : RowHistory) (b : UInt8) : RowHistory :=
  if b = 10 then h.feed
  else if b = 13 then { h with col := 0 }
  else if b = 8 then
    if 0 < h.col then { h.setLast (h.col - 1) blankCell with col := h.col - 1 } else h
  else
    let h := if h.col = 80 then h.feed else h
    let ch : UInt8 := if 0x20 ≤ b ∧ b < 0x7f then b else 0xfe
    { h.setLast h.col ⟨ch, 0x07⟩ with col := h.col + 1 }

def write (h : RowHistory) (t : String) : RowHistory := t.toUTF8.toList.foldl putByte h

/-- The newest 25 rows. -/
def visible (h : RowHistory) : List (List Cell) := h.rows.drop (h.rows.length - 25)

variable {h : RowHistory}

theorem visible_feed (hl : 25 ≤ h.rows.length) :
    h.feed.visible = h.visible.tail ++ [List.replicate 80 blankCell] := by
  rw [visible, visible, feed, List.tail_drop, List.length_append, List.length_singleton,
    List.drop_append_of_le_length (by omega)]
  congr 2
  omega

theorem visible_setLast (hl : 25 ≤ h.rows.length) (c : Nat) (x : Cell) :
    (h.setLast c x).visible = h.visible.modify 24 (·.set c x) := by
  apply List.ext_getElem
  · simp [visible, setLast]
  · intro i h1 h2
    have hi : i < 25 := by simp [visible, setLast] at h1; omega
    simp only [visible, setLast, List.length_modify, List.getElem_drop, List.getElem_modify]
    by_cases h24 : i = 24
    · subst h24
      simp [show h.rows.length - 1 = h.rows.length - 25 + 24 by omega]
    · simp [show h.rows.length - 1 ≠ h.rows.length - 25 + i by omega, Ne.symm h24]

theorem dropLast_setLast (c : Nat) (x : Cell) : (h.setLast c x).rows.dropLast = h.rows.dropLast := by
  rw [setLast, List.dropLast_eq_take, List.dropLast_eq_take, List.length_modify, List.take_modify,
    List.modify_eq_self (by simp)]

theorem dropLast_feed : h.feed.rows.dropLast = h.rows := by
  simp [feed]

theorem dropLast_prefix_putByte (b : UInt8) : h.rows.dropLast <+: (h.putByte b).rows.dropLast := by
  unfold putByte
  split
  · rw [dropLast_feed]
    exact List.dropLast_prefix _
  split
  · exact List.prefix_refl _
  split
  · split
    · simp only [dropLast_setLast, List.prefix_rfl]
    · exact List.prefix_refl _
  · dsimp only
    split
    · rw [dropLast_setLast, dropLast_feed]
      exact List.dropLast_prefix _
    · simp only [dropLast_setLast, List.prefix_rfl]

theorem dropLast_prefix_foldl (bs : List UInt8) :
    h.rows.dropLast <+: (bs.foldl putByte h).rows.dropLast := by
  induction bs generalizing h with
  | nil => exact List.prefix_refl _
  | cons b bs ih => exact (dropLast_prefix_putByte b).trans ih

theorem dropLast_prefix_writeAll (ws : List String) :
    h.rows.dropLast <+: (ws.foldl write h).rows.dropLast := by
  induction ws generalizing h with
  | nil => exact List.prefix_refl _
  | cons w ws ih => exact (dropLast_prefix_foldl w.toUTF8.toList).trans ih

end RowHistory

/-! ## The screen shows the history -/

/-- A screen shows a history when its rows are the history's newest 25, its cursor is at the
history's column, and it writes light grey on black. -/
structure Shows (s : Screen) (h : RowHistory) : Prop where
  rows_eq : s.rows = h.visible
  col_eq : s.col.val = h.col
  color_eq : s.color = 0x07
  length_le : 25 ≤ h.rows.length

namespace Shows

variable {s : Screen} {h : RowHistory}

theorem initial : Shows Screen.initial RowHistory.initial where
  rows_eq := by simp [Screen.rows, Screen.initial, RowHistory.visible, RowHistory.initial]
  col_eq := rfl
  color_eq := rfl
  length_le := by simp [RowHistory.initial]

theorem blank_eq (hs : Shows s h) : s.blank = RowHistory.blankCell := by
  rw [Screen.blank, hs.color_eq]
  rfl

theorem newLine (hs : Shows s h) : Shows s.newLine h.feed := by
  refine ⟨?_, ?_, (Screen.color_newLine s).trans hs.color_eq, ?_⟩
  · rw [Screen.rows_newLine, RowHistory.visible_feed hs.length_le, hs.rows_eq, hs.blank_eq]
  · rw [Screen.col_newLine]
    rfl
  · simp only [RowHistory.feed, List.length_append, List.length_singleton]
    have := hs.length_le
    omega

theorem setBottom (hs : Shows s h) (c : Fin 80) (x : Cell) :
    Shows (s.setBottom c x) (h.setLast c.val x) where
  rows_eq := by
    rw [Screen.rows_setBottom, RowHistory.visible_setLast hs.length_le, hs.rows_eq]
  col_eq := hs.col_eq
  color_eq := hs.color_eq
  length_le := by simpa [RowHistory.setLast] using hs.length_le

theorem withCol (hs : Shows s h) (c : Fin 81) : Shows { s with col := c } { h with col := c.val } :=
  ⟨hs.rows_eq, rfl, hs.color_eq, hs.length_le⟩

theorem putAt (hs : Shows s h) (c : Fin 80) (b : UInt8) :
    Shows (s.putAt c b)
      { h.setLast c.val ⟨if 0x20 ≤ b ∧ b < 0x7f then b else 0xfe, 0x07⟩ with col := c.val + 1 } := by
  have hglyph : (⟨Screen.glyph b, s.color⟩ : Cell) =
      ⟨if 0x20 ≤ b ∧ b < 0x7f then b else 0xfe, 0x07⟩ := by
    simp [Screen.glyph, hs.color_eq]
  rw [Screen.putAt, hglyph]
  exact (hs.setBottom c _).withCol c.succ

theorem putByte (hs : Shows s h) (b : UInt8) : Shows (s.putByte b) (h.putByte b) := by
  unfold Screen.putByte RowHistory.putByte
  by_cases h10 : b = 10
  · rw [if_pos h10, if_pos h10]
    exact hs.newLine
  rw [if_neg h10, if_neg h10]
  by_cases h13 : b = 13
  · rw [if_pos h13, if_pos h13]
    exact hs.withCol 0
  rw [if_neg h13, if_neg h13]
  by_cases h8 : b = 8
  · rw [if_pos h8, if_pos h8]
    by_cases hc : 0 < s.col.val
    · rw [dif_pos hc, if_pos (hs.col_eq ▸ hc)]
      dsimp only
      rw [hs.blank_eq, ← hs.col_eq]
      exact (hs.setBottom _ _).withCol _
    · rw [dif_neg hc, if_neg (hs.col_eq ▸ hc)]
      exact hs
  rw [if_neg h8, if_neg h8]
  by_cases hc : s.col.val < 80
  · -- the row has room: the byte goes at the cursor
    rw [dif_pos hc]
    dsimp only
    rw [if_neg (by rw [← hs.col_eq]; omega), ← hs.col_eq]
    exact hs.putAt ⟨s.col.val, hc⟩ b
  · -- the row is full: a new row first, and the byte at its first cell
    have h80 : h.col = 80 := by have := s.col.isLt; rw [← hs.col_eq]; omega
    rw [dif_neg hc]
    dsimp only
    rw [if_pos h80]
    exact hs.newLine.putAt 0 b

theorem foldl (hs : Shows s h) (bs : List UInt8) :
    Shows (bs.foldl Screen.putByte s) (bs.foldl RowHistory.putByte h) := by
  induction bs generalizing s h with
  | nil => exact hs
  | cons b bs ih => exact ih (hs.putByte b)

theorem write (hs : Shows s h) (t : String) : Shows (s.write t) (h.write t) :=
  hs.foldl t.toUTF8.toList

theorem writeAll (hs : Shows s h) (ws : List String) :
    Shows (ws.foldl Screen.write s) (ws.foldl RowHistory.write h) := by
  induction ws generalizing s h with
  | nil => exact hs
  | cons w ws ih => exact ih (hs.write w)

end Shows

/-- Whatever strings are written to the zeroed screen, it shows the newest 25 rows of the row
history of that output, with the cursor at the history's column, which never passes 80; the
cursor's type keeps every cell the screen touches inside its 25 rows of 80 cells. The history
only grows: every row but the newest stays, in its place, through all later output. So
scrolling loses, repeats or reorders no row, and only pushes the oldest row shown off the top. -/
theorem screen_shows_newest_rows_of_history (ws : List String) :
    (ws.foldl Screen.write Screen.initial).rows =
        (ws.foldl RowHistory.write RowHistory.initial).visible ∧
      (ws.foldl Screen.write Screen.initial).col.val =
        (ws.foldl RowHistory.write RowHistory.initial).col ∧
      (ws.foldl RowHistory.write RowHistory.initial).col ≤ 80 ∧
      ∀ ws', (ws.foldl RowHistory.write RowHistory.initial).rows.dropLast <+:
        ((ws ++ ws').foldl RowHistory.write RowHistory.initial).rows.dropLast := by
  have hs := Shows.initial.writeAll ws
  have hcol : (ws.foldl Screen.write Screen.initial).col.val ≤ 80 :=
    Nat.le_of_lt_succ (ws.foldl Screen.write Screen.initial).col.isLt
  refine ⟨hs.rows_eq, hs.col_eq, hs.col_eq ▸ hcol, fun ws' => ?_⟩
  rw [List.foldl_append]
  exact RowHistory.dropLast_prefix_writeAll ws'

end KernelMonitor
