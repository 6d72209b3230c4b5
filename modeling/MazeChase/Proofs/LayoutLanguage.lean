import MazeChase.Proofs.Counting

/-!
# The language of layouts

Which rows draw a maze, what they draw, and what is wrong with those that do not. A layout is
described by its characters alone: how many rows there are, how long they are, and which character
stands where.

* `Layout.Legal`, `Layout.GoodRow`, `Layout.IsLayout`: the language;
* `Layout.Fault`, `Layout.isLayout_or_fault`: rows that are no layout have a first fault;
* `Maze.strokes`, `Maze.drawRow_append`, `Maze.drawRows_append`: drawing, character by character;
* `Maze.ofRows_of_isLayout`, `Maze.ofRows_of_fault`: what comes of rows;
* `Layout.Draws`, `Maze.Gathers.foldl`, `Maze.draws_strokes`: the maze that a layout draws;
* **`Maze.reads_layouts`**.
-/

set_option autoImplicit false

namespace MazeChase

namespace Layout

/-! ## The language -/

/-- The characters of a layout: a wall, a pellet, a super pellet, and open floor. -/
def alphabet : List Char := ['#', '.', 'o', ' ']

/-- The character stands for a pellet. -/
def isPellet (glyph : Char) : Bool := glyph = '.' || glyph = 'o'

/-- The rows and columns where a super pellet may lie. -/
def powerPlaces : List (Nat × Nat) := [(3, 1), (3, 26), (23, 1), (23, 26)]

/-- The character may stand in this place. -/
def Legal (row col : Nat) (glyph : Char) : Prop :=
  glyph ∈ alphabet ∧ (glyph = 'o' → (row, col) ∈ powerPlaces)

/-- The row is not too wide, and its characters may stand where they are. -/
structure GoodRow (row : Nat) (text : List Char) : Prop where
  fits : text.length ≤ colCount
  legal : ∀ col glyph, text[col]? = some glyph → Legal row col glyph

/-- The rows are a layout: there are as many as the board has, and all of them are good. -/
structure IsLayout (rows : List String) : Prop where
  count : rows.length = rowCount
  good : ∀ row text, rows[row]? = some text → GoodRow row text.toList

/-! ## Faults -/

/-- What is wrong with a character in its place. -/
inductive GlyphFault (row col : Nat) : Char → LayoutError → Prop
  | unknown {glyph : Char} (stranger : glyph ∉ alphabet) :
      GlyphFault row col glyph (.unknownGlyph glyph row col)
  | misplaced (off : (row, col) ∉ powerPlaces) :
      GlyphFault row col 'o' (.misplacedSuperPellet row col)

/-- What is wrong with a row: its width, and if it fits, the first bad character. -/
inductive RowFault (row : Nat) (text : List Char) : LayoutError → Prop
  | width (wide : colCount < text.length) : RowFault row text (.rowWidth row text.length)
  | glyph {before after : List Char} {glyph : Char} {e : LayoutError}
      (fits : text.length ≤ colCount) (split : text = before ++ glyph :: after)
      (first : ∀ col g, before[col]? = some g → Legal row col g)
      (fault : GlyphFault row before.length glyph e) : RowFault row text e

/-- What is wrong with rows: their number, and if this is right, the first bad row. -/
inductive Fault (rows : List String) : LayoutError → Prop
  | count (wrong : rows.length ≠ rowCount) : Fault rows (.rowCount rows.length)
  | row {before after : List String} {text : String} {e : LayoutError}
      (count : rows.length = rowCount) (split : rows = before ++ text :: after)
      (first : ∀ row t, before[row]? = some t → GoodRow row t.toList)
      (fault : RowFault before.length text.toList e) : Fault rows e

/-- In a list either every place is good, or there is a first bad one. -/
theorem all_or_first {α : Type} (good : Nat → α → Prop) (l : List α) :
    (∀ i a, l[i]? = some a → good i a) ∨ ∃ before a after, l = before ++ a :: after ∧
      (∀ i b, before[i]? = some b → good i b) ∧ ¬ good before.length a := by
  induction l using List.reverseRecOn with
  | nil => exact .inl (by simp)
  | append_singleton l last ih =>
    rcases ih with all | ⟨before, a, after, rfl, first, bad⟩
    · by_cases fine : good l.length last
      · refine .inl fun i a here => ?_
        rcases Nat.lt_or_ge i l.length with inside | beyond
        · exact all i a (by rwa [List.getElem?_append_left inside] at here)
        · rw [List.getElem?_append_right beyond, List.getElem?_singleton] at here
          split at here
          · obtain rfl : i = l.length := by omega
            cases here
            exact fine
          · cases here
      · exact .inr ⟨l, last, [], rfl, all, fine⟩
    · exact .inr ⟨before, a, after ++ [last], by simp, first, bad⟩

theorem exists_glyphFault {row col : Nat} {glyph : Char} (bad : ¬ Legal row col glyph) :
    ∃ e, GlyphFault row col glyph e := by
  by_cases known : glyph ∈ alphabet
  · have misplaced : glyph = 'o' ∧ (row, col) ∉ powerPlaces := by
      simpa only [Legal, known, true_and, Classical.not_imp] using bad
    obtain ⟨rfl, off⟩ := misplaced
    exact ⟨_, .misplaced off⟩
  · exact ⟨_, .unknown known⟩

theorem exists_rowFault {row : Nat} {text : List Char} (bad : ¬ GoodRow row text) :
    ∃ e, RowFault row text e := by
  rcases Nat.lt_or_ge colCount text.length with wide | fits
  · exact ⟨_, .width wide⟩
  rcases all_or_first (Legal row) text with all | ⟨before, glyph, after, split, first, here⟩
  · exact absurd ⟨fits, all⟩ bad
  · obtain ⟨e, fault⟩ := exists_glyphFault here
    exact ⟨e, .glyph fits split first fault⟩

/-- **Rows that are no layout** have a first fault. -/
theorem isLayout_or_fault (rows : List String) : IsLayout rows ∨ ∃ e, Fault rows e := by
  by_cases count : rows.length = rowCount
  · rcases all_or_first (fun row (text : String) => GoodRow row text.toList) rows with
      all | ⟨before, text, after, split, first, here⟩
    · exact .inl ⟨count, all⟩
    · obtain ⟨e, fault⟩ := exists_rowFault here
      exact .inr ⟨e, .row count split first fault⟩
  · exact .inr ⟨_, .count count⟩

theorem isPowerCorner_ofNat (row col : Nat) :
    (Cell.ofNat row col).IsPowerCorner ↔ (row, col) ∈ powerPlaces := by
  have corners : Cell.powerCorners = powerPlaces.map fun p => Cell.ofNat p.1 p.2 := rfl
  have clamp {n k : Nat} (small : k < 127) (same : Coord.clamp k = Coord.clamp n) : k = n := by
    have vals := congrArg Coord.val same
    rw [Coord.val_clamp_of_mem (by omega) (by omega), Coord.val_clamp] at vals
    split at vals <;> omega
  rw [Cell.IsPowerCorner, corners, List.mem_map]
  constructor
  · rintro ⟨p, place, same⟩
    have small : p.1 < 127 ∧ p.2 < 127 :=
      (by decide : ∀ p ∈ powerPlaces, p.1 < 127 ∧ p.2 < 127) p place
    obtain ⟨same_row, same_col⟩ := Cell.mk.inj same
    rwa [← clamp small.1 same_row, ← clamp small.2 same_col]
  · exact fun place => ⟨(row, col), place, rfl⟩

end Layout

open Layout

namespace Maze

/-! ## Strokes -/

/-- What the character draws on a cell, if it draws anything. -/
def stroke (m : Maze) (s : Cell × Char) : Maze where
  walls := if s.2 = '#' then m.walls.insert s.1 else m.walls
  pellets := if isPellet s.2 then m.pellets.add s.1 else m.pellets

/-- The characters of a row from a column on, each with its cell. -/
def rowStrokes (row col : Nat) (text : List Char) : List (Cell × Char) :=
  (text.zipIdx col).map fun p => (Cell.ofNat row p.2, p.1)

/-- The characters of the rows from a row on, each with its cell. -/
def strokes (row : Nat) (rows : List String) : List (Cell × Char) :=
  (rows.zipIdx row).flatMap fun p => rowStrokes p.2 0 p.1.toList

theorem rowStrokes_cons (row col : Nat) (glyph : Char) (text : List Char) :
    rowStrokes row col (glyph :: text) =
      (Cell.ofNat row col, glyph) :: rowStrokes row (col + 1) text := by
  rw [rowStrokes, List.zipIdx_cons, List.map_cons]
  rfl

theorem strokes_cons (row : Nat) (text : String) (rows : List String) :
    strokes row (text :: rows) = rowStrokes row 0 text.toList ++ strokes (row + 1) rows := by
  rw [strokes, List.zipIdx_cons, List.flatMap_cons]
  rfl

theorem draw_of_legal {row col : Nat} {glyph : Char} (legal : Legal row col glyph) (m : Maze) :
    m.draw row col glyph = .ok (m.stroke (Cell.ofNat row col, glyph)) := by
  obtain ⟨known, place⟩ := legal
  simp only [alphabet, List.mem_cons, List.not_mem_nil, or_false] at known
  rcases known with rfl | rfl | rfl | rfl
  · rfl
  · rfl
  · exact if_pos ((isPowerCorner_ofNat row col).mpr (place rfl))
  · rfl

theorem draw_of_glyphFault {row col : Nat} {glyph : Char} {e : LayoutError}
    (fault : GlyphFault row col glyph e) (m : Maze) : m.draw row col glyph = .error e := by
  cases fault with
  | unknown stranger =>
    unfold draw
    split
    · exact absurd (by decide) stranger
    · exact absurd (by decide) stranger
    · exact absurd (by decide) stranger
    · exact absurd (by decide) stranger
    · rfl
  | misplaced off => exact if_neg (mt (isPowerCorner_ofNat row col).mp off)

/-- **Legal characters** are drawn before the rest of the row. -/
theorem drawRow_append {row : Nat} {before : List Char} {col : Nat}
    (legal : ∀ k g, before[k]? = some g → Legal row (col + k) g) (rest : List Char) (m : Maze) :
    drawRow row col m (before ++ rest) =
      drawRow row (col + before.length) ((rowStrokes row col before).foldl stroke m) rest := by
  induction before generalizing col m with
  | nil => rfl
  | cons glyph before ih =>
    have here : Legal row col glyph := legal 0 glyph rfl
    have later : ∀ k g, before[k]? = some g → Legal row (col + 1 + k) g := by
      intro k g found
      rw [Nat.add_assoc, Nat.add_comm 1 k]
      exact legal (k + 1) g found
    rw [List.cons_append, drawRow, draw_of_legal here, rowStrokes_cons, List.foldl_cons,
      List.length_cons, Nat.add_comm before.length, ← Nat.add_assoc]
    exact ih later _

theorem drawRow_of_goodRow {row : Nat} {text : List Char} (good : GoodRow row text) (m : Maze) :
    drawRow row 0 m text = .ok ((rowStrokes row 0 text).foldl stroke m) := by
  have legal : ∀ col glyph, text[col]? = some glyph → Legal row (0 + col) glyph := by
    simpa only [Nat.zero_add] using good.legal
  simpa only [List.append_nil, drawRow] using drawRow_append legal [] m

/-- **Good rows** are drawn before the rest of the rows. -/
theorem drawRows_append {before : List String} {row : Nat}
    (good : ∀ k t, before[k]? = some t → GoodRow (row + k) t.toList) (rest : List String)
    (m : Maze) : drawRows row m (before ++ rest) =
      drawRows (row + before.length) ((strokes row before).foldl stroke m) rest := by
  induction before generalizing row m with
  | nil => rfl
  | cons text before ih =>
    have here : GoodRow row text.toList := good 0 text rfl
    have later : ∀ k t, before[k]? = some t → GoodRow (row + 1 + k) t.toList := by
      intro k t found
      rw [Nat.add_assoc, Nat.add_comm 1 k]
      exact good (k + 1) t found
    rw [List.cons_append, drawRows, if_neg (Nat.not_lt.mpr here.fits), drawRow_of_goodRow here,
      strokes_cons, List.foldl_append, List.length_cons, Nat.add_comm before.length,
      ← Nat.add_assoc]
    exact ih later _

/-- **A layout** is drawn character by character. -/
theorem ofRows_of_isLayout {rows : List String} (layout : IsLayout rows) :
    ofRows rows = .ok ((strokes 0 rows).foldl stroke openFloor) := by
  have good : ∀ row text, rows[row]? = some text → GoodRow (0 + row) text.toList := by
    simpa only [Nat.zero_add] using layout.good
  rw [ofRows, if_neg (not_not.mpr layout.count)]
  simpa only [List.append_nil, drawRows] using drawRows_append good [] openFloor

theorem drawRow_of_rowFault {row : Nat} {text : List Char} {e : LayoutError}
    (fits : text.length ≤ colCount) (fault : RowFault row text e) (m : Maze) :
    drawRow row 0 m text = .error e := by
  cases fault with
  | width wide => omega
  | @glyph before _ _ _ _ split first fault =>
    have legal : ∀ k g, before[k]? = some g → Legal row (0 + k) g := by
      simpa only [Nat.zero_add] using first
    rw [split, drawRow_append legal, Nat.zero_add, drawRow, draw_of_glyphFault fault]

/-- **Rows with a fault** draw no maze, and the first fault is the error. -/
theorem ofRows_of_fault {rows : List String} {e : LayoutError} (fault : Fault rows e) :
    ofRows rows = .error e := by
  cases fault with
  | count wrong => exact if_pos wrong
  | @row before _ text _ count split first fault =>
    have good : ∀ k t, before[k]? = some t → GoodRow (0 + k) t.toList := by
      simpa only [Nat.zero_add] using first
    rw [ofRows, if_neg (not_not.mpr count), split, drawRows_append good, Nat.zero_add, drawRows]
    rcases Nat.lt_or_ge colCount text.toList.length with wide | fits
    · rw [if_pos wide]
      cases fault with
      | width => rfl
      | glyph fits => omega
    · rw [if_neg (Nat.not_lt.mpr fits), drawRow_of_rowFault fits fault]

end Maze

/-! ## What is drawn -/

namespace Layout

/-- The character that stands on a cell of the board. Beyond the end of a row there is open
floor. -/
def glyphAt (rows : List String) (c : Cell) : Char :=
  (rows[c.row.val.toNat]?.bind fun text => text.toList[c.col.val.toNat]?).getD ' '

/-- The maze is what the rows say: which cells are walls, where the pellets lie, and how many they
are. That number is the one that every game in the maze starts with. -/
structure Draws (rows : List String) (m : Maze) : Prop where
  walls : ∀ c, m.wallAt c = true ↔ ¬ c.OnBoard ∨ glyphAt rows c = '#'
  pellets : ∀ c, m.pellets.cells.contains c = true ↔ c.OnBoard ∧ isPellet (glyphAt rows c) = true
  count : m.pellets.count = (rows.flatMap String.toList).countP isPellet

end Layout

namespace Maze

/-- The part of the maze holds the cells of the strokes of one kind. -/
def Gathers (part : Maze → CellSet) (kind : Char → Prop) : Prop :=
  ∀ (m : Maze) (s : Cell × Char), s.1.OnBoard → ∀ c, ((part (m.stroke s)).contains c = true ↔
    (part m).contains c = true ∨ s.1 = c ∧ kind s.2)

theorem contains_insert_if {d : Cell} (inside : d.OnBoard) (p : Prop) [Decidable p]
    (set : CellSet) (c : Cell) :
    (if p then set.insert d else set).contains c = true ↔ set.contains c = true ∨ d = c ∧ p := by
  by_cases h : p
  · rw [if_pos h, CellSet.contains_insert _ c inside, Bool.or_eq_true, decide_eq_true_eq,
      and_iff_left h, or_comm, @eq_comm _ c]
  · rw [if_neg h, or_iff_left fun here => h here.2]

theorem gathers_walls : Gathers Maze.walls (· = '#') := fun m _ inside c =>
  contains_insert_if inside _ m.walls c

theorem gathers_pellets : Gathers (·.pellets.cells) (isPellet · = true) := by
  intro m s inside c
  have pellets : (m.stroke s).pellets.cells =
      if isPellet s.2 then m.pellets.cells.insert s.1 else m.pellets.cells :=
    apply_ite Pellets.cells _ _ _
  show (m.stroke s).pellets.cells.contains c = true ↔ _
  rw [pellets]
  exact contains_insert_if inside _ m.pellets.cells c

variable {drawn : List (Cell × Char)}

theorem Gathers.foldl {part : Maze → CellSet} {kind : Char → Prop} (gathers : Gathers part kind)
    (inside : ∀ s ∈ drawn, s.1.OnBoard) (m : Maze) (c : Cell) :
    (part (drawn.foldl stroke m)).contains c = true ↔
      (part m).contains c = true ∨ ∃ s ∈ drawn, s.1 = c ∧ kind s.2 := by
  induction drawn generalizing m with
  | nil => simp
  | cons s drawn ih =>
    obtain ⟨here, later⟩ := List.forall_mem_cons.mp inside
    rw [List.foldl_cons, ih later, gathers m s here, List.exists_mem_cons_iff, or_assoc]

theorem count_foldl (m : Maze) : (drawn.foldl stroke m).pellets.count =
    m.pellets.count + drawn.countP (isPellet ·.2) := by
  induction drawn generalizing m with
  | nil => rfl
  | cons s drawn ih =>
    have step : (m.stroke s).pellets.count = m.pellets.count + if isPellet s.2 then 1 else 0 := by
      unfold stroke
      by_cases pellet : isPellet s.2 = true <;> simp [pellet, Pellets.add]
    rw [List.foldl_cons, ih, step, List.countP_cons]
    omega

theorem mem_rowStrokes {row : Nat} {text : List Char} {s : Cell × Char} :
    s ∈ rowStrokes row 0 text ↔ ∃ col, text[col]? = some s.2 ∧ s.1 = Cell.ofNat row col := by
  rw [rowStrokes, List.mem_map]
  constructor
  · rintro ⟨⟨glyph, col⟩, here, rfl⟩
    exact ⟨col, List.mk_mem_zipIdx_iff_getElem?.mp here, rfl⟩
  · rintro ⟨col, here, cell⟩
    exact ⟨(s.2, col), List.mk_mem_zipIdx_iff_getElem?.mpr here, Prod.ext cell.symm rfl⟩

theorem mem_strokes {rows : List String} {s : Cell × Char} : s ∈ strokes 0 rows ↔
    ∃ row col text, rows[row]? = some text ∧ text.toList[col]? = some s.2 ∧
      s.1 = Cell.ofNat row col := by
  rw [strokes, List.mem_flatMap]
  constructor
  · rintro ⟨⟨text, row⟩, here, drawn⟩
    obtain ⟨col, glyph, cell⟩ := mem_rowStrokes.mp drawn
    exact ⟨row, col, text, List.mk_mem_zipIdx_iff_getElem?.mp here, glyph, cell⟩
  · rintro ⟨row, col, text, here, glyph, cell⟩
    exact ⟨(text, row), List.mk_mem_zipIdx_iff_getElem?.mpr here,
      mem_rowStrokes.mpr ⟨col, glyph, cell⟩⟩

theorem map_snd_strokes (row : Nat) (rows : List String) :
    (strokes row rows).map Prod.snd = rows.flatMap String.toList := by
  induction rows generalizing row with
  | nil => rfl
  | cons text rows ih =>
    have first : (rowStrokes row 0 text.toList).map Prod.snd = text.toList := by
      rw [rowStrokes, List.map_map]
      exact List.zipIdx_map_fst 0 text.toList
    rw [strokes_cons, List.map_append, first, ih, List.flatMap_cons]

end Maze

theorem Layout.IsLayout.inside {rows : List String} (layout : IsLayout rows) {row col : Nat}
    {text : String} {glyph : Char} (here : rows[row]? = some text)
    (there : text.toList[col]? = some glyph) : row < rowCount ∧ col < colCount := by
  obtain ⟨before, _⟩ := List.getElem?_eq_some_iff.mp here
  obtain ⟨before', _⟩ := List.getElem?_eq_some_iff.mp there
  exact ⟨layout.count ▸ before, Nat.lt_of_lt_of_le before' (layout.good row text here).fits⟩

theorem Layout.IsLayout.mem_strokes_iff {rows : List String} (layout : IsLayout rows) {c : Cell}
    {glyph : Char} (mark : glyph ≠ ' ') :
    (c, glyph) ∈ Maze.strokes 0 rows ↔ c.OnBoard ∧ glyphAt rows c = glyph := by
  rw [Maze.mem_strokes]
  constructor
  · rintro ⟨row, col, text, here, there, rfl⟩
    obtain ⟨hr, hc⟩ := layout.inside here there
    obtain ⟨row_eq, col_eq⟩ := Cell.val_ofNat hr hc
    refine ⟨Cell.onBoard_ofNat hr hc, ?_⟩
    rw [glyphAt, row_eq, col_eq, Int.toNat_natCast, Int.toNat_natCast, here, Option.bind_some,
      there, Option.getD_some]
  · rintro ⟨on, stands⟩
    unfold glyphAt at stands
    cases found : rows[c.row.val.toNat]?.bind fun text => text.toList[c.col.val.toNat]? with
    | none =>
      rw [found] at stands
      exact absurd stands.symm mark
    | some g =>
      rw [found, Option.getD_some] at stands
      obtain ⟨text, here, there⟩ := Option.bind_eq_some_iff.mp found
      exact ⟨_, _, text, here, stands ▸ there, (Cell.ofNat_index on).symm⟩

theorem Layout.IsLayout.exists_stroke_iff {rows : List String} (layout : IsLayout rows) {c : Cell}
    (kind : Char → Prop) (mark : ¬ kind ' ') :
    (∃ s ∈ Maze.strokes 0 rows, s.1 = c ∧ kind s.2) ↔ c.OnBoard ∧ kind (glyphAt rows c) := by
  constructor
  · rintro ⟨⟨d, glyph⟩, drawn, rfl, holds⟩
    have visible : glyph ≠ ' ' := fun blank => mark (blank ▸ holds)
    obtain ⟨on, stands⟩ := (layout.mem_strokes_iff visible).mp drawn
    exact ⟨on, stands ▸ holds⟩
  · rintro ⟨on, holds⟩
    have visible : glyphAt rows c ≠ ' ' := fun blank => mark (blank ▸ holds)
    exact ⟨(c, glyphAt rows c), (layout.mem_strokes_iff visible).mpr ⟨on, rfl⟩, rfl, holds⟩

namespace Maze

theorem draws_strokes {rows : List String} (layout : IsLayout rows) :
    Draws rows ((strokes 0 rows).foldl stroke openFloor) := by
  have inside : ∀ s ∈ strokes 0 rows, s.1.OnBoard := by
    intro s hs
    obtain ⟨row, col, text, here, there, cell⟩ := mem_strokes.mp hs
    obtain ⟨hr, hc⟩ := layout.inside here there
    rw [cell]
    exact Cell.onBoard_ofNat hr hc
  have blank (c : Cell) : ¬ CellSet.empty.contains c = true := by simp [CellSet.contains_empty]
  refine ⟨fun c => ?_, fun c => ?_, ?_⟩
  · have wall : ((strokes 0 rows).foldl stroke openFloor).walls.contains c = true ↔
        c.OnBoard ∧ glyphAt rows c = '#' := by
      rw [gathers_walls.foldl inside, openFloor, or_iff_right (blank c)]
      exact layout.exists_stroke_iff (· = '#') (by decide)
    rw [wallAt, Bool.or_eq_true, wall, Bool.not_eq_true', decide_eq_false_iff_not]
    by_cases on : c.OnBoard <;> simp [on]
  · rw [gathers_pellets.foldl inside, openFloor, Pellets.empty, or_iff_right (blank c)]
    exact layout.exists_stroke_iff (isPellet · = true) (by decide)
  · rw [count_foldl, ← map_snd_strokes 0, List.countP_map]
    exact Nat.zero_add _

/-- **The rows that draw a maze** are the layouts, and the maze is what they say. Other rows are
refused for their number or for their first fault. -/
theorem reads_layouts (rows : List String) :
    ((∃ m, ofRows rows = .ok m) ↔ IsLayout rows) ∧
      (∀ m, ofRows rows = .ok m → Draws rows m) ∧
      ∀ e, ofRows rows = .error e ↔ Fault rows e := by
  have accepted (m : Maze) (read : ofRows rows = .ok m) : IsLayout rows := by
    rcases isLayout_or_fault rows with layout | ⟨e, fault⟩
    · exact layout
    · rw [ofRows_of_fault fault] at read
      cases read
  refine ⟨⟨fun ⟨m, read⟩ => accepted m read, fun layout => ⟨_, ofRows_of_isLayout layout⟩⟩,
    fun m read => ?_, fun e => ⟨fun read => ?_, ofRows_of_fault⟩⟩
  · have drawn := draws_strokes (accepted m read)
    rw [ofRows_of_isLayout (accepted m read)] at read
    cases read
    exact drawn
  · rcases isLayout_or_fault rows with layout | ⟨e', fault⟩
    · rw [ofRows_of_isLayout layout] at read
      cases read
    · rw [ofRows_of_fault fault] at read
      cases read
      exact fault

/-- A layout with a super pellet on its corner, and rows refused for one in a wrong place. -/
theorem reads_layouts_corner :
    let rows := (List.replicate 31 "").set 3 " o #."
    let strange := rows.set 23 " o  .o x"
    (IsLayout rows ∧ ∃ m, ofRows rows = .ok m ∧ m.pellets.count = 2 ∧ m.wallAt ⟨3, 3⟩ = true) ∧
      Fault strange (.misplacedSuperPellet 23 5) := by
  intro rows strange
  obtain ⟨accepts, draws, _⟩ := reads_layouts rows
  obtain ⟨m, read⟩ : ∃ m, ofRows rows = .ok m := ⟨_, rfl⟩
  have drawn : Draws rows m := draws m read
  have refused : ofRows strange = .error (.misplacedSuperPellet 23 5) := rfl
  refine ⟨⟨accepts.mp ⟨m, read⟩, m, read, drawn.count.trans (by decide +kernel), ?_⟩,
    ((reads_layouts strange).2.2 _).mp refused⟩
  exact (drawn.walls _).mpr (.inr (by decide +kernel))

end Maze

end MazeChase
