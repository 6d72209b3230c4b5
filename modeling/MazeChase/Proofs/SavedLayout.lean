import Mathlib.Data.List.TakeWhile
import MazeChase.Maze.Layout

/-!
# Saved layouts

A layout that is kept as a text has a line for each row. Editors leave out the spaces at the end of
a line, end it in their own way, and put blank lines at the end of the text. None of this changes
the maze that is read back.

* `Layout.LineEnd`, `Layout.Line`, `Layout.saved`: the texts of a layout;
* `Maze.lines_append_newline`, `Maze.lines_append_lineEnd`: a line in front of a text;
* `Maze.lines_saved`, **`Maze.ofLayout_saved`**: the rows that are read back;
* `Maze.drawRow_spaces`, **`Maze.ofRows_kept`**: rows without the spaces at their ends;
* **`Maze.reads_saved_layouts`**.
-/

set_option autoImplicit false

namespace MazeChase

namespace Layout

/-! ## Texts of a layout -/

/-- The end of a line: a line feed, after up to two carriage returns. -/
inductive LineEnd where
  | feed
  | returnFeed
  | returnReturnFeed
deriving DecidableEq, Repr

/-- The characters of a line end. -/
def LineEnd.text : LineEnd → String
  | feed => "\n"
  | returnFeed => "\r\n"
  | returnReturnFeed => "\r\r\n"

/-- A row of a layout as a line of a text: what is kept of the row, how many spaces at its end are
left out, and how the line ends. -/
structure Line where
  kept : String
  spaces : Nat
  ending : LineEnd
deriving DecidableEq, Repr

/-- The whole row, with the spaces at its end. -/
def Line.row (l : Line) : String := l.kept ++ String.ofList (List.replicate l.spaces ' ')

/-- The line as it stands in the text. -/
def Line.text (l : Line) : String := l.kept ++ l.ending.text

/-- The text has nothing in it that belongs to a line end. -/
def OneLine (text : String) : Prop := ∀ c ∈ text.toList, c ≠ '\n' ∧ c ≠ '\r'

instance (text : String) : Decidable (OneLine text) := List.decidableBAll _ text.toList

/-- The text is white space. As line feeds and carriage returns are white space, it is any number of
blank lines, the last of them with or without an end. -/
def White (text : String) : Prop := ∀ c ∈ text.toList, Text.isBlank c = true

instance (text : String) : Decidable (White text) := List.decidableBAll _ text.toList

/-- The lines, one after the other, and what comes after them. -/
def saved (lines : List Line) (after : String) : String :=
  String.join (lines.map Line.text) ++ after

theorem toList_row (l : Line) : l.row.toList = l.kept.toList ++ List.replicate l.spaces ' ' := by
  rw [Line.row, String.toList_append, String.toList_ofList]

theorem row_of_spaces_eq_zero {l : Line} (none : l.spaces = 0) : l.row = l.kept := by
  rw [← String.toList_inj, toList_row, none, List.replicate_zero, List.append_nil]

theorem OneLine.kept {l : Line} (plain : OneLine l.row) : OneLine l.kept := by
  intro c hc
  refine plain c ?_
  rw [toList_row]
  exact List.mem_append_left _ hc

theorem toList_saved_cons (l : Line) (lines : List Line) (after : String) :
    (saved (l :: lines) after).toList =
      l.kept.toList ++ l.ending.text.toList ++ (saved lines after).toList := by
  simp [saved, Line.text, String.toList_join, List.append_assoc]

end Layout

open Layout

namespace Maze

open Text (lines)
open layoutRows (dropReturn dropBlankTail)

/-! ## Lines -/

theorem dropReturn_concat (line : List Char) : dropReturn (line ++ ['\r']) = line := by
  simp [dropReturn]

theorem dropReturn_of_notMem {line : List Char} (plain : '\r' ∉ line) : dropReturn line = line :=
  if_neg fun last => plain (List.mem_of_getLast? last)

theorem dropReturn_cons_cons (c d : Char) (line : List Char) :
    dropReturn (c :: d :: line) = c :: dropReturn (d :: line) := by
  unfold dropReturn
  rw [List.getLast?_cons_cons, List.dropLast_cons_cons, ← apply_ite (c :: ·)]

theorem mem_of_mem_dropReturn {line : List Char} {c : Char} (hc : c ∈ dropReturn line) :
    c ∈ line := by
  unfold dropReturn at hc
  split at hc
  · exact List.dropLast_subset line hc
  · exact hc

theorem lines_append_newline {line : List Char} (plain : '\n' ∉ line) (rest : List Char) :
    lines (line ++ '\n' :: rest) = dropReturn line :: lines rest := by
  induction line with
  | nil => rfl
  | cons c line ih =>
    obtain ⟨hc, plain⟩ : '\n' ≠ c ∧ '\n' ∉ line := by simpa using plain
    -- Only the last character before the line feed can go with it.
    cases line with
    | nil =>
      by_cases carriage : c = '\r'
      · subst carriage
        rfl
      · have last : dropReturn [c] = [c] := if_neg (by simpa using carriage)
        have tail : lines ([] ++ '\n' :: rest) = [] :: lines rest := rfl
        rw [last, List.cons_append, lines, tail]
        · exact hc.symm
        · rintro - h
          exact absurd h carriage
    | cons d line =>
      rw [dropReturn_cons_cons, List.cons_append, lines, ih plain]
      · exact hc.symm
      · rintro _ - h
        exact plain ((List.cons.inj h).1 ▸ List.mem_cons_self)

theorem flatten_lines_sublist (text : List Char) : (lines text).flatten.Sublist text := by
  induction text using Text.lines.induct with
  | case1 => exact List.Sublist.refl _
  | case2 rest ih => exact ih.cons _
  | case3 rest ih => exact (ih.cons _).cons _
  | case4 c rest feed carriage last ih =>
    rw [lines, last]
    · exact (List.nil_sublist rest).cons_cons c
    · exact feed
    · exact carriage
  | case5 c rest feed carriage line more split ih =>
    rw [split] at ih
    rw [lines, split]
    · exact ih.cons_cons c
    · exact feed
    · exact carriage

theorem lines_append_lineEnd {kept : String} (plain : OneLine kept) (ending : LineEnd)
    (rest : List Char) : (lines (kept.toList ++ ending.text.toList ++ rest)).map dropReturn =
      kept.toList :: (lines rest).map dropReturn := by
  have noFeed : '\n' ∉ kept.toList := fun hc => (plain _ hc).1 rfl
  have noReturn : '\r' ∉ kept.toList := fun hc => (plain _ hc).2 rfl
  have line (returns : List Char) (few : '\n' ∉ returns) :
      lines (kept.toList ++ (returns ++ ['\n']) ++ rest) =
        dropReturn (kept.toList ++ returns) :: lines rest := by
    have whole : '\n' ∉ kept.toList ++ returns := by simp [noFeed, few]
    rw [← lines_append_newline whole, List.append_assoc, List.append_assoc, List.append_assoc]
    rfl
  cases ending with
  | feed =>
    have ends : lines (kept.toList ++ LineEnd.feed.text.toList ++ rest) = _ := line [] (by decide)
    rw [ends, List.append_nil, List.map_cons, dropReturn_of_notMem noReturn,
      dropReturn_of_notMem noReturn]
  | returnFeed =>
    have ends : lines (kept.toList ++ LineEnd.returnFeed.text.toList ++ rest) = _ :=
      line ['\r'] (by decide)
    rw [ends, List.map_cons, dropReturn_concat, dropReturn_of_notMem noReturn]
  | returnReturnFeed =>
    have ends : lines (kept.toList ++ LineEnd.returnReturnFeed.text.toList ++ rest) = _ :=
      line ['\r', '\r'] (by decide)
    have two : kept.toList ++ ['\r', '\r'] = kept.toList ++ ['\r'] ++ ['\r'] := by simp
    rw [ends, List.map_cons, two, dropReturn_concat, dropReturn_concat]

variable {written : List Line} {after : String}

theorem lines_saved (plain : ∀ l ∈ written, OneLine l.kept) (white : White after) :
    ∃ blanks : List (List Char), (∀ line ∈ blanks, line.all Text.isBlank = true) ∧
      (lines (saved written after).toList).map dropReturn =
        written.map (·.kept.toList) ++ blanks := by
  refine ⟨(lines after.toList).map dropReturn, ?_, ?_⟩
  · intro line hline
    obtain ⟨whole, hwhole, rfl⟩ := List.mem_map.mp hline
    have within : whole ⊆ after.toList := fun c hc =>
      (flatten_lines_sublist after.toList).subset (List.mem_flatten_of_mem hwhole hc)
    exact List.all_eq_true.mpr fun c hc => white c (within (mem_of_mem_dropReturn hc))
  · induction written with
    | nil => simp [saved]
    | cons l written ih =>
      obtain ⟨here, later⟩ := List.forall_mem_cons.mp plain
      rw [toList_saved_cons, lines_append_lineEnd here, ih later, List.map_cons, List.cons_append]

theorem dropBlankTail_of_blank {blanks : List (List Char)}
    (blank : ∀ line ∈ blanks, line.all Text.isBlank = true) : dropBlankTail blanks = [] := by
  rw [dropBlankTail, List.reverse_eq_nil_iff, List.dropWhile_eq_nil_iff]
  exact fun line hline => blank line (List.mem_reverse.mp hline)

/-- **A saved layout** is read as the rows that were kept. -/
theorem ofLayout_saved (count : written.length = rowCount)
    (plain : ∀ l ∈ written, OneLine l.kept) (white : White after) :
    ofLayout (saved written after) = ofRows (written.map Line.kept) := by
  obtain ⟨blanks, blank, split⟩ := lines_saved plain white
  have count : (written.map (·.kept.toList)).length = rowCount := by rwa [List.length_map]
  rw [ofLayout, layoutRows, split, List.take_left' count, List.drop_left' count,
    dropBlankTail_of_blank blank, List.append_nil, List.map_map]
  simp [Function.comp_def]

/-! ## Rows without the spaces at their ends -/

theorem drawRow_spaces (row col : Nat) (m : Maze) (kept : List Char) (spaces : Nat) :
    drawRow row col m (kept ++ List.replicate spaces ' ') = drawRow row col m kept := by
  induction kept generalizing col m with
  | nil =>
    induction spaces generalizing col with
    | zero => rfl
    | succ spaces ih => exact ih (col + 1)
  | cons glyph kept ih =>
    rw [List.cons_append, drawRow, drawRow]
    cases m.draw row col glyph with
    | ok m => exact ih (col + 1) m
    | error e => rfl

theorem drawRows_kept {row : Nat} {m drawn : Maze}
    (drawing : drawRows row m (written.map Line.row) = .ok drawn) :
    drawRows row m (written.map Line.kept) = .ok drawn := by
  induction written generalizing row m with
  | nil => exact drawing
  | cons l written ih =>
    rw [List.map_cons, drawRows, toList_row] at drawing
    split at drawing
    · cases drawing
    · next fits =>
      have fits : ¬ l.kept.toList.length > colCount := by
        rw [List.length_append] at fits
        omega
      rw [drawRow_spaces] at drawing
      rw [List.map_cons, drawRows, if_neg fits]
      split at drawing
      · exact ih drawing
      · cases drawing

/-- **Rows that draw a maze** draw the same one without the spaces at their ends. -/
theorem ofRows_kept {m : Maze} (drawing : ofRows (written.map Line.row) = .ok m) :
    ofRows (written.map Line.kept) = .ok m := by
  unfold ofRows at drawing ⊢
  rw [List.length_map] at drawing ⊢
  split at drawing
  · cases drawing
  · next count =>
    rw [if_neg count]
    exact drawRows_kept drawing

/-- **A layout that was saved as a text is read back**, whatever spaces are left out, however lines
end and however many blank ones follow. -/
theorem reads_saved_layouts {rows : List String} (count : rows.length = rowCount)
    (plain : ∀ row ∈ rows, OneLine row) {written : List Line}
    (writes : written.map Line.row = rows) {after : String} (white : White after) :
    (∀ m, ofRows rows = .ok m → ofLayout (saved written after) = .ok m) ∧
      ((∀ l ∈ written, l.spaces = 0) → ofLayout (saved written after) = ofRows rows) := by
  subst writes
  rw [List.length_map] at count
  have kept : ∀ l ∈ written, OneLine l.kept := fun l hl =>
    (plain _ (List.mem_map_of_mem hl)).kept
  have read : ofLayout (saved written after) = ofRows (written.map Line.kept) :=
    ofLayout_saved count kept white
  refine ⟨fun m drawing => read.trans (ofRows_kept drawing), fun whole => ?_⟩
  have same : written.map Line.row = written.map Line.kept :=
    List.map_congr_left fun l hl => row_of_spaces_eq_zero (whole l hl)
  rw [read, same]

/-- Blank rows of a layout are kept, and blank lines after it are not. -/
theorem reads_saved_layouts_corner :
    let blank : Line := ⟨"", 3, .returnFeed⟩
    let written := (List.replicate 31 blank).set 3 ⟨" o #.", 2, .returnReturnFeed⟩
    let strange := (List.replicate 31 ⟨"   ", 0, .feed⟩).set 23 ⟨" o  .o x", 0, .returnFeed⟩
    let after := "\n \t\r\n\r\r\n "
    (∃ m, ofRows (written.map Line.row) = .ok m ∧ m.pellets.count = 2 ∧
      ofLayout (saved written after) = .ok m) ∧
    ofLayout (saved strange after) = .error (.misplacedSuperPellet 23 5) := by
  intro blank written strange after
  have white : White after := by decide +kernel
  have plain : (∀ row ∈ written.map Line.row, OneLine row) ∧
      (∀ row ∈ strange.map Line.row, OneLine row) ∧ ∀ l ∈ strange, l.spaces = 0 := by
    decide +kernel
  have drawn : (ofRows (written.map Line.row)).toOption.map (·.pellets.count) = some 2 := by
    decide +kernel
  have refused : ofRows (strange.map Line.row) = .error (.misplacedSuperPellet 23 5) := by
    decide +kernel
  refine ⟨?_, ((reads_saved_layouts rfl plain.2.1 rfl white).2 plain.2.2).trans refused⟩
  cases drawing : ofRows (written.map Line.row) with
  | error e =>
    rw [drawing] at drawn
    cases drawn
  | ok m =>
    rw [drawing] at drawn
    exact ⟨m, rfl, Option.some.inj drawn, (reads_saved_layouts rfl plain.1 rfl white).1 m drawing⟩

end Maze

end MazeChase
