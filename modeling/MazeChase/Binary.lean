import MazeChase.Binary.Format
import MazeChase.Event

/-!
# Binary forms

How the values that programs exchange about a game are written as bytes. Choices are numbered in
the order in which they are declared, and the parts of a value follow one another.

* `Direction.format`, `Location.format`, `Color.format`, `Mode.format`, `ModeSnapshot.format`,
  `Outcome.format`, `FruitWave.format`.
-/

set_option autoImplicit false

namespace MazeChase

open Binary

/-- A direction by its place in `Direction.all`. -/
def Direction.format : Format Direction := .choice Direction.all Direction.index

/-- A coordinate in one byte, negative ones counted down from 256. -/
def Coord.format : Format Coord :=
  Format.byte.convert
    (fun b => some (Coord.clamp (if b.toNat < 128 then b.toNat else b.toNat - 256)))
    (fun c => UInt8.ofNat (c.val % 256).toNat)

/-- Row, column and heading. -/
def Location.format : Format Location :=
  (Coord.format.pair (Coord.format.pair Direction.format)).convert
    (fun (row, col, heading) => some ⟨⟨row, col⟩, heading⟩)
    (fun l => (l.cell.row, l.cell.col, l.heading))

/-- A ghost by its place in roster order. -/
def Color.format : Format Color := .choice Color.all Color.index

/-- The place of the mode in its declaration. -/
def Mode.index : Mode → Nat
  | scatter => 0
  | chase => 1
  | paused => 2

/-- A mode by its place. -/
def Mode.format : Format Mode := .choice [.scatter, .chase, .paused] Mode.index

/-- The mode and, if there is one, the last mode other than the pause. -/
def ModeSnapshot.format : Format ModeSnapshot :=
  (Mode.format.pair Mode.format.option).convert
    (fun (mode, lastUnpaused) => some ⟨mode, lastUnpaused⟩)
    (fun s => (s.mode, s.lastUnpaused))

/-- The place of the outcome in its declaration. -/
def Outcome.index : Outcome → Nat
  | won => 0
  | lost => 1

/-- An outcome by its place. -/
def Outcome.format : Format Outcome := .choice [.won, .lost] Outcome.index

/-- The place of the fruit in its declaration. -/
def FruitWave.index : FruitWave → Nat
  | first => 0
  | second => 1

/-- A fruit by its place. -/
def FruitWave.format : Format FruitWave := .choice [.first, .second] FruitWave.index

end MazeChase
