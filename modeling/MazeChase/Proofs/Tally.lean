import MazeChase.Proofs.Fruit
import MazeChase.Proofs.Hunt
import MazeChase.Proofs.Pellets
import MazeChase.Session

/-!
# The tally of a game

A tally counts the events of four kinds, in numbers of 32 bits. A game has few pellets, few ghosts
to eat and two fruits, so these numbers are exact.

* `Event.isPellet`, `Event.isFruit`, `Event.isStranding`: the events that are counted, beside
  `Event.isFeast`;
* `Tally.of`, **`Tally.foldl_record`**: recording the events of a log counts them;
* `World.countP_isPellet`, `World.countP_isFeast_le`, `World.countP_isFruit_le`: how many events of
  each kind a game tells of;
* **`World.tally_run`**: the tally of a game is exact.
-/

set_option autoImplicit false

namespace MazeChase

namespace Event

/-- The player took a pellet. -/
def isPellet : Event → Bool
  | .pelletCollected .. => true
  | _ => false

/-- A fruit appeared. -/
def isFruit : Event → Bool
  | .fruitSpawned _ => true
  | _ => false

/-- A ghost could not go on. -/
def isStranding : Event → Bool
  | .ghostStranded .. => true
  | _ => false

variable (told : List Event)

theorem countP_isPellet : told.countP isPellet = (told.filterMap pellet?).length := by
  rw [List.length_filterMap_eq_countP]
  exact List.countP_congr fun e _ => by cases e <;> simp [isPellet, pellet?]

theorem countP_isFruit : told.countP isFruit =
    told.count (.fruitSpawned .first) + told.count (.fruitSpawned .second) := by
  induction told with
  | nil => rfl
  | cons e told ih =>
    have one : (if e.isFruit then 1 else 0) = (if e = .fruitSpawned .first then 1 else 0) +
        if e = .fruitSpawned .second then 1 else 0 := by
      cases e with
      | fruitSpawned wave => cases wave <;> rfl
      | _ => rfl
    simp only [List.countP_cons, List.count_cons, beq_iff_eq, ih, one]
    omega

end Event

namespace Session

/-- The numbers of the events of a log. -/
def Tally.of (told : List Event) : Tally where
  pellets := .ofNat (told.countP Event.isPellet)
  ghosts := .ofNat (told.countP Event.isFeast)
  fruit := .ofNat (told.countP Event.isFruit)
  strandings := .ofNat (told.countP Event.isStranding)

/-- **Recording the events of a log** counts them. -/
theorem Tally.foldl_record (told : List Event) : told.foldl record .zero = .of told := by
  induction told using List.reverseRecOn with
  | nil => rfl
  | append_singleton told e ih =>
    rw [List.foldl_append, ih]
    cases e <;> simp [record, Tally.of, List.countP_append, List.countP_cons, Event.isPellet,
      Event.isFeast, Event.isFruit, Event.isStranding]

end Session

theorem CellSet.size_le (s : CellSet) : s.size ≤ rowCount * colCount := by
  have board : Cell.board.length = rowCount * colCount := by decide +kernel
  exact board ▸ List.countP_le_length

namespace World

variable {σ μ : Type} [RandomSource σ] [ModeSource μ]

theorem countP_isFruit_le (w : World σ μ) (commands : List Command) :
    (run commands w).2.countP Event.isFruit ≤ 2 := by
  have ripens : Ripens w (run commands w).2 (run commands w).1 := ripens.run commands w
  have each wave : (run commands w).2.count (.fruitSpawned wave) ≤ 1 := by
    have once := ripens.once wave
    have := Bool.toNat_le ((run commands w).1.fruit.released wave)
    omega
  rw [Event.countP_isFruit]
  have first := each .first
  have second := each .second
  omega

section Game

variable {config : Config} {maze : Maze} {modes : ModeControl μ} {sources : Roster σ}
  {w : World σ μ}

/-- The pellets that were taken and those that are left are the pellets of the maze. -/
theorem countP_isPellet (counted : maze.pellets.Counted)
    (new : new? config maze modes sources = .ok w) (commands : List Command) :
    (run commands w).2.countP Event.isPellet + (run commands w).1.pellets.count =
      maze.pellets.count := by
  obtain ⟨_, rfl⟩ := new?_eq_ok_iff.mp new
  have balanced := (history_run commands (start config maze modes sources)).balanced counted
  rw [Event.countP_isPellet, Nat.add_comm]
  exact balanced.count

theorem countP_isFeast_le (new : new? config maze modes sources = .ok w)
    (commands : List Command) : (run commands w).2.countP Event.isFeast ≤ 16 := by
  obtain ⟨frights, spent⟩ : Spent w (run commands w).2 (run commands w).1 := run_spent commands w
  have supers := w.pellets.card_supers_le
  have each color : (run commands w).2.countP (Event.eats color) ≤ 4 := by
    have fair : Event.FairHunt color false (run commands w).2 :=
      ((hunted color).run commands w false fun prey =>
        absurd prey (not_isPrey_of_new? new color)).1
    have eaten : (run commands w).2.countP (Event.eats color) ≤
      (run commands w).2.countP Event.frightens := fair.countP_le
    omega
  calc (run commands w).2.countP Event.isFeast
      = (Color.all.map fun color => (run commands w).2.countP (Event.eats color)).sum :=
        Event.countP_isFeast _
    _ ≤ (Color.all.map fun _ => 4).sum := List.sum_le_sum fun color _ => each color
    _ = 16 := rfl

/-- **The tally of a game** shows how many pellets were taken, how many ghosts were eaten and how
many fruits appeared. -/
theorem tally_run (counted : maze.pellets.Counted)
    (new : new? config maze modes sources = .ok w) (commands : List Command) :
    let log := (run commands w).2
    let tally := Session.Tally.of log
    tally.pellets.toNat = log.countP Event.isPellet ∧
      tally.ghosts.toNat = log.countP Event.isFeast ∧
      tally.fruit.toNat = log.countP Event.isFruit := by
  intro log tally
  have pellets := countP_isPellet counted new commands
  have ghosts := countP_isFeast_le new commands
  have fruit := countP_isFruit_le w commands
  have all : maze.pellets.count ≤ 868 := counted ▸ maze.pellets.cells.size_le
  have wide : UInt32.size = 4294967296 := rfl
  refine ⟨UInt32.toNat_ofNat_of_lt' ?_, UInt32.toNat_ofNat_of_lt' ?_, UInt32.toNat_ofNat_of_lt' ?_⟩
  · exact Nat.lt_of_le_of_lt (Nat.le_of_add_right_le pellets.le) (by omega)
  · exact Nat.lt_of_le_of_lt ghosts (by omega)
  · exact Nat.lt_of_le_of_lt fruit (by omega)

end Game

end World

end MazeChase
