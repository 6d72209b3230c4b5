import MazeChase.Maze.Classic
import MazeChase.Proofs.Books
import MazeChase.Proofs.Counting
import MazeChase.Proofs.Update

/-!
# Pellets over a whole game

Every pellet of the maze is left, or was told to be collected once, by the player on its cell. The
history of the books shows it entry by entry.

* `Event.pellet?`, `Event.track`: what the log tells of the pellets and of the player;
* `Books.History.player_eq`, **`Books.History.balanced`**: a history leads the player where it
  tells, and the pellets left and those taken are those at its start;
* `Books.History.pelletCollected`: what holds when a pellet is told to be collected;
* `World.player_of_pelletCollected_mem`: the player is still there after the command;
* **`World.pellets_conserved`**: the pellets of a new game in a maze that rows draw.
-/

set_option autoImplicit false

namespace MazeChase

namespace Event

/-- The cell of the pellet that the event tells of. -/
def pellet? : Event → Option Cell
  | .pelletCollected c .. => some c
  | _ => none

/-- The cell of the player after the event, if it was on `c` before. -/
def track (c : Cell) : Event → Cell
  | .playerMoved _ target => target.cell
  | _ => c

variable {e : Event}

theorem pellet?_of_plain (plain : e.IsBooked = false) : e.pellet? = none := by
  cases e <;> first | rfl | exact absurd plain (by simp [IsBooked])

theorem track_of_plain (plain : e.IsBooked = false) (c : Cell) : e.track c = c := by
  cases e <;> first | rfl | exact absurd plain (by simp [IsBooked])

end Event

theorem prefix_of_notMem {ε : Type} {before told more : List ε} {e : ε}
    (first : before ++ [e] <+: told ++ more) (new : e ∉ more) : before ++ [e] <+: told := by
  rcases List.prefix_or_prefix_of_prefix first (List.prefix_append told more) with h | h
  · exact h
  rcases List.prefix_concat_iff.mp h with rfl | ⟨rest, rfl⟩
  · exact List.prefix_refl _
  · rw [List.append_assoc, List.prefix_append_right_inj] at first
    exact absurd (first.subset (List.mem_append_right _ (List.mem_singleton_self e))) new

namespace Books

variable {config : Config} {b b' : Books} {told : List Event}

/-! ## What is told of one pellet -/

theorem filterMap_pelletTold (config : Config) (c : Cell) (remaining : Nat) :
    (pelletTold config c remaining).filterMap Event.pellet? = [c] := by
  obtain ⟨more, told, plain⟩ := pelletTold_eq config c remaining
  have rest : more.filterMap Event.pellet? = [] := by
    refine List.filterMap_eq_nil_iff.mpr fun e he => ?_
    rcases plain e he with ⟨_, rfl⟩ | rfl <;> rfl
  rw [told, List.filterMap_cons, rest]
  rfl

theorem foldl_pelletTold (config : Config) (c start : Cell) (remaining : Nat) :
    (pelletTold config c remaining).foldl Event.track start = start := by
  unfold pelletTold
  split <;> split <;> rfl

/-! ## What a history tells -/

theorem History.player_eq (h : History config b told b') :
    b'.player = told.foldl Event.track b.player := by
  induction h with
  | nil => rfl
  | aside _ plain ih => rw [List.foldl_concat, Event.track_of_plain plain, ih]
  | entry _ entry ih =>
    rw [List.foldl_append, ← ih]
    cases entry with
    | moved => rfl
    | pellet => rw [foldl_pelletTold]; rfl
    | ghost => rfl
    | caught => rfl

/-- The pellets that are left and those that were taken are the pellets at the start, each once. -/
structure Balanced (b b' : Books) (taken : List Cell) : Prop where
  counted : b'.pellets.Counted
  count : b'.pellets.count + taken.length = b.pellets.count
  left : ∀ c, b'.pellets.cells.contains c = true ↔
    b.pellets.cells.contains c = true ∧ c ∉ taken
  once : taken.Nodup
  found : ∀ c ∈ taken, b.pellets.cells.contains c = true

theorem Balanced.skip {b'' : Books} {taken : List Cell} (h : Balanced b b' taken)
    (same : b''.pellets = b'.pellets) : Balanced b b'' (taken ++ []) := by
  obtain ⟨counted, count, left, once, found⟩ := h
  rw [← same] at counted count left
  rw [List.append_nil]
  exact ⟨counted, count, left, once, found⟩

theorem Balanced.take {b'' : Books} {taken : List Cell} (h : Balanced b b' taken) {c : Cell}
    (take : b'.pellets.take? c = some b''.pellets) : Balanced b b'' (taken ++ [c]) := by
  obtain ⟨found, rest_eq⟩ := Pellets.take?_eq_some.mp take
  obtain ⟨counted, count⟩ := h.counted.take take
  obtain ⟨old, new⟩ := (h.left c).mp found
  refine ⟨counted, ?_, fun d => ?_, ?_, fun d taken_d => ?_⟩
  · have := h.count
    rw [List.length_append, List.length_singleton]
    omega
  · rw [rest_eq, CellSet.contains_erase, Bool.and_eq_true, decide_eq_true_eq, h.left d,
      List.mem_append, List.mem_singleton, not_or]
    exact ⟨fun ⟨apart, old, new⟩ => ⟨old, new, apart⟩, fun ⟨old, new, apart⟩ => ⟨apart, old, new⟩⟩
  · rw [← List.concat_eq_append]
    exact h.once.concat new
  · rcases List.mem_append.mp taken_d with taken_d | last
    · exact h.found d taken_d
    · rw [List.mem_singleton.mp last]
      exact old

/-- **The pellets of a history** that starts with their right number. -/
theorem History.balanced (h : History config b told b') (counted : b.pellets.Counted) :
    Balanced b b' (told.filterMap Event.pellet?) := by
  induction h with
  | nil => exact ⟨counted, rfl, by simp, List.nodup_nil, by simp⟩
  | aside _ plain ih =>
    rw [List.filterMap_append, List.filterMap_cons_none (Event.pellet?_of_plain plain)]
    exact ih.skip rfl
  | entry _ entry ih =>
    rw [List.filterMap_append]
    cases entry with
    | moved => exact ih.skip rfl
    | pellet take =>
      rw [filterMap_pelletTold]
      exact ih.take take
    | ghost => exact ih.skip rfl
    | caught => exact ih.skip rfl

theorem History.pelletCollected (h : History config b told b') (counted : b.pellets.Counted)
    {before : List Event} {c : Cell} {isSuper : Bool} {remaining : Nat}
    (first : before ++ [.pelletCollected c isSuper remaining] <+: told) :
    c = before.foldl Event.track b.player ∧
      remaining + ((before.filterMap Event.pellet?).length + 1) = b.pellets.count ∧
      (isSuper = true ↔ c.IsPowerCorner) := by
  induction h with
  | nil => exact absurd (List.prefix_nil.mp first) (by simp)
  | aside _ plain ih => exact ih (prefix_of_notMem first (Event.notMem_of_plain plain rfl))
  | entry earlier entry ih =>
    cases entry with
    | moved => exact ih (prefix_of_notMem first (by simp))
    | ghost => exact ih (prefix_of_notMem first (by simp))
    | caught => exact ih (prefix_of_notMem first (by simp))
    | @pellet rest take =>
      -- The event comes first in what this entry tells: all before it is told by earlier entries.
      obtain ⟨more, pellet, plain⟩ := pelletTold_eq config _ rest.count
      rw [pellet, List.append_cons _ _ more] at first
      have here := prefix_of_notMem first fun later => by
        rcases plain _ later with ⟨_, other⟩ | other <;> exact absurd other (by simp)
      rcases List.prefix_concat_iff.mp here with last | here
      · obtain ⟨rfl, same⟩ := List.append_inj' last rfl
        obtain ⟨rfl, rfl, rfl⟩ := Event.pelletCollected.inj (List.singleton_inj.mp same)
        have count := (earlier.balanced counted).count
        have taken := ((earlier.balanced counted).counted.take take).2
        exact ⟨earlier.player_eq, by omega, decide_eq_true_iff⟩
      · exact ih here

end Books

/-! ## The player on the cell of a pellet -/

namespace World

variable {σ μ : Type}

theorem cell_of_mem_takePellet {w : World σ μ} {c : Cell} {isSuper : Bool} {remaining : Nat}
    (he : .pelletCollected c isSuper remaining ∈ (takePellet w).2) : c = w.player.cell := by
  cases take : w.pellets.take? w.player.cell with
  | none =>
    simp only [takePellet, take] at he
    exact absurd he List.not_mem_nil
  | some rest =>
    rw [snd_takePellet take] at he
    rcases Books.mem_pelletTold he with same | ⟨_, other⟩ | other
    · exact (Event.pelletCollected.inj same).1
    · exact absurd other (by simp)
    · exact absurd other (by simp)

theorem cell_of_mem_enter {w : World σ μ} {c : Cell} {isSuper : Bool} {remaining : Nat}
    (he : .pelletCollected c isSuper remaining ∈ (enter w).2) : c = (enter w).1.player.cell := by
  simp only [enter, Phase.snd_andThen, Phase.fst_andThen, Phase.tell_apply, List.mem_append,
    List.mem_singleton] at he
  rcases he with (moved | taken) | fruit
  · exact absurd moved (by simp)
  · rw [player_enter]
    exact cell_of_mem_takePellet taken
  · unfold releaseFruit at fruit
    split at fruit <;> exact absurd fruit (by simp)

variable [RandomSource σ] [ModeSource μ]

theorem player_update_of_open {w : World σ μ} {d : Direction} (queued : w.queued = some d)
    (way : w.maze.wallAt (w.player.facing d).advanced.cell = false) :
    (update w).1.player = (w.stepped d).player := by
  have moved : w.moved.player = (makeQueuedMove w.ready).1.player := rfl
  rw [update_apply, player_collide, moved, makeQueuedMove_of_some queued, step_turned_of_open way,
    player_collide]

theorem cell_of_mem_update {w : World σ μ} {c : Cell} {isSuper : Bool} {remaining : Nat}
    (he : .pelletCollected c isSuper remaining ∈ (update w).2) :
    c = (update w).1.player.cell := by
  have check (v : World σ μ) : .pelletCollected c isSuper remaining ∉ (collide v).2 := fun told =>
    absurd (collide_tells v _ told) (by simp [Event.topic])
  have told := he
  simp only [update_apply, List.mem_append] at told
  rcases told with (plan | move) | last
  · exact absurd (planGhosts_tells w.polled _ plan) (by simp [Event.topic])
  · cases queued : w.queued with
    | none =>
      simp only [makeQueuedMove_of_none queued] at move
      exact absurd move List.not_mem_nil
    | some d =>
      simp only [makeQueuedMove_of_some queued, List.mem_append] at move
      have step := move.resolve_left (check _)
      cases wall : w.maze.wallAt (w.player.facing d).advanced.cell with
      | true =>
        rw [step_turned_of_wall wall] at step
        exact absurd step (by simp)
      | false =>
        simp only [step_turned_of_open wall, List.mem_append] at step
        rw [player_update_of_open queued wall, stepped]
        exact cell_of_mem_enter (step.resolve_right (check (w.stepped d)))
  · exact absurd last (check _)

theorem cell_of_mem_apply {w : World σ μ} {command : Command} {c : Cell} {isSuper : Bool}
    {remaining : Nat} (he : .pelletCollected c isSuper remaining ∈ (apply command w).2) :
    c = (apply command w).1.player.cell := by
  cases command with
  | tick =>
    rcases mem_apply_tick.mp he with clock | ⟨due, told⟩
    · exact absurd clock (by simp)
    · simp only [apply, advance_of_due due]
      exact cell_of_mem_update told
  | movePlayer d => exact absurd he (by simp [apply])
  | setMode mode => exact absurd (setMode_tells mode w _ he) (by simp [Event.topic])

/-! ## The pellets of a game -/

/-- **No pellet is lost and none is found.** The log tells once of each pellet that is gone, with
the cell on which the player is then, and the others are left. -/
theorem pellets_conserved {rows : List String} {config : Config} {maze : Maze}
    {modes : ModeControl μ} {sources : Roster σ} {w : World σ μ}
    (drawn : Maze.ofRows rows = .ok maze) (h : new? config maze modes sources = .ok w)
    (commands : List Command) :
    let v := (run commands w).1
    let log := (run commands w).2
    let taken := log.filterMap Event.pellet?
    v.maze = maze ∧
    v.pellets.count = v.pellets.cells.bitCount ∧
    (∀ c, v.pellets.cells.contains c = true ↔
      maze.pellets.cells.contains c = true ∧ c ∉ taken) ∧
    (∀ c ∈ taken, maze.pellets.cells.contains c = true) ∧ taken.Nodup ∧
    v.pellets.count + taken.length = maze.pellets.count ∧
    v.player.cell = log.foldl Event.track playerSpawn.cell ∧
    (∀ before c isSuper remaining, before ++ [.pelletCollected c isSuper remaining] <+: log →
      c = before.foldl Event.track playerSpawn.cell ∧
      remaining + ((before.filterMap Event.pellet?).length + 1) = maze.pellets.count ∧
      (isSuper = true ↔ c.IsPowerCorner)) ∧
    ∀ before command c isSuper remaining, before ++ [command] <+: commands →
      .pelletCollected c isSuper remaining ∈ (apply command (run before w).1).2 →
      c = (run (before ++ [command]) w).1.player.cell := by
  obtain ⟨_, rfl⟩ := new?_eq_ok_iff.mp h
  intro v log taken
  have counted : maze.pellets.Counted := Maze.counted_of_ofRows drawn
  have history := history_run commands (start config maze modes sources)
  have balanced := history.balanced counted
  refine ⟨(rules_of_new? h commands).2, ?_, balanced.left, balanced.found, balanced.once,
    balanced.count, history.player_eq, fun before c isSuper remaining => ?_, ?_⟩
  · rw [← CellSet.size_eq_bitCount]
    exact balanced.counted
  · exact history.pelletCollected counted
  · intro before command c isSuper remaining _ told
    rw [run_concat]
    exact cell_of_mem_apply told

/-- The player goes to the left and takes the first pellet of the classic maze. -/
theorem pellets_conserved_first_step :
    let w : World Stream Empty := start {} .classic (.bundled default)
      (seededStreams ({} : Config).rngSeed)
    let log := (run [.movePlayer .left, .tick] w).2
    Maze.ofRows Maze.classicRows = .ok .classic ∧ seeded? {} .classic = .ok w ∧
      log.filterMap Event.pellet? = [⟨23, 12⟩] ∧
      (run [.movePlayer .left, .tick] w).1.pellets.count = 243 := by
  intro w log
  have new : seeded? {} .classic = .ok w := new?_eq_ok_iff.mpr ⟨by decide, rfl⟩
  have taken : log.filterMap Event.pellet? = [⟨23, 12⟩] := by decide +kernel
  have all : Maze.classic.pellets.count = 244 := by decide +kernel
  obtain ⟨_, _, _, _, _, count, _⟩ :=
    pellets_conserved Maze.ofRows_classicRows new [.movePlayer .left, .tick]
  rw [taken, all] at count
  exact ⟨Maze.ofRows_classicRows, new, taken, Nat.succ.inj count⟩

end World

end MazeChase
