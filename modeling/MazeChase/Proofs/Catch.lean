import MazeChase.Proofs.Contact
import MazeChase.Proofs.Outcome

/-!
# How often a catch is told

A game that is lost tells of one catch, as the outcome keeps later ones back. A game that has been
won stays won when a ghost catches the player, so there nothing keeps the next catch back, not even
the same catch seen by the next check.

* `Books.History.caught`: a catch is told only as long as the game is not lost;
* `World.playerCaught_mem_collide_of_won`, `World.playerCaught_mem_tick_of_won`: in a game that has
  been won every catch is told;
* **`World.caught_again_of_cleared`**: when a game tells of more than one catch;
* `World.besidePellet`, `World.caught_twice`: a game that tells of one catch twice.
-/

set_option autoImplicit false

namespace MazeChase

namespace Books

variable {config : Config} {b b' : Books} {told before : List Event}

theorem History.caught (h : History config b told b') (running : b.outcome = none) {color : Color}
    (first : before ++ [.playerCaught color] <+: told) :
    before.findSome? Event.ending? ≠ some .lost := by
  induction h with
  | nil => exact absurd (List.prefix_nil.mp first) (by simp)
  | aside _ plain ih => exact ih (prefix_of_notMem first (Event.notMem_of_plain plain rfl))
  | entry earlier entry ih =>
    cases entry with
    | moved => exact ih (prefix_of_notMem first (by simp))
    | ghost => exact ih (prefix_of_notMem first (by simp))
    | pellet =>
      refine ih (prefix_of_notMem first fun later => ?_)
      rcases mem_pelletTold later with other | ⟨_, other⟩ | other <;> exact absurd other (by simp)
    | caught c undecided =>
      rcases List.prefix_concat_iff.mp first with last | earlier_first
      · obtain ⟨rfl, _⟩ := List.append_inj' last rfl
        have outcome := earlier.outcome_eq
        rw [running, Option.none_or] at outcome
        rw [← outcome]
        exact undecided
      · exact ih earlier_first

theorem History.cleared_of_caught_again (h : History config b told b') (running : b.outcome = none)
    {between after : List Event} {color color' : Color}
    (split : told = before ++ .playerCaught color :: (between ++ .playerCaught color' :: after)) :
    .levelCleared ∈ before := by
  have first : before ++ [.playerCaught color] <+: told := by simp [split]
  have second : (before ++ .playerCaught color :: between) ++ [.playerCaught color'] <+: told := by
    simp [split]
  have open_first := h.caught running first
  have open_second := h.caught running second
  rw [List.findSome?_append, List.findSome?_cons] at open_second
  cases ended : before.findSome? Event.ending? with
  | none =>
    rw [ended] at open_second
    exact absurd rfl open_second
  | some o =>
    cases o with
    | won => exact Event.levelCleared_mem_of_won ended
    | lost => exact absurd ended open_first

end Books

namespace World

variable {σ μ : Type}

theorem playerCaught_mem_collide_of_won {w : World σ μ} (won : w.outcome = some .won)
    {color : Color} : .playerCaught color ∈ (collide w).2 ↔
      w.Touches color ∧ ¬ (w.ghosts.get color).IsFrightened := by
  refine ⟨touches_of_playerCaught_mem, fun ⟨touches, calm⟩ => ?_⟩
  rcases collide_contact touches with ⟨points, eaten⟩ | caught | lost
  · exact absurd (touches_of_ghostEaten_mem eaten).2 calm
  · exact caught
  · rw [collide_keeps_outcome .won w won] at lost
    exact absurd lost (by simp)

theorem playerCaught_notMem_collide_of_lost {w : World σ μ} (lost : w.outcome = some .lost)
    (color : Color) : .playerCaught color ∉ (collide w).2 := by
  intro told
  obtain ⟨before, c, after, _, told⟩ := Phase.mem_forEach told
  have still := Phase.Keeps.forEach (meet_keeps_outcome (σ := σ) (μ := μ) · .lost) before w lost
  rcases meet_cases (Phase.forEach meet before w).1 c with ⟨_, h⟩ | ⟨_, _, h⟩ | ⟨_, _, _, h⟩ |
    ⟨_, _, running, h⟩
  · simp [h] at told
  · simp [h] at told
  · simp [h] at told
  · exact running still

variable [RandomSource σ] [ModeSource μ]

theorem CheckedAt.outcome {w v : World σ μ} (h : w.CheckedAt v) {o : Outcome}
    (decided : w.outcome = some o) : v.outcome = some o := by
  have turned (d : Direction) : (w.turned d).outcome = some o := decided
  cases h with
  | @beforeStep d => exact turned d
  | @afterStep d =>
    have checked : (collide (w.turned d)).1.outcome = some o := collide_keeps_outcome o _ (turned d)
    rw [stepped]
    exact enter_keeps_outcome o _ checked
  | afterMoves =>
    have invariant : Invariant fun v : World σ μ => v.outcome = some o := outcome_invariant o
    exact invariant.moved decided

theorem playerCaught_mem_tick_of_won {w : World σ μ} (won : w.outcome = some .won)
    (due : w.updateDue = true) {color : Color} : .playerCaught color ∈ (apply .tick w).2 ↔
      ∃ u, w.CheckedAt u ∧ u.Touches color ∧ (u.ghosts.get color).fright = 0 := by
  constructor
  · intro caught
    obtain ⟨u, checked, told⟩ := exists_checkedAt caught rfl
    have seen := (playerCaught_mem_collide_of_won (checked.outcome won)).mp told
    exact ⟨u, checked, seen.1, Ghost.not_isFrightened_iff.mp seen.2⟩
  · rintro ⟨u, checked, touches, calm⟩
    have told := (playerCaught_mem_collide_of_won (checked.outcome won)).mpr
      ⟨touches, Ghost.not_isFrightened_iff.mpr calm⟩
    exact mem_apply_tick.mpr (.inr ⟨due, checked.mem_update told⟩)

/-- **When a game tells of more than one catch.** The level was cleared before the first of two
catches, and once it is, every update tells of each catch again. -/
theorem caught_again_of_cleared {config : Config} {maze : Maze} {modes : ModeControl μ}
    {sources : Roster σ} {w : World σ μ} (h : new? config maze modes sources = .ok w)
    (commands : List Command) :
    let v := (run commands w).1
    let log := (run commands w).2
    (∀ before color between color' after,
      log = before ++ .playerCaught color :: (between ++ .playerCaught color' :: after) →
        .levelCleared ∈ before) ∧
    (v.outcome = some .won → v.updateDue = true → ∀ color,
      (.playerCaught color ∈ (apply .tick v).2 ↔
        ∃ u, v.CheckedAt u ∧ u.Touches color ∧ (u.ghosts.get color).fright = 0) ∧
      (v.queued ≠ none → (v.ghosts.get color).location.Meets v.player →
        .playerCaught color ∈ (apply .tick v).2)) := by
  intro v log
  refine ⟨fun before color between color' after split => ?_, fun won due color => ⟨?_, ?_⟩⟩
  · obtain ⟨_, rfl⟩ := new?_eq_ok_iff.mp h
    exact (history_run commands _).cleared_of_caught_again rfl split
  · exact playerCaught_mem_tick_of_won won due
  · intro move meets
    obtain ⟨d, queued⟩ := Option.ne_none_iff_exists'.mp move
    obtain ⟨calm, back, _⟩ := noContact_run h commands color meets
    obtain ⟨_, _, ghost⟩ := ghost_turned v d color
    refine (playerCaught_mem_tick_of_won won due).mpr ⟨_, .beforeStep queued, ⟨?_, ?_⟩, ?_⟩
    · rw [ghost]
      exact meets
    · rw [ghost]
      exact back
    · rw [ghost]
      exact calm

/-- A game on open floor with one pellet, on the cell beside the player. -/
def besidePellet : World Listed ModeSnapshot :=
  start { updatePeriod := 1 } { Maze.openFloor with pellets := Pellets.empty.add ⟨23, 12⟩ }
    (.external ⟨.chase, some .chase⟩) (.ofFn fun _ => ⟨[]⟩)

/-- The player takes the pellet, waits there until red comes, and is about to move on. -/
def waitForRed : List Command :=
  [.movePlayer .left, .tick] ++ List.replicate 13 .tick ++ [.movePlayer .right]

theorem ofRows_besidePellet :
    Maze.ofRows ((List.replicate 31 "").set 23 "            .") = .ok besidePellet.maze := rfl

theorem new?_besidePellet : new? { updatePeriod := 1 } besidePellet.maze
    (.external ⟨.chase, some .chase⟩) (.ofFn fun _ => ⟨[]⟩) = .ok besidePellet :=
  new?_eq_ok_iff.mpr ⟨by decide, rfl⟩

/-- Red catches the player once more when the player moves on. -/
theorem caught_again_of_cleared_waiting :
    .playerCaught .red ∈ (run waitForRed besidePellet).2 ∧
      .playerCaught .red ∈ (apply .tick (run waitForRed besidePellet).1).2 := by
  obtain ⟨caught, won, due, meets⟩ : .playerCaught .red ∈ (run waitForRed besidePellet).2 ∧
      (run waitForRed besidePellet).1.outcome = some .won ∧
      (run waitForRed besidePellet).1.updateDue = true ∧
      ((run waitForRed besidePellet).1.ghosts.get .red).location.Meets
        (run waitForRed besidePellet).1.player := by decide +kernel
  have queued : (run waitForRed besidePellet).1.queued ≠ none := by decide +kernel
  have again := (caught_again_of_cleared new?_besidePellet waitForRed).2 won due .red
  exact ⟨caught, again.2 queued meets⟩

/-- So it is not true that every game tells of one catch at most. -/
theorem caught_twice : ¬ ∀ (rows : List String) (config : Config) (maze : Maze)
    (modes : ModeControl ModeSnapshot) (sources : Roster Listed) (w : World Listed ModeSnapshot),
    Maze.ofRows rows = .ok maze → new? config maze modes sources = .ok w →
      ∀ commands, (run commands w).2.countP Event.isCatch ≤ 1 := by
  intro once
  have twice : (run (waitForRed ++ [.tick]) besidePellet).2.countP Event.isCatch = 2 := by
    decide +kernel
  have one := once _ _ _ _ _ _ ofRows_besidePellet new?_besidePellet (waitForRed ++ [.tick])
  rw [twice] at one
  exact absurd one (by decide)

end World

end MazeChase
