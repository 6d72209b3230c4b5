import MazeChase.Proofs.GhostShape
import MazeChase.Proofs.Update

/-!
# Contacts between the player and the ghosts

An update looks for collisions three times: when the player has turned, when it has stepped ahead,
and when the ghosts have moved. What these checks see is told, and nothing else is.

* **`World.CheckedAt.contact`**: a contact at a check is told of, unless the game is lost;
* `World.exists_checkedAt`: every contact that a tick tells of was seen at a check;
* `World.NoContact`, `World.noContact_run`: between updates nobody is in contact, unless the game is
  decided;
* `World.touches_stepped`: a ghost ahead of the player is met at the second check;
* **`World.contacts_exact`**: contacts are never missed and never invented.
-/

set_option autoImplicit false

namespace MazeChase

theorem Cell.OnBoard.step_ne {c : Cell} (h : c.OnBoard) (d : Direction) : c.step d ≠ c := by
  intro same
  have rows : rowCount = 31 := rfl
  have cols : colCount = 28 := rfl
  obtain ⟨⟨_, _⟩, _, _⟩ := h
  have row : (c.step d).row.val = c.row.val := by rw [same]
  have col : (c.step d).col.val = c.col.val := by rw [same]
  simp only [Cell.step] at row col
  rw [Coord.val_clamp_of_mem (by cases d <;> simp only [Direction.rowDelta] <;> omega)
    (by cases d <;> simp only [Direction.rowDelta] <;> omega)] at row
  rw [Coord.val_clamp_of_mem (by cases d <;> simp only [Direction.colDelta] <;> omega)
    (by cases d <;> simp only [Direction.colDelta] <;> omega)] at col
  cases d <;> simp only [Direction.rowDelta, Direction.colDelta] at row col <;> omega

namespace World

variable {σ μ : Type} [RandomSource σ] [ModeSource μ]

/-! ## Contacts at the checks -/

/-- **A contact at a check** is told of, unless the game is lost. -/
theorem CheckedAt.contact {w v : World σ μ} (h : w.CheckedAt v) {color : Color}
    (touches : v.Touches color) :
    (∃ points, .ghostEaten color points ∈ (update w).2) ∨ .playerCaught color ∈ (update w).2 ∨
      (update w).1.outcome = some .lost := by
  rcases collide_contact touches with ⟨points, eaten⟩ | caught | lost
  · exact .inl ⟨points, h.mem_update eaten⟩
  · exact .inr (.inl (h.mem_update caught))
  · exact .inr (.inr (h.outcome_update lost))

theorem exists_checkedAt {w : World σ μ} {e : Event} (he : e ∈ (apply .tick w).2)
    (topic : e.topic = .contact) : ∃ v, w.CheckedAt v ∧ e ∈ (collide v).2 := by
  rcases mem_apply_tick.mp he with clock | ⟨_, he⟩
  · rw [clock] at topic
    exact absurd topic (by simp [Event.topic])
  cases told_of_mem_update he with
  | plan told => exact absurd (topic.symm.trans (planGhosts_tells w.polled e told)) (by simp)
  | check checked told => exact ⟨_, checked, told⟩
  | blocked => exact absurd topic (by simp [Event.topic])
  | moved => exact absurd topic (by simp [Event.topic])
  | meal _ _ meal => exact absurd (topic.symm.trans meal) (by simp)

/-! ## Between updates -/

theorem eaten_moved (w : World σ μ) (color : Color) :
    (w.moved.ghosts.get color).eaten = false := by
  rw [moved, Roster.get_map]
  rfl

/-- After an update, nobody is in contact unless the game is decided. -/
theorem noContact_update {w : World σ μ} (inside : w.moved.player.cell.OnBoard) {color : Color}
    (meets : ((update w).1.ghosts.get color).location.Meets (update w).1.player) :
    ((update w).1.ghosts.get color).fright = 0 ∧ ((update w).1.ghosts.get color).eaten = false ∧
      (update w).1.outcome ≠ none := by
  have back := eaten_moved w color
  simp only [update_apply, get_ghosts_collide, player_collide] at meets ⊢
  by_cases eaten : (w.moved.ghosts.get color).location.Meets w.moved.player ∧
      (w.moved.ghosts.get color).eaten = false ∧ (w.moved.ghosts.get color).IsFrightened
  · rw [Ghost.afterCheck, if_pos eaten] at meets
    have off : w.moved.player.IsOffBoard := meets.symm
    exact absurd inside off.not_onBoard
  · have same : (w.moved.ghosts.get color).afterCheck w.moved.player color =
        w.moved.ghosts.get color := if_neg eaten
    rw [same] at meets ⊢
    have calm : ¬ (w.moved.ghosts.get color).IsFrightened := fun frightened =>
      eaten ⟨meets, back, frightened⟩
    exact ⟨Nat.eq_zero_of_not_pos calm, back, outcome_collide_ne_none ⟨meets, back⟩ calm⟩

/-- Nobody is in contact, unless the game is decided. -/
def NoContact (w : World σ μ) : Prop :=
  ∀ color, (w.ghosts.get color).location.Meets w.player →
    (w.ghosts.get color).fright = 0 ∧ (w.ghosts.get color).eaten = false ∧ w.outcome ≠ none

theorem noContact_apply {w : World σ μ} (inside : w.player.cell.OnBoard) (h : w.NoContact)
    (command : Command) : (apply command w).1.NoContact := by
  cases command with
  | tick =>
    intro color
    cases due : w.updateDue with
    | true =>
      simp only [apply, advance_of_due due]
      exact noContact_update (onBoard_invariant.moved inside)
    | false =>
      simp only [apply, advance_of_not_due due]
      exact h color
  | movePlayer d => exact h
  | setMode mode =>
    obtain ⟨_, set⟩ := setMode_frame mode w
    rw [apply, set]
    exact h

section Reachable

variable {config : Config} {maze : Maze} {modes : ModeControl μ} {sources : Roster σ}
  {w : World σ μ}

theorem onBoard_run (h : new? config maze modes sources = .ok w) (commands : List Command) :
    (run commands w).1.player.cell.OnBoard := by
  obtain ⟨_, rfl⟩ := new?_eq_ok_iff.mp h
  refine onBoard_invariant.run commands _ ?_
  change playerSpawn.cell.OnBoard
  decide

theorem noContact_run (h : new? config maze modes sources = .ok w) (commands : List Command) :
    (run commands w).1.NoContact := by
  induction commands using List.reverseRecOn with
  | nil =>
    obtain ⟨_, rfl⟩ := new?_eq_ok_iff.mp h
    intro color meets
    have new : ((Roster.ofFn Ghost.new).get color).location = .offBoard := by
      rw [Roster.get_ofFn]
      rfl
    have off : Location.offBoard.Meets playerSpawn := new ▸ meets
    exact absurd off (by decide)
  | append_singleton commands command ih =>
    rw [run_concat]
    exact noContact_apply (onBoard_run h commands) ih command

theorem eaten_eq_false (h : new? config maze modes sources = .ok w) (commands : List Command)
    {color : Color} (inside : ((run commands w).1.ghosts.get color).location.cell.OnBoard) :
    ((run commands w).1.ghosts.get color).eaten = false := by
  have here : ¬ ((run commands w).1.ghosts.get color).location.IsOffBoard :=
    fun off => off.not_onBoard inside
  exact ((obeys_inLane h commands color).present_on here).1.eaten

end Reachable

/-! ## Contacts of a step -/

theorem ghost_turned (w : World σ μ) (d : Direction) (color : Color) : ∃ next trap,
    (w.turned d).ghosts.get color = { w.ghosts.get color with next := next, trap := trap } := by
  obtain ⟨next, trap, plan⟩ := Ghost.plan_frame w.polled.scene color (w.ghosts.get color)
    (w.sources.get color)
  refine ⟨next, trap, ?_⟩
  rw [← plan]
  exact Roster.get_ofFn ..

theorem touches_stepped {w : World σ μ} {d : Direction} {color : Color}
    (inside : w.player.cell.OnBoard) (back : (w.ghosts.get color).eaten = false)
    (ahead : (w.ghosts.get color).location.Meets (w.player.facing d).advanced) :
    (w.stepped d).Touches color := by
  obtain ⟨next, trap, ghost⟩ := ghost_turned w d color
  have apart : ¬ ((w.turned d).ghosts.get color).location.Meets (w.turned d).player := by
    rw [ghost]
    intro meets
    have same : w.player.cell.step d = w.player.cell := ahead.symm.trans meets
    exact inside.step_ne d same
  have kept : (collide (w.turned d)).1.ghosts.get color = (w.turned d).ghosts.get color := by
    rw [get_ghosts_collide, Ghost.afterCheck_of_not_meets color apart]
  obtain ⟨location, eaten⟩ := ghost_enter (collide (w.turned d)).1 color
  rw [kept, ghost] at location eaten
  refine ⟨?_, ?_⟩
  · rw [stepped, location, player_enter, player_collide]
    exact ahead
  · rw [stepped, eaten]
    exact back

theorem moved_of_mem_tick {w : World σ μ} {origin target : Location}
    (he : .playerMoved origin target ∈ (apply .tick w).2) : ∃ d, w.queued = some d ∧
      w.maze.wallAt (w.player.facing d).advanced.cell = false ∧
      target = (w.player.facing d).advanced := by
  rcases mem_apply_tick.mp he with clock | ⟨_, he⟩
  · exact absurd clock (by simp)
  generalize event : Event.playerMoved origin target = e at he
  cases told_of_mem_update he with
  | plan told => exact absurd (planGhosts_tells w.polled e told) (by simp [← event, Event.topic])
  | check checked told => exact absurd (collide_tells _ e told) (by simp [← event, Event.topic])
  | blocked => exact absurd event (by simp)
  | moved queued way => exact ⟨_, queued, way, (Event.playerMoved.inj event).2⟩
  | meal _ _ meal => exact absurd meal (by simp [← event, Event.topic])

/-! ## All contacts of a tick -/

theorem contact_apply_tick {w v : World σ μ} (due : w.updateDue = true) (checked : w.CheckedAt v)
    {color : Color} (touches : v.Touches color) :
    (∃ points, .ghostEaten color points ∈ (apply .tick w).2) ∨
      .playerCaught color ∈ (apply .tick w).2 ∨ (apply .tick w).1.outcome = some .lost := by
  rcases checked.contact touches with ⟨points, eaten⟩ | caught | lost
  · exact .inl ⟨points, mem_apply_tick.mpr (.inr ⟨due, eaten⟩)⟩
  · exact .inr (.inl (mem_apply_tick.mpr (.inr ⟨due, caught⟩)))
  · refine .inr (.inr ?_)
    simp only [apply, advance_of_due due]
    exact lost

/-- **Contacts are never missed and never invented.** Between commands none is left; an update tells
of every contact at its checks, unless the game is lost, and of no other. -/
theorem contacts_exact {config : Config} {maze : Maze} {modes : ModeControl μ}
    {sources : Roster σ} {w : World σ μ} (h : new? config maze modes sources = .ok w)
    (commands : List Command) :
    let v := (run commands w).1
    let after := (apply .tick v).1
    let events := (apply .tick v).2
    (∀ color, (v.ghosts.get color).location.Meets v.player →
      (v.ghosts.get color).fright = 0 ∧ (v.ghosts.get color).eaten = false ∧ v.outcome ≠ none) ∧
    (v.updateDue = true → ∀ color,
      (∃ origin target, .playerMoved origin target ∈ events ∧
          (v.ghosts.get color).location.Meets target) ∨
        (v.moved.ghosts.get color).location.Meets after.player →
      (∃ points, .ghostEaten color points ∈ events) ∨ .playerCaught color ∈ events ∨
        after.outcome = some .lost) ∧
    (∀ color,
      (∀ points, .ghostEaten color points ∈ events →
        ∃ u, v.CheckedAt u ∧ u.Touches color ∧ 0 < (u.ghosts.get color).fright) ∧
      (.playerCaught color ∈ events →
        ∃ u, v.CheckedAt u ∧ u.Touches color ∧ (u.ghosts.get color).fright = 0)) := by
  intro v after events
  refine ⟨noContact_run h commands, fun due color contact => ?_, fun color => ⟨?_, ?_⟩⟩
  · rcases contact with ⟨origin, target, step, meets⟩ | meets
    · -- The ghost is touched at the second check, before it moves on.
      obtain ⟨d, queued, way, rfl⟩ := moved_of_mem_tick step
      have ghost : (v.ghosts.get color).location.cell.OnBoard := by
        rw [meets]
        exact Maze.onBoard_of_wallAt_eq_false way
      have back : (v.ghosts.get color).eaten = false := eaten_eq_false h commands ghost
      have touches := touches_stepped (onBoard_run h commands) back meets
      exact contact_apply_tick due (.afterStep queued way) touches
    · -- The ghost is touched at the last check.
      have player : after.player = v.moved.player := by
        simp only [after, apply, advance_of_due due, update_apply, player_collide]
      rw [player] at meets
      exact contact_apply_tick due .afterMoves ⟨meets, eaten_moved v color⟩
  · intro points eaten
    obtain ⟨u, checked, told⟩ := exists_checkedAt eaten rfl
    obtain ⟨c, touches, ⟨frightened, event⟩ | ⟨_, event⟩⟩ := mem_collide told
    · obtain ⟨rfl, _⟩ := Event.ghostEaten.inj event
      exact ⟨u, checked, touches, frightened⟩
    · exact absurd event (by simp)
  · intro caught
    obtain ⟨u, checked, told⟩ := exists_checkedAt caught rfl
    obtain ⟨c, touches, ⟨_, event⟩ | ⟨calm, event⟩⟩ := mem_collide told
    · exact absurd event (by simp)
    · obtain rfl := Event.playerCaught.inj event
      exact ⟨u, checked, touches, Nat.eq_zero_of_not_pos calm⟩

/-- The player turns onto the cell of red, which has just come down beside it. -/
theorem contacts_exact_openFloor :
    let w : World Listed ModeSnapshot := start { updatePeriod := 1 } .openFloor
      (.external ⟨.chase, some .chase⟩) (.ofFn fun _ => ⟨[]⟩)
    let commands : List Command :=
      (List.replicate 7 [.movePlayer .up, .tick]).flatten ++ [.movePlayer .left]
    let target : Location := ⟨⟨16, 12⟩, .left⟩
    (run commands w).1.updateDue = true ∧
      .playerMoved ⟨⟨16, 13⟩, .left⟩ target ∈ (apply .tick (run commands w).1).2 ∧
      ((run commands w).1.ghosts.get .red).location.Meets target ∧
      ((∃ points, .ghostEaten .red points ∈ (apply .tick (run commands w).1).2) ∨
        .playerCaught .red ∈ (apply .tick (run commands w).1).2 ∨
        (apply .tick (run commands w).1).1.outcome = some .lost) := by
  intro w commands target
  have new : new? { updatePeriod := 1 } .openFloor (.external ⟨.chase, some .chase⟩)
      (.ofFn fun _ => ⟨[]⟩) = .ok w := new?_eq_ok_iff.mpr ⟨by decide, rfl⟩
  have due : (run commands w).1.updateDue = true := by decide +kernel
  have step : .playerMoved ⟨⟨16, 13⟩, .left⟩ target ∈ (apply .tick (run commands w).1).2 := by
    decide +kernel
  have meets : ((run commands w).1.ghosts.get .red).location.Meets target := by decide +kernel
  exact ⟨due, step, meets, (contacts_exact new commands).2.1 due .red (.inl ⟨_, _, step, meets⟩)⟩

end World

end MazeChase
