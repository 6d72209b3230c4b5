import MazeChase.Proofs.Interval

/-!
# Queued moves

The player makes one move in an update, if one has been asked for since the update before; the last
request wins. In a whole period of ticks there is one update, so a move that is asked for is made
before the period is over.

* `Command.move?`, `World.moveTold`, `World.moveTo`: requests, what is told of a move, and where it
  brings the player;
* `World.update_move`: the move of an update; `World.Idle.queued`: what is queued for it;
* `World.run_period`: a whole period of ticks;
* **`World.queued_move_once`**.
-/

set_option autoImplicit false

namespace MazeChase

/-- The move that the command asks for. -/
def Command.move? : Command → Option Direction
  | .movePlayer d => some d
  | _ => none

namespace World

variable {σ μ : Type}

/-- What is told of a move in a direction. -/
def moveTold (w : World σ μ) (d : Direction) : Event :=
  if w.maze.wallAt (w.player.facing d).advanced.cell then .playerBlocked d
  else .playerMoved (w.player.facing d) (w.player.facing d).advanced

/-- Where a move in a direction brings the player. -/
def moveTo (w : World σ μ) (d : Direction) : Location :=
  if w.maze.wallAt (w.player.facing d).advanced.cell then w.player.facing d
  else (w.player.facing d).advanced

variable [RandomSource σ] [ModeSource μ]

/-! ## The move of an update -/

omit [RandomSource σ] [ModeSource μ] in
theorem queued_collide (w : World σ μ) : (collide w).1.queued = w.queued := by
  obtain ⟨_, _, frame⟩ := collide_frame w
  rw [frame]

omit [RandomSource σ] [ModeSource μ] in
theorem queued_enter (w : World σ μ) : (enter w).1.queued = w.queued := by
  obtain ⟨_, _, _, _, frame⟩ := enter_frame w
  rw [frame]

theorem makeQueuedMove_of_queued {w : World σ μ} {d : Direction} (queued : w.queued = some d) :
    (makeQueuedMove w.ready).2.filter (·.topic = .step) = [w.moveTold d] ∧
      (makeQueuedMove w.ready).1.player = w.moveTo d ∧
      (makeQueuedMove w.ready).1.queued = none := by
  have check (v : World σ μ) : (collide v).2.filter (·.topic = .step) = [] :=
    Event.filter_topic_eq_nil (collide_tells v) (by decide)
  rw [makeQueuedMove_of_some queued]
  cases wall : w.maze.wallAt (w.player.facing d).advanced.cell with
  | true =>
    simp only [step_turned_of_wall wall, moveTold, moveTo, wall, if_true]
    refine ⟨?_, by rw [player_collide]; rfl, by rw [queued_collide]; rfl⟩
    rw [List.filter_append, check]
    rfl
  | false =>
    simp only [step_turned_of_open wall, moveTold, moveTo, wall]
    refine ⟨?_, ?_, ?_⟩
    · obtain ⟨meal, topic, told⟩ := snd_enter (collide (w.turned d)).1
      have rest : meal.filter (·.topic = .step) = [] :=
        Event.filter_topic_eq_nil topic (by decide)
      have player : (collide (w.turned d)).1.player = w.player.facing d := player_collide _
      rw [told, player, List.filter_append, List.filter_append, check, check, List.nil_append,
        List.append_nil]
      exact congrArg (Event.playerMoved _ _ :: ·) rest
    · rw [player_collide, stepped, player_enter, player_collide]
      rfl
    · rw [queued_collide, stepped, queued_enter, queued_collide]
      rfl

/-- **An update** makes the queued move, if there is one. -/
theorem update_move (w : World σ μ) :
    (update w).2.filter (·.topic = .step) = (w.queued.map w.moveTold).toList ∧
      (update w).1.player = w.queued.elim w.player w.moveTo ∧ (update w).1.queued = none := by
  have plan : (planGhosts w.polled).2.filter (·.topic = .step) = [] :=
    Event.filter_topic_eq_nil (planGhosts_tells _) (by decide)
  have check : (collide w.moved).2.filter (·.topic = .step) = [] :=
    Event.filter_topic_eq_nil (collide_tells _) (by decide)
  have player : w.moved.player = (makeQueuedMove w.ready).1.player := rfl
  have queue : w.moved.queued = (makeQueuedMove w.ready).1.queued := rfl
  rw [update_apply]
  simp only [List.filter_append, plan, check, player_collide, queued_collide, player, queue]
  cases queued : w.queued with
  | none =>
    rw [makeQueuedMove_of_none queued]
    exact ⟨rfl, rfl, queued⟩
  | some d =>
    obtain ⟨told, there, done⟩ := makeQueuedMove_of_queued queued
    rw [told, there, done]
    exact ⟨rfl, rfl, rfl⟩

theorem tick_move {w : World σ μ} (due : w.updateDue = true) :
    (apply .tick w).2.filter (·.topic = .step) = (w.queued.map w.moveTold).toList ∧
      (apply .tick w).1.player = w.queued.elim w.player w.moveTo ∧
      (apply .tick w).1.queued = none := by
  obtain ⟨told, player, queued⟩ := update_move w
  simp only [apply, advance_of_due due]
  rw [List.filter_cons_of_neg (by simp [Event.topic])]
  exact ⟨told, player, queued⟩

/-! ## The queue between two updates -/

theorem Idle.filter_step {commands : List Command} {w : World σ μ} (idle : Idle commands w) :
    (run commands w).2.filter (·.topic = .step) = [] := by
  rw [List.filter_eq_nil_iff]
  intro e he step
  rcases idle.tells e he with topic | topic <;> simp [topic] at step

theorem Idle.player {commands : List Command} {w : World σ μ} (idle : Idle commands w) :
    (run commands w).1.player = w.player := by
  obtain ⟨_, _, _, frame⟩ := idle.frame
  rw [frame]

theorem queued_apply_of_idle {command : Command} {w : World σ μ}
    (idle : ¬ (command = .tick ∧ w.updateDue = true)) :
    (apply command w).1.queued = command.move?.or w.queued := by
  cases command with
  | tick =>
    rw [apply, advance_of_not_due (by simpa using idle)]
    rfl
  | movePlayer d => rfl
  | setMode mode =>
    obtain ⟨_, frame⟩ := setMode_frame mode w
    rw [apply, frame]
    rfl

theorem Idle.queued {commands : List Command} {w : World σ μ} (idle : Idle commands w) :
    (run commands w).1.queued = (commands.filterMap Command.move?).getLast?.or w.queued := by
  induction commands using List.reverseRecOn with
  | nil => rfl
  | append_singleton commands command ih =>
    obtain ⟨earlier, last⟩ := idle_append.mp idle
    rw [run_concat, queued_apply_of_idle (idle_singleton.mp last), ih earlier,
      List.filterMap_append, List.getLast?_append, Option.or_assoc]
    cases h : command.move? <;> simp [h]

theorem SinceUpdate.queued {w : World σ μ} {commands before since : List Command}
    (empty : w.queued = none) (h : w.SinceUpdate commands before since) :
    (run commands w).1.queued = (since.filterMap Command.move?).getLast? := by
  have forgotten : (run before w).1.queued = none := by
    rcases h.update with rfl | ⟨earlier, rfl, due⟩
    · exact empty
    · rw [run_concat]
      exact (tick_move due).2.2
  rw [h.run_eq, h.idle.queued, forgotten, Option.or_none]

/-- **A period of ticks** makes the queued move once. -/
theorem run_period {w : World σ μ} {p : Nat} (period : w.config.updatePeriod.toNat = p)
    (pos : 0 < p) (few : w.tick + p ≤ maxTick) :
    (run (.replicate p .tick) w).2.filter (·.topic = .step) = (w.queued.map w.moveTold).toList ∧
      (run (.replicate p .tick) w).1.player = w.queued.elim w.player w.moveTo ∧
      (run (.replicate p .tick) w).1.queued = none := by
  obtain ⟨before, after, ticks, idle, world, due, idle', world'⟩ :=
    exists_update_of_period period pos few
  obtain ⟨told, player, queued⟩ := tick_move due
  rw [ticks, run_append, run_cons, world, world']
  simp only [List.filter_append, idle.filter_step, told, idle'.filter_step, List.nil_append,
    List.append_nil]
  exact ⟨rfl, player, queued⟩

/-! ## Whole games -/

/-- **A move that is asked for is made once**, by the next update, if nothing else is asked for
before; and no move is made otherwise. -/
theorem queued_move_once {config : Config} {maze : Maze} {modes : ModeControl μ}
    {sources : Roster σ} {w : World σ μ} (new : new? config maze modes sources = .ok w)
    (commands : List Command) :
    let v := (run commands w).1
    (∃ before since, w.SinceUpdate commands before since) ∧
    (∀ before since, w.SinceUpdate commands before since →
      let last := (since.filterMap Command.move?).getLast?
      v.queued = last ∧ (v.updateDue = true →
        (apply .tick v).2.filter (·.topic = .step) = (last.map v.moveTold).toList ∧
        (apply .tick v).1.player = last.elim v.player v.moveTo)) ∧
    (∀ command, ¬ (command = .tick ∧ v.updateDue = true) →
      (apply command v).2.filter (·.topic = .step) = [] ∧ (apply command v).1.player = v.player) ∧
    ∀ d, commands.count .tick + config.updatePeriod.toNat < UInt64.size →
      let after := run (.movePlayer d :: .replicate config.updatePeriod.toNat .tick) v
      after.2.filter (·.topic = .step) = [v.moveTold d] ∧ after.1.player = v.moveTo d ∧
        after.1.queued = none := by
  intro v
  obtain ⟨valid, start_eq⟩ := new?_eq_ok_iff.mp new
  have empty : w.queued = none := by rw [start_eq, start]
  have tick_eq : w.tick = 0 := by rw [start_eq, start]
  refine ⟨exists_sinceUpdate w commands, ?_, ?_, ?_⟩
  · intro before since split last
    have queued : v.queued = last := split.queued empty
    refine ⟨queued, fun due => ?_⟩
    obtain ⟨told, player, _⟩ := tick_move due
    rw [← queued]
    exact ⟨told, player⟩
  · intro command other
    have idle := idle_singleton.mpr other
    rw [← run_singleton]
    exact ⟨idle.filter_step, idle.player⟩
  · intro d few after
    have short : commands.count .tick + config.updatePeriod.toNat ≤ maxTick :=
      Nat.le_sub_one_of_lt few
    have clock : v.tick = commands.count .tick := by
      rw [tick_run_of_le (by omega), tick_eq, Nat.zero_add]
    have period : v.config.updatePeriod.toNat = config.updatePeriod.toNat := by
      rw [(rules_of_new? new commands).1]
    obtain ⟨told, player, queued⟩ := run_period (w := { v with queued := some d }) period valid.1
      (by rw [← clock] at short; exact short)
    have after_eq : after = run (.replicate config.updatePeriod.toNat .tick)
        { v with queued := some d } := (run_cons ..).trans rfl
    rw [after_eq]
    exact ⟨told, player, queued⟩

/-- The player asks to go up and then left, and is brought to the left. -/
theorem queued_move_once_classic :
    let config : Config := { updatePeriod := 2 }
    let sources : Roster Listed := .ofFn fun _ => ⟨[]⟩
    let w : World Listed Empty := start config .classic (.bundled default) sources
    let since : List Command := [.movePlayer .up, .movePlayer .left, .setMode .chase, .tick]
    let commands : List Command := .tick :: since
    let v := (run commands w).1
    (new? config .classic (.bundled default) sources = .ok w ∧
      w.SinceUpdate commands [.tick] since ∧ v.updateDue = true ∧
      commands.count .tick + 2 < UInt64.size) ∧
    (apply .tick v).2.filter (·.topic = .step) =
      [.playerMoved ⟨⟨23, 13⟩, .left⟩ ⟨⟨23, 12⟩, .left⟩] ∧
    (apply (.setMode .scatter) v).1.player = playerSpawn ∧
    (run [.movePlayer .up, .tick, .tick] v).2.filter (·.topic = .step) = [.playerBlocked .up] := by
  intro config sources w since commands v
  have new : new? config .classic (.bundled default) sources = .ok w :=
    new?_eq_ok_iff.mpr ⟨by decide, rfl⟩
  obtain ⟨idle, due, here, left, up⟩ :
      Idle since (run [.tick] w).1 ∧ v.updateDue = true ∧
      v.player = playerSpawn ∧
      v.moveTold .left = .playerMoved ⟨⟨23, 13⟩, .left⟩ ⟨⟨23, 12⟩, .left⟩ ∧
      v.moveTold .up = .playerBlocked .up := by
    decide +kernel
  have split : w.SinceUpdate commands [.tick] since :=
    ⟨rfl, .inr ⟨[], rfl, rfl⟩, idle⟩
  have few : commands.count .tick + 2 < UInt64.size := by decide
  obtain ⟨_, move, other, period⟩ := queued_move_once new commands
  have told := ((move [.tick] since split).2 due).1
  have still := (other (.setMode .scatter) (by simp)).2
  have blocked := (period .up few).1
  rw [up] at blocked
  exact ⟨⟨new, split, due, few⟩, told.trans (congrArg ([·]) left), still.trans here, blocked⟩

end World

end MazeChase
