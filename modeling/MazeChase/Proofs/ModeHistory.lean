import MazeChase.Proofs.Interval

/-!
# The history of the mode

A switch remembers no more than the last mode and the last one other than the pause, and these two
are determined by the modes that it was set to. A world with a switch of its own tells of each
change when it is asked for, and learns of it at the next update.

* `ModeSnapshot.ofHistory`, **`ModeSwitch.snapshot_foldl_set`**: the switch after any settings;
* `Mode.changes`: the settings that change the mode;
* `World.modes_run`, `World.filter_mode_run`: the switch and the log of a world;
* `World.SinceUpdate.mode`: what the world knows of the mode;
* **`World.mode_history`**.
-/

set_option autoImplicit false

namespace MazeChase

/-! ## The switch -/

/-- The last mode of a history, and the last one other than the pause. -/
def ModeSnapshot.ofHistory (initial : Mode) (later : List Mode) : ModeSnapshot where
  mode := later.getLastD initial
  lastUnpaused := ((initial :: later).filter (· ≠ .paused)).getLast?

theorem ModeSnapshot.ofHistory_concat (initial : Mode) (later : List Mode) (mode : Mode) :
    ofHistory initial (later ++ [mode]) = ⟨mode,
      if mode = .paused then (ofHistory initial later).lastUnpaused else some mode⟩ := by
  rw [ofHistory, ← List.cons_append, List.filter_append, List.getLastD_concat,
    List.getLast?_append]
  cases mode <;> rfl

theorem ModeSnapshot.lastUnpaused_ofHistory {initial : Mode} {later : List Mode}
    (on : later.getLastD initial ≠ .paused) :
    (ofHistory initial later).lastUnpaused = some (later.getLastD initial) := by
  induction later using List.reverseRecOn with
  | nil => cases initial <;> first | rfl | exact absurd rfl on
  | append_singleton later mode _ =>
    rw [List.getLastD_concat] at on ⊢
    rw [ofHistory_concat, if_neg on]

/-- **A switch reports its history.** -/
theorem ModeSwitch.snapshot_foldl_set (initial : Mode) (later : List Mode) :
    (later.foldl set (new initial)).snapshot = .ofHistory initial later := by
  induction later using List.reverseRecOn with
  | nil => cases initial <;> rfl
  | append_singleton later mode ih =>
    have last : (ModeSnapshot.ofHistory initial later).mode = later.getLastD initial := rfl
    rw [List.foldl_append, List.foldl_cons, List.foldl_nil, ModeSnapshot.ofHistory_concat, set, ih,
      last]
    by_cases same : later.getLastD initial = mode
    · rw [if_pos same, ih]
      by_cases paused : mode = .paused
      · rw [if_pos paused, ← same]
        rfl
      · rw [if_neg paused, ← same, ← ModeSnapshot.lastUnpaused_ofHistory (same ▸ paused)]
        rfl
    · rw [if_neg same]
      by_cases paused : mode = .paused
      · -- The mode before the pause is the last one other than the pause.
        have on : later.getLastD initial ≠ .paused := fun h => same (h.trans paused.symm)
        rw [if_neg (not_not.mpr paused), if_pos paused, ModeSnapshot.lastUnpaused_ofHistory on]
      · rw [if_pos paused, if_neg paused]

theorem ModeSwitch.changes_foldl_set (initial : Mode) (later : List Mode) (mode : Mode) :
    (later.foldl set (new initial)).changes mode = decide (later.getLastD initial ≠ mode) := by
  rw [changes, snapshot_foldl_set]
  rfl

/-- The settings that change the mode: those that differ from the one before. -/
def Mode.changes : (current : Mode) → List Mode → List Mode
  | _, [] => []
  | current, mode :: later =>
    if current = mode then changes current later else mode :: changes mode later

theorem Mode.changes_concat (current : Mode) (later : List Mode) (mode : Mode) :
    changes current (later ++ [mode]) =
      changes current later ++ if later.getLastD current = mode then [] else [mode] := by
  induction later generalizing current with
  | nil => simp [changes]
  | cons first later ih =>
    simp only [List.cons_append, changes, List.getLastD_cons]
    by_cases same : current = first
    · rw [if_pos same, if_pos same, ih, same]
    · rw [if_neg same, if_neg same, ih, List.cons_append]

/-! ## A world with a switch -/

/-- The mode that the command sets. -/
def Command.mode? : Command → Option Mode
  | .setMode mode => some mode
  | _ => none

namespace World

variable {σ μ : Type} [RandomSource σ] [ModeSource μ]

theorem modes_apply {w : World σ μ} {switch : ModeSwitch} (own : w.modes = .bundled switch)
    (command : Command) :
    (apply command w).1.modes = .bundled (command.mode?.toList.foldl ModeSwitch.set switch) := by
  cases command with
  | tick =>
    cases due : w.updateDue with
    | false =>
      rw [apply, advance_of_not_due due]
      exact own
    | true =>
      simp only [apply, advance_of_due due, (mode_update w).2, own]
      rfl
  | movePlayer d => exact own
  | setMode mode =>
    rw [apply, setMode_of_bundled own]
    rfl

theorem modes_run {w : World σ μ} {switch : ModeSwitch} (own : w.modes = .bundled switch)
    (commands : List Command) : (run commands w).1.modes =
      .bundled ((commands.filterMap Command.mode?).foldl ModeSwitch.set switch) := by
  induction commands using List.reverseRecOn with
  | nil => exact own
  | append_singleton commands command ih =>
    rw [run_concat, modes_apply ih, List.filterMap_append, List.foldl_append]
    cases h : command.mode? <;> simp [h]

theorem filter_mode_apply {command : Command} (other : command.mode? = none) (w : World σ μ) :
    (apply command w).2.filter (·.topic = .mode) = [] := by
  rw [List.filter_eq_nil_iff]
  intro e he mode
  have mode : e.topic = .mode := of_decide_eq_true mode
  cases command with
  | tick =>
    rcases mem_apply_tick.mp he with rfl | ⟨_, he⟩
    · exact absurd mode (by simp [Event.topic])
    · exact topic_ne_mode_of_mem_update he mode
  | movePlayer d => exact List.not_mem_nil he
  | setMode mode => exact Option.some_ne_none mode other

/-- **The log of a world** tells of the changes of its switch. -/
theorem filter_mode_run {w : World σ μ} {initial : Mode} (own : w.modes = .bundled (.new initial))
    (commands : List Command) : (run commands w).2.filter (·.topic = .mode) =
      (Mode.changes initial (commands.filterMap Command.mode?)).map .modeChanged := by
  induction commands using List.reverseRecOn with
  | nil => rfl
  | append_singleton commands command ih =>
    rw [run_concat, List.filter_append, ih, List.filterMap_append]
    cases set : command.mode? with
    | none => rw [filter_mode_apply set, List.filterMap_cons_none set]; simp
    | some mode =>
      have command_eq : command = .setMode mode := by
        cases command <;> simp_all [Command.mode?]
      have singleton : [Command.setMode mode].filterMap Command.mode? = [mode] := rfl
      rw [command_eq, singleton, Mode.changes_concat, List.map_append, apply,
        setMode_of_bundled (modes_run own commands), ModeSwitch.changes_foldl_set]
      generalize (commands.filterMap Command.mode?).getLastD initial = last
      by_cases same : last = mode
      · rw [if_pos same, if_neg (by simp [same])]
        rfl
      · rw [if_neg same, if_pos (by simp [same])]
        rfl

/-- What the world knows of the mode is what its switch reported at the last update. -/
theorem SinceUpdate.mode {w : World σ μ} {initial : Mode} {commands before since : List Command}
    (own : w.modes = .bundled (.new initial)) (start : w.mode = (ModeSwitch.new initial).snapshot)
    (h : w.SinceUpdate commands before since) :
    (run commands w).1.mode = .ofHistory initial (before.filterMap Command.mode?) := by
  have kept : (run commands w).1.mode = (run before w).1.mode := by
    obtain ⟨_, _, _, frame⟩ := h.idle.frame
    rw [h.run_eq, frame]
  rw [kept]
  rcases h.update with rfl | ⟨earlier, rfl, due⟩
  · exact start.trans (ModeSwitch.snapshot_foldl_set initial [])
  · have tick : [Command.tick].filterMap Command.mode? = [] := rfl
    rw [run_concat, List.filterMap_append, tick, List.append_nil]
    simp only [apply, advance_of_due due, (mode_update _).1, modes_run own earlier]
    exact ModeSwitch.snapshot_foldl_set initial _

/-- **The mode is a matter of history.** A switch reports the modes set so far, the log tells of
their changes, and the game goes by what was reported at the last update. -/
theorem mode_history {config : Config} {maze : Maze} {sources : Roster σ} {w : World σ μ}
    (new : new? config maze (.bundled default) sources = .ok w) :
    (∀ (initial : Mode) (later : List Mode),
      let switch := later.foldl ModeSwitch.set (.new initial)
      switch.snapshot = .ofHistory initial later ∧
      ∀ mode, switch.changes mode = true ↔ later.getLastD initial ≠ mode) ∧
    ∀ commands,
      let v := (run commands w).1
      let set := commands.filterMap Command.mode?
      (∀ mode, (apply (.setMode mode) v).2 =
        if set.getLastD .scatter = mode then [] else [.modeChanged mode]) ∧
      (∀ command, command.mode? = none → (apply command v).2.filter (·.topic = .mode) = []) ∧
      (run commands w).2.filter (·.topic = .mode) =
        (Mode.changes .scatter set).map .modeChanged ∧
      (∃ before since, w.SinceUpdate commands before since) ∧
      ∀ before since, w.SinceUpdate commands before since →
        v.mode = .ofHistory .scatter (before.filterMap Command.mode?) := by
  have start_eq := (new?_eq_ok_iff.mp new).2
  have own : w.modes = .bundled (.new .scatter) := by rw [start_eq]; rfl
  have mode : w.mode = (ModeSwitch.new .scatter).snapshot := by rw [start_eq]; rfl
  refine ⟨fun initial later => ⟨ModeSwitch.snapshot_foldl_set initial later, fun mode => ?_⟩,
    fun commands => ⟨fun mode => ?_, fun _ other => filter_mode_apply other _,
      filter_mode_run own commands, exists_sinceUpdate w commands, fun _ _ split => ?_⟩⟩
  · rw [ModeSwitch.changes_foldl_set, decide_eq_true_iff]
  · rw [apply, setMode_of_bundled (modes_run own commands), ModeSwitch.changes_foldl_set]
    simp only [decide_eq_true_eq, ne_eq, ite_not]
  · exact split.mode own mode

/-- The hunt is paused before the first update, and scatter asked for before the second one. -/
theorem mode_history_classic :
    let config : Config := { updatePeriod := 2 }
    let sources : Roster Listed := .ofFn fun _ => ⟨[]⟩
    let w : World Listed Empty := start config .classic (.bundled default) sources
    let before : List Command := [.setMode .chase, .setMode .paused, .tick]
    let since : List Command := [.setMode .paused, .tick, .setMode .scatter]
    let commands := before ++ since
    let v := (run commands w).1
    (new? config .classic (.bundled default) sources = .ok w ∧
      w.SinceUpdate commands before since) ∧
    (run commands w).2.filter (·.topic = .mode) =
      [.modeChanged .chase, .modeChanged .paused, .modeChanged .scatter] ∧
    (apply (.setMode .scatter) v).2 = [] ∧
    (apply .tick v).2.filter (·.topic = .mode) = [] ∧
    v.mode = ⟨.paused, some .chase⟩ := by
  intro config sources w before since commands v
  have new : new? config .classic (.bundled default) sources = .ok w :=
    new?_eq_ok_iff.mpr ⟨by decide, rfl⟩
  obtain ⟨due, idle⟩ : (run [.setMode .chase, .setMode .paused] w).1.updateDue = true ∧
      Idle since (run before w).1 := by
    decide +kernel
  have split : w.SinceUpdate commands before since := ⟨rfl, .inr ⟨_, rfl, due⟩, idle⟩
  obtain ⟨told, other, log, _, known⟩ := (mode_history new).2 commands
  exact ⟨⟨new, split⟩, log, told .scatter, other .tick rfl, known before since split⟩

end World

end MazeChase
