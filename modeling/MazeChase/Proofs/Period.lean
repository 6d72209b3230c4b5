import MazeChase.Proofs.Interval

/-!
# The update period only stretches time

Between two updates there are ticks that let the clock go on and do nothing else. Leave them out,
let every tick be an update, and it is the same game.

* `Command.thinned`: commands without the ticks between the updates;
* `World.quickened`: the same world with an update at every tick;
* `World.apply_quickened`, `World.run_quickened`: a command, and a run;
* **`World.period_stretches_time`**.
-/

set_option autoImplicit false

namespace MazeChase

/-- The commands without the ticks between the updates. The ticks are numbered from `n` on, and
those whose number is a multiple of the period are the updates. -/
def Command.thinned (period : Nat) : (n : Nat) → List Command → List Command
  | _, [] => []
  | n, .tick :: commands =>
    if n % period = 0 then .tick :: thinned period (n + 1) commands
    else thinned period (n + 1) commands
  | n, command :: commands => command :: thinned period n commands

theorem Command.thinned_tick_of_late {period n : Nat} (late : n % period ≠ 0)
    (commands : List Command) :
    thinned period n (.tick :: commands) = thinned period (n + 1) commands :=
  if_neg late

theorem Command.thinned_cons {period n : Nat} {command : Command}
    (busy : command = .tick → n % period = 0) (commands : List Command) :
    thinned period n (command :: commands) =
      command :: thinned period (n + [command].count .tick) commands := by
  cases command with
  | tick => exact if_pos (busy rfl)
  | movePlayer d => rfl
  | setMode mode => rfl

theorem Event.filter_clock_cons (tick : Nat) (updated : Bool) (told : List Event) :
    (.tickAdvanced tick updated :: told).filter (·.topic ≠ .clock) =
      told.filter (·.topic ≠ .clock) := rfl

namespace World

variable {σ μ : Type}

/-- The same world with an update at every tick, and another time on the clock. -/
def quickened (tick : Nat) (w : World σ μ) : World σ μ :=
  { w with config := { w.config with updatePeriod := 1 }, tick := tick }

theorem updateDue_quickened (tick : Nat) (w : World σ μ) :
    (w.quickened tick).updateDue = true :=
  decide_eq_true (Nat.mod_one tick)

theorem quickened_eq (tick : Nat) : quickened (σ := σ) (μ := μ) tick =
    restage ({ · with updatePeriod := 1, tick := tick }) := rfl

variable [RandomSource σ] [ModeSource μ]

theorem update_quickened (tick : Nat) : (update (σ := σ) (μ := μ)).Ignores (quickened tick) := by
  intro w
  rw [quickened_eq]
  exact update_restage rfl rfl

theorem apply_quickened {w : World σ μ} (command : Command)
    (busy : command = .tick → w.updateDue = true) (tick : Nat) : ∃ next,
      (apply command (w.quickened tick)).1 = (apply command w).1.quickened next ∧
      (apply command (w.quickened tick)).2.filter (·.topic ≠ .clock) =
        (apply command w).2.filter (·.topic ≠ .clock) := by
  cases command with
  | tick =>
    rw [apply, advance_of_due (updateDue_quickened tick w), advance_of_due (busy rfl),
      update_quickened tick w]
    refine ⟨min (tick + 1) maxTick, by simp only [quickened], ?_⟩
    rw [Event.filter_clock_cons, Event.filter_clock_cons]
  | movePlayer d => exact ⟨tick, rfl, rfl⟩
  | setMode mode =>
    have set := setMode_ignores (f := ({ · with updatePeriod := 1, tick := tick }))
      (fun _ _ => rfl) mode w
    rw [← quickened_eq] at set
    rw [apply, set]
    exact ⟨tick, rfl, rfl⟩

/-- A run goes the same way in the quick world without the ticks between the updates. -/
theorem run_quickened (commands : List Command) {w : World σ μ} {period : Nat}
    (period_eq : w.config.updatePeriod.toNat = period)
    (few : w.tick + commands.count .tick ≤ maxTick) (tick : Nat) : ∃ last,
      (run (Command.thinned period w.tick commands) (w.quickened tick)).1 =
        (run commands w).1.quickened last ∧
      (run (Command.thinned period w.tick commands) (w.quickened tick)).2.filter
          (·.topic ≠ .clock) =
        (run commands w).2.filter (·.topic ≠ .clock) := by
  induction commands generalizing w tick with
  | nil => exact ⟨tick, rfl, rfl⟩
  | cons command commands ih =>
    rw [← List.singleton_append, List.count_append] at few
    have clock : (apply command w).1.tick = w.tick + [command].count .tick := by
      rw [← run_singleton, tick_run_of_le (by omega)]
    have rules := (rules_run [command] w).1
    rw [run_singleton] at rules
    have rest := ih (rules ▸ period_eq) (by omega)
    rw [clock] at rest
    by_cases busy : command = .tick → w.tick % period = 0
    · have due : command = .tick → w.updateDue = true := fun tick =>
        decide_eq_true (period_eq ▸ busy tick)
      obtain ⟨next, world, log⟩ := apply_quickened command due tick
      obtain ⟨last, world', log'⟩ := rest next
      refine ⟨last, ?_, ?_⟩
      · rw [Command.thinned_cons busy, run_cons, run_cons, world, world']
      · rw [Command.thinned_cons busy, run_cons, run_cons, List.filter_append, List.filter_append,
          log, world, log']
    · -- The quick world does not notice a tick that is left out.
      obtain ⟨rfl, late⟩ := Classical.not_imp.mp busy
      have idle : apply .tick w = ({ w with tick := min (w.tick + 1) maxTick },
          [.tickAdvanced w.tick false]) :=
        advance_of_not_due (decide_eq_false (period_eq ▸ late))
      have unnoticed : (apply .tick w).1.quickened tick = w.quickened tick := by
        rw [idle]
        rfl
      obtain ⟨last, world, log⟩ := rest tick
      rw [unnoticed] at world log
      refine ⟨last, ?_, ?_⟩
      · rw [Command.thinned_tick_of_late late, run_cons]
        exact world
      · rw [Command.thinned_tick_of_late late, run_cons, idle, List.singleton_append,
          Event.filter_clock_cons, ← idle]
        exact log

/-- **The update period only stretches time.** Without the ticks between the updates, a game with
the period one comes to the same world and log but for the clock. -/
theorem period_stretches_time {config : Config} {maze : Maze} {modes : ModeControl μ}
    {sources : Roster σ} {w : World σ μ} (new : new? config maze modes sources = .ok w)
    (commands : List Command) (few : commands.count .tick < UInt64.size) :
    let p := config.updatePeriod.toNat
    let quick : Config := { config with updatePeriod := 1 }
    let v : World σ μ := { w with config := quick }
    let thinned := Command.thinned p 0 commands
    new? quick maze modes sources = .ok v ∧
    (∃ tick, (run thinned v).1 = { (run commands w).1 with config := quick, tick := tick }) ∧
    (run thinned v).2.filter (·.topic ≠ .clock) = (run commands w).2.filter (·.topic ≠ .clock) ∧
    ∀ before, before ++ [.tick] <+: commands →
      let k := before.count .tick
      let u := (run before w).1
      (apply .tick u).2.filter (·.topic = .clock) = [.tickAdvanced k (k % p = 0)] ∧
      (k % p ≠ 0 → apply .tick u = ({ u with tick := k + 1 }, [.tickAdvanced k false])) := by
  intro p quick v thinned
  obtain ⟨valid, start_eq⟩ := new?_eq_ok_iff.mp new
  have config_eq : w.config = config := by rw [start_eq, start]
  have tick_eq : w.tick = 0 := by rw [start_eq, start]
  have short : commands.count .tick ≤ maxTick := Nat.le_sub_one_of_lt few
  have v_eq : v = w.quickened 0 := by
    rw [quickened, config_eq, ← tick_eq]
  have period : w.config.updatePeriod.toNat = p := by rw [config_eq]
  obtain ⟨tick, world, log⟩ := run_quickened commands period (by omega) 0
  rw [tick_eq, ← v_eq] at world log
  refine ⟨?_, ⟨tick, ?_⟩, log, fun before first => ?_⟩
  · exact new?_eq_ok_iff.mpr ⟨⟨Nat.one_pos, valid.2⟩, by rw [start]; simp only [v, start_eq, start]⟩
  · rw [world, quickened, (rules_of_new? new commands).1]
  · intro k u
    have count : k + 1 ≤ commands.count .tick := by
      have le := first.sublist.count_le (a := Command.tick)
      rwa [List.count_append, List.count_singleton_self] at le
    have clock : u.tick = k := by
      rw [tick_run_of_le (by omega), tick_eq, Nat.zero_add]
    have due : u.updateDue = decide (k % p = 0) := by
      rw [updateDue, clock, (rules_of_new? new before).1]
    refine ⟨by rw [filter_clock_apply_tick, clock, due], fun late => ?_⟩
    have next : min (k + 1) maxTick = k + 1 := Nat.min_eq_left (by omega)
    rw [apply, advance_of_not_due (due.trans (decide_eq_false late)), clock, next]

/-- Three of five ticks are left out, and the player takes the same pellet. -/
theorem period_stretches_time_classic :
    let config : Config := { updatePeriod := 3 }
    let quick : Config := { config with updatePeriod := 1 }
    let sources : Roster Listed := .ofFn fun _ => ⟨[]⟩
    let w : World Listed Empty := start config .classic (.bundled default) sources
    let commands : List Command :=
      [.tick, .movePlayer .left, .tick, .setMode .chase, .tick, .tick, .tick]
    let thinned : List Command := [.tick, .movePlayer .left, .setMode .chase, .tick]
    let u := (run [.tick, .movePlayer .left] w).1
    (new? config .classic (.bundled default) sources = .ok w ∧
      commands.count .tick < UInt64.size) ∧
    Command.thinned 3 0 commands = thinned ∧
    (run commands w).2.countP (·.topic = .meal) = 1 ∧
    (run thinned { w with config := quick }).2.filter (·.topic ≠ .clock) =
      (run commands w).2.filter (·.topic ≠ .clock) ∧
    apply .tick u = ({ u with tick := 2 }, [.tickAdvanced 1 false]) := by
  intro config quick sources w commands thinned u
  have new : new? config .classic (.bundled default) sources = .ok w :=
    new?_eq_ok_iff.mpr ⟨by decide, rfl⟩
  have few : commands.count .tick < UInt64.size := by decide
  have pellet : (run commands w).2.countP (·.topic = .meal) = 1 := by decide +kernel
  have left : Command.thinned config.updatePeriod.toNat 0 commands = thinned := by decide
  obtain ⟨_, _, log, ticks⟩ := period_stretches_time new commands few
  rw [left] at log
  have first : [.tick, .movePlayer .left] ++ [.tick] <+: commands := by decide
  have late := (ticks [.tick, .movePlayer .left] first).2 (by decide)
  exact ⟨⟨new, few⟩, left, pellet, log, late⟩

end World

end MazeChase
