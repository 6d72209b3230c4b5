import MazeChase.Proofs.Backstage

/-!
# Pausing never changes the game

A switch that is set to the pause still steers the ghosts by the mode before it, whichever way it
came there. So a game goes on through a pause as if nobody had asked for it, and only what it
reports of its mode differs.

* **`ModeSwitch.effective_set`**: the mode that steers the ghosts when a switch has been set;
* `World.SteeredAlike`: two worlds that differ in what they know of the mode, and not in what
  steers the ghosts;
* `World.SteeredAlike.apply`, `World.SteeredAlike.pause`, `World.SteeredAlike.run`: commands and
  runs;
* **`World.pausing_changes_nothing`**.
-/

set_option autoImplicit false

namespace MazeChase

/-- The pause leaves in force what steers the ghosts, and any other mode takes over. -/
theorem ModeSwitch.effective_set (s : ModeSwitch) (mode : Mode) :
    (s.set mode).snapshot.effective =
      if mode = .paused then s.snapshot.effective else some mode := by
  by_cases same : s.snapshot.mode = mode
  · rw [set, if_pos same]
    cases mode <;> simp [ModeSnapshot.effective, same]
  · rw [set, if_neg same]
    cases mode with
    | paused =>
      -- The mode before the pause is none itself, so it is what steered the ghosts.
      cases now : s.snapshot.mode with
      | paused => exact absurd now same
      | scatter => simp [ModeSnapshot.effective, now]
      | chase => simp [ModeSnapshot.effective, now]
    | scatter => rfl
    | chase => rfl

namespace World

variable {σ μ : Type}

/-- The world with another switch of its own, and with something else known of the mode. -/
def reporting (switch : ModeSwitch) (mode : ModeSnapshot) (w : World σ μ) : World σ μ :=
  { w with modes := .bundled switch, mode := mode }

theorem reporting_eq (switch : ModeSwitch) (mode : ModeSnapshot) :
    reporting (σ := σ) (μ := μ) switch mode =
      restage ({ · with modes := .bundled switch, mode := mode }) := rfl

/-- The second world has a switch of its own, too, and differs in what this and the last update
report of the mode; but the same mode steers the ghosts. -/
inductive SteeredAlike (w : World σ μ) : World σ μ → Prop
  | intro {s t : ModeSwitch} {mode : ModeSnapshot} (own : w.modes = .bundled s)
      (alike : t.snapshot.effective = s.snapshot.effective)
      (known : mode.effective = w.mode.effective) : SteeredAlike w (w.reporting t mode)

namespace SteeredAlike

variable {w v : World σ μ}

theorem refl {switch : ModeSwitch} (own : w.modes = .bundled switch) : SteeredAlike w w := by
  have same : w.reporting switch w.mode = w := by rw [reporting, ← own]
  have alike : SteeredAlike w (w.reporting switch w.mode) := .intro own rfl rfl
  rwa [same] at alike

theorem tick (h : SteeredAlike w v) : v.tick = w.tick := by
  cases h
  rfl

theorem updateDue (h : SteeredAlike w v) : v.updateDue = w.updateDue := by
  cases h
  rfl

theorem clock (h : SteeredAlike w v) (tick : Nat) :
    SteeredAlike { w with tick := tick } { v with tick := tick } := by
  obtain ⟨own, alike, known⟩ := h
  exact .intro own alike known

theorem filter_setMode (mode : Mode) (w : World σ μ) :
    (setMode mode w).2.filter (·.topic ≠ .mode) = [] :=
  List.filter_eq_nil_iff.mpr fun e he => by simp [setMode_tells mode w e he]

variable [RandomSource σ] [ModeSource μ]

theorem update (h : SteeredAlike w v) :
    SteeredAlike (update w).1 (update v).1 ∧ (World.update v).2 = (World.update w).2 := by
  obtain @⟨s, t, mode, own, alike, known⟩ := h
  have same : World.update (w.reporting t mode) =
      ((World.update w).1.reporting t t.snapshot, (World.update w).2) := by
    rw [reporting_eq, reporting_eq]
    exact update_restage rfl (alike.trans (by rw [polled, own]; rfl))
  obtain ⟨reported, kept⟩ := mode_update w
  rw [own] at reported kept
  simp only [same, and_true]
  exact .intro kept alike (alike.trans (congrArg ModeSnapshot.effective reported).symm)

theorem apply (h : SteeredAlike w v) (command : Command) :
    SteeredAlike (apply command w).1 (apply command v).1 ∧
      (World.apply command v).2.filter (·.topic ≠ .mode) =
        (World.apply command w).2.filter (·.topic ≠ .mode) := by
  cases command with
  | tick =>
    cases due : w.updateDue with
    | false =>
      rw [World.apply, advance_of_not_due due, advance_of_not_due (h.updateDue.trans due), h.tick]
      exact ⟨h.clock _, rfl⟩
    | true =>
      obtain ⟨after, told⟩ := h.update
      rw [World.apply, advance_of_due due, advance_of_due (h.updateDue.trans due), h.tick,
        after.tick, told]
      exact ⟨after.clock _, rfl⟩
  | movePlayer d =>
    obtain ⟨own, alike, known⟩ := h
    exact ⟨.intro own alike known, rfl⟩
  | setMode mode =>
    obtain @⟨s, t, known, own, alike, steer⟩ := h
    have same : (t.set mode).snapshot.effective = (s.set mode).snapshot.effective := by
      rw [ModeSwitch.effective_set, ModeSwitch.effective_set, alike]
    rw [World.apply]
    refine ⟨?_, by rw [filter_setMode, filter_setMode]⟩
    rw [setMode_of_bundled own, setMode_of_bundled rfl]
    exact .intro rfl same steer

/-- A pause in the first world goes unnoticed in the second. -/
theorem pause (h : SteeredAlike w v) :
    SteeredAlike (World.apply (.setMode .paused) w).1 v ∧
      (World.apply (.setMode .paused) w).2.filter (·.topic ≠ .mode) = [] := by
  rw [World.apply]
  refine ⟨?_, filter_setMode .paused w⟩
  obtain @⟨s, t, known, own, alike, steer⟩ := h
  have same : (s.set .paused).snapshot.effective = s.snapshot.effective := by
    rw [ModeSwitch.effective_set, if_pos rfl]
  rw [setMode_of_bundled own]
  exact .intro rfl (alike.trans same.symm) steer

/-- **A run goes the same way** without the pauses. -/
theorem run (h : SteeredAlike w v) (commands : List Command) :
    SteeredAlike (run commands w).1 (run (commands.filter (· ≠ .setMode .paused)) v).1 ∧
      (World.run commands w).2.filter (·.topic ≠ .mode) =
        (World.run (commands.filter (· ≠ .setMode .paused)) v).2.filter (·.topic ≠ .mode) := by
  induction commands using List.reverseRecOn with
  | nil => exact ⟨h, rfl⟩
  | append_singleton commands command ih =>
    obtain ⟨alike, log⟩ := ih
    rw [List.filter_append, run_concat]
    by_cases paused : command = .setMode .paused
    · rw [paused, List.filter_append]
      have none : [Command.setMode .paused].filter (· ≠ .setMode .paused) = [] := rfl
      rw [none, List.append_nil, alike.pause.2, List.append_nil]
      exact ⟨alike.pause.1, log⟩
    · have kept : [command].filter (· ≠ .setMode .paused) = [command] :=
        List.filter_cons_of_pos (decide_eq_true paused)
      rw [kept, run_concat, List.filter_append, List.filter_append, log, (alike.apply command).2]
      exact ⟨(alike.apply command).1, rfl⟩

end SteeredAlike

variable [RandomSource σ] [ModeSource μ]

/-- **Pausing never changes the game**, only what is reported of the mode. -/
theorem pausing_changes_nothing {config : Config} {maze : Maze} {switch : ModeSwitch}
    {sources : Roster σ} {w : World σ μ} (new : new? config maze (.bundled switch) sources = .ok w)
    (commands : List Command) :
    let kept := commands.filter (· ≠ .setMode .paused)
    (∃ modes mode,
      (run kept w).1 = { (run commands w).1 with modes := modes, mode := mode } ∧
      mode.effective = (run commands w).1.mode.effective) ∧
    (run commands w).2.filter (·.topic ≠ .mode) = (run kept w).2.filter (·.topic ≠ .mode) := by
  intro kept
  have own : w.modes = .bundled switch := by
    rw [(new?_eq_ok_iff.mp new).2]
    rfl
  obtain ⟨alike, log⟩ := (SteeredAlike.refl own).run commands
  refine ⟨?_, log⟩
  generalize (run commands w).1 = u at alike ⊢
  generalize (run kept w).1 = v at alike ⊢
  obtain @⟨_, t, mode, _, _, steer⟩ := alike
  exact ⟨.bundled t, mode, rfl, steer⟩

/-- The hunt is paused twice, and the player still takes two pellets. -/
theorem pausing_changes_nothing_classic :
    let config : Config := { updatePeriod := 2 }
    let w : World Stream Empty :=
      start config .classic (.bundled default) (seededStreams config.rngSeed)
    let pause : Command := .setMode .paused
    let kept : List Command :=
      [.setMode .chase, .movePlayer .left, .tick, .tick, .movePlayer .left, .tick]
    let commands : List Command :=
      [.setMode .chase, pause, .movePlayer .left, .tick, pause, .tick, .movePlayer .left, .tick]
    (seeded? config .classic = .ok w ∧ commands.filter (· ≠ pause) = kept) ∧
    (run commands w).2.filter (·.topic ≠ .mode) = (run kept w).2.filter (·.topic ≠ .mode) ∧
    (run commands w).2.countP (·.topic = .meal) = 2 ∧
    (run commands w).1.mode = ⟨.paused, some .chase⟩ := by
  intro config w pause kept commands
  have new : seeded? config .classic = .ok w := new?_eq_ok_iff.mpr ⟨by decide, rfl⟩
  have left : commands.filter (· ≠ pause) = kept := rfl
  obtain ⟨pellets, known⟩ : (run commands w).2.countP (·.topic = .meal) = 2 ∧
      (run commands w).1.mode = ⟨.paused, some .chase⟩ := by
    decide +kernel
  have log := (pausing_changes_nothing new commands).2
  rw [left] at log
  exact ⟨⟨new, left⟩, log, pellets, known⟩

end World

end MazeChase
