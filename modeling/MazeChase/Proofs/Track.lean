import MazeChase.Proofs.Abreast

/-!
# The track of the player

Where the player goes, which pellets it takes and which fruits appear depends on the maze and on the
commands alone. Ghosts, random numbers and modes leave no trace in it: two games in one maze may
differ in all of them, one of them may be lost while the other one goes on, and the player still
walks the same way through both.

* `Event.ofTrack`: the events of the clock, of the steps of the player and of what it finds;
* `World.sameTrack_abreast`: every part of a game keeps to the track;
* **`World.track_ignores_ghosts`**.
-/

set_option autoImplicit false

namespace MazeChase

/-- The event tells neither of a ghost alone, nor of a contact with one, nor of the mode. -/
def Event.ofTrack : Event → Bool
  | .ghostStranded .. | .ghostEaten .. | .playerCaught _ | .modeChanged _ => false
  | _ => true

theorem Event.ofTrack_eq_false {e : Event}
    (topic : e.topic = .plan ∨ e.topic = .contact ∨ e.topic = .mode) : e.ofTrack = false := by
  cases e <;> first | rfl | simp [Event.topic] at topic

namespace World

variable {σ τ μ ν : Type}

/-! ## The parts of a game -/

theorem enter_sameTrack : (enter (σ := σ) (μ := μ)).Abreast SameTrack Event.ofTrack
    (enter (σ := τ) (μ := ν)) := by
  refine enter_abreast (fun _ _ h => h) (fun _ _ h => { h with player := by rw [h.player] })
    (fun _ _ _ h => { h with pellets := rfl }) ?_ (fun _ _ h => ⟨{ h with }, rfl⟩)
    fun _ _ _ h => { h with fruit := rfl }
  intro w v h
  rw [frightenGhosts, frightenGhosts, h.frightCycles]
  exact ⟨{ h with }, rfl⟩

theorem collide_sameTrack : (collide (σ := σ) (μ := μ)).Abreast SameTrack Event.ofTrack
    (collide (σ := τ) (μ := ν)) := by
  have silent : ∀ e : Event, e.topic = .contact → e.ofTrack = false := fun e topic =>
    Event.ofTrack_eq_false (.inr (.inl topic))
  refine .of_silent (fun w v h => ?_) (collide_tells.imp silent) (collide_tells.imp silent)
  obtain ⟨_, _, checked⟩ := collide_frame w
  obtain ⟨_, _, checked'⟩ := collide_frame v
  rw [checked, checked']
  exact { h with }

variable [RandomSource σ] [ModeSource μ] [RandomSource τ] [ModeSource ν]

omit [ModeSource μ] [ModeSource ν] in
theorem planGhosts_sameTrack : (planGhosts (σ := σ) (μ := μ)).Abreast SameTrack Event.ofTrack
    (planGhosts (σ := τ) (μ := ν)) := by
  have silent : ∀ e : Event, e.topic = .plan → e.ofTrack = false := fun e topic =>
    Event.ofTrack_eq_false (.inl topic)
  refine .of_silent (fun w v h => ?_) (planGhosts_tells.imp silent) (planGhosts_tells.imp silent)
  rw [planGhosts_apply, planGhosts_apply]
  exact { h with }

omit [RandomSource σ] [ModeSource μ] [RandomSource τ] [ModeSource ν] in
theorem setMode_sameTrack (mode : Mode) : (setMode (σ := σ) (μ := μ) mode).Abreast SameTrack
    Event.ofTrack (setMode (σ := τ) (μ := ν) mode) := by
  have silent : ∀ e : Event, e.topic = .mode → e.ofTrack = false := fun e topic =>
    Event.ofTrack_eq_false (.inr (.inr topic))
  refine .of_silent (fun w v h => ?_) ((setMode_tells mode).imp silent)
    ((setMode_tells mode).imp silent)
  obtain ⟨_, set⟩ := setMode_frame mode w
  obtain ⟨_, set'⟩ := setMode_frame mode v
  rw [set, set']
  exact { h with }

theorem sameTrack_abreast :
    Abreast (SameTrack (σ := σ) (τ := τ) (μ := μ) (ν := ν)) Event.ofTrack where
  track := fun _ _ h => h
  poll := fun _ _ h => { h with }
  plan := planGhosts_sameTrack
  queue := fun _ _ _ h => { h with queued := rfl }
  turn := fun _ _ d h => { h with player := by rw [h.player] }
  enter := enter_sameTrack
  check := collide_sameTrack
  move := fun _ _ h => { h with }
  clock := fun _ _ h => { h with tick := by rw [h.tick] }
  control := setMode_sameTrack

/-! ## Whole games -/

/-- **The track of the player does not depend on the ghosts**, nor on the seed, the way of planning,
the points for a ghost and the modes. -/
theorem track_ignores_ghosts {config : Config} {seed : UInt64} {planning : Planning}
    {points : UInt32} {maze : Maze} {modes : ModeControl μ} {modes' : ModeControl ν}
    {sources : Roster σ} {sources' : Roster τ} {w : World σ μ} {v : World τ ν}
    (hw : new? config maze modes sources = .ok w)
    (hv : new? { config with rngSeed := seed, planning := planning, ghostEatPoints := points } maze
      modes' sources' = .ok v) (commands : List Command) :
    let w' := (run commands w).1
    let v' := (run commands v).1
    (w'.player = v'.player ∧ w'.pellets = v'.pellets ∧ w'.fruit = v'.fruit ∧ w'.tick = v'.tick) ∧
      (run commands w).2.filter Event.ofTrack = (run commands v).2.filter Event.ofTrack := by
  intro w' v'
  obtain ⟨_, start_w⟩ := new?_eq_ok_iff.mp hw
  obtain ⟨_, start_v⟩ := new?_eq_ok_iff.mp hv
  have track : w.SameTrack v := by
    rw [start_w, start_v]
    constructor <;> rfl
  obtain ⟨same, told⟩ := sameTrack_abreast.run commands w v track
  exact ⟨⟨same.player, same.pellets, same.fruit, same.tick⟩, told⟩

/-- Red catches the player in one game, and the ghosts scatter in the other one. -/
theorem track_ignores_ghosts_caught :
    let config : Config := { updatePeriod := 1 }
    let w : World Stream Empty := start config .classic (.bundled default)
      (seededStreams config.rngSeed)
    let v : World Listed ModeSnapshot :=
      start { config with rngSeed := 7, planning := .sequential, ghostEatPoints := 0 } .classic
        (.external ⟨.scatter, some .scatter⟩) (.ofFn fun _ => ⟨[2, 1]⟩)
    let commands : List Command := .setMode .chase :: List.replicate 21 .tick ++
      [.movePlayer .left, .tick, .movePlayer .up, .tick, .movePlayer .left, .tick]
    seeded? config .classic = .ok w ∧
      new? { config with rngSeed := 7, planning := .sequential, ghostEatPoints := 0 } .classic
        (.external ⟨.scatter, some .scatter⟩) (.ofFn fun _ => ⟨[2, 1]⟩) = .ok v ∧
      ((run commands w).1.outcome = some .lost ∧ (run commands v).1.outcome = none) ∧
      ((run commands w).1.player = (run commands v).1.player ∧
        (run commands w).1.pellets = (run commands v).1.pellets) ∧
      (run commands w).2.filter Event.ofTrack = (run commands v).2.filter Event.ofTrack := by
  intro config w v commands
  have hw : seeded? config .classic = .ok w := new?_eq_ok_iff.mpr ⟨by decide, rfl⟩
  have hv : new? { config with rngSeed := 7, planning := .sequential, ghostEatPoints := 0 } .classic
      (.external ⟨.scatter, some .scatter⟩) (.ofFn fun _ => ⟨[2, 1]⟩) = .ok v :=
    new?_eq_ok_iff.mpr ⟨by decide, rfl⟩
  have outcomes : (run commands w).1.outcome = some .lost ∧ (run commands v).1.outcome = none := by
    decide +kernel
  obtain ⟨⟨player, pellets, _, _⟩, told⟩ := track_ignores_ghosts hw hv commands
  exact ⟨hw, hv, outcomes, ⟨player, pellets⟩, told⟩

end World

end MazeChase
