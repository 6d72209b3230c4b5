import MazeChase.Proofs.Abreast

/-!
# What ghosts draw

To see which numbers the ghosts ask for, a game is played with sources that remember the bounds that
they were asked for. Nothing else changes: when the memory is dropped, the recorded game is the game
itself, step by step.

* `Ghost.plan_recorded`: a plan with a recorded source;
* `World.recording`, `World.forgetting`: memory put in and dropped;
* **`World.forgetting_run`**: the recorded game is the game;
* `World.drawn`: the bounds that the source of a ghost is asked for in a run;
  `World.drawn_eq_empty`: a source that stays as it is has been asked for nothing.
-/

set_option autoImplicit false

namespace MazeChase

theorem Ghost.plan_recorded {σ : Type} [RandomSource σ] (s : Scene) (color : Color) (g : Ghost)
    (r : Recorded σ) :
    (g.plan s color r).ghost = (g.plan s color r.source).ghost ∧
      (g.plan s color r).source.source = (g.plan s color r.source).source ∧
      (g.plan s color r).kind = (g.plan s color r.source).kind := by
  unfold plan
  by_cases off : g.location.IsOffBoard
  · simp only [if_pos off, and_self]
  by_cases trapped : 0 < g.trap
  · simp only [if_neg off, if_pos trapped, and_self]
  simp only [if_neg off, if_neg trapped]
  cases s.exits g.spawning g.location.advanced with
  | nil => simp only [and_self]
  | cons d more =>
    by_cases frightened : 1 < g.fright
    · simp only [if_pos frightened, Recorded.fst_below]
      cases (d :: more)[(RandomSource.below r.source (more.length + 1)).1]? with
      | none => simp only [Recorded.source_below, and_self]
      | some chosen => simp only [Recorded.source_below, and_self]
    · simp only [if_neg frightened, and_self]

namespace World

variable {σ μ : Type}

/-- The world with sources that remember what they are asked from now on. -/
def recording (w : World σ μ) : World (MazeChase.Recorded σ) μ :=
  { w with sources := w.sources.map Recorded.new }

/-- The world with sources that remember nothing. -/
def forgetting (r : World (MazeChase.Recorded σ) μ) : World σ μ :=
  { r with sources := r.sources.map Recorded.source }

/-- The second world is the first one without its memory. -/
def Forgets (r : World (MazeChase.Recorded σ) μ) (w : World σ μ) : Prop := r.forgetting = w

/-- Every event is heard. -/
def everyEvent : Event → Bool := fun _ => true

theorem Forgets.sameTrack {r : World (MazeChase.Recorded σ) μ} {w : World σ μ} (h : r.Forgets w) :
    r.SameTrack w := by
  rw [← h]
  constructor <;> rfl

theorem collide_forgets :
    Phase.Abreast (Forgets (σ := σ) (μ := μ)) everyEvent collide collide := by
  refine .forEach (fun color => ?_) Color.all
  unfold meet
  refine .ite ?_ .pass (.ite ?_ ?_ (.ite ?_ .pass ?_))
  all_goals
    rintro r w rfl
    first | exact Iff.rfl | exact ⟨rfl, rfl⟩

theorem enter_forgets : Phase.Abreast (Forgets (σ := σ) (μ := μ)) everyEvent enter enter := by
  refine enter_abreast (fun _ _ h => h.sameTrack) ?_ ?_ ?_ ?_ ?_
  · rintro r w rfl
    rfl
  · rintro r w rest rfl
    rfl
  · rintro r w rfl
    exact ⟨rfl, rfl⟩
  · rintro r w rfl
    exact ⟨rfl, rfl⟩
  · rintro r w fruit rfl
    rfl

variable [RandomSource σ] [ModeSource μ]

omit [ModeSource μ] in
theorem plan_forgetting (r : World (MazeChase.Recorded σ) μ) (color : Color) :
    (r.plan color).ghost = (r.forgetting.plan color).ghost ∧
      (r.plan color).source.source = (r.forgetting.plan color).source ∧
      (r.plan color).kind = (r.forgetting.plan color).kind := by
  have source : r.forgetting.sources.get color = (r.sources.get color).source := Roster.get_map ..
  rw [plan, plan, source]
  exact Ghost.plan_recorded ..

omit [ModeSource μ] in
theorem planGhosts_forgets :
    Phase.Abreast (Forgets (σ := σ) (μ := μ)) everyEvent planGhosts planGhosts := by
  rintro r w rfl
  have ghosts : ∀ color, (r.plan color).ghost = (r.forgetting.plan color).ghost :=
    fun color => (plan_forgetting r color).1
  have kinds : ∀ color, (r.plan color).kind = (r.forgetting.plan color).kind :=
    fun color => (plan_forgetting r color).2.2
  have sources : r.planned.sources.map Recorded.source = r.forgetting.planned.sources := by
    refine Roster.ext_get fun color => ?_
    simp only [planned, Roster.get_map, Roster.get_ofFn]
    exact (plan_forgetting r color).2.1
  simp only [planGhosts_apply, ghosts, kinds, and_true]
  rw [Forgets, forgetting, sources]
  simp only [planned, ghosts]
  rfl

theorem forgets_abreast : Abreast (Forgets (σ := σ) (μ := μ)) everyEvent where
  track := fun _ _ h => h.sameTrack
  poll := by
    rintro r w rfl
    rfl
  plan := planGhosts_forgets
  queue := by
    rintro r w move rfl
    rfl
  turn := by
    rintro r w d rfl
    rfl
  enter := enter_forgets
  check := collide_forgets
  move := by
    rintro r w rfl
    rfl
  clock := by
    rintro r w rfl
    rfl
  control := setMode_abreast
    (by
      rintro r w rfl
      rfl)
    (by
      rintro r w modes rfl
      rfl)

/-- **The recorded game is the game**, when its memory is dropped. -/
theorem forgetting_run (commands : List Command) (w : World σ μ) :
    run commands w = ((run commands w.recording).1.forgetting, (run commands w.recording).2) := by
  obtain ⟨same, told⟩ := forgets_abreast.run commands w.recording w rfl
  refine Prod.ext same.symm ?_
  have all : ∀ told : List Event, told.filter everyEvent = told := fun told =>
    List.filter_eq_self.mpr fun _ _ => rfl
  rw [all, all] at told
  exact told.symm

theorem snd_run_recording (commands : List Command) (w : World σ μ) :
    (run commands w.recording).2 = (run commands w).2 :=
  congrArg Prod.snd (forgetting_run commands w).symm

/-- The bounds that the source of a ghost is asked for in a run, the first one first. -/
def drawn (commands : List Command) (w : World σ μ) (color : Color) : Array Nat :=
  ((run commands w.recording).1.sources.get color).bounds

/-- If the source still remembers what it did before, it was asked for nothing. -/
theorem drawn_eq_empty {commands : List Command} {w : World σ μ} {color : Color}
    (same : (run commands w.recording).1.sources.get color = w.recording.sources.get color) :
    drawn commands w color = #[] := by
  rw [drawn, same, recording, Roster.get_map]
  rfl

end World

end MazeChase
