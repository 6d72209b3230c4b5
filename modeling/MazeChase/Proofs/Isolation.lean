import MazeChase.Proofs.Draws
import MazeChase.Proofs.Passage
import MazeChase.Proofs.Track

/-!
# Random numbers stay with their ghosts

A ghost draws from its own source only, and what the others draw reaches it only through its eyes.
When it hunts, cyan looks at red, and nobody else looks at another ghost. So a set of ghosts that
look at no ghost outside the set lives in a world of its own: its members do the same, whatever the
sources of the others say.

* `Color.watches`: the ghosts that a ghost looks at; `Color.AmongThemselves`: sets of this kind;
* `Scene.LooksLike`, **`Ghost.plan_congr`**: a plan depends only on what the ghost looks at;
* `World.SameGhosts`, `World.sameGhosts_abreast`: every part of a game keeps such a set in step;
* **`World.streams_isolated`**.
-/

set_option autoImplicit false

namespace MazeChase

/-! ## What a ghost looks at -/

namespace Color

/-- The ghosts that a ghost looks at to find out where to hunt. -/
def watches : Color → List Color
  | red | pink => []
  | cyan => [red]
  | orange => [orange]

/-- These ghosts look at no ghost but these. -/
def AmongThemselves (colors : List Color) : Prop := ∀ c ∈ colors, ∀ d ∈ c.watches, d ∈ colors

theorem amongThemselves_cons_watches (color : Color) :
    AmongThemselves (color :: color.watches) := by
  cases color <;> simp [AmongThemselves, watches]

/-- Beyond itself, only cyan looks at another ghost, and that is red. -/
theorem forall_mem_cons_watches {p : Color → Prop} {color : Color} (own : p color)
    (other : color = cyan → p red) : ∀ c ∈ color :: color.watches, p c := by
  intro c hc
  rcases List.mem_cons.mp hc with rfl | seen
  · exact own
  cases color with
  | red | pink => exact absurd seen List.not_mem_nil
  | cyan =>
    obtain rfl := List.mem_singleton.mp seen
    exact other rfl
  | orange =>
    obtain rfl := List.mem_singleton.mp seen
    exact own

end Color

namespace Scene

/-- The scenes look the same to a ghost. -/
structure LooksLike (color : Color) (s t : Scene) : Prop where
  maze : s.maze = t.maze
  player : s.player = t.player
  mode : s.mode = t.mode
  ghosts : ∀ c ∈ color.watches, s.ghosts.get c = t.ghosts.get c

variable {color : Color} {s t : Scene}

theorem LooksLike.chaseTarget (h : LooksLike color s t) :
    s.chaseTarget color = t.chaseTarget color := by
  cases color with
  | red => simp only [Scene.chaseTarget, h.player]
  | pink => simp only [Scene.chaseTarget, h.player]
  | cyan =>
    have red : s.ghosts.red = t.ghosts.red := h.ghosts .red (List.mem_singleton_self _)
    simp only [Scene.chaseTarget, h.player, red]
  | orange =>
    have orange : s.ghosts.orange = t.ghosts.orange := h.ghosts .orange (List.mem_singleton_self _)
    simp only [Scene.chaseTarget, h.player, orange]

theorem LooksLike.target? (h : LooksLike color s t) (g : Ghost) (coasted : Location) :
    s.target? color g coasted = t.target? color g coasted := by
  rw [Scene.target?, Scene.target?, h.mode, h.chaseTarget]

end Scene

/-- **A plan depends on nothing but what the ghost looks at**, its state and its source. -/
theorem Ghost.plan_congr {σ : Type} [RandomSource σ] {color : Color} {s t : Scene}
    (h : Scene.LooksLike color s t) (g : Ghost) (source : σ) :
    g.plan s color source = g.plan t color source := by
  rw [plan, plan, Scene.exits_congr h.maze, h.target?]

/-- Cyan does look at red: the same crossing is left in another direction when red is elsewhere. -/
example :
    let s : Scene := ⟨.classic, playerSpawn, .ofFn fun _ => Color.red.spawn, some .chase⟩
    let t : Scene := { s with ghosts := s.ghosts.set .red ⟨⟨29, 1⟩, .left⟩ }
    let g : Ghost := ⟨⟨⟨5, 5⟩, .right⟩, ⟨⟨5, 6⟩, .right⟩, 0, 0, false, false⟩
    (g.plan s .cyan (⟨[]⟩ : Listed)).ghost = g.planHeading .down ∧
      (g.plan t .cyan (⟨[]⟩ : Listed)).ghost = g.planHeading .right := by
  decide +kernel

namespace World

variable {σ μ : Type}

/-! ## A set of ghosts in two worlds -/

/-- The worlds have the track of the player in common, the mode, and these ghosts with their
sources. -/
structure SameGhosts (colors : List Color) (w v : World σ μ) : Prop extends SameTrack w v where
  modes : w.modes = v.modes
  mode : w.mode = v.mode
  ghosts : ∀ c ∈ colors, w.ghosts.get c = v.ghosts.get c
  sources : ∀ c ∈ colors, w.sources.get c = v.sources.get c

namespace SameGhosts

variable {colors : List Color} {w v : World σ μ}

theorem map_ghosts (h : SameGhosts colors w v) (f : Ghost → Ghost) :
    SameGhosts colors { w with ghosts := w.ghosts.map f } { v with ghosts := v.ghosts.map f } :=
  { h with
    ghosts := by
      intro c hc
      rw [Roster.get_map, Roster.get_map, h.ghosts c hc] }

/-- Ghosts that look at each other only see the same in both worlds. -/
theorem scene (h : SameGhosts colors w v) (closed : Color.AmongThemselves colors) {c : Color}
    (hc : c ∈ colors) : Scene.LooksLike c w.scene v.scene where
  maze := h.maze
  player := h.player
  mode := congrArg ModeSnapshot.effective h.mode
  ghosts := by
    intro d hd
    rw [World.scene, World.scene, Roster.get_map, Roster.get_map, h.ghosts d (closed c hc d hd)]

theorem recording (h : SameGhosts colors w v) : SameGhosts colors w.recording v.recording :=
  { h with
    sources := by
      intro c hc
      rw [World.recording, World.recording, Roster.get_map, Roster.get_map, h.sources c hc] }

end SameGhosts

variable {colors : List Color}

theorem enter_sameGhosts :
    (enter (σ := σ) (μ := μ)).Abreast (SameGhosts colors) Event.ofTrack enter := by
  refine enter_abreast (fun _ _ h => h.toSameTrack)
    (fun _ _ h => { h with player := by rw [h.player] })
    (fun _ _ _ h => { h with pellets := rfl }) ?_ (fun _ _ h => ⟨{ h with }, rfl⟩)
    fun _ _ _ h => { h with fruit := rfl }
  intro w v h
  rw [frightenGhosts, frightenGhosts, h.frightCycles]
  exact ⟨h.map_ghosts _, rfl⟩

theorem collide_sameGhosts :
    (collide (σ := σ) (μ := μ)).Abreast (SameGhosts colors) Event.ofTrack collide := by
  intro w v h
  refine ⟨?_, (collide_sameTrack w v h.toSameTrack).2⟩
  obtain ⟨_, _, checked⟩ := collide_frame w
  obtain ⟨_, _, checked'⟩ := collide_frame v
  rw [checked, checked']
  refine { h with ghosts := fun c hc => ?_ }
  rw [Roster.get_ofFn, Roster.get_ofFn, h.ghosts c hc, h.player]

variable [RandomSource σ] [ModeSource μ]

omit [ModeSource μ] in
theorem planGhosts_sameGhosts (closed : Color.AmongThemselves colors) :
    (planGhosts (σ := σ) (μ := μ)).Abreast (SameGhosts colors) Event.ofTrack planGhosts := by
  intro w v h
  refine ⟨?_, (planGhosts_sameTrack w v h.toSameTrack).2⟩
  have plans : ∀ c ∈ colors, w.plan c = v.plan c := by
    intro c hc
    rw [plan, plan, h.ghosts c hc, h.sources c hc, Ghost.plan_congr (h.scene closed hc)]
  rw [planGhosts_apply, planGhosts_apply]
  refine { h with ghosts := fun c hc => ?_, sources := fun c hc => ?_ }
  · rw [planned, planned, Roster.get_ofFn, Roster.get_ofFn, plans c hc]
  · rw [planned, planned, Roster.get_ofFn, Roster.get_ofFn, plans c hc]

theorem sameGhosts_abreast (closed : Color.AmongThemselves colors) :
    Abreast (SameGhosts (σ := σ) (μ := μ) colors) Event.ofTrack where
  track := fun _ _ h => h.toSameTrack
  poll := fun _ _ h =>
    { h with
      modes := by simp only [polled, h.modes]
      mode := by simp only [polled, h.modes] }
  plan := planGhosts_sameGhosts closed
  queue := fun _ _ _ h => { h with queued := rfl }
  turn := fun _ _ d h => { h with player := by rw [h.player] }
  enter := enter_sameGhosts
  check := collide_sameGhosts
  move := fun _ _ h => h.map_ghosts _
  clock := fun _ _ h => { h with tick := by rw [h.tick] }
  control := setMode_abreast (fun _ _ h => h.modes) fun _ _ _ h => { h with modes := rfl }

/-! ## Whole games -/

/-- **Random streams are isolated.** A ghost goes the same way and asks the same bounds in two games
that differ in the sources of others; for cyan, red counts as well. -/
theorem streams_isolated {config : Config} {maze : Maze} {modes : ModeControl μ}
    {sources sources' : Roster σ} {w v : World σ μ} {color : Color}
    (hw : new? config maze modes sources = .ok w) (hv : new? config maze modes sources' = .ok v)
    (own : sources.get color = sources'.get color)
    (red : color = .cyan → sources.get .red = sources'.get .red) (commands : List Command) :
    (run commands w).1.ghosts.get color = (run commands v).1.ghosts.get color ∧
      (run commands w).1.sources.get color = (run commands v).1.sources.get color ∧
      drawn commands w color = drawn commands v color := by
  obtain ⟨_, start_w⟩ := new?_eq_ok_iff.mp hw
  obtain ⟨_, start_v⟩ := new?_eq_ok_iff.mp hv
  have watched : ∀ c ∈ color :: color.watches, sources.get c = sources'.get c :=
    Color.forall_mem_cons_watches own red
  have same : SameGhosts (color :: color.watches) w v := by
    rw [start_w, start_v]
    exact
      { maze := rfl, player := rfl, queued := rfl, pellets := rfl, fruit := rfl, tick := rfl
        updatePeriod := rfl, frightCycles := rfl, firstFruit := rfl, secondFruit := rfl
        modes := rfl, mode := rfl, ghosts := fun _ _ => rfl, sources := watched }
  -- The games that remember what is asked show all three; without their memory they are the games.
  have abreast := sameGhosts_abreast (σ := MazeChase.Recorded σ) (μ := μ)
    color.amongThemselves_cons_watches
  have record := (abreast.run commands w.recording v.recording same.recording).1
  have ghost := record.ghosts color List.mem_cons_self
  have source := record.sources color List.mem_cons_self
  rw [forgetting_run commands w, forgetting_run commands v]
  refine ⟨ghost, ?_, congrArg Recorded.bounds source⟩
  rw [forgetting, forgetting, Roster.get_map, Roster.get_map, source]

/-- Pink goes another way in the second game, and cyan, which draws five times, does not. -/
theorem streams_isolated_cyan :
    let config : Config := { updatePeriod := 1 }
    let modes : ModeControl ModeSnapshot := .external ⟨.chase, some .chase⟩
    let sources : Roster Listed := ⟨⟨[0, 1, 2]⟩, ⟨[0, 0, 0]⟩, ⟨[1, 2, 0]⟩, ⟨[0, 0]⟩⟩
    let sources' : Roster Listed := ⟨⟨[0, 1, 2]⟩, ⟨[0, 0, 1]⟩, ⟨[1, 2, 0]⟩, ⟨[2, 1]⟩⟩
    let w : World Listed ModeSnapshot := start config .classic modes sources
    let v : World Listed ModeSnapshot := start config .classic modes sources'
    let way : List Direction := List.replicate 7 .left ++ List.replicate 3 .down ++
      List.replicate 3 .left ++ List.replicate 3 .up ++ List.replicate 2 .left
    let commands : List Command :=
      (way.flatMap fun d => [.movePlayer d, .tick]) ++ List.replicate 6 .tick
    (new? config .classic modes sources = .ok w ∧ new? config .classic modes sources' = .ok v) ∧
      ((run commands w).1.ghosts.pink ≠ (run commands v).1.ghosts.pink ∧
        drawn commands w .cyan = #[1, 1, 2, 2, 1]) ∧
      ((run commands w).1.ghosts.get .cyan = (run commands v).1.ghosts.get .cyan ∧
        drawn commands w .cyan = drawn commands v .cyan) := by
  intro config modes sources sources' w v way commands
  have hw : new? config .classic modes sources = .ok w := new?_eq_ok_iff.mpr ⟨by decide, rfl⟩
  have hv : new? config .classic modes sources' = .ok v := new?_eq_ok_iff.mpr ⟨by decide, rfl⟩
  have apart : (run commands w).1.ghosts.pink ≠ (run commands v).1.ghosts.pink ∧
      drawn commands w .cyan = #[1, 1, 2, 2, 1] := by
    decide +kernel
  have own : sources.get .cyan = sources'.get .cyan := rfl
  obtain ⟨ghost, _, bounds⟩ := streams_isolated hw hv own (fun _ => rfl) commands
  exact ⟨⟨hw, hv⟩, apart, ghost, bounds⟩

end World

end MazeChase
