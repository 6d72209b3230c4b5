import Mathlib.Algebra.Group.Nat.Even
import Mathlib.Logic.Function.Iterate
import MazeChase.Proofs.Bulletin
import MazeChase.Proofs.Draws
import MazeChase.Proofs.Fright
import MazeChase.Proofs.Stranding

/-!
# Trapped ghosts

A trapped ghost goes on to the cell ahead in each update and turns back there, so it swings between
two cells for as long as it is trapped. The trap opens by one in each update. A super pellet sets a
trap for the ghosts that are free, and it does not set a running one anew. Nothing else has a say.

* `Location.swung`, `Location.iterate_swung`: the swing, and many of them;
* `World.any_frightens_enter`, **`World.trap_update`**: what an update makes of the trap of a ghost;
* `World.source_update`, `World.apply_tick_of_due`: what it makes of the sources, and what is left
  to the tick;
* `World.Swings`, `World.run_swings`: the account of a ghost that stays trapped;
* **`World.swings_in_place`**.
-/

set_option autoImplicit false

namespace MazeChase

/-! ## Swings -/

/-- The cell lies away from the ends of the range of coordinates. -/
def Cell.Inner (c : Cell) : Prop :=
  (-128 < c.row.val ∧ c.row.val < 127) ∧ -128 < c.col.val ∧ c.col.val < 127

instance (c : Cell) : Decidable c.Inner := by unfold Cell.Inner; infer_instance

namespace Location

variable {l : Location}

/-- The cell ahead, facing the cell that was left. -/
def swung (l : Location) : Location := ⟨l.neighbor l.heading, l.heading.reversed⟩

theorem InLane.swung (h : l.InLane) : l.swung.InLane := h.advanced.turnedBack

theorem swung_swung (inner : l.cell.Inner) : l.swung.swung = l :=
  Location.ext (Cell.step_step_reversed l.heading inner.1 inner.2) (Direction.reversed_reversed _)

theorem InLane.iterate_swung (h : l.InLane) (n : Nat) : (Location.swung^[n] l).InLane := by
  induction n with
  | zero => exact h
  | succ n ih =>
    rw [Function.iterate_succ_apply']
    exact ih.swung

/-- **After many swings** it only matters whether their number is even. -/
theorem iterate_swung (inner : l.cell.Inner) (n : Nat) :
    Location.swung^[n] l = if Even n then l else l.swung := by
  induction n with
  | zero => rfl
  | succ n ih =>
    rw [Function.iterate_succ_apply', ih]
    by_cases even : Even n
    · rw [if_pos even, if_neg (by rwa [Nat.even_add_one, not_not])]
    · rw [if_neg even, if_pos (Nat.even_add_one.mpr even), swung_swung inner]

end Location

/-! ## Plans of trapped ghosts -/

namespace Ghost

variable {s : Scene} {g g' : Ghost} {kind : PlanKind}

theorem Planned.trap (h : g.Planned s g' kind) :
    g'.trap = if g.location.IsOffBoard then g.trap else g.trap - 1 := by
  cases h with
  | idle off => rw [if_pos off]
  | reversed here => rw [if_neg here]
  | stranded here free | wandered here free | pursued here free =>
    change g.trap = _
    rw [if_neg here, free]

variable {σ : Type} [RandomSource σ]

theorem plan_of_trapped (here : ¬ g.location.IsOffBoard) (trapped : 0 < g.trap) (s : Scene)
    (color : Color) (source : σ) : g.plan s color source =
      ⟨{ g with next := g.location.swung, trap := g.trap - 1 }, source, .reversed⟩ := by
  rw [plan, if_neg here, if_pos trapped]
  rfl

end Ghost

/-! ## The trap in an update -/

theorem Books.any_frightens_pelletTold (config : Config) (c : Cell) (remaining : Nat) :
    (pelletTold config c remaining).any Event.frightens = decide c.IsPowerCorner := by
  unfold pelletTold
  by_cases power : c.IsPowerCorner <;> by_cases last : remaining = 0 <;>
    simp [power, last, Event.frightens]

namespace World

variable {σ μ : Type}

/-- **A step** tells of a fright when it leads to a super pellet. -/
theorem any_frightens_enter (w : World σ μ) : (enter w).2.any Event.frightens =
    decide (FindsSuper { w with player := w.player.advanced }) := by
  obtain ⟨fruit, told⟩ := snd_enter_eq w
  have release : (fruit.toList.map Event.fruitSpawned).any Event.frightens = false := by
    cases fruit <;> rfl
  have meal : (w.mealTold w.player.advanced.cell).any Event.frightens =
      decide (FindsSuper { w with player := w.player.advanced }) := by
    by_cases found : w.pellets.cells.contains w.player.advanced.cell = true
    · have take : w.pellets.take? w.player.advanced.cell = some _ := if_pos found
      rw [mealTold, take, Option.elim_some, Books.any_frightens_pelletTold]
      simp only [FindsSuper, found, true_and]
    · have take : w.pellets.take? w.player.advanced.cell = none := if_neg found
      rw [mealTold, take, Option.elim_none, List.any_nil]
      exact (decide_eq_false fun finds => found finds.1).symm
  rw [told, List.any_cons, List.any_append, meal, release, Bool.or_false]
  rfl

/-- The account of the trap of one ghost between its plan and its move: a fright sets it, if the
ghost is free. -/
def Traps (color : Color) (w : World σ μ) (told : List Event) (v : World σ μ) : Prop :=
  (v.ghosts.get color).trap = if told.any Event.frightens then max 1 (w.ghosts.get color).trap
    else (w.ghosts.get color).trap

theorem traps_account (color : Color) : Phase.Account (Traps (σ := σ) (μ := μ) color) where
  nil := fun _ => rfl
  append := by
    intro a b c es fs first second
    rw [Traps] at first second ⊢
    rw [second, first, List.any_append]
    cases es.any Event.frightens <;> cases fs.any Event.frightens <;>
      simp only [Bool.or_true, Bool.or_false, if_true, Bool.false_eq_true, if_false]
    rw [← Nat.max_assoc, Nat.max_self]

theorem trap_collide (w : World σ μ) (color : Color) :
    ((collide w).1.ghosts.get color).trap = (w.ghosts.get color).trap := by
  rw [get_ghosts_collide, Ghost.afterCheck]
  split <;> rfl

theorem collide_traps (color : Color) : (collide (σ := σ) (μ := μ)).Follows (Traps color) := by
  intro w
  have calm : (collide w).2.any Event.frightens = false :=
    Event.any_eq_false_of_topic (collide_tells w) Event.topic_of_frightens (by decide)
  rw [Traps, calm, trap_collide]
  rfl

theorem enter_traps (color : Color) (w : World σ μ) : Traps color w (enter w).2 (enter w).1 := by
  obtain ⟨_, _, _, _, entered⟩ := enter_frame w
  rw [Traps, any_frightens_enter, entered]
  by_cases finds : FindsSuper { w with player := w.player.advanced }
  · simp only [ghostsAfterMeal, if_pos finds, decide_eq_true finds, Roster.get_map, Ghost.frighten,
      if_true]
    split <;> omega
  · simp only [ghostsAfterMeal, if_neg finds, decide_eq_false finds]
    rfl

theorem makeQueuedMove_traps (color : Color) :
    (makeQueuedMove (σ := σ) (μ := μ)).Follows (Traps color) :=
  makeQueuedMove_follows (traps_account color) (collide_traps color) (fun _ _ => rfl)
    (fun _ => rfl) (fun w _ => enter_traps color w) (fun _ _ => rfl)

variable [RandomSource σ] [ModeSource μ]

/-- **An update** opens the trap of a ghost by one, and sets it if the ghosts are frightened and it
would be open. -/
theorem trap_update (w : World σ μ) (color : Color) :
    let g := w.ghosts.get color
    let rest := if g.location.IsOffBoard then g.trap else g.trap - 1
    ((update w).1.ghosts.get color).trap =
      if (update w).2.any Event.frightens then max 1 rest else rest := by
  intro g rest
  have plan : (w.ready.ghosts.get color).trap = rest := by
    rw [ready, planned, Roster.get_ofFn]
    exact (Ghost.plan_planned w.polled.scene color g (w.sources.get color)).trap
  have moved : (w.moved.ghosts.get color).trap =
      ((makeQueuedMove w.ready).1.ghosts.get color).trap := by
    rw [World.moved, Roster.get_map]
    rfl
  have traps := makeQueuedMove_traps color w.ready
  have last : ((update w).1.ghosts.get color).trap = (w.moved.ghosts.get color).trap := by
    rw [update_apply, trap_collide]
  rw [Traps, plan] at traps
  rw [any_frightens_update, last, moved, traps]

theorem source_update (w : World σ μ) (color : Color) :
    (update w).1.sources.get color = (w.polled.plan color).source := by
  have check : (collide (σ := σ) (μ := μ)).Keeps (·.sources = w.ready.sources) := by
    intro v h
    obtain ⟨_, _, frame⟩ := collide_frame v
    rw [frame]
    exact h
  have enter : ∀ v : World σ μ, v.maze.wallAt v.player.advanced.cell = false →
      v.sources = w.ready.sources → (enter v).1.sources = w.ready.sources := by
    intro v _ h
    obtain ⟨_, _, _, _, frame⟩ := enter_frame v
    rw [frame]
    exact h
  have stepped : (makeQueuedMove w.ready).1.sources = w.ready.sources :=
    makeQueuedMove_keeps check (fun _ _ h => h) enter (fun _ _ h => h) w.ready rfl
  have moved : w.moved.sources = (makeQueuedMove w.ready).1.sources := rfl
  have sources : (update w).1.sources = w.ready.sources := by
    simp only [update_apply]
    exact check w.moved (moved.trans stepped)
  rw [sources, ready, planned, Roster.get_ofFn]

theorem apply_tick_of_due {w : World σ μ} (due : w.updateDue = true) :
    (apply .tick w).1.ghosts = (update w).1.ghosts ∧
      (apply .tick w).1.sources = (update w).1.sources ∧
      (apply .tick w).2 = .tickAdvanced w.tick true :: (update w).2 := by
  simp only [apply, advance_of_due due, and_self]

/-! ## Runs -/

/-- What so many updates make of a ghost that is trapped all the time and is not eaten. -/
structure Swung (color : Color) (n : Nat) (w : World σ μ) (told : List Event) (v : World σ μ) :
    Prop where
  location : (v.ghosts.get color).location = Location.swung^[n] (w.ghosts.get color).location
  trap : n < (w.ghosts.get color).trap →
    (v.ghosts.get color).trap = (w.ghosts.get color).trap - n
  source : v.sources.get color = w.sources.get color
  quiet : ∀ l, .ghostStranded color l ∉ told

/-- The account of a ghost in its lane: for as long as its trap lasts and it is not eaten, it
swings. -/
def Swings (color : Color) (w : World σ μ) (told : List Event) (v : World σ μ) : Prop :=
  (w.ghosts.get color).location.InLane →
    told.countP Event.isUpdate ≤ (w.ghosts.get color).trap →
    told.any (Event.eats color) = false →
    Swung color (told.countP Event.isUpdate) w told v

omit [RandomSource σ] [ModeSource μ] in
theorem swings_account (color : Color) : Phase.Account (Swings (σ := σ) (μ := μ) color) where
  nil := fun w _ _ _ => ⟨rfl, fun _ => rfl, rfl, fun _ => List.not_mem_nil⟩
  append := by
    intro a b c es fs first second lane lasts spared
    rw [List.any_append, Bool.or_eq_false_iff] at spared
    rw [List.countP_append] at lasts ⊢
    have before := first lane (by omega) spared.1
    have lane' : (b.ghosts.get color).location.InLane := by
      rw [before.location]
      exact lane.iterate_swung _
    -- The trap is open when the first part is over only if no update is left for the second one.
    have lasts' : fs.countP Event.isUpdate ≤ (b.ghosts.get color).trap := by
      rcases Nat.lt_or_ge (es.countP Event.isUpdate) (a.ghosts.get color).trap with more | none
      · rw [before.trap more]
        omega
      · omega
    have after := second lane' lasts' spared.2
    refine ⟨?_, fun more => ?_, after.source.trans before.source, fun l told => ?_⟩
    · rw [after.location, before.location, ← Function.iterate_add_apply, Nat.add_comm]
    · have rest := before.trap (by omega)
      rw [after.trap (by omega), rest, Nat.sub_sub]
    · exact (List.mem_append.mp told).elim (before.quiet l) (after.quiet l)

theorem swung_tick {w : World σ μ} {color : Color} (due : w.updateDue = true)
    (here : ¬ (w.ghosts.get color).location.IsOffBoard) (trapped : 0 < (w.ghosts.get color).trap)
    (spared : (apply .tick w).2.any (Event.eats color) = false) :
    Swung color 1 w (apply .tick w).2 (apply .tick w).1 := by
  have plan : w.polled.plan color =
      ⟨{ w.ghosts.get color with next := (w.ghosts.get color).location.swung,
                                 trap := (w.ghosts.get color).trap - 1 },
        w.sources.get color, .reversed⟩ :=
    Ghost.plan_of_trapped here trapped w.polled.scene color (w.sources.get color)
  have spared' : ∀ points, .ghostEaten color points ∉ (update w).2 := fun points told =>
    Event.any_eats_eq_false.mp spared points (mem_apply_tick.mpr (.inr ⟨due, told⟩))
  have quiet : ∀ l, .ghostStranded color l ∉ (apply .tick w).2 := by
    intro l told
    have stuck := ((ghostStranded_mem_tick w color).mp ⟨l, told⟩).2
    exact absurd stuck.2.1 (by omega)
  have trap := trap_update w color
  have source := source_update w color
  obtain ⟨_, _, same⟩ := ghost_update_of_not_eaten spared'
  rw [plan] at source same
  simp only [if_neg here] at trap
  obtain ⟨ghosts, sources, _⟩ := apply_tick_of_due due
  refine ⟨?_, fun more => ?_, ?_, quiet⟩
  · rw [ghosts, same]
    rfl
  · rw [ghosts, trap]
    split <;> omega
  · rw [sources, source]

theorem apply_swings (color : Color) (command : Command) :
    (apply (σ := σ) (μ := μ) command).Follows (Swings color) := by
  intro w lane lasts spared
  by_cases update : command = .tick ∧ w.updateDue = true
  · obtain ⟨rfl, due⟩ := update
    rw [(elapsed_tick due color).2] at lasts ⊢
    exact swung_tick due lane.not_isOffBoard lasts spared
  · obtain ⟨_, _, _, same⟩ := apply_idle_frame update
    rw [countP_isUpdate_idle update, same]
    refine ⟨rfl, fun _ => rfl, rfl, fun l told => ?_⟩
    obtain rfl := eq_tick_of_ghostStranded_mem told
    exact update ⟨rfl, ((ghostStranded_mem_tick w color).mp ⟨l, told⟩).1⟩

/-- **A ghost swings** for as long as its trap lasts, whatever is asked for. -/
theorem run_swings (color : Color) (commands : List Command) :
    (run (σ := σ) (μ := μ) commands).Follows (Swings color) :=
  (swings_account color).forEach (apply_swings color) commands

/-! ## Whole games -/

/-- **Trapped ghosts swing in place**: between two cells with each update, without a draw and
without being stranded, for as long as the trap lasts. -/
theorem swings_in_place {config : Config} {maze : Maze} {modes : ModeControl μ}
    {sources : Roster σ} {w : World σ μ} (new : new? config maze modes sources = .ok w)
    (commands more : List Command) (color : Color) :
    let v := (run commands w).1
    let g := v.ghosts.get color
    let g' := (run more v).1.ghosts.get color
    let log := (run more v).2
    let n := log.countP Event.isUpdate
    ¬ g.location.IsOffBoard → g.location.cell.Inner → n ≤ g.trap →
    (∀ points, .ghostEaten color points ∉ log) →
      (g'.location = if Even n then g.location
        else ⟨g.location.neighbor g.location.heading, g.location.heading.reversed⟩) ∧
      (n < g.trap → g'.trap = g.trap - n) ∧
      (drawn more v color = #[] ∧ (run more v).1.sources.get color = v.sources.get color) ∧
      ∀ l, .ghostStranded color l ∉ log := by
  intro v g g' log n here inner lasts spared
  have lane : g.location.InLane := ((obeys_inLane new commands color).present_on here).2
  have spared' : log.any (Event.eats color) = false := Event.any_eats_eq_false.mpr spared
  have swung : Swung color n v log (run more v).1 := run_swings color more v lane lasts spared'
  have record := run_swings color more v.recording
  rw [snd_run_recording] at record
  have drawn_eq : drawn more v color = #[] := drawn_eq_empty (record lane lasts spared').source
  refine ⟨?_, swung.trap, ⟨drawn_eq, swung.source⟩, swung.quiet⟩
  exact swung.location.trans (Location.iterate_swung inner n)

/-- Orange swings in the house, whatever the player and the mode do. -/
theorem swings_in_place_orange :
    let config : Config := { updatePeriod := 1 }
    let w : World Stream Empty := start config .classic (.bundled default)
      (seededStreams config.rngSeed)
    let way : List Direction := List.replicate 7 .left ++ List.replicate 3 .down ++
      List.replicate 3 .left ++ List.replicate 3 .up ++ List.replicate 2 .left
    let more : List Command :=
      (way.flatMap fun d => [.movePlayer d, .tick]) ++ [.setMode .chase, .tick]
    let g := (run [.tick] w).1.ghosts.get .orange
    let after := (run more (run [.tick] w).1).1.ghosts
    let log := (run more (run [.tick] w).1).2
    (seeded? config .classic = .ok w ∧ ¬ g.location.IsOffBoard ∧ g.location.cell.Inner ∧
      log.countP Event.isUpdate = 19 ∧ g.trap = 32 ∧
      (∀ points, .ghostEaten .orange points ∉ log) ∧ ∃ cycles, .ghostsFrightened cycles ∈ log) ∧
    (g.location = ⟨⟨14, 15⟩, .up⟩ ∧ (after.get .orange).location = ⟨⟨13, 15⟩, .down⟩ ∧
      (after.get .orange).trap = 13) ∧
    drawn more (run [.tick] w).1 .orange = #[] ∧ ∀ l, .ghostStranded .orange l ∉ log := by
  intro config w way more g after log
  have new : seeded? config .classic = .ok w := new?_eq_ok_iff.mpr ⟨by decide, rfl⟩
  obtain ⟨⟨location, trap⟩, updates, spared, frightened⟩ :
      (g.location = ⟨⟨14, 15⟩, .up⟩ ∧ g.trap = 32) ∧ log.countP Event.isUpdate = 19 ∧
      log.any (Event.eats .orange) = false ∧ log.any Event.frightens = true := by
    decide +kernel
  have here : ¬ g.location.IsOffBoard := by rw [location]; decide
  have inner : g.location.cell.Inner := by rw [location]; decide
  have lasts : log.countP Event.isUpdate ≤ g.trap := by rw [updates, trap]; decide
  have spared : ∀ points, .ghostEaten .orange points ∉ log := Event.any_eats_eq_false.mp spared
  obtain ⟨swung, opened, ⟨drawn, _⟩, quiet⟩ :=
    swings_in_place new [.tick] more .orange here inner lasts spared
  refine ⟨⟨new, here, inner, updates, trap, spared, Event.any_frightens.mp frightened⟩,
    ⟨location, ?_, ?_⟩, drawn, quiet⟩
  · rw [updates, if_neg (by decide), location] at swung
    exact swung.trans (by decide +kernel)
  · rw [updates, trap] at opened
    exact opened (by decide)

end World

end MazeChase
