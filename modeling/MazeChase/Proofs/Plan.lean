import Mathlib.Logic.Basic
import MazeChase.Proofs.Move
import MazeChase.World.Tick

/-!
# What a ghost may plan

Five kinds of plan are possible, and none of them touches more of the ghost than its planned
location and its trap. The plans of the four ghosts do not know of each other.

* `Ghost.Planned`: all that a plan can be, with its guard;
* **`Ghost.plan_planned`**: every plan is of one of these kinds;
* `Ghost.plan_frame`: what a plan leaves alone;
* `Ghost.Planned.eq_of_one_way`: a single exit is taken;
* `World.plan`, `World.planned`, **`World.planGhosts_apply`**: the planning phase;
* `World.mem_planGhosts`: which ghosts are told to be stranded.
-/

set_option autoImplicit false

namespace MazeChase

/-! ## One ghost -/

theorem Scene.nearest_mem (target : Option Point) (l : Location) (d : Direction)
    (more : List Direction) : Scene.nearest target l d more ∈ d :: more := by
  induction more generalizing d with
  | nil => exact List.mem_singleton_self d
  | cons e more ih =>
    have better : Scene.better target l d e = d ∨ Scene.better target l d e = e := by
      unfold Scene.better
      split
      · exact .inr rfl
      · exact .inl rfl
    have h := ih (Scene.better target l d e)
    change Scene.nearest target l (Scene.better target l d e) more ∈ d :: e :: more
    rw [List.mem_cons] at h
    rcases h with h | h
    · rw [h]
      rcases better with e | e <;> simp [e]
    · exact List.mem_cons_of_mem _ (List.mem_cons_of_mem _ h)

namespace Ghost

/-- All that a plan can be: the planned ghost, and of which kind the plan is. -/
inductive Planned (s : Scene) (g : Ghost) : Ghost → PlanKind → Prop
  /-- A ghost that has not entered the maze plans nothing. -/
  | idle (off : g.location.IsOffBoard) : Planned s g g .idle
  /-- A trapped ghost turns back on the cell ahead. -/
  | reversed (here : ¬ g.location.IsOffBoard) (trapped : 0 < g.trap) :
      Planned s g { g with next := g.location.advanced.turnedBack, trap := g.trap - 1 } .reversed
  /-- A ghost that can go nowhere from the cell ahead keeps its heading. -/
  | stranded (here : ¬ g.location.IsOffBoard) (free : g.trap = 0)
      (stuck : s.exits g.spawning g.location.advanced = []) :
      Planned s g { g with next := g.location.advanced } .stranded
  /-- A frightened ghost leaves the cell ahead by any exit. -/
  | wandered {d : Direction} (here : ¬ g.location.IsOffBoard) (free : g.trap = 0)
      (frightened : 1 < g.fright) (exit : d ∈ s.exits g.spawning g.location.advanced) :
      Planned s g (g.planHeading d) .wandered
  /-- Otherwise the ghost leaves the cell ahead by the best exit. -/
  | pursued {d : Direction} (here : ¬ g.location.IsOffBoard) (free : g.trap = 0)
      (exit : d ∈ s.exits g.spawning g.location.advanced) :
      Planned s g (g.planHeading d) .pursued

variable {σ : Type} [RandomSource σ]

/-- **Every plan is one of these.** -/
theorem plan_planned (s : Scene) (color : Color) (g : Ghost) (source : σ) :
    Planned s g (g.plan s color source).ghost (g.plan s color source).kind := by
  by_cases off : g.location.IsOffBoard
  · rw [plan, if_pos off]
    exact .idle off
  by_cases trapped : 0 < g.trap
  · rw [plan, if_neg off, if_pos trapped]
    exact .reversed off trapped
  have free : g.trap = 0 := Nat.eq_zero_of_not_pos trapped
  rw [plan, if_neg off, if_neg trapped]
  cases exits : s.exits g.spawning g.location.advanced with
  | nil => exact .stranded off free exits
  | cons d more =>
    have pursue : ∀ source : σ, Planned s g
        (g.planHeading (Scene.nearest (s.target? color g g.location.advanced)
          g.location.advanced d more)) .pursued := fun _ =>
      .pursued off free (exits ▸ Scene.nearest_mem _ _ d more)
    by_cases frightened : 1 < g.fright
    · simp only [if_pos frightened]
      cases chosen : (d :: more)[(RandomSource.below source (more.length + 1)).1]? with
      | some e => exact .wandered off free frightened (exits ▸ List.mem_of_getElem? chosen)
      | none => exact pursue source
    · simp only [if_neg frightened]
      exact pursue source

omit [RandomSource σ] in
theorem Planned.frame {s : Scene} {g g' : Ghost} {kind : PlanKind} (h : Planned s g g' kind) :
    ∃ next trap, g' = { g with next := next, trap := trap } := by
  cases h with
  | idle => exact ⟨g.next, g.trap, rfl⟩
  | _ => exact ⟨_, _, rfl⟩

theorem plan_frame (s : Scene) (color : Color) (g : Ghost) (source : σ) : ∃ next trap,
    (g.plan s color source).ghost = { g with next := next, trap := trap } :=
  (plan_planned s color g source).frame

omit [RandomSource σ] in
/-- A ghost with one way on takes it. -/
theorem Planned.eq_of_one_way {s : Scene} {g g' : Ghost} {kind : PlanKind} (h : Planned s g g' kind)
    (here : ¬ g.location.IsOffBoard) (free : g.trap = 0) {d : Direction}
    (one : s.exits g.spawning g.location.advanced = [d]) : g' = g.planHeading d := by
  cases h with
  | idle off => exact absurd off here
  | reversed _ trapped => exact absurd free (Nat.ne_of_gt trapped)
  | stranded _ _ stuck =>
    rw [one] at stuck
    exact absurd stuck (List.cons_ne_nil d [])
  | wandered _ _ _ exit | pursued _ _ exit =>
    rw [one, List.mem_singleton] at exit
    rw [exit]

end Ghost

/-! ## All ghosts -/

namespace Planning

variable {σ : Type} [RandomSource σ]

theorem Sheet.inOrder_all (s : Scene) (sheet : Sheet σ) :
    sheet.inOrder s Color.all = sheet.atOnce s := rfl

/-- In whichever way the plans are made, each ghost makes its own from the sheet as it was. -/
theorem planAll_eq_atOnce (p : Planning) (s : Scene) (sheet : Sheet σ) :
    p.planAll s sheet = sheet.atOnce s := by
  cases p
  · rfl
  · exact Sheet.inOrder_all s sheet

end Planning

namespace World

variable {σ μ : Type} [RandomSource σ]

/-- The plan that a ghost makes next. -/
def plan (w : World σ μ) (color : Color) : Plan σ :=
  (w.ghosts.get color).plan w.scene color (w.sources.get color)

/-- The world when all plans are made. -/
def planned (w : World σ μ) : World σ μ :=
  { w with
    ghosts := .ofFn fun color => (w.plan color).ghost
    sources := .ofFn fun color => (w.plan color).source }

omit [RandomSource σ] in
theorem tellStranded_apply (kinds : Roster PlanKind) (color : Color) (w : World σ μ) :
    tellStranded kinds color w =
      (w, if kinds.get color = .stranded then
        [.ghostStranded color (w.ghosts.get color).next] else []) := by
  by_cases h : kinds.get color = .stranded <;> simp [tellStranded, h]

omit [RandomSource σ] in
theorem forEach_tellStranded (kinds : Roster PlanKind) (colors : List Color) (w : World σ μ) :
    Phase.forEach (tellStranded kinds) colors w =
      (w, colors.flatMap fun color => if kinds.get color = .stranded then
        [.ghostStranded color (w.ghosts.get color).next] else []) := by
  induction colors with
  | nil => rfl
  | cons color colors ih =>
    refine Prod.ext ?_ ?_ <;>
      simp [Phase.forEach_cons, tellStranded_apply, ih]

/-- **The planning phase**: every ghost makes its plan, and the stranded ones are told of, in order.
-/
theorem planGhosts_apply (w : World σ μ) : planGhosts w =
    (w.planned, Color.all.flatMap fun color => if (w.plan color).kind = .stranded then
      [.ghostStranded color (w.plan color).ghost.next] else []) := by
  simp only [planGhosts, Planning.planAll_eq_atOnce, forEach_tellStranded]
  rfl

theorem mem_planGhosts {w : World σ μ} {e : Event} : e ∈ (planGhosts w).2 ↔
    ∃ color, (w.plan color).kind = .stranded ∧
      e = .ghostStranded color (w.plan color).ghost.next := by
  rw [planGhosts_apply, List.mem_flatMap]
  constructor
  · rintro ⟨color, _, h⟩
    by_cases stuck : (w.plan color).kind = .stranded
    · rw [if_pos stuck, List.mem_singleton] at h
      exact ⟨color, stuck, h⟩
    · rw [if_neg stuck] at h
      simp at h
  · rintro ⟨color, stuck, rfl⟩
    exact ⟨color, Color.mem_all color, by rw [if_pos stuck]; exact List.mem_singleton_self _⟩

theorem planGhosts_tells : (planGhosts (σ := σ) (μ := μ)).Tells (·.topic = .plan) := by
  intro w e he
  obtain ⟨_, _, rfl⟩ := mem_planGhosts.mp he
  rfl

end World

end MazeChase
