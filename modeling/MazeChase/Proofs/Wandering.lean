import Mathlib.Data.List.NodupEquivFin
import MazeChase.Proofs.Draws
import MazeChase.Proofs.Pursuit

/-!
# Wandering

A frightened ghost leaves the cell ahead at random. It asks its source for one number, below the
number of its ways on, and takes the way that has this place among them. So each way is taken for
one answer, and every ghost that does not wander leaves its source alone.

* `Ghost.Draws`: a ghost that asks its source; `Ghost.wayCount`, `Ghost.way`: its ways on, counted
  and numbered; `Ghost.wayCount_le`, `Ghost.way_strictMono`;
* `Ghost.plan_of_draws`: its plan; **`Ghost.plan_of_pick`**, **`Ghost.plan_of_broken`**: after an
  answer below the bound, and after another one;
* `Ghost.source_plan_of_not_draws`;
* **`Ghost.wanders_by_one_draw`**.
-/

set_option autoImplicit false

namespace MazeChase.Ghost

variable {s : Scene} {g : Ghost}

/-! ## Numbered ways -/

/-- The ghost draws a number when it plans: it is in the maze and not trapped, it will still be
frightened at the next update, and it has a way on. -/
def Draws (s : Scene) (g : Ghost) : Prop :=
  ¬ g.location.IsOffBoard ∧ g.trap = 0 ∧ 1 < g.fright ∧ ∃ d, g.CanLeave s d

/-- The number of the ways on. -/
def wayCount (s : Scene) (g : Ghost) : Nat := Direction.all.countP fun d => g.CanLeave s d

theorem length_exits : (s.exits g.spawning g.location.advanced).length = g.wayCount s := by
  rw [wayCount, List.countP_eq_length_filter]
  congr 1
  refine List.filter_congr fun d _ => ?_
  rw [decide_eq_decide, ← mem_exits_iff, Scene.mem_exits]

theorem wayCount_pos (h : ∃ d, g.CanLeave s d) : 1 ≤ g.wayCount s := by
  obtain ⟨d, way⟩ := h
  exact List.countP_pos_iff.mpr ⟨d, d.mem_all, decide_eq_true way⟩

theorem wayCount_le : g.wayCount s ≤ 3 := by
  have back : g.wayCount s ≠ Direction.all.length := by
    intro every
    have way := List.countP_eq_length.mp every _ g.location.heading.reversed.mem_all
    exact (of_decide_eq_true way).1 rfl
  have four : Direction.all.length = 4 := rfl
  have most : g.wayCount s ≤ Direction.all.length := List.countP_le_length
  omega

/-- The ways on by their places among the directions. -/
def way (s : Scene) (g : Ghost) : Fin (g.wayCount s) ≃ {d // g.CanLeave s d} :=
  have nodup : (s.exits g.spawning g.location.advanced).Nodup :=
    Scene.pairwise_exits.imp fun before => ne_of_apply_ne _ before.ne
  (finCongr length_exits.symm).trans <|
    (List.Nodup.getEquiv _ nodup).trans <| Equiv.subtypeEquivRight fun _ => mem_exits_iff

theorem getElem?_exits (k : Fin (g.wayCount s)) :
    (s.exits g.spawning g.location.advanced)[k.val]? = some (g.way s k).val :=
  List.getElem?_eq_getElem _

theorem way_strictMono : StrictMono fun k => (g.way s k).val.index := by
  intro i j before
  exact List.pairwise_iff_get.mp Scene.pairwise_exits (finCongr length_exits.symm i)
    (finCongr length_exits.symm j) before

/-! ## Plans -/

variable {σ : Type} [RandomSource σ] (color : Color)

theorem plan_of_draws (draws : g.Draws s) (source : σ) : ∃ best,
    (∀ calm ≤ 1, ∀ other : σ, { g with fright := calm }.plan s color other =
      ⟨{ g with fright := calm }.planHeading best, other, .pursued⟩) ∧
    g.plan s color source =
      match (s.exits g.spawning g.location.advanced)[
          (RandomSource.below source (g.wayCount s)).1]? with
      | some chosen =>
        ⟨g.planHeading chosen, (RandomSource.below source (g.wayCount s)).2, .wandered⟩
      | none => ⟨g.planHeading best, (RandomSource.below source (g.wayCount s)).2, .pursued⟩ := by
  obtain ⟨here, free, frightened, d, way⟩ := draws
  have trapped : ¬ 0 < g.trap := by omega
  have bound := length_exits (s := s) (g := g)
  cases exits : s.exits g.spawning g.location.advanced with
  | nil => exact absurd way (exits_eq_nil_iff.mp exits d)
  | cons e more =>
    rw [exits, List.length_cons] at bound
    refine ⟨Scene.nearest (s.target? color g g.location.advanced) g.location.advanced e more,
      fun calm low other => ?_, ?_⟩
    · have calmed : ¬ 1 < calm := by omega
      rw [plan, if_neg here, if_neg trapped, exits]
      exact if_neg calmed
    · rw [plan, if_neg here, if_neg trapped, exits, ← bound]
      exact if_pos frightened

/-- **An answer below the bound** is the place of the way that the ghost takes. -/
theorem plan_of_pick (draws : g.Draws s) (source : σ) (k : Fin (g.wayCount s))
    (pick : (RandomSource.below source (g.wayCount s)).1 = k) : g.plan s color source =
      ⟨{ g with next := ⟨g.onward, g.way s k⟩ },
        (RandomSource.below source (g.wayCount s)).2, .wandered⟩ := by
  obtain ⟨best, _, plan⟩ := plan_of_draws color draws source
  rw [plan, pick, getElem?_exits]
  rfl

/-- **Any other answer** leaves the ghost with the plan that it would make without fright. -/
theorem plan_of_broken (draws : g.Draws s) (source : σ)
    (broken : g.wayCount s ≤ (RandomSource.below source (g.wayCount s)).1) {calm : Nat}
    (low : calm ≤ 1) (other : σ) :
    let greedy := { g with fright := calm }.plan s color other
    greedy.kind = .pursued ∧ g.plan s color source =
      ⟨{ greedy.ghost with fright := g.fright },
        (RandomSource.below source (g.wayCount s)).2, greedy.kind⟩ := by
  intro greedy
  obtain ⟨best, pursuit, plan⟩ := plan_of_draws color draws source
  have greedy_eq : greedy = ⟨{ g with fright := calm }.planHeading best, other, .pursued⟩ :=
    pursuit calm low other
  have beyond : (s.exits g.spawning g.location.advanced)[
      (RandomSource.below source (g.wayCount s)).1]? = none := by
    rw [List.getElem?_eq_none_iff, length_exits]
    exact broken
  rw [plan, beyond, greedy_eq]
  exact ⟨rfl, rfl⟩

theorem source_plan_of_not_draws (idle : ¬ g.Draws s) (source : σ) :
    (g.plan s color source).source = source := by
  rw [plan]
  by_cases off : g.location.IsOffBoard
  · rw [if_pos off]
  by_cases trapped : 0 < g.trap
  · rw [if_neg off, if_pos trapped]
  rw [if_neg off, if_neg trapped]
  cases exits : s.exits g.spawning g.location.advanced with
  | nil => rfl
  | cons d more =>
    have way : g.CanLeave s d := mem_exits_iff.mp (exits ▸ List.mem_cons_self)
    have calm : ¬ 1 < g.fright := fun frightened =>
      idle ⟨off, Nat.eq_zero_of_not_pos trapped, frightened, d, way⟩
    simp only [if_neg calm]

theorem bounds_plan_of_draws (draws : g.Draws s) (source : σ) :
    (g.plan s color (Recorded.new source)).source.bounds = #[g.wayCount s] := by
  obtain ⟨best, _, plan⟩ := plan_of_draws color draws (Recorded.new source)
  rw [plan]
  split <;> rfl

/-- **A ghost wanders by one draw**, which is the place of the way that it takes among its ways on.
An answer that is too large leaves it with the plan that it would make without fright. -/
theorem wanders_by_one_draw (s : Scene) (g : Ghost) :
    (¬ g.Draws s → ∀ source : σ,
      (g.plan s color source).source = source ∧
        (g.plan s color (Recorded.new source)).source.bounds = #[]) ∧
    (g.Draws s → ∃ n, (1 ≤ n ∧ n ≤ 3) ∧ ∃ way : Fin n ≃ {d // g.CanLeave s d},
      (StrictMono fun k => (way k).val.index) ∧
      (∀ k, (way k).val ≠ g.location.heading.reversed) ∧
      ∀ source : σ,
        (g.plan s color (Recorded.new source)).source.bounds = #[n] ∧
        (∀ k : Fin n, (RandomSource.below source n).1 = k → g.plan s color source =
          ⟨{ g with next := ⟨g.onward, way k⟩ }, (RandomSource.below source n).2, .wandered⟩) ∧
        (n ≤ (RandomSource.below source n).1 → ∀ calm ≤ 1, ∀ other : σ,
          let greedy := { g with fright := calm }.plan s color other
          greedy.kind = .pursued ∧ g.plan s color source =
            ⟨{ greedy.ghost with fright := g.fright }, (RandomSource.below source n).2,
              greedy.kind⟩)) := by
  constructor
  · intro idle source
    refine ⟨source_plan_of_not_draws color idle source, ?_⟩
    rw [source_plan_of_not_draws color idle]
    rfl
  · intro draws
    have back (k : Fin (g.wayCount s)) : (g.way s k).val ≠ g.location.heading.reversed :=
      (g.way s k).property.1
    refine ⟨g.wayCount s, ⟨wayCount_pos draws.2.2.2, wayCount_le⟩, g.way s, way_strictMono, back,
      fun source => ⟨bounds_plan_of_draws color draws source, ?_, ?_⟩⟩
    · exact fun k pick => plan_of_pick color draws source k pick
    · exact fun broken calm low other => plan_of_broken color draws source broken low other

/-- With the answer two it takes the last of three ways, and with the answer three the best one. -/
theorem wanders_by_one_draw_crossing :
    let s : Scene := ⟨.classic, ⟨⟨5, 1⟩, .left⟩, .ofFn fun _ => ⟨⟨5, 5⟩, .right⟩, some .chase⟩
    let g : Ghost := ⟨⟨⟨5, 5⟩, .right⟩, ⟨⟨5, 5⟩, .right⟩, 9, 0, false, false⟩
    let numbers : Listed := ⟨[2, 7]⟩
    let _ : RandomSource Unit := ⟨fun _ bound => (bound, ())⟩
    g.Draws s ∧ (g.plan s .red (Recorded.new numbers)).source.bounds = #[3] ∧
    g.plan s .red numbers = ⟨{ g with next := ⟨⟨5, 6⟩, .right⟩ }, ⟨[7]⟩, .wandered⟩ ∧
    g.plan s .red () = ⟨{ g with next := ⟨⟨5, 6⟩, .up⟩ }, (), .pursued⟩ := by
  intro s g numbers _
  obtain ⟨up, bounds, greedy⟩ : g.CanLeave s .up ∧
      (g.plan s .red (Recorded.new numbers)).source.bounds = #[3] ∧
      ({ g with fright := 0 }.plan s .red ()).ghost =
        { g with next := ⟨⟨5, 6⟩, .up⟩, fright := 0 } := by decide +kernel
  have draws : g.Draws s := ⟨by decide, rfl, by decide, .up, up⟩
  refine ⟨draws, bounds, ?_, ?_⟩
  · obtain ⟨n, _, way, mono, back, draw⟩ := (wanders_by_one_draw (σ := Listed) .red s g).2 draws
    obtain rfl : n = 3 := by simpa using (draw numbers).1.symm.trans bounds
    -- The third way is neither one of the first two directions nor the way back.
    have last : (way 2).val = .right := by
      have first : (way 0).val.index < (way 1).val.index := mono (by decide)
      have second : (way 1).val.index < (way 2).val.index := mono (by decide)
      have late : 2 ≤ (way 2).val.index := by omega
      have left : (way 2).val ≠ .left := back 2
      cases third : (way 2).val with
      | right => rfl
      | left => exact absurd third left
      | up | down => exact absurd (third ▸ late) (by decide)
    have plan := (draw numbers).2.1 2 rfl
    rwa [last] at plan
  · obtain ⟨_, _, _, _, _, draw⟩ := (wanders_by_one_draw (σ := Unit) .red s g).2 draws
    obtain ⟨kind, plan⟩ := (draw ()).2.2 le_rfl 0 (by decide) ()
    rw [plan, kind, greedy]

end MazeChase.Ghost
