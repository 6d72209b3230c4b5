import Mathlib.Logic.Basic
import MazeChase.Proofs.Phase
import MazeChase.World.Collision

/-!
# What a check for collisions does

A check goes through the ghosts in roster order. Each ghost is looked at as it was before the
check, whatever became of the ghosts before it; only the score and the outcome are shared.

* `World.Touches`: the player and the ghost are about to meet;
* `Ghost.afterCheck`: the ghost after the check;
* `World.meet_cases`: all that can happen between the player and one ghost;
* **`World.collide_frame`**: what a check changes;
* `World.mem_collide`: every event of a check names a ghost on the cell of the player;
* `World.collide_contact`: a ghost on the cell of the player is told of, unless the game is lost;
* `World.outcome_collide_ne_none`: a ghost that is not frightened decides the game.
-/

set_option autoImplicit false

namespace MazeChase

namespace Ghost

/-- The ghost after the player looked for it: eaten, if it was there and frightened. -/
def afterCheck (g : Ghost) (player : Location) (color : Color) : Ghost :=
  if g.location.Meets player ∧ g.eaten = false ∧ g.IsFrightened then g.respawn color else g

/-- A second look finds nothing more to eat. -/
@[simp] theorem afterCheck_afterCheck (g : Ghost) (player : Location) (color : Color) :
    (g.afterCheck player color).afterCheck player color = g.afterCheck player color := by
  unfold afterCheck
  by_cases h : g.location.Meets player ∧ g.eaten = false ∧ g.IsFrightened
  · rw [if_pos h, if_neg]
    rintro ⟨_, eaten, _⟩
    exact absurd eaten (by simp [respawn])
  · rw [if_neg h, if_neg h]

theorem not_isFrightened_iff {g : Ghost} : ¬ g.IsFrightened ↔ g.fright = 0 :=
  Nat.not_lt.trans Nat.le_zero

theorem afterCheck_of_not_meets {g : Ghost} {player : Location} (color : Color)
    (h : ¬ g.location.Meets player) : g.afterCheck player color = g :=
  if_neg fun hg => h hg.1

end Ghost

namespace World

variable {σ μ : Type}

/-- The player and the ghost share a cell, and the ghost is not on its way back to the house. -/
def Touches (w : World σ μ) (color : Color) : Prop :=
  (w.ghosts.get color).location.Meets w.player ∧ (w.ghosts.get color).eaten = false

theorem meet_cases (w : World σ μ) (color : Color) :
    (¬ w.Touches color ∧ meet color w = (w, [])) ∨
    (w.Touches color ∧ (w.ghosts.get color).IsFrightened ∧
      meet color w =
        (({ w with ghosts := w.ghosts.set color ((w.ghosts.get color).respawn color) }).award
          w.config.ghostEatPoints.toNat,
        [.ghostEaten color w.config.ghostEatPoints.toNat])) ∨
    (w.Touches color ∧ ¬ (w.ghosts.get color).IsFrightened ∧ w.outcome = some .lost ∧
      meet color w = (w, [])) ∨
    (w.Touches color ∧ ¬ (w.ghosts.get color).IsFrightened ∧ w.outcome ≠ some .lost ∧
      meet color w = (w.decideOutcome .lost, [.playerCaught color])) := by
  by_cases touches : w.Touches color
  · have skip : ¬ (¬ (w.ghosts.get color).location.Meets w.player ∨
        (w.ghosts.get color).eaten = true) := by
      rintro (h | h)
      · exact h touches.1
      · exact absurd touches.2 (by simp [h])
    by_cases frightened : (w.ghosts.get color).IsFrightened
    · refine .inr (.inl ⟨touches, frightened, ?_⟩)
      simp only [meet, if_neg skip, if_pos frightened]
    · by_cases lost : w.outcome = some .lost
      · refine .inr (.inr (.inl ⟨touches, frightened, lost, ?_⟩))
        simp only [meet, if_neg skip, if_neg frightened, if_pos lost]
      · refine .inr (.inr (.inr ⟨touches, frightened, lost, ?_⟩))
        simp only [meet, if_neg skip, if_neg frightened, if_neg lost]
  · refine .inl ⟨touches, ?_⟩
    have skip : ¬ (w.ghosts.get color).location.Meets w.player ∨
        (w.ghosts.get color).eaten = true := by
      rw [Touches, not_and_or, Bool.not_eq_false] at touches
      exact touches
    simp only [meet, if_pos skip]

/-! ## The state after a check -/

theorem meet_frame (w : World σ μ) (color : Color) : ∃ score outcome, (meet color w).1 =
    { w with
      ghosts := w.ghosts.set color ((w.ghosts.get color).afterCheck w.player color)
      score := score
      outcome := outcome } := by
  rcases meet_cases w color with ⟨apart, h⟩ | ⟨touches, frightened, h⟩ | ⟨touches, calm, _, h⟩ |
    ⟨touches, calm, _, h⟩
  · have same : (w.ghosts.get color).afterCheck w.player color = w.ghosts.get color :=
      if_neg fun hg => apart ⟨hg.1, hg.2.1⟩
    exact ⟨w.score, w.outcome, by rw [h, same, Roster.set_get]⟩
  · have eaten : (w.ghosts.get color).afterCheck w.player color =
        (w.ghosts.get color).respawn color := if_pos ⟨touches.1, touches.2, frightened⟩
    exact ⟨_, w.outcome, by rw [h, eaten]; rfl⟩
  · have same : (w.ghosts.get color).afterCheck w.player color = w.ghosts.get color :=
      if_neg fun hg => calm hg.2.2
    exact ⟨w.score, w.outcome, by rw [h, same, Roster.set_get]⟩
  · have same : (w.ghosts.get color).afterCheck w.player color = w.ghosts.get color :=
      if_neg fun hg => calm hg.2.2
    exact ⟨w.score, _, by rw [h, same, Roster.set_get]; rfl⟩

/-- The ghosts after the player looked for some of them. -/
def checked (w : World σ μ) (colors : List Color) : Roster Ghost :=
  .ofFn fun color =>
    if color ∈ colors then (w.ghosts.get color).afterCheck w.player color else w.ghosts.get color

theorem forEach_meet_frame (w : World σ μ) (colors : List Color) : ∃ score outcome,
    (Phase.forEach meet colors w).1 =
      { w with ghosts := w.checked colors, score := score, outcome := outcome } := by
  induction colors generalizing w with
  | nil => exact ⟨w.score, w.outcome, by simp [checked]⟩
  | cons color colors ih =>
    obtain ⟨score, outcome, first⟩ := meet_frame w color
    obtain ⟨score', outcome', rest⟩ := ih (meet color w).1
    refine ⟨score', outcome', ?_⟩
    rw [Phase.forEach_cons, Phase.fst_andThen, rest, first]
    congr 1
    refine Roster.ext_get fun c => ?_
    simp only [checked, Roster.get_ofFn, Roster.get_set, List.mem_cons]
    by_cases hc : c = color <;> simp [hc]

/-- **A check** changes the ghosts, each by itself, the score and the outcome. -/
theorem collide_frame (w : World σ μ) : ∃ score outcome, (collide w).1 =
    { w with
      ghosts := .ofFn fun color => (w.ghosts.get color).afterCheck w.player color
      score := score
      outcome := outcome } := by
  obtain ⟨score, outcome, h⟩ := forEach_meet_frame w Color.all
  refine ⟨score, outcome, ?_⟩
  rw [collide, h]
  simp only [checked, Color.mem_all, if_true]

theorem get_ghosts_collide (w : World σ μ) (color : Color) :
    (collide w).1.ghosts.get color = (w.ghosts.get color).afterCheck w.player color := by
  obtain ⟨_, _, h⟩ := collide_frame w
  rw [h, Roster.get_ofFn]

@[simp] theorem player_collide (w : World σ μ) : (collide w).1.player = w.player := by
  obtain ⟨_, _, h⟩ := collide_frame w
  rw [h]

@[simp] theorem maze_collide (w : World σ μ) : (collide w).1.maze = w.maze := by
  obtain ⟨_, _, h⟩ := collide_frame w
  rw [h]

@[simp] theorem config_collide (w : World σ μ) : (collide w).1.config = w.config := by
  obtain ⟨_, _, h⟩ := collide_frame w
  rw [h]

theorem meet_keeps_outcome (color : Color) (o : Outcome) :
    (meet (σ := σ) (μ := μ) color).Keeps (·.outcome = some o) := by
  intro w decided
  rcases meet_cases w color with ⟨_, h⟩ | ⟨_, _, h⟩ | ⟨_, _, _, h⟩ | ⟨_, _, _, h⟩ <;> rw [h]
  · exact decided
  · exact decided
  · exact decided
  · simp [decideOutcome, decided]

theorem collide_keeps_outcome (o : Outcome) :
    (collide (σ := σ) (μ := μ)).Keeps (·.outcome = some o) :=
  .forEach (fun color => meet_keeps_outcome color o) _

/-! ## The events of a check -/

theorem touches_before {w v : World σ μ} {color : Color} {before : List Color}
    (new : color ∉ before) (hv : (Phase.forEach meet before w).1 = v) :
    (v.Touches color ↔ w.Touches color) ∧ v.ghosts.get color = w.ghosts.get color ∧
      v.config = w.config := by
  obtain ⟨score, outcome, h⟩ := forEach_meet_frame w before
  obtain rfl := h.symm.trans hv
  have ghost : (w.checked before).get color = w.ghosts.get color := by
    rw [checked, Roster.get_ofFn, if_neg new]
  refine ⟨?_, ghost, rfl⟩
  rw [Touches, Touches, ghost]

theorem mem_collide {w : World σ μ} {e : Event} (he : e ∈ (collide w).2) :
    ∃ color, w.Touches color ∧
      (((w.ghosts.get color).IsFrightened ∧
          e = .ghostEaten color w.config.ghostEatPoints.toNat) ∨
        (¬ (w.ghosts.get color).IsFrightened ∧ e = .playerCaught color)) := by
  obtain ⟨before, color, after, split, he⟩ := Phase.mem_forEach he
  have new : color ∉ before := by
    intro old
    have twice := Color.nodup_all
    rw [split, List.nodup_append] at twice
    exact twice.2.2 color old color List.mem_cons_self rfl
  obtain ⟨touches, ghost, config⟩ := touches_before (w := w) new rfl
  refine ⟨color, ?_⟩
  rw [← touches, ← ghost, ← config]
  rcases meet_cases (Phase.forEach meet before w).1 color with ⟨_, h⟩ | ⟨ht, hf, h⟩ | ⟨_, _, _, h⟩ |
    ⟨ht, hf, _, h⟩ <;> rw [h] at he
  · simp at he
  · exact ⟨ht, .inl ⟨hf, List.mem_singleton.mp he⟩⟩
  · simp at he
  · exact ⟨ht, .inr ⟨hf, List.mem_singleton.mp he⟩⟩

theorem touches_of_ghostEaten_mem {w : World σ μ} {color : Color} {points : Nat}
    (he : .ghostEaten color points ∈ (collide w).2) :
    w.Touches color ∧ (w.ghosts.get color).IsFrightened := by
  obtain ⟨c, touches, ⟨frightened, event⟩ | ⟨_, event⟩⟩ := mem_collide he
  · obtain ⟨rfl, _⟩ := Event.ghostEaten.inj event
    exact ⟨touches, frightened⟩
  · exact absurd event (by simp)

theorem touches_of_playerCaught_mem {w : World σ μ} {color : Color}
    (he : .playerCaught color ∈ (collide w).2) :
    w.Touches color ∧ ¬ (w.ghosts.get color).IsFrightened := by
  obtain ⟨c, touches, ⟨_, event⟩ | ⟨calm, event⟩⟩ := mem_collide he
  · exact absurd event (by simp)
  · obtain rfl := Event.playerCaught.inj event
    exact ⟨touches, calm⟩

theorem collide_split (color : Color) : ∃ before after, color ∉ before ∧
    collide (σ := σ) (μ := μ) = (Phase.forEach meet before).andThen
      ((meet color).andThen (Phase.forEach meet after)) := by
  obtain ⟨before, after, split, new⟩ := List.eq_append_cons_of_mem (Color.mem_all color)
  refine ⟨before, after, new, ?_⟩
  rw [collide, split, Phase.forEach_append, Phase.forEach_cons]

theorem collide_contact {w : World σ μ} {color : Color} (h : w.Touches color) :
    (∃ points, .ghostEaten color points ∈ (collide w).2) ∨ .playerCaught color ∈ (collide w).2 ∨
      (collide w).1.outcome = some .lost := by
  obtain ⟨before, after, new, split⟩ := collide_split (σ := σ) (μ := μ) color
  have touches := (touches_before (w := w) new rfl).1.mpr h
  have keeps := Phase.Keeps.forEach (meet_keeps_outcome (σ := σ) (μ := μ) · .lost) after
  rw [split]
  simp only [Phase.snd_andThen, Phase.fst_andThen, List.mem_append]
  rcases meet_cases (Phase.forEach meet before w).1 color with ⟨apart, _⟩ | ⟨_, _, h⟩ |
    ⟨_, _, lost, h⟩ | ⟨_, _, _, h⟩
  · exact absurd touches apart
  · exact .inl ⟨_, .inr (.inl (by rw [h]; exact List.mem_singleton_self _))⟩
  · exact .inr (.inr (keeps _ (by rw [h]; exact lost)))
  · exact .inr (.inl (.inr (.inl (by rw [h]; exact List.mem_singleton_self _))))

/-- A ghost that is not frightened decides the game on the cell of the player. -/
theorem outcome_collide_ne_none {w : World σ μ} {color : Color} (h : w.Touches color)
    (calm : ¬ (w.ghosts.get color).IsFrightened) : (collide w).1.outcome ≠ none := by
  obtain ⟨before, after, new, split⟩ := collide_split (σ := σ) (μ := μ) color
  obtain ⟨touches, ghost, _⟩ := touches_before (w := w) new rfl
  have decided : ∃ o, (meet color (Phase.forEach meet before w).1).1.outcome = some o := by
    rcases meet_cases (Phase.forEach meet before w).1 color with ⟨apart, _⟩ | ⟨_, hf, _⟩ |
      ⟨_, _, lost, h⟩ | ⟨_, _, _, h⟩
    · exact absurd (touches.mpr ‹_›) apart
    · exact absurd (ghost ▸ hf) calm
    · exact ⟨.lost, by rw [h]; exact lost⟩
    · rw [h]
      cases ho : (Phase.forEach meet before w).1.outcome with
      | none => exact ⟨.lost, by simp [decideOutcome, ho]⟩
      | some o => exact ⟨o, by simp [decideOutcome, ho]⟩
  obtain ⟨o, decided⟩ := decided
  have kept := Phase.Keeps.forEach (meet_keeps_outcome (σ := σ) (μ := μ) · o) after _ decided
  rw [split, Phase.fst_andThen, Phase.fst_andThen, kept]
  exact Option.some_ne_none o

end World

end MazeChase
