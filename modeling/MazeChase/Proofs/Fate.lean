import MazeChase.Proofs.Account
import MazeChase.Proofs.GhostShape
import MazeChase.Proofs.Update

/-!
# Whether a ghost is eaten in an update

From its plan to its move, and in the last check, one of two things becomes of a ghost. Either the
update tells that it was eaten, and it is sent home, or the update does not, and the ghost makes the
move that it planned. Only its timers depend on what else happens.

* `Ghost.SentHome`, `Ghost.BackHome`, `Ghost.SameWay`: what the ghost may be;
* `World.Fate`: the account of one ghost; `World.makeQueuedMove_fate`, `World.collide_fate`;
* **`World.ghost_update_of_not_eaten`**: a ghost that is not told to be eaten moves as it planned;
  `World.not_eaten_of_still`: one that stays apart from a player who does not move;
* **`World.ghost_update_of_eaten`**: one that is told to be eaten is home, or on its way.
-/

set_option autoImplicit false

namespace MazeChase

theorem Color.not_isOffBoard_house (color : Color) : ¬ color.house.IsOffBoard := by
  cases color <;> decide

namespace Ghost

/-- The ghost was eaten and appears at home with its next move. -/
structure SentHome (color : Color) (g : Ghost) : Prop where
  location : g.location = .offBoard
  next : g.next = color.house
  spawning : g.spawning = true
  eaten : g.eaten = true

/-- The ghost has come back and is about to leave its home. -/
structure BackHome (color : Color) (g : Ghost) : Prop where
  present : g.Present
  location : g.location = color.house
  spawning : g.spawning = true
  fright : g.fright = 0

/-- The ghosts differ in their timers at most. -/
def SameWay (g g' : Ghost) : Prop := ∃ fright trap, g' = { g with fright := fright, trap := trap }

variable {color : Color} {g g' g'' : Ghost}

theorem sentHome_respawn (g : Ghost) (color : Color) : (g.respawn color).SentHome color :=
  ⟨rfl, rfl, rfl, rfl⟩

theorem SameWay.refl (g : Ghost) : g.SameWay g := ⟨g.fright, g.trap, rfl⟩

theorem SameWay.frighten (g : Ghost) (cycles : Nat) : g.SameWay (g.frighten cycles) :=
  ⟨_, _, rfl⟩

theorem SameWay.trans (h : g.SameWay g') (h' : g'.SameWay g'') : g.SameWay g'' := by
  obtain ⟨_, _, rfl⟩ := h
  obtain ⟨fright, trap, rfl⟩ := h'
  exact ⟨fright, trap, rfl⟩

theorem SameWay.update (h : g.SameWay g') : g.update.SameWay g'.update := by
  obtain ⟨_, _, rfl⟩ := h
  exact ⟨_, _, rfl⟩

theorem SentHome.sameWay (h : g.SentHome color) (same : g.SameWay g') : g'.SentHome color := by
  obtain ⟨_, _, rfl⟩ := same
  exact ⟨h.location, h.next, h.spawning, h.eaten⟩

theorem SentHome.update (h : g.SentHome color) : g.update.BackHome color where
  present := by
    refine ⟨?_, rfl, rfl⟩
    rw [Ghost.update, h.next]
    exact color.not_isOffBoard_house
  location := h.next
  spawning := by
    rw [Ghost.update, h.spawning, h.location]
    rfl
  fright := if_pos h.eaten

theorem BackHome.afterCheck (h : g.BackHome color) (player : Location) :
    g.afterCheck player color = g := by
  refine if_neg ?_
  rintro ⟨_, _, frightened⟩
  rw [IsFrightened, h.fright] at frightened
  exact absurd frightened (Nat.lt_irrefl 0)

end Ghost

namespace World

variable {σ μ : Type}

theorem ghostEaten_mem_collide {w : World σ μ} {color : Color} (touches : w.Touches color)
    (frightened : (w.ghosts.get color).IsFrightened) :
    ∃ points, .ghostEaten color points ∈ (collide w).2 := by
  obtain ⟨before, after, new, split⟩ := collide_split (σ := σ) (μ := μ) color
  obtain ⟨touches_iff, ghost, _⟩ := touches_before (w := w) new rfl
  rw [split]
  simp only [Phase.snd_andThen, List.mem_append]
  rcases meet_cases (Phase.forEach meet before w).1 color with ⟨apart, _⟩ | ⟨_, _, h⟩ |
    ⟨_, calm, _⟩ | ⟨_, calm, _⟩
  · exact absurd (touches_iff.mpr touches) apart
  · exact ⟨_, .inr (.inl (by rw [h]; exact List.mem_singleton_self _))⟩
  · exact absurd (ghost ▸ frightened) calm
  · exact absurd (ghost ▸ frightened) calm

/-- **The account of one ghost** between its plan and its move: it is told to be eaten and sent
home, or it is not and keeps all but its timers. -/
def Fate (color : Color) (w : World σ μ) (told : List Event) (v : World σ μ) : Prop :=
  ((∃ points, .ghostEaten color points ∈ told) ∧ (v.ghosts.get color).SentHome color) ∨
    ((∀ points, .ghostEaten color points ∉ told) ∧
      (w.ghosts.get color).SameWay (v.ghosts.get color))

theorem Fate.spared {color : Color} {w v : World σ μ} {told : List Event}
    (none : ∀ e ∈ told, e.topic ≠ .contact)
    (same : (w.ghosts.get color).SameWay (v.ghosts.get color)) : Fate color w told v :=
  .inr ⟨fun _ eaten => none _ eaten rfl, same⟩

theorem fate_account (color : Color) : Phase.Account (Fate (σ := σ) (μ := μ) color) where
  nil := fun w => .spared (by simp) (.refl _)
  append := by
    rintro a b c es fs first (⟨⟨points, eaten⟩, home⟩ | ⟨spared', same'⟩)
    · exact .inl ⟨⟨points, List.mem_append_right _ eaten⟩, home⟩
    rcases first with ⟨⟨points, eaten⟩, home⟩ | ⟨spared, same⟩
    · exact .inl ⟨⟨points, List.mem_append_left _ eaten⟩, home.sameWay same'⟩
    · refine .inr ⟨fun points told => ?_, same.trans same'⟩
      rcases List.mem_append.mp told with told | told
      · exact spared points told
      · exact spared' points told

theorem collide_fate (color : Color) : (collide (σ := σ) (μ := μ)).Follows (Fate color) := by
  intro w
  by_cases met : (w.ghosts.get color).location.Meets w.player ∧
      (w.ghosts.get color).eaten = false ∧ (w.ghosts.get color).IsFrightened
  · refine .inl ⟨ghostEaten_mem_collide ⟨met.1, met.2.1⟩ met.2.2, ?_⟩
    rw [get_ghosts_collide, Ghost.afterCheck, if_pos met]
    exact Ghost.sentHome_respawn _ color
  · refine .inr ⟨fun points told => met ?_, ?_⟩
    · obtain ⟨touches, frightened⟩ := touches_of_ghostEaten_mem told
      exact ⟨touches.1, touches.2, frightened⟩
    · rw [get_ghosts_collide, Ghost.afterCheck, if_neg met]
      exact .refl _

theorem enter_fate (color : Color) (w : World σ μ) : Fate color w (enter w).2 (enter w).1 := by
  refine .spared (fun e he => ?_) ?_
  · obtain ⟨told, meal, told_eq⟩ := snd_enter w
    rw [told_eq, List.mem_cons] at he
    rcases he with rfl | he
    · simp [Event.topic]
    · rw [meal e he]
      simp
  · obtain ⟨_, _, _, _, entered⟩ := enter_frame w
    rw [entered]
    simp only [ghostsAfterMeal]
    split
    · rw [Roster.get_map]
      exact .frighten _ _
    · exact .refl _

theorem makeQueuedMove_fate (color : Color) :
    (makeQueuedMove (σ := σ) (μ := μ)).Follows (Fate color) :=
  makeQueuedMove_follows (fate_account color) (collide_fate color)
    (fun w _ => .spared (by simp) (.refl (w.ghosts.get color)))
    (fun w => .spared (by simp [Event.topic]) (.refl (w.ghosts.get color)))
    (fun w _ => enter_fate color w)
    (fun w _ => .spared (by simp) (.refl (w.ghosts.get color)))

variable [RandomSource σ] [ModeSource μ]

/-- **A ghost that is not told to be eaten** moves as it planned. -/
theorem ghost_update_of_not_eaten {w : World σ μ} {color : Color}
    (spared : ∀ points, .ghostEaten color points ∉ (update w).2) :
    (w.polled.plan color).ghost.update.SameWay ((update w).1.ghosts.get color) := by
  simp only [update_apply, List.mem_append, not_or] at spared ⊢
  have ready : w.ready.ghosts.get color = (w.polled.plan color).ghost := by
    rw [World.ready, planned, Roster.get_ofFn]
  have moved : w.moved.ghosts.get color =
      ((makeQueuedMove w.ready).1.ghosts.get color).update := by
    rw [World.moved, Roster.get_map]
  rcases makeQueuedMove_fate color w.ready with ⟨⟨points, eaten⟩, _⟩ | ⟨_, before⟩
  · exact absurd eaten (spared points).1.2
  rcases collide_fate color w.moved with ⟨⟨points, eaten⟩, _⟩ | ⟨_, after⟩
  · exact absurd eaten (spared points).2
  rw [ready] at before
  rw [moved] at after
  exact before.update.trans after

theorem not_eaten_of_still {w : World σ μ} {color : Color} (still : w.queued = none)
    (apart : ¬ (w.polled.plan color).ghost.next.Meets w.player) (points : Nat) :
    .ghostEaten color points ∉ (update w).2 := by
  have moved : w.moved = { w.ready with ghosts := w.ready.ghosts.map Ghost.update } := by
    rw [World.moved, makeQueuedMove_of_none still]
  simp only [update_apply, makeQueuedMove_of_none still, List.append_nil, List.mem_append, not_or]
  refine ⟨fun plan => ?_, fun last => apart ?_⟩
  · exact absurd (planGhosts_tells w.polled _ plan) (by simp [Event.topic])
  · have meets := (touches_of_ghostEaten_mem last).1.1
    rw [moved, Roster.get_map, World.ready, planned, Roster.get_ofFn] at meets
    exact meets

/-- **A ghost that is told to be eaten** is back at home after the update or with the next one. -/
theorem ghost_update_of_eaten {w : World σ μ} {color : Color} {points : Nat}
    (eaten : .ghostEaten color points ∈ (update w).2) :
    ((update w).1.ghosts.get color).SentHome color ∨
      ((update w).1.ghosts.get color).BackHome color := by
  simp only [update_apply, List.mem_append] at eaten ⊢
  rcases eaten with (plan | move) | last
  · exact absurd (planGhosts_tells w.polled _ plan) (by simp [Event.topic])
  · rcases makeQueuedMove_fate color w.ready with ⟨_, home⟩ | ⟨spared, _⟩
    · have back : (w.moved.ghosts.get color).BackHome color := by
        rw [World.moved, Roster.get_map]
        exact home.update
      rw [get_ghosts_collide, back.afterCheck]
      exact .inr back
    · exact absurd move (spared points)
  · rcases collide_fate color w.moved with ⟨_, home⟩ | ⟨spared, _⟩
    · exact .inl home
    · exact absurd last (spared points)

end World

end MazeChase
