import Mathlib.Algebra.Order.Floor.Div
import MazeChase.Proofs.Session

/-!
# The onset of the chase

A session may begin the chase at any tick, but ghosts learn of it at the next update only, and no
game is decided before that. So all ticks after one update, up to and including the next one, are
as good.

* `State.chasing`, `State.heeding`: a session that has been told to chase; `State.apply_chasing`:
  what stays as it is; **`State.round_eq`**: a round switches to chase first, if it is time, and the
  rest of it does not know of that;
* `State.round_chasing`: a round without an update, before the switch and after it;
* `Astride`: two sessions that begin the chase at different ticks; `Astride.round`,
  `Astride.play`;
* **`chase_begins_at_update`**.
-/

set_option autoImplicit false

namespace MazeChase

theorem ModeSwitch.set_set (s : ModeSwitch) (mode : Mode) : (s.set mode).set mode = s.set mode :=
  if_pos (s.mode_set mode)

namespace World

variable {σ μ : Type}

theorem setMode_setMode (mode : Mode) (w : World σ μ) :
    (setMode mode (setMode mode w).1).1 = (setMode mode w).1 := by
  cases own : w.modes with
  | bundled switch =>
    rw [setMode_of_bundled own, setMode_of_bundled rfl, ModeSwitch.set_set]
  | external source =>
    have kept : (setMode mode w).1 = w := by rw [setMode, own]
    rw [kept, kept]

theorem setMode_tick (mode : Mode) (w : World σ μ) (tick : Nat) :
    (setMode mode { w with tick := tick }).1 = { (setMode mode w).1 with tick := tick } :=
  congrArg Prod.fst (setMode_ignores (f := ({ · with tick := tick })) (fun _ _ => rfl) mode w)

end World

namespace Session

variable {σ μ : Type}

namespace State

/-! ## The switch to chase -/

/-- The session when its world has been told to chase. -/
def chasing (s : State σ μ) : State σ μ := { s with world := (World.setMode .chase s.world).1 }

/-- The session when its world has been told to chase, if the tick `t` comes next. -/
def heeding (t : Nat) (s : State σ μ) : State σ μ := if t = s.world.tick then s.chasing else s

theorem chasing_chasing (s : State σ μ) : s.chasing.chasing = s.chasing :=
  congrArg (State.mk · s.moves s.tally) (World.setMode_setMode .chase s.world)

theorem apply_chasing {α : Type} (f : State σ μ → α)
    (blind : ∀ s modes, f { s with world := { s.world with modes := modes } } = f s)
    (s : State σ μ) : f s.chasing = f s := by
  obtain ⟨modes, set⟩ := World.setMode_frame .chase s.world
  rw [chasing, set]
  exact blind s modes

theorem tick_chasing (s : State σ μ) : s.chasing.world.tick = s.world.tick :=
  apply_chasing (·.world.tick) (fun _ _ => rfl) s

theorem updateDue_chasing (s : State σ μ) : s.chasing.world.updateDue = s.world.updateDue :=
  apply_chasing (·.world.updateDue) (fun _ _ => rfl) s

theorem summary_chasing (s : State σ μ) : s.chasing.summary = s.summary :=
  apply_chasing summary (fun _ _ => rfl) s

theorem dueMove_chasing (s : State σ μ) : s.chasing.dueMove = s.dueMove :=
  apply_chasing dueMove (fun _ _ => rfl) s

theorem movesLeft_chasing (s : State σ μ) : s.chasing.movesLeft = s.movesLeft :=
  apply_chasing movesLeft (fun _ _ => rfl) s

/-! ## Rounds -/

theorem foldl_record_setMode (w : World σ μ) (t : Tally) :
    (World.setMode .chase w).2.foldl Tally.record t = t := by
  cases own : w.modes with
  | bundled switch =>
    rw [World.setMode_of_bundled own]
    dsimp only
    split <;> rfl
  | external source =>
    rw [World.setMode, own]
    rfl

variable [RandomSource σ] [ModeSource μ]

theorem round_eq (s : State σ μ) (o : Options) (t : Nat) : s.round { o with chaseAt := some t } =
    (s.heeding t).round { o with chaseAt := none } := by
  rw [heeding]
  by_cases now : t = s.world.tick
  · have commands : s.commands { o with chaseAt := some t } =
        .setMode .chase :: s.chasing.commands { o with chaseAt := none } := by
      simp only [State.commands, if_pos (congrArg some now), dueMove_chasing, reduceCtorEq,
        if_false, List.nil_append, List.cons_append]
    have told : (World.apply (.setMode .chase) s.world).2.foldl Tally.record s.tally = s.tally :=
      foldl_record_setMode s.world s.tally
    rw [if_pos now, round, commands, World.run_cons, round, movesLeft_chasing]
    simp only [List.foldl_append, told]
    rfl
  · have commands : s.commands { o with chaseAt := some t } =
        s.commands { o with chaseAt := none } := by
      simp only [State.commands, Option.some.injEq, if_neg now, reduceCtorEq, if_false]
    rw [if_neg now, round, round, commands]

theorem tick_round {s : State σ μ} (o : Options) (shown : s.world.tick < maxTick) :
    (s.round o).world.tick = s.world.tick + 1 := by
  have one := s.count_commands o
  have clock : (World.run (s.commands o) s.world).1.tick =
      s.world.tick + (s.commands o).count .tick := World.tick_run_of_le (by omega)
  exact one ▸ clock

theorem round_of_late {s : State σ μ} (late : s.world.updateDue = false) {o : Options}
    (never : o.chaseAt = none) : s.round o =
      { s with world := { s.world with tick := min (s.world.tick + 1) maxTick } } := by
  have commands : s.commands o = [.tick] := by
    rw [State.commands, never, dueMove, late]
    rfl
  have left : s.movesLeft = s.moves := by
    rw [movesLeft, late, if_neg Bool.false_ne_true]
  rw [round, commands, left, World.run_singleton, World.apply, World.advance_of_not_due late]
  rfl

/-- The switch can be set before a round without an update or after it. -/
theorem round_chasing {s : State σ μ} (late : s.world.updateDue = false) {o : Options}
    (never : o.chaseAt = none) : s.chasing.round o = (s.round o).chasing := by
  have late' : s.chasing.world.updateDue = false := s.updateDue_chasing.trans late
  rw [round_of_late late' never, round_of_late late never, tick_chasing]
  exact congrArg (State.mk · s.moves s.tally) (World.setMode_tick .chase s.world _).symm

end State

/-! ## Two sessions -/

variable [RandomSource σ] [ModeSource μ]

/-- Two sessions, of which the first one begins the chase before the tick `t`, and the second one
before the tick `u`. They are in the same state, except that from `t` on and up to `u` the first
one has been told to chase already. -/
inductive Astride (t u : Nat) : State σ μ → State σ μ → Prop
  | same {s : State σ μ} (apart : s.world.tick ≤ t ∨ u < s.world.tick) : Astride t u s s
  | between {s : State σ μ} (begun : t ≤ s.world.tick) (due : s.world.tick ≤ u) :
    Astride t u s.chasing s

namespace Astride

variable {t u p : Nat} {r s : State σ μ}

omit [RandomSource σ] [ModeSource μ] in
theorem summary (h : Astride t u r s) : r.summary = s.summary := by
  cases h with
  | same => rfl
  | between => exact s.summary_chasing

omit [RandomSource σ] [ModeSource μ] in
theorem outcome (h : Astride t u r s) : r.world.outcome = s.world.outcome :=
  congrArg Summary.outcome h.summary

theorem round (h : Astride t u r s) (order : t ≤ u) (shown : s.world.tick < maxTick)
    (late : t ≤ s.world.tick → s.world.tick < u → s.world.updateDue = false) (o : Options) :
    Astride t u (r.round { o with chaseAt := some t }) (s.round { o with chaseAt := some u }) := by
  rw [State.round_eq, State.round_eq]
  generalize quiet : { o with chaseAt := none } = q
  have never : q.chaseAt = none := by rw [← quiet]
  have clock : (s.round q).world.tick = s.world.tick + 1 := State.tick_round q shown
  have clock' : (s.chasing.round q).world.tick = s.world.tick + 1 := by
    have shown' : s.chasing.world.tick < maxTick := s.tick_chasing.trans_lt shown
    rw [State.tick_round q shown', s.tick_chasing]
  cases h with
  | same apart =>
    by_cases begun : t = r.world.tick
    · by_cases due : u = r.world.tick
      · rw [State.heeding, State.heeding, if_pos begun, if_pos due]
        exact .same (.inr (by omega))
      · -- The first session goes ahead, in a round without an update.
        rw [State.heeding, State.heeding, if_pos begun, if_neg due,
          State.round_chasing (late begun.le (by omega)) never]
        exact .between (by omega) (by omega)
    · have due : u ≠ r.world.tick := by omega
      rw [State.heeding, State.heeding, if_neg begun, if_neg due]
      exact .same (by omega)
  | between begun due =>
    have still : s.chasing.heeding t = s.chasing := by
      rw [State.heeding]
      split
      · exact s.chasing_chasing
      · rfl
    rw [still]
    by_cases now : u = s.world.tick
    · -- The second session has caught up, in time for the update.
      rw [State.heeding, if_pos now]
      exact .same (.inr (by omega))
    · rw [State.heeding, if_neg now, State.round_chasing (late begun (by omega)) never]
      exact .between (by omega) (by omega)

/-- **Several rounds** come to the same summary. -/
theorem play (h : Astride t u r s) (order : t ≤ u)
    (period : s.world.config.updatePeriod.toNat = p) (late : ∀ k, t ≤ k → k < u → ¬ p ∣ k)
    (o : Options) {n : Nat} (few : s.world.tick + n ≤ maxTick) :
    (r.play { o with chaseAt := some t } n).summary =
      (s.play { o with chaseAt := some u } n).summary := by
  induction n generalizing r s with
  | zero => exact h.summary
  | succ n ih =>
    have quiet : t ≤ s.world.tick → s.world.tick < u → s.world.updateDue = false := by
      intro begun due
      rw [World.updateDue, period, decide_eq_false_iff_not, ← Nat.dvd_iff_mod_eq_zero]
      exact late _ begun due
    have next := h.round order (by omega) quiet o
    have clock : (s.round { o with chaseAt := some u }).world.tick = s.world.tick + 1 :=
      State.tick_round _ (by omega)
    have rules : (s.round { o with chaseAt := some u }).world.config = s.world.config :=
      (World.rules_run _ _).1
    rw [State.play, State.play, next.outcome]
    split
    · exact next.summary
    · exact ih next (rules ▸ period) (by omega)

end Astride

/-- A session may as well begin the chase at the next update. -/
theorem simulate_chaseAt {w : World σ μ} (fresh : w.tick = 0)
    (pos : 0 < w.config.updatePeriod.toNat) (moves : List Direction) (o : Options)
    (short : o.ticks ≤ maxTick) (t : Nat) :
    let p := w.config.updatePeriod.toNat
    simulate w moves { o with chaseAt := some t } =
      simulate w moves { o with chaseAt := some (p * (t ⌈/⌉ p)) } := by
  intro p
  have order : t ≤ p * (t ⌈/⌉ p) := (ceilDiv_le_iff_le_mul pos).mp le_rfl
  have late (k : Nat) (begun : t ≤ k) (before : k < p * (t ⌈/⌉ p)) : ¬ p ∣ k := by
    rintro ⟨m, rfl⟩
    have enough : p * (t ⌈/⌉ p) ≤ p * m :=
      Nat.mul_le_mul_left p ((ceilDiv_le_iff_le_mul pos).mpr begun)
    exact absurd before (Nat.not_lt.mpr enough)
  have start : Astride t (p * (t ⌈/⌉ p)) (State.start w moves) (State.start w moves) :=
    .same (.inl (fresh ▸ Nat.zero_le t))
  have few : w.tick + o.ticks ≤ maxTick := by rwa [fresh, Nat.zero_add]
  exact start.play order rfl late o few

/-- **The chase begins at an update**, so two ticks that are rounded up to the same one come to the
same summary. -/
theorem chase_begins_at_update {config : Config} {maze : Maze} {modes : ModeControl μ}
    {sources : Roster σ} {w : World σ μ} (new : World.new? config maze modes sources = .ok w)
    (moves : List Direction) (o : Options) (short : o.ticks < UInt64.size) {t₁ t₂ : Nat}
    (same : t₁ ⌈/⌉ config.updatePeriod.toNat = t₂ ⌈/⌉ config.updatePeriod.toNat) :
    simulate w moves { o with chaseAt := some t₁ } =
      simulate w moves { o with chaseAt := some t₂ } := by
  obtain ⟨valid, start_eq⟩ := World.new?_eq_ok_iff.mp new
  have rules : w.config = config := by rw [start_eq, World.start]
  have fresh : w.tick = 0 := by rw [start_eq, World.start]
  have pos : 0 < w.config.updatePeriod.toNat := rules ▸ valid.1
  have few : o.ticks ≤ maxTick := Nat.le_sub_one_of_lt short
  rw [simulate_chaseAt fresh pos moves o few t₁, simulate_chaseAt fresh pos moves o few t₂, rules,
    same]

/-- Ticks 1 and 3 begin the chase at one update, and tick 4 at a later one. -/
theorem chase_begins_at_update_onePellet :
    let config : Config := { updatePeriod := 3 }
    let maze : Maze := ⟨.empty, Pellets.empty.add ⟨1, 1⟩⟩
    let sources : Roster Listed := .ofFn fun _ => ⟨[]⟩
    let w : World Listed Empty := World.start config maze (.bundled default) sources
    let session (t : Nat) := simulate w [] ⟨90, some t, true⟩
    (World.new? config maze (.bundled default) sources = .ok w ∧ 90 < UInt64.size ∧
      1 ⌈/⌉ config.updatePeriod.toNat = 3 ⌈/⌉ config.updatePeriod.toNat) ∧
    session 1 = session 3 ∧ (session 1).ticks = 43 ∧ (session 1).outcome = some .lost ∧
    (session 4).ticks = 49 := by
  intro config maze sources w session
  have new : World.new? config maze (.bundled default) sources = .ok w :=
    World.new?_eq_ok_iff.mpr ⟨by decide, rfl⟩
  have short : 90 < UInt64.size := by decide
  have same : 1 ⌈/⌉ config.updatePeriod.toNat = 3 ⌈/⌉ config.updatePeriod.toNat := by decide
  have equal : session 1 = session 3 :=
    chase_begins_at_update new [] ⟨90, none, true⟩ short same
  obtain ⟨ticks, lost⟩ : (session 1).ticks = 43 ∧ (session 1).outcome = some .lost := by
    decide +kernel
  exact ⟨⟨new, short, same⟩, equal, ticks, lost, by decide +kernel⟩

end Session

end MazeChase
