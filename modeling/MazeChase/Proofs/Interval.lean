import MazeChase.Proofs.Fright
import MazeChase.Proofs.GhostLaw

/-!
# From one update to the next

Commands that bring about no update change the queued move, the switch and the clock at most, and
tell of the clock and of the switch only. So every history falls into two parts: what led to the
last update, and what has been asked for since.

* `World.tick_run_of_le`: the clock counts the ticks;
* `World.Idle`: commands that bring about no update, with what they change (`Idle.frame`) and tell
  (`Idle.tells`); `World.idle_ticks`: ticks on the way to the next update;
* `World.exists_update_of_period`: one update in each period;
* `World.SinceUpdate`, **`World.exists_sinceUpdate`**: the last update of a history, if it has one.
-/

set_option autoImplicit false

namespace MazeChase

theorem Event.filter_topic_eq_nil {told : List Event} {topic other : Topic}
    (these : ∀ e ∈ told, e.topic = topic) (apart : topic ≠ other) :
    told.filter (·.topic = other) = [] := by
  rw [List.filter_eq_nil_iff]
  intro e he h
  exact apart ((these e he).symm.trans (of_decide_eq_true h))

theorem exists_only_multiple {p : Nat} (pos : 0 < p) (n : Nat) :
    ∃ j < p, ∀ i < p, (n + i) % p = 0 ↔ i = j := by
  have rest := Nat.mod_lt n pos
  have multiple : ∀ i < p, (n + i) % p = 0 ↔ n % p + i = 0 ∨ n % p + i = p := by
    intro i hi
    rw [← Nat.mod_add_mod]
    rcases Nat.lt_or_ge (n % p + i) p with lt | ge
    · rw [Nat.mod_eq_of_lt lt]
      omega
    · rw [Nat.mod_eq_sub_mod ge, Nat.mod_eq_of_lt (by omega)]
      omega
  by_cases zero : n % p = 0
  · exact ⟨0, pos, fun i hi => (multiple i hi).trans (by omega)⟩
  · exact ⟨p - n % p, by omega, fun i hi => (multiple i hi).trans (by omega)⟩

namespace World

variable {σ μ : Type} [RandomSource σ] [ModeSource μ]

/-! ## The clock -/

theorem tick_run_of_le {commands : List Command} {w : World σ μ}
    (few : w.tick + commands.count .tick ≤ maxTick) :
    (run commands w).1.tick = w.tick + commands.count .tick := by
  induction commands using List.reverseRecOn with
  | nil => rfl
  | append_singleton commands command ih =>
    rw [List.count_append] at few ⊢
    have earlier := ih (by omega)
    rw [run_concat, tick_apply, earlier]
    by_cases tick : command = .tick
    · rw [tick, List.count_singleton_self] at few ⊢
      rw [if_pos rfl, Nat.min_eq_left (by omega), Nat.add_assoc]
    · rw [if_neg tick, List.count_singleton, if_neg (by simpa using tick), Nat.add_zero]

theorem filter_clock_apply_tick (w : World σ μ) :
    (apply .tick w).2.filter (·.topic = .clock) = [.tickAdvanced w.tick w.updateDue] := by
  rw [apply]
  cases due : w.updateDue with
  | false =>
    rw [advance_of_not_due due]
    rfl
  | true =>
    have rest : (update w).2.filter (·.topic = .clock) = [] :=
      List.filter_eq_nil_iff.mpr fun e he h => topic_ne_clock_of_mem_update he (of_decide_eq_true h)
    rw [advance_of_due due]
    exact congrArg (.tickAdvanced w.tick true :: ·) rest

/-! ## Commands without an update -/

/-- The commands bring about no update. -/
def Idle (commands : List Command) (w : World σ μ) : Prop :=
  ∀ e ∈ (run commands w).2, e.isUpdate = false

instance (commands : List Command) (w : World σ μ) : Decidable (Idle commands w) := by
  unfold Idle
  infer_instance

theorem idle_nil (w : World σ μ) : Idle [] w := fun _ he => absurd he List.not_mem_nil

theorem exists_isUpdate_apply {command : Command} {w : World σ μ} :
    (∃ e ∈ (apply command w).2, e.isUpdate = true) ↔ command = .tick ∧ w.updateDue = true := by
  constructor
  · rintro ⟨e, he, update⟩
    by_contra idle
    exact Bool.false_ne_true (((apply_idle idle).2 e he).1.symm.trans update)
  · rintro ⟨rfl, due⟩
    exact ⟨_, mem_apply_tick.mpr (.inl rfl), due⟩

theorem idle_append {commands more : List Command} {w : World σ μ} :
    Idle (commands ++ more) w ↔ Idle commands w ∧ Idle more (run commands w).1 := by
  simp only [Idle, run_append, List.mem_append, or_imp, forall_and]

theorem idle_singleton {command : Command} {w : World σ μ} :
    Idle [command] w ↔ ¬ (command = .tick ∧ w.updateDue = true) := by
  rw [← exists_isUpdate_apply, Idle, run_singleton]
  simp only [not_exists, not_and, Bool.not_eq_true]

theorem Idle.frame {commands : List Command} {w : World σ μ} (idle : Idle commands w) :
    ∃ queued modes tick,
      (run commands w).1 = { w with queued := queued, modes := modes, tick := tick } := by
  induction commands using List.reverseRecOn with
  | nil => exact ⟨w.queued, w.modes, w.tick, rfl⟩
  | append_singleton commands command ih =>
    obtain ⟨earlier, last⟩ := idle_append.mp idle
    obtain ⟨_, _, _, before⟩ := ih earlier
    obtain ⟨queued, modes, tick, after⟩ := apply_idle_frame (idle_singleton.mp last)
    exact ⟨queued, modes, tick, by rw [run_concat, after, before]⟩

theorem apply_idle_tells {command : Command} {w : World σ μ}
    (idle : ¬ (command = .tick ∧ w.updateDue = true)) :
    ∀ e ∈ (apply command w).2, e.topic = .clock ∨ e.topic = .mode := by
  intro e he
  cases command with
  | tick =>
    have late : w.updateDue = false := by simpa using idle
    rw [apply, advance_of_not_due late] at he
    obtain rfl := List.mem_singleton.mp he
    exact .inl rfl
  | movePlayer d => exact absurd he List.not_mem_nil
  | setMode mode => exact .inr (setMode_tells mode w e he)

theorem Idle.tells {commands : List Command} {w : World σ μ} (idle : Idle commands w) :
    ∀ e ∈ (run commands w).2, e.topic = .clock ∨ e.topic = .mode := by
  intro e he
  obtain ⟨before, command, ⟨after, rfl⟩, told⟩ := mem_run.mp he
  have last : Idle [command] (run before w).1 := (idle_append.mp (idle_append.mp idle).1).2
  exact apply_idle_tells (idle_singleton.mp last) e told

theorem idle_ticks {w : World σ μ} {n : Nat} (few : w.tick + n ≤ maxTick)
    (late : ∀ i < n, (w.tick + i) % w.config.updatePeriod.toNat ≠ 0) :
    Idle (.replicate n .tick) w ∧
      (run (.replicate n .tick) w).1 = { w with tick := w.tick + n } := by
  induction n with
  | zero => exact ⟨idle_nil w, rfl⟩
  | succ n ih =>
    obtain ⟨idle, frame⟩ := ih (by omega) fun i hi => late i (by omega)
    have notDue : ({ w with tick := w.tick + n } : World σ μ).updateDue = false :=
      decide_eq_false (late n (Nat.lt_succ_self n))
    rw [List.replicate_succ', idle_append, idle_singleton, run_concat, frame, apply,
      advance_of_not_due notDue, notDue]
    have next : min (w.tick + n + 1) maxTick = w.tick + (n + 1) := Nat.min_eq_left few
    simp [idle, next]

/-- **A period of ticks** is one update, with ticks before and after it that are none. -/
theorem exists_update_of_period {w : World σ μ} {p : Nat}
    (period : w.config.updatePeriod.toNat = p) (pos : 0 < p) (few : w.tick + p ≤ maxTick) :
    ∃ before after,
      List.replicate p Command.tick = .replicate before .tick ++ .tick :: .replicate after .tick ∧
      let u : World σ μ := { w with tick := w.tick + before }
      Idle (.replicate before .tick) w ∧ (run (.replicate before .tick) w).1 = u ∧
      u.updateDue = true ∧
      let v := (apply .tick u).1
      Idle (.replicate after .tick) v ∧
      (run (.replicate after .tick) v).1 = { v with tick := w.tick + p } := by
  obtain ⟨j, hj, only⟩ := exists_only_multiple pos w.tick
  refine ⟨j, p - 1 - j, ?_, ?_⟩
  · rw [← List.replicate_succ, List.replicate_append_replicate]
    congr 1
    omega
  intro u
  obtain ⟨idle, world⟩ := idle_ticks (w := w) (n := j) (by omega) fun i hi =>
    period ▸ fun h => Nat.ne_of_lt hi ((only i (by omega)).mp h)
  have due : u.updateDue = true := decide_eq_true (period ▸ (only j hj).mpr rfl)
  refine ⟨idle, world, due, ?_⟩
  intro v
  have clock : v.tick = w.tick + j + 1 := by
    have shown : u.tick = w.tick + j := rfl
    rw [tick_apply, if_pos rfl, shown]
    exact Nat.min_eq_left (by omega)
  have config : v.config = w.config := by
    have rules := (rules_run [.tick] u).1
    rwa [run_singleton] at rules
  have last : v.tick + (p - 1 - j) = w.tick + p := by omega
  rw [← last]
  refine idle_ticks (by omega) fun i hi => ?_
  rw [config, period, clock, Nat.add_assoc, Nat.add_assoc]
  exact fun h => absurd ((only _ (by omega)).mp h) (by omega)

/-! ## The last update -/

/-- The commands are those up to the last update, and those since then that bring about none. If
there has been no update, they are all since the beginning. -/
structure SinceUpdate (w : World σ μ) (commands before since : List Command) : Prop where
  split : commands = before ++ since
  update : before = [] ∨ ∃ earlier, before = earlier ++ [.tick] ∧
    (run earlier w).1.updateDue = true
  idle : Idle since (run before w).1

/-- **Every history has a last update**, or none at all. -/
theorem exists_sinceUpdate (w : World σ μ) (commands : List Command) :
    ∃ before since, w.SinceUpdate commands before since := by
  induction commands using List.reverseRecOn with
  | nil => exact ⟨[], [], rfl, .inl rfl, idle_nil w⟩
  | append_singleton commands command ih =>
    by_cases update : command = .tick ∧ (run commands w).1.updateDue = true
    · obtain ⟨rfl, due⟩ := update
      exact ⟨commands ++ [.tick], [], (List.append_nil _).symm, .inr ⟨commands, rfl, due⟩,
        idle_nil _⟩
    · obtain ⟨before, since, rfl, last, idle⟩ := ih
      refine ⟨before, since ++ [command], List.append_assoc .., last, idle_append.mpr ⟨idle, ?_⟩⟩
      rw [run_append] at update
      exact idle_singleton.mpr update

theorem SinceUpdate.run_eq {w : World σ μ} {commands before since : List Command}
    (h : w.SinceUpdate commands before since) :
    (run commands w).1 = (run since (run before w).1).1 := by
  rw [h.split, run_append]

end World

end MazeChase
