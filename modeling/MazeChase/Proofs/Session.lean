import MazeChase.Proofs.Path
import MazeChase.Proofs.Tally

/-!
# Sessions

A session issues its commands round by round. As a round asks for a move only before an update, no
request is ever replaced by a later one, and none waits: each move of the script is made in the
round that asks for it.

* `State.told`, `State.course`: what a round tells, and the states from which the rounds of a
  session are played; `State.play_course`: where they lead;
* `State.round_moves`: the move of one round;
* `multiplesBelow`: how many updates there are before a round;
* `Progress`: what a session has done so far; `Progress.made`, **`Progress.round`**,
  `Progress.play`;
* **`script_executed`**.
-/

set_option autoImplicit false

namespace MazeChase

/-- The number of the multiples of `p` below a number. -/
def multiplesBelow (p k : Nat) : Nat := if p ∣ k then k / p else k / p + 1

theorem multiplesBelow_zero (p : Nat) : multiplesBelow p 0 = 0 := by simp [multiplesBelow]

theorem multiplesBelow_succ (p k : Nat) :
    multiplesBelow p (k + 1) = multiplesBelow p k + if p ∣ k then 1 else 0 := by
  unfold multiplesBelow
  rw [Nat.succ_div]
  split <;> split <;> rfl

theorem World.idle_of_notMem_tick {σ μ : Type} [RandomSource σ] [ModeSource μ]
    {commands : List Command} (still : .tick ∉ commands) (w : World σ μ) : Idle commands w := by
  intro e he
  obtain ⟨before, command, ⟨after, rfl⟩, told⟩ := mem_run.mp he
  by_contra update
  obtain ⟨rfl, _⟩ := exists_isUpdate_apply.mp ⟨e, told, Bool.not_eq_false _ ▸ update⟩
  exact still (by simp)

theorem World.executed?_moveTold {σ μ : Type} (w : World σ μ) (d : Direction) :
    (w.moveTold d).executed? = some d := by
  rw [moveTold]
  split <;> rfl

namespace Session

variable {σ μ : Type} [RandomSource σ] [ModeSource μ]

namespace State

/-- What the next round tells. -/
def told (s : State σ μ) (o : Options) : List Event := (World.run (s.commands o) s.world).2

/-- The states from which so many rounds are played, or fewer if the session stops at an outcome. -/
def course (o : Options) : Nat → State σ μ → List (State σ μ)
  | 0, _ => []
  | n + 1, s =>
    s :: if o.stopOnOutcome && (s.round o).world.outcome.isSome then [] else course o n (s.round o)

/-! ## One round -/

omit [RandomSource σ] [ModeSource μ] in
theorem exists_commands (s : State σ μ) (o : Options) : ∃ orders : List Command,
    s.commands o = orders ++ [.tick] ∧ .tick ∉ orders ∧
      (orders.filterMap Command.move?).getLast? = s.dueMove := by
  refine ⟨_, rfl, ?_, ?_⟩
  · cases s.dueMove <;> split <;> simp
  · cases s.dueMove <;> split <;> rfl

/-- **The move of a round** is the one that it asks for. -/
theorem round_moves (o : Options) {s : State σ μ} (empty : s.world.queued = none)
    (few : s.world.tick ≤ maxTick) :
    (s.told o).filterMap Event.executed? = s.dueMove.toList ∧
      (s.told o).countP Event.isUpdate = s.world.updateDue.toNat ∧
      (s.round o).world.queued = none := by
  obtain ⟨orders, commands, still, asked⟩ := s.exists_commands o
  have idle := World.idle_of_notMem_tick still s.world
  let v := (World.run orders s.world).1
  -- The tick finds in the queue what the round has asked for, and nothing from before.
  have queued : v.queued = s.dueMove := by rw [idle.queued, empty, Option.or_none, asked]
  have due : v.updateDue = s.world.updateDue := by
    have none : orders.count .tick = 0 := List.count_eq_zero.mpr still
    have clock : v.tick = s.world.tick := by
      rw [World.tick_run_of_le (by omega), none, Nat.add_zero]
    rw [World.updateDue, clock, (World.rules_run orders s.world).1, World.updateDue]
  have told : s.told o = (World.run orders s.world).2 ++ (World.apply .tick v).2 := by
    rw [State.told, commands, World.run_concat]
  have world : (s.round o).world = (World.apply .tick v).1 := by
    rw [round, commands, World.run_concat]
  have before : (World.run orders s.world).2.filterMap Event.executed? = [] := by
    rw [← Event.filterMap_filter_step Event.executed?_of_topic, idle.filter_step,
      List.filterMap_nil]
  have earlier : (World.run orders s.world).2.countP Event.isUpdate = 0 :=
    List.countP_eq_zero.mpr fun e he => Bool.not_eq_true _ ▸ idle e he
  rw [told, world, List.filterMap_append, List.countP_append, before, earlier, ← due,
    ← Event.filterMap_filter_step Event.executed?_of_topic]
  cases now : v.updateDue with
  | true =>
    obtain ⟨step, _, done⟩ := World.tick_move now
    rw [step, queued]
    refine ⟨?_, (Nat.zero_add _).trans (World.elapsed_tick now .red).2, done⟩
    cases s.dueMove with
    | none => rfl
    | some d => simp [World.executed?_moveTold]
  | false =>
    have quiet : World.Idle [.tick] v := World.idle_singleton.mpr (by simp [now])
    have none : s.dueMove = none := by rw [dueMove, ← due, now]; rfl
    have step := quiet.filter_step
    have after := quiet.queued
    have later : ∀ e ∈ (World.apply .tick v).2, e.isUpdate = false := by
      rw [← World.run_singleton]
      exact quiet
    rw [World.run_singleton] at step after
    rw [step, none, after, queued, none]
    exact ⟨rfl, (Nat.zero_add _).trans (List.countP_eq_zero.mpr fun e he =>
      Bool.not_eq_true _ ▸ later e he), rfl⟩

omit [RandomSource σ] [ModeSource μ] in
theorem count_commands (s : State σ μ) (o : Options) : (s.commands o).count .tick = 1 := by
  obtain ⟨orders, commands, still, _⟩ := s.exists_commands o
  rw [commands, List.count_append, List.count_eq_zero.mpr still, Nat.zero_add]
  rfl

theorem length_course_le (o : Options) (n : Nat) (s : State σ μ) : (s.course o n).length ≤ n := by
  induction n generalizing s with
  | zero => exact Nat.le_refl 0
  | succ n ih =>
    rw [course, List.length_cons]
    split
    · exact Nat.succ_le_succ (Nat.zero_le n)
    · exact Nat.succ_le_succ (ih _)

theorem length_course {o : Options} (stop : o.stopOnOutcome = false) (n : Nat) (s : State σ μ) :
    (s.course o n).length = n := by
  induction n generalizing s with
  | zero => rfl
  | succ n ih => simp [course, stop, ih]

end State

/-! ## All rounds -/

/-- What a session of a game has done before a round. The commands that it has issued have brought
its world about, and the events that they told are in its tally. Nothing is queued. For each update
a move of the script has been made, as long as there was one. -/
structure Progress (w : World σ μ) (moves : List Direction) (k : Nat) (issued : List Command)
    (told : List Event) (s : State σ μ) : Prop where
  run : World.run issued w = (s.world, told)
  clock : s.world.tick = k
  empty : s.world.queued = none
  updates : told.countP Event.isUpdate = multiplesBelow w.config.updatePeriod.toNat k
  executed : told.filterMap Event.executed? = moves.take (told.countP Event.isUpdate)
  left : s.moves = moves.drop (told.countP Event.isUpdate)
  tally : s.tally = told.foldl Tally.record .zero

namespace Progress

variable {w : World σ μ} {moves : List Direction} {k : Nat} {issued : List Command}
  {told : List Event} {s : State σ μ}

theorem start (clock : w.tick = 0) (empty : w.queued = none) :
    Progress w moves 0 [] [] (.start w moves) where
  run := rfl
  clock := clock
  empty := empty
  updates := (multiplesBelow_zero _).symm
  executed := rfl
  left := rfl
  tally := rfl

/-- The session and the clock of the game agree on which rounds are updates. -/
theorem updateDue (h : Progress w moves k issued told s) :
    s.world.updateDue = decide (w.config.updatePeriod.toNat ∣ k) := by
  have config : s.world.config = w.config := by
    have rules := (World.rules_run issued w).1
    rwa [h.run] at rules
  simp only [World.updateDue, config, h.clock, Nat.dvd_iff_mod_eq_zero]

theorem dueMove (h : Progress w moves k issued told s) : s.dueMove =
    if w.config.updatePeriod.toNat ∣ k then moves[told.countP Event.isUpdate]? else none := by
  rw [State.dueMove, h.updateDue, h.left, List.head?_drop]
  simp only [decide_eq_true_eq]

theorem movesLeft (h : Progress w moves k issued told s) : s.movesLeft = moves.drop
    (told.countP Event.isUpdate + if w.config.updatePeriod.toNat ∣ k then 1 else 0) := by
  rw [State.movesLeft, h.updateDue, h.left]
  by_cases due : w.config.updatePeriod.toNat ∣ k
  · simp [due]
  · simp [due]

/-- **One round** makes the move whose turn it is, if the round is an update. -/
theorem made (h : Progress w moves k issued told s) (few : k ≤ maxTick) (o : Options) :
    (s.told o).filterMap Event.executed? = if w.config.updatePeriod.toNat ∣ k then
      moves[told.countP Event.isUpdate]?.toList else [] := by
  have clock := h.clock
  rw [(s.round_moves o h.empty (by omega)).1, h.dueMove]
  split <;> rfl

theorem round (h : Progress w moves k issued told s) (few : k < maxTick) (o : Options) :
    Progress w moves (k + 1) (issued ++ s.commands o) (told ++ s.told o) (s.round o) := by
  have clock := h.clock
  obtain ⟨_, updates, done⟩ := s.round_moves o h.empty (by omega)
  have count : (told ++ s.told o).countP Event.isUpdate = told.countP Event.isUpdate +
      if w.config.updatePeriod.toNat ∣ k then 1 else 0 := by
    rw [List.countP_append, updates, h.updateDue]
    split <;> simp [*]
  refine ⟨?_, ?_, done, ?_, ?_, ?_, ?_⟩
  · rw [World.run_append, h.run]
    rfl
  · have ticks := s.count_commands o
    have next : (s.round o).world.tick = s.world.tick + (s.commands o).count .tick :=
      World.tick_run_of_le (by omega)
    rw [next, clock, ticks]
  · rw [count, multiplesBelow_succ, h.updates]
  · rw [count, List.filterMap_append, h.executed, h.made (by omega)]
    split
    · rw [List.take_add_one]
    · rw [Nat.add_zero, List.append_nil]
  · rw [count]
    exact h.movesLeft
  · rw [List.foldl_append, ← h.tally]
    rfl

/-- **Several rounds** are made one after the other. -/
theorem play (h : Progress w moves k issued told s) (o : Options) {n : Nat}
    (few : k + n ≤ maxTick) :
    let rounds := s.course o n
    Progress w moves (k + rounds.length) (issued ++ rounds.flatMap (·.commands o))
        (told ++ rounds.flatMap (·.told o)) (s.play o n) ∧
      ∀ i t, rounds[i]? = some t → ∃ issued told, Progress w moves (k + i) issued told t := by
  induction n generalizing k issued told s with
  | zero => simpa [State.course, State.play] using h
  | succ n ih =>
    have next := h.round (by omega) o
    rw [State.course, State.play]
    by_cases stop : (o.stopOnOutcome && (s.round o).world.outcome.isSome) = true
    · -- This round is the last one.
      rw [if_pos stop, if_pos stop]
      refine ⟨by simpa using next, fun i t found => ?_⟩
      cases i with
      | zero => exact ⟨_, _, Option.some.inj found ▸ h⟩
      | succ i => simp at found
    · -- The rounds after this one are those of the session that starts one round later.
      rw [if_neg stop, if_neg stop]
      obtain ⟨last, each⟩ := ih next (by omega)
      refine ⟨?_, fun i t found => ?_⟩
      · rw [List.length_cons, List.flatMap_cons, List.flatMap_cons, ← List.append_assoc,
          ← List.append_assoc, ← Nat.add_assoc, Nat.add_right_comm]
        exact last
      · cases i with
        | zero => exact ⟨_, _, Option.some.inj found ▸ h⟩
        | succ i =>
          obtain ⟨issued, told, earlier⟩ := each i t found
          rw [Nat.add_right_comm] at earlier
          exact ⟨issued, told, earlier⟩

end Progress

/-- **A session makes the moves of its script**, one at each update. It plays as many rounds as it
was asked for, and its summary is that of the world that its commands lead to. -/
theorem script_executed {rows : List String} {config : Config} {maze : Maze}
    {modes : ModeControl μ} {sources : Roster σ} {w : World σ μ}
    (drawn : Maze.ofRows rows = .ok maze) (new : World.new? config maze modes sources = .ok w)
    (moves : List Direction) (o : Options) (short : o.ticks < UInt64.size) :
    let rounds := (State.start w moves).course o o.ticks
    let log := rounds.flatMap (·.told o)
    let summary := simulate w moves o
    let period := config.updatePeriod.toNat
    (∀ k s, rounds[k]? = some s → s.world.tick = k ∧
      (s.world.updateDue = true ↔ k % period = 0) ∧
      (s.told o).filterMap Event.executed? =
        if k % period = 0 then moves[k / period]?.toList else []) ∧
    log.filterMap Event.executed? = moves.take (log.countP Event.isUpdate) ∧
    summary.ticks = rounds.length ∧ (o.stopOnOutcome = false → summary.ticks = o.ticks) ∧
    (∃ final, World.run (rounds.flatMap (·.commands o)) w = (final, log) ∧
      summary.score = final.score ∧ summary.pelletsRemaining = final.pellets.count ∧
      summary.outcome = final.outcome) ∧
    summary.tally.pellets.toNat + summary.pelletsRemaining = maze.pellets.count ∧
    summary.tally.ghosts.toNat ≤ 16 ∧ summary.tally.fruit.toNat ≤ 2 := by
  obtain ⟨valid, start_eq⟩ := World.new?_eq_ok_iff.mp new
  intro rounds log summary period
  have config_eq : w.config = config := by rw [start_eq, World.start]
  have first : Progress w moves 0 [] [] (.start w moves) :=
    .start (by rw [start_eq, World.start]) (by rw [start_eq, World.start])
  have few : 0 + o.ticks ≤ maxTick := by
    rw [Nat.zero_add]
    exact Nat.le_sub_one_of_lt short
  obtain ⟨last, each⟩ := first.play o few
  rw [Nat.zero_add, List.nil_append, List.nil_append] at last
  have tally : summary.tally = .of log := last.tally.trans (Tally.foldl_record log)
  have counted : maze.pellets.Counted := Maze.counted_of_ofRows drawn
  let issued := rounds.flatMap (·.commands o)
  have all : (World.run issued w).2 = log := congrArg Prod.snd last.run
  have final : (World.run issued w).1.pellets.count = summary.pelletsRemaining :=
    congrArg (·.1.pellets.count) last.run
  obtain ⟨pellets, ghosts, fruit⟩ := World.tally_run counted new issued
  rw [all, ← tally] at pellets ghosts fruit
  refine ⟨fun k s found => ?_, last.executed, last.clock, fun stop => ?_,
    ⟨_, last.run, rfl, rfl, rfl⟩, ?_, ?_, ?_⟩
  · obtain ⟨issued, told, earlier⟩ := each k s found
    rw [Nat.zero_add] at earlier
    refine ⟨earlier.clock, ?_, ?_⟩
    · rw [earlier.updateDue, config_eq, decide_eq_true_eq, Nat.dvd_iff_mod_eq_zero]
    · have played := (List.getElem?_eq_some_iff.mp found).1
      have most : rounds.length ≤ o.ticks := State.length_course_le _ _ _
      rw [earlier.made (by omega), earlier.updates, multiplesBelow, config_eq]
      simp only [Nat.dvd_iff_mod_eq_zero]
      split <;> rfl
  · exact last.clock.trans (State.length_course stop _ _)
  · rw [pellets, ← final, ← all]
    exact World.countP_isPellet counted new issued
  · rw [ghosts, ← all]
    exact World.countP_isFeast_le new issued
  · rw [fruit, ← all]
    exact World.countP_isFruit_le w issued

/-- Of four moves three are made in five ticks, the second one into a wall. -/
theorem script_executed_classic :
    let config : Config := { updatePeriod := 2 }
    let sources : Roster Listed := .ofFn fun _ => ⟨[]⟩
    let w : World Listed Empty := World.start config .classic (.bundled default) sources
    let moves : List Direction := [.left, .down, .left, .up]
    let o : Options := ⟨5, some 2, false⟩
    let rounds := (State.start w moves).course o o.ticks
    let log := rounds.flatMap (·.told o)
    let summary := simulate w moves o
    (Maze.ofRows Maze.classicRows = .ok .classic ∧
      World.new? config .classic (.bundled default) sources = .ok w ∧ o.ticks < UInt64.size) ∧
    log.countP Event.isUpdate = 3 ∧ log.filterMap Event.executed? = [.left, .down, .left] ∧
    summary.ticks = 5 ∧ summary.tally.pellets = 2 ∧ summary.pelletsRemaining = 242 := by
  intro config sources w moves o rounds log summary
  have new : World.new? config .classic (.bundled default) sources = .ok w :=
    World.new?_eq_ok_iff.mpr ⟨by decide, rfl⟩
  have short : o.ticks < UInt64.size := by decide
  obtain ⟨updates, taken⟩ : log.countP Event.isUpdate = 3 ∧ summary.tally.pellets = 2 := by
    decide +kernel
  have start : Maze.classic.pellets.count = 244 := by decide +kernel
  obtain ⟨_, made, _, ticks, _, pellets, _⟩ :=
    script_executed Maze.ofRows_classicRows new moves o short
  have made : log.filterMap Event.executed? = moves.take (log.countP Event.isUpdate) := made
  have pellets : summary.tally.pellets.toNat + summary.pelletsRemaining =
    Maze.classic.pellets.count := pellets
  rw [updates] at made
  rw [taken, start] at pellets
  exact ⟨⟨Maze.ofRows_classicRows, new, short⟩, updates, made, ticks rfl, taken,
    Nat.add_left_cancel pellets⟩

end Session

end MazeChase
