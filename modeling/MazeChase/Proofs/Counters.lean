import MazeChase.Proofs.Drift
import MazeChase.Proofs.Files
import MazeChase.Proofs.Reaction
import MazeChase.Proofs.SavedLayout
import MazeChase.Proofs.Session

/-!
# How long a tally is exact

The tally of a session counts in numbers of 32 bits. Pellets, ghosts and fruits are few, but nothing
limits how often ghosts are stranded: a ghost that has left the board is stranded at every update.
An update strands each of the four ghosts once, at most, so the count is exact as long as there are
fewer than `2 ^ 30` updates. Not much later it can be wrong.

* `World.countP_isStranding_tick`: the strandings of one tick;
* `World.Strands`, **`World.run_strands`**: four for each update at most, and exactly four when all
  ghosts drift away;
* `Session.strandings_walledIn`: a maze in which all ghosts drift away;
* **`Session.tally_exact`**: what the tally shows; `Session.tally_walledIn_overflows`,
  `Session.strandings_overflow`: a session at whose end it does not show the strandings;
* `Invocation.report_walledIn`: the program that plays this session.
-/

set_option autoImplicit false

namespace MazeChase

theorem Event.isStranding_eq (e : Event) : e.isStranding = decide (e.topic = .plan) := by
  cases e <;> rfl

namespace World

variable {σ μ : Type}

/-! ## One tick -/

theorem length_strandings_le (w : World σ μ) : w.strandings.length ≤ 4 := by
  rw [strandings, List.length_map]
  exact List.length_filter_le _ Color.all

theorem length_strandings_of_stuck {w : World σ μ}
    (stuck : ∀ color, (w.ghosts.get color).Stuck w.scene) : w.strandings.length = 4 := by
  have all : (Color.all.filter fun color => (w.ghosts.get color).Stuck w.scene) = Color.all :=
    List.filter_eq_self.mpr fun color _ => decide_eq_true (stuck color)
  rw [strandings, all, List.length_map]
  rfl

variable [RandomSource σ] [ModeSource μ]

theorem countP_isStranding_tick (w : World σ μ) : (apply .tick w).2.countP Event.isStranding =
    if w.updateDue = true then w.strandings.length else 0 := by
  rw [funext Event.isStranding_eq, List.countP_eq_length_filter, filter_plan_apply_tick]
  split <;> rfl

theorem countP_isStranding_idle {w : World σ μ} {command : Command}
    (idle : ¬ (command = .tick ∧ w.updateDue = true)) :
    (apply command w).2.countP Event.isStranding = 0 := by
  refine List.countP_eq_zero.mpr fun e he stranding => idle ?_
  cases e with
  | ghostStranded color l =>
    obtain rfl := eq_tick_of_ghostStranded_mem he
    exact ⟨rfl, ((ghostStranded_mem_tick w color).mp ⟨l, he⟩).1⟩
  | _ => exact absurd stranding Bool.false_ne_true

/-! ## Many commands -/

/-- The account of the strandings: there are four for each update at most, and exactly four while
all ghosts are adrift. They stay so as long as they are not frightened. -/
structure Strands (w : World σ μ) (told : List Event) (v : World σ μ) : Prop where
  most : told.countP Event.isStranding ≤ 4 * told.countP Event.isUpdate
  adrift : (∀ color, w.Adrift color) → told.any Event.frightens = false →
    (∀ color, v.Adrift color) ∧ told.countP Event.isStranding = 4 * told.countP Event.isUpdate

omit [RandomSource σ] [ModeSource μ] in
theorem strands_account : Phase.Account (Strands (σ := σ) (μ := μ)) where
  nil := fun _ => ⟨Nat.le_refl 0, fun adrift _ => ⟨adrift, rfl⟩⟩
  append := by
    intro a b c es fs first second
    refine ⟨?_, fun adrift calm => ?_⟩
    · rw [List.countP_append, List.countP_append, Nat.mul_add]
      exact Nat.add_le_add first.most second.most
    · rw [List.any_append, Bool.or_eq_false_iff] at calm
      obtain ⟨adrift, here⟩ := first.adrift adrift calm.1
      obtain ⟨adrift, there⟩ := second.adrift adrift calm.2
      rw [List.countP_append, List.countP_append, here, there, Nat.mul_add]
      exact ⟨adrift, rfl⟩

theorem apply_strands (command : Command) :
    (apply (σ := σ) (μ := μ) command).Follows Strands := by
  intro w
  have drift (adrift : ∀ color, w.Adrift color)
      (calm : (apply command w).2.any Event.frightens = false) :
      ∀ color, (apply command w).1.Adrift color :=
    fun color => (apply_drifts color command w (adrift color) calm).1
  by_cases update : command = .tick ∧ w.updateDue = true
  · obtain ⟨rfl, due⟩ := update
    have once : (apply .tick w).2.countP Event.isUpdate = 1 := (elapsed_tick due .red).2
    have told : (apply .tick w).2.countP Event.isStranding = w.strandings.length :=
      (countP_isStranding_tick w).trans (if_pos due)
    refine ⟨?_, fun adrift calm => ⟨drift adrift calm, ?_⟩⟩
    · rw [told, once]
      exact w.length_strandings_le
    · rw [told, once, length_strandings_of_stuck fun color => (adrift color).stuck w.scene]
  · have none := countP_isStranding_idle update
    have never := countP_isUpdate_idle update
    refine ⟨?_, fun adrift calm => ⟨drift adrift calm, ?_⟩⟩
    · rw [none, never]
    · rw [none, never]

/-- **The strandings of a run** are four for each update at most, and exactly four when all drift
away. -/
theorem run_strands (commands : List Command) :
    (run (σ := σ) (μ := μ) commands).Follows Strands :=
  strands_account.forEach apply_strands commands

end World

namespace Session

variable {σ μ : Type} [RandomSource σ] [ModeSource μ]

/-! ## Sessions -/

theorem run_simulate {config : Config} {maze : Maze} {modes : ModeControl μ} {sources : Roster σ}
    {w : World σ μ} (new : World.new? config maze modes sources = .ok w) (moves : List Direction)
    (o : Options) (short : o.ticks < UInt64.size) :
    let rounds := (State.start w moves).course o o.ticks
    (World.run (rounds.flatMap (·.commands o)) w).2 = rounds.flatMap (·.told o) ∧
      (simulate w moves o).tally = .of (rounds.flatMap (·.told o)) ∧
      (rounds.flatMap (·.told o)).countP Event.isUpdate =
        multiplesBelow w.config.updatePeriod.toNat rounds.length := by
  intro rounds
  obtain ⟨_, start_eq⟩ := World.new?_eq_ok_iff.mp new
  have first : Progress w moves 0 [] [] (.start w moves) :=
    .start (by rw [start_eq, World.start]) (by rw [start_eq, World.start])
  have few : 0 + o.ticks ≤ maxTick := (Nat.zero_add _).trans_le (Nat.le_sub_one_of_lt short)
  have last := (first.play o few).1
  rw [Nat.zero_add, List.nil_append, List.nil_append] at last
  exact ⟨congrArg Prod.snd last.run, last.tally.trans (Tally.foldl_record _), last.updates⟩

/-! ## A maze of walls -/

omit [RandomSource σ] [ModeSource μ] in
theorem State.commands_of_idle {s : State σ μ} {o : Options} (idle : s.moves = [])
    (mode : o.chaseAt = none) : s.commands o = [.tick] := by
  have due : s.dueMove = none := by
    rw [dueMove, idle]
    split <;> rfl
  rw [commands, due, mode]
  rfl

theorem State.flatMap_commands_of_idle {o : Options} (mode : o.chaseAt = none)
    (stop : o.stopOnOutcome = false) (n : Nat) {s : State σ μ} (idle : s.moves = []) :
    (s.course o n).flatMap (·.commands o) = List.replicate n .tick := by
  induction n generalizing s with
  | zero => rfl
  | succ n ih =>
    have later : (s.round o).moves = [] := by
      change s.movesLeft = []
      rw [movesLeft, idle]
      split <;> rfl
    simp only [course, stop, Bool.false_and, Bool.false_eq_true, if_false, List.flatMap_cons,
      commands_of_idle idle mode, ih later, List.replicate_succ, List.cons_append, List.nil_append]

/-- A game in a maze of walls only, with an update at each tick. -/
def walledIn : World Stream Empty :=
  let config : Config := { updatePeriod := 1, planning := .sequential }
  let walls : CellSet := ⟨Vector.replicate rowCount (BitVec.allOnes colCount)⟩
  World.start config { Maze.openFloor with walls } (.bundled default)
    (World.seededStreams config.rngSeed)

theorem ofRows_walledIn :
    Maze.ofRows (List.replicate 31 "############################") = .ok walledIn.maze := by
  decide +kernel

theorem seeded?_walledIn : World.seeded? walledIn.config walledIn.maze = .ok walledIn :=
  World.new?_eq_ok_iff.mpr ⟨by decide, rfl⟩

theorem fifty_walledIn :
    let v := World.run (List.replicate 50 .tick) walledIn
    (∀ color ∈ Color.all, (v.1.ghosts.get color).location.InLane ∧
        (v.1.ghosts.get color).location.Outbound ∧ (v.1.ghosts.get color).trap = 0) ∧
      v.2.countP Event.isStranding = 136 ∧ v.2.countP Event.isUpdate = 50 := by
  decide +kernel

theorem adrift_walledIn (color : Color) :
    (World.run (List.replicate 50 .tick) walledIn).1.Adrift color := by
  obtain ⟨lane, outbound, free⟩ := fifty_walledIn.1 color color.mem_all
  have player := World.onBoard_run seeded?_walledIn (List.replicate 50 .tick)
  exact ⟨player, lane, outbound, free⟩

theorem strandings_walledIn {o : Options} (mode : o.chaseAt = none) (stop : o.stopOnOutcome = false)
    (enough : 50 ≤ o.ticks) (short : o.ticks < UInt64.size) :
    let log := ((State.start walledIn []).course o o.ticks).flatMap (·.told o)
    log.countP Event.isUpdate = o.ticks ∧ log.countP Event.isStranding + 64 = 4 * o.ticks := by
  intro log
  obtain ⟨told, _, updates⟩ := run_simulate seeded?_walledIn [] o short
  have period : walledIn.config.updatePeriod.toNat = 1 := rfl
  rw [State.length_course stop, period, multiplesBelow, if_pos (Nat.one_dvd _), Nat.div_one]
    at updates
  have updates : log.countP Event.isUpdate = o.ticks := updates
  refine ⟨updates, ?_⟩
  obtain ⟨n, ticks⟩ := Nat.exists_eq_add_of_le enough
  rw [State.flatMap_commands_of_idle mode stop _ rfl] at told
  have told : (World.run (.replicate o.ticks .tick) walledIn).2 = log := told
  rw [← told, ticks, List.replicate_add, World.run_append, List.countP_append] at updates ⊢
  obtain ⟨_, strandings, fifty⟩ := fifty_walledIn
  have calm : (World.run (.replicate 50 .tick ++ .replicate n .tick) walledIn).2.any
      Event.frightens = false :=
    World.any_frightens_run_of_none Pellets.counted_empty rfl _
  rw [World.run_append, List.any_append, Bool.or_eq_false_iff] at calm
  have later := ((World.run_strands (List.replicate n .tick) _).adrift adrift_walledIn calm.2).2
  omega

/-! ## The tally -/

/-- **What the tally shows.** All numbers are exact, but the strandings only up to multiples of
`2 ^ 32`, which makes them exact below `2 ^ 30` updates. -/
theorem tally_exact {rows : List String} {config : Config} {maze : Maze} {modes : ModeControl μ}
    {sources : Roster σ} {w : World σ μ} (drawn : Maze.ofRows rows = .ok maze)
    (new : World.new? config maze modes sources = .ok w) (moves : List Direction) (o : Options)
    (short : o.ticks < UInt64.size) :
    let log := ((State.start w moves).course o o.ticks).flatMap (·.told o)
    let tally := (simulate w moves o).tally
    tally.pellets.toNat = log.countP Event.isPellet ∧
      tally.ghosts.toNat = log.countP Event.isFeast ∧
      tally.fruit.toNat = log.countP Event.isFruit ∧
      tally.strandings.toNat = log.countP Event.isStranding % 2 ^ 32 ∧
      log.countP Event.isStranding ≤ 4 * log.countP Event.isUpdate ∧
      (log.countP Event.isUpdate < 2 ^ 30 →
        tally.strandings.toNat = log.countP Event.isStranding) := by
  intro log tally
  let issued := ((State.start w moves).course o o.ticks).flatMap (·.commands o)
  obtain ⟨told, tally_eq, _⟩ := run_simulate new moves o short
  have told : (World.run issued w).2 = log := told
  have tally_eq : tally = .of log := tally_eq
  obtain ⟨pellets, ghosts, fruit⟩ := World.tally_run (Maze.counted_of_ofRows drawn) new issued
  have most : (World.run issued w).2.countP Event.isStranding ≤
    4 * (World.run issued w).2.countP Event.isUpdate := (World.run_strands issued w).most
  rw [told, ← tally_eq] at pellets ghosts fruit
  rw [told] at most
  have strandings : tally.strandings.toNat = log.countP Event.isStranding % 2 ^ 32 := by
    rw [tally_eq]
    exact UInt32.toNat_ofNat'
  refine ⟨pellets, ghosts, fruit, strandings, most, fun few => ?_⟩
  rw [strandings, Nat.mod_eq_of_lt (by omega)]

/-- After fifty ticks in the maze of walls the tally shows 136 strandings. -/
theorem tally_exact_walledIn :
    let o : Options := ⟨50, none, false⟩
    let log := ((State.start walledIn []).course o o.ticks).flatMap (·.told o)
    let tally := (simulate walledIn [] o).tally
    (Maze.ofRows (List.replicate 31 "############################") = .ok walledIn.maze ∧
      World.seeded? walledIn.config walledIn.maze = .ok walledIn ∧ o.ticks < UInt64.size) ∧
    log.countP Event.isUpdate < 2 ^ 30 ∧ log.countP Event.isStranding = 136 ∧
      tally.strandings.toNat = 136 ∧ tally.pellets.toNat = log.countP Event.isPellet ∧
      tally.ghosts.toNat = log.countP Event.isFeast ∧
      tally.fruit.toNat = log.countP Event.isFruit := by
  intro o log tally
  have short : o.ticks < UInt64.size := by decide
  obtain ⟨updates, strandings⟩ := strandings_walledIn (o := o) rfl rfl (by decide) short
  have updates : log.countP Event.isUpdate = 50 := updates
  have strandings : log.countP Event.isStranding + 64 = 4 * 50 := strandings
  have few : log.countP Event.isUpdate < 2 ^ 30 := by omega
  obtain ⟨pellets, ghosts, fruit, _, _, shown⟩ :=
    tally_exact ofRows_walledIn seeded?_walledIn [] o short
  have shown : tally.strandings.toNat = log.countP Event.isStranding := shown few
  exact ⟨⟨ofRows_walledIn, seeded?_walledIn, short⟩, few, by omega, by omega, pellets, ghosts,
    fruit⟩

/-- After `2 ^ 32` strandings the tally shows none. -/
theorem tally_walledIn_overflows :
    let o : Options := ⟨1073741840, none, false⟩
    let log := ((State.start walledIn []).course o o.ticks).flatMap (·.told o)
    o.ticks < UInt64.size ∧ log.countP Event.isStranding = 4294967296 ∧
      (simulate walledIn [] o).tally.strandings = 0 := by
  intro o log
  have short : o.ticks < UInt64.size := by decide
  have strandings : log.countP Event.isStranding + 64 = 4 * 1073741840 :=
    (strandings_walledIn (o := o) rfl rfl (by decide) short).2
  have all : log.countP Event.isStranding = 4294967296 := by omega
  have tally : (simulate walledIn [] o).tally = .of log :=
    (run_simulate seeded?_walledIn [] o short).2.1
  refine ⟨short, all, ?_⟩
  rw [tally, Tally.of, all]
  rfl

/-- So it is not true that the tally of every session is exact. -/
theorem strandings_overflow : ¬ ∀ (rows : List String) (config : Config) (maze : Maze)
    (w : World Stream Empty) (moves : List Direction) (o : Options),
    Maze.ofRows rows = .ok maze → World.seeded? config maze = .ok w → o.ticks < UInt64.size →
      let log := ((State.start w moves).course o o.ticks).flatMap (·.told o)
      let tally := (simulate w moves o).tally
      tally.pellets.toNat = log.countP Event.isPellet ∧
        tally.ghosts.toNat = log.countP Event.isFeast ∧
        tally.fruit.toNat = log.countP Event.isFruit ∧
        tally.strandings.toNat = log.countP Event.isStranding := by
  intro shows
  obtain ⟨short, all, none⟩ := tally_walledIn_overflows
  obtain ⟨_, _, _, shown⟩ := shows _ _ _ _ [] _ ofRows_walledIn seeded?_walledIn short
  rw [none, all] at shown
  exact absurd shown (by decide)

end Session

/-- The program that plays this session reports no stranding. -/
theorem Invocation.report_walledIn :
    let walls : Layout.Line := ⟨"############################", 0, .feed⟩
    let folder := Folder.ofFiles [("walls.txt", Layout.saved (List.replicate 31 walls) "")]
    ∃ i summary, Invocation.ofArgs? ["--layout", "walls.txt", "--ticks", "1073741840",
        "--update-period", "1", "--sequential"] = some i ∧
      i.run folder.read = .ok summary ∧ "ghost strandings:  0" ∈ summary.report := by
  intro walls folder
  let i : Invocation := { layout := some "walls.txt", ticks := some 1073741840,
                          updatePeriod := some 1, sequential := true }
  have asked : Invocation.ofArgs? ["--layout", "walls.txt", "--ticks", "1073741840",
      "--update-period", "1", "--sequential"] = some i := by decide +kernel
  have way (text : String) : Folder.Open [("walls.txt", text)] "walls.txt" := by
    refine ⟨by decide +kernel, by decide +kernel, fun file given _ => ?_⟩
    rw [List.mem_singleton.mp given]
  have plain : ∀ l ∈ List.replicate 31 walls, Layout.OneLine l.kept := by
    intro l hl
    rw [List.eq_of_mem_replicate hl]
    decide
  have maze : i.loadMaze folder.read = .ok Session.walledIn.maze := by
    rw [loadMaze_of_read rfl (Folder.read_ofFiles rfl (way _)),
      @Maze.ofLayout_saved (List.replicate 31 walls) "" rfl plain (by decide),
      List.map_replicate, Session.ofRows_walledIn]
    rfl
  have script : MoveScript.parse "" = .ok [] := by decide +kernel
  have config : i.loadConfig folder.read = .ok Session.walledIn.config := rfl
  have options : i.sessionOptions = ⟨1073741840, none, false⟩ := rfl
  let summary := Session.simulate Session.walledIn [] i.sessionOptions
  have none : summary.tally.strandings = 0 := by
    change (Session.simulate Session.walledIn [] i.sessionOptions).tally.strandings = 0
    rw [options]
    exact Session.tally_walledIn_overflows.2.2
  have line : s!"ghost strandings:  {summary.tally.strandings.toNat}" ∈ summary.report := by
    simp [Session.Summary.report]
  have zero : s!"ghost strandings:  {(0 : UInt32).toNat}" = "ghost strandings:  0" := by
    decide +kernel
  rw [none, zero] at line
  exact ⟨i, summary, asked, run_eq_ok_iff.mpr ⟨_, _, _, _, ⟨config, maze⟩,
    Session.seeded?_walledIn, script, rfl⟩, line⟩

end MazeChase
