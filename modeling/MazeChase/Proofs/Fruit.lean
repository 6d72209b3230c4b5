import MazeChase.Proofs.Arrival
import MazeChase.Proofs.Pellets

/-!
# Fruits over a whole game

A fruit appears on the step that leaves as many pellets as its threshold says. Pellets go one at a
time, so no threshold below their number at the start is skipped, and none above it is ever met. One
that is equal to it is met only by a first step on which the player finds no pellet.

* `Config.threshold`, `Fruit.released`, `Fruit.release`;
* `World.dueFruit_eq_some_iff`: which fruit is due;
* `World.Ripens`: the account of the fruits, which appear once and with falling thresholds;
* `World.Visits`, `World.apply_visits`: what a command does to pellets and fruits;
* `World.Ripe`, `World.ripe_run`: what the pellets that are left say of a fruit;
* **`World.fruit_waves`**: when the fruits of a new game appear.
-/

set_option autoImplicit false

namespace MazeChase

/-- The number of pellets left at which the fruit appears. -/
def Config.threshold (config : Config) : FruitWave → Nat
  | .first => config.firstFruit.toNat
  | .second => config.secondFruit.toNat

namespace Fruit

/-- The fruit has appeared. -/
def released (fruit : Fruit) : FruitWave → Bool
  | .first => fruit.first
  | .second => fruit.second

/-- The fruits when one more has appeared. -/
def release (fruit : Fruit) : FruitWave → Fruit
  | .first => { fruit with first := true }
  | .second => { fruit with second := true }

theorem released_release (fruit : Fruit) (wave other : FruitWave) :
    (fruit.release wave).released other = (fruit.released other || decide (other = wave)) := by
  cases wave <;> cases other <;> simp [release, released]

end Fruit

namespace Event

/-- Of two fruits that are told of, the later one has the lower threshold. -/
def Falling (config : Config) (e e' : Event) : Prop :=
  ∀ wave later, e = .fruitSpawned wave → e' = .fruitSpawned later →
    config.threshold later ≤ config.threshold wave

/-- A step onto a new cell is told of. -/
def Steps (told : List Event) : Prop := ∃ origin target, .playerMoved origin target ∈ told

theorem steps_append {told more : List Event} : Steps (told ++ more) ↔ Steps told ∨ Steps more := by
  simp only [Steps, List.mem_append, exists_or]

theorem steps_filter (told : List Event) : Steps (told.filter ofArrival) ↔ Steps told :=
  exists_congr fun _ => exists_congr fun _ => mem_filter_ofArrival rfl

end Event

/-! ## What a step does -/

namespace Larder

/-- What becomes of the fruits on a step: those whose threshold is met appear, unless they have
appeared before. -/
structure Appears (config : Config) (a : Larder) (told : List Event) (b : Larder) : Prop where
  told_iff : ∀ wave, .fruitSpawned wave ∈ told ↔
    b.pellets.count = config.threshold wave ∧ a.fruit.released wave = false
  released_iff : ∀ wave, b.fruit.released wave = true ↔
    a.fruit.released wave = true ∨ b.pellets.count = config.threshold wave

/-- What becomes of pellets and fruits if the player makes one step, or none. -/
inductive Change (config : Config) (a : Larder) (told : List Event) (b : Larder) : Prop
  | stays (same : b = a) (silent : told = [])
  /-- There is no pellet on the new cell. -/
  | bare (steps : Event.Steps told) (fruit : Appears config a told b)
      (same : b.pellets = a.pellets)
      (none : ∀ c isSuper remaining, .pelletCollected c isSuper remaining ∉ told)
  /-- The pellet on the new cell is taken. -/
  | meal (steps : Event.Steps told) (fruit : Appears config a told b) {c : Cell}
      (take : a.pellets.take? c = some b.pellets)
      (one : ∀ remaining, (∃ c isSuper, .pelletCollected c isSuper remaining ∈ told) ↔
        remaining = b.pellets.count)

/-- What is known of a fruit with threshold `t` in a game of `n` pellets. All of them are left before
the first step. A threshold below `n` tells whether the fruit has appeared, and one of `n` whether
there was a step if all are left. -/
structure Ripe (n t : Nat) (wave : FruitWave) (stepped : Prop) (a : Larder) : Prop where
  counted : a.pellets.Counted
  le : a.pellets.count ≤ n
  still : ¬ stepped → a.pellets.count = n
  below : t < n → (a.fruit.released wave = true ↔ a.pellets.count ≤ t)
  level : t = n → a.pellets.count = n → (a.fruit.released wave = true ↔ stepped)

variable {config : Config} {a b : Larder} {told : List Event} {n t : Nat} {wave : FruitWave}
  {stepped : Prop}

theorem Ripe.change (ripe : a.Ripe n t wave stepped) (change : a.Change config told b)
    (threshold : config.threshold wave = t) : b.Ripe n t wave (stepped ∨ Event.Steps told) := by
  obtain ⟨counted, le, still, below, level⟩ := ripe
  cases change with
  | stays same silent =>
    have none : ¬ Event.Steps told := by simp [silent, Event.Steps]
    rw [same]
    refine ⟨counted, le, fun before => still fun h => before (.inl h), below, fun same all => ?_⟩
    rw [level same all, or_iff_left none]
  | bare steps fruit same none =>
    have released := threshold ▸ fruit.released_iff wave
    rw [same] at released
    refine ⟨same ▸ counted, same ▸ le, fun before => absurd (.inr steps) before, fun low => ?_,
      fun equal all => ?_⟩
    · rw [released, below low, same]
      omega
    · rw [same] at all
      exact iff_of_true (released.mpr (.inr (all.trans equal.symm))) (.inr steps)
  | meal steps fruit take one =>
    have released := threshold ▸ fruit.released_iff wave
    obtain ⟨counted, fewer⟩ := counted.take take
    refine ⟨counted, by omega, fun before => absurd (.inr steps) before, fun low => ?_,
      fun equal all => by omega⟩
    rw [released, below low]
    omega

/-- Below the number of pellets at the start, a threshold is met with the pellet that leaves as
many. -/
theorem Ripe.told_below (ripe : a.Ripe n t wave stepped) (change : a.Change config told b)
    (threshold : config.threshold wave = t) (low : t < n) : .fruitSpawned wave ∈ told ↔
      ∃ c isSuper, .pelletCollected c isSuper t ∈ told := by
  have waits : a.fruit.released wave = false ↔ t < a.pellets.count := by
    rw [← Bool.not_eq_true, ripe.below low, Nat.not_le]
  cases change with
  | stays same silent => simp [silent]
  | bare steps fruit same none =>
    rw [fruit.told_iff, threshold, waits, same]
    exact iff_of_false (by omega) fun ⟨c, isSuper, told⟩ => none c isSuper t told
  | meal steps fruit take one =>
    have fewer := (ripe.counted.take take).2
    rw [fruit.told_iff, threshold, waits, one]
    omega

/-- A fruit whose threshold is the number of pellets at the start needs a first step without a
pellet. -/
theorem Ripe.told_level (ripe : a.Ripe n t wave stepped) (change : a.Change config told b)
    (threshold : config.threshold wave = t) (equal : t = n) : .fruitSpawned wave ∈ told ↔
      ¬ stepped ∧ Event.Steps told ∧
        ∀ c isSuper remaining, .pelletCollected c isSuper remaining ∉ told := by
  cases change with
  | stays same silent => simp [silent, Event.Steps]
  | bare steps fruit same none =>
    rw [fruit.told_iff, threshold, same, ← Bool.not_eq_true]
    constructor
    · rintro ⟨all, new⟩
      exact ⟨fun before => new ((ripe.level equal (all.trans equal)).mpr before), steps, none⟩
    · rintro ⟨first, -, -⟩
      have all := ripe.still first
      exact ⟨all.trans equal.symm, fun old => first ((ripe.level equal all).mp old)⟩
  | meal steps fruit take one =>
    obtain ⟨c, isSuper, here⟩ := (one b.pellets.count).mpr rfl
    have fewer := (ripe.counted.take take).2
    have le := ripe.le
    rw [fruit.told_iff, threshold]
    exact iff_of_false (by omega) fun ⟨_, _, silent⟩ => silent c isSuper _ here

end Larder

namespace World

variable {σ μ : Type}

/-! ## The fruit that is due -/

theorem releaseFruit_of_due {w : World σ μ} {wave : FruitWave} (due : w.dueFruit = some wave) :
    releaseFruit w = ({ w with fruit := w.fruit.release wave }, [.fruitSpawned wave]) := by
  rw [releaseFruit, due]
  cases wave <;> rfl

theorem releaseFruit_of_none {w : World σ μ} (none : w.dueFruit = none) :
    releaseFruit w = (w, []) := by
  rw [releaseFruit, none]

theorem ripe_of_dueFruit {w : World σ μ} {wave : FruitWave} (due : w.dueFruit = some wave) :
    w.pellets.count = w.config.threshold wave ∧ w.fruit.released wave = false := by
  unfold dueFruit at due
  split at due
  next first =>
    cases due
    exact first
  next =>
    split at due
    next second =>
      cases due
      exact second
    next => cases due

theorem dueFruit_eq_some_iff {w : World σ μ} (valid : w.config.Valid) {wave : FruitWave} :
    w.dueFruit = some wave ↔
      w.pellets.count = w.config.threshold wave ∧ w.fruit.released wave = false := by
  refine ⟨ripe_of_dueFruit, fun ripe => ?_⟩
  cases wave with
  | first => exact if_pos ripe
  | second =>
    have low : w.pellets.count = w.config.secondFruit.toNat := ripe.1
    have order := valid.2.2
    rw [dueFruit, if_neg (by omega)]
    exact if_pos ripe

theorem fruitSpawned_mem_releaseFruit {w : World σ μ} {wave : FruitWave} :
    .fruitSpawned wave ∈ (releaseFruit w).2 ↔ w.dueFruit = some wave := by
  cases due : w.dueFruit with
  | none =>
    rw [releaseFruit_of_none due]
    simp
  | some other =>
    rw [releaseFruit_of_due due, List.mem_singleton, Event.fruitSpawned.injEq, Option.some_inj]
    exact eq_comm

theorem released_releaseFruit (w : World σ μ) (wave : FruitWave) :
    (releaseFruit w).1.fruit.released wave = true ↔
      w.fruit.released wave = true ∨ w.dueFruit = some wave := by
  cases due : w.dueFruit with
  | none =>
    rw [releaseFruit_of_none due]
    simp
  | some other =>
    rw [releaseFruit_of_due due, Fruit.released_release, Bool.or_eq_true, decide_eq_true_eq,
      Option.some_inj, eq_comm (a := wave)]

theorem pellets_releaseFruit (w : World σ μ) : (releaseFruit w).1.pellets = w.pellets := by
  obtain ⟨_, released⟩ := releaseFruit_frame w
  rw [released]

theorem pelletCollected_notMem_releaseFruit (w : World σ μ) (c : Cell) (isSuper : Bool)
    (remaining : Nat) : .pelletCollected c isSuper remaining ∉ (releaseFruit w).2 := by
  cases due : w.dueFruit with
  | none =>
    rw [releaseFruit_of_none due]
    exact List.not_mem_nil
  | some wave =>
    rw [releaseFruit_of_due due]
    simp

theorem fruitSpawned_notMem_takePellet (w : World σ μ) (wave : FruitWave) :
    .fruitSpawned wave ∉ (takePellet w).2 := by
  cases take : w.pellets.take? w.player.cell with
  | none =>
    rw [takePellet_of_none take]
    exact List.not_mem_nil
  | some rest =>
    rw [snd_takePellet take]
    intro told
    rcases Books.mem_pelletTold told with other | ⟨_, other⟩ | other <;>
      exact absurd other (by simp)

/-! ## The account of the fruits -/

/-- The account of the fruits: each one that has appeared was told of once, while the pellets that
were left passed its threshold, and those that were told of later have lower thresholds. -/
structure Ripens (w : World σ μ) (told : List Event) (v : World σ μ) : Prop where
  config : v.config = w.config
  fewer : v.pellets.count ≤ w.pellets.count
  once : ∀ wave, (w.fruit.released wave).toNat + told.count (.fruitSpawned wave) =
    (v.fruit.released wave).toNat
  between : ∀ wave, .fruitSpawned wave ∈ told →
    v.pellets.count ≤ w.config.threshold wave ∧ w.config.threshold wave ≤ w.pellets.count
  falling : told.Pairwise (Event.Falling w.config)

theorem Ripens.of_none {w v : World σ μ} {told : List Event} (config : v.config = w.config)
    (fewer : v.pellets.count ≤ w.pellets.count) (fruit : v.fruit = w.fruit)
    (none : ∀ wave, .fruitSpawned wave ∉ told) : Ripens w told v where
  config := config
  fewer := fewer
  once := by
    intro wave
    rw [fruit, List.count_eq_zero.mpr (none wave), Nat.add_zero]
  between := fun wave he => absurd he (none wave)
  falling := List.pairwise_of_forall_mem_list fun e he _ _ wave _ fruit =>
    absurd (fruit ▸ he) (none wave)

theorem Ripens.of_topic {w v : World σ μ} {told : List Event} {topic : Topic}
    (config : v.config = w.config) (larder : v.larder = w.larder)
    (these : ∀ e ∈ told, e.topic = topic) (other : topic ≠ .meal) : Ripens w told v := by
  have pellets : v.pellets = w.pellets := congrArg Larder.pellets larder
  refine .of_none config (by rw [pellets]) (congrArg Larder.fruit larder) fun wave he => ?_
  exact other (these _ he).symm

theorem ripens_account : Phase.Account (Ripens (σ := σ) (μ := μ)) where
  nil := fun _ => .of_none rfl (Nat.le_refl _) rfl fun _ => List.not_mem_nil
  append := by
    intro a b c es fs first second
    have config := first.config
    have between := second.between
    have falling := second.falling
    rw [config] at between falling
    refine ⟨second.config.trans config, second.fewer.trans first.fewer, fun wave => ?_,
      fun wave he => ?_, ?_⟩
    · have := first.once wave
      have := second.once wave
      rw [List.count_append]
      omega
    · rcases List.mem_append.mp he with he | he
      · exact ⟨second.fewer.trans (first.between wave he).1, (first.between wave he).2⟩
      · exact ⟨(between wave he).1, (between wave he).2.trans first.fewer⟩
    · refine List.pairwise_append.mpr ⟨first.falling, falling, ?_⟩
      rintro _ he _ he' wave later rfl rfl
      exact (between later he').2.trans (first.between wave he).1

theorem takePellet_ripens : (takePellet (σ := σ) (μ := μ)).Follows Ripens := by
  intro w
  cases take : w.pellets.take? w.player.cell with
  | none =>
    rw [takePellet_of_none take]
    exact ripens_account.nil w
  | some rest =>
    obtain ⟨_, _, _, frame⟩ := takePellet_frame w
    have left : (takePellet w).1.pellets = rest := congrArg Books.pellets (books_takePellet take)
    obtain ⟨_, rest_eq⟩ := Pellets.take?_eq_some.mp take
    refine .of_none (by rw [frame]) ?_ (by rw [frame]) (fruitSpawned_notMem_takePellet w)
    rw [left, rest_eq]
    exact Nat.sub_le _ _

theorem releaseFruit_ripens : (releaseFruit (σ := σ) (μ := μ)).Follows Ripens := by
  intro w
  cases due : w.dueFruit with
  | none =>
    rw [releaseFruit_of_none due]
    exact ripens_account.nil w
  | some wave =>
    obtain ⟨count, new⟩ := ripe_of_dueFruit due
    rw [releaseFruit_of_due due]
    refine ⟨rfl, Nat.le_refl _, fun other => ?_, fun other he => ?_, List.pairwise_singleton _ _⟩
    · rw [Fruit.released_release, List.count_singleton]
      by_cases same : other = wave
      · subst same
        simp [new]
      · simp [same, Ne.symm same]
    · obtain rfl := Event.fruitSpawned.inj (List.mem_singleton.mp he)
      exact ⟨count.le, count.ge⟩

theorem enter_ripens (w : World σ μ) : Ripens w (enter w).2 (enter w).1 := by
  have step : Phase.Follows (.tell (.playerMoved w.player w.player.advanced))
      (Ripens (σ := σ) (μ := μ)) := fun _ => .of_none rfl (Nat.le_refl _) rfl (by simp)
  have ahead : Ripens w [] { w with player := w.player.advanced } :=
    .of_none rfl (Nat.le_refl _) rfl fun _ => List.not_mem_nil
  exact ripens_account.nil_append ahead (ripens_account.andThen
    (ripens_account.andThen step takePellet_ripens) releaseFruit_ripens _)

/-! ## One step -/

/-- The world when the player has stepped ahead. -/
def ahead (w : World σ μ) : World σ μ := { w with player := w.player.advanced }

/-- The world when the player has also taken the pellet there. -/
def fed (w : World σ μ) : World σ μ := (takePellet w.ahead).1

theorem enter_apply (w : World σ μ) : enter w = ((releaseFruit w.fed).1,
    .playerMoved w.player w.player.advanced :: (takePellet w.ahead).2 ++
      (releaseFruit w.fed).2) := by
  refine Prod.ext ?_ ?_
  · simp only [enter, Phase.fst_andThen, Phase.tell_apply, fed, ahead]
  · simp only [enter, Phase.snd_andThen, Phase.fst_andThen, Phase.tell_apply, fed, ahead,
      List.singleton_append]

theorem pellets_enter (w : World σ μ) : (enter w).1.pellets = w.fed.pellets := by
  rw [enter_apply, pellets_releaseFruit]

theorem enter_appears {w : World σ μ} (valid : w.config.Valid) :
    Larder.Appears w.config w.larder (enter w).2 (enter w).1.larder := by
  obtain ⟨_, _, _, frame⟩ := takePellet_frame w.ahead
  have config : w.fed.config = w.config := by
    rw [fed, frame]
    rfl
  have fruit : w.fed.fruit = w.fruit := by
    rw [fed, frame]
    rfl
  have due (wave : FruitWave) : w.fed.dueFruit = some wave ↔
      (enter w).1.pellets.count = w.config.threshold wave ∧ w.fruit.released wave = false := by
    rw [dueFruit_eq_some_iff (config ▸ valid), config, fruit, pellets_enter]
  have after : (enter w).1 = (releaseFruit w.fed).1 := by rw [enter_apply]
  refine ⟨fun wave => Iff.trans ?_ (due wave), fun wave => ?_⟩
  · simp only [enter_apply, List.cons_append, List.mem_cons, reduceCtorEq, List.mem_append,
      fruitSpawned_notMem_takePellet, fruitSpawned_mem_releaseFruit, false_or]
  · have released := released_releaseFruit w.fed wave
    rw [fruit, due, ← after] at released
    refine released.trans ?_
    change _ ↔ w.fruit.released wave = true ∨ (enter w).1.pellets.count = _
    cases w.fruit.released wave <;> simp

theorem enter_change {w : World σ μ} (valid : w.config.Valid) :
    w.larder.Change w.config (enter w).2 (enter w).1.larder := by
  have steps : Event.Steps (enter w).2 := by
    rw [enter_apply]
    exact ⟨_, _, List.mem_cons_self⟩
  have collected {c : Cell} {isSuper : Bool} {remaining : Nat} :
      .pelletCollected c isSuper remaining ∈ (enter w).2 ↔
        .pelletCollected c isSuper remaining ∈ (takePellet w.ahead).2 := by
    simp only [enter_apply, List.cons_append, List.mem_cons, reduceCtorEq, List.mem_append,
      pelletCollected_notMem_releaseFruit, false_or, or_false]
  have left : (enter w).1.larder.pellets = w.fed.pellets := pellets_enter w
  cases take : w.ahead.pellets.take? w.ahead.player.cell with
  | none =>
    rw [fed, takePellet_of_none take] at left
    refine .bare steps (enter_appears valid) left fun c isSuper remaining told => ?_
    rw [collected, takePellet_of_none take] at told
    exact absurd told List.not_mem_nil
  | some rest =>
    have rest_eq : w.fed.pellets = rest := congrArg Books.pellets (books_takePellet take)
    have taken := take.trans (congrArg some (left.trans rest_eq).symm)
    refine .meal steps (enter_appears valid) taken fun remaining => ?_
    simp only [collected, snd_takePellet take, left, rest_eq]
    constructor
    · rintro ⟨c, isSuper, told⟩
      rcases Books.mem_pelletTold told with same | ⟨_, other⟩ | other
      · exact (Event.pelletCollected.inj same).2.2
      · exact absurd other (by simp)
      · exact absurd other (by simp)
    · rintro rfl
      exact ⟨_, _, List.mem_cons_self⟩

variable [RandomSource σ] [ModeSource μ]

theorem ripens : Account (Ripens (σ := σ) (μ := μ)) where
  toAccount := ripens_account
  poll := fun w => .of_none rfl (Nat.le_refl w.pellets.count) rfl fun _ => List.not_mem_nil
  plan := fun w => .of_topic rfl rfl (planGhosts_tells w) (by decide)
  queue := fun w _ => .of_none rfl (Nat.le_refl w.pellets.count) rfl fun _ => List.not_mem_nil
  turn := fun w _ => .of_none rfl (Nat.le_refl w.pellets.count) rfl fun _ => List.not_mem_nil
  blocked := fun w => .of_none rfl (Nat.le_refl w.pellets.count) rfl (by simp)
  enter := fun w _ => enter_ripens w
  check := fun w => .of_topic (config_collide w) (larder_collide w) (collide_tells w) (by decide)
  move := fun w => .of_none rfl (Nat.le_refl w.pellets.count) rfl fun _ => List.not_mem_nil
  announce := fun w => .of_none rfl (Nat.le_refl w.pellets.count) rfl (by simp)
  clock := fun w => .of_none rfl (Nat.le_refl w.pellets.count) rfl fun _ => List.not_mem_nil
  control := by
    intro mode w
    obtain ⟨_, frame⟩ := setMode_frame mode w
    exact .of_topic (by rw [frame]) (by rw [frame]; rfl) (setMode_tells mode w) (by decide)

/-! ## Whole games -/

theorem apply_change {w : World σ μ} (valid : w.config.Valid) (command : Command) :
    w.larder.Change w.config ((apply command w).2.filter Event.ofArrival)
      (apply command w).1.larder := by
  cases apply_arrives command w with
  | stays same quiet => exact .stays same quiet
  | enters config before after told =>
    rw [told, after, ← before, ← config]
    exact enter_change (config ▸ valid)

section Reachable

variable {rows : List String} {config : Config} {maze : Maze} {modes : ModeControl μ}
  {sources : Roster σ} {w : World σ μ}

theorem ripe_run (drawn : Maze.ofRows rows = .ok maze)
    (h : new? config maze modes sources = .ok w) (wave : FruitWave) (commands : List Command) :
    (run commands w).1.larder.Ripe maze.pellets.count (config.threshold wave) wave
      (Event.Steps (run commands w).2) := by
  induction commands using List.reverseRecOn with
  | nil =>
    obtain ⟨_, rfl⟩ := new?_eq_ok_iff.mp h
    have new : (Fruit.released ⟨false, false⟩ wave) = false := by cases wave <;> rfl
    have silent : ¬ Event.Steps [] := by simp [Event.Steps]
    refine ⟨Maze.counted_of_ofRows drawn, Nat.le_refl _, fun _ => rfl, fun low => ?_,
      fun _ _ => ?_⟩
    · exact iff_of_false (by simp [run, start, larder, new]) (Nat.not_le_of_lt low)
    · exact iff_of_false (by simp [run, start, larder, new]) silent
  | append_singleton commands command ih =>
    have rules := (rules_of_new? h commands).1
    have valid : (run commands w).1.config.Valid := rules ▸ (new?_eq_ok_iff.mp h).1
    rw [run_concat, Event.steps_append, ← Event.steps_filter (apply command _).2]
    exact ih.change (apply_change valid command) (by rw [rules])

/-- **When the fruits appear.** Each one once, the first before the second, and with the pellet that
leaves as many as its threshold; the three cases compare the threshold with the pellets at the
start. -/
theorem fruit_waves (drawn : Maze.ofRows rows = .ok maze)
    (h : new? config maze modes sources = .ok w) (commands : List Command) :
    let v := (run commands w).1
    let log := (run commands w).2
    let n := maze.pellets.count
    (∀ wave, log.count (.fruitSpawned wave) ≤ 1 ∧
      (v.fruit.released wave = true ↔ .fruitSpawned wave ∈ log)) ∧
    (∀ before after, log = before ++ .fruitSpawned .second :: after →
      .fruitSpawned .first ∉ after) ∧
    ∀ wave,
      let t := config.threshold wave
      (t < n → (v.fruit.released wave = true ↔ v.pellets.count ≤ t) ∧
        ∀ command, .fruitSpawned wave ∈ (apply command v).2 ↔
          ∃ c isSuper, .pelletCollected c isSuper t ∈ (apply command v).2) ∧
      (n < t → .fruitSpawned wave ∉ log) ∧
      (t = n → ∀ command, .fruitSpawned wave ∈ (apply command v).2 ↔
        (∀ origin target, .playerMoved origin target ∉ log) ∧
        (∃ origin target, .playerMoved origin target ∈ (apply command v).2) ∧
        ∀ c isSuper remaining, .pelletCollected c isSuper remaining ∉ (apply command v).2) := by
  intro v log n
  have rules : v.config = config := (rules_of_new? h commands).1
  obtain ⟨valid, start_eq⟩ := new?_eq_ok_iff.mp h
  have config_eq : w.config = config := by rw [start_eq, start]
  have pellets_eq : w.pellets = maze.pellets := by rw [start_eq, start]
  have new wave : w.fruit.released wave = false := by
    rw [start_eq, start]
    cases wave <;> rfl
  have ripens : Ripens w log v := ripens.run commands w
  refine ⟨fun wave => ?_, fun before after split told => ?_, ?_⟩
  · have once := ripens.once wave
    rw [new, Bool.toNat_false, Nat.zero_add] at once
    rw [← List.count_pos_iff, once]
    exact ⟨Bool.toNat_le _, by cases v.fruit.released wave <;> simp⟩
  · have falling := ripens.falling
    rw [split, List.pairwise_append, List.pairwise_cons, config_eq] at falling
    have order := falling.2.1.1 _ told _ _ rfl rfl
    exact absurd valid.2.2 (Nat.not_lt.mpr order)
  · intro wave t
    have ripe := ripe_run drawn h wave commands
    have change command := apply_change (rules ▸ valid) command
    have threshold : v.config.threshold wave = t := by rw [rules]
    have fruit {told : List Event} :
        .fruitSpawned wave ∈ told.filter Event.ofArrival ↔ .fruitSpawned wave ∈ told :=
      Event.mem_filter_ofArrival rfl
    have pellet {told : List Event} {c : Cell} {isSuper : Bool} {remaining : Nat} :
        .pelletCollected c isSuper remaining ∈ told.filter Event.ofArrival ↔
          .pelletCollected c isSuper remaining ∈ told :=
      Event.mem_filter_ofArrival rfl
    refine ⟨fun low => ⟨ripe.below low, fun command => ?_⟩, fun high told => ?_,
      fun equal command => ?_⟩
    · rw [← fruit, ripe.told_below (change command) threshold low]
      simp only [pellet]
      exact Iff.rfl
    · have reached := (ripens.between wave told).2
      rw [config_eq, pellets_eq] at reached
      exact absurd high (Nat.not_lt.mpr reached)
    · rw [← fruit, ripe.told_level (change command) threshold equal, Event.steps_filter]
      simp only [pellet, Event.Steps, not_exists]
      exact Iff.rfl

end Reachable

/-- The first fruit appears on a step without a pellet, the second one with the first pellet. -/
theorem fruit_waves_classic :
    let config : Config := { updatePeriod := 1, firstFruit := 244, secondFruit := 243 }
    let w : World Stream Empty := start config .classic (.bundled default)
      (seededStreams config.rngSeed)
    let first : List Command := [.movePlayer .right]
    let second : List Command :=
      first ++ [.tick, .movePlayer .left, .tick, .movePlayer .left]
    Maze.ofRows Maze.classicRows = .ok .classic ∧ seeded? config .classic = .ok w ∧
      config.threshold .first = Maze.classic.pellets.count ∧
      config.threshold .second < Maze.classic.pellets.count ∧
      .fruitSpawned .first ∈ (apply .tick (run first w).1).2 ∧
      .fruitSpawned .second ∈ (apply .tick (run second w).1).2 := by
  intro config w first second
  have new : seeded? config .classic = .ok w := new?_eq_ok_iff.mpr ⟨by decide, rfl⟩
  obtain ⟨all, most, steps, none, taken⟩ :
      config.threshold .first = Maze.classic.pellets.count ∧
      config.threshold .second < Maze.classic.pellets.count ∧
      .playerMoved ⟨⟨23, 13⟩, .right⟩ ⟨⟨23, 14⟩, .right⟩ ∈ (apply .tick (run first w).1).2 ∧
      (apply .tick (run first w).1).2.filterMap Event.pellet? = [] ∧
      .pelletCollected ⟨23, 12⟩ false 243 ∈ (apply .tick (run second w).1).2 := by
    decide +kernel
  obtain ⟨_, _, appears⟩ := fruit_waves Maze.ofRows_classicRows new first
  obtain ⟨_, _, appears'⟩ := fruit_waves Maze.ofRows_classicRows new second
  refine ⟨Maze.ofRows_classicRows, new, all, most, ?_, ?_⟩
  · refine ((appears .first).2.2 all .tick).mpr ⟨by simp [first, run, apply], ⟨_, _, steps⟩, ?_⟩
    intro c isSuper remaining told
    exact absurd (List.filterMap_eq_nil_iff.mp none _ told) (Option.some_ne_none c)
  · exact (((appears' .second).1 most).2 .tick).mpr ⟨_, _, taken⟩

end World

end MazeChase
