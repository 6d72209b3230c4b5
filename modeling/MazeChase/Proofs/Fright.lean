import MazeChase.Proofs.Fate
import MazeChase.Proofs.Update

/-!
# How long ghosts stay frightened

The timer of a ghost can be read off the log. A super pellet sets it, each update takes one from it,
and a ghost that was eaten comes back without fright. The three happen at different points of an
update, so an update is looked at as a whole first.

* `Event.eats`, `Event.frightens`, `Event.isUpdate`: what in the log matters;
* `World.Alarmed`: the account of the timer between the plans and the moves;
* `Ghost.Elapsed`, **`World.elapsed_update`**: what an update makes of the timer;
* `Ghost.Fading`: the timer some updates after a super pellet; **`World.run_fades`**;
* `World.LastFright`, **`World.fright_of_history`**.
-/

set_option autoImplicit false

namespace MazeChase

/-! ## The events that matter -/

namespace Event

/-- The player ate the ghost. -/
def eats (color : Color) : Event → Bool
  | .ghostEaten c _ => c = color
  | _ => false

/-- The ghosts were frightened. -/
def frightens : Event → Bool
  | .ghostsFrightened _ => true
  | _ => false

/-- An update began. -/
def isUpdate : Event → Bool
  | .tickAdvanced _ updated => updated
  | _ => false

variable {e : Event}

theorem topic_of_eats {color : Color} (h : e.eats color = true) : e.topic = .contact := by
  cases e <;> first | rfl | exact absurd h Bool.false_ne_true

theorem topic_of_frightens (h : e.frightens = true) : e.topic = .meal := by
  cases e <;> first | rfl | exact absurd h Bool.false_ne_true

theorem topic_of_isUpdate (h : e.isUpdate = true) : e.topic = .clock := by
  cases e <;> first | rfl | exact absurd h Bool.false_ne_true

theorem any_eq_false_of_topic {told : List Event} {kind : Event → Bool} {topic other : Topic}
    (these : ∀ e ∈ told, e.topic = topic) (those : ∀ {e}, kind e = true → e.topic = other)
    (apart : topic ≠ other) : told.any kind = false :=
  List.any_eq_false.mpr fun e he h => apart ((these e he).symm.trans (those h))

theorem eats_iff {color : Color} :
    e.eats color = true ↔ ∃ points, e = .ghostEaten color points := by
  cases e <;> simp [eats]

theorem frightens_iff : e.frightens = true ↔ ∃ cycles, e = .ghostsFrightened cycles := by
  cases e <;> simp [frightens]

theorem any_iff_exists_mem {α : Type} {kind : Event → Bool} {make : α → Event}
    (made : ∀ {e}, kind e = true ↔ ∃ a, e = make a) {told : List Event} :
    told.any kind = true ↔ ∃ a, make a ∈ told := by
  simp only [List.any_eq_true, made]
  constructor
  · rintro ⟨_, he, a, rfl⟩
    exact ⟨a, he⟩
  · rintro ⟨a, he⟩
    exact ⟨_, he, a, rfl⟩

theorem any_eats {told : List Event} {color : Color} :
    told.any (eats color) = true ↔ ∃ points, .ghostEaten color points ∈ told :=
  any_iff_exists_mem eats_iff

theorem any_eats_eq_false {told : List Event} {color : Color} :
    told.any (eats color) = false ↔ ∀ points, .ghostEaten color points ∉ told := by
  rw [← Bool.not_eq_true, any_eats, not_exists]

theorem any_frightens {told : List Event} :
    told.any frightens = true ↔ ∃ cycles, .ghostsFrightened cycles ∈ told :=
  any_iff_exists_mem frightens_iff

theorem any_frightens_eq_false {told : List Event} :
    told.any frightens = false ↔ ∀ cycles, .ghostsFrightened cycles ∉ told := by
  rw [← Bool.not_eq_true, any_frightens, not_exists]

end Event

/-! ## From the plans to the moves -/

namespace World

variable {σ μ : Type}

/-- The account of the timer of one ghost between its plan and its move: it is set when the ghosts
are told to be frightened, and stays otherwise. -/
def Alarmed (color : Color) (w : World σ μ) (told : List Event) (v : World σ μ) : Prop :=
  v.config = w.config ∧ (v.ghosts.get color).fright =
    if told.any Event.frightens then w.config.frightCycles.toNat else (w.ghosts.get color).fright

theorem alarmed_account (color : Color) : Phase.Account (Alarmed (σ := σ) (μ := μ) color) where
  nil := fun _ => ⟨rfl, rfl⟩
  append := by
    rintro a b c es fs ⟨config, first⟩ ⟨config', second⟩
    refine ⟨config'.trans config, ?_⟩
    rw [second, first, config, List.any_append]
    cases es.any Event.frightens <;> cases fs.any Event.frightens <;> rfl

theorem fright_collide (w : World σ μ) (color : Color) :
    ((collide w).1.ghosts.get color).fright = (w.ghosts.get color).fright := by
  rw [get_ghosts_collide, Ghost.afterCheck]
  split <;> rfl

theorem collide_alarmed (color : Color) :
    (collide (σ := σ) (μ := μ)).Follows (Alarmed color) := by
  intro w
  have calm : (collide w).2.any Event.frightens = false :=
    Event.any_eq_false_of_topic (collide_tells w) Event.topic_of_frightens (by decide)
  exact ⟨config_collide w, by rw [calm, fright_collide]; rfl⟩

theorem takePellet_alarmed (color : Color) :
    (takePellet (σ := σ) (μ := μ)).Follows (Alarmed color) := by
  intro w
  have account := alarmed_account (σ := σ) (μ := μ) color
  have frighten : (frightenGhosts (σ := σ) (μ := μ)).Follows (Alarmed color) := fun v =>
    ⟨rfl, by simp only [frightenGhosts, Roster.get_map]; rfl⟩
  have clear : (clearLevel (σ := σ) (μ := μ)).Follows (Alarmed color) := fun _ => ⟨rfl, rfl⟩
  cases found : w.pellets.take? w.player.cell with
  | none =>
    rw [takePellet_of_none found]
    exact account.nil w
  | some rest =>
    have told : Phase.Follows
        (.tell (.pelletCollected w.player.cell w.player.cell.IsPowerCorner rest.count))
        (Alarmed (σ := σ) (μ := μ) color) := fun _ => ⟨rfl, rfl⟩
    have fed : Alarmed color w []
        (({ w with pellets := rest } : World σ μ).award (w.pelletValue w.player.cell)) := ⟨rfl, rfl⟩
    rw [takePellet_of_some found]
    exact account.nil_append fed (account.andThen (account.andThen told (account.only _ frighten))
      (account.only _ clear) _)

theorem releaseFruit_alarmed (color : Color) :
    (releaseFruit (σ := σ) (μ := μ)).Follows (Alarmed color) := by
  intro w
  unfold releaseFruit
  split <;> exact ⟨rfl, rfl⟩

theorem enter_alarmed (color : Color) (w : World σ μ) :
    Alarmed color w (enter w).2 (enter w).1 := by
  have account := alarmed_account (σ := σ) (μ := μ) color
  have moved : Phase.Follows (.tell (.playerMoved w.player w.player.advanced))
      (Alarmed (σ := σ) (μ := μ) color) := fun _ => ⟨rfl, rfl⟩
  have stepped : Alarmed color w [] { w with player := w.player.advanced } := ⟨rfl, rfl⟩
  exact account.nil_append stepped (account.andThen
    (account.andThen moved (takePellet_alarmed color)) (releaseFruit_alarmed color) _)

theorem makeQueuedMove_alarmed (color : Color) :
    (makeQueuedMove (σ := σ) (μ := μ)).Follows (Alarmed color) :=
  makeQueuedMove_follows (alarmed_account color) (collide_alarmed color) (fun _ _ => ⟨rfl, rfl⟩)
    (fun _ => ⟨rfl, rfl⟩) (fun w _ => enter_alarmed color w) (fun _ _ => ⟨rfl, rfl⟩)

theorem Fate.eaten {color : Color} {w v : World σ μ} {told : List Event}
    (fate : Fate color w told v) : (v.ghosts.get color).eaten =
      ((w.ghosts.get color).eaten || told.any (Event.eats color)) := by
  rcases fate with ⟨eaten, home⟩ | ⟨spared, _, _, same⟩
  · rw [home.eaten, Event.any_eats.mpr eaten, Bool.or_true]
  · rw [same, Event.any_eats_eq_false.mpr spared, Bool.or_false]

end World

/-! ## One update -/

/-- What an update makes of the timer of a ghost, depending on whether it tells that the ghosts were
frightened and that this one was eaten. -/
inductive Ghost.Elapsed (cycles : Nat) (frightened eaten : Bool) (g g' : Ghost) : Prop
  /-- It runs on, set anew if the ghosts were frightened. -/
  | spared (here : g.eaten = false) (spared : eaten = false) (still : g'.eaten = false)
      (fright : g'.fright = (if frightened then cycles else g.fright) - 1)
  /-- The ghost was eaten before the moves, and comes back. -/
  | back (away : g.eaten = true ∨ eaten = true) (fright : g'.fright = 0)
  /-- The ghost is eaten in the last check. -/
  | sent (taken : eaten = true) (away : g'.eaten = true)
      (fright : g'.fright = (if frightened then cycles else g.fright) - 1)

namespace World

variable {σ μ : Type} [RandomSource σ] [ModeSource μ]

theorem any_eats_update (w : World σ μ) (color : Color) : (update w).2.any (Event.eats color) =
    ((makeQueuedMove w.ready).2.any (Event.eats color) ||
      (collide w.moved).2.any (Event.eats color)) := by
  have plan : (planGhosts w.polled).2.any (Event.eats color) = false :=
    Event.any_eq_false_of_topic (planGhosts_tells _) Event.topic_of_eats (by decide)
  simp only [update_apply, List.any_append, plan, Bool.false_or]

theorem any_frightens_update (w : World σ μ) :
    (update w).2.any Event.frightens = (makeQueuedMove w.ready).2.any Event.frightens := by
  have plan : (planGhosts w.polled).2.any Event.frightens = false :=
    Event.any_eq_false_of_topic (planGhosts_tells _) Event.topic_of_frightens (by decide)
  have check : (collide w.moved).2.any Event.frightens = false :=
    Event.any_eq_false_of_topic (collide_tells _) Event.topic_of_frightens (by decide)
  simp only [update_apply, List.any_append, plan, check, Bool.false_or, Bool.or_false]

theorem timer_queued (w : World σ μ) (color : Color) :
    let g := w.ghosts.get color
    let g' := (makeQueuedMove w.ready).1.ghosts.get color
    g'.eaten = (g.eaten || (makeQueuedMove w.ready).2.any (Event.eats color)) ∧
      g'.fright = if (makeQueuedMove w.ready).2.any Event.frightens then
        w.config.frightCycles.toNat else g.fright := by
  intro g g'
  obtain ⟨_, _, frame⟩ := (w.polled.ghosts.get color).plan_frame w.polled.scene color
    (w.polled.sources.get color)
  have ready : w.ready.ghosts.get color = (w.polled.plan color).ghost := by
    rw [World.ready, planned, Roster.get_ofFn]
  have eaten := (makeQueuedMove_fate color w.ready).eaten
  have fright := (makeQueuedMove_alarmed color w.ready).2
  rw [ready, plan, frame] at eaten fright
  exact ⟨eaten, fright⟩

theorem timer_moved (w : World σ μ) (color : Color) :
    let g := (makeQueuedMove w.ready).1.ghosts.get color
    let g' := (collide w.moved).1.ghosts.get color
    g'.eaten = (collide w.moved).2.any (Event.eats color) ∧
      g'.fright = if g.eaten then 0 else g.fright - 1 := by
  intro g g'
  have moved : w.moved.ghosts.get color = g.update := by rw [World.moved, Roster.get_map]
  have eaten := (collide_fate color w.moved).eaten
  have fright := fright_collide w.moved color
  rw [moved] at eaten fright
  exact ⟨eaten.trans (Bool.false_or _), fright⟩

theorem elapsed_update (w : World σ μ) (color : Color) :
    (w.ghosts.get color).Elapsed w.config.frightCycles.toNat ((update w).2.any Event.frightens)
      ((update w).2.any (Event.eats color)) ((update w).1.ghosts.get color) := by
  obtain ⟨eaten, fright⟩ := timer_queued w color
  obtain ⟨sent, last⟩ := timer_moved w color
  have end_eq : (update w).1 = (collide w.moved).1 := by rw [update_apply]
  rw [end_eq, any_eats_update, any_frightens_update]
  cases gone : ((makeQueuedMove w.ready).1.ghosts.get color).eaten with
  | true =>
    refine .back ?_ (last.trans (if_pos gone))
    rw [eaten, Bool.or_eq_true] at gone
    rw [Bool.or_eq_true]
    exact gone.imp_right .inl
  | false =>
    have runs := last.trans (if_neg (Bool.not_eq_true _ ▸ gone))
    rw [fright] at runs
    rw [eaten, Bool.or_eq_false_iff] at gone
    rw [gone.2, Bool.false_or]
    cases check : (collide w.moved).2.any (Event.eats color) with
    | true => exact .sent rfl (sent.trans check) runs
    | false => exact .spared gone.1 rfl (sent.trans check) runs

/-! ## One command -/

theorem elapsed_tick {w : World σ μ} (due : w.updateDue = true) (color : Color) :
    (w.ghosts.get color).Elapsed w.config.frightCycles.toNat
        ((apply .tick w).2.any Event.frightens) ((apply .tick w).2.any (Event.eats color))
        ((apply .tick w).1.ghosts.get color) ∧
      (apply .tick w).2.countP Event.isUpdate = 1 := by
  have later : (update w).2.countP Event.isUpdate = 0 :=
    List.countP_eq_zero.mpr fun e he isUpdate =>
      topic_ne_clock_of_mem_update he (Event.topic_of_isUpdate isUpdate)
  rw [apply, advance_of_due due]
  simp only [List.any_cons, Event.frightens, Event.eats, Bool.false_or]
  refine ⟨elapsed_update w color, ?_⟩
  rw [List.countP_cons, later]
  rfl

theorem apply_idle {w : World σ μ} {command : Command}
    (idle : ¬ (command = .tick ∧ w.updateDue = true)) : (apply command w).1.ghosts = w.ghosts ∧
      ∀ e ∈ (apply command w).2,
        e.isUpdate = false ∧ e.frightens = false ∧ ∀ color, e.eats color = false := by
  obtain ⟨_, _, _, same⟩ := apply_idle_frame idle
  refine ⟨by rw [same], fun e he => ?_⟩
  cases command with
  | tick =>
    have late : w.updateDue = false := by simpa using idle
    rw [apply, advance_of_not_due late] at he
    obtain rfl := List.mem_singleton.mp he
    exact ⟨rfl, rfl, fun _ => rfl⟩
  | movePlayer d => exact absurd he List.not_mem_nil
  | setMode mode =>
    have topic := setMode_tells mode w e he
    cases e <;> first | exact ⟨rfl, rfl, fun _ => rfl⟩ | simp [Event.topic] at topic

theorem countP_isUpdate_idle {w : World σ μ} {command : Command}
    (idle : ¬ (command = .tick ∧ w.updateDue = true)) :
    (apply command w).2.countP Event.isUpdate = 0 :=
  List.countP_eq_zero.mpr fun e he => by simp [((apply_idle idle).2 e he).1]

end World

/-! ## After a super pellet -/

namespace Ghost

variable {cycles elapsed set : Nat} {taken eaten : Bool} {g g' : Ghost}

/-- The ghost when that many updates have passed since its timer was set: the timer has run on,
unless the ghost was `taken`; then it is void once the ghost is back. -/
inductive Fading (cycles elapsed : Nat) (g : Ghost) : (taken : Bool) → Prop
  | spared (here : g.eaten = false) (fright : g.fright = cycles - elapsed) :
      Fading cycles elapsed g false
  | away (void : g.eaten = true ∨ g.fright = 0) : Fading cycles elapsed g true

/-- The timer starts to run in the update in which it is set. -/
theorem Elapsed.fading_start (h : g.Elapsed cycles true eaten g') :
    g'.Fading cycles 1 (g.eaten || eaten) := by
  cases h with
  | spared here spared still fright =>
    rw [here, spared]
    exact .spared still fright
  | back away fright =>
    rw [(Bool.or_eq_true _ _).mpr away]
    exact .away (.inr fright)
  | sent taken away _ =>
    rw [taken, Bool.or_true]
    exact .away (.inl away)

theorem Elapsed.fading (h : g.Elapsed set false eaten g') (before : g.Fading cycles elapsed taken) :
    g'.Fading cycles (elapsed + 1) (taken || eaten) := by
  cases h with
  | spared here spared still fright =>
    rw [spared, Bool.or_false]
    rw [if_neg Bool.false_ne_true] at fright
    cases before with
    | spared _ running => exact .spared still (by rw [fright, running, Nat.sub_add_eq])
    | away void =>
      -- It was taken before and is here again, so no time was left on it.
      have calm : g.fright = 0 := void.resolve_left (by simp [here])
      exact .away (.inr (by rw [fright, calm]))
  | back away fright =>
    cases before with
    | spared here _ =>
      rw [away.resolve_left (by simp [here]), Bool.or_true]
      exact .away (.inr fright)
    | away _ =>
      rw [Bool.true_or]
      exact .away (.inr fright)
  | sent taken away _ =>
    rw [taken, Bool.or_true]
    exact .away (.inl away)

theorem Elapsed.fright_le (h : g.Elapsed set false eaten g') : g'.fright ≤ g.fright := by
  cases h with
  | spared _ _ _ fright | sent _ _ fright => rw [fright]; exact Nat.sub_le _ _
  | back _ fright => rw [fright]; exact Nat.zero_le _

end Ghost

namespace World

variable {σ μ : Type}

/-- The account of the timer of one ghost while the ghosts are not frightened again: each update
takes one from it. -/
def Fades (color : Color) (w : World σ μ) (told : List Event) (v : World σ μ) : Prop :=
  told.any Event.frightens = false →
    (v.ghosts.get color).fright ≤ (w.ghosts.get color).fright ∧
      ∀ cycles elapsed taken, (w.ghosts.get color).Fading cycles elapsed taken →
        (v.ghosts.get color).Fading cycles (elapsed + told.countP Event.isUpdate)
          (taken || told.any (Event.eats color))

theorem fades_account (color : Color) : Phase.Account (Fades (σ := σ) (μ := μ) color) where
  nil := by
    intro w _
    refine ⟨Nat.le_refl _, fun cycles elapsed taken fading => ?_⟩
    rw [List.any_nil, Bool.or_false]
    exact fading
  append := by
    intro a b c es fs first second calm
    rw [List.any_append, Bool.or_eq_false_iff] at calm
    obtain ⟨le, fading⟩ := first calm.1
    obtain ⟨le', fading'⟩ := second calm.2
    refine ⟨Nat.le_trans le' le, fun cycles elapsed taken before => ?_⟩
    rw [List.countP_append, List.any_append, ← Nat.add_assoc, ← Bool.or_assoc]
    exact fading' _ _ _ (fading _ _ _ before)

variable [RandomSource σ] [ModeSource μ]

theorem apply_fades (color : Color) (command : Command) :
    (apply (σ := σ) (μ := μ) command).Follows (Fades color) := by
  intro w calm
  by_cases update : command = .tick ∧ w.updateDue = true
  · obtain ⟨rfl, due⟩ := update
    obtain ⟨elapsed, one⟩ := elapsed_tick due color
    rw [calm] at elapsed
    rw [one]
    exact ⟨elapsed.fright_le, fun _ _ _ before => elapsed.fading before⟩
  · obtain ⟨same, quiet⟩ := apply_idle update
    have eats : (apply command w).2.any (Event.eats color) = false :=
      List.any_eq_false.mpr fun e he => by simp [(quiet e he).2.2 color]
    rw [same, countP_isUpdate_idle update, eats]
    refine ⟨Nat.le_refl _, fun _ _ _ before => ?_⟩
    rw [Bool.or_false]
    exact before

/-- **The timer of a ghost** goes down by the number of updates, if nothing frightens the ghosts. -/
theorem run_fades (color : Color) (commands : List Command) :
    (run (σ := σ) (μ := μ) commands).Follows (Fades color) :=
  (fades_account color).forEach (apply_fades color) commands

/-! ## Whole games -/

/-- The tick after the commands `before` is the last one that frightens the ghosts. -/
structure LastFright (commands : List Command) (w : World σ μ) (before after : List Command) :
    Prop where
  split : commands = before ++ .tick :: after
  told : ∃ cycles, .ghostsFrightened cycles ∈ (apply .tick (run before w).1).2
  last : ∀ cycles, .ghostsFrightened cycles ∉ (run after (apply .tick (run before w).1).1).2

theorem exists_lastFright {commands : List Command} {w : World σ μ}
    (h : ∃ cycles, .ghostsFrightened cycles ∈ (run commands w).2) :
    ∃ before after, LastFright commands w before after := by
  have some : ∃ e ∈ (run commands w).2, e.frightens = true :=
    List.any_eq_true.mp (Event.any_frightens.mpr h)
  obtain ⟨before, command, after, split, ⟨e, he, frightens⟩, none⟩ := exists_last_of_mem_run some
  have update : command = .tick ∧ (run before w).1.updateDue = true := by
    by_contra idle
    exact Bool.false_ne_true (((apply_idle idle).2 e he).2.1.symm.trans frightens)
  obtain ⟨rfl, _⟩ := update
  refine ⟨before, after, split, ?_, fun cycles told => none _ told rfl⟩
  exact Event.any_frightens.mp (List.any_eq_true.mpr ⟨e, he, frightens⟩)

theorem LastFright.updateDue {commands before after : List Command} {w : World σ μ}
    (h : LastFright commands w before after) : (run before w).1.updateDue = true := by
  obtain ⟨cycles, told⟩ := h.told
  by_contra late
  exact Bool.false_ne_true ((apply_idle fun h => late h.2).2 _ told).2.1.symm

theorem LastFright.fading {commands before after : List Command} {w : World σ μ}
    (h : LastFright commands w before after) (color : Color) :
    let u := (run before w).1
    let since := (run (.tick :: after) u).2
    ((run commands w).1.ghosts.get color).Fading u.config.frightCycles.toNat
      (since.countP Event.isUpdate)
      ((u.ghosts.get color).eaten || since.any (Event.eats color)) := by
  intro u since
  have since_eq : since = (apply .tick u).2 ++ (run after (apply .tick u).1).2 := rfl
  have end_eq : (run commands w).1 = (run after (apply .tick u).1).1 := by
    rw [h.split, run_append]
    rfl
  have calm : (run after (apply .tick u).1).2.any Event.frightens = false :=
    Event.any_frightens_eq_false.mpr h.last
  obtain ⟨elapsed, one⟩ := elapsed_tick h.updateDue color
  rw [Event.any_frightens.mpr h.told] at elapsed
  have fading := (run_fades color after (apply .tick u).1 calm).2 _ _ _ elapsed.fading_start
  rw [since_eq, end_eq, List.countP_append, one, List.any_append, ← Bool.or_assoc]
  exact fading

/-- **The timer of a ghost is determined by the history**: by the last fright, by the updates since
then, and by whether the ghost was away or was eaten. -/
theorem fright_of_history {config : Config} {maze : Maze} {modes : ModeControl μ}
    {sources : Roster σ} {w : World σ μ} (h : new? config maze modes sources = .ok w)
    (commands : List Command) (color : Color) :
    let g := (run commands w).1.ghosts.get color
    ((∀ cycles, .ghostsFrightened cycles ∉ (run commands w).2) → g.fright = 0) ∧
      ((∃ cycles, .ghostsFrightened cycles ∈ (run commands w).2) →
        ∃ before after, LastFright commands w before after) ∧
      ∀ before after, LastFright commands w before after →
        let u := (run before w).1
        let since := (run (.tick :: after) u).2
        let k := since.countP Event.isUpdate
        (u.updateDue = true ∧ 1 ≤ k) ∧
          ((u.ghosts.get color).eaten = false → (∀ points, .ghostEaten color points ∉ since) →
            g.fright = config.frightCycles.toNat - k) ∧
          ((u.ghosts.get color).eaten = true ∨ (∃ points, .ghostEaten color points ∈ since) →
            g.eaten = false → g.fright = 0) := by
  intro g
  refine ⟨fun none => ?_, exists_lastFright, ?_⟩
  · have start : (w.ghosts.get color).fright = 0 := by
      rw [(new?_eq_ok_iff.mp h).2, World.start, Roster.get_ofFn]
      rfl
    have le := (run_fades color commands w (Event.any_frightens_eq_false.mpr none)).1
    rw [start] at le
    exact Nat.le_zero.mp le
  · intro before after last u since k
    have rules : u.config = config := (rules_of_new? h before).1
    have fading : g.Fading u.config.frightCycles.toNat k
        ((u.ghosts.get color).eaten || since.any (Event.eats color)) := last.fading color
    rw [rules] at fading
    have one : 1 ≤ k := List.countP_pos_iff.mpr ⟨.tickAdvanced u.tick u.updateDue,
      List.mem_append_left _ (mem_apply_tick.mpr (.inl rfl)), last.updateDue⟩
    refine ⟨⟨last.updateDue, one⟩, fun here spared => ?_, fun away back => ?_⟩
    · rw [here, Event.any_eats_eq_false.mpr spared] at fading
      cases fading with
      | spared _ fright => exact fright
    · rw [← Event.any_eats, ← Bool.or_eq_true] at away
      rw [away] at fading
      cases fading with
      | away void => exact void.resolve_left (by simp [back])

/-- Fourteen updates after the fright, pink is frightened for as many less, and red is back without
fright. -/
theorem fright_of_history_classic :
    let config : Config := { updatePeriod := 1 }
    let w : World Listed ModeSnapshot := start config .classic (.external ⟨.chase, some .chase⟩)
      (.ofFn fun _ => ⟨List.replicate 8 1⟩)
    let way : List Direction := List.replicate 7 .left ++ List.replicate 3 .down ++
      List.replicate 3 .left ++ List.replicate 3 .up ++ [.left]
    let before : List Command :=
      (way.flatMap fun d => [.movePlayer d, .tick]) ++ [.movePlayer .left]
    let after : List Command := List.replicate 13 .tick
    let commands := before ++ .tick :: after
    let since := (run (.tick :: after) (run before w).1).2
    let ghosts := (run commands w).1.ghosts
    (new? config .classic (.external ⟨.chase, some .chase⟩)
        (.ofFn fun _ => (⟨List.replicate 8 1⟩ : Listed)) = .ok w ∧
      LastFright commands w before after ∧ since.countP Event.isUpdate = 14) ∧
      (((∀ points, .ghostEaten .pink points ∉ since) ∧ (ghosts.get .pink).fright = 40 - 14) ∧
        (∃ points, .ghostEaten .red points ∈ since) ∧ (ghosts.get .red).fright = 0) := by
  intro config w way before after commands since ghosts
  have new : new? config .classic (.external ⟨.chase, some .chase⟩)
      (.ofFn fun _ => (⟨List.replicate 8 1⟩ : Listed)) = .ok w :=
    new?_eq_ok_iff.mpr ⟨by decide, rfl⟩
  obtain ⟨⟨told, later⟩, updates, ⟨here, spared⟩, eaten, back⟩ :
      ((apply .tick (run before w).1).2.any Event.frightens = true ∧
        (run after (apply .tick (run before w).1).1).2.any Event.frightens = false) ∧
      since.countP Event.isUpdate = 14 ∧
      (((run before w).1.ghosts.get .pink).eaten = false ∧
        since.any (Event.eats .pink) = false) ∧
      since.any (Event.eats .red) = true ∧ (ghosts.get .red).eaten = false := by
    decide +kernel
  have last : LastFright commands w before after :=
    ⟨rfl, Event.any_frightens.mp told, Event.any_frightens_eq_false.mp later⟩
  have spared : ∀ points, .ghostEaten .pink points ∉ since := Event.any_eats_eq_false.mp spared
  have eaten : ∃ points, .ghostEaten .red points ∈ since := Event.any_eats.mp eaten
  have pink := ((fright_of_history new commands .pink).2.2 before after last).2.1 here spared
  have red := ((fright_of_history new commands .red).2.2 before after last).2.2 (.inr eaten) back
  have cycles : config.frightCycles.toNat = 40 := rfl
  rw [updates, cycles] at pink
  exact ⟨⟨new, last, updates⟩, ⟨spared, pink⟩, eaten, red⟩

end World

end MazeChase
