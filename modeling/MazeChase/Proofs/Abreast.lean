import MazeChase.Proofs.Run

/-!
# Two games side by side

Two games are given the same commands. What they have in common is a relation between their worlds,
and what can be heard of both is a kind of events. If every part of a game keeps the relation and
tells the same in both games, as far as it is heard, then so does every run. The games may have
random sources and mode sources of different types.

* `Phase.Abreast`, with its closure under chains: two phases that start from related states;
* `World.SameTrack`: what the player sees of its own game is the same in both worlds;
* `World.enter_abreast`, `World.step_abreast`: the step of the player, from its parts;
* `World.Abreast`: a relation that every part of a game keeps, and **`World.Abreast.run`**.
-/

set_option autoImplicit false

namespace MazeChase

/-! ## Phases side by side -/

namespace Phase

variable {α γ β ε : Type} {rel : α → γ → Prop} {heard : ε → Bool}

/-- From related states, the phases lead to related states, and they tell the same as far as it is
heard. -/
def Abreast (rel : α → γ → Prop) (heard : ε → Bool) (p : Phase α ε) (q : Phase γ ε) : Prop :=
  ∀ a b, rel a b → rel (p a).1 (q b).1 ∧ (p a).2.filter heard = (q b).2.filter heard

namespace Abreast

variable {p p' : Phase α ε} {q q' : Phase γ ε}

theorem pass : (Phase.pass : Phase α ε).Abreast rel heard (Phase.pass : Phase γ ε) :=
  fun _ _ h => ⟨h, rfl⟩

theorem tell (e : ε) : (Phase.tell e : Phase α ε).Abreast rel heard (Phase.tell e : Phase γ ε) :=
  fun _ _ h => ⟨h, rfl⟩

theorem change {f : α → α} {g : γ → γ} (h : ∀ a b, rel a b → rel (f a) (g b)) :
    (Phase.change f : Phase α ε).Abreast rel heard (Phase.change g : Phase γ ε) :=
  fun a b hab => ⟨h a b hab, rfl⟩

theorem andThen (first : p.Abreast rel heard q) (second : p'.Abreast rel heard q') :
    (p.andThen p').Abreast rel heard (q.andThen q') := by
  intro a b h
  obtain ⟨related, told⟩ := first a b h
  obtain ⟨related', told'⟩ := second _ _ related
  simp only [fst_andThen, snd_andThen, List.filter_append]
  exact ⟨related', by rw [told, told']⟩

theorem only (condition : Bool) (h : p.Abreast rel heard q) :
    (Phase.only condition p).Abreast rel heard (Phase.only condition q) := by
  cases condition with
  | true => exact h
  | false => exact pass

theorem ite {c : α → Prop} {d : γ → Prop} [DecidablePred c] [DecidablePred d]
    (same : ∀ a b, rel a b → (c a ↔ d b)) (yes : p.Abreast rel heard q)
    (no : p'.Abreast rel heard q') :
    Phase.Abreast rel heard (fun a => if c a then p a else p' a)
      (fun b => if d b then q b else q' b) := by
  intro a b h
  by_cases hc : c a
  · simp only [if_pos hc, if_pos ((same a b h).mp hc)]
    exact yes a b h
  · simp only [if_neg hc, if_neg fun hd => hc ((same a b h).mpr hd)]
    exact no a b h

theorem forEach {f : β → Phase α ε} {g : β → Phase γ ε} (h : ∀ b, (f b).Abreast rel heard (g b))
    (bs : List β) : (Phase.forEach f bs).Abreast rel heard (Phase.forEach g bs) := by
  induction bs with
  | nil => exact pass
  | cons b bs ih => exact (h b).andThen ih

theorem of_silent (keeps : ∀ a b, rel a b → rel (p a).1 (q b).1)
    (left : p.Tells fun e => heard e = false) (right : q.Tells fun e => heard e = false) :
    p.Abreast rel heard q := by
  intro a b h
  have none : ∀ told : List ε, (∀ e ∈ told, heard e = false) → told.filter heard = [] :=
    fun told silent => List.filter_eq_nil_iff.mpr fun e he => by simp [silent e he]
  exact ⟨keeps a b h, by rw [none _ (left a), none _ (right b)]⟩

end Abreast

end Phase

/-! ## Parts of a game side by side -/

namespace World

variable {σ τ μ ν : Type}

/-- The worlds are the same to a player who looks at neither ghosts nor points. -/
structure SameTrack (w : World σ μ) (v : World τ ν) : Prop where
  maze : w.maze = v.maze
  player : w.player = v.player
  queued : w.queued = v.queued
  pellets : w.pellets = v.pellets
  fruit : w.fruit = v.fruit
  tick : w.tick = v.tick
  updatePeriod : w.config.updatePeriod = v.config.updatePeriod
  frightCycles : w.config.frightCycles = v.config.frightCycles
  firstFruit : w.config.firstFruit = v.config.firstFruit
  secondFruit : w.config.secondFruit = v.config.secondFruit

theorem SameTrack.updateDue {w : World σ μ} {v : World τ ν} (h : w.SameTrack v) :
    w.updateDue = v.updateDue := by
  rw [World.updateDue, World.updateDue, h.tick, h.updatePeriod]

variable {rel : World σ μ → World τ ν → Prop} {heard : Event → Bool}

theorem takePellet_abreast (track : ∀ w v, rel w v → w.SameTrack v)
    (feed : ∀ w v rest, rel w v →
      rel (({ w with pellets := rest } : World σ μ).award (w.pelletValue w.player.cell))
        (({ v with pellets := rest } : World τ ν).award (v.pelletValue v.player.cell)))
    (frighten : frightenGhosts.Abreast rel heard frightenGhosts)
    (clear : clearLevel.Abreast rel heard clearLevel) :
    takePellet.Abreast rel heard takePellet := by
  intro w v h
  have cell : v.player.cell = w.player.cell := by rw [(track w v h).player]
  have take : v.pellets.take? v.player.cell = w.pellets.take? w.player.cell := by
    rw [(track w v h).pellets, cell]
  cases found : w.pellets.take? w.player.cell with
  | none =>
    rw [takePellet_of_none found, takePellet_of_none (take.trans found)]
    exact ⟨h, rfl⟩
  | some rest =>
    have taken := ((Phase.Abreast.tell
        (.pelletCollected w.player.cell w.player.cell.IsPowerCorner rest.count)).andThen
      (frighten.only w.player.cell.IsPowerCorner)).andThen (clear.only (rest.count = 0))
    have fed := feed w v rest h
    rw [takePellet_of_some found, takePellet_of_some (take.trans found)]
    rw [cell] at fed ⊢
    exact taken _ _ fed

theorem releaseFruit_abreast (track : ∀ w v, rel w v → w.SameTrack v)
    (fruit : ∀ w v fruit, rel w v → rel { w with fruit := fruit } { v with fruit := fruit }) :
    releaseFruit.Abreast rel heard releaseFruit := by
  intro w v h
  have same := track w v h
  have due : v.dueFruit = w.dueFruit := by
    simp only [dueFruit, same.pellets, same.fruit, same.firstFruit, same.secondFruit]
  rw [releaseFruit, releaseFruit, due, same.fruit]
  cases w.dueFruit with
  | none => exact ⟨h, rfl⟩
  | some wave =>
    cases wave with
    | first => exact ⟨fruit w v _ h, rfl⟩
    | second => exact ⟨fruit w v _ h, rfl⟩

theorem enter_abreast (track : ∀ w v, rel w v → w.SameTrack v)
    (go : ∀ w v, rel w v →
      rel { w with player := w.player.advanced } { v with player := v.player.advanced })
    (feed : ∀ w v rest, rel w v →
      rel (({ w with pellets := rest } : World σ μ).award (w.pelletValue w.player.cell))
        (({ v with pellets := rest } : World τ ν).award (v.pelletValue v.player.cell)))
    (frighten : frightenGhosts.Abreast rel heard frightenGhosts)
    (clear : clearLevel.Abreast rel heard clearLevel)
    (fruit : ∀ w v fruit, rel w v → rel { w with fruit := fruit } { v with fruit := fruit }) :
    enter.Abreast rel heard enter := by
  intro w v h
  have moved := go w v h
  have step := ((Phase.Abreast.tell (.playerMoved w.player w.player.advanced)).andThen
    (takePellet_abreast track feed frighten clear)).andThen (releaseFruit_abreast track fruit)
  rw [enter, enter]
  rw [← (track w v h).player] at moved ⊢
  exact step _ _ moved

theorem step_abreast (track : ∀ w v, rel w v → w.SameTrack v)
    (enter : enter.Abreast rel heard enter)
    (check : collide.Abreast rel heard collide) : step.Abreast rel heard step := by
  intro w v h
  have maze := (track w v h).maze
  have player := (track w v h).player
  cases wall : w.maze.wallAt w.player.advanced.cell with
  | true =>
    have wall' : v.maze.wallAt v.player.advanced.cell = true := by rw [← maze, ← player, wall]
    rw [step_of_wall wall, step_of_wall wall', player]
    exact ⟨h, rfl⟩
  | false =>
    have wall' : v.maze.wallAt v.player.advanced.cell = false := by rw [← maze, ← player, wall]
    obtain ⟨entered, told⟩ := enter w v h
    obtain ⟨checked, told'⟩ := check _ _ entered
    rw [step_of_open wall, step_of_open wall']
    simp only [Phase.fst_andThen, Phase.snd_andThen, List.filter_append]
    exact ⟨checked, by rw [told, told']⟩

theorem setMode_abreast {rel : World σ μ → World τ μ → Prop}
    (modes : ∀ w v, rel w v → w.modes = v.modes)
    (control : ∀ w v modes, rel w v → rel { w with modes := modes } { v with modes := modes })
    (mode : Mode) : (setMode mode).Abreast rel heard (setMode mode) := by
  intro w v h
  unfold setMode
  rw [← modes w v h]
  cases w.modes with
  | bundled switch => exact ⟨control w v _ h, rfl⟩
  | external source => exact ⟨h, rfl⟩

/-! ## Games side by side -/

variable [RandomSource σ] [ModeSource μ] [RandomSource τ] [ModeSource ν]

/-- A relation between two worlds that every part of a game keeps, telling the same in both of
them as far as it is heard. -/
structure Abreast (rel : World σ μ → World τ ν → Prop) (heard : Event → Bool) : Prop where
  track : ∀ w v, rel w v → w.SameTrack v
  poll : ∀ w v, rel w v → rel w.polled v.polled
  plan : planGhosts.Abreast rel heard planGhosts
  queue : ∀ w v move, rel w v → rel { w with queued := move } { v with queued := move }
  turn : ∀ w v d, rel w v →
    rel { w with player := w.player.facing d } { v with player := v.player.facing d }
  enter : enter.Abreast rel heard enter
  check : collide.Abreast rel heard collide
  move : ∀ w v, rel w v → rel { w with ghosts := w.ghosts.map Ghost.update }
    { v with ghosts := v.ghosts.map Ghost.update }
  clock : ∀ w v, rel w v → rel { w with tick := min (w.tick + 1) maxTick }
    { v with tick := min (v.tick + 1) maxTick }
  control : ∀ mode, (setMode mode).Abreast rel heard (setMode mode)

namespace Abreast

theorem makeQueuedMove (abreast : Abreast rel heard) :
    makeQueuedMove.Abreast rel heard makeQueuedMove := by
  intro w v h
  have queued := (abreast.track w v h).queued
  unfold World.makeQueuedMove
  rw [← queued]
  cases w.queued with
  | none => exact ⟨h, rfl⟩
  | some d =>
    have turn : Phase.Abreast rel heard
        (Phase.change fun w : World σ μ => { w with player := w.player.facing d })
        (Phase.change fun v : World τ ν => { v with player := v.player.facing d }) :=
      .change fun w v h => abreast.turn w v d h
    have move : (movePlayer d).Abreast rel heard (movePlayer d) :=
      (turn.andThen abreast.check).andThen
        (step_abreast abreast.track abreast.enter abreast.check)
    exact move _ _ (abreast.queue w v none h)

theorem update (abreast : Abreast rel heard) : update.Abreast rel heard update := by
  have poll : (pollMode (σ := σ)).Abreast rel heard (pollMode (σ := τ)) := .change abreast.poll
  have move : moveGhosts.Abreast rel heard moveGhosts := .change abreast.move
  exact (((poll.andThen abreast.plan).andThen abreast.makeQueuedMove).andThen move).andThen
    abreast.check

theorem apply (abreast : Abreast rel heard) (command : Command) :
    (apply command).Abreast rel heard (apply command) := by
  cases command with
  | tick =>
    intro w v h
    have track := abreast.track w v h
    have clock : Phase.Abreast rel heard
        (Phase.change fun w : World σ μ => { w with tick := min (w.tick + 1) maxTick })
        (Phase.change fun v : World τ ν => { v with tick := min (v.tick + 1) maxTick }) :=
      .change abreast.clock
    have tick := ((Phase.Abreast.tell (.tickAdvanced w.tick w.updateDue)).andThen
      (abreast.update.only w.updateDue)).andThen clock
    simp only [World.apply, advance, ← track.tick, ← track.updateDue]
    exact tick w v h
  | movePlayer d => exact .change fun w v h => abreast.queue w v (some d) h
  | setMode mode => exact abreast.control mode

/-- **What every part of a game keeps, every run keeps.** -/
theorem run (abreast : Abreast rel heard) (commands : List Command) :
    (run commands).Abreast rel heard (run commands) :=
  .forEach abreast.apply commands

end Abreast

end World

end MazeChase
