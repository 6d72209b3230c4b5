import MazeChase.Proofs.Account

/-!
# The books of a game

Where the player is, which pellets are left, the score and the outcome are the books of a game. They
change by entries only, and every entry is told. So the log of a game is its history, from which the
books can be read.

* `Event.IsBooked`: the events that belong to entries; `Books`: what the books say;
* `Books.Entry`: what is told together, and what it does to the books;
* `Books.History`: entries one after the other, with what is told beside them;
* **`World.history_run`**: the events of every run are the history of its books.
-/

set_option autoImplicit false

namespace MazeChase

/-- The event belongs to an entry in the books. -/
def Event.IsBooked : Event → Bool
  | .playerMoved .. | .pelletCollected .. | .levelCleared | .ghostEaten .. | .playerCaught _ => true
  | _ => false

theorem Event.notMem_of_plain {e e' : Event} (plain : e.IsBooked = false)
    (booked : e'.IsBooked = true) : e' ∉ [e] := by
  intro he
  rw [List.mem_singleton.mp he, plain] at booked
  exact Bool.false_ne_true booked

/-- The points for a pellet. -/
def Config.pelletWorth (config : Config) (isSuper : Bool) : Nat :=
  if isSuper then config.superPelletPoints.toNat else config.pelletPoints.toNat

/-- What the log of a game tells of. -/
structure Books where
  /-- The cell of the player. -/
  player : Cell
  /-- The pellets that are left. -/
  pellets : Pellets
  score : Nat
  outcome : Option Outcome

namespace Books

/-- What is told when the pellet on a cell is taken and that many are left. -/
def pelletTold (config : Config) (c : Cell) (remaining : Nat) : List Event :=
  .pelletCollected c c.IsPowerCorner remaining ::
    ((if c.IsPowerCorner then [.ghostsFrightened config.frightCycles.toNat] else []) ++
      if remaining = 0 then [.levelCleared] else [])

theorem pelletTold_eq (config : Config) (c : Cell) (remaining : Nat) : ∃ more,
    pelletTold config c remaining = .pelletCollected c c.IsPowerCorner remaining :: more ∧
      ∀ e ∈ more, (∃ cycles, e = .ghostsFrightened cycles) ∨ e = .levelCleared := by
  refine ⟨_, rfl, fun e he => ?_⟩
  rcases List.mem_append.mp he with he | he
  · split at he
    · exact .inl ⟨_, List.mem_singleton.mp he⟩
    · exact absurd he List.not_mem_nil
  · split at he
    · exact .inr (List.mem_singleton.mp he)
    · exact absurd he List.not_mem_nil

theorem mem_pelletTold {config : Config} {c : Cell} {remaining : Nat} {e : Event}
    (he : e ∈ pelletTold config c remaining) : e = .pelletCollected c c.IsPowerCorner remaining ∨
      (∃ cycles, e = .ghostsFrightened cycles) ∨ e = .levelCleared := by
  obtain ⟨more, told, plain⟩ := pelletTold_eq config c remaining
  rw [told, List.mem_cons] at he
  exact he.imp_right (plain e)

/-- The books when the player has taken the pellet on its cell. -/
def fed (b : Books) (config : Config) (rest : Pellets) : Books :=
  { b with
    pellets := rest
    score := min (b.score + config.pelletWorth b.player.IsPowerCorner) maxScore
    outcome := if rest.count = 0 then b.outcome.or (some .won) else b.outcome }

/-- An entry in the books, with what is told of it. -/
inductive Entry (config : Config) : Books → List Event → Books → Prop
  | moved (b : Books) (origin target : Location) :
      Entry config b [.playerMoved origin target] { b with player := target.cell }
  | pellet {b : Books} {rest : Pellets} (take : b.pellets.take? b.player = some rest) :
      Entry config b (pelletTold config b.player rest.count) (b.fed config rest)
  | ghost (b : Books) (color : Color) :
      Entry config b [.ghostEaten color config.ghostEatPoints.toNat]
        { b with score := min (b.score + config.ghostEatPoints.toNat) maxScore }
  | caught {b : Books} (color : Color) (running : b.outcome ≠ some .lost) :
      Entry config b [.playerCaught color] { b with outcome := b.outcome.or (some .lost) }

/-- Entries one after the other, with what else is told beside them. -/
inductive History (config : Config) (b : Books) : List Event → Books → Prop
  | nil : History config b [] b
  | aside {told : List Event} {b' : Books} {e : Event} (earlier : History config b told b')
      (plain : e.IsBooked = false) : History config b (told ++ [e]) b'
  | entry {told more : List Event} {b' b'' : Books} (earlier : History config b told b')
      (entry : Entry config b' more b'') : History config b (told ++ more) b''

namespace History

variable {config : Config} {b b' b'' : Books} {told more : List Event}

theorem append (h : History config b told b') (h' : History config b' more b'') :
    History config b (told ++ more) b'' := by
  induction h' with
  | nil =>
    rw [List.append_nil]
    exact h
  | aside _ plain ih =>
    rw [← List.append_assoc]
    exact ih.aside plain
  | entry _ next ih =>
    rw [← List.append_assoc]
    exact ih.entry next

theorem of_entry (entry : Entry config b told b') : History config b told b' :=
  .entry .nil entry

theorem of_plain (plain : ∀ e ∈ told, e.IsBooked = false) : History config b told b := by
  induction told using List.reverseRecOn with
  | nil => exact .nil
  | append_singleton told e ih =>
    refine .aside (ih fun e he => plain e (List.mem_append_left _ he)) ?_
    exact plain e (List.mem_append_right _ (List.mem_singleton_self e))

end History

end Books

/-! ## The books of a world -/

namespace World

variable {σ μ : Type}

/-- The books of the world. -/
def books (w : World σ μ) : Books := ⟨w.player.cell, w.pellets, w.score, w.outcome⟩

/-- The events are the history that led from the books of one world to those of another one. -/
def Recorded (w : World σ μ) (told : List Event) (v : World σ μ) : Prop :=
  v.config = w.config ∧ Books.History w.config w.books told v.books

theorem Recorded.of_plain {w v : World σ μ} {told : List Event} (config : v.config = w.config)
    (books : v.books = w.books) (plain : ∀ e ∈ told, e.IsBooked = false) : w.Recorded told v := by
  refine ⟨config, ?_⟩
  rw [books]
  exact .of_plain plain

theorem recorded_account : Phase.Account (Recorded (σ := σ) (μ := μ)) where
  nil := fun _ => ⟨rfl, .nil⟩
  append := by
    rintro a b c es fs ⟨config, first⟩ ⟨config', second⟩
    rw [config] at config' second
    exact ⟨config', first.append second⟩

theorem meet_recorded (color : Color) : (meet (σ := σ) (μ := μ) color).Follows Recorded := by
  intro w
  rcases meet_cases w color with ⟨_, h⟩ | ⟨_, _, h⟩ | ⟨_, _, _, h⟩ | ⟨_, _, running, h⟩ <;> rw [h]
  · exact recorded_account.nil w
  · exact ⟨rfl, .of_entry (.ghost w.books color)⟩
  · exact recorded_account.nil w
  · exact ⟨rfl, .of_entry (.caught color running)⟩

theorem collide_recorded : (collide (σ := σ) (μ := μ)).Follows Recorded :=
  recorded_account.forEach meet_recorded Color.all

theorem snd_takePellet {w : World σ μ} {rest : Pellets}
    (take : w.pellets.take? w.player.cell = some rest) :
    (takePellet w).2 = Books.pelletTold w.config w.player.cell rest.count := by
  simp only [takePellet, take, Books.pelletTold]
  by_cases power : w.player.cell.IsPowerCorner <;> by_cases last : rest.count = 0 <;>
    simp [power, last, frightenGhosts, clearLevel, award]

theorem books_takePellet {w : World σ μ} {rest : Pellets}
    (take : w.pellets.take? w.player.cell = some rest) :
    (takePellet w).1.books = w.books.fed w.config rest := by
  simp only [takePellet, take]
  by_cases power : w.player.cell.IsPowerCorner <;> by_cases last : rest.count = 0 <;>
    simp [power, last, frightenGhosts, clearLevel, award, decideOutcome, pelletValue, books,
      Books.fed, Config.pelletWorth]

theorem takePellet_recorded : (takePellet (σ := σ) (μ := μ)).Follows Recorded := by
  intro w
  cases take : w.pellets.take? w.player.cell with
  | none =>
    simp only [takePellet, take]
    exact recorded_account.nil w
  | some rest =>
    obtain ⟨_, _, _, frame⟩ := takePellet_frame w
    refine ⟨by rw [frame], ?_⟩
    rw [snd_takePellet take, books_takePellet take]
    exact .of_entry (.pellet take)

theorem releaseFruit_recorded : (releaseFruit (σ := σ) (μ := μ)).Follows Recorded := by
  intro w
  unfold releaseFruit
  split
  · exact .of_plain rfl rfl (by simp [Event.IsBooked])
  · exact .of_plain rfl rfl (by simp [Event.IsBooked])
  · exact recorded_account.nil w

theorem enter_recorded (w : World σ μ) : w.Recorded (enter w).2 (enter w).1 := by
  have step : w.Recorded [.playerMoved w.player w.player.advanced]
      { w with player := w.player.advanced } :=
    ⟨rfl, .of_entry (.moved w.books w.player w.player.advanced)⟩
  have meal := recorded_account.andThen takePellet_recorded releaseFruit_recorded
    { w with player := w.player.advanced }
  have all := recorded_account.append step meal
  simp only [Phase.fst_andThen, Phase.snd_andThen] at all
  simp only [enter, Phase.andThen_assoc, Phase.fst_andThen, Phase.snd_andThen, Phase.tell_apply]
  exact all

variable [RandomSource σ] [ModeSource μ]

theorem recorded : Account (Recorded (σ := σ) (μ := μ)) where
  toAccount := recorded_account
  poll := fun _ => ⟨rfl, .nil⟩
  plan := by
    intro w
    refine .of_plain rfl rfl fun e he => ?_
    have topic := planGhosts_tells w e he
    cases e <;> simp [Event.topic, Event.IsBooked] at topic ⊢
  queue := fun _ _ => ⟨rfl, .nil⟩
  turn := fun _ _ => ⟨rfl, .nil⟩
  blocked := fun _ => .of_plain rfl rfl (by simp [Event.IsBooked])
  enter := fun w _ => enter_recorded w
  check := collide_recorded
  move := fun _ => ⟨rfl, .nil⟩
  announce := fun _ => .of_plain rfl rfl (by simp [Event.IsBooked])
  clock := fun _ => ⟨rfl, .nil⟩
  control := by
    intro mode w
    obtain ⟨_, frame⟩ := setMode_frame mode w
    refine .of_plain (by rw [frame]) (by rw [frame]; rfl) fun e he => ?_
    have topic := setMode_tells mode w e he
    cases e <;> simp [Event.topic, Event.IsBooked] at topic ⊢

/-- **The events of every run** are the history of its books. -/
theorem history_run (commands : List Command) (w : World σ μ) :
    Books.History w.config w.books (run commands w).2 (run commands w).1.books :=
  (recorded.run commands w).2

end World

end MazeChase
