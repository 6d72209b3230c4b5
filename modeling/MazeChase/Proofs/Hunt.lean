import Mathlib.Algebra.Order.BigOperators.Group.List
import Mathlib.Algebra.Order.Group.Nat
import MazeChase.Proofs.SuperPellets

/-!
# The hunt for a ghost

A super pellet opens the hunt for every ghost, and eating a ghost closes the hunt for it, though its
timer runs on until it comes back. The log alone tells whether a ghost is hunted, and only a hunted
ghost is eaten.

* `Event.hunt`, `Event.FairHunt`: whether a ghost is hunted, read off the log, and logs in which it
  is eaten only then;
* `Event.exists_fright_of_hunted`, `Event.FairHunt.countP_le`: what such a log says;
* `Ghost.IsPrey`, `World.Hunted`: the account of one ghost that the player can eat;
* **`World.eaten_once_per_fright`**: every time that a ghost is eaten, it has been frightened since
  the last time.
-/

set_option autoImplicit false

namespace MazeChase

/-! ## Logs -/

namespace Event

/-- The player ate a ghost. -/
def isFeast : Event → Bool
  | .ghostEaten .. => true
  | _ => false

/-- Whether the ghost is hunted after the event: frightening the ghosts opens the hunt, and eating
this one closes it. -/
def hunt (color : Color) (hunted : Bool) (e : Event) : Bool :=
  e.frightens || (hunted && !e.eats color)

/-- The ghost is told to be eaten only while it is hunted. -/
def FairHunt (color : Color) : (hunted : Bool) → List Event → Prop
  | _, [] => True
  | hunted, e :: told =>
    (e.eats color = true → hunted = true) ∧ FairHunt color (e.hunt color hunted) told

variable {color : Color} {hunted : Bool} {told more : List Event}

theorem fairHunt_append : FairHunt color hunted (told ++ more) ↔
    FairHunt color hunted told ∧ FairHunt color (told.foldl (hunt color) hunted) more := by
  induction told generalizing hunted with
  | nil => exact ⟨fun h => ⟨trivial, h⟩, And.right⟩
  | cons e told ih => rw [List.cons_append, FairHunt, FairHunt, ih, and_assoc, List.foldl_cons]

theorem fairHunt_of_spared (spared : told.any (eats color) = false) :
    FairHunt color hunted told ∧
      told.foldl (hunt color) hunted = (hunted || told.any frightens) := by
  induction told generalizing hunted with
  | nil => exact ⟨trivial, (Bool.or_false _).symm⟩
  | cons e told ih =>
    rw [List.any_cons, Bool.or_eq_false_iff] at spared
    obtain ⟨fair, last⟩ := @ih (e.hunt color hunted) spared.2
    refine ⟨⟨fun eaten => absurd eaten (by simp [spared.1]), fair⟩, ?_⟩
    rw [List.foldl_cons, last, hunt, spared.1, List.any_cons, Bool.not_false, Bool.and_true,
      Bool.or_comm e.frightens, Bool.or_assoc]

theorem exists_fright_of_hunted (h : told.foldl (hunt color) false = true) :
    ∃ earlier cycles since, told = earlier ++ .ghostsFrightened cycles :: since ∧
      ∀ points, .ghostEaten color points ∉ since := by
  induction told using List.reverseRecOn with
  | nil => exact absurd h Bool.false_ne_true
  | append_singleton told e ih =>
    rw [List.foldl_concat, hunt, Bool.or_eq_true, Bool.and_eq_true] at h
    rcases h with frightens | ⟨hunted, spared⟩
    · obtain ⟨cycles, rfl⟩ := frightens_iff.mp frightens
      exact ⟨told, cycles, [], rfl, fun _ => List.not_mem_nil⟩
    · obtain ⟨earlier, cycles, since, rfl, none⟩ := ih hunted
      refine ⟨earlier, cycles, since ++ [e], by simp, fun points eaten => ?_⟩
      rcases List.mem_append.mp eaten with eaten | eaten
      · exact none points eaten
      · rw [← List.mem_singleton.mp eaten] at spared
        exact absurd spared (by simp [eats])

theorem toNat_hunt_le {e : Event} (fair : e.eats color = true → hunted = true) :
    (e.hunt color hunted).toNat + (if e.eats color then 1 else 0) ≤
      (if e.frightens then 1 else 0) + hunted.toNat := by
  rw [hunt]
  revert fair
  cases e.eats color <;> cases e.frightens <;> cases hunted <;> decide

theorem countP_isFeast (told : List Event) :
    told.countP isFeast = (Color.all.map fun color => told.countP (eats color)).sum := by
  induction told with
  | nil => rfl
  | cons e told ih =>
    have one : (if e.isFeast then 1 else 0) =
        (Color.all.map fun color => if e.eats color then 1 else 0).sum := by
      cases e with
      | ghostEaten color _ => cases color <;> rfl
      | _ => rfl
    simp only [List.countP_cons, List.sum_map_add, ih, one]

/-- **In a fair hunt** a ghost is eaten at most once for each fright. -/
theorem FairHunt.countP_le (h : FairHunt color hunted told) :
    told.countP (eats color) ≤ told.countP frightens + hunted.toNat := by
  induction told generalizing hunted with
  | nil => exact Nat.zero_le _
  | cons e told ih =>
    have first := toNat_hunt_le h.1
    have rest := ih h.2
    rw [List.countP_cons, List.countP_cons]
    omega

end Event

/-! ## Prey -/

/-- The player can eat the ghost. -/
def Ghost.IsPrey (g : Ghost) : Prop := g.eaten = false ∧ g.IsFrightened

theorem Ghost.IsPrey.of_update {g : Ghost} (h : g.update.IsPrey) : g.IsPrey := by
  have runs : 0 < g.update.fright := h.2
  rw [Ghost.update] at runs
  cases eaten : g.eaten with
  | true =>
    rw [eaten, if_pos rfl] at runs
    exact absurd runs (Nat.lt_irrefl 0)
  | false =>
    rw [eaten, if_neg Bool.false_ne_true] at runs
    exact ⟨eaten, Nat.lt_of_lt_of_le runs (Nat.sub_le _ _)⟩

namespace World

variable {σ μ : Type}

/-- The account of one ghost: it is eaten only while the log says that it is hunted, and it can be
eaten only while it is hunted. -/
def Hunted (color : Color) (w : World σ μ) (told : List Event) (v : World σ μ) : Prop :=
  ∀ hunted, ((w.ghosts.get color).IsPrey → hunted = true) →
    Event.FairHunt color hunted told ∧
      ((v.ghosts.get color).IsPrey → told.foldl (Event.hunt color) hunted = true)

theorem hunted_account (color : Color) : Phase.Account (Hunted (σ := σ) (μ := μ) color) where
  nil := fun _ _ prey => ⟨trivial, prey⟩
  append := by
    intro a b c es fs first second hunted prey
    obtain ⟨fair, prey⟩ := first hunted prey
    obtain ⟨fair', prey'⟩ := second _ prey
    refine ⟨Event.fairHunt_append.mpr ⟨fair, fair'⟩, ?_⟩
    rw [List.foldl_append]
    exact prey'

/-- A ghost that is not told to be eaten can be eaten only if it could be before, or if the ghosts
were frightened. -/
theorem Hunted.of_spared {color : Color} {w v : World σ μ} {told : List Event}
    (spared : told.any (Event.eats color) = false)
    (prey : (v.ghosts.get color).IsPrey →
      (w.ghosts.get color).IsPrey ∨ told.any Event.frightens = true) : Hunted color w told v := by
  intro hunted before
  obtain ⟨fair, last⟩ := @Event.fairHunt_of_spared color hunted told spared
  refine ⟨fair, fun now => ?_⟩
  rw [last, Bool.or_eq_true]
  exact (prey now).imp_left before

theorem Hunted.of_topic {color : Color} {w v : World σ μ} {told : List Event} {topic : Topic}
    (these : ∀ e ∈ told, e.topic = topic) (other : topic ≠ .contact)
    (prey : (v.ghosts.get color).IsPrey → (w.ghosts.get color).IsPrey) :
    Hunted color w told v :=
  .of_spared (Event.any_eq_false_of_topic these Event.topic_of_eats other)
    fun now => .inl (prey now)

theorem meet_hunted (color c : Color) :
    (meet (σ := σ) (μ := μ) c).Follows (Hunted color) := by
  intro w
  rcases meet_cases w c with ⟨_, h⟩ | ⟨touches, frightened, h⟩ | ⟨_, _, _, h⟩ | ⟨_, _, _, h⟩ <;>
    rw [h]
  · exact (hunted_account color).nil w
  · by_cases same : c = color
    · subst same
      intro hunted prey
      refine ⟨⟨fun _ => prey ⟨touches.2, frightened⟩, trivial⟩, fun now => ?_⟩
      have eaten := now.1
      simp only [award, Roster.get_set_self, Ghost.respawn, Bool.true_eq_false] at eaten
    · refine .of_spared (by simp [Event.eats, same]) fun now => .inl ?_
      simp only [award, Roster.get_set_of_ne _ _ (Ne.symm same)] at now
      exact now
  · exact (hunted_account color).nil w
  · exact .of_spared rfl .inl

theorem collide_hunted (color : Color) :
    (collide (σ := σ) (μ := μ)).Follows (Hunted color) :=
  (hunted_account color).forEach (meet_hunted color) Color.all

theorem enter_hunted (color : Color) (w : World σ μ) :
    Hunted color w (enter w).2 (enter w).1 := by
  obtain ⟨_, fright⟩ := enter_alarmed color w
  obtain ⟨_, eaten⟩ := ghost_enter w color
  refine .of_spared ?_ fun now => ?_
  · obtain ⟨told, meal, told_eq⟩ := snd_enter w
    rw [told_eq, List.any_cons]
    exact Event.any_eq_false_of_topic meal Event.topic_of_eats (by decide)
  · rw [Ghost.IsPrey, eaten, Ghost.IsFrightened, fright] at now
    split at now
    next frightened => exact .inr frightened
    next => exact .inl now

variable [RandomSource σ] [ModeSource μ]

theorem hunted (color : Color) : Account (Hunted (σ := σ) (μ := μ) color) where
  toAccount := hunted_account color
  poll := fun _ => .of_spared rfl .inl
  plan := by
    intro w
    refine .of_topic (planGhosts_tells w) (by decide) fun now => ?_
    obtain ⟨_, _, frame⟩ := (w.ghosts.get color).plan_frame w.scene color (w.sources.get color)
    rw [planned, Roster.get_ofFn, World.plan, frame] at now
    exact now
  queue := fun _ _ => .of_spared rfl .inl
  turn := fun _ _ => .of_spared rfl .inl
  blocked := fun _ => .of_spared rfl .inl
  enter := fun w _ => enter_hunted color w
  check := collide_hunted color
  move := fun w => .of_spared rfl fun now => by
    rw [Roster.get_map] at now
    exact .inl now.of_update
  announce := fun _ => .of_spared rfl .inl
  clock := fun _ => .of_spared rfl .inl
  control := by
    intro mode w
    obtain ⟨_, frame⟩ := setMode_frame mode w
    refine .of_topic (setMode_tells mode w) (by decide) fun now => ?_
    rw [frame] at now
    exact now

omit [RandomSource σ] in
theorem not_isPrey_of_new? {config : Config} {maze : Maze} {modes : ModeControl μ}
    {sources : Roster σ} {w : World σ μ} (h : new? config maze modes sources = .ok w)
    (color : Color) : ¬ (w.ghosts.get color).IsPrey := by
  rw [(new?_eq_ok_iff.mp h).2, start, Roster.get_ofFn]
  exact fun prey => absurd prey.2 (Nat.lt_irrefl 0)

/-- **A ghost is eaten once for each fright.** So sixteen ghosts are eaten in a game at most, after
four frights. -/
theorem eaten_once_per_fright {config : Config} {maze : Maze} {modes : ModeControl μ}
    {sources : Roster σ} {w : World σ μ} (h : new? config maze modes sources = .ok w)
    (commands : List Command) :
    let log := (run commands w).2
    (∀ color before points after, log = before ++ .ghostEaten color points :: after →
      ∃ earlier cycles since, before = earlier ++ .ghostsFrightened cycles :: since ∧
        ∀ points, .ghostEaten color points ∉ since) ∧
    (∀ color, log.countP (Event.eats color) ≤ log.countP Event.takesSuper) ∧
    log.countP Event.isFeast ≤ 16 ∧ log.countP Event.frightens ≤ 4 := by
  intro log
  have fair color : Event.FairHunt color false log :=
    ((hunted color).run commands w false fun prey => absurd prey (not_isPrey_of_new? h color)).1
  obtain ⟨frights, spent⟩ : Spent w log (run commands w).1 := run_spent commands w
  have frights_le : log.countP Event.frightens ≤ 4 := by
    have supers := w.pellets.card_supers_le
    omega
  have eaten_le color : log.countP (Event.eats color) ≤ log.countP Event.frightens :=
    (fair color).countP_le
  refine ⟨fun color before points after split => ?_, fun color => ?_, ?_, frights_le⟩
  · have whole := fair color
    rw [split, Event.fairHunt_append] at whole
    exact Event.exists_fright_of_hunted (whole.2.1 (Event.eats_iff.mpr ⟨points, rfl⟩))
  · rw [← frights]
    exact eaten_le color
  · have each color : log.countP (Event.eats color) ≤ 4 := (eaten_le color).trans frights_le
    calc log.countP Event.isFeast
        = (Color.all.map fun color => log.countP (Event.eats color)).sum := Event.countP_isFeast log
      _ ≤ (Color.all.map fun _ => 4).sum := List.sum_le_sum fun color _ => each color
      _ = 16 := rfl

/-- The player takes a super pellet, waits there, and eats red. -/
theorem eaten_once_per_fright_classic :
    let config : Config := { updatePeriod := 1 }
    let w : World Listed ModeSnapshot := start config .classic (.external ⟨.chase, some .chase⟩)
      (.ofFn fun _ => ⟨List.replicate 8 1⟩)
    let way : List Direction := List.replicate 7 .left ++ List.replicate 3 .down ++
      List.replicate 3 .left ++ List.replicate 3 .up ++ [.left, .left]
    let commands : List Command :=
      (way.flatMap fun d => [.movePlayer d, .tick]) ++ List.replicate 11 .tick
    let log := (run commands w).2
    new? config .classic (.external ⟨.chase, some .chase⟩)
        (.ofFn fun _ => (⟨List.replicate 8 1⟩ : Listed)) = .ok w ∧
      log.countP Event.takesSuper = 1 ∧ log.countP (Event.eats .red) = 1 ∧
      ∃ before points after, log = before ++ .ghostEaten .red points :: after ∧
        ∃ earlier cycles since, before = earlier ++ .ghostsFrightened cycles :: since ∧
          ∀ points, .ghostEaten .red points ∉ since := by
  intro config w way commands log
  have new : new? config .classic (.external ⟨.chase, some .chase⟩)
      (.ofFn fun _ => (⟨List.replicate 8 1⟩ : Listed)) = .ok w :=
    new?_eq_ok_iff.mpr ⟨by decide, rfl⟩
  obtain ⟨taken, eaten⟩ : log.countP Event.takesSuper = 1 ∧ 1 ≤ log.countP (Event.eats .red) := by
    decide +kernel
  obtain ⟨hunted, once, _⟩ := eaten_once_per_fright new commands
  obtain ⟨e, told, eats⟩ := List.countP_pos_iff.mp eaten
  obtain ⟨points, rfl⟩ := Event.eats_iff.mp eats
  obtain ⟨before, after, split⟩ := List.append_of_mem told
  exact ⟨new, taken, Nat.le_antisymm (taken ▸ once .red) eaten, before, points, after, split,
    hunted .red before points after split⟩

end World

end MazeChase
