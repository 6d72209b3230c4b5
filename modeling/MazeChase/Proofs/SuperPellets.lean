import MazeChase.Proofs.Arrival
import MazeChase.Proofs.Books
import MazeChase.Proofs.Counting
import MazeChase.Proofs.Fright

/-!
# Super pellets over a whole game

Ghosts are frightened by super pellets, and a super pellet lies on one of the four power corners. As
none comes back once it is taken, a game frightens the ghosts four times at most.

* `Event.takesSuper`: the player took a super pellet;
* `Pellets.supers`: the power corners on which a pellet is left; `Pellets.card_supers_take`;
* `World.Spent`, **`World.run_spent`**: every super pellet that is gone was told of once, and so was
  the fright that it brought.
-/

set_option autoImplicit false

namespace MazeChase

namespace Event

/-- The player took a super pellet. -/
def takesSuper : Event → Bool
  | .pelletCollected _ isSuper _ => isSuper
  | _ => false

theorem ofArrival_of_takesSuper {e : Event} (h : e.takesSuper = true) : e.ofArrival = true := by
  cases e <;> first | rfl | exact absurd h Bool.false_ne_true

theorem ofArrival_of_frightens {e : Event} (h : e.frightens = true) : e.ofArrival = true :=
  ofArrival_of_meal (topic_of_frightens h)

end Event

namespace Pellets

/-- The power corners on which a pellet is left. -/
def supers (p : Pellets) : Finset Cell := p.cells.cells.filter Cell.IsPowerCorner

theorem card_supers_le (p : Pellets) : p.supers.card ≤ 4 := by
  have within : p.supers ⊆ Cell.powerCorners.toFinset := fun c hc =>
    List.mem_toFinset.mpr (Finset.mem_filter.mp hc).2
  exact Finset.card_le_card within

/-- Taking the pellet on a power corner leaves one super pellet less, and taking any other pellet
leaves them alone. -/
theorem card_supers_take {p rest : Pellets} {c : Cell} (take : p.take? c = some rest) :
    (if c.IsPowerCorner then 1 else 0) + rest.supers.card = p.supers.card := by
  obtain ⟨found, rfl⟩ := take?_eq_some.mp take
  have left : supers ⟨p.cells.erase c, p.count - 1⟩ = p.supers.erase c := by
    rw [supers, CellSet.cells_erase, Finset.filter_erase, supers]
  rw [left]
  split
  next power =>
    have here : c ∈ p.supers := Finset.mem_filter.mpr ⟨CellSet.mem_cells.mpr found, power⟩
    rw [Nat.add_comm, Finset.card_erase_add_one here]
  next plain =>
    have gone : c ∉ p.supers := fun here => plain (Finset.mem_filter.mp here).2
    rw [Finset.erase_eq_of_notMem gone, Nat.zero_add]

theorem card_supers_of_none {p : Pellets} (counted : p.Counted) (none : p.count = 0) :
    p.supers.card = 0 := by
  have all : p.cells.cells.card = 0 := by rw [← CellSet.size_eq_card, ← counted, none]
  exact Nat.le_zero.mp (all ▸ Finset.card_filter_le _ _)

end Pellets

theorem Books.countP_pelletTold (config : Config) (c : Cell) (remaining : Nat) :
    (pelletTold config c remaining).countP Event.takesSuper =
        (if c.IsPowerCorner then 1 else 0) ∧
      (pelletTold config c remaining).countP Event.frightens =
        if c.IsPowerCorner then 1 else 0 := by
  unfold pelletTold
  by_cases power : c.IsPowerCorner <;> by_cases last : remaining = 0 <;>
    simp [power, last, List.countP_cons, Event.takesSuper, Event.frightens]

namespace World

variable {σ μ : Type}

/-- The account of the super pellets: those that are gone were told to be taken, and the ghosts were
frightened as often. -/
def Spent (w : World σ μ) (told : List Event) (v : World σ μ) : Prop :=
  told.countP Event.frightens = told.countP Event.takesSuper ∧
    told.countP Event.takesSuper + v.pellets.supers.card = w.pellets.supers.card

theorem spent_account : Phase.Account (Spent (σ := σ) (μ := μ)) where
  nil := fun _ => ⟨rfl, Nat.zero_add _⟩
  append := by
    rintro a b c es fs ⟨same, spent⟩ ⟨same', spent'⟩
    refine ⟨?_, ?_⟩
    · rw [List.countP_append, List.countP_append, same, same']
    · rw [List.countP_append]
      omega

theorem takePellet_spent : (takePellet (σ := σ) (μ := μ)).Follows Spent := by
  intro w
  cases take : w.pellets.take? w.player.cell with
  | none =>
    rw [takePellet_of_none take]
    exact spent_account.nil w
  | some rest =>
    have left : (takePellet w).1.pellets = rest := congrArg Books.pellets (books_takePellet take)
    obtain ⟨taken, frightened⟩ := Books.countP_pelletTold w.config w.player.cell rest.count
    rw [Spent, snd_takePellet take, left, taken, frightened]
    exact ⟨rfl, Pellets.card_supers_take take⟩

theorem releaseFruit_spent : (releaseFruit (σ := σ) (μ := μ)).Follows Spent := by
  intro w
  unfold releaseFruit
  split <;> exact ⟨rfl, Nat.zero_add _⟩

theorem enter_spent (w : World σ μ) : Spent w (enter w).2 (enter w).1 := by
  have step : Phase.Follows (.tell (.playerMoved w.player w.player.advanced))
      (Spent (σ := σ) (μ := μ)) := fun _ => ⟨rfl, Nat.zero_add _⟩
  exact spent_account.andThen (spent_account.andThen step takePellet_spent) releaseFruit_spent
    { w with player := w.player.advanced }

variable [RandomSource σ] [ModeSource μ]

theorem apply_spent (command : Command) :
    (apply (σ := σ) (μ := μ) command).Follows Spent := by
  intro w
  rw [Spent, ← Event.countP_filter_ofArrival Event.ofArrival_of_frightens,
    ← Event.countP_filter_ofArrival Event.ofArrival_of_takesSuper]
  cases apply_arrives command w with
  | stays same quiet =>
    have pellets : (apply command w).1.pellets = w.pellets := congrArg Larder.pellets same
    rw [quiet, pellets]
    exact spent_account.nil w
  | @enters u _ before after told =>
    have start : u.pellets = w.pellets := congrArg Larder.pellets before
    have left : (apply command w).1.pellets = (enter u).1.pellets := congrArg Larder.pellets after
    rw [told, left, ← start]
    exact enter_spent u

/-- **The super pellets of a run**: each one that is gone was told of once. -/
theorem run_spent (commands : List Command) : (run (σ := σ) (μ := μ) commands).Follows Spent :=
  spent_account.forEach apply_spent commands

theorem any_frightens_run_of_none {w : World σ μ} (counted : w.pellets.Counted)
    (none : w.pellets.count = 0) (commands : List Command) :
    (run commands w).2.any Event.frightens = false := by
  obtain ⟨same, spent⟩ := run_spent commands w
  rw [Pellets.card_supers_of_none counted none, ← same] at spent
  have never : (run commands w).2.countP Event.frightens = 0 :=
    Nat.eq_zero_of_add_eq_zero_right spent
  exact List.any_eq_false.mpr (List.countP_eq_zero.mp never)

theorem any_frightens_apply_of_none {w : World σ μ} (counted : w.pellets.Counted)
    (none : w.pellets.count = 0) (command : Command) :
    (apply command w).2.any Event.frightens = false := by
  rw [← run_singleton]
  exact any_frightens_run_of_none counted none [command]

end World

end MazeChase
