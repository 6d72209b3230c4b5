import MazeChase.Proofs.Run

/-!
# Accounts of what was told

What a phase tells and what it does belong together. An account relates the state before, the
events told since then, and the state that was reached, and it can be put together along a chain of
phases. So it holds of a whole run when it holds of the parts of a game.

* `Phase.Account`: a relation that can be put together; `Phase.Follows`: a phase that obeys it;
* `World.makeQueuedMove_follows`: a queued move, from its parts;
* `World.Account`: a relation that every part of a game obeys, and **`World.Account.run`**.
-/

set_option autoImplicit false

namespace MazeChase

/-! ## Phases -/

namespace Phase

variable {α β ε : Type} {p q : Phase α ε} {rel : α → List ε → α → Prop}

/-- A relation between a state, what was told since then, and the state reached. It holds when
nothing happens, and it can be put together. -/
structure Account (rel : α → List ε → α → Prop) : Prop where
  nil : ∀ a, rel a [] a
  append : ∀ {a b c : α} {es fs : List ε}, rel a es b → rel b fs c → rel a (es ++ fs) c

/-- The phase obeys the relation, from wherever it starts. -/
def Follows (p : Phase α ε) (rel : α → List ε → α → Prop) : Prop := ∀ a, rel a (p a).2 (p a).1

namespace Account

variable {a b c : α} {es : List ε}

theorem nil_append (account : Account rel) (h : rel a [] b) (h' : rel b es c) : rel a es c :=
  account.append h h'

theorem append_nil (account : Account rel) (h : rel a es b) (h' : rel b [] c) : rel a es c := by
  have all := account.append h h'
  rwa [List.append_nil] at all

theorem pass (account : Account rel) : (Phase.pass : Phase α ε).Follows rel := account.nil

theorem andThen (account : Account rel) (hp : p.Follows rel) (hq : q.Follows rel) :
    (p.andThen q).Follows rel := by
  intro a
  rw [fst_andThen, snd_andThen]
  exact account.append (hp a) (hq _)

theorem only (account : Account rel) (condition : Bool) (h : p.Follows rel) :
    (Phase.only condition p).Follows rel := by
  cases condition with
  | true => exact h
  | false => exact account.pass

theorem forEach (account : Account rel) {f : β → Phase α ε} (h : ∀ b, (f b).Follows rel)
    (bs : List β) : (Phase.forEach f bs).Follows rel := by
  induction bs with
  | nil => exact account.pass
  | cons b bs ih => exact account.andThen (h b) ih

end Account

end Phase

/-! ## Parts of a game -/

namespace World

variable {σ μ : Type} {rel : World σ μ → List Event → World σ μ → Prop}

theorem step_follows (account : Phase.Account rel) (check : collide.Follows rel)
    (blocked : ∀ w, rel w [.playerBlocked w.player.heading] w)
    (go : ∀ w, w.maze.wallAt w.player.advanced.cell = false → rel w (enter w).2 (enter w).1) :
    step.Follows rel := by
  intro w
  cases wall : w.maze.wallAt w.player.advanced.cell with
  | true => rw [step_of_wall wall]; exact blocked w
  | false =>
    rw [step_of_open wall, Phase.fst_andThen, Phase.snd_andThen]
    exact account.append (go w wall) (check _)

theorem makeQueuedMove_follows (account : Phase.Account rel) (check : collide.Follows rel)
    (turn : ∀ w d, rel w [] { w with player := w.player.facing d })
    (blocked : ∀ w, rel w [.playerBlocked w.player.heading] w)
    (go : ∀ w, w.maze.wallAt w.player.advanced.cell = false → rel w (enter w).2 (enter w).1)
    (queue : ∀ w move, rel w [] { w with queued := move }) : makeQueuedMove.Follows rel := by
  intro w
  unfold makeQueuedMove
  cases w.queued with
  | none => exact account.nil w
  | some d =>
    have move : (movePlayer d).Follows rel :=
      account.andThen (account.andThen (fun w => turn w d) check)
        (step_follows account check blocked go)
    exact account.nil_append (queue w none) (move _)

variable [RandomSource σ] [ModeSource μ]

/-- A relation between worlds that can be put together, and that every part of a game obeys. -/
structure Account (rel : World σ μ → List Event → World σ μ → Prop) : Prop
    extends Phase.Account rel where
  poll : ∀ w, rel w [] w.polled
  plan : ∀ w, rel w (planGhosts w).2 w.planned
  queue : ∀ w move, rel w [] { w with queued := move }
  turn : ∀ w d, rel w [] { w with player := w.player.facing d }
  blocked : ∀ w, rel w [.playerBlocked w.player.heading] w
  enter : ∀ w, w.maze.wallAt w.player.advanced.cell = false → rel w (enter w).2 (enter w).1
  check : collide.Follows rel
  move : ∀ w, rel w [] { w with ghosts := w.ghosts.map Ghost.update }
  announce : ∀ w, rel w [.tickAdvanced w.tick w.updateDue] w
  clock : ∀ w, rel w [] { w with tick := min (w.tick + 1) maxTick }
  control : ∀ mode, (setMode mode).Follows rel

namespace Account

theorem update (account : Account rel) : update.Follows rel := by
  intro w
  have ready : rel w (planGhosts w.polled).2 w.ready :=
    account.nil_append (account.poll w) (account.plan w.polled)
  have stepped : rel w.ready (makeQueuedMove w.ready).2 (makeQueuedMove w.ready).1 :=
    makeQueuedMove_follows account.toAccount account.check account.turn account.blocked
      account.enter account.queue w.ready
  have moved : rel w ((planGhosts w.polled).2 ++ (makeQueuedMove w.ready).2) w.moved :=
    account.append_nil (account.append ready stepped) (account.move _)
  simp only [update_apply]
  exact account.append moved (account.check w.moved)

theorem apply (account : Account rel) (command : Command) : (apply command).Follows rel := by
  intro w
  cases command with
  | tick =>
    change rel w (advance w).2 (advance w).1
    cases due : w.updateDue with
    | true =>
      have told := account.append (account.announce w) (account.update w)
      rw [due] at told
      rw [advance_of_due due]
      exact account.append_nil told (account.clock _)
    | false =>
      have told := account.announce w
      rw [due] at told
      rw [advance_of_not_due due]
      exact account.append_nil told (account.clock w)
  | movePlayer d => exact account.queue w _
  | setMode mode => exact account.control mode w

/-- **What every part of a game obeys, every run obeys.** -/
theorem run (account : Account rel) (commands : List Command) : (run commands).Follows rel :=
  account.toAccount.forEach account.apply commands

end Account

end World

end MazeChase
