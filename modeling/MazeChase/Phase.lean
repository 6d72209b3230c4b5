/-!
# Phases

A phase changes a state and tells what happened. A tick of a world is a chain of phases.

* `Phase.pass`, `Phase.tell`, `Phase.change`, `Phase.andThen`, `Phase.forEach`, `Phase.only`;
* `Phase.Keeps`: what holds of the state before a phase holds after it, with the closure of this
  under chains (`Keeps.andThen`, `Keeps.forEach`).
-/

set_option autoImplicit false

namespace MazeChase

/-- A change of state, with the events that tell about it. -/
abbrev Phase (α ε : Type) : Type := α → α × List ε

namespace Phase

variable {α β ε : Type}

/-- The phase in which nothing happens. -/
def pass : Phase α ε := fun a => (a, [])

/-- The phase that only tells something. -/
def tell (e : ε) : Phase α ε := fun a => (a, [e])

/-- The phase that changes the state in silence. -/
def change (f : α → α) : Phase α ε := fun a => (f a, [])

/-- One phase after another. -/
def andThen (p q : Phase α ε) : Phase α ε := fun a =>
  let (b, es) := p a
  let (c, fs) := q b
  (c, es ++ fs)

/-- A phase for each member of a list, in order. -/
def forEach (p : β → Phase α ε) : List β → Phase α ε
  | [] => pass
  | b :: bs => (p b).andThen (forEach p bs)

/-- The phase if the condition holds. -/
def only (condition : Bool) (p : Phase α ε) : Phase α ε := if condition then p else pass

@[simp] theorem fst_andThen (p q : Phase α ε) (a : α) : (p.andThen q a).1 = (q (p a).1).1 := rfl

@[simp] theorem snd_andThen (p q : Phase α ε) (a : α) :
    (p.andThen q a).2 = (p a).2 ++ (q (p a).1).2 := rfl

theorem andThen_assoc (p q r : Phase α ε) :
    (p.andThen q).andThen r = p.andThen (q.andThen r) := by
  funext a; simp [andThen, List.append_assoc]

@[simp] theorem pass_andThen (p : Phase α ε) : pass.andThen p = p := rfl

@[simp] theorem andThen_pass (p : Phase α ε) : p.andThen pass = p := by
  funext a; simp [andThen, pass]

@[simp] theorem forEach_nil (p : β → Phase α ε) : forEach p [] = pass := rfl

@[simp] theorem forEach_cons (p : β → Phase α ε) (b : β) (bs : List β) :
    forEach p (b :: bs) = (p b).andThen (forEach p bs) := rfl

theorem forEach_append (p : β → Phase α ε) (bs cs : List β) :
    forEach p (bs ++ cs) = (forEach p bs).andThen (forEach p cs) := by
  induction bs with
  | nil => rfl
  | cons b bs ih => simp only [List.cons_append, forEach_cons, ih, andThen_assoc]

/-! ## What phases keep -/

/-- What holds of the state before the phase holds after it. -/
def Keeps (p : Phase α ε) (holds : α → Prop) : Prop := ∀ a, holds a → holds (p a).1

theorem Keeps.andThen {p q : Phase α ε} {holds : α → Prop} (hp : p.Keeps holds)
    (hq : q.Keeps holds) : (p.andThen q).Keeps holds :=
  fun a ha => hq _ (hp a ha)

theorem Keeps.forEach {p : β → Phase α ε} {holds : α → Prop} (h : ∀ b, (p b).Keeps holds)
    (bs : List β) : (Phase.forEach p bs).Keeps holds := by
  induction bs with
  | nil => exact fun _ ha => ha
  | cons b bs ih => exact (h b).andThen ih

end Phase

end MazeChase
