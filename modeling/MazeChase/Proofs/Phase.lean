import MazeChase.Phase

/-!
# What phases tell and keep

A tick is a chain of phases, so what holds along a tick is put together from what holds of each
phase. Two views are used: what a phase may tell, and which facts about the state it keeps.

* `Phase.Tells`: every event of the phase is one of these, with its closure under chains;
* `Phase.mem_forEach`: where an event of a repeated phase comes from;
* `Phase.Keeps.only`, `Phase.Keeps.change`: closure of `Keeps` beyond `andThen` and `forEach`.
-/

set_option autoImplicit false

namespace MazeChase.Phase

variable {α β ε : Type} {p q : Phase α ε}

@[simp] theorem pass_apply (a : α) : (pass : Phase α ε) a = (a, []) := rfl

@[simp] theorem tell_apply (e : ε) (a : α) : tell e a = (a, [e]) := rfl

@[simp] theorem change_apply (f : α → α) (a : α) : (change f : Phase α ε) a = (f a, []) := rfl

@[simp] theorem only_true (p : Phase α ε) : only true p = p := rfl

@[simp] theorem only_false (p : Phase α ε) : only false p = pass := rfl

/-! ## What phases tell -/

/-- Every event of the phase is one of these. -/
def Tells (p : Phase α ε) (these : ε → Prop) : Prop := ∀ a, ∀ e ∈ (p a).2, these e

variable {these : ε → Prop}

theorem Tells.pass : (Phase.pass : Phase α ε).Tells these := by
  intro a e he
  simp at he

theorem Tells.tell {e : ε} (h : these e) : (Phase.tell e : Phase α ε).Tells these := by
  intro a e' he
  obtain rfl := List.mem_singleton.mp he
  exact h

theorem Tells.andThen (hp : p.Tells these) (hq : q.Tells these) : (p.andThen q).Tells these := by
  intro a e he
  rw [snd_andThen, List.mem_append] at he
  rcases he with he | he
  · exact hp a e he
  · exact hq _ e he

theorem Tells.only (condition : Bool) (hp : p.Tells these) :
    (Phase.only condition p).Tells these := by
  cases condition
  · exact Tells.pass
  · exact hp

theorem Tells.imp {those : ε → Prop} (hp : p.Tells these) (h : ∀ e, these e → those e) :
    p.Tells those := fun a e he => h e (hp a e he)

theorem mem_forEach {f : β → Phase α ε} {bs : List β} {a : α} {e : ε}
    (he : e ∈ (forEach f bs a).2) :
    ∃ before b after, bs = before ++ b :: after ∧ e ∈ (f b (forEach f before a).1).2 := by
  induction bs generalizing a with
  | nil => simp at he
  | cons b bs ih =>
    rw [forEach_cons, snd_andThen, List.mem_append] at he
    rcases he with he | he
    · exact ⟨[], b, bs, rfl, he⟩
    · obtain ⟨before, c, after, rfl, hc⟩ := ih he
      exact ⟨b :: before, c, after, rfl, hc⟩

/-! ## What phases keep -/

variable {holds : α → Prop}

theorem Keeps.pass : (Phase.pass : Phase α ε).Keeps holds := fun _ h => h

theorem Keeps.tell (e : ε) : (Phase.tell e : Phase α ε).Keeps holds := fun _ h => h

theorem Keeps.change {f : α → α} (h : ∀ a, holds a → holds (f a)) :
    (Phase.change f : Phase α ε).Keeps holds := h

theorem Keeps.only (condition : Bool) (hp : p.Keeps holds) :
    (Phase.only condition p).Keeps holds := by
  cases condition
  · exact Keeps.pass
  · exact hp

end MazeChase.Phase
