/-!
# The four ghosts

A ghost is known by its colour, which also fixes how it hunts. A `Roster` holds one thing for each
ghost.

* `Color`, `Color.all`, `Color.name`;
* `Roster.get`, `Roster.set`, `Roster.ofFn`, `Roster.map`;
* `Roster.get_set`, `Roster.get_ofFn`, `Roster.ext_get`: a roster is what `get` says of it.
-/

set_option autoImplicit false

namespace MazeChase

/-- The identity of a ghost. -/
inductive Color where
  /-- Heads for the player. -/
  | red
  /-- Heads for the cells in front of the player. -/
  | pink
  /-- Heads for the reflection of red through a cell in front of the player. -/
  | cyan
  /-- Heads for the player from afar and retreats when close. -/
  | orange
deriving DecidableEq, Repr, Inhabited

namespace Color

/-- Every ghost, in roster order. -/
def all : List Color := [red, pink, cyan, orange]

/-- The place of the ghost in roster order. -/
def index : Color → Nat
  | red => 0
  | pink => 1
  | cyan => 2
  | orange => 3

/-- The name shown for the ghost. -/
def name : Color → String
  | red => "red"
  | pink => "pink"
  | cyan => "cyan"
  | orange => "orange"

theorem mem_all (c : Color) : c ∈ all := by cases c <;> decide

theorem all_index (c : Color) : all[c.index]? = some c := by cases c <;> rfl

theorem nodup_all : all.Nodup := by decide

end Color

/-- One thing for each ghost. -/
@[ext] structure Roster (α : Type) where
  red : α
  pink : α
  cyan : α
  orange : α
deriving DecidableEq, Repr

namespace Roster

variable {α β : Type}

/-- The thing that belongs to a ghost. -/
def get (r : Roster α) : Color → α
  | .red => r.red
  | .pink => r.pink
  | .cyan => r.cyan
  | .orange => r.orange

/-- The roster with another thing for one ghost. -/
def set (r : Roster α) (c : Color) (a : α) : Roster α :=
  match c with
  | .red => { r with red := a }
  | .pink => { r with pink := a }
  | .cyan => { r with cyan := a }
  | .orange => { r with orange := a }

/-- The roster that holds `f c` for each ghost `c`. -/
def ofFn (f : Color → α) : Roster α := ⟨f .red, f .pink, f .cyan, f .orange⟩

/-- The same function applied for each ghost. -/
def map (f : α → β) (r : Roster α) : Roster β := ofFn fun c => f (r.get c)

/-- What the roster holds, in roster order. -/
def toList (r : Roster α) : List α := Color.all.map r.get

theorem ext_get {r s : Roster α} (h : ∀ c, r.get c = s.get c) : r = s :=
  Roster.ext (h .red) (h .pink) (h .cyan) (h .orange)

@[simp] theorem get_ofFn (f : Color → α) (c : Color) : (ofFn f).get c = f c := by cases c <;> rfl

@[simp] theorem get_map (f : α → β) (r : Roster α) (c : Color) :
    (r.map f).get c = f (r.get c) := by simp [map]

@[simp] theorem get_set_self (r : Roster α) (c : Color) (a : α) : (r.set c a).get c = a := by
  cases c <;> rfl

@[simp] theorem get_set_of_ne (r : Roster α) {c d : Color} (a : α) (h : d ≠ c) :
    (r.set c a).get d = r.get d := by
  cases c <;> cases d <;> first | rfl | exact absurd rfl h

theorem get_set (r : Roster α) (c d : Color) (a : α) :
    (r.set c a).get d = if d = c then a else r.get d := by
  split
  next h => rw [h, get_set_self]
  next h => rw [get_set_of_ne r a h]

@[simp] theorem set_get (r : Roster α) (c : Color) : r.set c (r.get c) = r := by cases c <;> rfl

@[simp] theorem ofFn_get (r : Roster α) : ofFn r.get = r := rfl

end Roster

end MazeChase
