/-!
# Game modes

The mode steers where the ghosts head. While the game is paused, the mode before the pause still
counts.

* `Mode`, `ModeSnapshot`, `ModeSnapshot.effective`;
* `ModeSwitch`: a mode that can be set and remembers the last one other than the pause;
* `ModeSource`: anything that answers which mode is on; `ModeControl`: what a world asks.
-/

set_option autoImplicit false

namespace MazeChase

/-- What steers the ghosts. -/
inductive Mode where
  /-- Each ghost heads for its corner. -/
  | scatter
  /-- Each ghost hunts in its own way. -/
  | chase
  /-- The mode before the pause goes on. -/
  | paused
deriving DecidableEq, Repr, Inhabited

/-- The mode that is on, and the last one other than the pause. -/
structure ModeSnapshot where
  mode : Mode
  lastUnpaused : Option Mode
deriving DecidableEq, Repr

/-- The mode that steers the ghosts; none while paused with nothing before. -/
def ModeSnapshot.effective (s : ModeSnapshot) : Option Mode :=
  match s.mode with
  | .paused => s.lastUnpaused.filter (· ≠ .paused)
  | mode => some mode

theorem ModeSnapshot.effective_ne_paused (s : ModeSnapshot) : s.effective ≠ some .paused := by
  obtain ⟨mode, last⟩ := s
  cases mode <;> simp [effective, Option.filter_eq_some_iff]

/-! ## The switch -/

/-- A mode that can be set. -/
structure ModeSwitch where
  /-- What the switch reports. -/
  snapshot : ModeSnapshot
deriving DecidableEq, Repr

namespace ModeSwitch

/-- A switch that starts in a mode. -/
def new (initial : Mode) : ModeSwitch :=
  ⟨initial, if initial = .paused then none else some initial⟩

instance : Inhabited ModeSwitch := ⟨new .scatter⟩

/-- Setting the mode that is on already changes nothing. -/
def set (s : ModeSwitch) (mode : Mode) : ModeSwitch :=
  if s.snapshot.mode = mode then s
  else if mode ≠ .paused then ⟨mode, some mode⟩
  else ⟨mode, some s.snapshot.mode⟩

/-- Setting this mode is a change. -/
def changes (s : ModeSwitch) (mode : Mode) : Bool := s.snapshot.mode ≠ mode

@[simp] theorem mode_set (s : ModeSwitch) (mode : Mode) : (s.set mode).snapshot.mode = mode := by
  unfold set; split
  · assumption
  · split <;> rfl

end ModeSwitch

/-! ## Sources of the mode -/

/-- Something that answers which mode is on. An answer may change what it answers next, so every
sequence of answers is possible. -/
class ModeSource (μ : Type) where
  /-- Ask once. -/
  poll : μ → ModeSnapshot × μ

/-- A snapshot answers itself, always. -/
instance : ModeSource ModeSnapshot := ⟨fun s => (s, s)⟩

/-- No source at all, for worlds that have a switch of their own. -/
instance : ModeSource Empty := ⟨nofun⟩

/-- Where a world learns the mode: from a switch of its own, which commands set, or from a source
outside, which they do not reach. -/
inductive ModeControl (μ : Type) where
  | bundled (switch : ModeSwitch)
  | external (source : μ)
deriving DecidableEq, Repr

/-- Ask once. -/
def ModeControl.poll {μ : Type} [ModeSource μ] : ModeControl μ → ModeSnapshot × ModeControl μ
  | bundled switch => (switch.snapshot, bundled switch)
  | external source => ((ModeSource.poll source).1, external (ModeSource.poll source).2)

end MazeChase
