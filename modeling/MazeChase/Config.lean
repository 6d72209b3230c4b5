/-!
# Configuration

The numbers that tune a game, each of the width that its text form allows.

* `Config`, `Planning`;
* `ConfigError`, `ConfigError.message`, `Config.check`: a game cannot run with every configuration;
* `Config.check_eq_ok_iff`: which ones it can run with.
-/

set_option autoImplicit false

namespace MazeChase

/-- How the plans of the four ghosts are made; the plans themselves are the same. -/
inductive Planning where
  /-- Each ghost by itself, all at once. -/
  | parallel
  /-- One ghost after the other. -/
  | sequential
deriving DecidableEq, Repr, Inhabited

/-- The numbers that tune a game. -/
@[ext] structure Config where
  /-- Clock ticks from one update to the next. -/
  updatePeriod : UInt32 := 12
  /-- Updates for which a ghost stays frightened after a super pellet. -/
  frightCycles : UInt8 := 40
  /-- Points for a pellet. -/
  pelletPoints : UInt32 := 10
  /-- Points for a super pellet. -/
  superPelletPoints : UInt32 := 50
  /-- Points for a ghost. -/
  ghostEatPoints : UInt32 := 200
  /-- Pellets left when the first fruit appears. -/
  firstFruit : UInt16 := 174
  /-- Pellets left when the second fruit appears. -/
  secondFruit : UInt16 := 74
  /-- What the random streams of the ghosts are made from. -/
  rngSeed : UInt64 := 0x5eedc0de9a571e55
  /-- How plans are made. -/
  planning : Planning := .parallel
deriving DecidableEq, Repr, Inhabited

/-- Why a configuration is refused. -/
inductive ConfigError where
  | zeroUpdatePeriod
  | zeroFrightCycles
  | fruitThresholdOrder (first second : UInt16)
deriving DecidableEq, Repr

/-- What the player is told. -/
def ConfigError.message : ConfigError → String
  | zeroUpdatePeriod => "update period must be at least one tick"
  | zeroFrightCycles => "fright duration must be at least one update tick"
  | fruitThresholdOrder first second =>
    s!"first fruit threshold {first.toNat} must exceed second threshold {second.toNat}"

namespace Config

/-- Whether a game can run with the configuration; the first fault is reported. -/
def check (c : Config) : Except ConfigError Unit :=
  if c.updatePeriod = 0 then .error .zeroUpdatePeriod
  else if c.frightCycles = 0 then .error .zeroFrightCycles
  else if c.firstFruit ≤ c.secondFruit then
    .error (.fruitThresholdOrder c.firstFruit c.secondFruit)
  else .ok ()

/-- A game can run with the configuration. -/
def Valid (c : Config) : Prop :=
  0 < c.updatePeriod.toNat ∧ 0 < c.frightCycles.toNat ∧ c.secondFruit.toNat < c.firstFruit.toNat

instance (c : Config) : Decidable c.Valid := by unfold Valid; infer_instance

theorem check_eq_ok_iff (c : Config) : c.check = .ok () ↔ c.Valid := by
  have period : c.updatePeriod = 0 ↔ c.updatePeriod.toNat = 0 := UInt32.toNat_inj.symm
  have fright : c.frightCycles = 0 ↔ c.frightCycles.toNat = 0 := UInt8.toNat_inj.symm
  have fruit : c.firstFruit ≤ c.secondFruit ↔ c.firstFruit.toNat ≤ c.secondFruit.toNat :=
    UInt16.le_iff_toNat_le
  unfold check Valid
  simp only [period, fright, fruit]
  repeat' split
  all_goals grind

end Config

end MazeChase
