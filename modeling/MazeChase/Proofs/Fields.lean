import Mathlib.Algebra.Ring.Int.Defs
import Mathlib.Algebra.Ring.Nat
import Mathlib.Data.List.Nodup
import MazeChase.Proofs.PlainLines

/-!
# The fields of a configuration

A configuration has eight fields that lines can assign. Each has a name and a range of values, and
the configuration is known by the values of its fields.

* `Config.Field.key`, `Config.Field.value`, `Config.Field.Fits`: name, value and range of a field;
* `Config.ext_value`: the fields determine the configuration;
* `Config.Field.exists_value`: a field can hold every value that fits it;
* `Config.Field.graft`: one field, taken from another configuration.
-/

set_option autoImplicit false

namespace MazeChase

open Toml (Plain)

theorem Planning.ofName?_eq_some_iff {s : String} {p : Planning} :
    ofName? s = some p ↔ s = p.name := by
  constructor
  · intro read
    unfold ofName? at read
    split at read
    · exact Option.some.inj read ▸ rfl
    · exact Option.some.inj read ▸ rfl
    · exact absurd read (by simp)
  · rintro rfl
    cases p <;> rfl

theorem Planning.name_injective {p q : Planning} (same : p.name = q.name) : p = q := by
  have read : ofName? p.name = some q := ofName?_eq_some_iff.mpr same
  exact Option.some.inj ((ofName?_eq_some_iff.mpr rfl).symm.trans read)

namespace Config

/-- The fields of a configuration that lines can assign. -/
inductive Field where
  | updatePeriod
  | frightCycles
  | pelletPoints
  | superPelletPoints
  | ghostEatPoints
  | fruitThresholds
  | rngSeed
  | planning
deriving DecidableEq, Repr

namespace Field

/-- Every field. -/
def all : List Field :=
  [updatePeriod, frightCycles, pelletPoints, superPelletPoints, ghostEatPoints, fruitThresholds,
    rngSeed, planning]

/-- The name of the field in a text. -/
def key : Field → String
  | updatePeriod => "update_period"
  | frightCycles => "fright_cycles"
  | pelletPoints => "pellet_points"
  | superPelletPoints => "super_pellet_points"
  | ghostEatPoints => "ghost_eat_points"
  | fruitThresholds => "fruit_thresholds"
  | rngSeed => "rng_seed"
  | planning => "planning"

/-- The value of the field, as it is written. -/
def value (c : Config) : Field → Plain
  | updatePeriod => .integer c.updatePeriod.toNat
  | frightCycles => .integer c.frightCycles.toNat
  | pelletPoints => .integer c.pelletPoints.toNat
  | superPelletPoints => .integer c.superPelletPoints.toNat
  | ghostEatPoints => .integer c.ghostEatPoints.toNat
  | fruitThresholds => .pair c.firstFruit.toNat c.secondFruit.toNat
  | rngSeed => .integer c.rngSeed.toNat
  | planning => .text c.planning.name

/-- The value fits the field. -/
def Fits : Field → Plain → Prop
  | updatePeriod, .integer n | pelletPoints, .integer n | superPelletPoints, .integer n
  | ghostEatPoints, .integer n => 0 ≤ n ∧ n < 2 ^ 32
  | frightCycles, .integer n => 0 ≤ n ∧ n < 2 ^ 8
  | fruitThresholds, .pair a b => (0 ≤ a ∧ a < 2 ^ 16) ∧ 0 ≤ b ∧ b < 2 ^ 16
  | rngSeed, .integer n => 0 ≤ n ∧ n < 2 ^ 63
  | planning, .text s => s = "parallel" ∨ s = "sequential"
  | _, _ => False

theorem mem_all (f : Field) : f ∈ all := by cases f <;> decide

theorem nodup_keys : (all.map key).Nodup := by decide

theorem key_injective {f g : Field} (same : f.key = g.key) : f = g :=
  List.inj_on_of_nodup_map nodup_keys (mem_all f) (mem_all g) same

end Field

theorem ext_value {c d : Config} (same : ∀ f : Field, f.value c = f.value d) : c = d := by
  have word {m n : Nat} (h : Plain.integer m = .integer n) : m = n :=
    Int.ofNat.inj (Plain.integer.inj h)
  obtain ⟨first, second⟩ := Plain.pair.inj (same .fruitThresholds)
  exact Config.ext (UInt32.toNat_inj.mp (word (same .updatePeriod)))
    (UInt8.toNat_inj.mp (word (same .frightCycles)))
    (UInt32.toNat_inj.mp (word (same .pelletPoints)))
    (UInt32.toNat_inj.mp (word (same .superPelletPoints)))
    (UInt32.toNat_inj.mp (word (same .ghostEatPoints)))
    (UInt16.toNat_inj.mp (Int.ofNat.inj first)) (UInt16.toNat_inj.mp (Int.ofNat.inj second))
    (UInt64.toNat_inj.mp (word (same .rngSeed)))
    (Planning.name_injective (Plain.text.inj (same .planning)))

/-- What a field holds fits it, if the seed is not too large for a number of 64 bits with a sign. -/
theorem Field.fits_value {f : Field} {c : Config}
    (small : f = .rngSeed → c.rngSeed.toNat < 2 ^ 63) : f.Fits (f.value c) := by
  have word {m limit : Nat} (below : m < limit) : (0 : Int) ≤ m ∧ (m : Int) < limit :=
    ⟨Int.natCast_nonneg m, Int.ofNat_lt.mpr below⟩
  cases f with
  | updatePeriod => exact word c.updatePeriod.toNat_lt
  | frightCycles => exact word c.frightCycles.toNat_lt
  | pelletPoints => exact word c.pelletPoints.toNat_lt
  | superPelletPoints => exact word c.superPelletPoints.toNat_lt
  | ghostEatPoints => exact word c.ghostEatPoints.toNat_lt
  | fruitThresholds => exact ⟨word c.firstFruit.toNat_lt, word c.secondFruit.toNat_lt⟩
  | rngSeed => exact word (small rfl)
  | planning => cases h : c.planning <;> simp [Field.Fits, Field.value, Planning.name, h]

theorem Field.eq_value_iff {v : Plain} (f : Field) (c : Config)
    (small : f = .rngSeed → c.rngSeed.toNat < 2 ^ 63) :
    v = f.value c ↔ f.Fits v ∧ f.value c = v :=
  ⟨fun same => ⟨same ▸ fits_value small, same.symm⟩, fun h => h.2.symm⟩

/-- Every value that fits a field is what the field holds in some configuration. -/
theorem Field.exists_value {f : Field} {v : Plain} (fits : f.Fits v) :
    ∃ d : Config, f.value d = v := by
  -- A number within the range of a word is the number of a word.
  have word {α : Type} {limit : Nat} {ofNat : Nat → α} {toNat : α → Nat}
      (toNat_ofNat : ∀ {m}, m < limit → toNat (ofNat m) = m) {n : Int}
      (range : 0 ≤ n ∧ n < limit) : (toNat (ofNat n.toNat) : Int) = n := by
    rw [toNat_ofNat ((Int.toNat_lt range.1).mpr range.2), Int.toNat_of_nonneg range.1]
  cases f <;> cases v <;> try exact fits.elim
  case updatePeriod n =>
    exact ⟨{ updatePeriod := .ofNat n.toNat }, congrArg _ (word UInt32.toNat_ofNat_of_lt' fits)⟩
  case frightCycles n =>
    exact ⟨{ frightCycles := .ofNat n.toNat }, congrArg _ (word UInt8.toNat_ofNat_of_lt' fits)⟩
  case pelletPoints n =>
    exact ⟨{ pelletPoints := .ofNat n.toNat }, congrArg _ (word UInt32.toNat_ofNat_of_lt' fits)⟩
  case superPelletPoints n =>
    exact ⟨{ superPelletPoints := .ofNat n.toNat },
      congrArg _ (word UInt32.toNat_ofNat_of_lt' fits)⟩
  case ghostEatPoints n =>
    exact ⟨{ ghostEatPoints := .ofNat n.toNat }, congrArg _ (word UInt32.toNat_ofNat_of_lt' fits)⟩
  case fruitThresholds a b =>
    exact ⟨{ firstFruit := .ofNat a.toNat, secondFruit := .ofNat b.toNat },
      congrArg₂ _ (word UInt16.toNat_ofNat_of_lt' fits.1) (word UInt16.toNat_ofNat_of_lt' fits.2)⟩
  case rngSeed n =>
    have range : 0 ≤ n ∧ n < UInt64.size := ⟨fits.1, Int.lt_trans fits.2 (by decide)⟩
    exact ⟨{ rngSeed := .ofNat n.toNat }, congrArg _ (word UInt64.toNat_ofNat_of_lt' range)⟩
  case planning s =>
    rcases fits with rfl | rfl
    · exact ⟨{ planning := .parallel }, rfl⟩
    · exact ⟨{ planning := .sequential }, rfl⟩

/-- The configuration with one field taken from another configuration. -/
def Field.graft (c d : Config) : Field → Config
  | updatePeriod => { c with updatePeriod := d.updatePeriod }
  | frightCycles => { c with frightCycles := d.frightCycles }
  | pelletPoints => { c with pelletPoints := d.pelletPoints }
  | superPelletPoints => { c with superPelletPoints := d.superPelletPoints }
  | ghostEatPoints => { c with ghostEatPoints := d.ghostEatPoints }
  | fruitThresholds => { c with firstFruit := d.firstFruit, secondFruit := d.secondFruit }
  | rngSeed => { c with rngSeed := d.rngSeed }
  | planning => { c with planning := d.planning }

theorem Field.value_graft_self (f : Field) (c d : Config) : f.value (f.graft c d) = f.value d := by
  cases f <;> rfl

theorem Field.value_graft_of_ne {f g : Field} (other : g ≠ f) (c d : Config) :
    g.value (f.graft c d) = g.value c := by
  cases f <;> cases g <;> first | rfl | exact absurd rfl other

/-- The lines for all fields of a configuration. -/
def toLines (c : Config) : List (String × Plain) := Field.all.map fun f => (f.key, f.value c)

end Config

end MazeChase
