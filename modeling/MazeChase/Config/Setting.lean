import MazeChase.Config

/-!
# Settings

A configuration is written as a list of named values, whatever the text format. A name may be given
once; what is not given keeps its default.

* `Setting`: the values of the formats, as far as a configuration can hold them;
* `Dialect`: the two points in which text formats differ;
* `Config.assign?`: one named value, put into its field if it fits;
* `Config.ofSettings?`: a configuration from its named values.
-/

set_option autoImplicit false

namespace MazeChase

/-- A value in a text format. -/
inductive Setting where
  | integer (n : Int)
  | text (s : String)
  | list (items : List Setting)
  | table (entries : List (String × Setting))
  /-- A value that says that there is none. -/
  | null
  /-- A value that no field can hold: a truth value, a fraction, a date. -/
  | other
deriving Inhabited

/-- What a text format decides for itself. -/
structure Dialect where
  /-- Items beyond the ones that a list needs are ignored. -/
  ignoresSurplus : Bool
  /-- A choice may be written as a table with its name as the only key, and this as the value. -/
  isUnit : Setting → Bool

namespace Setting

/-- A whole number from zero on, below a limit. -/
def natBelow? (limit : Nat) : Setting → Option Nat
  | integer n => if 0 ≤ n ∧ n < limit then some n.toNat else none
  | _ => none

/-- A word of 8 bits. -/
def uint8? (s : Setting) : Option UInt8 := (s.natBelow? UInt8.size).map UInt8.ofNat

/-- A word of 16 bits. -/
def uint16? (s : Setting) : Option UInt16 := (s.natBelow? UInt16.size).map UInt16.ofNat

/-- A word of 32 bits. -/
def uint32? (s : Setting) : Option UInt32 := (s.natBelow? UInt32.size).map UInt32.ofNat

/-- A word of 64 bits. -/
def uint64? (s : Setting) : Option UInt64 := (s.natBelow? UInt64.size).map UInt64.ofNat

/-- Two words of 16 bits. -/
def pair? (d : Dialect) : Setting → Option (UInt16 × UInt16)
  | list (a :: b :: surplus) =>
    if surplus.isEmpty || d.ignoresSurplus then
      match a.uint16?, b.uint16? with
      | some a, some b => some (a, b)
      | _, _ => none
    else none
  | _ => none

/-- The name of a choice. -/
def choice? (d : Dialect) : Setting → Option String
  | text s => some s
  | table [(name, value)] => if d.isUnit value then some name else none
  | _ => none

end Setting

/-- A way of planning by its name. -/
def Planning.ofName? : String → Option Planning
  | "parallel" => some .parallel
  | "sequential" => some .sequential
  | _ => none

/-- The name of a way of planning. -/
def Planning.name : Planning → String
  | parallel => "parallel"
  | sequential => "sequential"

namespace Config

/-- The configuration with one field set, if the name is that of a field and the value fits it. -/
def assign? (d : Dialect) (c : Config) (name : String) (value : Setting) : Option Config :=
  match name with
  | "update_period" => value.uint32?.map fun n => { c with updatePeriod := n }
  | "fright_cycles" => value.uint8?.map fun n => { c with frightCycles := n }
  | "pellet_points" => value.uint32?.map fun n => { c with pelletPoints := n }
  | "super_pellet_points" => value.uint32?.map fun n => { c with superPelletPoints := n }
  | "ghost_eat_points" => value.uint32?.map fun n => { c with ghostEatPoints := n }
  | "fruit_thresholds" =>
    (value.pair? d).map fun p => { c with firstFruit := p.1, secondFruit := p.2 }
  | "rng_seed" => value.uint64?.map fun n => { c with rngSeed := n }
  | "planning" =>
    ((value.choice? d).bind Planning.ofName?).map fun p => { c with planning := p }
  | _ => none

/-- The configuration with fields set in order. -/
def assignAll? (d : Dialect) : Config → List (String × Setting) → Option Config
  | c, [] => some c
  | c, (name, value) :: rest => (c.assign? d name value).bind fun c => assignAll? d c rest

/-- The configuration that named values describe: no name twice, every value fitting its field, and
the default in every field that is not named. -/
def ofSettings? (d : Dialect) (settings : List (String × Setting)) : Option Config :=
  if (settings.map Prod.fst).Nodup then assignAll? d {} settings else none

end Config

end MazeChase
