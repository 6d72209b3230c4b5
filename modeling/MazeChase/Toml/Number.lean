import MazeChase.Config.Setting
import MazeChase.Toml.Quoted

/-!
# Numbers of TOML

Whole numbers of 64 bits with a sign, in base ten or, without a sign, in base sixteen, eight or two.
Between two digits there may be one underscore. A number with a point or an exponent is a fraction.

* `digitRun`: digits with underscores between them;
* `number`: a whole number or a fraction.
-/

set_option autoImplicit false

namespace MazeChase.Toml

/-- Digits in front of a text, with single underscores between them. The values of the digits are
given by `digit?`. -/
def digitRun (digit? : Char → Option Nat) : Reader (List Nat)
  | [] => none
  | c :: rest =>
    match digit? c with
    | none => none
    | some d =>
      match rest with
      | '_' :: more => (digitRun digit? more).map fun (ds, rest) => (d :: ds, rest)
      | rest =>
        match digitRun digit? rest with
        | some (ds, rest) => some (d :: ds, rest)
        | none => some ([d], rest)

/-- The value of a digit below a base. -/
def digitBelow? (base : Nat) (c : Char) : Option Nat := (hexDigit? c).filter (· < base)

/-- The number with the given digits. -/
def ofDigits (base : Nat) (ds : List Nat) : Nat := ds.foldl (fun n d => n * base + d) 0

/-- A whole number, if it has 64 bits. -/
def integer? (n : Int) : Option Setting :=
  if Int64.minValue.toInt ≤ n ∧ n ≤ Int64.maxValue.toInt then some (.integer n) else none

/-- A whole number in a base other than ten, after its mark. -/
def inBase (base : Nat) : Reader Setting := fun s =>
  match digitRun (digitBelow? base) s with
  | some (ds, rest) => (integer? (ofDigits base ds)).map fun v => (v, rest)
  | none => none

/-- The digits in front of the point: a zero stands alone. -/
def wholeDigits : Reader (List Nat)
  | '0' :: rest => some ([0], rest)
  | s => digitRun (digitBelow? 10) s

/-- A fraction lies within the range of numbers: `mantissa * 10 ^ exponent` does not round to a
number beyond all those of 64 bits. -/
def inRange (mantissa : Nat) (exponent : Int) : Bool :=
  let bound := 1 <<< 1024 - 1 <<< 970
  if mantissa = 0 then true
  else if 0 ≤ exponent then exponent ≤ 310 && mantissa * Nat.pow 10 exponent.toNat < bound
  else
    let shift := (-exponent).toNat
    (Nat.toDigits 10 mantissa).length ≤ shift || mantissa < bound * Nat.pow 10 shift

/-- The exponent of a fraction after the letter `e`. -/
def exponent : Reader Int
  | '-' :: rest => (digitRun (digitBelow? 10) rest).map fun (ds, rest) => (-ofDigits 10 ds, rest)
  | '+' :: rest => (digitRun (digitBelow? 10) rest).map fun (ds, rest) => (ofDigits 10 ds, rest)
  | s => (digitRun (digitBelow? 10) s).map fun (ds, rest) => (ofDigits 10 ds, rest)

/-- A fraction with its parts read; one beyond the upper end of the range is refused. -/
def fraction? (negative : Bool) (ds : List Nat) (places : Nat) (e : Int) : Option Setting :=
  if negative || inRange (ofDigits 10 ds) (e - places) then some .other else none

/-- What follows the digits in front of the point. -/
def numberTail (negative : Bool) (whole : List Nat) : Reader Setting
  | '.' :: rest =>
    match digitRun (digitBelow? 10) rest with
    | none => none
    | some (places, rest) =>
      match rest with
      | 'e' :: rest | 'E' :: rest =>
        match exponent rest with
        | some (e, rest) =>
          (fraction? negative (whole ++ places) places.length e).map fun v => (v, rest)
        | none => none
      | rest => (fraction? negative (whole ++ places) places.length 0).map fun v => (v, rest)
  | 'e' :: rest | 'E' :: rest =>
    match exponent rest with
    | some (e, rest) => (fraction? negative whole 0 e).map fun v => (v, rest)
    | none => none
  | rest =>
    let n : Int := ofDigits 10 whole
    (integer? (if negative then -n else n)).map fun v => (v, rest)

/-- A number after its sign. -/
def signed (negative : Bool) : Reader Setting
  | 'i' :: 'n' :: 'f' :: rest => some (.other, rest)
  | 'n' :: 'a' :: 'n' :: rest => some (.other, rest)
  | s =>
    match wholeDigits s with
    | some (whole, rest) => numberTail negative whole rest
    | none => none

/-- A number. -/
def number : Reader Setting
  | '0' :: 'x' :: rest => inBase 16 rest
  | '0' :: 'o' :: rest => inBase 8 rest
  | '0' :: 'b' :: rest => inBase 2 rest
  | '+' :: rest => signed false rest
  | '-' :: rest => signed true rest
  | s => signed false s

end MazeChase.Toml
