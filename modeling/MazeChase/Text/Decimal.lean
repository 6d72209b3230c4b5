/-!
# Whole numbers in decimal digits

A number as it is given on a command line: digits after a sign that may be missing, and nothing
else.

* `Text.digitsValue?`, `Text.readNat?`, `Text.readInt?`.
-/

set_option autoImplicit false

namespace MazeChase.Text

/-- The number that decimal digits make; there must be at least one. -/
def digitsValue? (cs : List Char) : Option Nat :=
  if cs.isEmpty then none
  else if cs.all Char.isDigit then
    some (cs.foldl (fun n c => n * 10 + (c.toNat - '0'.toNat)) 0)
  else none

/-- A number below a limit, with or without a plus sign. -/
def readNat? (limit : Nat) (text : String) : Option Nat :=
  let digits :=
    match text.toList with
    | '+' :: rest => rest
    | cs => cs
  (digitsValue? digits).filter (· < limit)

/-- A number below a limit, with or without a sign; only zero can have a minus sign. -/
def readInt? (limit : Nat) (text : String) : Option Nat :=
  match text.toList with
  | '-' :: rest => (digitsValue? rest).filter (· = 0)
  | _ => readNat? limit text

end MazeChase.Text
