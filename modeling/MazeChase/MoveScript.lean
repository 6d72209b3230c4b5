import MazeChase.Direction
import MazeChase.Text.Blank

/-!
# Move scripts

A script is a row of letters for the moves of the player, one for each update. A number in front of
a letter repeats it; white space and commas are skipped, even inside a number.

* `ScriptError` and its `message`;
* `MoveScript.parse`: the moves of a script;
* `MoveScript.maxRepeat`: the largest number that may stand in front of a letter.
-/

set_option autoImplicit false

namespace MazeChase

namespace MoveScript

/-- The largest number that may stand in front of a letter. -/
def maxRepeat : Nat := 65535

end MoveScript

/-- Why a script is refused. Positions count the characters of the script from zero. -/
inductive ScriptError where
  /-- The digits up to this position make too large a number. -/
  | repeatTooLarge (position : Nat)
  /-- The character at this position is not a move. -/
  | unknownMove (letter : Char) (position : Nat)
  /-- The script ends in a number. -/
  | danglingRepeat
deriving DecidableEq, Repr

/-- What the player is told. -/
def ScriptError.message : ScriptError → String
  | repeatTooLarge position =>
    s!"repeat count at position {position} exceeds {MoveScript.maxRepeat}"
  | unknownMove letter position =>
    "unknown move `" ++ String.singleton letter ++ s!"` at position {position}"
  | danglingRepeat => "move script ends with a dangling repeat count"

namespace MoveScript

/-- The character separates nothing and is skipped. -/
def isSkipped (c : Char) : Bool := Text.isBlank c || c == ','

/-- The value of a decimal digit. -/
def digit? (c : Char) : Option Nat := if c.isDigit then some (c.toNat - '0'.toNat) else none

/-- The number with one more digit. -/
def extend (pending : Option Nat) (digit : Nat) : Nat := pending.getD 0 * 10 + digit

/-- The moves of the characters from a position on, after a number that waits for its letter, if one
does. -/
def parseFrom : (position : Nat) → (pending : Option Nat) → List Char →
    Except ScriptError (List Direction)
  | _, none, [] => .ok []
  | _, some _, [] => .error .danglingRepeat
  | position, pending, c :: rest =>
    if isSkipped c then parseFrom (position + 1) pending rest
    else
      match digit? c with
      | some digit =>
        if extend pending digit ≤ maxRepeat then
          parseFrom (position + 1) (some (extend pending digit)) rest
        else .error (.repeatTooLarge position)
      | none =>
        match Direction.ofLetter? c with
        | some d =>
          match parseFrom (position + 1) none rest with
          | .ok moves => .ok (List.replicate (pending.getD 1) d ++ moves)
          | .error e => .error e
        | none => .error (.unknownMove c position)

/-- The moves of a script. -/
def parse (text : String) : Except ScriptError (List Direction) := parseFrom 0 none text.toList

end MoveScript

end MazeChase
