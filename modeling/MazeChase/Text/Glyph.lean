import MazeChase.Text.Visible

/-!
# Quoted characters

How a message shows a single character, so that every character can be told from every other one:
in single quotes, with an escape for what would not be visible.

* `Text.escape`, `Text.quoteChar`.
-/

set_option autoImplicit false

namespace MazeChase.Text

/-- The lowercase hexadecimal digits of a number. -/
def hex (n : Nat) : String := String.ofList (Nat.toDigits 16 n)

/-- A character as it stands between single quotes. -/
def escape (c : Char) : String :=
  match c with
  | '\x00' => "\\0"
  | '\t' => "\\t"
  | '\r' => "\\r"
  | '\n' => "\\n"
  | '\\' => "\\\\"
  | '\x27' => "\\'"
  | c => if isVisible c then String.singleton c else "\\u\x7b" ++ hex c.toNat ++ "\x7d"

/-- A character in single quotes. -/
def quoteChar (c : Char) : String := "'" ++ escape c ++ "'"

end MazeChase.Text
