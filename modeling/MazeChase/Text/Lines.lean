/-!
# Lines

A text is cut at its line feeds. A carriage return before a line feed belongs to the line end, and
a text that ends in a line end has no empty line after it.

* `Text.lines`.
-/

set_option autoImplicit false

namespace MazeChase.Text

/-- The lines of a text, without their ends. -/
def lines : List Char → List (List Char)
  | [] => []
  | '\n' :: rest => [] :: lines rest
  | '\r' :: '\n' :: rest => [] :: lines rest
  | c :: rest =>
    match lines rest with
    | [] => [[c]]
    | line :: more => (c :: line) :: more

end MazeChase.Text
