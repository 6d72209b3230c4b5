/-!
# Reading TOML, character by character

A reader takes what it reads off the front of a text. What separates the parts of a text is skipped
here: blanks, line ends, and remarks, which run from a `#` to the end of the line.

* `Reader`;
* `skipBlanks`, `skipLines`, `endLine?`;
* `items`: things with commas between them, up to a closing bracket.
-/

set_option autoImplicit false

namespace MazeChase.Toml

/-- What is read off the front of a text, and the rest. -/
abbrev Reader (α : Type) : Type := List Char → Option (α × List Char)

/-- A space or a tab. -/
def isBlank (c : Char) : Bool := c == ' ' || c == '\t'

/-- A character that may stand in a remark or a string; no control character but the tab. -/
def isPlain (c : Char) : Bool := c == '\t' || (' ' ≤ c && c != '\x7f')

/-- The text after its blanks. -/
def skipBlanks (s : List Char) : List Char := s.dropWhile isBlank

/-- The text after its blanks, line ends and remarks. A remark is cut off at a character that may
not stand in it, at which reading then fails. -/
def skipLines (inRemark : Bool) : List Char → List Char
  | [] => []
  | '\n' :: rest => skipLines false rest
  | '\r' :: '\n' :: rest => skipLines false rest
  | c :: rest =>
    if inRemark then if isPlain c then skipLines true rest else c :: rest
    else if isBlank c then skipLines false rest
    else if c == '#' then skipLines true rest
    else c :: rest

/-- The text after the end of a line, before which blanks and a remark may stand. -/
def endLine? (s : List Char) : Option (List Char) :=
  let s := skipBlanks s
  let s := if s.head? = some '#' then s.dropWhile isPlain else s
  match s with
  | [] => some []
  | '\n' :: rest => some rest
  | '\r' :: '\n' :: rest => some rest
  | _ => none

/-- Things with commas between them, up to a closing bracket; at least one. `skip` goes over what
may stand around a comma, and `trailing` allows a comma after the last thing. -/
def items {α : Type} (item : Reader α) (skip : List Char → List Char) (close : Char)
    (trailing : Bool) (s : List Char) : Option (List α × List Char) :=
  match item s with
  | none => none
  | some (a, rest) =>
    match skip rest with
    | [] => none
    | c :: rest =>
      if c = close then some ([a], rest)
      else if c = ',' then
        let rest := skip rest
        if trailing ∧ rest.head? = some close then some ([a], rest.tail)
        else if rest.length < s.length then
          (items item skip close trailing rest).map fun (more, rest) => (a :: more, rest)
        else none
      else none
termination_by s.length

end MazeChase.Toml
