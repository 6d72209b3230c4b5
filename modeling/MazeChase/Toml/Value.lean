import MazeChase.Toml.Moment
import MazeChase.Toml.Number
import MazeChase.Toml.Table

/-!
# Keys and values of TOML

A key is a row of names with points between them. A value is a string, a number, a date or time, a
truth value, or values in brackets or braces, nested up to a depth.

* `maxDepth`;
* `name`, `key`;
* `scalar`, `entry`, `value`.
-/

set_option autoImplicit false

namespace MazeChase.Toml

/-- How deep brackets and braces may be nested, and how many names a key may have. -/
def maxDepth : Nat := 79

/-- A character of a name without quotes. -/
def isNameChar (c : Char) : Bool := c.isAlphanum || c == '_' || c == '-'

/-- A name, with quotes or without. -/
def name : Reader String := fun s =>
  match s with
  | [] => none
  | c :: _ =>
    if c = '"' ∨ c = '\x27' then quoted s
    else if isNameChar c then some (String.ofList (s.takeWhile isNameChar), s.dropWhile isNameChar)
    else none

/-- A key of at most that many names: the names that lead to the last one, and the last one. Blanks
around the names do not count. -/
def key : (most : Nat) → Reader (List String × String)
  | 0, _ => none
  | most + 1, s =>
    match name (skipBlanks s) with
    | none => none
    | some (first, rest) =>
      match skipBlanks rest with
      | '.' :: rest =>
        (key most rest).map fun ((path, last), rest) => ((first :: path, last), rest)
      | rest => some (([], first), rest)

/-- A value without brackets and braces. -/
def scalar : Reader Setting
  | 't' :: 'r' :: 'u' :: 'e' :: rest => some (.other, rest)
  | 'f' :: 'a' :: 'l' :: 's' :: 'e' :: rest => some (.other, rest)
  | '"' :: rest => (string ('"' :: rest)).map fun (text, rest) => (.text text, rest)
  | '\x27' :: rest => (string ('\x27' :: rest)).map fun (text, rest) => (.text text, rest)
  | s =>
    if looksLikeMoment s then (moment? s).map fun rest => (.other, rest)
    else number s

/-- A key, an equals sign and a value. -/
def entry (value : Reader Setting) : Reader ((List String × String) × Setting) := fun s =>
  match key maxDepth s with
  | some (k, '=' :: rest) => (value (skipBlanks rest)).map fun (v, rest) => ((k, v), rest)
  | _ => none

/-- The table of entries in braces. -/
def ofEntries? : List ((List String × String) × Setting) → Option Node.Entries :=
  List.foldlM (fun entries ((path, last), v) => Node.assign? path last v entries) []

/-- A value with brackets and braces nested no deeper than that. -/
def value : (depth : Nat) → Reader Setting
  | depth + 1, '[' :: rest =>
    match skipLines false rest with
    | ']' :: rest => some (.list [], rest)
    | rest => (items (value depth) (skipLines false) ']' true rest).map fun (vs, rest) =>
      (.list vs, rest)
  | depth + 1, '{' :: rest =>
    match skipBlanks rest with
    | '}' :: rest => some (.table [], rest)
    | rest =>
      match items (entry (value depth)) skipBlanks '}' false rest with
      | some (es, rest) => (ofEntries? es).map fun es => (.table (Node.toSettings es), rest)
      | none => none
  | _, s => scalar s

end MazeChase.Toml
