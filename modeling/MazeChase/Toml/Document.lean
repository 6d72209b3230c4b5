import MazeChase.Toml.Value

/-!
# TOML documents

A document is a row of lines: an assignment, the header of a table, or the header of the next table
of a row. Assignments belong to the table of the header before them.

* `Line`, `line`, `lines`;
* `Document`, `Document.add?`, `Document.ofLines?`;
* `settings?`: the named values of a document.
-/

set_option autoImplicit false

namespace MazeChase.Toml

/-- A line that says something. -/
inductive Line where
  | assignment (path : List String) (name : String) (value : Setting)
  | header (path : List String) (name : String)
  | elementHeader (path : List String) (name : String)

/-- A line, without what may follow it before the line ends. -/
def line : Reader Line
  | '[' :: '[' :: rest =>
    match key maxDepth rest with
    | some ((path, last), ']' :: ']' :: rest) => some (.elementHeader path last, rest)
    | _ => none
  | '[' :: rest =>
    match key maxDepth rest with
    | some ((path, last), ']' :: rest) => some (.header path last, rest)
    | _ => none
  | s =>
    match entry (value maxDepth) s with
    | some (((path, last), v), rest) => some (.assignment path last v, rest)
    | none => none

/-- The lines of a text. -/
def lines (s : List Char) : Option (List Line) :=
  match skipLines false s with
  | [] => some []
  | s' =>
    match line s' with
    | none => none
    | some (first, rest) =>
      match endLine? rest with
      | none => none
      | some rest =>
        if rest.length < s.length then (lines rest).map (first :: ·) else none
termination_by s.length

/-- The entries so far, and the header that the next assignments belong to. -/
structure Document where
  entries : Node.Entries
  current : List String

namespace Document

/-- The document with one more line. -/
def add? (d : Document) : Line → Option Document
  | .assignment path name value =>
    (Node.descend false (fun _ => Node.assign? path name value) d.current false d.entries).map
      fun entries => { d with entries }
  | .header path name =>
    (Node.openTable? path name d.entries).map fun entries => ⟨entries, path ++ [name]⟩
  | .elementHeader path name =>
    (Node.openElement? path name d.entries).map fun entries => ⟨entries, path ++ [name]⟩

/-- The document of the lines. -/
def ofLines? (ls : List Line) : Option Document := ls.foldlM add? ⟨[], []⟩

end Document

/-- The named values of a text. A byte order mark in front of it does not count. -/
def settings? (text : String) : Option (List (String × Setting)) :=
  let s := text.toList
  let s := if s.head? = some '\ufeff' then s.tail else s
  ((lines s).bind Document.ofLines?).map fun d => Node.toSettings d.entries

end MazeChase.Toml
