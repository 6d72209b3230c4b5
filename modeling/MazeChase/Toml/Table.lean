import MazeChase.Config.Setting

/-!
# Tables of TOML

A table grows line by line. A dotted key makes tables on its way and may go on in tables made by
other dotted keys, but not in those that have a header or braces of their own. A header may go
through any table, and may open a table that headers made on their way.

* `Node`, `Origin`: what a name stands for, and how its table came about;
* `Node.descend`: go down a path and change what is there;
* `Node.assign?`, `Node.openTable?`, `Node.openElement?`: the three kinds of line;
* `Node.toSetting`: what is left for a reader of settings.
-/

set_option autoImplicit false

namespace MazeChase.Toml

/-- How a table came about. -/
inductive Origin where
  /-- By a header of its own. -/
  | header
  /-- On the way of a header to a table inside. -/
  | implied
  /-- On the way of a dotted key. -/
  | dotted
deriving DecidableEq, Repr

/-- What a name stands for. -/
inductive Node where
  /-- A value that nothing can be added to. -/
  | leaf (value : Setting)
  | table (origin : Origin) (entries : List (String × Node))
  /-- A row of tables with headers of their own, the last of which can grow. -/
  | tables (earlier : List (List (String × Node))) (last : List (String × Node))

namespace Node

/-- What the names of a table stand for. -/
abbrev Entries : Type := List (String × Node)

/-- The entries with another thing for a name that is there. -/
def replace (name : String) (node : Node) (entries : Entries) : Entries :=
  entries.map fun e => if e.1 = name then (name, node) else e

/-- Change the table at the end of a path, making the tables that are missing on the way. The change
is told whether a dotted key made the table. -/
def descend (byDots : Bool) (change : (madeByDots : Bool) → Entries → Option Entries) :
    (path : List String) → (madeByDots : Bool) → Entries → Option Entries
  | [], madeByDots, entries => change madeByDots entries
  | name :: path, _, entries =>
    match entries.lookup name with
    | none =>
      (descend byDots change path byDots []).map fun inner =>
        entries ++ [(name, table (if byDots then .dotted else .implied) inner)]
    | some (leaf _) => none
    | some (table origin inner) =>
      if byDots ∧ origin = .header then none
      else
        (descend byDots change path (origin = .dotted) inner).map fun inner =>
          replace name (table origin inner) entries
    | some (tables earlier last) =>
      (descend byDots change path false last).map fun last =>
        replace name (tables earlier last) entries

/-- Give a value to a name; the keys of the path lead from the table to the one that gets the
name. -/
def assign? (path : List String) (name : String) (value : Setting) (entries : Entries) :
    Option Entries :=
  descend true
    (fun madeByDots entries =>
      if madeByDots = path.isEmpty ∨ (entries.lookup name).isSome then none
      else some (entries ++ [(name, leaf value)]))
    path false entries

/-- Open the table of a header. -/
def openTable? (path : List String) (name : String) (entries : Entries) : Option Entries :=
  descend false
    (fun _ entries =>
      match entries.lookup name with
      | none => some (entries ++ [(name, table .header [])])
      | some (table .implied inner) => some (replace name (table .header inner) entries)
      | some _ => none)
    path false entries

/-- Open the next table of a row of tables. -/
def openElement? (path : List String) (name : String) (entries : Entries) : Option Entries :=
  descend false
    (fun _ entries =>
      match entries.lookup name with
      | none => some (entries ++ [(name, tables [] [])])
      | some (tables earlier last) => some (replace name (tables (earlier ++ [last]) []) entries)
      | some _ => none)
    path false entries

mutual

/-- What a reader of settings sees of a node. Rows of tables hold no setting. -/
def toSetting : Node → Setting
  | leaf value => value
  | table _ entries => .table (toSettings entries)
  | tables _ _ => .other

/-- What a reader of settings sees of the entries of a table. -/
def toSettings : Entries → List (String × Setting)
  | [] => []
  | (name, node) :: rest => (name, toSetting node) :: toSettings rest

end

end Node

end MazeChase.Toml
