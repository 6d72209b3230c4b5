import MazeChase.Config.Toml
import MazeChase.Folder
import MazeChase.MoveScript
import MazeChase.Session.Report
import MazeChase.Text.Decimal

/-!
# The command line

A session is described by options: files for the configuration and the maze, and values that take
precedence over the configuration.

* `Invocation`, `Invocation.ofArgs?`: the options that arguments give;
* `Failure`, `Failure.report`: why a session cannot start, and the lines that tell it;
* `Invocation.run`: the summary of the session.
-/

set_option autoImplicit false

namespace MazeChase

/-- What the options of a session ask for. -/
structure Invocation where
  config : Option String := none
  layout : Option String := none
  ticks : Option Nat := none
  seed : Option Nat := none
  updatePeriod : Option Nat := none
  moves : Option String := none
  chaseAt : Option Nat := none
  sequential : Bool := false
  stopOnOutcome : Bool := false
deriving DecidableEq, Repr

namespace Invocation

/-- The number of ticks if no other one is asked for. -/
def defaultTicks : Nat := 1200

/-- A path, which cannot be empty. -/
def readPath? (text : String) : Option String := if text.isEmpty then none else some text

/-- The invocation with an option set that has to be missing so far. -/
def setOnce {α : Type} (current : Option α) (new : Option α) (set : α → Invocation) :
    Option Invocation :=
  match current with
  | some _ => none
  | none => new.map set

/-- The invocation with the value of an option, if there is such an option, it was not given before,
and the value fits it. -/
def setValue? (i : Invocation) (option value : String) : Option Invocation :=
  match option with
  | "config" => setOnce i.config (readPath? value) fun v => { i with config := some v }
  | "layout" => setOnce i.layout (readPath? value) fun v => { i with layout := some v }
  | "ticks" =>
    setOnce i.ticks (Text.readNat? UInt64.size value) fun v => { i with ticks := some v }
  | "seed" => setOnce i.seed (Text.readNat? UInt64.size value) fun v => { i with seed := some v }
  | "update-period" =>
    setOnce i.updatePeriod (Text.readInt? UInt32.size value)
      fun v => { i with updatePeriod := some v }
  | "moves" => setOnce i.moves (some value) fun v => { i with moves := some v }
  | "chase-at" =>
    setOnce i.chaseAt (Text.readNat? UInt64.size value) fun v => { i with chaseAt := some v }
  | _ => none

/-- The invocation with a switch turned on, if there is such a switch and it is not on yet. -/
def setSwitch? (i : Invocation) (option : String) : Option Invocation :=
  match option with
  | "sequential" => if i.sequential then none else some { i with sequential := true }
  | "stop-on-outcome" => if i.stopOnOutcome then none else some { i with stopOnOutcome := true }
  | _ => none

/-- The option is a switch, which has no value. -/
def isSwitch (option : String) : Bool := option == "sequential" || option == "stop-on-outcome"

/-- The argument begins like an option and cannot be a value; a lone hyphen can. -/
def looksLikeOption (arg : String) : Bool :=
  match arg.toList with
  | '-' :: _ :: _ => true
  | _ => false

/-- The invocation with the options that arguments give. An option begins with two hyphens; its
value follows an equals sign or is the next argument. Two hyphens alone end the options, and nothing
may follow them. -/
def addArgs? (i : Invocation) : List String → Option Invocation
  | [] => some i
  | arg :: rest =>
    match arg.toList with
    | '-' :: '-' :: body =>
      if body.isEmpty then if rest.isEmpty then some i else none
      else
        let option := String.ofList (body.takeWhile (· ≠ '='))
        match body.dropWhile (· ≠ '=') with
        | _ :: value =>
          if isSwitch option then none
          else (i.setValue? option (String.ofList value)).bind (addArgs? · rest)
        | [] =>
          if isSwitch option then (i.setSwitch? option).bind (addArgs? · rest)
          else
            match rest with
            | [] => none
            | value :: rest =>
              if looksLikeOption value then none
              else (i.setValue? option value).bind (addArgs? · rest)
    | _ => none

/-- The invocation that arguments describe, if they describe one. -/
def ofArgs? (args : List String) : Option Invocation := addArgs? {} args

end Invocation

/-- Why a session cannot start. -/
inductive Failure where
  | unreadableConfig (path : String) (cause : FileError)
  | invalidConfig (path : String)
  | unreadableLayout (path : String) (cause : FileError)
  | invalidLayout (path : String) (cause : LayoutError)
  | rejectedConfig (cause : ConfigError)
  | invalidScript (cause : ScriptError)
deriving DecidableEq, Repr

namespace Failure

/-- What could not be done. -/
def message : Failure → String
  | unreadableConfig path _ => "failed to read config at " ++ path
  | invalidConfig path => "invalid config at " ++ path
  | unreadableLayout path _ => "failed to read maze layout at " ++ path
  | invalidLayout path _ => "invalid maze layout at " ++ path
  | rejectedConfig _ => "world configuration rejected"
  | invalidScript _ => "invalid move script"

/-- Why it could not be done. -/
def cause? : Failure → Option String
  | unreadableConfig _ cause => some cause.message
  | invalidConfig _ => none
  | unreadableLayout _ cause => some cause.message
  | invalidLayout _ cause => some cause.message
  | rejectedConfig cause => some cause.message
  | invalidScript cause => some cause.message

/-- The lines that tell of a failure. -/
def report (f : Failure) : List String :=
  ("Error: " ++ f.message) ::
    match f.cause? with
    | some cause => ["", "Caused by:", "    " ++ cause]
    | none => []

end Failure

namespace Invocation

/-- The configuration of the session: the one in the file, or the default one, with the values that
the options give. -/
def loadConfig (i : Invocation) (read : String → Except FileError String) :
    Except Failure Config := do
  let config ←
    match i.config with
    | none => .ok {}
    | some path =>
      match read path with
      | .error cause => .error (.unreadableConfig path cause)
      | .ok text =>
        match Config.ofToml? text with
        | some config => .ok config
        | none => .error (.invalidConfig path)
  return { config with
    rngSeed := i.seed.elim config.rngSeed UInt64.ofNat
    updatePeriod := i.updatePeriod.elim config.updatePeriod UInt32.ofNat
    planning := if i.sequential then .sequential else config.planning }

/-- The maze of the session: the one in the file, or the classic one. -/
def loadMaze (i : Invocation) (read : String → Except FileError String) : Except Failure Maze :=
  match i.layout with
  | none => .ok Maze.classic
  | some path =>
    match read path with
    | .error cause => .error (.unreadableLayout path cause)
    | .ok text => (Maze.ofLayout text).mapError (.invalidLayout path)

/-- The paths of the files that the options name. -/
def paths (i : Invocation) : List String := i.config.toList ++ i.layout.toList

/-- The options of the session itself. -/
def sessionOptions (i : Invocation) : Session.Options where
  ticks := i.ticks.getD defaultTicks
  chaseAt := i.chaseAt
  stopOnOutcome := i.stopOnOutcome

/-- Play the session. Files are read through `read`, which gives a text or the reason why there is
none. -/
def run (i : Invocation) (read : String → Except FileError String) :
    Except Failure Session.Summary := do
  let config ← i.loadConfig read
  let maze ← i.loadMaze read
  let world : World Stream Empty ← (World.seeded? config maze).mapError .rejectedConfig
  let moves ← (MoveScript.parse (i.moves.getD "")).mapError .invalidScript
  return Session.simulate world moves i.sessionOptions

end Invocation

end MazeChase
