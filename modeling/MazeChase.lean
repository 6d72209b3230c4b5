import MazeChase.Binary
import MazeChase.Binary.Format
import MazeChase.Cell
import MazeChase.CellSet
import MazeChase.CommandLine
import MazeChase.Config
import MazeChase.Config.Setting
import MazeChase.Config.Toml
import MazeChase.Direction
import MazeChase.Event
import MazeChase.Folder
import MazeChase.Ghost
import MazeChase.Ghost.Plan
import MazeChase.Ghost.Target
import MazeChase.Ghost.View
import MazeChase.Location
import MazeChase.Main
import MazeChase.Maze
import MazeChase.Maze.Classic
import MazeChase.Maze.Layout
import MazeChase.Mode
import MazeChase.MoveScript
import MazeChase.Phase
import MazeChase.Random.ChaCha
import MazeChase.Random.Source
import MazeChase.Random.Stream
import MazeChase.Random.Uniform
import MazeChase.Roster
import MazeChase.Session
import MazeChase.Session.Report
import MazeChase.Text.Blank
import MazeChase.Text.Decimal
import MazeChase.Text.Glyph
import MazeChase.Text.Lines
import MazeChase.Text.Visible
import MazeChase.Toml.Document
import MazeChase.Toml.Moment
import MazeChase.Toml.Number
import MazeChase.Toml.Quoted
import MazeChase.Toml.Reader
import MazeChase.Toml.Table
import MazeChase.Toml.Value
import MazeChase.World
import MazeChase.World.Collision
import MazeChase.World.Move
import MazeChase.World.Tick
import MazeChase.Proofs.Collision
import MazeChase.Proofs.Move
import MazeChase.Proofs.Plan
import MazeChase.Proofs.Run
import MazeChase.Proofs.Backstage
import MazeChase.Proofs.PlanningOrder
import MazeChase.Proofs.GhostLaw
import MazeChase.Proofs.GhostShape
import MazeChase.Proofs.Contact
import MazeChase.Proofs.Stranding
import MazeChase.Proofs.ClassicMaze
import MazeChase.Proofs.Account
import MazeChase.Proofs.Fate
import MazeChase.Proofs.HouseExit
import MazeChase.Proofs.Books
import MazeChase.Proofs.Counting
import MazeChase.Proofs.Pellets
import MazeChase.Proofs.Score
import MazeChase.Proofs.Outcome
import MazeChase.Proofs.Walls
import MazeChase.Proofs.Abreast
import MazeChase.Proofs.Track
import MazeChase.Proofs.Draws
import MazeChase.Proofs.Isolation
import MazeChase.Proofs.Fright
import MazeChase.Proofs.Arrival
import MazeChase.Proofs.SuperPellets
import MazeChase.Proofs.Hunt
import MazeChase.Proofs.Fruit
import MazeChase.Proofs.Catch
import MazeChase.Proofs.Homecoming
import MazeChase.Proofs.Interval
import MazeChase.Proofs.Period
import MazeChase.Proofs.Queue
import MazeChase.Proofs.ModeHistory
import MazeChase.Proofs.Pause
import MazeChase.Proofs.Bulletin
import MazeChase.Proofs.Path
import MazeChase.Proofs.Guarded
import MazeChase.Proofs.Faultless
import MazeChase.Proofs.Tally
import MazeChase.Proofs.Session
import MazeChase.Proofs.Stopping
import MazeChase.Proofs.Onset
import MazeChase.Proofs.Pursuit
import MazeChase.Proofs.Wandering
import MazeChase.Proofs.Trap
import MazeChase.Proofs.Drift
import MazeChase.Proofs.Reaction
import MazeChase.Proofs.LayoutLanguage
import MazeChase.Proofs.SavedLayout
import MazeChase.Proofs.ScriptLanguage
import MazeChase.Proofs.EvenDraws
import MazeChase.Proofs.RosterOrder
import MazeChase.Proofs.PrefixCode
import MazeChase.Proofs.PlainLines
import MazeChase.Proofs.Fields
import MazeChase.Proofs.Override
import MazeChase.Proofs.Files
import MazeChase.Proofs.Counters
