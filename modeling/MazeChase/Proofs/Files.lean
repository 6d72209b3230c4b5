import Mathlib.Data.List.Basic
import MazeChase.CommandLine

/-!
# Files of the program

A path leads name by name to the text that a folder holds under it. The program asks for no paths
but those that its options name, so their texts may as well be fetched beforehand.

* `Folder.namesOf_injective`, `Folder.Open`: paths with nothing in their way;
* `Folder.follow_names`, **`Folder.read_ofFiles`**: such a path leads to its text;
* `Invocation.run_eq_ok_iff`: what the program plays;
* `Invocation.run_congr`, **`Invocation.run_table`**: the program with texts fetched beforehand;
* **`Invocation.run_ofFiles`**: the program in a folder.
-/

set_option autoImplicit false

namespace MazeChase

namespace Folder

/-! ## Paths -/

theorem namesOf_injective {path path' : String} (same : namesOf path = namesOf path') :
    path = path' := by
  have names : path.toList.splitOn '/' = path'.toList.splitOn '/' :=
    (List.map_inj_right fun _ _ => String.ofList_injective).mp same
  rw [← String.toList_inj]
  calc path.toList = ['/'].intercalate (path.toList.splitOn '/') :=
        (List.intercalate_splitOn '/').symm
    _ = ['/'].intercalate (path'.toList.splitOn '/') := by rw [names]
    _ = path'.toList := List.intercalate_splitOn '/'

theorem namesOf_ne_nil (path : String) : namesOf path ≠ [] := by
  intro none
  have names : path.toList.splitOn '/' = [] := List.map_eq_nil_iff.mp none
  exact List.splitOn_ne_nil _ _ names

/-- Nothing is in the way of the path: none of its names is special or too long, nor is the path,
and no other file has it go on. -/
structure Open (files : List (String × String)) (path : String) : Prop where
  plain : ∀ name ∈ namesOf path, name ∉ ["", ".", ".."]
  short : path.utf8ByteSize ≤ maxPath ∧ ∀ name ∈ namesOf path, name.utf8ByteSize ≤ maxName
  alone : ∀ file ∈ files, namesOf file.1 <+: namesOf path → file.1 = path

variable {files : List (String × String)} {path text : String}

theorem lookup_ofFiles (files : List (String × String)) (path : String) :
    (ofFiles files).files.lookup (namesOf path) = files.lookup path := by
  induction files with
  | nil => rfl
  | cons file files ih =>
    have same : (namesOf path == namesOf file.1) = (path == file.1) := by
      rw [Bool.eq_iff_iff, beq_iff_eq, beq_iff_eq]
      exact ⟨namesOf_injective, congrArg namesOf⟩
    have later : (ofFiles (file :: files)).files.lookup (namesOf path) =
      ((namesOf file.1, file.2) :: (ofFiles files).files).lookup (namesOf path) := rfl
    rw [later, List.lookup_cons, List.lookup_cons, same, ih]

theorem find_self (found : files.lookup path = some text) :
    (ofFiles files).find (namesOf path) = .ok (.file text) := by
  rw [find, lookup_ofFiles, found]

theorem find_before (found : files.lookup path = some text) (way : Open files path)
    {before after : List String} (split : before ++ after = namesOf path) (more : after ≠ []) :
    (ofFiles files).find before = .ok (.folder before) := by
  have none : (ofFiles files).files.lookup before = none := by
    refine List.lookup_eq_none_iff.mpr fun entry held => ?_
    obtain ⟨file, given, rfl⟩ := List.mem_map.mp held
    rw [bne_iff_ne]
    rintro rfl
    obtain rfl := way.alone file given ⟨after, split⟩
    exact more (List.append_right_eq_self.mp split)
  have some : (ofFiles files).files.any fun file => before.isPrefixOf file.1 := by
    obtain ⟨_, _, rfl, _⟩ := List.lookup_eq_some_iff.mp found
    refine List.any_eq_true.mpr ⟨(namesOf path, text), ?_, ?_⟩
    · exact List.mem_map.mpr ⟨(path, text), by simp, rfl⟩
    · exact List.isPrefixOf_iff_prefix.mpr ⟨after, split⟩
  rw [find, none]
  exact if_pos some

theorem enter_plain {name : String} (plain : name ∉ ["", ".", ".."])
    (short : name.utf8ByteSize ≤ maxName) (f : Folder) (names : List String) :
    f.enter name (.folder names) = f.find (names ++ [name]) := by
  simp only [List.mem_cons, List.not_mem_nil, or_false, not_or] at plain
  obtain ⟨empty, point, points⟩ := plain
  rw [enter, if_neg (not_or.mpr ⟨empty, point⟩), if_neg points, if_neg (Nat.not_lt.mpr short)]

/-- From wherever a path has led, it goes on to its text. -/
theorem follow_names (found : files.lookup path = some text) (way : Open files path)
    {before after : List String} (split : before ++ after = namesOf path) (more : after ≠ []) :
    (ofFiles files).follow after (.folder before) = .ok (.file text) := by
  induction after generalizing before with
  | nil => exact absurd rfl more
  | cons name after ih =>
    have here : name ∈ namesOf path := split ▸ List.mem_append_right before List.mem_cons_self
    rw [List.append_cons] at split
    rw [follow, enter_plain (way.plain name here) (way.short.2 name here)]
    by_cases last : after = []
    · rw [last, List.append_nil] at split
      rw [split, find_self found, last]
      rfl
    · rw [find_before found way split last]
      exact ih split last

/-- **A path with nothing in its way** leads to its text. -/
theorem read_ofFiles (found : files.lookup path = some text) (way : Open files path) :
    (ofFiles files).read path = .ok text := by
  have nonempty : ¬ path.isEmpty = true := by
    intro empty
    rw [String.isEmpty_iff] at empty
    exact way.plain "" (by rw [empty]; decide) (by decide)
  have start : origin path = .folder [] := by
    refine if_neg fun first => way.plain "" (List.mem_of_mem_head? first) (by decide)
  rw [read, if_neg nonempty, if_neg (Nat.not_lt.mpr way.short.1), start,
    follow_names found way (List.nil_append _) (namesOf_ne_nil path)]

end Folder

/-! ## The program -/

namespace Invocation

variable {i : Invocation} {read read' : String → Except FileError String}

theorem loadMaze_of_read {path text : String} (named : i.layout = some path)
    (given : read path = .ok text) :
    i.loadMaze read = (Maze.ofLayout text).mapError (.invalidLayout path) := by
  simp only [loadMaze, named, given]

/-- The program plays a session when all that it is made of can be had. -/
theorem run_eq_ok_iff {summary : Session.Summary} : i.run read = .ok summary ↔
    ∃ config maze, ∃ w : World Stream Empty, ∃ moves,
      (i.loadConfig read = .ok config ∧ i.loadMaze read = .ok maze) ∧
      World.seeded? config maze = .ok w ∧ MoveScript.parse (i.moves.getD "") = .ok moves ∧
      Session.simulate w moves i.sessionOptions = summary := by
  unfold run
  cases config : i.loadConfig read with
  | error e => simp [bind, Except.bind]
  | ok c =>
    cases maze : i.loadMaze read with
    | error e => simp [bind, Except.bind]
    | ok m =>
      cases world : (World.seeded? c m : Except ConfigError (World Stream Empty)) with
      | error e => simp [bind, Except.bind, Except.mapError, world]
      | ok w =>
        cases script : MoveScript.parse (i.moves.getD "") <;>
          simp [bind, Except.bind, Except.mapError, pure, Except.pure, world]

/-- The program asks for the paths that its options name, and for no others. -/
theorem run_congr (same : ∀ path ∈ i.paths, read path = read' path) : i.run read = i.run read' := by
  have config : i.loadConfig read = i.loadConfig read' := by
    unfold loadConfig
    cases h : i.config with
    | none => rfl
    | some path => simp only [same path (by simp [paths, h])]
  have maze : i.loadMaze read = i.loadMaze read' := by
    unfold loadMaze
    cases h : i.layout with
    | none => rfl
    | some path => simp only [same path (by simp [paths, h])]
  rw [run, run, config, maze]

/-- **What the paths lead to may be fetched beforehand.** -/
theorem run_table (i : Invocation) (read : String → Except FileError String) :
    let files := i.paths.map fun path => (path, read path)
    (i.run fun path => (files.lookup path).getD (.error .missing)) = i.run read :=
  run_congr fun path asked => by rw [List.lookup_graph read asked, Option.getD_some]

/-- **In a folder**, the program plays the session of the texts that the options name. -/
theorem run_ofFiles {files : List (String × String)}
    (given : ∀ path ∈ i.paths, (files.lookup path).isSome ∧ Folder.Open files path) :
    i.run (Folder.ofFiles files).read =
      i.run fun path => (files.lookup path).elim (.error .missing) .ok := by
  refine run_congr fun path asked => ?_
  obtain ⟨held, way⟩ := given path asked
  obtain ⟨text, found⟩ := Option.isSome_iff_exists.mp held
  rw [Folder.read_ofFiles found way, found, Option.elim_some]

end Invocation

end MazeChase
