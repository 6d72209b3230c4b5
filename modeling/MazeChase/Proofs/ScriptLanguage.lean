import Mathlib.Data.List.DropRight
import Mathlib.Data.Nat.Digits.Defs
import MazeChase.MoveScript

/-!
# The language of move scripts

Which texts are scripts, which moves they spell, and what is wrong with the other texts. White space
and commas stand for nothing; what is left of a script without them is a row of entries.

* `MoveScript.bare`, `MoveScript.value`, `MoveScript.Entry`: the language;
* `MoveScript.Offence`, `MoveScript.Flawless`, `MoveScript.Fault`: what is wrong with a text;
* `MoveScript.parseFrom_eq_ok_iff`: what is left to read, after digits that wait for their letter;
* `MoveScript.parseFrom_cons`, **`MoveScript.parse_append_of_flawless`**: reading, character by
  character;
* **`MoveScript.reads_scripts`**;
* `ScriptError.shift`, `MoveScript.parse_append`, **`MoveScript.reads_in_parts`**: scripts one after
  the other.
-/

set_option autoImplicit false

namespace MazeChase

namespace MoveScript

/-! ## The language -/

/-- The characters that count: neither white space nor commas. -/
def bare (text : List Char) : List Char := text.filter fun c => !isSkipped c

/-- The letters that stand for a direction. -/
def letters : Direction → List Char
  | .up => ['U', 'u']
  | .down => ['D', 'd']
  | .left => ['L', 'l']
  | .right => ['R', 'r']

/-- The number that decimal digits make, the last one counting ones. -/
def value (digits : List Char) : Nat :=
  Nat.ofDigits 10 (digits.reverse.map fun c => c.toNat - '0'.toNat)

/-- An entry of a script: digits that make no more than the largest number, or no digits at all, and
a letter. -/
structure Entry where
  digits : List Char
  direction : Direction
  letter : Char
  isDigit : ∀ c ∈ digits, c.isDigit = true
  value_le : value digits ≤ maxRepeat
  mem_letters : letter ∈ letters direction

/-- How often an entry with these digits repeats its move. -/
def times (digits : List Char) : Nat := if digits = [] then 1 else value digits

/-- The characters of an entry. -/
def Entry.text (e : Entry) : List Char := e.digits ++ [e.letter]

theorem Entry.text_append (e : Entry) (rest : List Char) :
    e.text ++ rest = e.digits ++ e.letter :: rest := by
  rw [text, List.append_assoc, List.singleton_append]

/-- The moves of an entry. -/
def Entry.moves (e : Entry) : List Direction := List.replicate (times e.digits) e.direction

/-- The characters are those of a row of entries with these moves. -/
def Spells (cs : List Char) (moves : List Direction) : Prop :=
  ∃ entries : List Entry, cs = entries.flatMap Entry.text ∧ moves = entries.flatMap Entry.moves

/-! ## Faults -/

/-- The digits at the end of a text, with nothing but white space and commas among them. -/
def lastDigits (text : List Char) : List Char := (bare text).rtakeWhile Char.isDigit

/-- The character may stand in a script. -/
def Known (c : Char) : Prop := isSkipped c = true ∨ c.isDigit = true ∨ ∃ d, c ∈ letters d

/-- What is wrong with a character after a text: it is a digit too many, or it is none of those that
may stand in a script. -/
inductive Offence (before : List Char) : Char → ScriptError → Prop
  | tooLarge {c : Char} (digit : c.isDigit = true)
      (large : maxRepeat < value (lastDigits (before ++ [c]))) :
      Offence before c (.repeatTooLarge before.length)
  | unknown {c : Char} (stranger : ¬ Known c) : Offence before c (.unknownMove c before.length)

/-- No character of the text offends. -/
def Flawless (text : List Char) : Prop :=
  ∀ before c, before ++ [c] <+: text → ∀ e, ¬ Offence before c e

/-- What is wrong with a text: the first character that offends, or if there is none, digits at the
end without a letter. -/
inductive Fault (text : List Char) : ScriptError → Prop
  | offence {before : List Char} {c : Char} {e : ScriptError} (here : before ++ [c] <+: text)
      (first : Flawless before) (offends : Offence before c e) : Fault text e
  | dangling (flawless : Flawless text) (digits : lastDigits text ≠ []) :
      Fault text .danglingRepeat

/-! ## Characters -/

theorem ofLetter?_eq_some_iff {c : Char} {d : Direction} :
    Direction.ofLetter? c = some d ↔ c ∈ letters d := by
  have read (d : Direction) : ∀ c ∈ letters d, Direction.ofLetter? c = some d := by
    cases d <;> simp [letters, Direction.ofLetter?]
  constructor
  · intro h
    unfold Direction.ofLetter? at h
    split at h
    all_goals cases h
    all_goals decide
  · exact read d c

theorem letters_plain (d : Direction) :
    ∀ c ∈ letters d, ¬ isSkipped c = true ∧ ¬ c.isDigit = true := by
  cases d
  all_goals
    simp only [letters, List.forall_mem_cons, List.not_mem_nil, false_imp_iff, forall_true_iff]
    decide

theorem not_isSkipped_of_isDigit {c : Char} (digit : c.isDigit = true) : ¬ isSkipped c = true := by
  have range : 48 ≤ c.toNat ∧ c.toNat ≤ 57 := by simpa using Char.isDigit_iff_toNat.mp digit
  have comma : c ≠ ',' := by
    rintro rfl
    exact absurd digit (by decide)
  simp only [isSkipped, Text.isBlank, Text.blankRanges, List.any_cons, List.any_nil]
  simp [comma]
  omega

theorem not_known_iff {c : Char} : ¬ Known c ↔
    ¬ isSkipped c = true ∧ ¬ c.isDigit = true ∧ ¬ ∃ d, c ∈ letters d := by
  simp only [Known, not_or]

theorem bare_cons_of_skipped {c : Char} (skipped : isSkipped c = true) (text : List Char) :
    bare (c :: text) = bare text :=
  List.filter_cons_of_neg (by simp [skipped])

theorem bare_cons {c : Char} (counts : ¬ isSkipped c = true) (text : List Char) :
    bare (c :: text) = c :: bare text :=
  List.filter_cons_of_pos (by simp [counts])

theorem bare_append (text more : List Char) : bare (text ++ more) = bare text ++ bare more :=
  List.filter_append ..

theorem lastDigits_concat_of_skipped {c : Char} (skipped : isSkipped c = true)
    (text : List Char) : lastDigits (text ++ [c]) = lastDigits text := by
  rw [lastDigits, bare_append, bare_cons_of_skipped skipped, bare, bare, List.filter_nil,
    List.append_nil, lastDigits, bare]

theorem lastDigits_concat {c : Char} (counts : ¬ isSkipped c = true) (text : List Char) :
    lastDigits (text ++ [c]) = if c.isDigit = true then lastDigits text ++ [c] else [] := by
  rw [lastDigits, bare_append, bare_cons counts, bare, bare, List.filter_nil]
  split
  · next digit => exact List.rtakeWhile_concat_pos _ _ _ digit
  · next noDigit => exact List.rtakeWhile_concat_neg _ _ _ noDigit

theorem value_concat (digits : List Char) (c : Char) :
    value (digits ++ [c]) = value digits * 10 + (c.toNat - '0'.toNat) := by
  rw [value, List.reverse_concat, List.map_cons, Nat.ofDigits_cons, Nat.mul_comm, Nat.add_comm]
  rfl

theorem value_le_append (digits more : List Char) : value digits ≤ value (digits ++ more) := by
  rw [value, value, List.reverse_append, List.map_append, Nat.ofDigits_append]
  exact le_add_of_le_right (Nat.le_mul_of_pos_left _ (Nat.pow_pos (by decide)))

/-! ## Spelling -/

theorem spells_iff {cs : List Char} {moves : List Direction} : Spells cs moves ↔
    cs = [] ∧ moves = [] ∨ ∃ (e : Entry) (rest : List Char) (more : List Direction),
      cs = e.digits ++ e.letter :: rest ∧ moves = e.moves ++ more ∧ Spells rest more := by
  constructor
  · rintro ⟨entries, rfl, rfl⟩
    cases entries with
    | nil => exact .inl ⟨rfl, rfl⟩
    | cons e entries =>
      refine .inr ⟨e, _, _, ?_, List.flatMap_cons, entries, rfl, rfl⟩
      rw [List.flatMap_cons, e.text_append]
  · rintro (⟨rfl, rfl⟩ | ⟨e, _, _, rfl, rfl, entries, rfl, rfl⟩)
    · exact ⟨[], rfl, rfl⟩
    · refine ⟨e :: entries, ?_, List.flatMap_cons.symm⟩
      rw [List.flatMap_cons, e.text_append]

variable {digits rest : List Char} {c : Char} {moves : List Direction}

theorem takeWhile_isDigit (allDigits : ∀ c ∈ digits, c.isDigit = true)
    (noDigit : ¬ c.isDigit = true) : (digits ++ c :: rest).takeWhile Char.isDigit = digits := by
  rw [List.takeWhile_append_of_pos allDigits, List.takeWhile_cons_of_neg noDigit, List.append_nil]

theorem Entry.takeWhile_isDigit (e : Entry) (rest : List Char) :
    (e.digits ++ e.letter :: rest).takeWhile Char.isDigit = e.digits :=
  MoveScript.takeWhile_isDigit e.isDigit (letters_plain _ _ e.mem_letters).2

theorem Spells.entry (spells : Spells (digits ++ c :: rest) moves)
    (allDigits : ∀ c ∈ digits, c.isDigit = true) (noDigit : ¬ c.isDigit = true) :
    ∃ (e : Entry) (more : List Direction),
      e.digits = digits ∧ e.letter = c ∧ moves = e.moves ++ more ∧ Spells rest more := by
  rcases spells_iff.mp spells with ⟨empty, -⟩ | ⟨e, tail, more, split, rfl, later⟩
  · exact absurd empty (by simp)
  · have front : (digits ++ c :: rest).takeWhile Char.isDigit = digits :=
      takeWhile_isDigit allDigits noDigit
    have same : digits = e.digits := by rw [← front, split, e.takeWhile_isDigit]
    rw [same] at split
    obtain ⟨rfl, rfl⟩ := List.cons.inj (List.append_cancel_left split)
    exact ⟨e, more, same.symm, rfl, rfl, later⟩

theorem spells_letter {d : Direction} (allDigits : ∀ c ∈ digits, c.isDigit = true)
    (small : value digits ≤ maxRepeat) (letter : c ∈ letters d) :
    Spells (digits ++ c :: rest) moves ↔
      ∃ more, Spells rest more ∧ List.replicate (times digits) d ++ more = moves := by
  constructor
  · intro spells
    obtain ⟨e, more, rfl, rfl, rfl, later⟩ := spells.entry allDigits (letters_plain d c letter).2
    obtain rfl : d = e.direction := Option.some.inj <|
      (ofLetter?_eq_some_iff.mpr letter).symm.trans (ofLetter?_eq_some_iff.mpr e.mem_letters)
    exact ⟨more, later, rfl⟩
  · rintro ⟨more, later, rfl⟩
    exact spells_iff.mpr
      (.inr ⟨⟨digits, d, c, allDigits, small, letter⟩, rest, more, rfl, rfl, later⟩)

theorem Spells.value_le (spells : Spells (digits ++ rest) moves)
    (allDigits : ∀ c ∈ digits, c.isDigit = true) : value digits ≤ maxRepeat := by
  rcases spells_iff.mp spells with ⟨empty, -⟩ | ⟨e, tail, more, split, -, -⟩
  · rw [(List.append_eq_nil_iff.mp empty).1]
    decide
  · have longer : digits ++ rest.takeWhile Char.isDigit = e.digits := by
      rw [← List.takeWhile_append_of_pos allDigits, split, e.takeWhile_isDigit]
    calc value digits ≤ value (digits ++ rest.takeWhile Char.isDigit) := value_le_append ..
      _ = value e.digits := by rw [longer]
      _ ≤ maxRepeat := e.value_le

theorem spells_digits (allDigits : ∀ c ∈ digits, c.isDigit = true) :
    Spells digits moves ↔ digits = [] ∧ moves = [] := by
  rw [spells_iff, or_iff_left]
  rintro ⟨e, tail, more, rfl, -, -⟩
  exact (letters_plain _ _ e.mem_letters).2 (allDigits _ (by simp))

/-! ## Reading -/

/-- The number that waits for its letter after digits. -/
def waiting (digits : List Char) : Option Nat := if digits = [] then none else some (value digits)

theorem extend_waiting (digits : List Char) (n : Nat) :
    extend (waiting digits) n = value digits * 10 + n := by
  unfold waiting
  split
  · next none =>
    rw [none]
    rfl
  · rfl

theorem getD_waiting (digits : List Char) : (waiting digits).getD 1 = times digits := by
  unfold waiting times
  split <;> rfl

variable {position : Nat}

theorem parseFrom_skipped {pending : Option Nat} (skipped : isSkipped c = true) :
    parseFrom position pending (c :: rest) = parseFrom (position + 1) pending rest := by
  rw [parseFrom, if_pos skipped]

theorem parseFrom_digit (digit : c.isDigit = true) (small : value (digits ++ [c]) ≤ maxRepeat) :
    parseFrom position (waiting digits) (c :: rest) =
      parseFrom (position + 1) (waiting (digits ++ [c])) rest := by
  have more : waiting (digits ++ [c]) = some (value (digits ++ [c])) := if_neg (by simp)
  rw [value_concat] at small more
  rw [parseFrom, if_neg (not_isSkipped_of_isDigit digit), digit?, if_pos digit]
  simp only [extend_waiting]
  rw [if_pos small, more]

theorem parseFrom_tooLarge (digit : c.isDigit = true)
    (large : maxRepeat < value (digits ++ [c])) :
    parseFrom position (waiting digits) (c :: rest) = .error (.repeatTooLarge position) := by
  rw [value_concat] at large
  rw [parseFrom, if_neg (not_isSkipped_of_isDigit digit), digit?, if_pos digit]
  simp only [extend_waiting]
  rw [if_neg (Nat.not_le.mpr large)]

theorem parseFrom_letter {d : Direction} (letter : c ∈ letters d) :
    parseFrom position (waiting digits) (c :: rest) =
      (parseFrom (position + 1) (waiting []) rest).map (List.replicate (times digits) d ++ ·) := by
  obtain ⟨counts, noDigit⟩ := letters_plain d c letter
  rw [parseFrom, if_neg counts, digit?, if_neg noDigit, ofLetter?_eq_some_iff.mpr letter,
    getD_waiting]
  show _ = (parseFrom (position + 1) none rest).map _
  cases parseFrom (position + 1) none rest <;> rfl

theorem parseFrom_unknown {pending : Option Nat} (stranger : ¬ Known c) :
    parseFrom position pending (c :: rest) = .error (.unknownMove c position) := by
  obtain ⟨counts, noDigit, noLetter⟩ := not_known_iff.mp stranger
  have nothing : Direction.ofLetter? c = none :=
    Option.eq_none_iff_forall_ne_some.mpr fun d h => noLetter ⟨d, ofLetter?_eq_some_iff.mp h⟩
  rw [parseFrom, if_neg counts, digit?, if_neg noDigit, nothing]

/-- **What is left to read,** after digits that wait for their letter, spells moves together with
these digits. -/
theorem parseFrom_eq_ok_iff {cs : List Char} (allDigits : ∀ c ∈ digits, c.isDigit = true)
    (small : value digits ≤ maxRepeat) :
    parseFrom position (waiting digits) cs = .ok moves ↔ Spells (digits ++ bare cs) moves := by
  -- A digit goes from the text to those that wait, where the bound holds of it as of an entry.
  induction cs generalizing position digits moves with
  | nil =>
    rw [bare, List.filter_nil, List.append_nil, spells_digits allDigits, waiting]
    split
    · next none => simp [parseFrom, none, eq_comm]
    · next some => simp [parseFrom, some]
  | cons c cs ih =>
    by_cases known : Known c
    · rcases known with skipped | digit | ⟨d, letter⟩
      · rw [parseFrom_skipped skipped, ih allDigits small, bare_cons_of_skipped skipped]
      · have split : digits ++ bare (c :: cs) = digits ++ [c] ++ bare cs := by
          rw [bare_cons (not_isSkipped_of_isDigit digit), List.append_assoc, List.singleton_append]
        have more : ∀ d ∈ digits ++ [c], d.isDigit = true := by
          simpa only [List.forall_mem_append, List.forall_mem_singleton] using ⟨allDigits, digit⟩
        rw [split]
        by_cases fits : value (digits ++ [c]) ≤ maxRepeat
        · rw [parseFrom_digit digit fits, ih more fits]
        · rw [parseFrom_tooLarge digit (Nat.not_le.mp fits)]
          exact iff_of_false (by simp) fun spells => fits (spells.value_le more)
      · have counts := (letters_plain d c letter).1
        rw [parseFrom_letter letter, bare_cons counts, spells_letter allDigits small letter]
        have later : ∀ more, parseFrom (position + 1) (waiting []) cs = .ok more ↔
            Spells (bare cs) more := fun more => ih (by simp) (by decide)
        simp only [← later]
        cases parseFrom (position + 1) (waiting []) cs <;> simp [Except.map]
    · obtain ⟨counts, noDigit, noLetter⟩ := not_known_iff.mp known
      rw [parseFrom_unknown known, bare_cons counts]
      refine iff_of_false (by simp) fun spells => ?_
      obtain ⟨e, _, _, rfl, _⟩ := spells.entry allDigits noDigit
      exact noLetter ⟨e.direction, e.mem_letters⟩

/-! ## Faults decide -/

variable {before text : List Char} {e : ScriptError}

theorem flawless_nil : Flawless [] := by
  intro before c here
  exact absurd (List.prefix_nil.mp here) (by simp)

theorem flawless_concat :
    Flawless (before ++ [c]) ↔ Flawless before ∧ ∀ e, ¬ Offence before c e := by
  unfold Flawless
  simp only [List.prefix_concat_iff]
  constructor
  · exact fun h => ⟨fun b d here => h b d (.inr here), h before c (.inl rfl)⟩
  · rintro ⟨earlier, last⟩ b d (same | here)
    · obtain ⟨rfl, single⟩ := List.append_inj' same rfl
      obtain rfl := List.singleton_inj.mp single
      exact last
    · exact earlier b d here

/-- A character offends by what stands before it, so the text is taken apart from its end. -/
theorem flawless_or_first (text : List Char) : Flawless text ∨
    ∃ before c e, before ++ [c] <+: text ∧ Flawless before ∧ Offence before c e := by
  induction text using List.reverseRecOn with
  | nil => exact .inl flawless_nil
  | append_singleton text c ih =>
    rcases ih with flawless | ⟨before, d, e, here, first, offends⟩
    · by_cases fine : ∀ e, ¬ Offence text c e
      · exact .inl (flawless_concat.mpr ⟨flawless, fine⟩)
      · obtain ⟨e, offends⟩ := not_forall_not.mp fine
        exact .inr ⟨text, c, e, List.prefix_rfl, flawless, offends⟩
    · exact .inr ⟨before, d, e, here.trans (List.prefix_append ..), first, offends⟩

theorem parseFrom_of_offence (offends : Offence before c e) :
    parseFrom before.length (waiting (lastDigits before)) (c :: rest) = .error e := by
  cases offends with
  | tooLarge digit large =>
    rw [lastDigits_concat (not_isSkipped_of_isDigit digit), if_pos digit] at large
    exact parseFrom_tooLarge digit large
  | unknown stranger => exact parseFrom_unknown stranger

theorem parseFrom_cons (fine : ∀ e, ¬ Offence before c e) :
    ∃ moves, ∀ position rest, parseFrom position (waiting (lastDigits before)) (c :: rest) =
      (parseFrom (position + 1) (waiting (lastDigits (before ++ [c]))) rest).map (moves ++ ·) := by
  have known : Known c := by
    by_contra stranger
    exact fine _ (.unknown stranger)
  have nothing (r : Except ScriptError (List Direction)) : r = r.map ([] ++ ·) := by
    cases r <;> rfl
  rcases known with skipped | digit | ⟨d, letter⟩
  · refine ⟨[], fun position rest => ?_⟩
    rw [lastDigits_concat_of_skipped skipped, parseFrom_skipped skipped]
    exact nothing _
  · refine ⟨[], fun position rest => ?_⟩
    have last := lastDigits_concat (not_isSkipped_of_isDigit digit) before
    rw [if_pos digit] at last
    have small : value (lastDigits before ++ [c]) ≤ maxRepeat := by
      rw [← last]
      exact Nat.not_lt.mp fun large => fine _ (.tooLarge digit large)
    rw [last, parseFrom_digit digit small]
    exact nothing _
  · refine ⟨List.replicate (times (lastDigits before)) d, fun position rest => ?_⟩
    obtain ⟨counts, noDigit⟩ := letters_plain d c letter
    rw [lastDigits_concat counts, if_neg noDigit, parseFrom_letter letter]

/-- **A text without a flaw** is read before what follows it. -/
theorem parse_append_of_flawless (flawless : Flawless before) :
    ∃ moves, ∀ rest, parseFrom 0 none (before ++ rest) =
      (parseFrom before.length (waiting (lastDigits before)) rest).map (moves ++ ·) := by
  induction before using List.reverseRecOn with
  | nil =>
    refine ⟨[], fun rest => ?_⟩
    show parseFrom 0 none rest = (parseFrom 0 none rest).map _
    cases parseFrom 0 none rest <;> rfl
  | append_singleton before c ih =>
    obtain ⟨earlier, fine⟩ := flawless_concat.mp flawless
    obtain ⟨moves, read⟩ := ih earlier
    obtain ⟨more, step⟩ := parseFrom_cons fine
    refine ⟨moves ++ more, fun rest => ?_⟩
    rw [List.append_assoc, List.singleton_append, read, step, List.length_append,
      List.length_singleton]
    cases parseFrom (before.length + 1) (waiting (lastDigits (before ++ [c]))) rest <;>
      simp [Except.map]

theorem parseFrom_of_fault (fault : Fault text e) : parseFrom 0 none text = .error e := by
  cases fault with
  | offence here first offends =>
    obtain ⟨rest, rfl⟩ := here
    obtain ⟨moves, read⟩ := parse_append_of_flawless first
    rw [List.append_assoc, read, List.singleton_append, parseFrom_of_offence offends]
    rfl
  | dangling flawless digits =>
    obtain ⟨moves, read⟩ := parse_append_of_flawless flawless
    have ends := read []
    rw [List.append_nil, waiting, if_neg digits, parseFrom] at ends
    exact ends

/-- A text without a fault is read to its end, and no digits are left waiting. -/
theorem fault_or_read (text : List Char) : (∃ e, Fault text e) ∨ ∃ moves, ∀ rest,
    parseFrom 0 none (text ++ rest) = (parseFrom text.length none rest).map (moves ++ ·) := by
  rcases flawless_or_first text with flawless | ⟨_, _, e, here, first, offends⟩
  · by_cases digits : lastDigits text = []
    · obtain ⟨moves, read⟩ := parse_append_of_flawless flawless
      rw [digits] at read
      exact .inr ⟨moves, read⟩
    · exact .inl ⟨_, .dangling flawless digits⟩
  · exact .inl ⟨e, .offence here first offends⟩

theorem fault_of_parseFrom (refused : parseFrom 0 none text = .error e) : Fault text e := by
  rcases fault_or_read text with ⟨e', fault⟩ | ⟨moves, read⟩
  · rw [parseFrom_of_fault fault] at refused
    cases refused
    exact fault
  · have ends := read []
    rw [List.append_nil, refused] at ends
    cases ends

/-- **Which texts are scripts**: those that are a row of entries, but for white space and commas.
Every other one is refused for its first offence. -/
theorem reads_scripts (text : String) :
    (∀ moves, parse text = .ok moves ↔ ∃ entries : List Entry,
      bare text.toList = entries.flatMap Entry.text ∧ moves = entries.flatMap Entry.moves) ∧
    ∀ e, parse text = .error e ↔ Fault text.toList e :=
  ⟨fun _ => parseFrom_eq_ok_iff (List.forall_mem_nil _) (Nat.zero_le _),
    fun _ => ⟨fault_of_parseFrom, parseFrom_of_fault⟩⟩

example : parse "1, 0l" = .ok (List.replicate 10 .left) := by decide

end MoveScript

/-! ## Scripts one after the other -/

/-- What is wrong, that many characters later. -/
def ScriptError.shift (n : Nat) : ScriptError → ScriptError
  | repeatTooLarge position => repeatTooLarge (position + n)
  | unknownMove letter position => unknownMove letter (position + n)
  | danglingRepeat => danglingRepeat

namespace MoveScript

theorem parseFrom_add (position n : Nat) (pending : Option Nat) (text : List Char) :
    parseFrom (position + n) pending text =
      (parseFrom position pending text).mapError (ScriptError.shift n) := by
  induction text generalizing position pending with
  | nil => cases pending <;> rfl
  | cons c text ih =>
    have ih (pending : Option Nat) : parseFrom (position + n + 1) pending text =
        (parseFrom (position + 1) pending text).mapError (ScriptError.shift n) := by
      rw [Nat.add_right_comm, ih]
    rw [parseFrom, parseFrom]
    split
    · exact ih pending
    split
    · split
      · exact ih _
      · rfl
    split
    · rw [ih]
      cases parseFrom (position + 1) none text <;> rfl
    · rfl

theorem parse_append {a : String} {moves : List Direction} (read : parse a = .ok moves)
    (b : String) : parse (a ++ b) =
      ((parse b).mapError (ScriptError.shift a.length)).map (moves ++ ·) := by
  have read : parseFrom 0 none a.toList = .ok moves := read
  rcases fault_or_read a.toList with ⟨e, fault⟩ | ⟨entries, before⟩
  · rw [parseFrom_of_fault fault] at read
    cases read
  · have whole := before []
    rw [List.append_nil, read, parseFrom] at whole
    obtain rfl : moves = entries := by simpa [Except.map] using whole
    rw [parse, String.toList_append, before, parse, ← String.length_toList, ← parseFrom_add,
      Nat.zero_add]

theorem Fault.append {text : List Char} {e : ScriptError} (fault : Fault text e)
    (placed : e ≠ .danglingRepeat) (more : List Char) : Fault (text ++ more) e := by
  cases fault with
  | offence here first offends =>
    exact .offence (here.trans (List.prefix_append ..)) first offends
  | dangling => exact absurd rfl placed

/-- **Scripts are read one after the other**, and the error of the second one is moved on by the
length of the first. -/
theorem reads_in_parts (a b : String) :
    (∀ moves, parse a = .ok moves →
      (∀ all, parse (a ++ b) = .ok all ↔ ∃ more, parse b = .ok more ∧ all = moves ++ more) ∧
      ∀ e, parse (a ++ b) = .error e ↔ ∃ e', parse b = .error e' ∧ e = e'.shift a.length) ∧
    ∀ e, e ≠ .danglingRepeat → parse a = .error e → parse (a ++ b) = .error e := by
  constructor
  · intro moves read
    rw [parse_append read]
    cases parse b with
    | ok more => simp [Except.map, Except.mapError, eq_comm]
    | error e => simp [Except.map, Except.mapError, eq_comm]
  · intro e placed refused
    have fault : Fault a.toList e := fault_of_parseFrom refused
    have longer : Fault (a ++ b).toList e := by
      rw [String.toList_append]
      exact fault.append placed _
    exact parseFrom_of_fault longer

/-- A stranger in the second text is counted on, and after a number too large nothing is looked at.
-/
theorem reads_in_parts_unknown :
    parse "2 l" = .ok [.left, .left] ∧ parse ",x" = .error (.unknownMove 'x' 1) ∧
    parse ("2 l" ++ ",x") = .error (.unknownMove 'x' 4) ∧
    parse ("u6,5 536" ++ ",x") = .error (.repeatTooLarge 7) := by
  have first : parse "2 l" = .ok [.left, .left] := by decide
  have second : parse ",x" = .error (.unknownMove 'x' 1) := by decide
  have large : parse "u6,5 536" = .error (.repeatTooLarge 7) := by decide
  refine ⟨first, second, ?_, ?_⟩
  · exact (((reads_in_parts "2 l" ",x").1 _ first).2 _).mpr ⟨_, second, rfl⟩
  · exact (reads_in_parts "u6,5 536" ",x").2 _ (by decide) large

end MoveScript

end MazeChase
