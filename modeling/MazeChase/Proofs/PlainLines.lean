import MazeChase.Toml.Document

/-!
# Plain lines

A plain line gives a name an integer, two integers between brackets or a string. A text of plain
lines is read as the names and values that were written: the names between quotes if they are not
bare, the strings with their special characters escaped, the integers in decimal notation. It is
rejected if a name comes twice or a number does not fit into 64 bits with a sign.

* `write`: the text with given lines;
* `string_quote`, `scalar_digits`, `value_chars`: strings, numbers and values, read back;
* `line_lineChars`: lines, read back;
* **`settings?_write`**.
-/

set_option autoImplicit false

namespace MazeChase.Toml

/-! ## Writing -/

/-- A value that stands in a plain line. -/
inductive Plain where
  | integer (n : Int)
  | pair (a b : Int)
  | text (s : String)
deriving DecidableEq, Repr

/-- The characters of a whole number: its decimal digits, after a sign if it is negative. -/
def digits (n : Int) : List Char := (toString n).toList

/-- A character of a string, with a backslash if it would not stand for itself. -/
def escape (c : Char) : List Char :=
  if c = '"' ∨ c = '\\' then ['\\', c]
  else if isPlain c then [c]
  else ['\\', 'u', '0', '0', Nat.digitChar (c.toNat / 16), Nat.digitChar (c.toNat % 16)]

/-- A string between quotes. -/
def quote (s : String) : List Char := '"' :: (s.toList.flatMap escape ++ ['"'])

/-- The characters of a value. -/
def Plain.chars : Plain → List Char
  | integer n => digits n
  | pair a b => '[' :: (digits a ++ ',' :: ' ' :: (digits b ++ [']']))
  | text s => quote s

/-- The characters of a name, between quotes if need be. -/
def keyChars (name : String) : List Char :=
  if name ≠ "" ∧ name.toList.all isNameChar then name.toList else quote name

/-- The characters of a line. -/
def lineChars (l : String × Plain) : List Char :=
  keyChars l.1 ++ ' ' :: '=' :: ' ' :: (l.2.chars ++ ['\n'])

/-- The text with the given lines. -/
def write (ls : List (String × Plain)) : String := String.ofList (ls.flatMap lineChars)

/-- What a value is read as, if its numbers have 64 bits. -/
def Plain.setting? : Plain → Option Setting
  | integer n => integer? n
  | pair a b =>
    match integer? a, integer? b with
    | some a, some b => some (.list [a, b])
    | _, _ => none
  | text s => some (.text s)

/-! ## Strings -/

theorem codePoint?_control {c : Char} (low : c.toNat < 128) :
    codePoint? ['0', '0', Nat.digitChar (c.toNat / 16), Nat.digitChar (c.toNat % 16)] = some c := by
  have all : ∀ n < 128, codePoint? ['0', '0', Nat.digitChar (n / 16), Nat.digitChar (n % 16)] =
      some (Char.ofNat n) := by decide +kernel
  rw [all c.toNat low, Char.ofNat_toNat]

theorem toNat_lt_of_not_isPlain {c : Char} (control : isPlain c = false) : c.toNat < 128 := by
  simp only [isPlain, Bool.or_eq_false_iff, Bool.and_eq_false_iff, decide_eq_false_iff_not,
    bne_eq_false_iff_eq] at control
  rcases control.2 with below | rfl
  · have : c.toNat < ' '.toNat := Nat.not_le.mp below
    exact Nat.lt_trans this (by decide)
  · decide

theorem basic_escape (c : Char) (rest : List Char) :
    basic (escape c ++ rest) = consChar c (basic rest) := by
  unfold escape
  split
  next special =>
    rcases special with rfl | rfl
    · rfl
    · rfl
  next ordinary =>
    obtain ⟨noQuote, noBackslash⟩ := not_or.mp ordinary
    split
    next plain => simp [basic, noBackslash, plain]
    next control =>
      have low := toNat_lt_of_not_isPlain (Bool.eq_false_iff.mpr control)
      simp [basic, codePoint?_control low]

theorem basic_flatMap_escape (cs rest : List Char) :
    basic (cs.flatMap escape ++ '"' :: rest) = some (cs, rest) := by
  induction cs with
  | nil => rfl
  | cons c cs ih => rw [List.flatMap_cons, List.append_assoc, basic_escape, ih]; rfl

theorem quoted_quote (s : String) (rest : List Char) :
    quoted (quote s ++ rest) = some (s, rest) := by
  simp [quote, quoted, List.append_assoc, basic_flatMap_escape]

theorem escape_eq_cons (c : Char) : ∃ d ds, escape c = d :: ds ∧ d ≠ '"' := by
  unfold escape
  split
  · exact ⟨_, _, rfl, by decide⟩
  next ordinary =>
    split
    · exact ⟨_, _, rfl, (not_or.mp ordinary).1⟩
    · exact ⟨_, _, rfl, by decide⟩

theorem string_quote (s : String) {c : Char} {rest : List Char} (apart : c ≠ '"') :
    string (quote s ++ c :: rest) = some (s, c :: rest) := by
  rw [← quoted_quote]
  unfold quote
  cases s.toList with
  | nil => simp [string, apart]
  | cons d ds =>
    obtain ⟨e, es, first, noQuote⟩ := escape_eq_cons d
    simp [string, first, noQuote]

/-! ## Whole numbers -/

/-- A character that may follow a number here: the end of the line, or the comma or the bracket
after an item. -/
def EndsNumber (c : Char) : Prop := c = '\n' ∨ c = ',' ∨ c = ']'

/-- A character with which a number may begin: a digit or the sign. -/
def beginsNumber (c : Char) : Bool := c.isDigit || c == '-'

theorem digitBelow?_of_isDigit {c : Char} (digit : c.isDigit = true) :
    digitBelow? 10 c = some (c.toNat - '0'.toNat) := by
  simp only [Char.isDigit, Bool.and_eq_true, decide_eq_true_eq] at digit
  have within : '0' ≤ c ∧ c ≤ '9' := digit
  have small : c.toNat - '0'.toNat < 10 := by
    have : c.toNat ≤ '9'.toNat := within.2
    have : '9'.toNat = 57 := rfl
    have : '0'.toNat = 48 := rfl
    omega
  rw [digitBelow?, hexDigit?, if_pos within, Option.filter_some, if_pos (decide_eq_true small)]

theorem digitBelow?_of_endsNumber {c : Char} (ends : EndsNumber c) : digitBelow? 10 c = none := by
  rcases ends with rfl | rfl | rfl <;> rfl

theorem EndsNumber.not_isDigit {c : Char} (ends : EndsNumber c) : c.isDigit = false := by
  rcases ends with rfl | rfl | rfl <;> rfl

section

variable {c : Char} (rest : List Char)

theorem digitRun_append {ds : List Char} (some_digit : ds ≠ [])
    (allDigits : ∀ d ∈ ds, d.isDigit = true) (ends : EndsNumber c) :
    digitRun (digitBelow? 10) (ds ++ c :: rest) =
      some (ds.map fun d => d.toNat - '0'.toNat, c :: rest) := by
  induction ds with
  | nil => exact absurd rfl some_digit
  | cons d ds ih =>
    have here := digitBelow?_of_isDigit (allDigits d List.mem_cons_self)
    have later : ∀ e ∈ ds, e.isDigit = true := fun e he => allDigits e (List.mem_cons_of_mem d he)
    cases ds with
    | nil =>
      have past := digitBelow?_of_endsNumber ends
      have apart : c ≠ '_' := by rcases ends with rfl | rfl | rfl <;> decide
      simp [digitRun, here, past, apart]
    | cons e es =>
      have apart : e ≠ '_' := by
        rintro rfl
        exact absurd (later '_' List.mem_cons_self) (by decide)
      have more := ih (by simp) later
      simp only [List.cons_append] at more
      rw [List.cons_append, List.cons_append, digitRun, here]
      simp [apart, more]

theorem ofDigits_toDigits (n : Nat) :
    ofDigits 10 ((Nat.toDigits 10 n).map fun d => d.toNat - '0'.toNat) = n := by
  have value := Nat.ofDigitChars_ten_toDigits (n := n)
  rw [Nat.ofDigitChars_eq_foldl] at value
  rw [ofDigits, List.foldl_map]
  simpa only [Nat.mul_comm] using value

theorem toDigits_eq_cons (n : Nat) : ∃ d ds,
    Nat.toDigits 10 n = d :: ds ∧ d.isDigit = true ∧ (0 < n → d ≠ '0') := by
  induction n using Nat.strongRecOn with
  | ind n ih =>
    rw [Nat.toDigits_eq_if (by decide)]
    split
    next small =>
      have digit : n.digitChar.isDigit = true := by rw [Nat.isDigit_digitChar]; simpa using small
      exact ⟨_, _, rfl, digit, fun pos => by simpa using Nat.ne_of_gt pos⟩
    next large =>
      obtain ⟨d, ds, front, digit, apart⟩ := ih (n / 10) (by omega)
      exact ⟨d, _, by rw [front]; rfl, digit, fun _ => apart (by omega)⟩

theorem ne_of_isDigit {d x : Char} (digit : d.isDigit = true) (other : x.isDigit = false) :
    d ≠ x := by
  rintro rfl
  exact absurd (digit.symm.trans other) (by decide)

theorem isDigit_of_mem_toDigits {n : Nat} {d : Char} (hd : d ∈ Nat.toDigits 10 n) :
    d.isDigit = true :=
  Nat.isDigit_of_mem_toDigits (by decide) (by decide) hd

theorem wholeDigits_toDigits (n : Nat) (ends : EndsNumber c) :
    wholeDigits (Nat.toDigits 10 n ++ c :: rest) =
      some ((Nat.toDigits 10 n).map fun d => d.toNat - '0'.toNat, c :: rest) := by
  have read := digitRun_append rest Nat.toDigits_ne_nil
    (fun d hd => isDigit_of_mem_toDigits (n := n) hd) ends
  rcases Nat.eq_zero_or_pos n with rfl | pos
  · rfl
  · obtain ⟨d, ds, front, _, apart⟩ := toDigits_eq_cons n
    rw [front, List.cons_append] at read ⊢
    simp [wholeDigits, apart pos, read]

theorem numberTail_of_endsNumber (negative : Bool) (whole : List Nat) (ends : EndsNumber c) :
    numberTail negative whole (c :: rest) =
      (integer? (if negative then -ofDigits 10 whole else ofDigits 10 whole)).map
        fun v => (v, c :: rest) := by
  rcases ends with rfl | rfl | rfl <;> rfl

theorem signed_toDigits (negative : Bool) (n : Nat) (ends : EndsNumber c) :
    signed negative (Nat.toDigits 10 n ++ c :: rest) =
      (integer? (if negative then -n else n)).map fun v => (v, c :: rest) := by
  have whole := wholeDigits_toDigits rest n ends
  obtain ⟨d, ds, front, digit, _⟩ := toDigits_eq_cons n
  have front' : Nat.toDigits 10 n ++ c :: rest = d :: (ds ++ c :: rest) := by rw [front]; rfl
  rw [signed, whole]
  · simp only [numberTail_of_endsNumber rest negative _ ends, ofDigits_toDigits]
  all_goals
    intro _ same
    rw [front'] at same
    exact ne_of_isDigit digit rfl (List.cons.inj same).1

theorem digits_ofNat (n : Nat) : digits (.ofNat n) = Nat.toDigits 10 n := Nat.toList_repr

theorem digits_negSucc (n : Nat) : digits (.negSucc n) = '-' :: Nat.toDigits 10 (n + 1) := by
  have signed : toString (Int.negSucc n) = "-" ++ (n + 1).repr := rfl
  rw [digits, signed, String.toList_append, Nat.toList_repr]
  rfl

theorem number_digits (n : Int) (ends : EndsNumber c) :
    number (digits n ++ c :: rest) = (integer? n).map fun v => (v, c :: rest) := by
  cases n with
  | negSucc n =>
    have read := signed_toDigits rest true (n + 1) ends
    rw [digits_negSucc]
    exact read
  | ofNat n =>
    have read := signed_toDigits rest false n ends
    rw [digits_ofNat]
    rcases Nat.eq_zero_or_pos n with rfl | pos
    · rcases ends with rfl | rfl | rfl <;> rfl
    · obtain ⟨d, ds, front, digit, apart⟩ := toDigits_eq_cons n
      have plus : d ≠ '+' := ne_of_isDigit digit rfl
      have minus : d ≠ '-' := ne_of_isDigit digit rfl
      rw [front] at read ⊢
      simpa [number, apart pos, plus, minus] using read

theorem digits_eq_cons (n : Int) : ∃ d ds, digits n = d :: ds ∧ beginsNumber d = true := by
  cases n with
  | ofNat n =>
    obtain ⟨d, ds, front, digit, _⟩ := toDigits_eq_cons n
    exact ⟨d, ds, (digits_ofNat n).trans front, Bool.or_eq_true_iff.mpr (.inl digit)⟩
  | negSucc n => exact ⟨_, _, digits_negSucc n, rfl⟩

theorem isDigit_of_twoDigits? {low high : Nat} {a b : Char}
    (read : (twoDigits? low high a b).isSome = true) : a.isDigit = true ∧ b.isDigit = true := by
  rw [twoDigits?] at read
  split at read
  next digits => exact digits
  next => exact absurd read (by decide)

theorem digits_of_looksLikeMoment {s : List Char} (moment : looksLikeMoment s = true) :
    (∃ d, s.head? = some d ∧ d.isDigit = true) ∧
      ∃ e, (s.dropWhile Char.isDigit).head? = some e ∧ (e = '-' ∨ e = ':') := by
  rcases Bool.or_eq_true_iff.mp moment with date | time
  · unfold looksLikeDate at date
    split at date
    next a b c d rest =>
      simp only [Bool.and_eq_true] at date
      obtain ⟨⟨⟨ha, hb⟩, hc⟩, hd⟩ := date
      exact ⟨⟨a, rfl, ha⟩, '-', by simp [ha, hb, hc, hd], .inl rfl⟩
    next => exact absurd date (by decide)
  · unfold looksLikeTime at time
    split at time
    next a b rest =>
      obtain ⟨ha, hb⟩ := isDigit_of_twoDigits? time
      exact ⟨⟨a, rfl, ha⟩, ':', by simp [ha, hb], .inr rfl⟩
    next => exact absurd time (by decide)

theorem looksLikeMoment_digits (n : Int) (ends : EndsNumber c) :
    looksLikeMoment (digits n ++ c :: rest) = false := by
  refine Bool.eq_false_iff.mpr fun moment => ?_
  obtain ⟨⟨d, head, digit⟩, e, after, separates⟩ := digits_of_looksLikeMoment moment
  cases n with
  | ofNat n =>
    rw [digits_ofNat, List.dropWhile_append_of_pos fun _ => isDigit_of_mem_toDigits,
      List.dropWhile_cons_of_neg (by simp [ends.not_isDigit])] at after
    obtain rfl := Option.some.inj after
    rcases ends with rfl | rfl | rfl <;> exact absurd separates (by decide)
  | negSucc n =>
    rw [digits_negSucc] at head
    obtain rfl := Option.some.inj head
    exact absurd digit (by decide)

theorem scalar_digits (n : Int) (ends : EndsNumber c) :
    scalar (digits n ++ c :: rest) = (integer? n).map fun v => (v, c :: rest) := by
  have moment := looksLikeMoment_digits rest n ends
  have read := number_digits rest n ends
  obtain ⟨d, ds, front, first⟩ := digits_eq_cons n
  have front' : digits n ++ c :: rest = d :: (ds ++ c :: rest) := by rw [front]; rfl
  rw [scalar, moment, read]
  · rfl
  all_goals
    intro _ same
    rw [front'] at same
    obtain ⟨rfl, _⟩ := List.cons.inj same
    exact absurd first (by decide)

end

/-! ## Values -/

/-- The characters that may be skipped between the parts of a text. -/
def skipped : List Char := ['\n', '\r', ' ', '\t', '#']

section

variable {c : Char} {rest : List Char}

theorem skipLines_of_notMem (kept : c ∉ skipped) : skipLines false (c :: rest) = c :: rest := by
  simp only [skipped, List.mem_cons, not_or, List.not_mem_nil, not_false_iff, and_true] at kept
  obtain ⟨_, feed, space, tab, mark⟩ := kept
  simp [skipLines, isBlank, feed, space, tab, mark]

theorem skipBlanks_of_notMem (kept : c ∉ skipped) : skipBlanks (c :: rest) = c :: rest := by
  simp only [skipped, List.mem_cons, not_or, List.not_mem_nil, not_false_iff, and_true] at kept
  obtain ⟨_, _, space, tab, _⟩ := kept
  exact List.dropWhile_cons_of_neg (by simp [isBlank, space, tab])

theorem value_of_scalar (depth : Nat) (list : c ≠ '[') (table : c ≠ '\x7b') :
    value depth (c :: rest) = scalar (c :: rest) := by
  rw [value]
  · rintro _ _ rfl ⟨⟩
    exact list rfl
  · rintro _ _ rfl ⟨⟩
    exact table rfl

theorem notMem_of_kind {kind : Char → Bool} {d : Char} (of_kind : kind d = true)
    {others : List Char} (apart : (others.all fun x => !kind x) = true) : d ∉ others := by
  intro hd
  have other := List.all_eq_true.mp apart d hd
  rw [of_kind] at other
  exact absurd other (by decide)

theorem value_digits (depth : Nat) (n : Int) (ends : EndsNumber c) :
    value depth (digits n ++ c :: rest) = (integer? n).map fun v => (v, c :: rest) := by
  rw [← scalar_digits rest n ends]
  obtain ⟨d, ds, front, first⟩ := digits_eq_cons n
  have apart : d ∉ ['[', '\x7b'] := notMem_of_kind first (by decide)
  rw [front]
  exact value_of_scalar depth (by grind) (by grind)

theorem skip_digits (n : Int) (rest : List Char) :
    skipLines false (digits n ++ rest) = digits n ++ rest := by
  obtain ⟨d, ds, front, first⟩ := digits_eq_cons n
  rw [front]
  exact skipLines_of_notMem (notMem_of_kind first (by decide))

theorem items_last (depth : Nat) (b : Int) (rest : List Char) :
    items (value depth) (skipLines false) ']' true (digits b ++ ']' :: rest) =
      (integer? b).map fun v => ([v], rest) := by
  have skip : skipLines false (']' :: rest) = ']' :: rest := skipLines_of_notMem (by decide)
  rw [items, value_digits depth b (.inr (.inr rfl))]
  cases integer? b with
  | none => rfl
  | some v => simp only [Option.map_some, skip, if_true]

theorem items_pair (depth : Nat) (a b : Int) (rest : List Char) :
    items (value depth) (skipLines false) ']' true
        (digits a ++ ',' :: ' ' :: (digits b ++ ']' :: rest)) =
      match integer? a, integer? b with
      | some a, some b => some ([a, b], rest)
      | _, _ => none := by
  have comma (more : List Char) : skipLines false (',' :: more) = ',' :: more :=
    skipLines_of_notMem (by decide)
  have blank : skipLines false (' ' :: (digits b ++ ']' :: rest)) = digits b ++ ']' :: rest :=
    skip_digits b _
  have going : (digits b ++ ']' :: rest).head? ≠ some ']' := by
    obtain ⟨d, ds, front, first⟩ := digits_eq_cons b
    rw [front]
    rintro ⟨⟩
    exact absurd first (by decide)
  have shorter : (digits b ++ ']' :: rest).length <
      (digits a ++ ',' :: ' ' :: (digits b ++ ']' :: rest)).length := by
    simp only [List.length_append, List.length_cons]
    omega
  rw [items, value_digits depth a (.inr (.inl rfl))]
  cases integer? a with
  | none => rfl
  | some v =>
    simp only [Option.map_some, comma, blank, going, shorter, items_last, Char.reduceEq, if_false,
      if_true, and_false]
    cases integer? b with
    | none => rfl
    | some w => rfl

/-- **A value** is read back up to the end of its line. -/
theorem value_chars (v : Plain) (rest : List Char) :
    value maxDepth (v.chars ++ '\n' :: rest) = v.setting?.map fun v => (v, '\n' :: rest) := by
  cases v with
  | integer n => exact value_digits maxDepth n (.inl rfl)
  | text s =>
    have read : string (quote s ++ '\n' :: rest) = some (s, '\n' :: rest) :=
      string_quote s (by decide)
    have first : value maxDepth (quote s ++ '\n' :: rest) = scalar (quote s ++ '\n' :: rest) :=
      value_of_scalar maxDepth (by decide) (by decide)
    rw [Plain.chars, first, quote, List.cons_append, scalar, ← List.cons_append, ← quote, read]
    rfl
  | pair a b =>
    obtain ⟨less, depth⟩ : ∃ less, maxDepth = less + 1 := ⟨_, rfl⟩
    have read := items_pair less a b ('\n' :: rest)
    simp only [Plain.chars, List.cons_append, List.append_assoc, List.nil_append, depth]
    rw [value, skip_digits]
    obtain ⟨d, ds, front, first⟩ := digits_eq_cons a
    rw [front, List.cons_append] at read ⊢
    split
    next same =>
      obtain ⟨rfl, _⟩ := List.cons.inj same
      exact absurd first (by decide)
    next =>
      rw [read, Plain.setting?]
      cases integer? a with
      | none => rfl
      | some v =>
        cases integer? b with
        | none => rfl
        | some w => rfl

/-! ## Lines -/

theorem name_keyChars (s : String) (rest : List Char) :
    name (keyChars s ++ ' ' :: rest) = some (s, ' ' :: rest) := by
  unfold keyChars
  split
  next bare =>
    obtain ⟨some_char, all⟩ := bare
    cases front : s.toList with
    | nil => exact absurd (String.toList_eq_nil_iff.mp front) some_char
    | cons c cs =>
      rw [front, List.all_eq_true] at all
      have first : isNameChar c = true := all c List.mem_cons_self
      have unquoted : ¬ (c = '"' ∨ c = '\x27') := by
        rintro (rfl | rfl) <;> exact absurd first (by decide)
      have taken : ((c :: cs) ++ ' ' :: rest).takeWhile isNameChar = s.toList := by
        rw [List.takeWhile_append_of_pos all, front]
        exact List.append_nil _
      have left : ((c :: cs) ++ ' ' :: rest).dropWhile isNameChar = ' ' :: rest := by
        rw [List.dropWhile_append_of_pos all]
        rfl
      rw [List.cons_append] at taken left ⊢
      simp only [name, if_neg unquoted, first, if_true, taken, left, String.ofList_toList]
  next => exact quoted_quote s (' ' :: rest)

/-- A character with which a name may begin: one of a bare name or a quote. -/
def beginsName (c : Char) : Bool := isNameChar c || c == '"'

theorem keyChars_eq_cons (s : String) : ∃ c cs, keyChars s = c :: cs ∧ beginsName c = true := by
  unfold keyChars
  split
  next bare =>
    obtain ⟨some_char, all⟩ := bare
    cases front : s.toList with
    | nil => exact absurd (String.toList_eq_nil_iff.mp front) some_char
    | cons c cs =>
      rw [front, List.all_cons, Bool.and_eq_true] at all
      exact ⟨c, cs, rfl, Bool.or_eq_true_iff.mpr (.inl all.1)⟩
  next => exact ⟨_, _, rfl, rfl⟩

theorem key_keyChars (most : Nat) (s : String) (rest : List Char) :
    key (most + 1) (keyChars s ++ ' ' :: '=' :: rest) = some (([], s), '=' :: rest) := by
  have start (more : List Char) : skipBlanks (keyChars s ++ more) = keyChars s ++ more := by
    obtain ⟨c, cs, front, first⟩ := keyChars_eq_cons s
    rw [front]
    exact skipBlanks_of_notMem (notMem_of_kind first (by decide))
  have after : skipBlanks (' ' :: '=' :: rest) = '=' :: rest := by
    have kept : '=' ∉ skipped := by decide
    exact skipBlanks_of_notMem kept
  rw [key, start, name_keyChars]
  simp only [after]
  rfl

theorem Plain.skip_chars (v : Plain) (rest : List Char) :
    skipBlanks (v.chars ++ rest) = v.chars ++ rest := by
  have front : ∃ c cs, v.chars = c :: cs ∧ c ∉ skipped := by
    cases v with
    | integer n =>
      obtain ⟨d, ds, front, first⟩ := digits_eq_cons n
      exact ⟨d, ds, front, notMem_of_kind first (by decide)⟩
    | pair a b => exact ⟨_, _, rfl, by decide⟩
    | text s => exact ⟨_, _, rfl, by decide⟩
  obtain ⟨c, cs, front, kept⟩ := front
  rw [front]
  exact skipBlanks_of_notMem kept

theorem lineChars_append (l : String × Plain) (rest : List Char) : lineChars l ++ rest =
    keyChars l.1 ++ ' ' :: '=' :: ' ' :: (l.2.chars ++ '\n' :: rest) := by
  simp only [lineChars, List.append_assoc, List.cons_append, List.nil_append]

/-- **A line** is read back as an assignment. -/
theorem line_lineChars (l : String × Plain) (rest : List Char) : line (lineChars l ++ rest) =
    l.2.setting?.map fun v => (.assignment [] l.1 v, '\n' :: rest) := by
  have name : key maxDepth (lineChars l ++ rest) =
      some (([], l.1), '=' :: ' ' :: (l.2.chars ++ '\n' :: rest)) := by
    rw [lineChars_append]
    exact key_keyChars _ l.1 _
  have blank : skipBlanks (' ' :: (l.2.chars ++ '\n' :: rest)) = l.2.chars ++ '\n' :: rest :=
    l.2.skip_chars _
  have read : entry (value maxDepth) (lineChars l ++ rest) =
      l.2.setting?.map fun v => ((([], l.1), v), '\n' :: rest) := by
    rw [entry, name]
    simp only [blank, value_chars, Option.map_map]
    rfl
  obtain ⟨c, cs, front, first⟩ := keyChars_eq_cons l.1
  have header (more : List Char) : lineChars l ++ rest ≠ '[' :: more := by
    rw [lineChars_append, front]
    rintro ⟨⟩
    exact absurd first (by decide)
  rw [line, read]
  · cases l.2.setting? with
    | none => rfl
    | some v => rfl
  · exact fun _ => header _
  · exact fun _ => header _

theorem lines_lineChars (l : String × Plain) (rest : List Char) : lines (lineChars l ++ rest) =
    l.2.setting?.bind fun v => (lines rest).map (.assignment [] l.1 v :: ·) := by
  have start : skipLines false (lineChars l ++ rest) = lineChars l ++ rest := by
    obtain ⟨c, cs, front, first⟩ := keyChars_eq_cons l.1
    rw [lineChars_append, front]
    exact skipLines_of_notMem (notMem_of_kind first (by decide))
  have past : endLine? ('\n' :: rest) = some rest := rfl
  have shorter : rest.length < (lineChars l ++ rest).length := by
    rw [lineChars_append]
    simp only [List.length_append, List.length_cons]
    omega
  have read := line_lineChars l rest
  obtain ⟨c, cs, front, _⟩ := keyChars_eq_cons l.1
  rw [lines, start]
  rw [lineChars_append, front] at read shorter ⊢
  simp only [List.cons_append] at read shorter ⊢
  rw [read]
  cases l.2.setting? with
  | none => rfl
  | some v => simp only [Option.map_some, past, shorter, if_true, Option.bind_some]

end

/-! ## Documents -/

theorem isSome_lookup_iff {entries : Node.Entries} {name : String} :
    (entries.lookup name).isSome = true ↔ name ∈ entries.map Prod.fst := by
  simp only [List.lookup_isSome_iff, beq_iff_eq, List.mem_map]
  exact exists_congr fun _ => and_congr_right fun _ => eq_comm

theorem add?_assignment (entries : Node.Entries) (name : String) (v : Setting) :
    Document.add? ⟨entries, []⟩ (.assignment [] name v) =
      if name ∈ entries.map Prod.fst then none else some ⟨entries ++ [(name, .leaf v)], []⟩ := by
  by_cases known : name ∈ entries.map Prod.fst
  · have found : (entries.lookup name).isSome = true := isSome_lookup_iff.mpr known
    rw [if_pos known]
    simp [Document.add?, Node.descend, Node.assign?, found]
  · have new : ¬ (entries.lookup name).isSome = true := mt isSome_lookup_iff.mp known
    rw [if_neg known]
    simp only [Document.add?, Node.descend, Node.assign?, new, List.isEmpty_nil, Bool.false_eq_true,
      or_self, if_false, Option.map_some]

theorem foldlM_add? {entries : Node.Entries} (distinct : (entries.map Prod.fst).Nodup)
    (settings : List (String × Setting)) :
    (settings.map fun s => Line.assignment [] s.1 s.2).foldlM Document.add? ⟨entries, []⟩ =
      if (entries.map Prod.fst ++ settings.map Prod.fst).Nodup then
        some ⟨entries ++ settings.map fun s => (s.1, .leaf s.2), []⟩
      else none := by
  induction settings generalizing entries with
  | nil => simp [distinct]
  | cons s settings ih =>
    rw [List.map_cons, List.foldlM_cons, add?_assignment]
    by_cases known : s.1 ∈ entries.map Prod.fst
    · have twice : ¬ (entries.map Prod.fst ++ (s :: settings).map Prod.fst).Nodup := fun nodup =>
        (List.nodup_append.mp nodup).2.2 _ known _ List.mem_cons_self rfl
      rw [if_pos known, if_neg twice]
      rfl
    · have distinct' : ((entries ++ [(s.1, Node.leaf s.2)]).map Prod.fst).Nodup := by
        rw [List.map_append, List.nodup_append]
        refine ⟨distinct, List.pairwise_singleton _ _, fun a ha b hb same => known ?_⟩
        rw [List.map_cons, List.map_nil, List.mem_singleton] at hb
        exact hb ▸ same ▸ ha
      rw [if_neg known]
      refine (ih distinct').trans ?_
      simp only [List.map_append, List.map_cons, List.map_nil, List.append_assoc,
        List.cons_append, List.nil_append]

theorem toSettings_leaves (settings : List (String × Setting)) :
    Node.toSettings (settings.map fun s => (s.1, .leaf s.2)) = settings := by
  induction settings with
  | nil => rfl
  | cons s settings ih => simp [Node.toSettings, Node.toSetting, ih]

/-- The named values that are read from lines, if their numbers have 64 bits. -/
def settingsOf? (ls : List (String × Plain)) : Option (List (String × Setting)) :=
  ls.mapM fun l => l.2.setting?.map (l.1, ·)

theorem settingsOf?_cons (l : String × Plain) (ls : List (String × Plain)) :
    settingsOf? (l :: ls) =
      l.2.setting?.bind fun v => (settingsOf? ls).map ((l.1, v) :: ·) := by
  rw [settingsOf?, List.mapM_cons]
  cases l.2.setting? with
  | none => rfl
  | some v =>
    rw [← settingsOf?]
    cases settingsOf? ls with
    | none => rfl
    | some settings => rfl

theorem lines_write (ls : List (String × Plain)) : lines (ls.flatMap lineChars) =
    (settingsOf? ls).map (List.map fun s => .assignment [] s.1 s.2) := by
  induction ls with
  | nil => rw [List.flatMap_nil, lines]; rfl
  | cons l ls ih =>
    rw [List.flatMap_cons, lines_lineChars, ih, settingsOf?_cons]
    cases l.2.setting? with
    | none => rfl
    | some v =>
      cases settingsOf? ls with
      | none => rfl
      | some settings => rfl

theorem map_fst_of_settingsOf? {ls : List (String × Plain)} {settings : List (String × Setting)}
    (read : settingsOf? ls = some settings) : settings.map Prod.fst = ls.map Prod.fst := by
  induction ls generalizing settings with
  | nil =>
    obtain rfl : [] = settings := Option.some.inj read
    rfl
  | cons l ls ih =>
    rw [settingsOf?_cons] at read
    obtain ⟨v, _, rest⟩ := Option.bind_eq_some_iff.mp read
    obtain ⟨more, read', rfl⟩ := Option.map_eq_some_iff.mp rest
    rw [List.map_cons, List.map_cons, ih read']

/-- **A text of plain lines** names the values of its lines, if their numbers have 64 bits and no
name is given twice. -/
theorem settings?_write (ls : List (String × Plain)) :
    settings? (write ls) = if (ls.map Prod.fst).Nodup then settingsOf? ls else none := by
  have noMark : (ls.flatMap lineChars).head? ≠ some '\ufeff' := by
    cases ls with
    | nil => decide
    | cons l ls =>
      obtain ⟨c, cs, front, first⟩ := keyChars_eq_cons l.1
      rw [List.flatMap_cons, lineChars_append, front]
      rintro ⟨⟩
      exact absurd first (by decide)
  rw [settings?, write, String.toList_ofList]
  simp only [noMark, if_false, lines_write]
  cases read : settingsOf? ls with
  | none => simp
  | some settings =>
    have start : (([] : Node.Entries).map Prod.fst).Nodup := List.nodup_nil
    rw [Option.map_some, Option.bind_some, Document.ofLines?, foldlM_add? start, List.map_nil,
      List.nil_append, List.nil_append, map_fst_of_settingsOf? read]
    split
    · rw [Option.map_some, toSettings_leaves]
    · rfl

end MazeChase.Toml
