import MazeChase.Toml.Reader

/-!
# Dates and times of TOML

A date of the calendar, a time of the day, or both with an offset that may follow. No setting of a
game is one; what matters is where it ends and whether the day and the hour exist.

* `date?`, `time?`, `offset?`;
* `looksLikeMoment`: a text that begins like a date or a time has to be one;
* `moment?`: the text after a date, a time, or both.
-/

set_option autoImplicit false

namespace MazeChase.Toml

/-- The value of two decimal digits, if it lies within bounds. -/
def twoDigits? (low high : Nat) (a b : Char) : Option Nat :=
  if a.isDigit ∧ b.isDigit then
    let n := (a.toNat - '0'.toNat) * 10 + (b.toNat - '0'.toNat)
    if low ≤ n ∧ n ≤ high then some n else none
  else none

/-- The year has a leap day. -/
def isLeap (year : Nat) : Bool := year % 4 = 0 && (year % 100 ≠ 0 || year % 400 = 0)

/-- The number of days of a month. -/
def daysIn (year month : Nat) : Nat :=
  if month = 2 then if isLeap year then 29 else 28
  else if month = 4 ∨ month = 6 ∨ month = 9 ∨ month = 11 then 30
  else 31

/-- The text after a date. -/
def date? : List Char → Option (List Char)
  | a :: b :: c :: d :: '-' :: e :: f :: '-' :: g :: h :: rest =>
    match twoDigits? 0 99 a b, twoDigits? 0 99 c d, twoDigits? 1 12 e f with
    | some century, some year, some month =>
      (twoDigits? 1 (daysIn (century * 100 + year) month) g h).map fun _ => rest
    | _, _, _ => none
  | _ => none

/-- The text after a time, whose seconds may have a fraction. -/
def time? : List Char → Option (List Char)
  | a :: b :: ':' :: c :: d :: ':' :: e :: f :: rest =>
    match twoDigits? 0 23 a b, twoDigits? 0 59 c d, twoDigits? 0 60 e f with
    | some _, some _, some _ =>
      match rest with
      | '.' :: g :: more => if g.isDigit then some (more.dropWhile Char.isDigit) else none
      | rest => some rest
    | _, _, _ => none
  | _ => none

/-- The text after the offset of a time, if it has one. -/
def offset? : List Char → Option (List Char)
  | 'Z' :: rest | 'z' :: rest => some rest
  | sign :: rest =>
    if sign = '+' ∨ sign = '-' then
      match rest with
      | a :: b :: ':' :: c :: d :: rest =>
        match twoDigits? 0 23 a b, twoDigits? 0 59 c d with
        | some _, some _ => some rest
        | _, _ => none
      | _ => none
    else some (sign :: rest)
  | [] => some []

/-- The text begins with two digits and a colon, the first of which make an hour. -/
def looksLikeTime : List Char → Bool
  | a :: b :: ':' :: _ => (twoDigits? 0 23 a b).isSome
  | _ => false

/-- The text begins with four digits and a hyphen. -/
def looksLikeDate : List Char → Bool
  | a :: b :: c :: d :: '-' :: _ => a.isDigit && b.isDigit && c.isDigit && d.isDigit
  | _ => false

/-- The text begins like a date or a time. -/
def looksLikeMoment (s : List Char) : Bool := looksLikeDate s || looksLikeTime s

/-- The text after a date, a time, or both. -/
def moment? (s : List Char) : Option (List Char) :=
  if looksLikeDate s then
    match date? s with
    | none => none
    | some [] => some []
    | some (c :: rest) =>
      if (c = 'T' ∨ c = 't' ∨ c = ' ') ∧ looksLikeTime rest then (time? rest).bind offset?
      else some (c :: rest)
  else time? s

end MazeChase.Toml
