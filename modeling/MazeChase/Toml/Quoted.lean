import MazeChase.Toml.Reader

/-!
# Strings of TOML

A string stands between quotes or, when a backslash is to mean itself, between apostrophes. Three of
them enclose a string of several lines, which may begin on the next line.

* `escaped?`: what a character after a backslash stands for;
* `basic`, `literal`, `basicLines`, `literalLines`: what stands before the closing quotes;
* `quoted`: a string on one line, which may be a key; `string`: any string.
-/

set_option autoImplicit false

namespace MazeChase.Toml

/-- What a character after a backslash stands for, if no digits follow it. -/
def escaped? : Char → Option Char
  | 'b' => some '\x08'
  | 't' => some '\t'
  | 'n' => some '\n'
  | 'f' => some '\x0c'
  | 'r' => some '\r'
  | '"' => some '"'
  | '\\' => some '\\'
  | _ => none

/-- The value of a hexadecimal digit. -/
def hexDigit? (c : Char) : Option Nat :=
  if '0' ≤ c ∧ c ≤ '9' then some (c.toNat - '0'.toNat)
  else if 'a' ≤ c ∧ c ≤ 'f' then some (c.toNat - 'a'.toNat + 10)
  else if 'A' ≤ c ∧ c ≤ 'F' then some (c.toNat - 'A'.toNat + 10)
  else none

/-- The number of hexadecimal digits. -/
def hexNumber? (digits : List Char) : Option Nat :=
  (digits.mapM hexDigit?).map fun ds => ds.foldl (fun n d => n * 16 + d) 0

/-- The character with a code point given in hexadecimal digits. -/
def codePoint? (digits : List Char) : Option Char :=
  (hexNumber? digits).bind fun n => if n.isValidChar then some (Char.ofNat n) else none

/-- Put a character in front of what is read. -/
def consChar (c : Char) : Option (List Char × List Char) → Option (List Char × List Char)
  | some (cs, rest) => some (c :: cs, rest)
  | none => none

/-- The text of a string up to the closing quote. -/
def basic : Reader (List Char)
  | [] => none
  | '"' :: rest => some ([], rest)
  | '\\' :: 'u' :: a :: b :: c :: d :: rest =>
    (codePoint? [a, b, c, d]).bind fun x => consChar x (basic rest)
  | '\\' :: 'U' :: a :: b :: c :: d :: e :: f :: g :: h :: rest =>
    (codePoint? [a, b, c, d, e, f, g, h]).bind fun x => consChar x (basic rest)
  | '\\' :: c :: rest => (escaped? c).bind fun x => consChar x (basic rest)
  | c :: rest => if isPlain c then consChar c (basic rest) else none

/-- The text of a string up to the closing apostrophe. -/
def literal : Reader (List Char)
  | [] => none
  | '\x27' :: rest => some ([], rest)
  | c :: rest => if isPlain c then consChar c (literal rest) else none

/-- Where the text of a string of several lines goes on. A backslash at the end of a line joins it
to the next character that is neither blank nor a line end. -/
inductive Joining where
  /-- In the text. -/
  | text
  /-- After a backslash, before the end of the line. -/
  | line
  /-- After the end of a line that is joined. -/
  | next
deriving DecidableEq, Repr

/-- The text of a string of several lines up to the closing quotes, before which one or two quotes
may stand. -/
def basicLines : Joining → Reader (List Char)
  | _, [] => none
  | .line, '\n' :: rest => basicLines .next rest
  | .line, '\r' :: '\n' :: rest => basicLines .next rest
  | .line, c :: rest => if isBlank c then basicLines .line rest else none
  | .next, '\n' :: rest => basicLines .next rest
  | .next, '\r' :: '\n' :: rest => basicLines .next rest
  | .next, ' ' :: rest => basicLines .next rest
  | .next, '\t' :: rest => basicLines .next rest
  | _, '"' :: '"' :: '"' :: '"' :: '"' :: rest => some (['"', '"'], rest)
  | _, '"' :: '"' :: '"' :: '"' :: rest => some (['"'], rest)
  | _, '"' :: '"' :: '"' :: rest => some ([], rest)
  | _, '\r' :: '\n' :: rest => consChar '\n' (basicLines .text rest)
  | _, '\\' :: 'u' :: a :: b :: c :: d :: rest =>
    (codePoint? [a, b, c, d]).bind fun x => consChar x (basicLines .text rest)
  | _, '\\' :: 'U' :: a :: b :: c :: d :: e :: f :: g :: h :: rest =>
    (codePoint? [a, b, c, d, e, f, g, h]).bind fun x => consChar x (basicLines .text rest)
  | _, '\\' :: '\n' :: rest => basicLines .next rest
  | _, '\\' :: '\r' :: '\n' :: rest => basicLines .next rest
  | _, '\\' :: c :: rest =>
    if isBlank c then basicLines .line rest
    else (escaped? c).bind fun x => consChar x (basicLines .text rest)
  | _, c :: rest =>
    if c = '\n' ∨ isPlain c then consChar c (basicLines .text rest) else none

/-- The text of a string of several lines up to the closing apostrophes, before which one or two
apostrophes may stand. -/
def literalLines : Reader (List Char)
  | [] => none
  | '\x27' :: '\x27' :: '\x27' :: '\x27' :: '\x27' :: rest => some (['\x27', '\x27'], rest)
  | '\x27' :: '\x27' :: '\x27' :: '\x27' :: rest => some (['\x27'], rest)
  | '\x27' :: '\x27' :: '\x27' :: rest => some ([], rest)
  | '\r' :: '\n' :: rest => consChar '\n' (literalLines rest)
  | c :: rest => if c = '\n' ∨ isPlain c then consChar c (literalLines rest) else none

/-- The text after one line end, if it begins with one. -/
def dropNewline : List Char → List Char
  | '\n' :: rest => rest
  | '\r' :: '\n' :: rest => rest
  | s => s

/-- A string on one line. -/
def quoted : Reader String
  | '"' :: rest => (basic rest).map fun (cs, rest) => (String.ofList cs, rest)
  | '\x27' :: rest => (literal rest).map fun (cs, rest) => (String.ofList cs, rest)
  | _ => none

/-- A string. -/
def string : Reader String
  | '"' :: '"' :: '"' :: rest =>
    (basicLines .text (dropNewline rest)).map fun (cs, rest) => (String.ofList cs, rest)
  | '\x27' :: '\x27' :: '\x27' :: rest =>
    (literalLines (dropNewline rest)).map fun (cs, rest) => (String.ofList cs, rest)
  | s => quoted s

end MazeChase.Toml
