/-!
# Binary formats

A format writes a value as bytes and reads a value off the front of a list of bytes.

* `Format`, `Format.read?`: reading where the bytes that follow do not matter;
* `Format.byte`, `Format.word`, `Format.pair`, `Format.option`, `Format.choice`, `Format.convert`:
  formats and what they are built from;
* `Format.Exact`: what is read is what was written, and the bytes after it are left alone.
-/

set_option autoImplicit false

namespace MazeChase.Binary

/-- A way to write values of a type as bytes. -/
structure Format (α : Type) where
  /-- The bytes of a value. -/
  encode : α → List UInt8
  /-- The value at the front, and the bytes after it. -/
  decode : List UInt8 → Option (α × List UInt8)

namespace Format

variable {α β : Type}

/-- The value at the front. -/
def read? (f : Format α) (bytes : List UInt8) : Option α := (f.decode bytes).map Prod.fst

/-- A value is read exactly where its bytes are at the front, and they are all that is read. -/
def Exact (f : Format α) : Prop :=
  ∀ bytes value rest, f.decode bytes = some (value, rest) ↔ bytes = f.encode value ++ rest

/-- One byte as it is. -/
def byte : Format UInt8 where
  encode b := [b]
  decode
    | b :: rest => some (b, rest)
    | [] => none

/-- A number of 32 bits in four bytes, the lowest one first. -/
def word : Format UInt32 where
  encode n := [n.toUInt8, (n >>> 8).toUInt8, (n >>> 16).toUInt8, (n >>> 24).toUInt8]
  decode
    | a :: b :: c :: d :: rest =>
      some (a.toUInt32 ||| b.toUInt32 <<< 8 ||| c.toUInt32 <<< 16 ||| d.toUInt32 <<< 24, rest)
    | _ => none

/-- Two values one after the other. -/
def pair (f : Format α) (g : Format β) : Format (α × β) where
  encode v := f.encode v.1 ++ g.encode v.2
  decode bytes :=
    match f.decode bytes with
    | some (a, rest) => (g.decode rest).map fun (b, rest) => ((a, b), rest)
    | none => none

/-- A value of one type written as a value of another, which may be one that stands for nothing. -/
def convert (f : Format α) (ofRaw : α → Option β) (toRaw : β → α) : Format β where
  encode v := f.encode (toRaw v)
  decode bytes :=
    match f.decode bytes with
    | some (a, rest) => (ofRaw a).map fun b => (b, rest)
    | none => none

/-- One of several values, written as its place in their list. -/
def choice (values : List α) (index : α → Nat) : Format α :=
  word.convert (fun n => values[n.toNat]?) fun v => UInt32.ofNat (index v)

/-- Nothing as the byte 0, a value after the byte 1. -/
def option (f : Format α) : Format (Option α) where
  encode
    | none => [0]
    | some v => 1 :: f.encode v
  decode
    | 0 :: rest => some (none, rest)
    | 1 :: rest => (f.decode rest).map fun (v, rest) => (some v, rest)
    | _ => none

end Format

end MazeChase.Binary
