/-!
# Bits of compressed data

Reading compressed data bit by bit: of each byte the least weighty bit comes first. Numbers of
several bits begin with their least weighty bit.
-/

namespace Autoplay.Png

/-- Bits that have not been read yet. -/
structure BitSource where
  /-- The bits left of the byte under way, shifted down. -/
  current : Nat := 0
  /-- The number of bits left of it. -/
  left : Nat := 0
  /-- The bytes behind it. -/
  rest : List UInt8

/-- A reader of bits, which fails when there is nothing left to read. -/
abbrev Bits := StateT BitSource Option

namespace Bits

/-- Gives up. -/
def refuse {α : Type} : Bits α := fun _ => none

/-- Reads a bit. -/
def bit : Bits Nat := fun s =>
  match s.left, s.rest with
  | left + 1, _ => some (s.current % 2, { s with current := s.current / 2, left })
  | 0, [] => none
  | 0, b :: rest => some (b.toNat % 2, { current := b.toNat / 2, left := 7, rest })

/-- Reads a number of some bits. -/
def number : Nat → Bits Nat
  | 0 => pure 0
  | n + 1 => do
    let low ← bit
    let high ← number n
    pure (low + 2 * high)

/-- Reads a byte behind the one under way, of which nothing more is read. -/
def byte : Bits UInt8 := fun s =>
  match s.rest with
  | [] => none
  | b :: rest => some (b, { rest })

end Bits

end Autoplay.Png
