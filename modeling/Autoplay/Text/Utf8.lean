/-!
# Text from bytes

Reading UTF-8. Bytes that are no character are replaced: as many of them as could still have become
one character give one replacement character, and a byte that cannot begin a character gives
another.
-/

namespace Autoplay.Text.Utf8

/-- A character of which some bytes have been read. -/
structure Partial where
  /-- The bits that were read. -/
  bits : Nat
  /-- The number of bytes after the next one. -/
  more : Nat
  /-- The least byte that may come next. -/
  low : UInt8 := 0x80
  /-- The greatest byte that may come next. -/
  high : UInt8 := 0xBF

/-- What a byte at the start of a character means. -/
inductive First where
  /-- It is a whole character. -/
  | whole (c : Char)
  /-- It begins a longer one. -/
  | begins (p : Partial)
  /-- No character begins with it. -/
  | broken

/-- Reads the first byte of a character. Bytes that would begin a needlessly long form, half of a
pair, or a number above all characters are cut off by the bounds on the next byte. -/
def first (b : UInt8) : First :=
  if b < 0x80 then .whole (Char.ofNat b.toNat)
  else if b < 0xC2 then .broken
  else if b < 0xE0 then .begins { bits := b.toNat - 0xC0, more := 0 }
  else if b = 0xE0 then .begins { bits := 0, more := 1, low := 0xA0 }
  else if b = 0xED then .begins { bits := 0xD, more := 1, high := 0x9F }
  else if b < 0xF0 then .begins { bits := b.toNat - 0xE0, more := 1 }
  else if b = 0xF0 then .begins { bits := 0, more := 2, low := 0x90 }
  else if b < 0xF4 then .begins { bits := b.toNat - 0xF0, more := 2 }
  else if b = 0xF4 then .begins { bits := 4, more := 2, high := 0x8F }
  else .broken

/-- What stands for bytes that are no character. -/
def replacement : Char := Char.ofNat 0xFFFD

/-- Reads on after a part of a character, or at the start of one. -/
def decodeAfter : Option Partial → List UInt8 → List Char
  | none, [] => []
  | some _, [] => [replacement]
  | none, b :: rest => start b rest
  | some p, b :: rest =>
    if p.low ≤ b && b ≤ p.high then
      let bits := p.bits * 64 + (b.toNat - 0x80)
      match p.more with
      | 0 => Char.ofNat bits :: decodeAfter none rest
      | more + 1 => decodeAfter (some { bits, more }) rest
    else replacement :: start b rest
where
  /-- Reads on with a byte at the start of a character. -/
  start (b : UInt8) (rest : List UInt8) : List Char :=
    match first b with
    | .whole c => c :: decodeAfter none rest
    | .begins p => decodeAfter (some p) rest
    | .broken => replacement :: decodeAfter none rest

/-- The text of some bytes. -/
def decode (bytes : List UInt8) : String := String.ofList (decodeAfter none bytes)

end Autoplay.Text.Utf8
