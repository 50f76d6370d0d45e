/-!
# Chunks

A picture file is a signature and a sequence of chunks. Each has a length, a name, its data, and a
checksum of name and data.
-/

namespace Autoplay.Png

/-- A chunk. -/
structure Chunk where
  /-- The four characters of its name. -/
  name : String
  /-- Its data. -/
  data : List UInt8

namespace Chunk

/-- The bytes that each file begins with. -/
def signature : List UInt8 := [0x89, 0x50, 0x4E, 0x47, 0x0D, 0x0A, 0x1A, 0x0A]

/-- One bit of a checksum. -/
def checksumBit (r : UInt32) : UInt32 :=
  if r &&& 1 = 1 then (r >>> 1) ^^^ 0xEDB88320 else r >>> 1

/-- One byte of a checksum. -/
def checksumByte (r : UInt32) (b : UInt8) : UInt32 :=
  (List.range 8).foldl (fun r _ => checksumBit r) (r ^^^ b.toUInt32)

/-- The checksum of some bytes. -/
def checksum (bytes : List UInt8) : UInt32 :=
  bytes.foldl checksumByte 0xFFFFFFFF ^^^ 0xFFFFFFFF

/-- A number of several bytes, the weightiest first. -/
def number (bytes : List UInt8) : Nat :=
  bytes.foldl (fun n b => 256 * n + b.toNat) 0

/-- The first bytes, if there are as many, and those behind them. -/
def split? (n : Nat) (bytes : List UInt8) : Option (List UInt8 × List UInt8) :=
  let (front, rest) := bytes.splitAt n
  if front.length = n then some (front, rest) else none

/-- Reads a chunk. -/
def read? (bytes : List UInt8) : Option (Chunk × List UInt8) := do
  let (size, bytes) ← split? 4 bytes
  let (name, bytes) ← split? 4 bytes
  let (data, bytes) ← split? (number size) bytes
  let (sum, bytes) ← split? 4 bytes
  if (checksum (name ++ data)).toNat = number sum then
    some (⟨String.ofList (name.map fun b => Char.ofNat b.toNat), data⟩, bytes)
  else none

/-- Reads chunks up to the one that marks the end; `fuel` bounds their number. -/
def readAll? : Nat → List UInt8 → Option (List Chunk)
  | 0, _ => none
  | fuel + 1, bytes => do
    let (c, rest) ← read? bytes
    if c.name = "IEND" then some [] else (readAll? fuel rest).map (c :: ·)

/-- The chunks of a file. -/
def ofFile? (bytes : List UInt8) : Option (List Chunk) :=
  if signature.isPrefixOf bytes then
    let rest := bytes.drop signature.length
    readAll? (rest.length + 1) rest
  else none

end Chunk

end Autoplay.Png
