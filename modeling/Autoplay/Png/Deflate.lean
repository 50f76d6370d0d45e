import Autoplay.Png.Bits

/-!
# Deflated data

Compressed data come in blocks. A block either holds bytes as they are, or a sequence of symbols,
each of them a byte or a repetition: so many bytes from so far back. Symbols are written in prefix
codes, which are fixed, or described at the start of a block by the lengths of the code words.
-/

namespace Autoplay.Png

/-- A prefix code whose words are numbered by length and symbol. -/
structure PrefixCode where
  /-- The numbers of words of one bit, two bits and so on. -/
  counts : List Nat
  /-- The symbols in the order of their words. -/
  symbols : Array Nat

namespace PrefixCode

/-- The greatest length of a word. -/
def longest : Nat := 15

/-- The code of a list of lengths, one for each symbol; unused symbols have none. -/
def ofLengths (lengths : List Nat) : PrefixCode where
  counts := (List.range longest).map fun i => lengths.count (i + 1)
  symbols := ((List.range longest).flatMap fun i =>
    lengths.zipIdx.filterMap fun (n, symbol) => if n = i + 1 then some symbol else none).toArray

/-- The share of all words of the greatest length that begin with a word of the code. -/
def used (c : PrefixCode) : Nat :=
  c.counts.foldl (fun total n => 2 * total + n) 0

/-- Whether there is room for all words of the code. -/
def fits (c : PrefixCode) : Bool :=
  c.used ≤ Nat.pow 2 longest

/-- Reads a symbol: `word` is what was read of its word, `first` the first word of that length, and
`before` the number of shorter words. -/
def symbolFrom (symbols : Array Nat) : List Nat → Nat → Nat → Nat → Bits Nat
  | [], _, _, _ => Bits.refuse
  | n :: counts, word, first, before => do
    let word := 2 * word + (← Bits.bit)
    let first := 2 * first
    if word < first + n then
      match symbols[before + (word - first)]? with
      | some symbol => pure symbol
      | none => Bits.refuse
    else symbolFrom symbols counts word (first + n) (before + n)

/-- Reads a symbol. -/
def symbol (c : PrefixCode) : Bits Nat := symbolFrom c.symbols c.counts 0 0 0

end PrefixCode

namespace Deflate

/-- The symbol that ends a block. -/
def blockEnd : Nat := 256

/-- The least length of each symbol for a repetition, and the number of bits that tell how much
longer it is. -/
def lengths : List (Nat × Nat) :=
  (List.range 29).map fun i =>
    if i < 8 then (i + 3, 0)
    else if i = 28 then (258, 0)
    else (((i % 4) + 4) * Nat.pow 2 (i / 4 - 1) + 3, i / 4 - 1)

/-- The least distance of each symbol for a distance, and the number of bits that tell how much
farther it is. -/
def distances : List (Nat × Nat) :=
  (List.range 30).map fun i =>
    if i < 4 then (i + 1, 0) else (((i % 2) + 2) * Nat.pow 2 (i / 2 - 1) + 1, i / 2 - 1)

/-- Reads what a symbol leaves open of a length or a distance. -/
def amount (table : List (Nat × Nat)) (symbol : Nat) : Bits Nat := do
  match table[symbol]? with
  | none => Bits.refuse
  | some (least, bits) => pure (least + (← Bits.number bits))

/-- Repeats a number of bytes from a distance back. -/
def repeated (distance : Nat) : Nat → Array UInt8 → Array UInt8
  | 0, out => out
  | n + 1, out => repeated distance n (out.push (out.getD (out.size - distance) 0))

/-- Reads the symbols of a block; `fuel` bounds their number. -/
def symbols (bytes back : PrefixCode) : Nat → Array UInt8 → Bits (Array UInt8)
  | 0, _ => Bits.refuse
  | fuel + 1, out => do
    let s ← bytes.symbol
    if s < blockEnd then symbols bytes back fuel (out.push (UInt8.ofNat s))
    else if s = blockEnd then pure out
    else
      let length ← amount lengths (s - blockEnd - 1)
      let distance ← amount distances (← back.symbol)
      if out.size < distance then Bits.refuse
      else symbols bytes back fuel (repeated distance length out)

/-- The code for bytes and lengths of blocks that do not describe one. -/
def fixedBytes : PrefixCode :=
  .ofLengths (List.replicate 144 8 ++ List.replicate 112 9 ++ List.replicate 24 7
    ++ List.replicate 8 8)

/-- The code for distances of blocks that do not describe one. -/
def fixedBack : PrefixCode := .ofLengths (List.replicate 30 5)

/-- The order in which the lengths of the code for lengths are given. -/
def lengthOrder : List Nat := [16, 17, 18, 0, 8, 7, 9, 6, 10, 5, 11, 4, 12, 3, 13, 2, 14, 1, 15]

/-- Reads a number of code lengths, the last one first; `fuel` bounds the number of symbols. -/
def codeLengths (code : PrefixCode) (wanted : Nat) : Nat → List Nat → Bits (List Nat)
  | 0, _ => Bits.refuse
  | fuel + 1, found => do
    if found.length = wanted then pure found
    else if wanted < found.length then Bits.refuse
    else
      let s ← code.symbol
      if s < 16 then codeLengths code wanted fuel (s :: found)
      else if s = 16 then
        match found with
        | [] => Bits.refuse
        | last :: _ =>
          let n ← Bits.number 2
          codeLengths code wanted fuel (List.replicate (n + 3) last ++ found)
      else
        let n ← if s = 17 then (· + 3) <$> Bits.number 3 else (· + 11) <$> Bits.number 7
        codeLengths code wanted fuel (List.replicate n 0 ++ found)

/-- Reads the codes that a block describes. -/
def describedCodes : Bits (PrefixCode × PrefixCode) := do
  let byteCount := (← Bits.number 5) + 257
  let backCount := (← Bits.number 5) + 1
  let given := (← Bits.number 4) + 4
  let found ← (lengthOrder.take given).mapM fun s => do pure (s, ← Bits.number 3)
  let code := PrefixCode.ofLengths ((List.range 19).map fun s => (found.lookup s).getD 0)
  if !code.fits then Bits.refuse
  else
    let wanted := byteCount + backCount
    let all := (← codeLengths code wanted (wanted + 1) []).reverse
    let bytes := PrefixCode.ofLengths (all.take byteCount)
    let back := PrefixCode.ofLengths (all.drop byteCount)
    if bytes.fits && back.fits then pure (bytes, back) else Bits.refuse

/-- Reads a number of bytes as they are. -/
def plainBytes : Nat → Array UInt8 → Bits (Array UInt8)
  | 0, out => pure out
  | n + 1, out => do
    let b ← Bits.byte
    plainBytes n (out.push b)

/-- Reads a block of bytes as they are, with their number in front and again with all bits turned
over. -/
def plainBlock (out : Array UInt8) : Bits (Array UInt8) := do
  let a ← Bits.byte
  let b ← Bits.byte
  let c ← Bits.byte
  let d ← Bits.byte
  let n := a.toNat + 256 * b.toNat
  let turned := c.toNat + 256 * d.toNat
  if n + turned = 65535 then plainBytes n out else Bits.refuse

/-- Reads blocks up to the last one; `fuel` bounds the numbers of blocks and of symbols in one. -/
def blocks (room : Nat) : Nat → Array UInt8 → Bits (Array UInt8)
  | 0, _ => Bits.refuse
  | fuel + 1, out => do
    let last ← Bits.bit
    let kind ← Bits.number 2
    let out ←
      match kind with
      | 0 => plainBlock out
      | 1 => symbols fixedBytes fixedBack room out
      | 2 => do
        let (bytes, back) ← describedCodes
        symbols bytes back room out
      | _ => Bits.refuse
    if last = 1 then pure out else blocks room fuel out

/-- The data of a compressed stream: two bytes say how it is compressed, and blocks follow. Each
symbol and each block takes a bit at least. -/
def inflate (bytes : List UInt8) : Option (Array UInt8) :=
  match bytes with
  | kind :: flags :: rest =>
    if kind.toNat % 16 = 8 ∧ (kind.toNat * 256 + flags.toNat) % 31 = 0
        ∧ flags.toNat / 32 % 2 = 0 then
      let room := 8 * rest.length + 1
      ((blocks room room #[]).run { rest }).map (·.1)
    else none
  | _ => none

end Deflate

end Autoplay.Png
