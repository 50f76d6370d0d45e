import Autoplay.Toml.Scalar
import Autoplay.Toml.Table

/-!
# Reading TOML

Lines are keys with values or headers of tables; the fields of a table stand in the order of the
text. Arrays and inline tables may be nested up to a depth of 79, and a key has as many names at
most.
-/

namespace Autoplay.Toml

/-- Characters of a key without quotes. -/
def isKeyChar (c : Char) : Bool := c.isAlphanum || c == '_' || c == '-'

/-- One name of a key. -/
def simpleKey? (s : List Char) : Option (String × List Char) :=
  match s with
  | '"' :: rest => (basic? (rest.length + 1) rest).map fun (t, s) => (String.ofList t, s)
  | '\'' :: rest => (literalString? rest).map fun (t, s) => (String.ofList t, s)
  | s =>
    let word := s.takeWhile isKeyChar
    if word = [] then none else some (String.ofList word, s.dropWhile isKeyChar)

/-- A key of one or more names joined by points, at most `fuel` of them; blanks around it are
skipped. -/
def key? : Nat → List Char → Option (List String × List Char)
  | 0, _ => none
  | fuel + 1, s => do
    let (name, s) ← simpleKey? (skipBlanks s)
    match skipBlanks s with
    | '.' :: rest =>
      let (names, s) ← key? fuel rest
      some (name :: names, s)
    | s => some ([name], s)

/-- The greatest number of names in a key, and the greatest depth of a value. -/
def depthLimit : Nat := 79

/-- Skips a comment up to the end of its line; `none` if a control stands in it. -/
def skipComment (s : List Char) : Option (List Char) :=
  match s with
  | '#' :: rest =>
    let behind := rest.dropWhile isPrintable
    if behind = [] ∨ (newline? behind).isSome then some behind else none
  | s => some s

/-- Skips blanks, comments and line ends, at most `fuel` lines of them. -/
def skipGaps : Nat → List Char → Option (List Char)
  | 0, s => some s
  | fuel + 1, s => do
    let s ← skipComment (skipBlanks s)
    match newline? s with
    | some rest => skipGaps fuel rest
    | none => some s

mutual

/-- A value. `fuel` bounds the number of readers called in turn, and `depth` says how deep the value
lies. -/
def value? : Nat → Nat → List Char → Option (Document × List Char)
  | 0, _, _ => none
  | fuel + 1, depth, s =>
    match s with
    | '[' :: rest => if depth < depthLimit then items? fuel (depth + 1) [] rest else none
    | '"' :: _ => (string? s).map fun (t, s) => (.text (String.ofList t), s)
    | '\'' :: _ => (string? s).map fun (t, s) => (.text (String.ofList t), s)
    | c :: rest =>
      if c.toNat = 0x7B then
        if depth < depthLimit then
          match skipBlanks rest with
          | d :: behind =>
            if d.toNat = 0x7D then some (.record [], behind)
            else fields? fuel (depth + 1) [] (d :: behind)
          | [] => none
        else none
      else
        let (word, s) := splitWord s
        (wordValue? word).map fun d => (d, s)
    | [] => none

/-- The items of an array, from behind its bracket or a comma; `before` holds those read, last one
first. -/
def items? : Nat → Nat → List Document → List Char → Option (Document × List Char)
  | 0, _, _, _ => none
  | fuel + 1, depth, before, s => do
    let s ← skipGaps s.length s
    match s with
    | ']' :: rest => some (.list before.reverse, rest)
    | s =>
      let (d, s) ← value? fuel depth s
      let s ← skipGaps s.length s
      match s with
      | ',' :: rest => items? fuel depth (d :: before) rest
      | ']' :: rest => some (.list (d :: before).reverse, rest)
      | _ => none

/-- The fields of an inline table, from the first key or behind a comma. -/
def fields? : Nat → Nat → List (String × Entry) → List Char → Option (Document × List Char)
  | 0, _, _, _ => none
  | fuel + 1, depth, before, s => do
    let (names, s) ← key? depthLimit s
    let s ← literal? '=' s
    let (d, s) ← value? fuel depth (skipBlanks s)
    let name ← names.getLast?
    let fields ← Entry.addValue names.dropLast name d before
    match skipBlanks s with
    | ',' :: rest => fields? fuel depth fields rest
    | c :: rest => if c.toNat = 0x7D then some (.record (Entry.toFields fields), rest) else none
    | [] => none

end

/-- The rest of a line: blanks and a comment. -/
def endOfLine? (s : List Char) : Option (List Char) := do
  let s ← skipComment (skipBlanks s)
  match newline? s with
  | some rest => some rest
  | none => if s = [] then some [] else none

/-- One line that is not empty. -/
def line? (b : Builder) (s : List Char) : Option (Builder × List Char) :=
  match s with
  | '[' :: '[' :: rest => do
    let (path, s) ← key? depthLimit rest
    match s with
    | ']' :: ']' :: s =>
      let b ← b.openItem path
      let s ← endOfLine? s
      some (b, s)
    | _ => none
  | '[' :: rest => do
    let (path, s) ← key? depthLimit rest
    match s with
    | ']' :: s =>
      let b ← b.openTable path
      let s ← endOfLine? s
      some (b, s)
    | _ => none
  | s => do
    let (names, s) ← key? depthLimit s
    let s ← literal? '=' s
    let s := skipBlanks s
    let (d, s) ← value? (s.length + 1) 0 s
    let name ← names.getLast?
    let b ← b.addValue names.dropLast name d
    let s ← endOfLine? s
    some (b, s)

/-- The lines of a text, at most `fuel` of them. -/
def lines? : Nat → Builder → List Char → Option Builder
  | 0, b, s => if s = [] then some b else none
  | fuel + 1, b, s => do
    let s ← skipGaps s.length s
    if s = [] then some b
    else
      let (b, s) ← line? b s
      lines? fuel b s

/-- The document that a text writes, if it is TOML. A mark of byte order in front is skipped. -/
def read (text : String) : Option Document := do
  let s :=
    match text.toList with
    | c :: rest => if c.toNat = 0xFEFF then rest else c :: rest
    | [] => []
  let b ← lines? (s.length + 1) ⟨[], [], false, []⟩ s
  let root ← b.close
  some (.record (Entry.toFields root))

end Autoplay.Toml
