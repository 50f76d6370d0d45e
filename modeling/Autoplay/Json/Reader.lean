import Autoplay.Json.Number

/-!
# Reading JSON

The text is cut into tokens by a machine that sees one character at a time, and the tokens are
assembled by a second machine whose stack holds the lists and records that are still open. Fields of
a record are kept sorted by name, a repeated name keeping its last value. Arrays and objects may be
nested up to a depth of 127.
-/

namespace Autoplay.Json

/-- A token. -/
inductive Token where
  /-- `[` -/
  | openList
  /-- `]` -/
  | closeList
  /-- An opening brace. -/
  | openRecord
  /-- A closing brace. -/
  | closeRecord
  /-- `,` -/
  | comma
  /-- `:` -/
  | colon
  /-- A text. -/
  | text (s : String)
  /-- A number, a truth value or `null`. -/
  | plain (d : Document)

/-- Blanks between tokens. -/
def isGap (c : Char) : Bool :=
  c == ' ' || c == '\n' || c == '\t' || c == '\r'

/-- The token of a character that is one by itself. -/
def punctuation? (c : Char) : Option Token :=
  if c = '[' then some .openList
  else if c = ']' then some .closeList
  else if c.toNat = 0x7B then some .openRecord
  else if c.toNat = 0x7D then some .closeRecord
  else if c = ',' then some .comma
  else if c = ':' then some .colon
  else none

/-- Characters of words and numbers. -/
def isWordChar (c : Char) : Bool :=
  c.isAlphanum || c == '-' || c == '+' || c == '.'

/-- The value of a hexadecimal digit. -/
def hexValue? (c : Char) : Option Nat :=
  if c.isDigit then some (c.toNat - 48)
  else if 'a' ≤ c ∧ c ≤ 'f' then some (c.toNat - 87)
  else if 'A' ≤ c ∧ c ≤ 'F' then some (c.toNat - 55)
  else none

/-- The number that four hexadecimal digits write. -/
def hex4? (a b c d : Char) : Option Nat := do
  let a ← hexValue? a
  let b ← hexValue? b
  let c ← hexValue? c
  let d ← hexValue? d
  pure (((a * 16 + b) * 16 + c) * 16 + d)

/-- The character that a one-letter escape stands for. -/
def escaped? (c : Char) : Option Char :=
  if c = '"' ∨ c = '\\' ∨ c = '/' then some c
  else if c = 'b' then some (Char.ofNat 8)
  else if c = 'f' then some (Char.ofNat 12)
  else if c = 'n' then some '\n'
  else if c = 'r' then some '\r'
  else if c = 't' then some '\t'
  else none

/-- The text that the characters between two quotes stand for. Controls must be escaped; an escaped
surrogate must be the first of a pair. -/
def unescape : List Char → Option (List Char)
  | [] => some []
  | '\\' :: 'u' :: a :: b :: c :: d :: '\\' :: 'u' :: e :: f :: g :: h :: rest => do
    let high ← hex4? a b c d
    let low ← hex4? e f g h
    if 0xD800 ≤ high ∧ high < 0xDC00 then
      if 0xDC00 ≤ low ∧ low < 0xE000 then
        let tail ← unescape rest
        some (Char.ofNat (0x10000 + (high - 0xD800) * 0x400 + (low - 0xDC00)) :: tail)
      else none
    else if 0xDC00 ≤ high ∧ high < 0xE000 then none
    else
      let tail ← unescape ('\\' :: 'u' :: e :: f :: g :: h :: rest)
      some (Char.ofNat high :: tail)
  | '\\' :: 'u' :: a :: b :: c :: d :: rest => do
    let n ← hex4? a b c d
    if 0xD800 ≤ n ∧ n < 0xE000 then none
    else
      let tail ← unescape rest
      some (Char.ofNat n :: tail)
  | '\\' :: c :: rest => do
    let c ← escaped? c
    let tail ← unescape rest
    some (c :: tail)
  | c :: rest =>
    if c = '\\' ∨ c.toNat < 0x20 then none
    else do
      let tail ← unescape rest
      some (c :: tail)

/-- What the token machine is in the middle of. -/
inductive Mode where
  /-- Between two tokens. -/
  | gap
  /-- In a word or number, whose characters so far are kept last one first. -/
  | word (sofar : List Char)
  /-- In a text. -/
  | text (sofar : List Char)
  /-- In a text, right behind a backslash. -/
  | escape (sofar : List Char)

/-- The token of a finished word. -/
def wordToken? (s : List Char) : Option Token :=
  if s = ['n', 'u', 'l', 'l'] then some (.plain .null)
  else if s = ['t', 'r', 'u', 'e'] then some (.plain (.bool true))
  else if s = ['f', 'a', 'l', 's', 'e'] then some (.plain (.bool false))
  else (number? s).map .plain

/-- The token machine: its mode and the tokens so far, last one first. -/
structure Lexer where
  /-- The mode. -/
  mode : Mode
  /-- The tokens. -/
  tokens : List Token

namespace Lexer

/-- Takes one character between two tokens. -/
def begin (tokens : List Token) (c : Char) : Option Lexer :=
  if isGap c then some ⟨.gap, tokens⟩
  else if c = '"' then some ⟨.text [], tokens⟩
  else if isWordChar c then some ⟨.word [c], tokens⟩
  else (punctuation? c).map fun t => ⟨.gap, t :: tokens⟩

/-- Takes one character. -/
def step (l : Lexer) (c : Char) : Option Lexer :=
  match l.mode with
  | .gap => begin l.tokens c
  | .word sofar =>
    if isWordChar c then some ⟨.word (c :: sofar), l.tokens⟩
    else (wordToken? sofar.reverse).bind fun t => begin (t :: l.tokens) c
  | .text sofar =>
    if c = '"' then
      (unescape sofar.reverse).map fun s => ⟨.gap, .text (String.ofList s) :: l.tokens⟩
    else if c = '\\' then some ⟨.escape (c :: sofar), l.tokens⟩
    else some ⟨.text (c :: sofar), l.tokens⟩
  | .escape sofar => some ⟨.text (c :: sofar), l.tokens⟩

/-- The tokens of a finished text. -/
def finish (l : Lexer) : Option (List Token) :=
  match l.mode with
  | .gap => some l.tokens.reverse
  | .word sofar => (wordToken? sofar.reverse).map fun t => (t :: l.tokens).reverse
  | _ => none

end Lexer

/-- The tokens of a text. -/
def tokens? (s : List Char) : Option (List Token) :=
  (s.foldlM Lexer.step ⟨.gap, []⟩).bind Lexer.finish

/-- A list or record that is still open. -/
inductive Frame where
  /-- A list with its items so far, last one first. -/
  | list (items : List Document)
  /-- A record with its fields so far, and the name whose value is being read. -/
  | record (fields : List (String × Document)) (name : String)

/-- What may come next. -/
inductive Expect where
  /-- A value. -/
  | value
  /-- The first item of a list or its end. -/
  | firstItem
  /-- The first name of a record or its end. -/
  | firstName (fields : List (String × Document))
  /-- The next name of a record. -/
  | name (fields : List (String × Document))
  /-- The colon behind a name. -/
  | colon (fields : List (String × Document)) (name : String)
  /-- A comma or the end of what is open. -/
  | more (done : Document)

/-- The assembling machine: the open lists and records, innermost first, and what may come next. -/
structure Assembly where
  /-- What is open. -/
  stack : List Frame
  /-- What may come next. -/
  expect : Expect

namespace Assembly

/-- The greatest depth of nesting. -/
def maxDepth : Nat := 127

/-- A value may begin with this token. -/
def beginValue (stack : List Frame) : Token → Option Assembly
  | .plain d => some ⟨stack, .more d⟩
  | .text s => some ⟨stack, .more (.text s)⟩
  | .openList => if stack.length < maxDepth then some ⟨.list [] :: stack, .firstItem⟩ else none
  | .openRecord => if stack.length < maxDepth then some ⟨stack, .firstName []⟩ else none
  | _ => none

/-- Takes one token. A record has no frame while one of its names is due. -/
def step (a : Assembly) (t : Token) : Option Assembly :=
  match a.expect with
  | .value => beginValue a.stack t
  | .firstItem =>
    match t, a.stack with
    | .closeList, .list items :: below => some ⟨below, .more (.list items.reverse)⟩
    | t, stack => beginValue stack t
  | .firstName fields =>
    match t with
    | .closeRecord => some ⟨a.stack, .more (.record fields)⟩
    | .text name => some ⟨a.stack, .colon fields name⟩
    | _ => none
  | .name fields =>
    match t with
    | .text name => some ⟨a.stack, .colon fields name⟩
    | _ => none
  | .colon fields name =>
    match t with
    | .colon => some ⟨.record fields name :: a.stack, .value⟩
    | _ => none
  | .more d =>
    match t, a.stack with
    | .comma, .list items :: below => some ⟨.list (d :: items) :: below, .value⟩
    | .closeList, .list items :: below => some ⟨below, .more (.list (d :: items).reverse)⟩
    | .comma, .record fields name :: below => some ⟨below, .name (Document.insert name d fields)⟩
    | .closeRecord, .record fields name :: below =>
      some ⟨below, .more (.record (Document.insert name d fields))⟩
    | _, _ => none

/-- The value of a finished text. -/
def finish (a : Assembly) : Option Document :=
  match a.stack, a.expect with
  | [], .more d => some d
  | _, _ => none

end Assembly

/-- The value that a text writes, if it is JSON. -/
def read (s : String) : Option Document := do
  let tokens ← tokens? s.toList
  let a ← tokens.foldlM Assembly.step ⟨[], .value⟩
  a.finish

end Autoplay.Json
