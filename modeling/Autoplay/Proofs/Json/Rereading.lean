import Autoplay.Proofs.Json.Literals

/-!
# What is written is read again

A document that is written and read again (`read_write`) is the one that was written, but for two
things (`reread`): its numbers are what their digits are read as, one without digits being `null`,
and the fields of its records are in the order of their names. Whole numbers have to fit into a
word, digits have to be readable, and no more lists and records may lie in each other than a reader
opens (`Readable`).
-/

namespace Autoplay.Json

/-! ## From characters to tokens -/

namespace Lexer

/-- The tokens so far with the word under way, last one first, unless a text is open. -/
def settle (l : Lexer) : Option (List Token) :=
  match l.mode with
  | .gap => some l.tokens
  | .word sofar => (wordToken? sofar.reverse).map (· :: l.tokens)
  | _ => none

/-- At the end of the text these are the tokens. -/
theorem finish_of_settle {l : Lexer} {ts : List Token} (h : l.settle = some ts) :
    l.finish = some ts.reverse := by
  obtain ⟨mode, tokens⟩ := l
  cases mode with
  | gap => exact congrArg (Option.map List.reverse) h
  | word sofar =>
    obtain ⟨t, ht, rfl⟩ := Option.map_eq_some_iff.1 h
    exact Option.map_eq_some_iff.2 ⟨t, ht, rfl⟩
  | text sofar => exact nomatch h
  | escape sofar => exact nomatch h

/-- A character that belongs to no word is taken as between two tokens. -/
theorem step_of_settle {l : Lexer} {ts : List Token} {c : Char} (h : l.settle = some ts)
    (hc : isWordChar c = false) : l.step c = begin ts c := by
  obtain ⟨mode, tokens⟩ := l
  cases mode with
  | gap => exact congrArg (begin · c) (Option.some.inj h)
  | word sofar =>
    obtain ⟨t, ht, rfl⟩ := Option.map_eq_some_iff.1 h
    show (if isWordChar c then _ else _) = _
    rw [if_neg (ne_true_of_eq_false hc), ht]
    rfl
  | text sofar => exact nomatch h
  | escape sofar => exact nomatch h

/-- The characters of a word are taken one after the other. -/
theorem foldlM_step_word {s : List Char} (hs : ∀ c ∈ s, isWordChar c = true) (sofar : List Char)
    (before : List Token) :
    s.foldlM step ⟨.word sofar, before⟩ = some ⟨.word (s.reverse ++ sofar), before⟩ := by
  induction s generalizing sofar with
  | nil => rfl
  | cons c s ih =>
    obtain ⟨hc, hs⟩ := List.forall_mem_cons.1 hs
    have hstep : step ⟨.word sofar, before⟩ c = some ⟨.word (c :: sofar), before⟩ := if_pos hc
    rw [List.foldlM_cons, hstep, List.reverse_cons, List.append_assoc]
    exact ih hs (c :: sofar)

/-- Between the quotes a character other than a quote or backslash is taken as it is. -/
theorem step_text {c : Char} (hquote : c ≠ '"') (hbackslash : c ≠ '\\') (sofar : List Char)
    (before : List Token) :
    step ⟨.text sofar, before⟩ c = some ⟨.text (c :: sofar), before⟩ := by
  show (if c = '"' then _ else if c = '\\' then _ else _) = _
  rw [if_neg hquote, if_neg hbackslash]

/-- Between the quotes a character as it is written leaves the text open. -/
theorem foldlM_step_escape (c : Char) (sofar : List Char) (before : List Token) :
    (escape c).foldlM step ⟨.text sofar, before⟩ =
      some ⟨.text ((escape c).reverse ++ sofar), before⟩ := by
  -- A digit of a number is neither a quote nor a backslash.
  have hdigit {n : Nat} (hn : n < 16) : hexChar n ≠ '"' ∧ hexChar n ≠ '\\' := by
    have hall : ∀ n : Fin 16, hexChar n.val ≠ '"' ∧ hexChar n.val ≠ '\\' := by decide
    exact hall ⟨n, hn⟩
  rcases escape_cases c with ⟨d, hd, -, -⟩ | ⟨hlt, hd⟩ | ⟨hd, hquote, hbackslash, -⟩
  · rw [hd]
    rfl
  · have hhigh := hdigit (n := c.toNat / 16) (by omega)
    have hlow := hdigit (n := c.toNat % 16) (by omega)
    rw [hd]
    -- Behind the backslash, `u` and two zeros only the digits depend on the character.
    show [hexChar (c.toNat / 16), hexChar (c.toNat % 16)].foldlM step
      ⟨.text ('0' :: '0' :: 'u' :: '\\' :: sofar), before⟩ = _
    rw [List.foldlM_cons, step_text hhigh.1 hhigh.2]
    show [hexChar (c.toNat % 16)].foldlM step _ = _
    rw [List.foldlM_cons, step_text hlow.1 hlow.2]
    rfl
  · rw [hd, List.foldlM_cons, step_text hquote hbackslash]
    rfl

/-- So do all characters of a text. -/
theorem foldlM_step_text (s sofar : List Char) (before : List Token) :
    (s.flatMap escape).foldlM step ⟨.text sofar, before⟩ =
      some ⟨.text ((s.flatMap escape).reverse ++ sofar), before⟩ := by
  induction s generalizing sofar with
  | nil => rfl
  | cons c s ih =>
    rw [List.flatMap_cons, List.foldlM_append, foldlM_step_escape, List.reverse_append,
      List.append_assoc]
    exact ih _

end Lexer

/-- Between two tokens, the characters `s` give the tokens `ts`. -/
def Spells (s : List Char) (ts : List Token) : Prop :=
  ∀ before, ∃ l, s.foldlM Lexer.step ⟨.gap, before⟩ = some l ∧
    l.settle = some (ts.reverse ++ before)

/-- Also right behind a word, the characters `s` give the tokens `ts`. -/
def Continues (s : List Char) (ts : List Token) : Prop :=
  ∀ l before, l.settle = some before →
    ∃ l', s.foldlM Lexer.step l = some l' ∧ l'.settle = some (ts.reverse ++ before)

/-- What may stand behind a word may stand between two tokens. -/
theorem Continues.spells {s : List Char} {ts : List Token} (h : Continues s ts) : Spells s ts :=
  fun before => h ⟨.gap, before⟩ before rfl

/-- Tokens and what continues them. -/
theorem Spells.append {s s' : List Char} {ts ts' : List Token} (h : Spells s ts)
    (h' : Continues s' ts') : Spells (s ++ s') (ts ++ ts') := by
  intro before
  obtain ⟨l, hl, hsettle⟩ := h before
  obtain ⟨l', hl', hsettle'⟩ := h' l _ hsettle
  refine ⟨l', ?_, ?_⟩
  · rw [List.foldlM_append, hl]
    exact hl'
  · rw [hsettle', List.reverse_append, List.append_assoc]

/-- A character is a token by itself. -/
structure IsMark (c : Char) (t : Token) : Prop where
  /-- It belongs to no word. -/
  word : isWordChar c = false
  /-- It is taken as the token. -/
  begin : ∀ before, Lexer.begin before c = some ⟨.gap, t :: before⟩

/-- Such a character continues whatever stands in front of it. -/
theorem IsMark.continues {c : Char} {t : Token} {s : List Char} {ts : List Token}
    (hc : IsMark c t) (h : Spells s ts) : Continues (c :: s) (t :: ts) := by
  intro l before hsettle
  obtain ⟨l', hl', hsettle'⟩ := h (t :: before)
  refine ⟨l', ?_, ?_⟩
  · rw [List.foldlM_cons, Lexer.step_of_settle hsettle hc.word, hc.begin]
    exact hl'
  · rw [hsettle', List.reverse_cons, List.append_assoc]
    rfl

/-- No characters, no tokens. -/
theorem spells_nil : Spells [] [] := fun before => ⟨⟨.gap, before⟩, rfl, rfl⟩

/-- A word is one token. -/
theorem spells_word {s : List Char} {t : Token} (h : wordToken? s = some t) : Spells s [t] := by
  intro before
  obtain ⟨hne, hchars⟩ := isWordChar_of_wordToken? h
  cases s with
  | nil => exact absurd rfl hne
  | cons c s =>
    obtain ⟨hc, hs⟩ := List.forall_mem_cons.1 hchars
    have hgap : isGap c = false := by
      -- A blank is no character of words.
      rw [Bool.eq_false_iff]
      intro hgap
      simp only [isGap, Bool.or_eq_true, beq_iff_eq] at hgap
      rcases hgap with ((rfl | rfl) | rfl) | rfl <;> exact nomatch hc
    have hquote : c ≠ '"' := fun hquote => by
      subst hquote
      exact nomatch hc
    have hbegin : Lexer.begin before c = some ⟨.word [c], before⟩ := by
      unfold Lexer.begin
      rw [if_neg (ne_true_of_eq_false hgap), if_neg hquote, if_pos hc]
    refine ⟨⟨.word (s.reverse ++ [c]), before⟩, ?_, ?_⟩
    · rw [List.foldlM_cons]
      show (Lexer.begin before c).bind _ = _
      rw [hbegin]
      exact Lexer.foldlM_step_word hs [c] before
    · show (wordToken? (s.reverse ++ [c]).reverse).map _ = _
      rw [List.reverse_append, List.reverse_reverse]
      show (wordToken? (c :: s)).map _ = _
      rw [h]
      rfl

/-- A text is one token. -/
theorem spells_text (s : String) : Spells (writeText s) [.text s] := by
  intro before
  refine ⟨⟨.gap, .text s :: before⟩, ?_, rfl⟩
  show ((s.toList.flatMap escape) ++ ['"']).foldlM Lexer.step ⟨.text [], before⟩ = _
  rw [List.foldlM_append, Lexer.foldlM_step_text]
  show (unescape ((s.toList.flatMap escape).reverse ++ []).reverse).map _ >>= _ = _
  rw [List.append_nil, List.reverse_reverse, unescape_escape]
  show some (Lexer.mk .gap (.text (String.ofList s.toList) :: before)) = _
  rw [String.ofList_toList]

/-! ## The tokens of a document -/

/-- The number that digits are read as, or `null`. -/
def numberOf (s : List Char) : Document := (number? s).getD .null

mutual

/-- The tokens of a document. -/
def tokens : Document → List Token
  | .null => [.plain .null]
  | .bool b => [.plain (.bool b)]
  | .integer n => [.plain (.integer n)]
  | .float x => [.plain (numberOf (writeFloat x))]
  | .single x => [.plain (numberOf (writeSingle x))]
  | .text s => [.text s]
  | .list [] => [.openList, .closeList]
  | .list (d :: rest) => .openList :: (tokens d ++ itemTokens rest)
  | .record [] => [.openRecord, .closeRecord]
  | .record ((name, d) :: rest) =>
    .openRecord :: .text name :: .colon :: (tokens d ++ fieldTokens rest)

/-- The tokens from behind an item to the end of its list. -/
def itemTokens : List Document → List Token
  | [] => [.closeList]
  | d :: rest => .comma :: (tokens d ++ itemTokens rest)

/-- The tokens from behind a field to the end of its record. -/
def fieldTokens : List (String × Document) → List Token
  | [] => [.closeRecord]
  | (name, d) :: rest => .comma :: .text name :: .colon :: (tokens d ++ fieldTokens rest)

end

mutual

/-- Whether a document can be read again where `room` lists and records may lie in each other. -/
def Readable (room : Nat) : Document → Prop
  | .integer n => -0x8000000000000000 ≤ n ∧ n < 0x10000000000000000
  | .float x => x.isFinite = true → (number? (writeFloat x)).isSome = true
  | .single x => x.isFinite = true → (number? (writeSingle x)).isSome = true
  | .list ds => 0 < room ∧ ReadableItems (room - 1) ds
  | .record fs => 0 < room ∧ ReadableFields (room - 1) fs
  | _ => True

/-- Whether all items can. -/
def ReadableItems (room : Nat) : List Document → Prop
  | [] => True
  | d :: rest => Readable room d ∧ ReadableItems room rest

/-- Whether all fields can. -/
def ReadableFields (room : Nat) : List (String × Document) → Prop
  | [] => True
  | (_, d) :: rest => Readable room d ∧ ReadableFields room rest

end

/-- A number, or `null` for one without digits, is one token. -/
theorem wordToken?_numberOf {s : List Char} {finite : Bool} {digits : List Char}
    (hs : s = if finite then digits else ['n', 'u', 'l', 'l'])
    (h : finite = true → (number? s).isSome = true) :
    wordToken? s = some (.plain (numberOf s)) := by
  cases finite with
  | true =>
    obtain ⟨d, hd⟩ := Option.isSome_iff_exists.1 (h rfl)
    rw [wordToken?_of_number? hd, numberOf, hd]
    rfl
  | false =>
    subst hs
    rfl

/-- A comma is a token. -/
theorem isMark_comma : IsMark ',' .comma := ⟨rfl, fun _ => rfl⟩

/-- A colon is a token. -/
theorem isMark_colon : IsMark ':' .colon := ⟨rfl, fun _ => rfl⟩

/-- A bracket that opens a list is a token. -/
theorem isMark_openList : IsMark '[' .openList := ⟨rfl, fun _ => rfl⟩

/-- A bracket that closes a list is a token. -/
theorem isMark_closeList : IsMark ']' .closeList := ⟨rfl, fun _ => rfl⟩

/-- A brace that opens a record is a token. -/
theorem isMark_openRecord : IsMark (Char.ofNat 0x7B) .openRecord := ⟨rfl, fun _ => rfl⟩

/-- A brace that closes a record is a token. -/
theorem isMark_closeRecord : IsMark (Char.ofNat 0x7D) .closeRecord := ⟨rfl, fun _ => rfl⟩

/-- A name and its colon stand in front of a value. -/
theorem Spells.field {s : List Char} {ts : List Token} (name : String) (h : Spells s ts) :
    Spells (writeText name ++ ':' :: s) (.text name :: .colon :: ts) :=
  (spells_text name).append (isMark_colon.continues h)

mutual

/-- What is written of a document is cut into its tokens. -/
theorem spells_tokens {room : Nat} : (d : Document) → Readable room d →
    Spells (writeChars d) (tokens d)
  | .null, _ => spells_word rfl
  | .bool true, _ => spells_word rfl
  | .bool false, _ => spells_word rfl
  | .integer _, h => spells_word (wordToken?_of_number? (number?_toString h.1 h.2))
  | .float _, h => spells_word (wordToken?_numberOf rfl h)
  | .single _, h => spells_word (wordToken?_numberOf rfl h)
  | .text s, _ => spells_text s
  | .list [], _ => (isMark_openList.continues (isMark_closeList.continues spells_nil).spells).spells
  | .list (d :: rest), h =>
    (isMark_openList.continues
      ((spells_tokens d h.2.1).append (continues_itemTokens rest h.2.2))).spells
  | .record [], _ =>
    (isMark_openRecord.continues (isMark_closeRecord.continues spells_nil).spells).spells
  | .record ((name, d) :: rest), h =>
    (isMark_openRecord.continues
      (.field name ((spells_tokens d h.2.1).append (continues_fieldTokens rest h.2.2)))).spells

/-- So is what is written behind an item. -/
theorem continues_itemTokens {room : Nat} : (ds : List Document) → ReadableItems room ds →
    Continues (writeItems ds) (itemTokens ds)
  | [], _ => isMark_closeList.continues spells_nil
  | d :: rest, h =>
    isMark_comma.continues ((spells_tokens d h.1).append (continues_itemTokens rest h.2))

/-- And what is written behind a field. -/
theorem continues_fieldTokens {room : Nat} : (fs : List (String × Document)) →
    ReadableFields room fs → Continues (writeFields fs) (fieldTokens fs)
  | [], _ => isMark_closeRecord.continues spells_nil
  | (name, d) :: rest, h =>
    isMark_comma.continues
      (.field name ((spells_tokens d h.1).append (continues_fieldTokens rest h.2)))

end

/-- The text of a document is cut into its tokens. -/
theorem tokens?_writeChars {room : Nat} {d : Document} (h : Readable room d) :
    tokens? (writeChars d) = some (tokens d) := by
  obtain ⟨l, hl, hsettle⟩ := spells_tokens d h []
  unfold tokens?
  rw [hl, Option.bind_some, Lexer.finish_of_settle hsettle, List.append_nil, List.reverse_reverse]

/-! ## From tokens to the document -/

mutual

/-- A document as it is when it has been written and read again. -/
def reread : Document → Document
  | .float x => numberOf (writeFloat x)
  | .single x => numberOf (writeSingle x)
  | .list ds => .list (rereadItems ds)
  | .record fs => .record (rereadFields [] fs)
  | .null => .null
  | .bool b => .bool b
  | .integer n => .integer n
  | .text s => .text s

/-- The items of a list as they are then. -/
def rereadItems : List Document → List Document
  | [] => []
  | d :: rest => reread d :: rereadItems rest

/-- The fields of a record as they are then, put in with those that have been read. -/
def rereadFields (sofar : List (String × Document)) :
    List (String × Document) → List (String × Document)
  | [] => sofar
  | (name, d) :: rest => rereadFields (Document.insert name (reread d) sofar) rest

end

namespace Assembly

/-- The value of a document may be the first item of a list. -/
theorem foldlM_firstItem (d : Document) (stack : List Frame) :
    (tokens d).foldlM step ⟨stack, .firstItem⟩ = (tokens d).foldlM step ⟨stack, .value⟩ := by
  -- Only a bracket that closes the list is taken in another way, and no value begins with one.
  have hcons {t : Token} {ts : List Token} (h : step ⟨stack, .firstItem⟩ t = beginValue stack t) :
      (t :: ts).foldlM step ⟨stack, .firstItem⟩ = (t :: ts).foldlM step ⟨stack, .value⟩ := by
    rw [List.foldlM_cons, h]
    rfl
  match d with
  | .null | .bool _ | .integer _ | .float _ | .single _ | .text _ | .list [] | .list (_ :: _)
  | .record [] | .record (_ :: _) => exact hcons rfl

/-- A list is opened where there is room. -/
theorem step_openList {stack : List Frame} (h : stack.length < maxDepth) :
    step ⟨stack, .value⟩ .openList = some ⟨.list [] :: stack, .firstItem⟩ :=
  if_pos h

/-- A record is opened where there is room. -/
theorem step_openRecord {stack : List Frame} (h : stack.length < maxDepth) :
    step ⟨stack, .value⟩ .openRecord = some ⟨stack, .firstName []⟩ :=
  if_pos h

mutual

/-- The tokens of a document are put together to what it is when read again. -/
theorem foldlM_tokens {room : Nat} {stack : List Frame} (hroom : stack.length + room ≤ maxDepth) :
    (d : Document) → Readable room d →
    (tokens d).foldlM step ⟨stack, .value⟩ = some ⟨stack, .more (reread d)⟩
  | .null, _ | .bool _, _ | .integer _, _ | .float _, _ | .single _, _ | .text _, _ => rfl
  | .list ds, h => by
    -- What lies in the list has one list or record less to open.
    have hpos : 0 < room := h.1
    have hopen : stack.length < maxDepth := by omega
    have hbelow : stack.length + 1 + (room - 1) ≤ maxDepth := by omega
    cases ds with
    | nil =>
      show [.openList, .closeList].foldlM step _ = _
      rw [List.foldlM_cons, step_openList hopen]
      rfl
    | cons d rest =>
      show (.openList :: (tokens d ++ itemTokens rest)).foldlM step _ = _
      rw [List.foldlM_cons, step_openList hopen]
      show (tokens d ++ itemTokens rest).foldlM step ⟨.list [] :: stack, .firstItem⟩ = _
      rw [List.foldlM_append, foldlM_firstItem, foldlM_tokens hbelow d h.2.1]
      exact foldlM_itemTokens hbelow rest [] (reread d) h.2.2
  | .record fs, h => by
    have hpos : 0 < room := h.1
    have hopen : stack.length < maxDepth := by omega
    have hbelow : stack.length + 1 + (room - 1) ≤ maxDepth := by omega
    cases fs with
    | nil =>
      show [.openRecord, .closeRecord].foldlM step _ = _
      rw [List.foldlM_cons, step_openRecord hopen]
      rfl
    | cons f rest =>
      obtain ⟨name, d⟩ := f
      show (.openRecord :: .text name :: .colon :: (tokens d ++ fieldTokens rest)).foldlM step _ = _
      rw [List.foldlM_cons, step_openRecord hopen]
      show (tokens d ++ fieldTokens rest).foldlM step ⟨.record [] name :: stack, .value⟩ = _
      rw [List.foldlM_append, foldlM_tokens hbelow d h.2.1]
      exact foldlM_fieldTokens hbelow rest [] name (reread d) h.2.2

/-- So are the tokens behind an item, with the items in front of it. -/
theorem foldlM_itemTokens {room : Nat} {stack : List Frame}
    (hroom : stack.length + 1 + room ≤ maxDepth) : (ds : List Document) →
    (before : List Document) → (d : Document) → ReadableItems room ds →
    (itemTokens ds).foldlM step ⟨.list before :: stack, .more d⟩ =
      some ⟨stack, .more (.list ((d :: before).reverse ++ rereadItems ds))⟩
  | [], before, d, _ => by
    show some _ = some _
    rw [rereadItems, List.append_nil]
  | d' :: rest, before, d, h => by
    show (tokens d' ++ itemTokens rest).foldlM step ⟨.list (d :: before) :: stack, .value⟩ = _
    rw [List.foldlM_append, foldlM_tokens hroom d' h.1]
    show (itemTokens rest).foldlM step ⟨.list (d :: before) :: stack, .more (reread d')⟩ = _
    rw [foldlM_itemTokens hroom rest (d :: before) (reread d') h.2, List.reverse_cons,
      List.append_assoc]
    rfl

/-- And the tokens behind a field, with the fields in front of it. -/
theorem foldlM_fieldTokens {room : Nat} {stack : List Frame}
    (hroom : stack.length + 1 + room ≤ maxDepth) : (fs : List (String × Document)) →
    (before : List (String × Document)) → (name : String) → (d : Document) →
    ReadableFields room fs →
    (fieldTokens fs).foldlM step ⟨.record before name :: stack, .more d⟩ =
      some ⟨stack, .more (.record (rereadFields (Document.insert name d before) fs))⟩
  | [], _, _, _, _ => rfl
  | (name', d') :: rest, before, name, d, h => by
    show (tokens d' ++ fieldTokens rest).foldlM step
      ⟨.record (Document.insert name d before) name' :: stack, .value⟩ = _
    rw [List.foldlM_append, foldlM_tokens hroom d' h.1]
    exact foldlM_fieldTokens hroom rest (Document.insert name d before) name' (reread d') h.2

end

end Assembly

/-- A document that is written and read again. -/
theorem read_write {d : Document} (h : Readable Assembly.maxDepth d) :
    read (write d) = some (reread d) := by
  have htokens : tokens? (write d).toList = some (tokens d) := by
    unfold write
    rw [String.toList_ofList, tokens?_writeChars h]
  have hassembly : (tokens d).foldlM Assembly.step ⟨[], .value⟩ = some ⟨[], .more (reread d)⟩ :=
    Assembly.foldlM_tokens (Nat.le_of_eq (Nat.zero_add _)) d h
  calc read (write d)
      = (tokens? (write d).toList).bind fun ts =>
          (ts.foldlM Assembly.step ⟨[], .value⟩).bind Assembly.finish := rfl
    _ = ((tokens d).foldlM Assembly.step ⟨[], .value⟩).bind Assembly.finish := by
      rw [htokens, Option.bind_some]
    _ = some (reread d) := by
      rw [hassembly]
      rfl

end Autoplay.Json
