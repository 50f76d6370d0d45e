import Autoplay.Device.Bridge
import Autoplay.Proofs.Dialogue.Rules

/-!
# Commands in double quotes

A privileged command is handed to `su -c` in double quotes, in one line for the shell of the device.
`Shell.argument?` reads that line back as the shell does. The bridge puts a backslash in front of
quotes only, so a command arrives as it is exactly if nothing else in it has a meaning between
double quotes (`Ordinary`); the main statement, `arrives_iff_ordinary`, says so of the call that the
bridge makes. `commands_changed_on_the_way` has commands that arrive as something else.
-/

namespace Autoplay

/-! ## Words in double quotes -/

namespace Shell

/-- A part of what a word stands for. -/
inductive Piece where
  /-- A character. -/
  | char (c : Char)
  /-- What is put in place of an expansion that begins with this character. -/
  | expansion (c : Char)
deriving DecidableEq, Repr

/-- The characters with a meaning that a backslash takes from them. -/
def special : List Char := ['$', '`', '"', '\\']

/-- A character between double quotes that has no backslash in front of it. -/
def piece (c : Char) : Piece :=
  if c = '$' ∨ c = '`' then .expansion c else .char c

/-- A backslash and the character behind it. If that has no meaning, both are characters. -/
def escaped (c : Char) : List Piece :=
  if c ∈ special then [.char c] else [.char '\\', .char c]

/-- The rest of a word behind its opening quote: its pieces up to the quote that closes it, and what
stands behind that. A line feed that has a backslash in front of it is left out with it. -/
def closing? : List Char → Option (List Piece × List Char)
  | [] => none
  | '"' :: rest => some ([], rest)
  | '\\' :: c :: rest =>
    if c = '\n' then closing? rest
    else (closing? rest).map fun (word, behind) => (escaped c ++ word, behind)
  | c :: rest => (closing? rest).map fun (word, behind) => (piece c :: word, behind)

/-- What `su -c` gets from a line, if that is one word in double quotes and nothing stands behind
it. -/
def argument? (line : String) : Option (List Piece) :=
  match DeviceInfo.behind? "su -c \"".toList line.toList with
  | none => none
  | some rest =>
    match closing? rest with
    | some (word, []) => some word
    | _ => none

/-- Quotes apart, two characters are at most two pieces. -/
theorem length_escaped_add_count_le (c : Char) : (escaped c).length + [c].count '"' ≤ 2 := by
  unfold escaped
  split
  next => exact Nat.add_le_add_left List.count_le_length 1
  next hc =>
    have hquote : c ≠ '"' := fun h => hc (by simp [h, special])
    rw [List.count_eq_zero_of_not_mem fun h => hquote (List.mem_singleton.1 h).symm]
    exact Nat.le_refl 2

/-- A word has no more pieces than there are characters other than quotes. -/
theorem length_add_count_le {s : List Char} {word : List Piece} {behind : List Char}
    (h : closing? s = some (word, behind)) : word.length + s.count '"' ≤ s.length := by
  fun_induction closing? s generalizing word behind with
  | case1 => exact nomatch h
  | case2 rest =>
    cases h
    show 0 + ('"' :: rest).count '"' ≤ _
    rw [Nat.zero_add]
    exact List.count_le_length
  | case3 rest ih =>
    have hle := ih h
    rw [List.count_cons_of_ne (by decide), List.count_cons_of_ne (by decide)]
    simp only [List.length_cons]
    omega
  | case4 c rest hc ih =>
    obtain ⟨⟨word, behind⟩, hrest, heq⟩ := Option.map_eq_some_iff.1 h
    cases heq
    have hle := ih hrest
    have hescaped := length_escaped_add_count_le c
    rw [List.count_cons_of_ne (by decide), ← List.singleton_append, List.count_append,
      List.length_append]
    simp only [List.length_cons, List.length_append, List.length_nil]
    omega
  | case5 c rest hquote hbackslash ih =>
    obtain ⟨⟨word, behind⟩, hrest, heq⟩ := Option.map_eq_some_iff.1 h
    cases heq
    have hle := ih hrest
    rw [List.count_cons_of_ne hquote]
    simp only [List.length_cons]
    omega

/-- A character other than a quote and a backslash. -/
theorem closing?_cons {c : Char} (hquote : c ≠ '"') (hbackslash : c ≠ '\\') (rest : List Char) :
    closing? (c :: rest) =
      (closing? rest).map fun (word, behind) => ([piece c] ++ word, behind) := by
  rw [closing?]
  · rfl
  · exact hquote
  · exact fun _ _ h _ => hbackslash h

/-- A backslash in front of a character without a meaning is a character, too. -/
theorem closing?_backslash {c : Char} (hc : c ∉ special) (hfeed : c ≠ '\n') (rest : List Char) :
    closing? ('\\' :: c :: rest) =
      (closing? (c :: rest)).map fun (word, behind) => ([.char '\\'] ++ word, behind) := by
  have hescaped : escaped c = [.char '\\', .char c] := if_neg hc
  simp only [special, List.mem_cons, List.not_mem_nil, or_false, not_or] at hc
  obtain ⟨hdollar, hbackquote, hquote, hbackslash⟩ := hc
  have hpiece : piece c = .char c := if_neg (by simp [hdollar, hbackquote])
  rw [closing?, if_neg hfeed, closing?_cons hquote hbackslash, hpiece, hescaped, Option.map_map]
  rfl

/-- Pieces in front of a word are there before and after. -/
theorem map_append_eq {r : Option (List Piece × List Char)} {front word : List Piece} :
    r.map (fun (word, behind) => (front ++ word, behind)) = some (front ++ word, []) ↔
      r = some (word, []) := by
  cases r <;> simp [Prod.ext_iff]

end Shell

namespace BridgeSettings

open Shell

/-! ## Commands that are ordinary -/

/-- Nothing but quotes has a meaning between double quotes: no expansion begins, and every backslash
stands in front of a character that it does not change. -/
structure Ordinary (s : List Char) : Prop where
  /-- No name is expanded. -/
  dollar : '$' ∉ s
  /-- No command is expanded. -/
  backquote : '`' ∉ s
  /-- Behind every backslash there is a character that has no meaning. -/
  backslash : ∀ front rest, s = front ++ '\\' :: rest →
    ∃ c behind, rest = c :: behind ∧ c ≠ '"' ∧ c ≠ '\\' ∧ c ≠ '\n'

/-- A character other than a backslash. -/
theorem ordinary_cons {c : Char} {s : List Char} (hc : c ≠ '\\') :
    Ordinary (c :: s) ↔ (c ≠ '$' ∧ c ≠ '`') ∧ Ordinary s := by
  constructor
  · rintro ⟨hdollar, hbackquote, hbackslash⟩
    simp only [List.mem_cons, not_or] at hdollar hbackquote
    exact ⟨⟨Ne.symm hdollar.1, Ne.symm hbackquote.1⟩, hdollar.2, hbackquote.2,
      fun front rest h => hbackslash (c :: front) rest (congrArg (c :: ·) h)⟩
  · rintro ⟨⟨hdollar, hbackquote⟩, hs⟩
    refine ⟨?_, ?_, fun front rest h => ?_⟩
    · simpa [Ne.symm hdollar] using hs.dollar
    · simpa [Ne.symm hbackquote] using hs.backquote
    · cases front with
      | nil => exact absurd (List.cons.inj h).1 hc
      | cons _ front => exact hs.backslash front rest (List.cons.inj h).2

/-- A backslash and the character behind it. -/
theorem ordinary_backslash {c : Char} {s : List Char} : Ordinary ('\\' :: c :: s) ↔
    (c ∉ special ∧ c ≠ '\n') ∧ Ordinary (c :: s) := by
  simp only [special, List.mem_cons, List.not_mem_nil, or_false, not_or]
  constructor
  · rintro ⟨hdollar, hbackquote, hbackslash⟩
    obtain ⟨c', behind, h, hquote, hne, hfeed⟩ := hbackslash [] (c :: s) rfl
    cases h
    simp only [List.mem_cons, not_or] at hdollar hbackquote
    exact ⟨⟨⟨Ne.symm hdollar.2.1, Ne.symm hbackquote.2.1, hquote, hne⟩, hfeed⟩,
      by simpa using hdollar.2, by simpa using hbackquote.2,
      fun front rest h => hbackslash ('\\' :: front) rest (congrArg ('\\' :: ·) h)⟩
  · rintro ⟨⟨⟨-, -, hquote, hne⟩, hfeed⟩, hs⟩
    refine ⟨?_, ?_, fun front rest h => ?_⟩
    · simpa using hs.dollar
    · simpa using hs.backquote
    · cases front with
      | nil =>
        cases h
        exact ⟨c, s, rfl, hquote, hne, hfeed⟩
      | cons _ front => exact hs.backslash front rest (List.cons.inj h).2

/-! ## Commands between the quotes -/

/-- A character as the bridge writes it between the quotes. -/
def mark (c : Char) : List Char := if c = '"' then ['\\', '"'] else [c]

/-- A command behind the opening quote, with the closing one. -/
def closed (s : List Char) : List Char := s.flatMap mark ++ ['"']

/-- It is closed character by character. -/
theorem closed_cons (c : Char) (s : List Char) : closed (c :: s) = mark c ++ closed s := by
  unfold closed
  rw [List.flatMap_cons, List.append_assoc]

/-- Of a character other than a quote, nothing is written but itself. -/
theorem closed_cons_of_ne {c : Char} (hc : c ≠ '"') (s : List Char) :
    closed (c :: s) = c :: closed s := by
  rw [closed_cons, mark, if_neg hc, List.singleton_append]

/-- Quotes apart, there is one character for each of the command. -/
theorem length_closed (s : List Char) : (closed s).length = s.length + (closed s).count '"' := by
  induction s with
  | nil => rfl
  | cons c s ih =>
    have hmark : (mark c).length = 1 + (mark c).count '"' := by
      unfold mark
      split
      next => rfl
      next hc => rw [List.count_eq_zero_of_not_mem fun h => hc (List.mem_singleton.1 h).symm]; rfl
    rw [closed_cons, List.length_append, List.count_append, hmark, ih, List.length_cons]
    omega

/-- No more pieces arrive than there are characters. -/
theorem length_le_of_closing? {s : List Char} {word : List Piece} {behind : List Char}
    (h : closing? (closed s) = some (word, behind)) : word.length ≤ s.length := by
  have hle := length_add_count_le h
  rw [length_closed] at hle
  omega

/-- A backslash in front of a character with a meaning is not a piece beside it. -/
theorem length_lt_of_closing? {c : Char} {s : List Char} {word : List Piece} {behind : List Char}
    (hc : ¬ (c ∉ special ∧ c ≠ '\n'))
    (h : closing? (closed ('\\' :: c :: s)) = some (word, behind)) :
    word.length < s.length + 2 := by
  rw [closed_cons_of_ne (by decide)] at h
  by_cases hquote : c = '"'
  · -- The backslash makes the one in front of the quote ordinary, and the quote closes the word.
    subst hquote
    cases h
    exact Nat.succ_lt_succ (Nat.succ_pos _)
  rw [closed_cons_of_ne hquote, closing?] at h
  split at h
  next => exact Nat.lt_succ_of_le (Nat.le_succ_of_le (length_le_of_closing? h))
  next hfeed =>
    have hspecial : c ∈ special := Decidable.not_not.1 fun hspecial => hc ⟨hspecial, hfeed⟩
    obtain ⟨⟨word, behind⟩, hrest, heq⟩ := Option.map_eq_some_iff.1 h
    cases heq
    rw [escaped, if_pos hspecial, List.singleton_append, List.length_cons]
    exact Nat.succ_lt_succ (Nat.lt_succ_of_le (length_le_of_closing? hrest))

/-- The pieces of a command are its characters, and it is closed behind them, exactly if it is
ordinary. -/
theorem closing?_closed (s : List Char) :
    closing? (closed s) = some (s.map .char, []) ↔ Ordinary s := by
  induction s with
  | nil => exact ⟨fun _ => ⟨by simp, by simp, by simp⟩, fun _ => rfl⟩
  | cons c s ih =>
    by_cases hbackslash : c = '\\'
    · subst hbackslash
      cases s with
      | nil =>
        -- The backslash takes the closing quote away.
        exact ⟨nofun, fun h => nomatch h.backslash [] [] rfl⟩
      | cons c s =>
        rw [ordinary_backslash]
        by_cases hc : c ∉ special ∧ c ≠ '\n'
        · have hquote : c ≠ '"' := fun h => hc.1 (by simp [h, special])
          rw [and_iff_right hc, ← ih, closed_cons_of_ne (by decide), closed_cons_of_ne hquote,
            closing?_backslash hc.1 hc.2]
          exact map_append_eq
        · refine ⟨fun h => ?_, fun h => absurd h.1 hc⟩
          have hlt := length_lt_of_closing? hc h
          simp at hlt
    rw [ordinary_cons hbackslash, ← ih]
    by_cases hquote : c = '"'
    · subst hquote
      rw [and_iff_right (by decide)]
      exact @map_append_eq _ [.char '"'] _
    rw [closed_cons_of_ne hquote, closing?_cons hquote hbackslash, List.map_cons]
    by_cases hc : c ≠ '$' ∧ c ≠ '`'
    · have hpiece : piece c = .char c := if_neg (by simp [hc])
      rw [and_iff_right hc, hpiece]
      exact map_append_eq
    · refine ⟨fun h => ?_, fun h => absurd h.1 hc⟩
      -- The first piece is an expansion.
      have hpiece : piece c = .expansion c :=
        if_pos (by rwa [ne_eq, ne_eq, ← not_or, Decidable.not_not] at hc)
      obtain ⟨word, -, heq⟩ := Option.map_eq_some_iff.1 h
      rw [hpiece] at heq
      cases heq

/-- What `su -c` gets of a command. -/
theorem argument?_quoted (line : String) : argument? ("su -c " ++ quoted line) =
    match closing? (closed line.toList) with
    | some (word, []) => some word
    | _ => none := by
  have hline : ("su -c " ++ quoted line).toList = "su -c \"".toList ++ closed line.toList := by
    unfold quoted closed mark
    simp
  unfold argument? DeviceInfo.behind?
  rw [hline, if_pos (by simp), List.drop_left]

/-- It gets the command as it is, exactly if that is ordinary. -/
theorem argument?_quoted_eq_some_iff (line : String) :
    argument? ("su -c " ++ quoted line) = some (line.toList.map .char) ↔ Ordinary line.toList := by
  rw [argument?_quoted, ← closing?_closed]
  split
  next word h => rw [h]; simp
  next hne =>
    refine ⟨nofun, fun h => absurd h (hne _)⟩

/-! ## The call -/

/-- A shell command begins with its call, if its time limit can be measured. -/
theorem shellCall_eq_ask {s : BridgeSettings} {limit : Duration}
    (hlimit : Duration.ofSeconds? s.commandTimeout = some limit) (serial : String)
    (words : List String) : ∃ next, (s.shellCall serial words).run =
      .ask ⟨s.program, "-s" :: serial :: "shell" :: words, some limit⟩ next := by
  unfold shellCall callFor call callAs
  rw [hlimit]
  exact ⟨_, rfl⟩

/-- A privileged command begins with the call for its line, in quotes behind `su -c`. -/
theorem privileged_eq_ask {s : BridgeSettings} {limit : Duration}
    (hlimit : Duration.ofSeconds? s.commandTimeout = some limit) (serial line : String) :
    ∃ next, (s.privileged serial line).run =
      .ask ⟨s.program, ["-s", serial, "shell", "su -c " ++ quoted line], some limit⟩ next := by
  obtain ⟨next, hcall⟩ := shellCall_eq_ask hlimit serial ["su -c " ++ quoted line]
  unfold privileged
  rw [Dialogue.run_bind_except, hcall]
  exact ⟨_, rfl⟩

/-- A privileged command is handed to the shell of the device in one line, and what `su -c` gets
from that line is the command as it is, exactly if nothing but quotes in it has a meaning between
double quotes. -/
theorem arrives_iff_ordinary {s : BridgeSettings} {limit : Duration}
    (hlimit : Duration.ofSeconds? s.commandTimeout = some limit) (serial line : String) :
    ∃ shellLine next, (s.privileged serial line).run =
        .ask ⟨s.program, ["-s", serial, "shell", shellLine], some limit⟩ next ∧
      (argument? shellLine = some (line.toList.map .char) ↔ Ordinary line.toList) := by
  obtain ⟨next, hcall⟩ := privileged_eq_ask hlimit serial line
  exact ⟨_, next, hcall, argument?_quoted_eq_some_iff line⟩

/-- A command with quotes and with a backslash in front of a letter arrives as it is. -/
theorem quoted_name_arrives :
    Duration.ofSeconds? ({} : BridgeSettings).commandTimeout = some ⟨10000000000⟩ ∧
      ∃ shellLine next, (({} : BridgeSettings).privileged "emu-1" "grep \"a\\.b\" 'c d'").run =
          .ask ⟨"adb", ["-s", "emu-1", "shell", shellLine], some ⟨10000000000⟩⟩ next ∧
        argument? shellLine = some ("grep \"a\\.b\" 'c d'".toList.map .char) := by
  have hlimit : Duration.ofSeconds? ({} : BridgeSettings).commandTimeout = some ⟨10000000000⟩ := by
    decide +kernel
  obtain ⟨shellLine, next, hcall, harrives⟩ :=
    arrives_iff_ordinary hlimit "emu-1" "grep \"a\\.b\" 'c d'"
  refine ⟨hlimit, shellLine, next, hcall, harrives.2 ?_⟩
  rw [← closing?_closed]
  decide

/-- With the usual settings, a command does not arrive as it is. -/
def ArrivesChanged (line : String) : Prop :=
  ∃ shellLine next, (({} : BridgeSettings).privileged "emu-1" line).run =
      .ask ⟨"adb", ["-s", "emu-1", "shell", shellLine], some ⟨10000000000⟩⟩ next ∧
    argument? shellLine ≠ some (line.toList.map .char)

/-- So it is if `su -c` gets something else from the line with the command in quotes. -/
theorem arrivesChanged_of_ne {line : String}
    (h : argument? ("su -c " ++ quoted line) ≠ some (line.toList.map .char)) :
    ArrivesChanged line := by
  have hlimit : Duration.ofSeconds? ({} : BridgeSettings).commandTimeout = some ⟨10000000000⟩ := by
    decide +kernel
  obtain ⟨next, hcall⟩ := privileged_eq_ask hlimit "emu-1" line
  exact ⟨_, next, hcall, h⟩

/-- A name that is expanded, a quote behind a backslash and two backslashes do not arrive as they
are. -/
theorem commands_changed_on_the_way : ArrivesChanged "echo $HOME" ∧
    ArrivesChanged "rm \"a\\\"b\"" ∧ ArrivesChanged "printf 'a\\\\b'" :=
  ⟨arrivesChanged_of_ne (by decide +kernel), arrivesChanged_of_ne (by decide +kernel),
    arrivesChanged_of_ne (by decide +kernel)⟩

end BridgeSettings

end Autoplay
