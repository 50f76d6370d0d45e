import Autoplay.Text.Blank
import Autoplay.Text.Lines
import Mathlib.Data.List.TakeWhile

/-!
# Lines and words of texts that were put together

Lines that are joined by line feeds are the lines of the joined text (`filterMap_linesAfter`), a
text that begins and ends with other characters than blanks is what is left of it when the blanks
around it are dropped (`trim_ofList`), and words that are joined by blanks are the words of the
joined text (`wordsAfter_spaced`).
-/

namespace Autoplay.Text

/-! ## Lines -/

/-- Characters other than line feeds go to the line under way. -/
theorem linesAfter_append {line : List Char} (hline : '\n' ∉ line) (sofar rest : List Char) :
    linesAfter sofar (line ++ rest) = linesAfter (line.reverse ++ sofar) rest := by
  induction line generalizing sofar with
  | nil => rfl
  | cons c line ih =>
    rw [List.mem_cons, not_or] at hline
    rw [List.cons_append, linesAfter, if_neg (Ne.symm hline.1), ih hline.2, List.reverse_cons,
      List.append_assoc]
    rfl

/-- Lines that are joined by line feeds are the lines of the joined text; an empty one at the end,
which is none of them, must not matter. -/
theorem filterMap_linesAfter {α : Type} {f : List Char → Option α} (hempty : f [] = none)
    {lines : List (List Char)} (hlines : ∀ line ∈ lines, '\n' ∉ line) :
    (linesAfter [] (['\n'].intercalate lines)).filterMap f = lines.filterMap f := by
  match lines with
  | [] => rfl
  | [line] =>
    rw [List.forall_mem_singleton] at hlines
    have hlast := linesAfter_append hlines [] []
    rw [List.append_nil, List.append_nil] at hlast
    rw [List.intercalate_singleton, hlast, linesAfter]
    cases line with
    | nil => exact (List.filterMap_cons_none hempty).symm
    | cons c line => simp
  | line :: next :: lines =>
    obtain ⟨hline, hlines⟩ := List.forall_mem_cons.1 hlines
    have ih := filterMap_linesAfter hempty hlines
    rw [List.intercalate_cons_cons, List.append_assoc, linesAfter_append hline,
      List.singleton_append, linesAfter, if_pos rfl, List.append_nil, List.reverse_reverse,
      List.filterMap_cons, ih, List.filterMap_cons (l := next :: lines)]

/-! ## Blanks around a text -/

/-- Blanks within a line. -/
def IsGap (s : List Char) : Prop := ∀ c ∈ s, isBlank c = true ∧ c ≠ '\n'

/-- They are blank. -/
theorem IsGap.isBlank {s : List Char} (h : IsGap s) : ∀ c ∈ s, isBlank c = true :=
  fun c hc => (h c hc).1

/-- They end no line. -/
theorem IsGap.newline_not_mem {s : List Char} (h : IsGap s) : '\n' ∉ s :=
  fun hmem => (h _ hmem).2 rfl

/-- A text that neither begins nor ends with a blank. -/
structure Firm (s : List Char) : Prop where
  /-- It begins with another character. -/
  first : ∃ c rest, s = c :: rest ∧ isBlank c = false
  /-- And it ends with one. -/
  last : ∃ front c, s = front ++ [c] ∧ isBlank c = false

/-- There is something of it. -/
theorem Firm.ne_nil {s : List Char} (h : Firm s) : s ≠ [] := by
  obtain ⟨c, rest, rfl, -⟩ := h.first
  exact List.cons_ne_nil c rest

/-- Blanks in front are dropped. -/
theorem IsGap.trimStart_append {front : List Char} (h : IsGap front) (s : List Char) :
    trimStart (front ++ s) = trimStart s :=
  List.dropWhile_append_of_pos h.isBlank

/-- Behind a character that is no blank everything stays. -/
theorem trimStart_cons {c : Char} (hc : isBlank c = false) (s : List Char) :
    trimStart (c :: s) = c :: s :=
  List.dropWhile_cons_of_neg (ne_true_of_eq_false hc)

/-- In front of a character that is no blank everything stays. -/
theorem trimEnd_append {c : Char} (hc : isBlank c = false) (front back : List Char) :
    trimEnd (front ++ c :: back) = front ++ c :: trimEnd back := by
  have hfirst : (c :: front.reverse).dropWhile isBlank = c :: front.reverse :=
    List.dropWhile_cons_of_neg (ne_true_of_eq_false hc)
  unfold trimEnd
  rw [List.reverse_append, List.reverse_cons, List.append_assoc, List.singleton_append,
    List.dropWhile_append, hfirst]
  split
  next hback =>
    rw [List.isEmpty_iff.1 hback]
    simp
  next => simp

/-- Of blanks nothing is left. -/
theorem IsGap.trimEnd_eq_nil {gap : List Char} (h : IsGap gap) : trimEnd gap = [] := by
  unfold trimEnd
  rw [List.reverse_eq_nil_iff, List.dropWhile_eq_nil_iff]
  exact fun c hc => h.isBlank c (List.mem_reverse.1 hc)

/-- What is left of a firm text without the blanks around it is the text. -/
theorem Firm.trim {s front back : List Char} (hs : Firm s) (hfront : IsGap front)
    (hback : IsGap back) : trimEnd (trimStart (front ++ s ++ back)) = s := by
  obtain ⟨c, rest, hfirst, hc⟩ := hs.first
  obtain ⟨init, d, hlast, hd⟩ := hs.last
  have hstart : trimStart (front ++ s ++ back) = s ++ back := by
    rw [List.append_assoc, hfront.trimStart_append, hfirst, List.cons_append, trimStart_cons hc]
  rw [hstart, hlast, List.append_assoc, List.singleton_append, trimEnd_append hd,
    hback.trimEnd_eq_nil]

/-- A firm text behind blanks is still there without them, whatever stands behind it. -/
theorem Firm.isPrefix_trim {s front : List Char} (hs : Firm s) (hfront : IsGap front)
    (rest : List Char) : s <+: trimEnd (trimStart (front ++ (s ++ rest))) := by
  obtain ⟨c, tail, hfirst, hc⟩ := hs.first
  obtain ⟨init, d, hlast, hd⟩ := hs.last
  have hstart : trimStart (front ++ (s ++ rest)) = s ++ rest := by
    rw [hfront.trimStart_append, hfirst, List.cons_append, trimStart_cons hc]
  rw [hstart, hlast, List.append_assoc, List.singleton_append, trimEnd_append hd]
  exact ⟨trimEnd rest, by rw [List.append_assoc, List.singleton_append]⟩

/-! ## Words -/

/-- A word: some characters, and no blanks among them. -/
structure Word where
  /-- The word as a text. -/
  text : String
  /-- There is something. -/
  nonempty : text ≠ ""
  /-- Nothing of it is blank. -/
  solid : ∀ c ∈ text.toList, isBlank c = false

/-- A line feed is blank, so that none is in a word. -/
theorem Word.newline_not_mem (w : Word) : '\n' ∉ w.text.toList :=
  fun h => absurd (w.solid _ h) (by decide)

/-- Words with blanks between them. -/
inductive Spaced : List Word → List Char → Prop where
  /-- One word. -/
  | last (w : Word) : Spaced [w] w.text.toList
  /-- A word, some blanks and more words. -/
  | cons (w : Word) (gap : List Char) {s : List Char} {ws : List Word} (hsome : gap ≠ [])
    (hgap : IsGap gap) (h : Spaced ws s) : Spaced (w :: ws) (w.text.toList ++ (gap ++ s))

/-- Characters that are not blank go to the word under way. -/
theorem wordsAfter_append {w : List Char} (hw : ∀ c ∈ w, isBlank c = false)
    (sofar rest : List Char) :
    wordsAfter sofar (w ++ rest) = wordsAfter (w.reverse ++ sofar) rest := by
  induction w generalizing sofar with
  | nil => rfl
  | cons c w ih =>
    obtain ⟨hc, hw⟩ := List.forall_mem_cons.1 hw
    rw [List.cons_append, wordsAfter, if_neg (ne_true_of_eq_false hc), ih hw, List.reverse_cons,
      List.append_assoc]
    rfl

/-- Between two words blanks do not matter. -/
theorem wordsAfter_gap {gap : List Char} (hgap : IsGap gap) (rest : List Char) :
    wordsAfter [] (gap ++ rest) = wordsAfter [] rest := by
  induction gap with
  | nil => rfl
  | cons c gap ih =>
    obtain ⟨hc, hgap⟩ := List.forall_mem_cons.1 hgap
    rw [List.cons_append, wordsAfter, if_pos hc.1]
    exact ih hgap

/-- A blank ends the word under way. -/
theorem wordsAfter_end {sofar gap : List Char} (hsofar : sofar ≠ []) (hsome : gap ≠ [])
    (hgap : IsGap gap) (rest : List Char) :
    wordsAfter sofar (gap ++ rest) = sofar.reverse :: wordsAfter [] rest := by
  cases gap with
  | nil => exact absurd rfl hsome
  | cons c gap =>
    obtain ⟨hc, hgap⟩ := List.forall_mem_cons.1 hgap
    have hopen : ¬ sofar.isEmpty = true := by simpa using hsofar
    rw [List.cons_append, wordsAfter, if_pos hc.1, if_neg hopen, wordsAfter_gap hgap]

/-- The words of a text that was put together from words. -/
theorem Spaced.wordsAfter {ws : List Word} {s : List Char} (h : Spaced ws s) :
    wordsAfter [] s = ws.map fun w => w.text.toList := by
  have hopen (w : Word) : w.text.toList.reverse ++ [] ≠ [] := by
    simpa using w.nonempty
  induction h with
  | last w =>
    have hw := wordsAfter_append w.solid [] []
    rw [List.append_nil, Text.wordsAfter, if_neg (by simpa using hopen w)] at hw
    rw [hw]
    simp
  | cons w gap hsome hgap _ ih =>
    rw [wordsAfter_append w.solid, wordsAfter_end (hopen w) hsome hgap, ih]
    simp

/-- A word neither begins nor ends with a blank. -/
theorem Word.firm (w : Word) : Firm w.text.toList := by
  have hne : w.text.toList ≠ [] := by simpa using w.nonempty
  constructor
  · obtain ⟨c, rest, hw⟩ := List.exists_cons_of_ne_nil hne
    exact ⟨c, rest, hw, w.solid c (hw ▸ List.mem_cons_self)⟩
  · exact ⟨w.text.toList.dropLast, _, (List.dropLast_concat_getLast hne).symm,
      w.solid _ (List.getLast_mem hne)⟩

/-- What begins with a firm text and ends with one is firm. -/
theorem Firm.append {s t : List Char} (hs : Firm s) (between : List Char) (ht : Firm t) :
    Firm (s ++ (between ++ t)) := by
  obtain ⟨c, rest, rfl, hc⟩ := hs.first
  obtain ⟨front, d, rfl, hd⟩ := ht.last
  exact ⟨⟨c, _, rfl, hc⟩, ⟨c :: rest ++ (between ++ front), d, by simp, hd⟩⟩

/-- Nor does a text that was put together from words. -/
theorem Spaced.firm {ws : List Word} {s : List Char} (h : Spaced ws s) : Firm s := by
  induction h with
  | last w => exact w.firm
  | cons w gap hsome hgap _ ih => exact w.firm.append _ ih

/-- It is within one line. -/
theorem Spaced.newline_not_mem {ws : List Word} {s : List Char} (h : Spaced ws s) : '\n' ∉ s := by
  induction h with
  | last w => exact w.newline_not_mem
  | cons w gap hsome hgap _ ih =>
    simp only [List.mem_append, not_or]
    exact ⟨w.newline_not_mem, hgap.newline_not_mem, ih⟩

end Autoplay.Text
