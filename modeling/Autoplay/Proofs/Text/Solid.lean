import Mathlib.Tactic.SplitIfs
import Autoplay.Text.Compatibility
import Autoplay.Text.Lowercase

/-!
# What is not blank stays

A text that holds more than blanks still does in its normal form (`compatibilityForm_solid`), and no
text loses all its characters when its letters are made small (`lowercase_ne_nil`). The first is a
matter of the tables: no decomposition makes blanks of a character that is none, and no composite is
a blank. The kernel checks that on the tables themselves, code point by code point.
-/

namespace Autoplay.Text

/-- Some character of a text is not blank. -/
def HoldsSolid (s : List Char) : Prop := ∃ c ∈ s, isBlank c = false

/-! ## The tables -/

/-- Whether a code point is not that of a blank. Nearly all are decided by their size alone. -/
def isSolidCode (n : Nat) : Bool :=
  Nat.blt 0x3000 n || (Nat.blt 0x20 n && Nat.blt n 0x80) || (Nat.blt 0xA0 n && Nat.blt n 0x1680)
    || !isBlank (Char.ofNat n)

/-- A character with such a code point is not blank. -/
theorem isBlank_ofNat {n : Nat} (h : isSolidCode n = true) : isBlank (Char.ofNat n) = false := by
  simp only [isSolidCode, Bool.or_eq_true, Bool.and_eq_true, Nat.blt_eq, Bool.not_eq_true'] at h
  rcases h with h | h
  · have hcode : (Char.ofNat n).toNat = n ∨ (Char.ofNat n).toNat = 0 := by
      by_cases hvalid : n.isValidChar
      · left
        rw [Char.ofNat, dif_pos hvalid]
        rfl
      · right
        rw [Char.ofNat, dif_neg hvalid]
        rfl
    simp only [isBlank, Bool.or_eq_false_iff, Bool.and_eq_false_iff, decide_eq_false_iff_not,
      beq_eq_false_iff_ne]
    omega
  · exact h

/-- There are no blanks among the last characters. -/
theorem isSolidCode_of_lt {n : Nat} (h : 0x3000 < n) : isSolidCode n = true := by
  simp only [isSolidCode, Bool.or_eq_true, Nat.blt_eq]
  exact .inl (.inl (.inl h))

/-- Whether neighbouring characters that are not blank decompose into more than blanks. -/
def solidNeighbours (first : Nat) : List (List Nat) → Bool
  | [] => true
  | image :: images =>
    (image.any isSolidCode || isBlank (Char.ofNat first)) && solidNeighbours (first + 1) images

/-- All entries of the table of decompositions are like that. -/
theorem decompositions_solid :
    (Table.decompositions.all fun (a, images) => solidNeighbours a images) = true := by
  decide +kernel

/-- All composites of the table are solid. -/
theorem compositions_solid :
    (Table.compositions.all fun (_, pairs) => pairs.all fun (_, c) => isSolidCode c) = true := by
  decide +kernel

/-- A character that is not blank decomposes into more than blanks where the table has it. -/
theorem holdsSolid_of_neighbours {n first : Nat} {images : List (List Nat)} {s : List Char}
    (hmem : (n, s) ∈ neighbours first images) (hsolid : solidNeighbours first images = true)
    (hn : isBlank (Char.ofNat n) = false) : HoldsSolid s := by
  induction images generalizing first with
  | nil => exact absurd hmem List.not_mem_nil
  | cons image images ih =>
    rw [solidNeighbours, Bool.and_eq_true, Bool.or_eq_true] at hsolid
    rw [neighbours, List.mem_cons] at hmem
    rcases hmem with hhere | hrest
    · obtain ⟨rfl, rfl⟩ := Prod.mk.inj hhere
      rcases hsolid.1 with himage | hblank
      · obtain ⟨code, hcode, hsolid⟩ := List.any_eq_true.mp himage
        exact ⟨Char.ofNat code, List.mem_map_of_mem hcode, isBlank_ofNat hsolid⟩
      · rw [hn] at hblank
        exact absurd hblank Bool.false_ne_true
    · exact ih hrest hsolid.2

/-- What is found in a table made of a list was in the list. -/
theorem mem_of_getElem?_ofList {κ α : Type} [BEq κ] [LawfulBEq κ] [Hashable κ] [LawfulHashable κ]
    {l : List (κ × α)} {k : κ} {x : α} (h : (Std.HashMap.ofList l)[k]? = some x) : (k, x) ∈ l := by
  rw [Std.HashMap.ofList_eq_insertMany_empty, Std.HashMap.getElem?_insertMany_list,
    Std.HashMap.getElem?_empty, Option.or_none, List.findSomeRev?_eq_findSome?_reverse] at h
  obtain ⟨⟨k', x'⟩, hmem, hfound⟩ := List.exists_of_findSome?_eq_some h
  dsimp only at hfound
  split_ifs at hfound with hk
  rw [← eq_of_beq hk, ← Option.some.inj hfound]
  exact List.mem_reverse.mp hmem

/-! ## The normal form -/

/-- The decomposition of a character that is not blank holds more than blanks. -/
theorem holdsSolid_decompose {c : Char} (hc : isBlank c = false) : HoldsSolid (decompose c) := by
  unfold decompose
  dsimp only
  split_ifs with hlatin hhangul
  · exact ⟨c, List.mem_singleton_self c, hc⟩
  · -- The first part of a syllable is a consonant.
    have hlead : isSolidCode (0x1100 + (c.toNat - 0xAC00) / 588) = true := by
      simp only [isSolidCode, Bool.or_eq_true, Bool.and_eq_true, Nat.blt_eq]
      omega
    refine ⟨_, ?_, isBlank_ofNat hlead⟩
    unfold hangulParts
    dsimp only
    split_ifs
    · exact List.mem_cons_self
    · exact List.mem_cons_self
  · rw [Std.HashMap.getD_eq_getD_getElem?]
    cases hfound : decompositionOf[c.toNat]? with
    | none => exact ⟨c, List.mem_singleton_self c, hc⟩
    | some s =>
      obtain ⟨⟨first, images⟩, hentry, hmem⟩ :=
        List.mem_flatMap.mp (mem_of_getElem?_ofList hfound)
      have hsolid := List.all_eq_true.mp decompositions_solid _ hentry
      exact holdsSolid_of_neighbours hmem hsolid (by rw [Char.ofNat_toNat]; exact hc)

/-- A mark is put into a text, and nothing else changes. -/
theorem mem_insertMark {c d : Char} {k : Nat} {before : List Char} :
    d ∈ insertMark c k before ↔ d = c ∨ d ∈ before := by
  induction before with
  | nil => rw [insertMark, List.mem_cons]
  | cons e before ih =>
    rw [insertMark]
    split_ifs
    · rw [List.mem_cons, ih, List.mem_cons]
      exact or_left_comm
    · rw [List.mem_cons]

/-- Sorting the marks of a text keeps its characters. -/
theorem mem_sortMarks {d : Char} {s : List Char} : d ∈ sortMarks s ↔ d ∈ s := by
  have hfold (before : List Char) :
      d ∈ s.foldl (fun before c =>
        let k := combiningClass c
        if k = 0 then c :: before else insertMark c k before) before ↔ d ∈ s ∨ d ∈ before := by
    induction s generalizing before with
    | nil => simp only [List.foldl_nil, List.not_mem_nil, false_or]
    | cons c s ih =>
      have hhere : (d ∈ if combiningClass c = 0 then c :: before
          else insertMark c (combiningClass c) before) ↔ d = c ∨ d ∈ before := by
        split_ifs
        · exact List.mem_cons
        · exact mem_insertMark
      rw [List.foldl_cons, ih, hhere, List.mem_cons, or_left_comm, or_assoc]
  rw [sortMarks, List.mem_reverse, hfold, List.mem_nil_iff, or_false]

/-- No composite is blank. -/
theorem isBlank_of_composePair {a b c : Char} (h : composePair a b = some c) :
    isBlank c = false := by
  unfold composePair at h
  dsimp only at h
  split_ifs at h with hsyllable htrailing
  · rw [← Option.some.inj h]
    apply isBlank_ofNat
    exact isSolidCode_of_lt (by omega)
  · rw [← Option.some.inj h]
    apply isBlank_ofNat
    exact isSolidCode_of_lt (by omega)
  · obtain ⟨⟨first, pairs⟩, hentry, hmem⟩ := List.mem_flatMap.mp (mem_of_getElem?_ofList h)
    obtain ⟨⟨second, whole⟩, hpair, heq⟩ := List.mem_map.mp hmem
    rw [← (Prod.mk.inj heq).2]
    exact isBlank_ofNat
      (List.all_eq_true.mp (List.all_eq_true.mp compositions_solid _ hentry) _ hpair)

namespace Composing

/-- Taking up one more character leaves a text with more than blanks with more than blanks. -/
theorem holdsSolid_push {p : Composing} {c : Char} (h : HoldsSolid (c :: p.text)) :
    HoldsSolid (p.push c).text := by
  unfold push
  dsimp only
  split
  case h_1 whole hjoined =>
    -- Where the character composes, what it composes to is solid.
    have hwhole : isBlank whole = false := by
      cases hstarter : p.starter with
      | none =>
        rw [hstarter] at hjoined
        exact absurd hjoined (Option.some_ne_none whole).symm
      | some a =>
        rw [hstarter] at hjoined
        dsimp only at hjoined
        split_ifs at hjoined
        exact isBlank_of_composePair hjoined
    refine ⟨whole, ?_, hwhole⟩
    simp only [text, Option.toList_some, List.mem_append, List.mem_singleton, true_or, or_true]
  case h_2 =>
    split_ifs
    · exact h
    · exact h

/-- The same for all the characters of a text. -/
theorem holdsSolid_foldl {p : Composing} {s : List Char} (h : HoldsSolid (s ++ p.text)) :
    HoldsSolid (s.foldl push p).text := by
  induction s generalizing p with
  | nil => exact h
  | cons c s ih =>
    obtain ⟨d, hd, hsolid⟩ := h
    rw [List.cons_append, List.mem_cons, List.mem_append] at hd
    apply ih
    by_cases hs : d ∈ s
    · exact ⟨d, List.mem_append_left _ hs, hsolid⟩
    · have hfront : d ∈ c :: p.text := by
        rw [List.mem_cons]
        exact hd.imp_right (Or.resolve_left · hs)
      obtain ⟨e, he, hsolid⟩ := holdsSolid_push ⟨d, hfront, hsolid⟩
      exact ⟨e, List.mem_append_right _ he, hsolid⟩

end Composing

/-- The normal form of a text that holds more than blanks does so, too. -/
theorem compatibilityForm_solid {s : String} (h : allBlank s = false) :
    HoldsSolid (compatibilityForm s).toList := by
  obtain ⟨c, hc, hsolid⟩ := List.all_eq_false.mp h
  obtain ⟨d, hd, hsolid⟩ := holdsSolid_decompose (eq_false_of_ne_true hsolid)
  have hsorted : d ∈ sortMarks (s.toList.flatMap decompose) :=
    mem_sortMarks.mpr (List.mem_flatMap.mpr ⟨c, hc, hd⟩)
  obtain ⟨e, he, hsolid⟩ := Composing.holdsSolid_foldl
    ⟨d, List.mem_append_left (Composing.text ⟨[], none, []⟩) hsorted, hsolid⟩
  refine ⟨e, ?_, hsolid⟩
  rw [compatibilityForm, String.toList_ofList]
  exact List.mem_reverse.mpr he

/-! ## Small letters -/

/-- Every character has a lowercase form. -/
theorem lowercaseChar_ne_nil (c : Char) : lowercaseChar c ≠ [] := by
  unfold lowercaseChar
  split_ifs
  · exact List.cons_ne_nil _ _
  · exact List.cons_ne_nil _ _
  · split <;> exact List.cons_ne_nil _ _

/-- Making the letters of a text small leaves a character where there was one. -/
theorem lowercase_ne_nil {s : List Char} (h : s ≠ []) :
    (lowercase (String.ofList s)).toList ≠ [] := by
  rw [lowercase, String.toList_ofList, String.toList_ofList]
  cases s with
  | nil => exact absurd rfl h
  | cons c s =>
    rw [lowercaseAfter]
    apply List.append_ne_nil_of_left_ne_nil
    split_ifs
    · exact List.cons_ne_nil _ _
    · exact List.cons_ne_nil _ _
    · exact lowercaseChar_ne_nil c

end Autoplay.Text
