import Mathlib.Tactic.SplitIfs
import Autoplay.Proofs.Text.Solid

/-!
# Plain text is its own normal form

The characters up to U+009F decompose into themselves, are no marks, and compose with nothing, so a
text of them is its own normal form (`compatibilityForm_plain`). Its letters, if it is ASCII text,
are made small one by one (`lowercase_ascii`).
-/

namespace Autoplay.Text

/-- Nothing composes with a character below the marks. -/
theorem compositions_marked :
    (Table.compositions.all fun (_, pairs) => pairs.all fun (b, _) => Nat.ble 0x300 b) = true := by
  decide +kernel

/-- A character composes with no character below the marks. -/
theorem composePair_plain (a : Char) {b : Char} (hb : b.toNat < 0x300) :
    composePair a b = none := by
  unfold composePair
  dsimp only
  rw [if_neg (by omega), if_neg (by omega)]
  cases h : compositeOf[(a.toNat, b.toNat)]? with
  | none => rfl
  | some c =>
    obtain ⟨⟨first, pairs⟩, hentry, hmem⟩ := List.mem_flatMap.mp (mem_of_getElem?_ofList h)
    obtain ⟨⟨second, whole⟩, hpair, heq⟩ := List.mem_map.mp hmem
    have hmark := List.all_eq_true.mp (List.all_eq_true.mp compositions_marked _ hentry) _ hpair
    have hsecond : second = b.toNat := (Prod.mk.inj (Prod.mk.inj heq).1).2
    rw [Nat.ble_eq] at hmark
    omega

/-- A character below the marks is taken up as it is. -/
theorem Composing.text_push_plain (p : Composing) {c : Char} (hc : c.toNat < 0x300) :
    (p.push c).text = c :: p.text := by
  have hclass : combiningClass c = 0 := if_pos hc
  unfold push
  cases hstarter : p.starter with
  | none => simp [hclass, text]
  | some a => simp [hclass, composePair_plain a hc, text, hstarter]

/-- The letters of an ASCII text are made small one by one. -/
theorem lowercase_ascii {s : List Char} (h : ∀ c ∈ s, c.toNat < 128) :
    lowercase (String.ofList s) = String.ofList (s.map Char.toLower) := by
  have hafter (before : List Char) : lowercaseAfter before s = s.map Char.toLower := by
    induction s generalizing before with
    | nil => rfl
    | cons c s ih =>
      have hc : c.toNat < 128 := h c List.mem_cons_self
      have hsigma : c.toNat ≠ 0x3A3 := by omega
      rw [lowercaseAfter, if_neg hsigma, lowercaseChar, if_pos hc, List.map_cons,
        ih fun d hd => h d (List.mem_cons_of_mem c hd)]
      rfl
  rw [lowercase, String.toList_ofList, hafter]

variable {s : List Char} (h : ∀ c ∈ s, c.toNat < 0xA0)
include h

/-- The characters up to U+009F decompose into themselves. -/
theorem flatMap_decompose_plain : s.flatMap decompose = s := by
  induction s with
  | nil => rfl
  | cons c s ih =>
    have hc : decompose c = [c] := if_pos (h c List.mem_cons_self)
    rw [List.flatMap_cons, hc, ih fun d hd => h d (List.mem_cons_of_mem c hd)]
    rfl

/-- There are no marks to be sorted among them. -/
theorem sortMarks_plain : sortMarks s = s := by
  have hfold (before : List Char) : s.foldl (fun before c =>
      let k := combiningClass c
      if k = 0 then c :: before else insertMark c k before) before = s.reverse ++ before := by
    induction s generalizing before with
    | nil => rfl
    | cons c s ih =>
      have hc : c.toNat < 0xA0 := h c List.mem_cons_self
      have hclass : combiningClass c = 0 := if_pos (by omega)
      rw [List.foldl_cons, ih fun d hd => h d (List.mem_cons_of_mem c hd), hclass,
        List.reverse_cons, List.append_assoc]
      rfl
  rw [sortMarks, hfold, List.append_nil, List.reverse_reverse]

/-- They are taken up as they are. -/
theorem Composing.text_foldl_plain (p : Composing) :
    (s.foldl Composing.push p).text = s.reverse ++ p.text := by
  induction s generalizing p with
  | nil => rfl
  | cons c s ih =>
    have hc : c.toNat < 0xA0 := h c List.mem_cons_self
    rw [List.foldl_cons, ih fun d hd => h d (List.mem_cons_of_mem c hd),
      Composing.text_push_plain p (by omega), List.reverse_cons, List.append_assoc]
    rfl

/-- A text of characters up to U+009F is its own normal form. -/
theorem compatibilityForm_plain : compatibilityForm (String.ofList s) = String.ofList s := by
  rw [compatibilityForm, String.toList_ofList, flatMap_decompose_plain h, sortMarks_plain h,
    Composing.text_foldl_plain h]
  simp [Composing.text]

end Autoplay.Text
