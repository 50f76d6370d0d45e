import Mathlib.Order.Bounds.Defs
import Mathlib.Order.MinMax
import Autoplay.Proofs.Recognition.Rows

/-!
# The common length is that of a longest common subsequence

A common subsequence of two texts can be had from both by leaving characters out. Some common
subsequence is as long as the common length says, and none is longer: `commonLength_isGreatest`.
Where the last characters are equal a common subsequence may as well use both of them, and where
they are not it leaves one of them out (`sublist_concat`).
-/

namespace Autoplay.Recognition

/-- What can be had from both texts by leaving characters out. -/
def CommonPart (s a b : List Char) : Prop := s.Sublist a ∧ s.Sublist b

variable {a b s : List Char}

/-- Some common part of two texts is as long as the common length says. -/
theorem exists_commonPart (a b : List Char) :
    ∃ s, CommonPart s a b ∧ s.length = commonLength a b := by
  induction a, b using texts_induction with
  | nil_left b =>
    exact ⟨[], ⟨List.nil_sublist _, List.nil_sublist _⟩, (commonLength_nil_left b).symm⟩
  | nil_right a =>
    exact ⟨[], ⟨List.nil_sublist _, List.nil_sublist _⟩, (commonLength_nil_right a).symm⟩
  | concat a b c d hfirst hsecond hboth =>
    rw [commonLength_concat]
    split_ifs with hcd
    · obtain ⟨s, ⟨ha, hb⟩, hs⟩ := hboth
      refine ⟨s ++ [c], ⟨ha.append_right [c], ?_⟩, ?_⟩
      · rw [hcd]
        exact hb.append_right [d]
      · rw [List.length_append, List.length_singleton, hs]
    · rcases Nat.le_total (commonLength (a ++ [c]) b) (commonLength a (b ++ [d])) with h | h
      · obtain ⟨s, ⟨ha, hb⟩, hs⟩ := hfirst
        rw [Nat.max_eq_left h]
        exact ⟨s, ⟨ha.trans (List.sublist_append_left a [c]), hb⟩, hs⟩
      · obtain ⟨s, ⟨ha, hb⟩, hs⟩ := hsecond
        rw [Nat.max_eq_right h]
        exact ⟨s, ⟨ha, hb.trans (List.sublist_append_left b [d])⟩, hs⟩

/-- A subsequence either leaves the last character of a text out or ends with it. -/
theorem sublist_concat {c : Char} (h : s.Sublist (a ++ [c])) :
    s.Sublist a ∨ ∃ r, s = r ++ [c] ∧ r.Sublist a := by
  obtain ⟨r, last, rfl, hr, hlast⟩ := List.sublist_append_iff.mp h
  rcases List.sublist_cons_iff.mp hlast with hnil | ⟨rest, rfl, hrest⟩
  · rw [List.sublist_nil.mp hnil, List.append_nil]
    exact .inl hr
  · rw [List.sublist_nil.mp hrest]
    exact .inr ⟨r, rfl, hr⟩

/-- What is left of a subsequence without its last character leaves that of the text out. -/
theorem dropLast_sublist_of_concat {c : Char} (h : s.Sublist (a ++ [c])) :
    s.dropLast.Sublist a := by
  rcases sublist_concat h with hs | ⟨r, rfl, hr⟩
  · exact (List.dropLast_sublist s).trans hs
  · rw [List.dropLast_concat]
    exact hr

/-- No common part of two texts is longer than the common length says. -/
theorem length_le_commonLength (h : CommonPart s a b) : s.length ≤ commonLength a b := by
  induction a, b using texts_induction generalizing s with
  | nil_left b =>
    rw [List.sublist_nil.mp h.1]
    exact Nat.zero_le _
  | nil_right a =>
    rw [List.sublist_nil.mp h.2]
    exact Nat.zero_le _
  | concat a b c d hfirst hsecond hboth =>
    obtain ⟨ha, hb⟩ := h
    rw [commonLength_concat]
    split_ifs with hcd
    · have hfront := hboth ⟨dropLast_sublist_of_concat ha, dropLast_sublist_of_concat hb⟩
      rw [List.length_dropLast] at hfront
      omega
    · -- It cannot end with both of the different characters.
      rw [le_max_iff]
      rcases sublist_concat ha with hleft | ⟨r, rfl, -⟩
      · exact .inl (hfirst ⟨hleft, hb⟩)
      · rcases sublist_concat hb with hright | ⟨r', hr', -⟩
        · exact .inr (hsecond ⟨ha, hright⟩)
        · exact absurd (List.append_singleton_inj.mp hr').2 hcd

/-- Longer texts do not have less in common. -/
theorem commonLength_mono {a' b' : List Char} (ha : a.Sublist a') (hb : b.Sublist b') :
    commonLength a b ≤ commonLength a' b' := by
  obtain ⟨s, ⟨hsa, hsb⟩, hs⟩ := exists_commonPart a b
  rw [← hs]
  exact length_le_commonLength ⟨hsa.trans ha, hsb.trans hb⟩

/-- The common length of two texts is the length of their longest common subsequences. So it does
not depend on their order, and neither text is shorter than it. -/
theorem commonLength_isGreatest (a b : List Char) :
    IsGreatest {n | ∃ s, CommonPart s a b ∧ s.length = n} (commonLength a b) ∧
      commonLength a b = commonLength b a ∧
      commonLength a b ≤ min a.length b.length := by
  obtain ⟨s, ⟨hsa, hsb⟩, hs⟩ := exists_commonPart a b
  obtain ⟨t, ⟨htb, hta⟩, ht⟩ := exists_commonPart b a
  refine ⟨⟨⟨s, ⟨hsa, hsb⟩, hs⟩, ?_⟩, ?_, ?_⟩
  · rintro n ⟨r, hr, rfl⟩
    exact length_le_commonLength hr
  · apply Nat.le_antisymm
    · rw [← hs]
      exact length_le_commonLength ⟨hsb, hsa⟩
    · rw [← ht]
      exact length_le_commonLength ⟨hta, htb⟩
  · rw [← hs]
    exact Nat.le_min.mpr ⟨hsa.length_le, hsb.length_le⟩

end Autoplay.Recognition
