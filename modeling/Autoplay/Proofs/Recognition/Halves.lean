import Mathlib.Algebra.Order.Field.Basic
import Mathlib.Algebra.Order.Field.Rat
import Autoplay.Proofs.Recognition.CommonLength
import Autoplay.Recognition.NameMatch

/-!
# The two halves of the similarity

What two texts have in common and what has to be edited together make up the longer text at least
(`max_le_editDistance_add`). Computed exactly, the share they have in common is therefore never less
than what the edits leave of the longer text, so that the edit distance never decides whether a name
is accepted: `edit_half_never_decides`. In single precision that is not so, where rounding can put
the first similarity just above the second one.
-/

namespace Autoplay.Recognition

/-- The characters in common and the edits are together at least as many as the longer text has
characters. -/
theorem max_le_editDistance_add (a b : List Char) :
    max a.length b.length ≤ editDistance a b + commonLength a b := by
  induction a, b using texts_induction with
  | nil_left b =>
    rw [editDistance_nil_left, List.length_nil]
    omega
  | nil_right a =>
    rw [editDistance_nil_right, List.length_nil]
    omega
  | concat a b c d hdelete hinsert hboth =>
    -- One more character at the end of a text does not lessen what it has in common.
    have ha := List.sublist_append_left a [c]
    have hb := List.sublist_append_left b [d]
    have hfirst := commonLength_mono ha (List.Sublist.refl (b ++ [d]))
    have hsecond := commonLength_mono (List.Sublist.refl (a ++ [c])) hb
    have hneither := commonLength_mono ha hb
    have hsame : c = d → commonLength (a ++ [c]) (b ++ [d]) = commonLength a b + 1 := by
      intro h
      rw [commonLength_concat, if_pos h]
    rw [editDistance_concat]
    simp only [List.length_append, List.length_singleton] at hdelete hinsert ⊢
    split_ifs with hcd
    · have := hsame hcd
      omega
    · omega

variable (a b : List Char)

/-- Computed exactly, the edits leave no more of the longer text than both have in common. -/
theorem editSimilarity_le : (editSimilarity a b : ℚ) ≤ commonSimilarity a b := by
  unfold editSimilarity commonSimilarity
  dsimp only
  split_ifs with hempty
  · exact le_refl _
  · have hlongest : (0 : ℚ) < (max a.length b.length : ℕ) := by
      exact_mod_cast Nat.pos_of_ne_zero hempty
    have hsum : ((max a.length b.length : ℕ) : ℚ) ≤ editDistance a b + commonLength a b := by
      exact_mod_cast max_le_editDistance_add a b
    unfold greater
    split_ifs
    · exact div_nonneg (Nat.cast_nonneg _) hlongest.le
    · rw [Nat.cast_one, sub_le_iff_le_add, ← add_div, one_le_div hlongest, add_comm]
      exact hsum

/-- Computed exactly, the similarity is the share that both texts have in common. -/
theorem similarity_eq : (similarity a b : ℚ) = commonSimilarity a b := by
  unfold similarity greater
  split_ifs with h
  · rfl
  · exact le_antisymm (editSimilarity_le a b) (not_lt.mp h)

/-- Whether a name is accepted for what it has in common with a text alone. -/
def acceptsCommon (text : List Char) (leastSimilarity : ℚ) (name : List Char) : Bool :=
  !name.isEmpty && (containsEither text name || leastSimilarity ≤ commonSimilarity text name)

/-- The characters in common and the edits of two texts are together at least as many as the longer
one has characters. So in exact numbers the similarity that the edits leave is no greater than the
common one, which is the similarity of the texts, and a name is found exactly where the common
similarity alone would find it. -/
theorem edit_half_never_decides :
    max a.length b.length ≤ editDistance a b + commonLength a b ∧
      (editSimilarity a b : ℚ) ≤ commonSimilarity a b ∧
      (similarity a b : ℚ) = commonSimilarity a b ∧
      ∀ (text : String) (names : List String) (leastSimilarity : ℚ),
        findName text names leastSimilarity =
          if Text.allBlank text then none
          else names.find? fun name =>
            acceptsCommon (normalized text) leastSimilarity (normalized name) := by
  refine ⟨max_le_editDistance_add a b, editSimilarity_le a b, similarity_eq a b, ?_⟩
  intro text names leastSimilarity
  unfold findName accepts acceptsCommon
  simp only [similarity_eq]

-- In single precision a sixth is less than what is left of one after five sixths are taken away.
example : (commonSimilarity ['a', 'b', 'c', 'd', 'e', 'f'] ['a'] : Float32) <
    editSimilarity ['a', 'b', 'c', 'd', 'e', 'f'] ['a'] := by
  decide +kernel

end Autoplay.Recognition
