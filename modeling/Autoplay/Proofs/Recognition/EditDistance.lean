import Mathlib.Order.Bounds.Defs
import Autoplay.Proofs.Recognition.Rows

/-!
# The edit distance is a least number of edits

An edit inserts one character into a text, deletes one, or replaces one by another. The edit
distance of two texts is the least number of edits that lead from the one to the other, and it is
therefore a metric: both are in `editDistance_isLeast`. That as many edits suffice follows the table
(`edits_editDistance`); that fewer do not is because a single edit changes the distance by at most
one (`editDistance_le_succ`).
-/

namespace Autoplay.Recognition

/-! ## Edits of a text -/

/-- One edit leads from the first text to the second one. -/
inductive Edit : List Char → List Char → Prop
  /-- A character is put between two others. -/
  | insertion (front back : List Char) (c : Char) : Edit (front ++ back) (front ++ c :: back)
  /-- A character is taken out. -/
  | deletion (front back : List Char) (c : Char) : Edit (front ++ c :: back) (front ++ back)
  /-- A character is put in the place of another one. -/
  | substitution (front back : List Char) (c d : Char) :
    Edit (front ++ c :: back) (front ++ d :: back)

/-- A number of edits, one after another, lead from the first text to the second one. -/
inductive Edits : Nat → List Char → List Char → Prop
  /-- Nothing is edited. -/
  | none (a : List Char) : Edits 0 a a
  /-- There is one more edit. -/
  | more {n : Nat} {a b c : List Char} (before : Edits n a b) (last : Edit b c) : Edits (n + 1) a c

variable {a b c : List Char} {m n : Nat}

/-- What an edit did, another one undoes. -/
theorem Edit.symm (h : Edit a b) : Edit b a := by
  cases h with
  | insertion front back c => exact .deletion front back c
  | deletion front back c => exact .insertion front back c
  | substitution front back c d => exact .substitution front back d c

/-- What stands behind a text does not hinder an edit. -/
theorem Edit.append_right (h : Edit a b) (s : List Char) : Edit (a ++ s) (b ++ s) := by
  cases h with
  | insertion front back c =>
    simpa only [List.append_assoc, List.cons_append] using Edit.insertion front (back ++ s) c
  | deletion front back c =>
    simpa only [List.append_assoc, List.cons_append] using Edit.deletion front (back ++ s) c
  | substitution front back c d =>
    simpa only [List.append_assoc, List.cons_append] using
      Edit.substitution front (back ++ s) c d

namespace Edits

/-- A single edit. -/
theorem one (h : Edit a b) : Edits 1 a b := .more (.none a) h

/-- Edits can go on where others end. -/
theorem trans (h : Edits m a b) (h' : Edits n b c) : Edits (m + n) a c := by
  induction h' with
  | none b => exact h
  | more _ last ih => exact .more (ih h) last

/-- Edits can be undone, the last one first. -/
theorem symm (h : Edits n a b) : Edits n b a := by
  induction h with
  | none => exact .none _
  | @more n a b c _ last ih =>
    rw [Nat.add_comm]
    exact (one last.symm).trans ih

/-- What stands behind a text does not hinder its edits. -/
theorem append_right (h : Edits n a b) (s : List Char) : Edits n (a ++ s) (b ++ s) := by
  induction h with
  | none => exact .none _
  | more _ last ih => exact .more ih (last.append_right s)

/-- Without any edit a text stays the same. -/
theorem eq_of_zero (h : Edits 0 a b) : a = b := by
  cases h
  rfl

/-- A character is inserted at the end. -/
theorem insert_last (h : Edits n a b) (d : Char) : Edits (n + 1) a (b ++ [d]) := by
  refine .more h ?_
  simpa only [List.append_nil] using Edit.insertion b [] d

/-- A character is deleted at the end, before all else. -/
theorem delete_last (h : Edits n a b) (d : Char) : Edits (n + 1) (a ++ [d]) b :=
  (h.symm.insert_last d).symm

end Edits

/-! ## As many edits as the distance suffice -/

/-- As many edits as the distance says lead from one text to the other. -/
theorem edits_editDistance (a b : List Char) : Edits (editDistance a b) a b := by
  induction a, b using texts_induction with
  | nil_left b =>
    rw [editDistance_nil_left]
    induction b using List.reverseRecOn with
    | nil => exact .none []
    | append_singleton b d ih =>
      rw [List.length_append, List.length_singleton]
      exact ih.insert_last d
  | nil_right a =>
    rw [editDistance_nil_right]
    induction a using List.reverseRecOn with
    | nil => exact .none []
    | append_singleton a d ih =>
      rw [List.length_append, List.length_singleton]
      exact ih.delete_last d
  | concat a b c d hdelete hinsert hboth =>
    -- The least of the three entries tells which edit is the last one.
    rw [editDistance_concat]
    rcases Nat.le_total (min (editDistance a (b ++ [d]) + 1) (editDistance (a ++ [c]) b + 1))
      (editDistance a b + if c = d then 0 else 1) with h | h
    · rw [Nat.min_eq_left h]
      rcases Nat.le_total (editDistance a (b ++ [d])) (editDistance (a ++ [c]) b) with h | h
      · rw [Nat.min_eq_left (Nat.succ_le_succ h)]
        exact hdelete.delete_last c
      · rw [Nat.min_eq_right (Nat.succ_le_succ h)]
        exact hinsert.insert_last d
    · rw [Nat.min_eq_right h]
      have hsame := hboth.append_right [c]
      by_cases hcd : c = d
      · rw [if_pos hcd, ← hcd]
        exact hsame
      · rw [if_neg hcd]
        exact .more hsame (.substitution b [] c d)

/-! ## Fewer edits do not suffice -/

/-- A text is at no distance from itself. -/
theorem editDistance_self (a : List Char) : editDistance a a = 0 := by
  induction a using List.reverseRecOn with
  | nil => exact editDistance_nil_left []
  | append_singleton a c ih =>
    rw [editDistance_concat, ih, if_pos rfl]
    omega

/-- How much further `c` may be from a text than `b` is stays the same when both go on with the same
character. -/
theorem editDistance_append_le (h : ∀ a, editDistance a c ≤ editDistance a b + 1)
    (s a : List Char) : editDistance a (c ++ s) ≤ editDistance a (b ++ s) + 1 := by
  induction s using List.reverseRecOn generalizing a with
  | nil => simpa only [List.append_nil] using h a
  | append_singleton s x ih =>
    rw [← List.append_assoc, ← List.append_assoc]
    induction a using List.reverseRecOn with
    | nil =>
      have hlength := h []
      simp only [editDistance_nil_left, List.length_append] at hlength ⊢
      omega
    | append_singleton a y iha =>
      have hall := ih (a ++ [y])
      have hfront := ih a
      rw [editDistance_concat, editDistance_concat]
      omega

/-- The distance does not depend on which text is edited. -/
theorem editDistance_comm (a b : List Char) : editDistance a b = editDistance b a := by
  induction a, b using texts_induction with
  | nil_left b => rw [editDistance_nil_left, editDistance_nil_right]
  | nil_right a => rw [editDistance_nil_left, editDistance_nil_right]
  | concat a b c d hdelete hinsert hboth =>
    rw [editDistance_concat, editDistance_concat, hdelete, hinsert, hboth, Nat.min_comm (_ + 1)]
    simp only [eq_comm]

/-- A text is at most one further away once a character is inserted at its end. -/
theorem editDistance_insert_last (a b : List Char) (d : Char) :
    editDistance a (b ++ [d]) ≤ editDistance a b + 1 := by
  induction a using List.reverseRecOn with
  | nil =>
    rw [editDistance_nil_left, editDistance_nil_left, List.length_append]
    exact Nat.le_refl _
  | append_singleton a x =>
    rw [editDistance_concat]
    omega

/-- A text is at most one further away once its last character is deleted. -/
theorem editDistance_delete_last (a b : List Char) (d : Char) :
    editDistance a b ≤ editDistance a (b ++ [d]) + 1 := by
  induction a using List.reverseRecOn with
  | nil =>
    rw [editDistance_nil_left, editDistance_nil_left, List.length_append]
    omega
  | append_singleton a x ih =>
    have hfirst : editDistance (a ++ [x]) b ≤ editDistance a b + 1 := by
      rw [editDistance_comm, editDistance_comm a]
      exact editDistance_insert_last b a x
    rw [editDistance_concat]
    split_ifs <;> omega

/-- A text is at most one further away once its last character is replaced. -/
theorem editDistance_substitute_last (a b : List Char) (c d : Char) :
    editDistance a (b ++ [d]) ≤ editDistance a (b ++ [c]) + 1 := by
  induction a using List.reverseRecOn with
  | nil =>
    rw [editDistance_nil_left, editDistance_nil_left, List.length_append, List.length_append]
    exact Nat.le_succ _
  | append_singleton a x ih =>
    rw [editDistance_concat, editDistance_concat]
    split_ifs <;> omega

/-- One edit of the second text makes the distance greater by at most one. -/
theorem editDistance_le_succ (h : Edit b c) (a : List Char) :
    editDistance a c ≤ editDistance a b + 1 := by
  cases h with
  | insertion front back x =>
    rw [List.append_cons]
    exact editDistance_append_le (fun a => editDistance_insert_last a front x) back a
  | deletion front back x =>
    rw [List.append_cons]
    exact editDistance_append_le (fun a => editDistance_delete_last a front x) back a
  | substitution front back x y =>
    rw [List.append_cons, List.append_cons front x]
    exact editDistance_append_le (fun a => editDistance_substitute_last a front x y) back a

/-- No fewer edits than the distance says lead from one text to the other. -/
theorem editDistance_le (h : Edits n a b) : editDistance a b ≤ n := by
  induction h with
  | none a => exact Nat.le_of_eq (editDistance_self a)
  | more _ last ih =>
    have hlast := editDistance_le_succ last
    exact Nat.le_trans (hlast _) (Nat.succ_le_succ ih)

/-! ## The distance is a metric -/

/-- The edit distance of two texts is the least number of insertions, deletions and substitutions of
one character that lead from the one to the other. So it does not depend on their order, is zero
only between equal texts, and a detour over a third text is never shorter. -/
theorem editDistance_isLeast (a b c : List Char) :
    IsLeast {n | Edits n a b} (editDistance a b) ∧
      editDistance a b = editDistance b a ∧
      (editDistance a b = 0 ↔ a = b) ∧
      editDistance a c ≤ editDistance a b + editDistance b c := by
  have hthere := edits_editDistance a b
  refine ⟨⟨hthere, fun n hn => editDistance_le hn⟩, editDistance_comm a b, ?_, ?_⟩
  · constructor
    · intro hzero
      rw [hzero] at hthere
      exact hthere.eq_of_zero
    · rintro rfl
      exact editDistance_self a
  · exact editDistance_le (hthere.trans (edits_editDistance b c))

end Autoplay.Recognition
