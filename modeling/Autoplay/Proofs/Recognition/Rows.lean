import Mathlib.Data.List.Induction
import Autoplay.Recognition.Similarity

/-!
# Tables filled row by row

The edit distance and the common length of two texts are computed in tables: the row of a part of
the first text holds the measure of that part against every part of the second one, and each row
follows from the one above it. Here both measures are shown to obey the recursion on the last
characters of the two texts that their tables stand for (`editDistance_concat`,
`commonLength_concat`). Nothing else about the tables is needed afterwards: statements about the
measures follow by `texts_induction`.
-/

namespace Autoplay.Recognition

/-! ## Rows of a table -/

variable {measure : List Char → List Char → Nat} {next : List Nat → Char → List Nat}

/-- The part of a row that belongs to the parts of the second text from one part on: what that part
holds is given by `q`, the characters behind it by the list. Texts inside a measure are given with
their last characters first. -/
def row (measure : List Char → List Char → Nat) (p q : List Char) : List Char → List Nat
  | [] => [measure p q]
  | d :: b => measure p q :: row measure p (d :: q) b

/-- A row starts with the measure against the part it starts from. -/
theorem row_eq_cons (p q b : List Char) :
    ∃ entries, row measure p q b = measure p q :: entries := by
  cases b with
  | nil => exact ⟨[], rfl⟩
  | cons d b => exact ⟨row measure p (d :: q) b, rfl⟩

/-- A row ends with the measure against the whole second text. -/
theorem getLastD_row (p q b : List Char) :
    (row measure p q b).getLastD 0 = measure p (b.reverse ++ q) := by
  induction b generalizing q with
  | nil => rfl
  | cons d b ih =>
    obtain ⟨entries, hentries⟩ := row_eq_cons p (d :: q) b
    have hlast := ih (d :: q)
    rw [hentries] at hlast
    rw [row, hentries, List.reverse_cons, List.append_assoc]
    exact hlast

/-- Where each row follows from the one above it, the last row is that of the whole first text. -/
theorem foldl_row {b : List Char}
    (hnext : ∀ p c, next (row measure p [] b) c = row measure (c :: p) [] b) (a p : List Char) :
    a.foldl next (row measure p [] b) = row measure (a.reverse ++ p) [] b := by
  induction a generalizing p with
  | nil => rfl
  | cons c a ih =>
    rw [List.foldl_cons, hnext, ih, List.reverse_cons, List.append_assoc]
    rfl

/-- The entries behind the first one of a row come out as they should where each of them is computed
from its three neighbours: the entry before it and the two above them. -/
theorem entries_row (c : Char) (cell : Char → Nat → Nat → Nat → Nat)
    (entries : Nat → List Char → List Nat → List Nat)
    (hnil : ∀ left above, entries left [] above = [])
    (hcons : ∀ left d b diagonal above rest, entries left (d :: b) (diagonal :: above :: rest) =
      cell d left diagonal above :: entries (cell d left diagonal above) b (above :: rest))
    (hcell : ∀ p q d, measure (c :: p) (d :: q) =
      cell d (measure (c :: p) q) (measure p q) (measure p (d :: q))) (p q b : List Char) :
    measure (c :: p) q :: entries (measure (c :: p) q) b (row measure p q b) =
      row measure (c :: p) q b := by
  induction b generalizing q with
  | nil => rw [row, row, hnil]
  | cons d b ih =>
    obtain ⟨rest, hrest⟩ := row_eq_cons p (d :: q) b
    have htail := ih (d :: q)
    rw [hrest, hcell] at htail
    rw [row, row, ← htail, hrest, hcons]

/-! ## The two measures -/

/-- The edit distance of two texts that are given with their last characters first. -/
def lastEdits : List Char → List Char → Nat
  | [], b => b.length
  | a, [] => a.length
  | c :: a, d :: b =>
    min (min (lastEdits a (d :: b) + 1) (lastEdits (c :: a) b + 1))
      (lastEdits a b + if c = d then 0 else 1)
termination_by a b => a.length + b.length

/-- The common length of two texts that are given with their last characters first. -/
def lastCommon : List Char → List Char → Nat
  | [], _ => 0
  | _, [] => 0
  | c :: a, d :: b =>
    if c = d then lastCommon a b + 1 else max (lastCommon a (d :: b)) (lastCommon (c :: a) b)
termination_by a b => a.length + b.length

/-- The first row of edit distances counts the characters of each part. -/
theorem range_eq_row (q b : List Char) :
    List.range' q.length (b.length + 1) = row lastEdits [] q b := by
  induction b generalizing q with
  | nil => rw [row, lastEdits]; rfl
  | cons d b ih =>
    rw [row, ← ih, List.length_cons, List.length_cons, List.range'_succ, lastEdits]

/-- The first row of common lengths is zero. -/
theorem replicate_eq_row (q b : List Char) :
    List.replicate (b.length + 1) 0 = row lastCommon [] q b := by
  induction b generalizing q with
  | nil => rw [row, lastCommon]; rfl
  | cons d b ih => rw [row, ← ih (d :: q), List.length_cons, List.replicate_succ, lastCommon]

/-- The edit distance, by the recursion on the last characters. -/
theorem editDistance_eq (a b : List Char) :
    editDistance a b = lastEdits a.reverse b.reverse := by
  have hnext (p : List Char) (c : Char) :
      editRow b (row lastEdits p [] b) c = row lastEdits (c :: p) [] b := by
    obtain ⟨entries, hentries⟩ := row_eq_cons p [] b
    have hfirst : (row lastEdits p [] b).headD 0 + 1 = lastEdits (c :: p) [] := by
      rw [hentries]
      cases p <;> simp [lastEdits]
    rw [editRow, hfirst]
    exact entries_row c
      (fun d left diagonal above =>
        min (min (above + 1) (left + 1)) (diagonal + if c = d then 0 else 1))
      (editEntries c) (fun _ _ => rfl) (fun _ _ _ _ _ _ => rfl)
      (fun p q d => by rw [lastEdits]) p [] b
  have hstart : List.range (b.length + 1) = row lastEdits [] [] b := by
    rw [List.range_eq_range']
    exact range_eq_row [] b
  rw [editDistance, hstart, foldl_row hnext, getLastD_row, List.append_nil, List.append_nil]

/-- The common length, by the recursion on the last characters. -/
theorem commonLength_eq (a b : List Char) :
    commonLength a b = lastCommon a.reverse b.reverse := by
  have hnext (p : List Char) (c : Char) :
      commonRow b (row lastCommon p [] b) c = row lastCommon (c :: p) [] b := by
    have hfirst : lastCommon (c :: p) [] = 0 := by simp [lastCommon]
    rw [commonRow, ← hfirst]
    exact entries_row c
      (fun d left diagonal above => if c = d then diagonal + 1 else max above left)
      (commonEntries c) (fun _ _ => rfl) (fun _ _ _ _ _ _ => rfl)
      (fun p q d => by rw [lastCommon]) p [] b
  rw [commonLength, replicate_eq_row [] b, foldl_row hnext, getLastD_row, List.append_nil,
    List.append_nil]

/-! ## Recursion on the last characters -/

variable (a b : List Char) (c d : Char)

/-- Every character of a text is inserted into the empty one. -/
theorem editDistance_nil_left : editDistance [] b = b.length := by
  rw [editDistance_eq, List.reverse_nil, lastEdits, List.length_reverse]

/-- Every character of a text is deleted to make it empty. -/
theorem editDistance_nil_right : editDistance a [] = a.length := by
  rw [editDistance_eq, List.reverse_nil]
  cases h : a.reverse with
  | nil => rw [lastEdits, List.reverse_eq_nil_iff.mp h]
  | cons c r => rw [lastEdits, ← h, List.length_reverse]; simp

/-- The last character of the first text is deleted, that of the second one inserted, or the one
becomes the other. -/
theorem editDistance_concat :
    editDistance (a ++ [c]) (b ++ [d]) =
      min (min (editDistance a (b ++ [d]) + 1) (editDistance (a ++ [c]) b + 1))
        (editDistance a b + if c = d then 0 else 1) := by
  simp only [editDistance_eq, List.reverse_concat]
  rw [lastEdits]

/-- The empty text has nothing in common with another one. -/
theorem commonLength_nil_left : commonLength [] b = 0 := by
  rw [commonLength_eq, List.reverse_nil, lastCommon]

/-- A text has nothing in common with the empty one. -/
theorem commonLength_nil_right : commonLength a [] = 0 := by
  rw [commonLength_eq, List.reverse_nil]
  cases a.reverse <;> simp [lastCommon]

/-- Equal last characters are in common; of different ones, one is left out. -/
theorem commonLength_concat :
    commonLength (a ++ [c]) (b ++ [d]) =
      if c = d then commonLength a b + 1
      else max (commonLength a (b ++ [d])) (commonLength (a ++ [c]) b) := by
  simp only [commonLength_eq, List.reverse_concat]
  rw [lastCommon]

/-- Induction on two texts along their last characters. -/
theorem texts_induction {P : List Char → List Char → Prop} (nil_left : ∀ b, P [] b)
    (nil_right : ∀ a, P a [])
    (concat : ∀ a b c d, P a (b ++ [d]) → P (a ++ [c]) b → P a b → P (a ++ [c]) (b ++ [d]))
    (a b : List Char) : P a b := by
  induction a using List.reverseRecOn generalizing b with
  | nil => exact nil_left b
  | append_singleton a c ih =>
    induction b using List.reverseRecOn with
    | nil => exact nil_right _
    | append_singleton b d hb => exact concat a b c d (ih _) hb (ih b)

end Autoplay.Recognition
