import Mathlib.Tactic.Common

/-!
# Thinning of places

Peaks and hits are thinned in the same way: taken one by one, each is left out if it is near one
that was kept before, until there are enough. Here places are of any type, and nearness is any
relation. What is kept of the places that were looked at is described by `Thinned`; each step
preserves it (`Thinned.leaveOut`, `Thinned.keep`), and so does the whole run (`Thinned.of_pick`).
Main statement: if there are fewer places than wanted, then all are kept or near one that is kept
(`covered_of_length_pick_lt`).
-/

namespace Autoplay

variable {α : Type}

/-- Takes places one by one unless they are near one kept before, until there are enough; `kept`
holds those kept before, the last one first. -/
def pick (near : α → α → Bool) (limit : ℕ) (kept : List α) : List α → List α
  | [] => kept
  | a :: rest =>
    if kept.any fun k => near k a then pick near limit kept rest
    else if limit ≤ kept.length + 1 then a :: kept
    else pick near limit (a :: kept) rest

/-- What is kept of some places, in their order: none is near an earlier one, and a place that is
not kept is near one that is and comes before it. -/
structure Thinned (near : α → α → Bool) (seen kept : List α) : Prop where
  /-- Places are kept in their order. -/
  sublist : kept.Sublist seen
  /-- No place that is kept is near an earlier one. -/
  apart : kept.Pairwise fun k a => near k a = false
  /-- The first place is kept. -/
  first : kept.head? = seen.head?
  /-- A place that is not kept is near one that is kept and comes before it. -/
  covered : ∀ a ∈ seen, a ∈ kept ∨ ∃ k ∈ kept, near k a = true ∧ [k, a].Sublist seen

namespace Thinned

variable {near : α → α → Bool} {seen kept : List α} {a : α} {limit : ℕ}

/-- Nothing is kept of nothing. -/
theorem nil (near : α → α → Bool) : Thinned near [] [] :=
  ⟨.refl _, .nil, rfl, fun _ h => absurd h List.not_mem_nil⟩

/-- One that precedes another still does with more places behind. -/
theorem covered_append (h : Thinned near seen kept) (more : List α) :
    ∀ b ∈ seen, b ∈ kept ∨ ∃ k ∈ kept, near k b = true ∧ [k, b].Sublist (seen ++ more) := by
  intro b hb
  obtain hkept | ⟨k, hk, hnear, hbefore⟩ := h.covered b hb
  · exact .inl hkept
  · exact .inr ⟨k, hk, hnear, hbefore.trans (List.sublist_append_left _ _)⟩

/-- A place is left out that is near one kept before. -/
theorem leaveOut (h : Thinned near seen kept) (hnear : ∃ k ∈ kept, near k a = true) :
    Thinned near (seen ++ [a]) kept where
  sublist := h.sublist.trans (List.sublist_append_left _ _)
  apart := h.apart
  first := by
    obtain ⟨k, hk, -⟩ := hnear
    have hmem := h.sublist.subset hk
    cases seen with
    | nil => exact absurd hmem List.not_mem_nil
    | cons b seen => exact h.first
  covered b hb := by
    obtain hb | hb := List.mem_append.1 hb
    · exact h.covered_append [a] b hb
    · obtain rfl := List.mem_singleton.1 hb
      obtain ⟨k, hk, hnear⟩ := hnear
      have hbefore : [k].Sublist seen := List.singleton_sublist.2 (h.sublist.subset hk)
      exact .inr ⟨k, hk, hnear, hbefore.append (.refl [b])⟩

/-- A place is kept that is near none kept before. -/
theorem keep (h : Thinned near seen kept) (hfar : ∀ k ∈ kept, near k a = false) :
    Thinned near (seen ++ [a]) (kept ++ [a]) where
  sublist := h.sublist.append (.refl [a])
  apart := List.pairwise_append.2
    ⟨h.apart, List.pairwise_singleton _ _, fun k hk b hb => List.mem_singleton.1 hb ▸ hfar k hk⟩
  first := by rw [List.head?_append, List.head?_append, h.first]
  covered b hb := by
    obtain hb | hb := List.mem_append.1 hb
    · obtain hkept | ⟨k, hk, hcovers⟩ := h.covered_append [a] b hb
      · exact .inl (List.mem_append_left _ hkept)
      · exact .inr ⟨k, List.mem_append_left _ hk, hcovers⟩
    · exact .inl (List.mem_append_right _ hb)

/-- Going on from what was kept before, the places that are looked at are thinned, and there are at
most as many as wanted. If there are fewer, then all places were looked at. -/
theorem pick_from (h : Thinned near seen kept.reverse) (hroom : kept.length < max 1 limit)
    (todo : List α) :
    ∃ more rest, todo = more ++ rest ∧
      Thinned near (seen ++ more) (pick near limit kept todo).reverse ∧
      (pick near limit kept todo).length ≤ max 1 limit ∧
      ((pick near limit kept todo).length < max 1 limit → rest = []) := by
  induction todo generalizing seen kept with
  | nil =>
    rw [pick]
    exact ⟨[], [], rfl, by rwa [List.append_nil], Nat.le_of_lt hroom, fun _ => rfl⟩
  | cons a todo ih =>
    rw [pick]
    split_ifs with hnear hfull
    · obtain ⟨k, hk, hka⟩ := List.any_eq_true.1 hnear
      obtain ⟨more, rest, rfl, hthinned, hcount⟩ :=
        ih (h.leaveOut ⟨k, List.mem_reverse.2 hk, hka⟩) hroom
      exact ⟨a :: more, rest, rfl, by rwa [List.append_cons], hcount⟩
    all_goals
      have hfar : ∀ k ∈ kept.reverse, near k a = false := by
        intro k hk
        simpa using mt (fun hka => List.any_eq_true.2 ⟨k, List.mem_reverse.1 hk, hka⟩) hnear
      have hkept : Thinned near (seen ++ [a]) (a :: kept).reverse := by
        rw [List.reverse_cons]
        exact h.keep hfar
    · -- There are enough now, so the places behind are not looked at.
      refine ⟨[a], todo, rfl, hkept, ?_, ?_⟩ <;> rw [List.length_cons] <;> omega
    · obtain ⟨more, rest, rfl, hthinned, hcount⟩ :=
        ih hkept (by rw [List.length_cons]; omega)
      exact ⟨a :: more, rest, rfl, by rwa [List.append_cons], hcount⟩

/-- The places that are looked at are thinned, and there are at most as many as wanted. If there are
fewer, then all places were looked at. -/
theorem of_pick (near : α → α → Bool) (limit : ℕ) (all : List α) :
    ∃ seen rest, all = seen ++ rest ∧ Thinned near seen (pick near limit [] all).reverse ∧
      (pick near limit [] all).length ≤ max 1 limit ∧
      ((pick near limit [] all).length < max 1 limit → rest = []) := by
  have hroom : ([] : List α).length < max 1 limit := by rw [List.length_nil]; omega
  simpa using (nil near).pick_from hroom all

end Thinned

section Kept

variable (near : α → α → Bool) (limit : ℕ) (all : List α)

/-- What is kept of all places is part of them, in their order. -/
theorem pick_sublist : (pick near limit [] all).reverse.Sublist all := by
  obtain ⟨seen, rest, rfl, hthinned, -⟩ := Thinned.of_pick near limit all
  exact hthinned.sublist.trans (List.sublist_append_left seen rest)

/-- No place that is kept is near an earlier one. -/
theorem pairwise_pick :
    (pick near limit [] all).reverse.Pairwise fun k a => near k a = false := by
  obtain ⟨_, _, -, hthinned, -⟩ := Thinned.of_pick near limit all
  exact hthinned.apart

/-- There are at most as many as wanted. -/
theorem length_pick_le : (pick near limit [] all).reverse.length ≤ max 1 limit := by
  obtain ⟨_, _, -, -, hcount, -⟩ := Thinned.of_pick near limit all
  rwa [List.length_reverse]

/-- The first place of all is kept. -/
theorem head?_pick : (pick near limit [] all).reverse.head? = all.head? := by
  obtain ⟨seen, rest, rfl, hthinned, -, hrest⟩ := Thinned.of_pick near limit all
  rw [hthinned.first]
  cases seen with
  | nil =>
    -- If nothing was looked at, then nothing was kept, and so there was nothing.
    have hnone := List.sublist_nil.1 hthinned.sublist
    rw [List.reverse_eq_nil_iff] at hnone
    rw [hrest (by rw [hnone, List.length_nil]; omega)]
    rfl
  | cons a seen => rfl

variable {near limit all}

/-- If there are fewer than wanted, then every place is kept itself or is near one that is kept and,
if earlier places precede in some other sense, precedes it. -/
theorem covered_of_length_pick_lt {precedes : α → α → Prop} (hall : all.Pairwise precedes)
    (hfew : (pick near limit [] all).reverse.length < max 1 limit) {a : α} (ha : a ∈ all) :
    a ∈ (pick near limit [] all).reverse ∨
      ∃ k ∈ (pick near limit [] all).reverse, near k a = true ∧ precedes k a := by
  obtain ⟨seen, rest, rfl, hthinned, -, hrest⟩ := Thinned.of_pick near limit all
  rw [List.length_reverse] at hfew
  rw [hrest hfew, List.append_nil] at ha hall hthinned ⊢
  obtain hkept | ⟨k, hk, hnear, hbefore⟩ := hthinned.covered a ha
  · exact .inl hkept
  · exact .inr ⟨k, hk, hnear, List.pairwise_iff_forall_sublist.1 hall hbefore⟩

end Kept

/-- Going on from what was kept before, of places that are apart as many are kept as there is room
for. -/
theorem pick_append_of_apart {near : α → α → Bool} {limit : ℕ} {kept todo : List α}
    (hroom : kept.length < max 1 limit)
    (hapart : (kept.reverse ++ todo).Pairwise fun k a => near k a = false) :
    (pick near limit kept todo).reverse = (kept.reverse ++ todo).take (max 1 limit) := by
  induction todo generalizing kept with
  | nil =>
    rw [pick, List.append_nil, List.take_of_length_le]
    rw [List.length_reverse]
    exact Nat.le_of_lt hroom
  | cons a todo ih =>
    have hfar : (kept.any fun k => near k a) = false := by
      rw [List.any_eq_false]
      intro k hk
      rw [(List.pairwise_append.1 hapart).2.2 k (List.mem_reverse.2 hk) a List.mem_cons_self]
      exact Bool.false_ne_true
    rw [List.append_cons, ← List.reverse_cons] at hapart ⊢
    rw [pick, hfar, if_neg Bool.false_ne_true]
    split_ifs with hfull
    · rw [List.take_left']
      rw [List.length_reverse, List.length_cons]
      omega
    · exact ih (by rw [List.length_cons]; omega) hapart

/-- Of places that are apart the first ones are kept. -/
theorem pick_of_apart {near : α → α → Bool} {all : List α} (limit : ℕ)
    (hapart : all.Pairwise fun k a => near k a = false) :
    (pick near limit [] all).reverse = all.take (max 1 limit) := by
  have hroom : ([] : List α).length < max 1 limit := by rw [List.length_nil]; omega
  exact pick_append_of_apart hroom hapart

end Autoplay
