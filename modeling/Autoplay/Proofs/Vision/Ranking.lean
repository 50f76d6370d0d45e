import Mathlib

/-!
# The first of the best

Of the elements of a list with a score, `List.argmax` is the first one of the best: those before it
are worse, and those behind it are not better (`argmax_eq_some_iff_split`). It heads the list once
that is sorted (`head?_mergeSort`), it can be found part by part (`argmax_flatMap`), and leaving out
all elements below a threshold leaves it or nothing (`argmax_filter`).
-/

namespace Autoplay

variable {α β : Type} {f : α → ℤ} {l : List α} {a : α}

/-- The first of the best is the one that those before it are worse than, and those behind it not
better than. -/
theorem argmax_eq_some_iff_split : l.argmax f = some a ↔
    ∃ before after, l = before ++ a :: after ∧ (∀ b ∈ before, f b < f a) ∧
      ∀ b ∈ after, f b ≤ f a := by
  constructor
  · intro h
    induction l with
    | nil => cases h
    | cons b l ih =>
      have hbest : ∀ c ∈ b :: l, f c ≤ f a := fun c hc => List.le_of_mem_argmax hc h
      rw [List.argmax_cons] at h
      by_cases hfirst : b = a
      · subst hfirst
        exact ⟨[], l, rfl, fun _ hc => absurd hc List.not_mem_nil,
          fun c hc => hbest c (List.mem_cons_of_mem b hc)⟩
      · -- Then it is the first of the best of the rest, and better than the head.
        cases hrest : l.argmax f with
        | none =>
          rw [hrest] at h
          exact absurd (Option.some.inj h) hfirst
        | some c =>
          rw [hrest] at h
          dsimp only at h
          split_ifs at h with hbc
          · obtain rfl : c = a := Option.some.inj h
            obtain ⟨before, after, rfl, hbefore, hafter⟩ := ih hrest
            exact ⟨b :: before, after, rfl, List.forall_mem_cons.2 ⟨hbc, hbefore⟩, hafter⟩
          · exact absurd (Option.some.inj h) hfirst
  · rintro ⟨before, after, rfl, hbefore, hafter⟩
    induction before with
    | nil =>
      rw [List.nil_append, List.argmax_cons]
      cases hrest : after.argmax f with
      | none => rfl
      | some c => exact if_neg (not_lt_of_ge (hafter c (List.argmax_mem hrest)))
    | cons b before ih =>
      obtain ⟨hb, hbefore⟩ := List.forall_mem_cons.1 hbefore
      rw [List.cons_append, List.argmax_cons, ih hbefore]
      exact if_pos hb

/-- In a list with falling scores it is the first one. -/
theorem argmax_of_falling (h : l.Pairwise fun a b => f b ≤ f a) : l.argmax f = l.head? := by
  cases l with
  | nil => rfl
  | cons a l =>
    exact argmax_eq_some_iff_split.2
      ⟨[], l, rfl, fun _ hb => absurd hb List.not_mem_nil, fun b hb => List.rel_of_pairwise_cons h hb⟩

/-- Of the images it is the image. -/
theorem argmax_map (g : β → α) (f : α → ℤ) (l : List β) :
    (l.map g).argmax f = (l.argmax fun b => f (g b)).map g := by
  cases h : l.argmax fun b => f (g b) with
  | none =>
    rw [List.argmax_eq_none.1 h]
    rfl
  | some b =>
    obtain ⟨before, after, rfl, hbefore, hafter⟩ := argmax_eq_some_iff_split.1 h
    rw [Option.map_some, List.map_append, List.map_cons, argmax_eq_some_iff_split]
    exact ⟨_, _, rfl, List.forall_mem_map.2 hbefore, List.forall_mem_map.2 hafter⟩

/-- If some elements are left out and no better ones than those that stay, then it stays, or nothing
does. -/
theorem argmax_filter {p : α → Bool} (h : ∀ a ∈ l, ∀ b ∈ l, f a ≤ f b → p a = true → p b = true) :
    (l.filter p).argmax f = (l.argmax f).filter p := by
  cases hbest : l.argmax f with
  | none =>
    rw [List.argmax_eq_none.1 hbest]
    rfl
  | some a =>
    have hmem := List.argmax_mem hbest
    rw [Option.filter_some]
    split_ifs with ha
    · obtain ⟨before, after, rfl, hbefore, hafter⟩ := argmax_eq_some_iff_split.1 hbest
      rw [List.filter_append, List.filter_cons_of_pos ha, argmax_eq_some_iff_split]
      exact ⟨_, _, rfl, fun b hb => hbefore b (List.mem_of_mem_filter hb),
        fun b hb => hafter b (List.mem_of_mem_filter hb)⟩
    · rw [List.argmax_eq_none, List.filter_eq_nil_iff]
      exact fun b hb hpb => ha (h b hb a hmem (List.le_of_mem_argmax hb hbest) hpb)

/-- Of a list that is made part by part it is the first of the best of the parts' ones. -/
theorem argmax_flatMap (g : β → List α) (f : α → ℤ) (l : List β) :
    (l.flatMap g).argmax f = (l.filterMap fun b => (g b).argmax f).argmax f := by
  cases h : (l.filterMap fun b => (g b).argmax f).argmax f with
  | none =>
    rw [List.argmax_eq_none] at h ⊢
    rw [List.filterMap_eq_nil_iff] at h
    exact List.flatMap_eq_nil_iff.2 fun b hb => List.argmax_eq_none.1 (h b hb)
  | some a =>
    obtain ⟨before, after, hsplit, hbefore, hafter⟩ := argmax_eq_some_iff_split.1 h
    obtain ⟨front, back, rfl, rfl, hback⟩ := List.filterMap_eq_append_iff.1 hsplit
    obtain ⟨between, b, back', rfl, hnone, hb, rfl⟩ := List.filterMap_eq_cons_iff.1 hback
    obtain ⟨before', after', hpart, hbefore', hafter'⟩ := argmax_eq_some_iff_split.1 hb
    -- Elements of another part are not better than that part's best one.
    have hother {parts : List β} {c : α} (hc : c ∈ parts.flatMap g) :
        ∃ d ∈ parts.filterMap fun b => (g b).argmax f, f c ≤ f d := by
      obtain ⟨b', hb', hcb'⟩ := List.mem_flatMap.1 hc
      cases hd : (g b').argmax f with
      | none =>
        rw [List.argmax_eq_none.1 hd] at hcb'
        exact absurd hcb' List.not_mem_nil
      | some d =>
        exact ⟨d, List.mem_filterMap.2 ⟨b', hb', hd⟩, List.le_of_mem_argmax hcb' hd⟩
    have hnil : between.flatMap g = [] :=
      List.flatMap_eq_nil_iff.2 fun b' hb' => List.argmax_eq_none.1 (hnone b' hb')
    rw [argmax_eq_some_iff_split]
    refine ⟨front.flatMap g ++ before', after' ++ back'.flatMap g, ?_, fun c hc => ?_,
      fun c hc => ?_⟩
    · simp [List.flatMap_append, hnil, hpart]
    · obtain hc | hc := List.mem_append.1 hc
      · obtain ⟨d, hd, hcd⟩ := hother hc
        exact hcd.trans_lt (hbefore d hd)
      · exact hbefore' c hc
    · obtain hc | hc := List.mem_append.1 hc
      · exact hafter' c hc
      · obtain ⟨d, hd, hcd⟩ := hother hc
        exact hcd.trans (hafter d hd)

/-! ## Sorting -/

/-- Not to have a lower score is transitive. -/
theorem falling_trans (f : α → ℤ) (a b c : α) (hab : decide (f b ≤ f a) = true)
    (hbc : decide (f c ≤ f b) = true) : decide (f c ≤ f a) = true :=
  decide_eq_true ((of_decide_eq_true hbc).trans (of_decide_eq_true hab))

/-- Of two elements one has no lower score. -/
theorem falling_total (f : α → ℤ) (a b : α) :
    (decide (f b ≤ f a) || decide (f a ≤ f b)) = true := by
  simpa only [Bool.or_eq_true, decide_eq_true_eq] using le_total (f b) (f a)

/-- A list that is sorted by falling scores has falling scores. -/
theorem pairwise_falling (f : α → ℤ) (l : List α) :
    (l.mergeSort fun a b => f b ≤ f a).Pairwise fun a b => f b ≤ f a :=
  (List.pairwise_mergeSort (falling_trans f) (falling_total f) l).imp of_decide_eq_true

/-- The list that is sorted by falling scores begins with the first of the best. -/
theorem head?_mergeSort (f : α → ℤ) (l : List α) :
    (l.mergeSort fun a b => f b ≤ f a).head? = l.argmax f := by
  induction l with
  | nil => rw [List.mergeSort_nil, List.argmax_nil, List.head?_nil]
  | cons a l ih =>
    -- The sorted tail with `a` put in; what stands before `a` is better.
    obtain ⟨front, back, hcons, hsorted, hfront⟩ :=
      List.mergeSort_cons (falling_trans f) (falling_total f) a l
    have hfalling := pairwise_falling f (a :: l)
    rw [hcons] at hfalling ⊢
    rw [hsorted] at ih
    rw [List.argmax_cons, ← ih]
    cases front with
    | nil =>
      cases back with
      | nil => rfl
      | cons b back =>
        have hle := List.rel_of_pairwise_cons hfalling List.mem_cons_self
        exact (if_neg (not_lt_of_ge hle)).symm
    | cons b front =>
      have hlt : f a < f b := by simpa using hfront b List.mem_cons_self
      exact (if_pos hlt).symm

end Autoplay
