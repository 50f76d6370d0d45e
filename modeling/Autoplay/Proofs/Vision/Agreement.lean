import Autoplay.Proofs.Single.Sign
import Autoplay.Proofs.Vision.Hits

/-!
# The best hit is one of all hits

The best hit of a template is the first of the best of what is found at its sizes, with a strict
comparison and without a threshold; all hits are found by sorting, with the threshold and a greater
number of peaks. Where no template is shrunk, both single out the same hit: the first of the best of
all places that are not below the threshold (`head?_candidates`). Main statement:
`find_agrees_with_findAll`.
-/

namespace Autoplay

/-! ## Scores without negative zeros -/

/-- In a raster made from a function only the function's values are found. -/
theorem Raster.eq_of_at?_tabulate {α : Type} {w h x y : ℕ} {f : ℕ → ℕ → α} {a : α}
    (ha : (tabulate w h f).at? x y = some a) : f x y = a := by
  have hplace : x < w ∧ y < h := lt_of_at? ha
  rw [at?_tabulate f hplace.1 hplace.2] at ha
  exact Option.some.inj ha

namespace Correlation

/-- No score is the negative zero. -/
def NoNegativeZero (correlate : Correlation) : Prop :=
  ∀ screen template x y score, (correlate screen template).at? x y = some score →
    ¬ IsNegativeZero score

/-- A number without a negative sign is not the negative zero. -/
theorem not_isNegativeZero {x : Float32} (h : Unsigned x) : ¬ IsNegativeZero x := by
  intro hzero
  unfold Unsigned at h
  rw [show x.toBits = 0x80000000 from hzero] at h
  exact absurd h (by decide)

/-- Lightness has no negative sign. -/
theorem unsigned_light (p : GreyPicture) (x y : ℕ) : Unsigned (light p x y) := .ofUInt8 _

/-- Neither sum has a negative sign. -/
structure Sums.Unsigned (s : Sums) : Prop where
  /-- The sum of products has none. -/
  cross : Autoplay.Unsigned s.cross
  /-- The sum of squares has none. -/
  energy : Autoplay.Unsigned s.energy

/-- The empty sums have no negative sign. -/
theorem Sums.unsigned_empty : Sums.Unsigned {} := by
  have hzero : Autoplay.Unsigned 0 := by
    unfold Autoplay.Unsigned
    decide +kernel
  exact ⟨hzero, hzero⟩

variable {s : Sums}

/-- Cells of a row leave it so. -/
theorem unsigned_addRow (screen template : GreyPicture) (x y j n i : ℕ) (h : s.Unsigned) :
    (addRow screen template x y j n i s).Unsigned := by
  induction n generalizing i s with
  | zero => exact h
  | succ n ih =>
    have hscreen := unsigned_light screen (x + i) (y + j)
    have htemplate := unsigned_light template i j
    exact ih (i + 1) ⟨h.cross.add (hscreen.mul htemplate), h.energy.add (hscreen.mul hscreen)⟩

/-- Rows leave it so. -/
theorem unsigned_addRows (screen template : GreyPicture) (x y n j : ℕ) (h : s.Unsigned) :
    (addRows screen template x y n j s).Unsigned := by
  induction n generalizing j s with
  | zero => exact h
  | succ n ih => exact ih (j + 1) (unsigned_addRow screen template x y j template.width 0 h)

/-- The normalised correlation has no negative zero. -/
theorem normalized_noNegativeZero : normalized.NoNegativeZero := by
  intro screen template x y score hscore
  obtain rfl := Raster.eq_of_at?_tabulate hscore
  dsimp only
  have hsums := unsigned_addRows screen template x y template.height 0 Sums.unsigned_empty
  have henergy := (unsigned_addRows template template 0 0 template.height 0 Sums.unsigned_empty).energy
  split_ifs
  · exact not_isNegativeZero (hsums.cross.div (hsums.energy.mul henergy).sqrt)
  · exact not_isNegativeZero hsums.cross

end Correlation

/-! ## The best of the hits of one size -/

/-- A threshold leaves those places out that are below it. -/
theorem Peak.candidates_eq_filter (scores : ScoreMap) (least : Float32) :
    candidates scores least = (candidates scores (-1 / 0)).filter fun p => least ≤ p.score := by
  rw [candidates_eq, candidates_eq, List.filter_filterMap]
  refine List.filterMap_congr fun place _ => ?_
  unfold at?
  cases scores.at? place.1 place.2 with
  | none => rfl
  | some s =>
    by_cases hfinite : s.isFinite = true
    · simp [hfinite, neg_infinity_le hfinite, Option.filter_some]
    · simp [hfinite, Option.filter_some]

namespace TemplateMatch

/-- The places of a template of one size as hits. -/
def placesOf (correlate : Correlation) (screen template : GreyPicture) (least : Float32) :
    List TemplateMatch :=
  if screen.width < template.width ∨ screen.height < template.height then []
  else (Peak.candidates (correlate screen template) least).map (ofPeak template)

variable {correlate : Correlation} {v : VisionSettings} {screen template : GreyPicture}
  {least threshold : Float32} {limit : ℕ}

/-- Such a place has a finite score. -/
theorem isFinite_of_mem_placesOf {m : TemplateMatch}
    (hm : m ∈ placesOf correlate screen template least) : m.score.isFinite = true := by
  unfold placesOf at hm
  split_ifs at hm
  · cases hm
  · obtain ⟨p, hp, rfl⟩ := List.mem_map.1 hm
    exact (Peak.mem_candidates.1 hp).finite

/-- A threshold leaves those places out that are below it. -/
theorem placesOf_eq_filter (correlate : Correlation) (screen template : GreyPicture)
    (threshold : Float32) : placesOf correlate screen template threshold =
      (placesOf correlate screen template (-1 / 0)).filter fun m => threshold ≤ m.score := by
  unfold placesOf
  split_ifs
  · rfl
  · rw [Peak.candidates_eq_filter, List.filter_map]
    rfl

/-- Without shrinking, the first of the best hits of a search is the first of the best places. -/
theorem argmax_search (hfactor : v.factorFor template = 1) :
    ((search correlate v screen template least limit).argmax fun m => scoreRank m.score) =
      (placesOf correlate screen template least).argmax fun m => scoreRank m.score := by
  unfold placesOf
  split_ifs with hsize
  · rw [search, if_pos hsize]
  · rw [not_or, not_lt, not_lt] at hsize
    rw [search_of_factor hfactor hsize.1 hsize.2, argmax_map, argmax_map]
    exact congrArg _ (Peak.argmax_best ..)

/-- Without shrinking, what a search finds has no negative zero as its score. -/
theorem not_isNegativeZero_of_mem_search (hzero : correlate.NoNegativeZero)
    (hfactor : v.factorFor template = 1) {m : TemplateMatch}
    (hm : m ∈ search correlate v screen template least limit) : ¬ IsNegativeZero m.score := by
  by_cases hsize : screen.width < template.width ∨ screen.height < template.height
  · rw [search, if_pos hsize] at hm
    cases hm
  · rw [not_or, not_lt, not_lt] at hsize
    rw [search_of_factor hfactor hsize.1 hsize.2] at hm
    obtain ⟨p, hp, rfl⟩ := List.mem_map.1 hm
    exact hzero _ _ _ _ _ (Peak.isOf_of_mem_best hp).at_place

/-! ## The best of the hits of all sizes -/

/-- The best hit so far ends as the first of the best. -/
theorem foldl_better {l : List TemplateMatch}
    (h : ∀ m ∈ l, m.score.isFinite = true ∧ ¬ IsNegativeZero m.score) :
    l.foldl better none = l.argmax fun m => scoreRank m.score := by
  induction l using List.reverseRecOn with
  | nil => rfl
  | append_singleton l m ih =>
    rw [List.foldl_append, List.foldl_cons, List.foldl_nil, List.argmax_concat,
      ih fun m hm => h m (List.mem_append_left _ hm)]
    cases hbest : l.argmax fun m => scoreRank m.score with
    | none => rfl
    | some b =>
      have hb := h b (List.mem_append_left _ (List.argmax_mem hbest))
      have hm := h m (List.mem_append_right _ (List.mem_singleton_self m))
      simp only [better, scoreRank_lt_iff hb.1 hm.1 hb.2]

section Sizes

variable (hfull : ∀ t ∈ v.scaledTemplates template, v.factorFor t = 1)

include hfull

/-- Without shrinking, the first of the best hits of all sizes is the first of the best places. -/
theorem argmax_searches :
    (((v.scaledTemplates template).flatMap fun t =>
        search correlate v screen t least limit).argmax fun m => scoreRank m.score) =
      ((v.scaledTemplates template).flatMap fun t =>
        placesOf correlate screen t least).argmax fun m => scoreRank m.score := by
  rw [argmax_flatMap, argmax_flatMap]
  congr 1
  exact List.filterMap_congr fun t ht => argmax_search (hfull t ht)

/-- The best hit is the first of the best places. -/
theorem bestOf_eq (hzero : correlate.NoNegativeZero) :
    bestOf correlate v screen template = ((v.scaledTemplates template).flatMap fun t =>
      placesOf correlate screen t (-1 / 0)).argmax fun m => scoreRank m.score := by
  unfold bestOf
  rw [← List.foldl_flatMap, foldl_better, argmax_searches hfull]
  intro m hm
  obtain ⟨t, ht, hmt⟩ := List.mem_flatMap.1 hm
  exact ⟨(search_spec hmt).1.finite, not_isNegativeZero_of_mem_search hzero (hfull t ht) hmt⟩

/-- The first of all hits is the best hit, unless that is below the threshold. -/
theorem head?_candidates (hzero : correlate.NoNegativeZero) (threshold : Float32) :
    (candidates correlate v screen template threshold).head? =
      (bestOf correlate v screen template).filter fun m => threshold ≤ m.score := by
  have hhead := head?_mergeSort (fun m : TemplateMatch => scoreRank m.score)
    ((v.scaledTemplates template).flatMap fun t =>
      search correlate v screen t threshold (v.hitLimit * 4).toNat)
  have hfinite {m : TemplateMatch} (hm : m ∈ (v.scaledTemplates template).flatMap fun t =>
      placesOf correlate screen t (-1 / 0)) : m.score.isFinite = true := by
    obtain ⟨t, -, hmt⟩ := List.mem_flatMap.1 hm
    exact isFinite_of_mem_placesOf hmt
  have hfilter : ((v.scaledTemplates template).flatMap fun t =>
      placesOf correlate screen t threshold) = ((v.scaledTemplates template).flatMap fun t =>
        placesOf correlate screen t (-1 / 0)).filter fun m => threshold ≤ m.score := by
    rw [List.filter_flatMap]
    exact congrArg (List.flatMap · _) (funext fun t => placesOf_eq_filter correlate screen t threshold)
  rw [bestOf_eq hfull hzero, candidates, hhead, argmax_searches hfull, hfilter, argmax_filter]
  intro a ha b hb hle hleast
  exact decide_eq_true (single_le_trans (of_decide_eq_true hleast)
    (le_of_scoreRank_le (hfinite ha) (hfinite hb) hle))

end Sizes

/-- The first of all hits is kept, so its centre is found. -/
theorem center_mem_findAll {m : TemplateMatch}
    (hm : (candidates correlate v screen template threshold).head? = some m) :
    m.center ∈ findAll correlate v screen template threshold := by
  have hkept : (kept correlate v screen template threshold).head? = some m :=
    (head?_pick ..).trans hm
  exact (findAll_perm ..).mem_iff.2 (List.mem_map_of_mem (List.mem_of_head? hkept))

/-- No hit is better than the first of all. -/
theorem score_le_head? {c m : TemplateMatch}
    (hm : (candidates correlate v screen template threshold).head? = some m)
    (hc : IsCandidate correlate v screen template threshold c) : c.score ≤ m.score := by
  obtain ⟨rest, hall⟩ := List.head?_eq_some_iff.1 hm
  have hmem := mem_candidates.2 hc
  have hfalling := pairwise_candidates correlate v screen template threshold
  rw [hall] at hmem hfalling
  obtain rfl | hrest := List.mem_cons.1 hmem
  · exact le_of_scoreRank_le hc.spec.1 hc.spec.1 le_rfl
  · exact List.rel_of_pairwise_cons hfalling hrest

/-- Without hits nothing is found. -/
theorem findAll_of_no_hits (h : (candidates correlate v screen template threshold).head? = none) :
    findAll correlate v screen template threshold = [] := by
  have hsub := kept_sublist correlate v screen template threshold
  rw [List.head?_eq_none_iff.1 h, List.sublist_nil] at hsub
  rw [findAll_eq, hsub, List.map_nil, List.mergeSort_nil]

/-- If the template is not shrunk at any of its sizes, since the settings or the lengths of its
sides rule that out, then a best hit is found just if any hits are found, that is, if there are any.
What is found as the best hit is one of all that are found: the centre of a hit with the best score.
-/
theorem find_agrees_with_findAll (correlate : Correlation) (hzero : correlate.NoNegativeZero)
    (v : VisionSettings) (screen template : GreyPicture) (threshold : Float32)
    (hfull : ∀ t ∈ v.scaledTemplates template,
      v.coarseFactor.toNat ≤ 1 ∨ min t.width t.height < 16) :
    ((find correlate v screen template threshold).isSome = true ↔
      findAll correlate v screen template threshold ≠ []) ∧
    (findAll correlate v screen template threshold ≠ [] ↔
      ∃ c, IsCandidate correlate v screen template threshold c) ∧
    ∀ p, find correlate v screen template threshold = some p →
      p ∈ findAll correlate v screen template threshold ∧
      ∃ c, IsCandidate correlate v screen template threshold c ∧ c.center = p ∧
        ∀ d, IsCandidate correlate v screen template threshold d → d.score ≤ c.score := by
  have hfactor : ∀ t ∈ v.scaledTemplates template, v.factorFor t = 1 := fun t ht =>
    VisionSettings.factorFor_eq_one_iff.2 (hfull t ht)
  unfold find
  rw [← head?_candidates hfactor hzero]
  cases hfirst : (candidates correlate v screen template threshold).head? with
  | none =>
    have hnil := findAll_of_no_hits hfirst
    have hnone : ¬ ∃ c, IsCandidate correlate v screen template threshold c := by
      rintro ⟨c, hc⟩
      have hmem := mem_candidates.2 hc
      rw [List.head?_eq_none_iff.1 hfirst] at hmem
      exact List.not_mem_nil hmem
    exact ⟨iff_of_false Bool.false_ne_true (not_not_intro hnil),
      iff_of_false (not_not_intro hnil) hnone, fun p hp => nomatch hp⟩
  | some m =>
    have hmem := center_mem_findAll hfirst
    have hm := mem_candidates.1 (List.mem_of_head? hfirst)
    refine ⟨iff_of_true rfl (List.ne_nil_of_mem hmem),
      iff_of_true (List.ne_nil_of_mem hmem) ⟨m, hm⟩, fun p hp => ?_⟩
    obtain rfl := Option.some.inj hp
    exact ⟨hmem, m, hm, rfl, fun d hd => score_le_head? hfirst hd⟩

/-- The bulb is found on the lamp, and what is found is one of all its hits. -/
theorem bulb_is_among_all :
    Correlation.normalized.NoNegativeZero ∧
    (∀ t ∈ (twice 20).scaledTemplates bulb,
      (twice 20).coarseFactor.toNat ≤ 1 ∨ min t.width t.height < 16) ∧
    (∃ c, IsCandidate Correlation.normalized (twice 20) lamp bulb 0.9 c) ∧
    ∃ p, find Correlation.normalized (twice 20) lamp bulb 0.9 = some p ∧
      p ∈ findAll Correlation.normalized (twice 20) lamp bulb 0.9 := by
  have hzero := Correlation.normalized_noNegativeZero
  have hfull : ∀ t ∈ (twice 20).scaledTemplates bulb,
      (twice 20).coarseFactor.toNat ≤ 1 ∨ min t.width t.height < 16 := by
    rw [scaledTemplates_twice]
    exact fun t ht => .inr (by simp_all [bulb, Raster.tabulate])
  obtain ⟨hiff, hany, hamong⟩ :=
    find_agrees_with_findAll Correlation.normalized hzero (twice 20) lamp bulb 0.9 hfull
  obtain ⟨c, -, hcandidates⟩ := candidates_lamp 20
  have hc : IsCandidate Correlation.normalized (twice 20) lamp bulb 0.9 c := by
    rw [← mem_candidates, hcandidates]
    exact List.mem_cons_self
  obtain ⟨p, hp⟩ := Option.isSome_iff_exists.1 (hiff.2 (hany.2 ⟨c, hc⟩))
  exact ⟨hzero, hfull, ⟨c, hc⟩, p, hp, (hamong p hp).1⟩

end TemplateMatch

end Autoplay
