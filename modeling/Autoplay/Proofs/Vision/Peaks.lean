import Autoplay.Proofs.Single.Bits
import Autoplay.Proofs.Vision.Ranking
import Autoplay.Proofs.Vision.Thinning
import Autoplay.Vision.Peaks

/-!
# Peaks are the best places that are apart

The peaks of a score map are the finite scores that are not below a bound, by falling score, thinned
by their distance. The order by which they are sorted tells the negative zero from the positive one;
for other numbers it is the usual order (`scoreRank_le_iff`). Main statement: the peaks are apart,
there are not too many of them, the first one is the first of the best, and unless there are enough
every place is near a peak that is not worse (`peaks_are_greedy`).
-/

namespace Autoplay

/-! ## The order of scores -/

/-- The zero below zero. -/
def IsNegativeZero (x : Float32) : Prop := x.toBits = 0x80000000

instance (x : Float32) : Decidable (IsNegativeZero x) := inferInstanceAs (Decidable (_ = _))

section Scores

variable {x y : Float32}

/-- A negative number is ranked one below its signed magnitude. -/
theorem scoreRank_eq (x : Float32) : scoreRank x =
    if x.toBits.toNat < 2 ^ 31 then signedMagnitude x else signedMagnitude x - 1 := by
  have hlt := x.toBits.toNat_lt
  unfold scoreRank signedMagnitude magnitude
  dsimp only
  split_ifs <;> omega

/-- A number with a lower rank is not greater. -/
theorem le_of_scoreRank_le (hx : x.isFinite = true) (hy : y.isFinite = true)
    (h : scoreRank x ≤ scoreRank y) : x ≤ y := by
  rw [single_le_iff hx hy]
  have hlt := y.toBits.toNat_lt
  rw [scoreRank_eq, scoreRank_eq] at h
  unfold signedMagnitude magnitude at h ⊢
  split_ifs at h ⊢ <;> omega

/-- Below a number that is not the negative zero, numbers have lower ranks. -/
theorem scoreRank_le_iff (hx : x.isFinite = true) (hy : y.isFinite = true)
    (hzero : ¬ IsNegativeZero y) : scoreRank x ≤ scoreRank y ↔ x ≤ y := by
  refine ⟨le_of_scoreRank_le hx hy, fun h => ?_⟩
  have hbits : y.toBits.toNat ≠ 2 ^ 31 := fun h => hzero (UInt32.toNat_inj.1 h)
  have hlt := y.toBits.toNat_lt
  rw [single_le_iff hx hy] at h
  rw [scoreRank_eq, scoreRank_eq]
  unfold signedMagnitude magnitude at h ⊢
  split_ifs at h ⊢ <;> omega

/-- Above a number that is not the negative zero, numbers have higher ranks. -/
theorem scoreRank_lt_iff (hx : x.isFinite = true) (hy : y.isFinite = true)
    (hzero : ¬ IsNegativeZero x) : scoreRank x < scoreRank y ↔ x < y := by
  rw [← not_le, scoreRank_le_iff hy hx hzero, single_le_iff hy hx, single_lt_iff hx hy, not_le]

end Scores

/-! ## Places -/

namespace Raster

variable {α : Type}

/-- The places of a raster are those within its sides. -/
theorem mem_places {r : Raster α} {x y : ℕ} : (x, y) ∈ r.places ↔ x < r.width ∧ y < r.height := by
  simp [places, and_comm]

/-- The places of a raster come row by row. -/
theorem pairwise_places (r : Raster α) :
    r.places.Pairwise fun a b => a.2 < b.2 ∨ a.2 = b.2 ∧ a.1 < b.1 := by
  rw [places, List.pairwise_flatMap]
  refine ⟨fun y _ => ?_, ?_⟩
  · rw [List.pairwise_map]
    exact List.pairwise_lt_range.imp fun hlt => .inr ⟨rfl, hlt⟩
  · refine List.pairwise_lt_range.imp fun hlt a ha b hb => .inl ?_
    obtain ⟨-, -, rfl⟩ := List.mem_map.1 ha
    obtain ⟨-, -, rfl⟩ := List.mem_map.1 hb
    exact hlt

/-- There are cells only within the sides. -/
theorem lt_of_at? {r : Raster α} {x y : ℕ} {a : α} (h : r.at? x y = some a) :
    x < r.width ∧ y < r.height := by
  unfold at? at h
  split at h
  · assumption
  · cases h

/-- What is found at a place is one of the cells. -/
theorem mem_cells_of_at? {r : Raster α} {x y : ℕ} {a : α} (h : r.at? x y = some a) :
    a ∈ r.cells := by
  unfold at? at h
  split at h
  · obtain rfl := Option.some.inj h
    exact Array.getElem_mem _
  · cases h

end Raster

namespace Peak

/-- A place of a score map whose score is finite and not below a bound. -/
structure IsOf (scores : ScoreMap) (least : Float32) (p : Peak) : Prop where
  /-- The score is the one of the map. -/
  at_place : scores.at? p.x p.y = some p.score
  /-- The score is finite. -/
  finite : p.score.isFinite = true
  /-- The score is not below the bound. -/
  least_le : least ≤ p.score

variable {scores : ScoreMap} {least : Float32} {limit radius : ℕ} {p q : Peak}

/-- The peak at a place, if the score there is finite and not below a bound. -/
def at? (scores : ScoreMap) (least : Float32) (place : ℕ × ℕ) : Option Peak :=
  ((scores.at? place.1 place.2).filter fun s => s.isFinite && least ≤ s).map fun s =>
    ⟨place.1, place.2, s⟩

/-- It is at this place of the map. -/
theorem at?_eq_some_iff {place : ℕ × ℕ} :
    at? scores least place = some p ↔ p.IsOf scores least ∧ p.x = place.1 ∧ p.y = place.2 := by
  unfold at?
  rw [Option.map_eq_some_iff]
  constructor
  · rintro ⟨s, hs, rfl⟩
    obtain ⟨hs, hgood⟩ := Option.filter_eq_some_iff.1 hs
    rw [Bool.and_eq_true, decide_eq_true_eq] at hgood
    exact ⟨⟨hs, hgood.1, hgood.2⟩, rfl, rfl⟩
  · rintro ⟨hp, hx, hy⟩
    refine ⟨p.score, Option.filter_eq_some_iff.2 ⟨?_, ?_⟩, ?_⟩
    · rw [← hx, ← hy]
      exact hp.at_place
    · rw [hp.finite, decide_eq_true hp.least_le]
      rfl
    · rw [← hx, ← hy]

/-- The peaks are taken from all places. -/
theorem candidates_eq (scores : ScoreMap) (least : Float32) :
    candidates scores least = scores.places.filterMap (at? scores least) := by
  unfold candidates
  refine List.filterMap_congr fun ⟨x, y⟩ _ => ?_
  unfold at?
  dsimp only
  cases scores.at? x y with
  | none => rfl
  | some s =>
    rw [Option.filter_some]
    dsimp only
    split_ifs <;> rfl

/-- These are the places from which the peaks are taken. -/
theorem mem_candidates : p ∈ candidates scores least ↔ p.IsOf scores least := by
  rw [candidates_eq, List.mem_filterMap]
  constructor
  · rintro ⟨place, -, hp⟩
    exact (at?_eq_some_iff.1 hp).1
  · intro h
    exact ⟨(p.x, p.y), Raster.mem_places.2 (Raster.lt_of_at? h.at_place),
      at?_eq_some_iff.2 ⟨h, rfl, rfl⟩⟩

/-- They come row by row. -/
theorem pairwise_candidates (scores : ScoreMap) (least : Float32) :
    (candidates scores least).Pairwise fun p q => p.y < q.y ∨ p.y = q.y ∧ p.x < q.x := by
  rw [candidates_eq]
  refine List.Pairwise.filterMap _ (fun a b hab p hp q hq => ?_) scores.pairwise_places
  obtain ⟨-, hpx, hpy⟩ := at?_eq_some_iff.1 hp
  obtain ⟨-, hqx, hqy⟩ := at?_eq_some_iff.1 hq
  rw [hpx, hpy, hqx, hqy]
  exact hab

/-- The distance of two numbers is that of integers. -/
theorem cast_apart (a b : ℕ) : ((apart a b : ℕ) : ℤ) = |(a : ℤ) - b| := by
  rw [abs_eq_max_neg, apart]
  omega

/-- Peaks are near each other that are nearer than the radius in both directions. -/
theorem near_iff : near radius p q = true ↔
    |(p.x : ℤ) - q.x| < radius ∧ |(p.y : ℤ) - q.y| < radius := by
  rw [near, Bool.and_eq_true, decide_eq_true_eq, decide_eq_true_eq, ← cast_apart, ← cast_apart,
    Nat.cast_lt, Nat.cast_lt]

/-- Peaks are thinned by their distance. -/
theorem thin_eq_pick (radius limit : ℕ) (kept todo : List Peak) :
    thin radius limit kept todo = pick (near radius) limit kept todo := by
  induction todo generalizing kept with
  | nil => rfl
  | cons p todo ih => simp only [thin, pick, ih]

/-- The peaks by falling score, before they are thinned. -/
def ranked (scores : ScoreMap) (least : Float32) : List Peak :=
  (candidates scores least).mergeSort fun p q => scoreRank q.score ≤ scoreRank p.score

/-- The peaks are what is kept of them. -/
theorem best_eq (scores : ScoreMap) (least : Float32) (limit radius : ℕ) :
    best scores least limit radius =
      (pick (near (max 1 radius)) limit [] (ranked scores least)).reverse := by
  rw [best, thin_eq_pick, ranked]

/-- The first peak is the first of the best. -/
theorem head?_best (scores : ScoreMap) (least : Float32) (limit radius : ℕ) :
    (best scores least limit radius).head? =
      (candidates scores least).argmax fun p => scoreRank p.score := by
  rw [best_eq, head?_pick]
  exact head?_mergeSort (fun p : Peak => scoreRank p.score) _

/-- The only place is the only peak. -/
theorem best_of_candidates (h : candidates scores least = [p]) :
    best scores least limit radius = [p] := by
  rw [best_eq, ranked, h, List.mergeSort_singleton]
  simp [pick]

/-- The places by falling score are those of the map. -/
theorem mem_ranked : p ∈ ranked scores least ↔ p.IsOf scores least :=
  List.mem_mergeSort.trans mem_candidates

/-- The peaks are some of them, in their order. -/
theorem best_sublist (scores : ScoreMap) (least : Float32) (limit radius : ℕ) :
    (best scores least limit radius).Sublist (ranked scores least) := by
  rw [best_eq]
  exact pick_sublist ..

/-- Of the peaks the first one is the first of the best, too. -/
theorem argmax_best (scores : ScoreMap) (least : Float32) (limit radius : ℕ) :
    ((best scores least limit radius).argmax fun p => scoreRank p.score) =
      (candidates scores least).argmax fun p => scoreRank p.score := by
  have hfalling := pairwise_falling (fun p : Peak => scoreRank p.score) (candidates scores least)
  rw [argmax_of_falling (hfalling.sublist (best_sublist scores least limit radius)), head?_best]

/-- Peaks are places of the map. -/
theorem isOf_of_mem_best (h : p ∈ best scores least limit radius) : p.IsOf scores least :=
  mem_ranked.1 ((best_sublist scores least limit radius).subset h)

/-- Of the places by falling score, an earlier one is not worse. -/
theorem pairwise_ranked (scores : ScoreMap) (least : Float32) :
    (ranked scores least).Pairwise fun p q => q.score ≤ p.score := by
  have hfalling := pairwise_falling (fun p : Peak => scoreRank p.score) (candidates scores least)
  exact hfalling.imp_of_mem fun hp hq hle =>
    le_of_scoreRank_le (mem_ranked.1 hq).finite (mem_ranked.1 hp).finite hle

/-- The first of the best places. -/
theorem first_of_best (hzero : ∀ x y s, scores.at? x y = some s → ¬ IsNegativeZero s)
    (hp : p ∈ (candidates scores least).argmax fun p => scoreRank p.score)
    (hq : q.IsOf scores least) :
    q.score ≤ p.score ∧ (p.score ≤ q.score → p.y < q.y ∨ p.y = q.y ∧ p.x ≤ q.x) := by
  obtain ⟨before, after, hsplit, hbefore, hafter⟩ := argmax_eq_some_iff_split.1 hp
  have hpof : p.IsOf scores least := mem_candidates.1 (List.argmax_mem hp)
  have hqmem := mem_candidates.2 hq
  have hbest := List.le_of_mem_argmax hqmem hp
  refine ⟨le_of_scoreRank_le hq.finite hpof.finite hbest, fun hle => ?_⟩
  have hrows := pairwise_candidates scores least
  rw [hsplit] at hqmem hrows
  obtain hmem | hmem := List.mem_append.1 hqmem
  · -- A place before it has a lower rank, so a lower score, for it is not the negative zero.
    have hrank := (scoreRank_le_iff hpof.finite hq.finite (hzero _ _ _ hq.at_place)).2 hle
    exact absurd hrank (not_le_of_gt (hbefore q hmem))
  · obtain rfl | hmem := List.mem_cons.1 hmem
    · exact .inr ⟨rfl, le_rfl⟩
    · obtain hlt | ⟨heq, hlt⟩ :=
        List.rel_of_pairwise_cons (List.pairwise_append.1 hrows).2.1 hmem
      · exact .inl hlt
      · exact .inr ⟨heq, hlt.le⟩

/-- No two peaks are near each other. -/
theorem apart_best (scores : ScoreMap) (least : Float32) (limit radius : ℕ) :
    (best scores least limit radius).Pairwise fun p q =>
      ((max 1 radius : ℕ) : ℤ) ≤ |(p.x : ℤ) - q.x| ∨ ((max 1 radius : ℕ) : ℤ) ≤ |(p.y : ℤ) - q.y| := by
  rw [best_eq]
  refine (pairwise_pick ..).imp fun hfar => ?_
  rwa [← Bool.not_eq_true, near_iff, not_and_or, not_lt, not_lt] at hfar

/-- If there are fewer peaks than wanted, then every place is near a peak that is not worse. -/
theorem covered_best (hfew : (best scores least limit radius).length < max 1 limit)
    (hq : q.IsOf scores least) :
    ∃ p ∈ best scores least limit radius,
      near (max 1 radius) p q = true ∧ q.score ≤ p.score := by
  rw [best_eq] at hfew ⊢
  obtain hkept | hcovered :=
    covered_of_length_pick_lt (pairwise_ranked scores least) hfew (mem_ranked.2 hq)
  · -- A peak is near itself.
    refine ⟨q, hkept, near_iff.2 ?_, le_of_scoreRank_le hq.finite hq.finite le_rfl⟩
    rw [sub_self, sub_self, abs_zero]
    omega
  · exact hcovered

/-- The peaks of a score map without negative zeros are places of it with finite scores that are not
below the bound. They come by falling score, any two of them are at least the radius apart in one
direction, and there are not more than wanted. The first one is the first of the best places, row by
row. And if there are fewer than wanted, then every place is near a peak that is not worse. -/
theorem peaks_are_greedy (scores : ScoreMap) (least : Float32) (limit radius : ℕ)
    (hzero : ∀ x y s, scores.at? x y = some s → ¬ IsNegativeZero s) (hlimit : 1 ≤ limit) :
    let peaks := best scores least limit radius
    let r : ℤ := max radius 1
    (∀ p ∈ peaks, p.IsOf scores least) ∧
    (peaks.Pairwise fun p q => q.score ≤ p.score) ∧
    (peaks.Pairwise fun p q => r ≤ |(p.x : ℤ) - q.x| ∨ r ≤ |(p.y : ℤ) - q.y|) ∧
    peaks.length ≤ limit ∧
    (∀ q : Peak, q.IsOf scores least → ∃ p, peaks.head? = some p ∧ q.score ≤ p.score ∧
      (p.score ≤ q.score → p.y < q.y ∨ p.y = q.y ∧ p.x ≤ q.x)) ∧
    (peaks.length < limit → ∀ q : Peak, q.IsOf scores least →
      ∃ p ∈ peaks, |(p.x : ℤ) - q.x| < r ∧ |(p.y : ℤ) - q.y| < r ∧ q.score ≤ p.score) := by
  intro peaks r
  have hr : ((max 1 radius : ℕ) : ℤ) = r := by omega
  have hmax : max 1 limit = limit := max_eq_right hlimit
  refine ⟨fun p hp => isOf_of_mem_best hp, (pairwise_ranked scores least).sublist (best_sublist ..),
    hr ▸ apart_best scores least limit radius, ?_, fun q hq => ?_, fun hfew q hq => ?_⟩
  · rw [show peaks = _ from best_eq ..]
    exact (length_pick_le ..).trans hmax.le
  · rw [show peaks.head? = _ from head?_best ..]
    cases hfirst : (candidates scores least).argmax fun p => scoreRank p.score with
    | none =>
      have hmem := mem_candidates.2 hq
      rw [List.argmax_eq_none.1 hfirst] at hmem
      exact absurd hmem List.not_mem_nil
    | some p => exact ⟨p, rfl, first_of_best hzero hfirst hq⟩
  · obtain ⟨p, hp, hnear, hle⟩ := covered_best (hmax.symm ▸ hfew) hq
    rw [near_iff, hr] at hnear
    exact ⟨p, hp, hnear.1, hnear.2, hle⟩

/-- A score map with two equal best scores, and with some that are no finite numbers. -/
def ridge : ScoreMap := ⟨4, 2, #[0.9, 0.9, 1 / 0, 0.5, 0 / 0, -1 / 0, 0.4, -0.25], rfl⟩

/-- Two places of it that are no peaks. -/
theorem isOf_ridge : IsOf ridge 0 ⟨1, 0, 0.9⟩ ∧ IsOf ridge 0 ⟨2, 1, 0.4⟩ :=
  ⟨⟨by decide +kernel, by decide +kernel, by decide +kernel⟩,
    by decide +kernel, by decide +kernel, by decide +kernel⟩

/-- Of the ridge two peaks are found where three are wanted: the first of both best scores is the
first one, and a place that is no peak is near one that is not worse. -/
theorem ridge_has_two_peaks :
    (∀ x y s, ridge.at? x y = some s → ¬ IsNegativeZero s) ∧ 1 ≤ 3 ∧
    (∃ p, (best ridge 0 3 2).head? = some p ∧ (0.9 : Float32) ≤ p.score ∧
      (p.score ≤ 0.9 → p.y < 0 ∨ p.y = 0 ∧ p.x ≤ 1)) ∧
    (best ridge 0 3 2).length < 3 ∧
    ∃ p ∈ best ridge 0 3 2, |(p.x : ℤ) - 2| < 2 ∧ |(p.y : ℤ) - 1| < 2 ∧
      (0.4 : Float32) ≤ p.score := by
  have hcells : ∀ s ∈ ridge.cells, ¬ IsNegativeZero s := by decide +kernel
  have hzero : ∀ x y s, ridge.at? x y = some s → ¬ IsNegativeZero s :=
    fun x y s hs => hcells s (Raster.mem_cells_of_at? hs)
  have hlength : (best ridge 0 3 2).length < 3 := by
    rw [best_eq, ranked, List.mergeSort_of_pairwise (by decide +kernel)]
    decide +kernel
  obtain ⟨-, -, -, -, hfirst, hcovered⟩ := peaks_are_greedy ridge 0 3 2 hzero (by decide)
  have hradius : max ((2 : ℕ) : ℤ) 1 = 2 := by decide
  have hnear := hcovered hlength _ isOf_ridge.2
  rw [hradius] at hnear
  exact ⟨hzero, by decide, hfirst ⟨1, 0, 0.9⟩ isOf_ridge.1, hlength, hnear⟩

end Peak

end Autoplay
