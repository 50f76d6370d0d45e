import Autoplay.Proofs.Vision.Windows

/-!
# Hits are thinned by their centres

The hits of a template at all its sizes are taken by falling score and thinned by the distance of
their centres. A radius of `2 ^ 31` or more is taken for a negative number, which no distance is
below, so that nothing is thinned then (`nearAny_iff`). Main statement: what is found comes in
reading order, there is not too much of it, and with a smaller radius it is apart and misses no hit
(`hits_are_thinned`).
-/

namespace Autoplay

/-- Two places are less than some cells apart in both directions. -/
def Point.Close (r : ℤ) (p q : Point) : Prop :=
  |p.x.toInt - q.x.toInt| < r ∧ |p.y.toInt - q.y.toInt| < r

/-- Closeness is symmetric. -/
theorem Point.Close.symm {r : ℤ} {p q : Point} (h : p.Close r q) : q.Close r p := by
  unfold Close
  rw [abs_sub_comm, abs_sub_comm q.y.toInt]
  exact h

/-- At least one hit is wanted. -/
theorem VisionSettings.max_hitLimit (v : VisionSettings) :
    max 1 v.hitLimit.toNat = max v.maxMatches.toNat 1 := by
  have hmax : v.hitLimit = if 1 ≤ v.maxMatches then v.maxMatches else 1 := rfl
  have hone : (1 : UInt64).toNat = 1 := rfl
  rw [hmax]
  split_ifs with h <;> rw [UInt64.le_iff_toNat_le] at h <;> omega

namespace TemplateMatch

/-! ## Distances -/

section Distances

variable {a b : Int32} {radius : UInt32}

/-- The distance of two coordinates is that of the numbers unless it is too large. -/
theorem toInt_apart (h : |a.toInt - b.toInt| < 2 ^ 31) :
    (apart a b).toInt = |a.toInt - b.toInt| := by
  obtain ⟨hlow, hhigh⟩ := abs_lt.1 h
  have hsub : (a - b).toInt = a.toInt - b.toInt := by
    rw [Int32.toInt_sub, Int.bmod_eq_of_le] <;> omega
  have hmin : (a - b).toBitVec ≠ BitVec.intMin 32 := by
    intro hmin
    have hint : (a - b).toInt = -2 ^ 31 := congrArg BitVec.toInt hmin
    omega
  calc (apart a b).toInt = (a - b).toBitVec.abs.toInt := by rw [← Int32.toBitVec_abs]; rfl
    _ = ((a - b).toInt.natAbs : ℤ) := BitVec.toInt_abs_eq_natAbs_of_ne_intMin hmin
    _ = |a.toInt - b.toInt| := by rw [hsub, Int.natCast_natAbs]

/-- A radius that is too large is negative as a distance. -/
theorem toInt_radius_neg (h : 2 ^ 31 ≤ radius.toNat) : (Int32.ofNat radius.toNat).toInt < 0 := by
  have hlt := radius.toNat_lt
  rw [Int32.toInt_ofNat', show Int32.size = 2 ^ 32 from rfl, Int.bmod_eq_emod]
  split_ifs <;> omega

/-- A distance that is not too large counts as smaller than the radius if it is smaller and the
radius is not too large. -/
theorem apart_lt_iff (h : |a.toInt - b.toInt| < 2 ^ 31) :
    apart a b < Int32.ofNat radius.toNat ↔
      radius.toNat < 2 ^ 31 ∧ |a.toInt - b.toInt| < radius.toNat := by
  rw [Int32.lt_iff_toInt_lt, toInt_apart h]
  by_cases hradius : radius.toNat < 2 ^ 31
  · rw [Int32.toInt_ofNat_of_lt hradius, and_iff_right hradius]
  · have hneg := toInt_radius_neg (not_lt.1 hradius)
    have hnonneg := abs_nonneg (a.toInt - b.toInt)
    exact iff_of_false (not_lt.2 (hneg.le.trans hnonneg)) fun hand => hradius hand.1

/-- A place counts as near another one if both are closer than the radius and the radius is not too
large, provided that the distance is not too large. -/
theorem nearAny_iff {p o : Point} (h : p.Close (2 ^ 31) o) :
    nearAny radius p [o] = true ↔ radius.toNat < 2 ^ 31 ∧ p.Close radius.toNat o := by
  unfold nearAny
  rw [List.any_cons, List.any_nil, Bool.or_false, Bool.and_eq_true, decide_eq_true_eq,
    decide_eq_true_eq, apart_lt_iff h.1, apart_lt_iff h.2, ← and_and_left]
  rfl

end Distances

/-! ## Hits -/

/-- Whether a hit is left out for another one. -/
def hitNear (radius : UInt32) (h m : TemplateMatch) : Bool := nearAny radius m.center [h.center]

/-- Hits are thinned by the distance of their centres. -/
theorem thin_eq_pick (radius : UInt32) (limit : ℕ) (kept todo : List TemplateMatch) :
    thin radius limit (kept.map center) todo =
      (pick (hitNear radius) limit kept todo).map center := by
  induction todo generalizing kept with
  | nil => rfl
  | cons m todo ih =>
    have hany : nearAny radius m.center (kept.map center) =
        kept.any fun k => hitNear radius k m := by
      simp [nearAny, hitNear, Function.comp_def]
    simp only [thin, pick, hany, List.length_map, ← List.map_cons, ih]
    split_ifs <;> rfl

section Found

variable (correlate : Correlation) (v : VisionSettings) (screen template : GreyPicture)
  (threshold : Float32)

/-- A hit of the template at one of its sizes. -/
def IsCandidate (c : TemplateMatch) : Prop :=
  ∃ t ∈ v.scaledTemplates template, c ∈ search correlate v screen t threshold (v.hitLimit * 4).toNat

/-- The hits that are kept, by falling score. -/
def kept : List TemplateMatch :=
  (pick (hitNear v.dedupeRadius) v.hitLimit.toNat []
    (candidates correlate v screen template threshold)).reverse

/-- What is found are their centres. -/
theorem findAll_eq : findAll correlate v screen template threshold =
    ((kept correlate v screen template threshold).map center).mergeSort readingOrder := by
  unfold findAll kept
  rw [List.map_reverse, ← thin_eq_pick]
  rfl

variable {correlate v screen template threshold}

/-- The hits by falling score are those of all sizes. -/
theorem mem_candidates {c : TemplateMatch} :
    c ∈ candidates correlate v screen template threshold ↔
      IsCandidate correlate v screen template threshold c := by
  unfold candidates
  rw [List.mem_mergeSort, List.mem_flatMap]
  rfl

/-- Such a hit has a finite score that is not below the threshold, and it lies on the screen. -/
theorem IsCandidate.spec {c : TemplateMatch}
    (h : IsCandidate correlate v screen template threshold c) :
    c.score.isFinite = true ∧ threshold ≤ c.score ∧ (correlate.Sized → c.LiesOn screen) := by
  obtain ⟨t, -, ht⟩ := h
  obtain ⟨hhit, hlies⟩ := search_spec ht
  exact ⟨hhit.finite, hhit.least_le, hlies⟩

/-- On a screen that is not too large the distance of two hits is not too large. -/
theorem IsCandidate.close {c d : TemplateMatch} (hsized : correlate.Sized)
    (hw : screen.width < 2 ^ 31) (hh : screen.height < 2 ^ 31)
    (hc : IsCandidate correlate v screen template threshold c)
    (hd : IsCandidate correlate v screen template threshold d) :
    c.center.Close (2 ^ 31) d.center := by
  obtain ⟨-, -, hlies⟩ := hc.spec
  obtain ⟨-, -, hlies'⟩ := hd.spec
  obtain ⟨hx, hy⟩ := toInt_center (hlies hsized) hw hh
  obtain ⟨hx', hy'⟩ := toInt_center (hlies' hsized) hw hh
  have hside := hlies hsized
  have hside' := hlies' hsized
  unfold LiesOn at hside hside'
  unfold Point.Close
  rw [hx, hy, hx', hy', abs_lt, abs_lt]
  omega

/-- The hits come by falling score. -/
theorem pairwise_candidates (correlate : Correlation) (v : VisionSettings)
    (screen template : GreyPicture) (threshold : Float32) :
    (candidates correlate v screen template threshold).Pairwise fun c d => d.score ≤ c.score := by
  have hfalling := pairwise_falling (fun c : TemplateMatch => scoreRank c.score)
    ((v.scaledTemplates template).flatMap fun t =>
      search correlate v screen t threshold (v.hitLimit * 4).toNat)
  exact hfalling.imp_of_mem fun hc hd hle =>
    le_of_scoreRank_le (mem_candidates.1 hd).spec.1 (mem_candidates.1 hc).spec.1 hle

/-! ## Reading order -/

/-- Reading order compares rows first and columns then. -/
theorem readingOrder_iff {p q : Point} : readingOrder p q = true ↔
    p.y.toInt < q.y.toInt ∨ p.y.toInt = q.y.toInt ∧ p.x.toInt ≤ q.x.toInt := by
  unfold readingOrder
  rw [Bool.or_eq_true, Bool.and_eq_true, decide_eq_true_eq, decide_eq_true_eq, beq_iff_eq,
    Int32.lt_iff_toInt_lt, Int32.le_iff_toInt_le, Int32.toInt_inj]

/-- What is found comes in reading order. -/
theorem pairwise_findAll (correlate : Correlation) (v : VisionSettings)
    (screen template : GreyPicture) (threshold : Float32) :
    (findAll correlate v screen template threshold).Pairwise fun p q =>
      p.y.toInt < q.y.toInt ∨ p.y.toInt = q.y.toInt ∧ p.x.toInt ≤ q.x.toInt := by
  rw [findAll_eq]
  refine (List.pairwise_mergeSort (fun p q s hpq hqs => ?_) (fun p q => ?_) _).imp
    readingOrder_iff.1
  · rw [readingOrder_iff] at hpq hqs ⊢
    omega
  · rw [Bool.or_eq_true, readingOrder_iff, readingOrder_iff]
    omega

/-- What is found are the centres of the hits that are kept. -/
theorem findAll_perm (correlate : Correlation) (v : VisionSettings)
    (screen template : GreyPicture) (threshold : Float32) :
    (findAll correlate v screen template threshold).Perm
      ((kept correlate v screen template threshold).map center) := by
  rw [findAll_eq]
  exact List.mergeSort_perm _ _

/-- The hits that are kept are some of them, in their order. -/
theorem kept_sublist (correlate : Correlation) (v : VisionSettings)
    (screen template : GreyPicture) (threshold : Float32) :
    (kept correlate v screen template threshold).Sublist
      (candidates correlate v screen template threshold) :=
  pick_sublist ..

/-- There are not more places than wanted. -/
theorem length_findAll_le :
    (findAll correlate v screen template threshold).length ≤ max v.maxMatches.toNat 1 := by
  rw [(findAll_perm ..).length_eq, List.length_map, ← v.max_hitLimit]
  exact length_pick_le ..

/-- A place that is found is the centre of a hit. -/
theorem exists_of_mem_findAll {p : Point}
    (hp : p ∈ findAll correlate v screen template threshold) :
    ∃ c, IsCandidate correlate v screen template threshold c ∧ c.center = p := by
  rw [(findAll_perm ..).mem_iff, List.mem_map] at hp
  obtain ⟨c, hc, rfl⟩ := hp
  exact ⟨c, mem_candidates.1 ((kept_sublist ..).subset hc), rfl⟩

/-- No two of the places that are found are close if the radius is not too large. -/
theorem apart_findAll (hradius : v.dedupeRadius.toNat < 2 ^ 31) :
    (findAll correlate v screen template threshold).Pairwise fun p q =>
      ¬ p.Close v.dedupeRadius.toNat q := by
  rw [(findAll_perm ..).pairwise_iff fun hpq hqp => hpq hqp.symm, List.pairwise_map]
  refine (pairwise_pick ..).imp fun {k a} hfar hclose => ?_
  -- Places that are closer than the radius are close enough for their distance to be taken.
  have hlt : (v.dedupeRadius.toNat : ℤ) < 2 ^ 31 := Int.ofNat_lt.2 hradius
  have hnear := (nearAny_iff ⟨hclose.symm.1.trans hlt, hclose.symm.2.trans hlt⟩).2
    ⟨hradius, hclose.symm⟩
  exact Bool.false_ne_true (hfar.symm.trans hnear)

/-- If fewer places are found than wanted, then every hit is found itself or is close to one that is
found and not worse. -/
theorem covered_findAll (hsized : correlate.Sized) (hw : screen.width < 2 ^ 31)
    (hh : screen.height < 2 ^ 31) {c : TemplateMatch}
    (hfew : (findAll correlate v screen template threshold).length < max v.maxMatches.toNat 1)
    (hc : IsCandidate correlate v screen template threshold c) :
    c.center ∈ findAll correlate v screen template threshold ∨
      ∃ d, IsCandidate correlate v screen template threshold d ∧
        d.center ∈ findAll correlate v screen template threshold ∧ c.score ≤ d.score ∧
        c.center.Close v.dedupeRadius.toNat d.center := by
  rw [(findAll_perm ..).length_eq, List.length_map, ← v.max_hitLimit] at hfew
  have hmem {d : TemplateMatch} (hd : d ∈ kept correlate v screen template threshold) :
      d.center ∈ findAll correlate v screen template threshold :=
    (findAll_perm ..).mem_iff.2 (List.mem_map_of_mem hd)
  obtain hkept | ⟨d, hd, hnear, hle⟩ :=
    covered_of_length_pick_lt (pairwise_candidates ..) hfew (mem_candidates.2 hc)
  · exact .inl (hmem hkept)
  · have hcandidate := mem_candidates.1 ((kept_sublist ..).subset hd)
    have hclose := hc.close hsized hw hh hcandidate
    exact .inr ⟨d, hcandidate, hmem hd, hle, ((nearAny_iff hclose).1 hnear).2⟩

/-- If the radius is too large, then the best hits are kept, whether they are close or not. -/
theorem kept_eq_take (hsized : correlate.Sized) (hw : screen.width < 2 ^ 31)
    (hh : screen.height < 2 ^ 31) (hradius : 2 ^ 31 ≤ v.dedupeRadius.toNat) :
    kept correlate v screen template threshold =
      (candidates correlate v screen template threshold).take (max v.maxMatches.toNat 1) := by
  unfold kept
  rw [pick_of_apart, v.max_hitLimit]
  refine List.Pairwise.imp_of_mem (fun hc hd _ => ?_) (List.pairwise_of_forall fun _ _ => trivial)
  have hclose := (mem_candidates.1 hd).close hsized hw hh (mem_candidates.1 hc)
  rw [← Bool.not_eq_true]
  exact fun hnear => hradius.not_gt ((nearAny_iff hclose).1 hnear).1

end Found

/-- What is found for a template are centres of its hits at all sizes, in reading order, and not
more than wanted. If the radius is less than `2 ^ 31`, then no two of them are close, so that the
order is strict unless the radius is zero. On a screen whose sides are less than `2 ^ 31`: if there
are fewer than wanted, then every hit is found itself or is close to one that is found and not
worse. But if the radius is `2 ^ 31` or more, then the best hits are found, however close they are.
-/
theorem hits_are_thinned (correlate : Correlation) (v : VisionSettings)
    (screen template : GreyPicture) (threshold : Float32) :
    let found := findAll correlate v screen template threshold
    let m := max v.maxMatches.toNat 1
    let r : ℤ := v.dedupeRadius.toNat
    found.length ≤ m ∧
    (∀ p ∈ found, ∃ c, IsCandidate correlate v screen template threshold c ∧
      threshold ≤ c.score ∧ c.center = p) ∧
    (found.Pairwise fun p q =>
      p.y.toInt < q.y.toInt ∨ p.y.toInt = q.y.toInt ∧ p.x.toInt ≤ q.x.toInt) ∧
    (r < 2 ^ 31 →
      (found.Pairwise fun p q => r ≤ |p.x.toInt - q.x.toInt| ∨ r ≤ |p.y.toInt - q.y.toInt|) ∧
      (1 ≤ r → found.Pairwise fun p q =>
        p.y.toInt < q.y.toInt ∨ p.y.toInt = q.y.toInt ∧ p.x.toInt < q.x.toInt)) ∧
    (correlate.Sized → screen.width < 2 ^ 31 → screen.height < 2 ^ 31 →
      (found.length < m → ∀ c, IsCandidate correlate v screen template threshold c →
        c.center ∈ found ∨ ∃ d, IsCandidate correlate v screen template threshold d ∧
          d.center ∈ found ∧ c.score ≤ d.score ∧ c.center.Close r d.center) ∧
      (2 ^ 31 ≤ r → found.Perm
        (((candidates correlate v screen template threshold).take m).map center))) := by
  intro found m r
  have horder := pairwise_findAll correlate v screen template threshold
  refine ⟨length_findAll_le, fun p hp => ?_, horder, fun hradius => ?_,
    fun hsized hw hh => ⟨fun hfew c hc => covered_findAll hsized hw hh hfew hc, fun hradius => ?_⟩⟩
  · obtain ⟨c, hc, hcenter⟩ := exists_of_mem_findAll hp
    exact ⟨c, hc, hc.spec.2.1, hcenter⟩
  · have hapart : found.Pairwise fun p q => ¬ p.Close r q := apart_findAll (Int.ofNat_lt.1 hradius)
    simp only [Point.Close, not_and_or, not_lt] at hapart
    refine ⟨hapart, fun hpos => List.Pairwise.imp₂ (fun p q hfar hle => ?_) hapart horder⟩
    rw [le_abs, le_abs] at hfar
    omega
  · have hperm := findAll_perm correlate v screen template threshold
    rwa [kept_eq_take hsized hw hh (Int.ofNat_le.1 hradius)] at hperm

/-- Settings by which a template is tried at its full size twice. -/
def twice (radius : UInt32) : VisionSettings := { scales := [1, 1], dedupeRadius := radius }

/-- The bulb is the same both times. -/
theorem scaledTemplates_twice (radius : UInt32) :
    (twice radius).scaledTemplates bulb = [bulb, bulb] := by
  have hscales : ([1, 1] : List Float32).filter (fun s => 0 < s) = [1, 1] := by decide +kernel
  have hsizes : (twice radius).sizes = [1, 1] := by
    unfold VisionSettings.sizes twice
    rw [hscales]
  have hfull : VisionSettings.scaled? bulb 1 = some bulb := if_pos (by decide +kernel)
  unfold VisionSettings.scaledTemplates
  rw [hsizes, List.filterMap_cons_some hfull, List.filterMap_cons_some hfull, List.filterMap_nil]

/-- It fits the lamp at the same place both times. -/
theorem candidates_lamp (radius : UInt32) : ∃ c : TemplateMatch, c.center = ⟨2, 1⟩ ∧
    candidates Correlation.normalized (twice radius) lamp bulb 0.9 = [c, c] := by
  obtain ⟨c, -, hcenter, hsearch⟩ := search_lamp (twice radius) ((twice radius).hitLimit * 4).toNat
  refine ⟨c, hcenter, ?_⟩
  unfold candidates
  rw [scaledTemplates_twice, List.flatMap_cons, List.flatMap_cons, hsearch]
  exact List.mergeSort_of_pairwise (by simp)

/-- With a smaller radius the bulb is found once, for its second hit is close to the first. With one
that is too large it is found twice. -/
theorem bulb_is_thinned :
    ((20 : ℤ) < 2 ^ 31 ∧ (1 : ℤ) ≤ 20 ∧ (2 ^ 31 : ℤ) ≤ 0x80000000) ∧
    (Correlation.normalized.Sized ∧ lamp.width < 2 ^ 31 ∧ lamp.height < 2 ^ 31) ∧
    ((findAll Correlation.normalized (twice 20) lamp bulb 0.9).Pairwise fun p q =>
      p.y.toInt < q.y.toInt ∨ p.y.toInt = q.y.toInt ∧ p.x.toInt < q.x.toInt) ∧
    (findAll Correlation.normalized (twice 20) lamp bulb 0.9).length < 50 ∧
    (∃ c, IsCandidate Correlation.normalized (twice 20) lamp bulb 0.9 c ∧
      c.center = ⟨2, 1⟩ ∧ (c.center ∈ findAll Correlation.normalized (twice 20) lamp bulb 0.9 ∨
        ∃ d, IsCandidate Correlation.normalized (twice 20) lamp bulb 0.9 d ∧
          d.center ∈ findAll Correlation.normalized (twice 20) lamp bulb 0.9 ∧
          c.score ≤ d.score ∧ c.center.Close 20 d.center)) ∧
    (findAll Correlation.normalized (twice 0x80000000) lamp bulb 0.9).Perm [⟨2, 1⟩, ⟨2, 1⟩] := by
  have hsized := Correlation.normalized_sized
  obtain ⟨c, hcenter, hcandidates⟩ := candidates_lamp 20
  have hc : IsCandidate Correlation.normalized (twice 20) lamp bulb 0.9 c := by
    rw [← mem_candidates, hcandidates]
    exact List.mem_cons_self
  have hfew : (findAll Correlation.normalized (twice 20) lamp bulb 0.9).length < 50 := by
    have hle := (kept_sublist Correlation.normalized (twice 20) lamp bulb 0.9).length_le
    rw [hcandidates] at hle
    rw [(findAll_perm ..).length_eq, List.length_map]
    exact hle.trans_lt (by simp)
  obtain ⟨-, -, -, hsmall, hcovered⟩ :=
    hits_are_thinned Correlation.normalized (twice 20) lamp bulb 0.9
  obtain ⟨d, hcenter', hcandidates'⟩ := candidates_lamp 0x80000000
  obtain ⟨-, -, -, -, hlarge⟩ :=
    hits_are_thinned Correlation.normalized (twice 0x80000000) lamp bulb 0.9
  have hperm := (hlarge hsized (by decide) (by decide)).2 (by decide)
  rw [hcandidates'] at hperm
  have htwice : (findAll Correlation.normalized (twice 0x80000000) lamp bulb 0.9).Perm
      [d.center, d.center] := hperm
  rw [hcenter'] at htwice
  exact ⟨by decide, ⟨hsized, by decide, by decide⟩, (hsmall (by decide)).2 (by decide), hfew,
    ⟨c, hc, hcenter, (hcovered hsized (by decide) (by decide)).1 hfew c hc⟩, htwice⟩

/-- The same place is found twice, though it is close to itself and not before itself. -/
theorem bulb_is_repeated :
    let found := findAll Correlation.normalized (twice 0x80000000) lamp bulb 0.9
    let r : ℤ := (twice 0x80000000).dedupeRadius.toNat
    found = [⟨2, 1⟩, ⟨2, 1⟩] ∧
    (¬ found.Pairwise fun p q => r ≤ |p.x.toInt - q.x.toInt| ∨ r ≤ |p.y.toInt - q.y.toInt|) ∧
    1 ≤ r ∧ ¬ found.Pairwise fun p q =>
      p.y.toInt < q.y.toInt ∨ p.y.toInt = q.y.toInt ∧ p.x.toInt < q.x.toInt := by
  intro found r
  obtain ⟨c, hcenter, hcandidates⟩ := candidates_lamp 0x80000000
  have hkept : kept Correlation.normalized (twice 0x80000000) lamp bulb 0.9 = [c, c] := by
    rw [kept_eq_take Correlation.normalized_sized (by decide) (by decide) (by decide), hcandidates]
    rfl
  have hfound : found = [⟨2, 1⟩, ⟨2, 1⟩] := by
    rw [show found = _ from findAll_eq .., hkept, List.map_cons, List.map_cons, hcenter]
    exact List.mergeSort_of_pairwise (by decide)
  rw [hfound]
  exact ⟨rfl, by decide, by decide, by decide⟩

end TemplateMatch

end Autoplay
