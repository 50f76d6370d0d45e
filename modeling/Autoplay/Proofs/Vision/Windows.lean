import Autoplay.Proofs.Vision.Peaks
import Autoplay.Vision.Search

/-!
# Windows of the search

A large template is searched on a shrunk screen first, and then on a window of the screen around
each place that was found there. The window lies on the screen and holds every place of the template
that shrinks to the one that was found, though the sides of screen and template need not be
multiples of the factor (`window_holds`). So what is found lies on the screen as a whole, and so
does its centre: `searches_stay_on_screen`.
-/

namespace Autoplay

/-- There is one score for each place where the template lies on the screen as a whole. -/
def Correlation.Sized (correlate : Correlation) : Prop :=
  ∀ screen template : GreyPicture, template.width ≤ screen.width →
    template.height ≤ screen.height →
    (correlate screen template).width = screen.width - template.width + 1 ∧
    (correlate screen template).height = screen.height - template.height + 1

/-- The normalised correlation gives such scores. -/
theorem Correlation.normalized_sized : Correlation.normalized.Sized :=
  fun _ _ _ _ => ⟨rfl, rfl⟩

/-- The summit of a score map is a place of it. -/
theorem Raster.at?_summit {scores : ScoreMap} {p : Peak} (h : scores.summit = some p) :
    scores.at? p.x p.y = some p.score := by
  -- The best place so far is one of the map, whatever places are left.
  suffices hsummit : ∀ q ∈ scores.summit, scores.at? q.x q.y = some q.score from hsummit p h
  unfold summit
  refine List.foldlRecOn (motive := fun best : Option Peak =>
    ∀ q ∈ best, scores.at? q.x q.y = some q.score) _ _ ?_ fun best hbest place _ q hq => ?_
  · exact fun q hq => absurd hq (Option.not_mem_none q)
  · dsimp only at hq
    split at hq
    · exact hbest q hq
    · rename_i s hs
      obtain rfl := Option.some.inj hq
      exact hs
    · rename_i s b hs
      split_ifs at hq
      · obtain rfl := Option.some.inj hq
        exact hs
      · exact hbest q hq

namespace VisionSettings

/-- The factor is at least one, and no side of the template is shorter. -/
theorem factorFor_bounds (v : VisionSettings) {template : GreyPicture}
    (hw : 1 ≤ template.width) (hh : 1 ≤ template.height) :
    1 ≤ v.factorFor template ∧ v.factorFor template ≤ template.width ∧
      v.factorFor template ≤ template.height := by
  unfold factorFor leastCoarseSide
  omega

/-- A template is not shrunk if the settings say so or it is small. -/
theorem factorFor_eq_one_iff {v : VisionSettings} {template : GreyPicture} :
    v.factorFor template = 1 ↔
      v.coarseFactor.toNat ≤ 1 ∨ min template.width template.height < 16 := by
  unfold factorFor leastCoarseSide
  omega

end VisionSettings

/-- A side is shrunk to its quotient by the factor. -/
theorem Scaling.shrink_sides {p : GreyPicture} {f : ℕ} (hf : 1 ≤ f) (hw : f ≤ p.width)
    (hh : f ≤ p.height) :
    (shrink p f).width = p.width / f ∧ (shrink p f).height = p.height / f :=
  ⟨max_eq_right (Nat.div_pos hw hf), max_eq_right (Nat.div_pos hh hf)⟩

namespace TemplateMatch

/-- In one direction: around a place that was found on the shrunk screen, the window ends on the
screen, is not smaller than the template, and holds all places of the template that shrink to that
one. -/
theorem window_holds {f side size x : ℕ} (hf : 1 ≤ f) (hsize : side ≤ size)
    (hx : x < size / f - side / f + 1) :
    (window (x * f) side (f * 2) size).2 ≤ size ∧
    (window (x * f) side (f * 2) size).1 + side ≤ (window (x * f) side (f * 2) size).2 ∧
    ∀ X, X + side ≤ size → X / f = x →
      (window (x * f) side (f * 2) size).1 ≤ X ∧ X + side ≤ (window (x * f) side (f * 2) size).2 := by
  -- The template at this place exceeds the screen by less than the factor.
  have hends : x * f + side < size + f := by
    have hle : x + side / f ≤ size / f := by
      have := Nat.div_le_div_right (c := f) hsize
      omega
    have hmul := Nat.mul_le_mul_right f hle
    have hsum : (x + side / f) * f = x * f + side / f * f := Nat.add_mul ..
    have hfloor := Nat.div_mul_le_self size f
    have hrest := Nat.lt_div_mul_add (a := side) hf
    omega
  unfold window
  dsimp only
  refine ⟨min_le_right _ _, by omega, fun X hX hdiv => ?_⟩
  have hle : x * f ≤ X := hdiv ▸ Nat.div_mul_le_self X f
  have hlt : X < x * f + f := hdiv ▸ Nat.lt_div_mul_add hf
  omega

variable {correlate : Correlation} {v : VisionSettings} {screen template : GreyPicture}
  {least : Float32} {limit : ℕ} {m : TemplateMatch}

/-- What a search finds: the template at a place with a finite score that is not below the bound. -/
structure IsHit (template : GreyPicture) (least : Float32) (m : TemplateMatch) : Prop where
  /-- The width is that of the template. -/
  width_eq : m.width = template.width
  /-- The height is that of the template. -/
  height_eq : m.height = template.height
  /-- The score is finite. -/
  finite : m.score.isFinite = true
  /-- The score is not below the bound. -/
  least_le : least ≤ m.score

/-- A match lies on the screen as a whole. -/
def LiesOn (screen : GreyPicture) (m : TemplateMatch) : Prop :=
  m.left + m.width ≤ screen.width ∧ m.top + m.height ≤ screen.height

/-- What is determined near a place is the summit of the window's scores if that is finite, provided
that the window is not smaller than the template. -/
theorem refine_eq {x y factor : ℕ} {columns rows : ℕ × ℕ}
    (hcolumns : window x template.width (factor * 2) screen.width = columns)
    (hrows : window y template.height (factor * 2) screen.height = rows) :
    refine correlate screen template x y factor =
      if columns.1 + template.width ≤ columns.2 ∧ rows.1 + template.height ≤ rows.2 then
        ((correlate (screen.crop columns.1 rows.1 (columns.2 - columns.1) (rows.2 - rows.1) 0)
            template).summit.filter fun p => p.score.isFinite).map fun p =>
          ⟨columns.1 + p.x, rows.1 + p.y, p.score, template.width, template.height⟩
      else none := by
  unfold refine
  rw [hcolumns, hrows]
  dsimp only
  by_cases hroom : columns.1 + template.width ≤ columns.2 ∧ rows.1 + template.height ≤ rows.2
  · rw [if_pos hroom, if_neg (by omega)]
    cases (correlate (screen.crop columns.1 rows.1 (columns.2 - columns.1) (rows.2 - rows.1) 0)
      template).summit with
    | none => rfl
    | some p =>
      dsimp only
      rw [Option.filter_some]
      split_ifs <;> rfl
  · rw [if_neg hroom, if_pos (by omega)]

/-- What is determined near a place has the size of the template and a finite score, and it lies on
the screen. -/
theorem refine_spec {x y factor : ℕ} (h : refine correlate screen template x y factor = some m) :
    m.width = template.width ∧ m.height = template.height ∧ m.score.isFinite = true ∧
      (correlate.Sized → m.LiesOn screen) := by
  have hends : (window x template.width (factor * 2) screen.width).2 ≤ screen.width :=
    min_le_right _ _
  have hends' : (window y template.height (factor * 2) screen.height).2 ≤ screen.height :=
    min_le_right _ _
  generalize hcolumns : window x template.width (factor * 2) screen.width = columns at hends
  generalize hrows : window y template.height (factor * 2) screen.height = rows at hends'
  rw [refine_eq hcolumns hrows] at h
  split_ifs at h with hroom
  obtain ⟨p, hp, rfl⟩ := Option.map_eq_some_iff.1 h
  obtain ⟨hsummit, hfinite⟩ := Option.filter_eq_some_iff.1 hp
  refine ⟨rfl, rfl, hfinite, fun hsized => ?_⟩
  obtain ⟨hwidth, hheight⟩ := hsized
    (screen.crop columns.1 rows.1 (columns.2 - columns.1) (rows.2 - rows.1) 0) template
    (Nat.le_sub_of_add_le' hroom.1) (Nat.le_sub_of_add_le' hroom.2)
  have hplace := Raster.lt_of_at? (Raster.at?_summit hsummit)
  rw [hwidth, hheight] at hplace
  have hcrop : (screen.crop columns.1 rows.1 (columns.2 - columns.1)
      (rows.2 - rows.1) 0).width = columns.2 - columns.1 := rfl
  have hcrop' : (screen.crop columns.1 rows.1 (columns.2 - columns.1)
      (rows.2 - rows.1) 0).height = rows.2 - rows.1 := rfl
  unfold LiesOn
  dsimp only
  omega

/-- The match of a template at a peak. -/
def ofPeak (template : GreyPicture) (p : Peak) : TemplateMatch :=
  ⟨p.x, p.y, p.score, template.width, template.height⟩

/-- A template that is not shrunk is found at the peaks of its scores. -/
theorem search_of_factor (hfactor : v.factorFor template = 1)
    (hwidth : template.width ≤ screen.width) (hheight : template.height ≤ screen.height) :
    search correlate v screen template least limit =
      (Peak.best (correlate screen template) least limit v.dedupeRadius.toNat).map
        (ofPeak template) := by
  unfold search
  rw [if_neg (by omega), if_pos hfactor]
  rfl

/-- What a search finds is a hit, and it lies on the screen. -/
theorem search_spec (h : m ∈ search correlate v screen template least limit) :
    m.IsHit template least ∧ (correlate.Sized → m.LiesOn screen) := by
  unfold search at h
  dsimp only at h
  split_ifs at h with hsize hfactor hsmall
  · cases h
  · obtain ⟨p, hp, rfl⟩ := List.mem_map.1 h
    have hof := Peak.isOf_of_mem_best hp
    refine ⟨⟨rfl, rfl, hof.finite, hof.least_le⟩, fun hsized => ?_⟩
    have hplace := Raster.lt_of_at? hof.at_place
    obtain ⟨hwidth, hheight⟩ := hsized screen template (by omega) (by omega)
    rw [hwidth, hheight] at hplace
    unfold LiesOn
    dsimp only
    omega
  · cases h
  · obtain ⟨hmem, hleast⟩ := List.mem_filter.1 h
    obtain ⟨p, -, hp⟩ := List.mem_filterMap.1 hmem
    obtain ⟨hwidth, hheight, hfinite, hlies⟩ := refine_spec hp
    exact ⟨⟨hwidth, hheight, hfinite, of_decide_eq_true hleast⟩, hlies⟩

/-- The centre of a match on a screen that is not too large. -/
theorem toInt_center (hlies : m.LiesOn screen) (hw : screen.width < 2 ^ 31)
    (hh : screen.height < 2 ^ 31) :
    m.center.x.toInt = (m.left + m.width / 2 : ℕ) ∧
      m.center.y.toInt = (m.top + m.height / 2 : ℕ) := by
  unfold LiesOn at hlies
  exact ⟨Int32.toInt_ofNat_of_lt (by omega), Int32.toInt_ofNat_of_lt (by omega)⟩

/-- Around every place of the shrunk screen, the window that is searched lies on the screen and is
not smaller than the template, so that only a score that is not finite can keep the search from
finding something there; and it holds every place of the template on the screen that shrinks to that
one. Whatever a search finds, with a shrunk screen or without, lies on the screen as a whole, and so
does its centre. -/
theorem searches_stay_on_screen (correlate : Correlation) (hsized : correlate.Sized)
    (v : VisionSettings) (screen template : GreyPicture)
    (hw : 1 ≤ template.width) (hh : 1 ≤ template.height)
    (hwidth : template.width ≤ screen.width) (hheight : template.height ≤ screen.height)
    (hwide : screen.width < 2 ^ 29) (htall : screen.height < 2 ^ 29) :
    let f := v.factorFor template
    let scores := correlate (Scaling.shrink screen f) (Scaling.shrink template f)
    (∀ x y, x < scores.width → y < scores.height →
      let columns := window (x * f) template.width (f * 2) screen.width
      let rows := window (y * f) template.height (f * 2) screen.height
      columns.2 ≤ screen.width ∧ rows.2 ≤ screen.height ∧
      columns.1 + template.width ≤ columns.2 ∧ rows.1 + template.height ≤ rows.2 ∧
      (∀ X Y, X + template.width ≤ screen.width → Y + template.height ≤ screen.height →
        X / f = x → Y / f = y →
        columns.1 ≤ X ∧ X + template.width ≤ columns.2 ∧
        rows.1 ≤ Y ∧ Y + template.height ≤ rows.2) ∧
      refine correlate screen template (x * f) (y * f) f =
        ((correlate (screen.crop columns.1 rows.1 (columns.2 - columns.1) (rows.2 - rows.1) 0)
            template).summit.filter fun p => p.score.isFinite).map fun p =>
          ⟨columns.1 + p.x, rows.1 + p.y, p.score, template.width, template.height⟩) ∧
    ∀ least limit, ∀ m ∈ search correlate v screen template least limit,
      m.width = template.width ∧ m.height = template.height ∧
      m.left + m.width ≤ screen.width ∧ m.top + m.height ≤ screen.height ∧
      0 ≤ m.center.x.toInt ∧ m.center.x.toInt < screen.width ∧
      0 ≤ m.center.y.toInt ∧ m.center.y.toInt < screen.height := by
  intro f scores
  obtain ⟨hf, hfw, hfh⟩ := v.factorFor_bounds hw hh
  refine ⟨fun x y hx hy => ?_, fun least limit m hm => ?_⟩
  · obtain ⟨hsw, hsh⟩ := Scaling.shrink_sides hf (hfw.trans hwidth) (hfh.trans hheight)
    obtain ⟨htw, hth⟩ := Scaling.shrink_sides hf hfw hfh
    obtain ⟨hmw, hmh⟩ := hsized (Scaling.shrink screen f) (Scaling.shrink template f)
      (by rw [hsw, htw]; exact Nat.div_le_div_right hwidth)
      (by rw [hsh, hth]; exact Nat.div_le_div_right hheight)
    rw [hmw, hsw, htw] at hx
    rw [hmh, hsh, hth] at hy
    obtain ⟨hxends, hxroom, hxholds⟩ := window_holds hf hwidth hx
    obtain ⟨hyends, hyroom, hyholds⟩ := window_holds hf hheight hy
    refine ⟨hxends, hyends, hxroom, hyroom, fun X Y hX hY hXx hYy => ?_, ?_⟩
    · obtain ⟨hleft, hright⟩ := hxholds X hX hXx
      exact ⟨hleft, hright, hyholds Y hY hYy⟩
    · rw [refine_eq rfl rfl, if_pos ⟨hxroom, hyroom⟩]
  · obtain ⟨hhit, hlies⟩ := search_spec hm
    obtain ⟨hx, hy⟩ := toInt_center (hlies hsized) (by omega) (by omega)
    obtain ⟨hleft, htop⟩ := hlies hsized
    have hmw := hhit.width_eq
    have hmh := hhit.height_eq
    refine ⟨hmw, hmh, hleft, htop, ?_⟩
    rw [hx, hy]
    omega

/-- A dark picture. -/
def night (width height : ℕ) : GreyPicture := .tabulate width height fun _ _ => 0

/-- A picture that is dark but for two light cells at its right edge. -/
def lamp : GreyPicture := .tabulate 3 2 fun x y => if (x, y) ∈ [(1, 1), (2, 0)] then 200 else 0

/-- A small picture with two light cells. -/
def bulb : GreyPicture := .tabulate 2 2 fun x y => if (x, y) ∈ [(0, 1), (1, 0)] then 90 else 0

/-- The bulb fits only at the right edge of the lamp. -/
theorem search_lamp (v : VisionSettings) (limit : ℕ) :
    ∃ m : TemplateMatch, m.left = 1 ∧ m.center = ⟨2, 1⟩ ∧
      search Correlation.normalized v lamp bulb 0.9 limit = [m] := by
  have hplaces : (Peak.candidates (Correlation.normalized lamp bulb) 0.9).map (fun p => (p.x, p.y)) =
      [(1, 0)] := by decide +kernel
  obtain ⟨p, hp, hxy⟩ := List.map_eq_singleton_iff.1 hplaces
  obtain ⟨hx, hy⟩ := Prod.mk.inj hxy
  refine ⟨ofPeak bulb p, hx, ?_, ?_⟩
  · show (⟨Int32.ofNat (p.x + 2 / 2), Int32.ofNat (p.y + 2 / 2)⟩ : Point) = ⟨2, 1⟩
    rw [hx, hy]
    decide
  · rw [search_of_factor (VisionSettings.factorFor_eq_one_iff.2 (.inr (by decide))) (by decide) (by decide),
      Peak.best_of_candidates hp]
    rfl

/-- Neither side of this screen is a multiple of the factor. The window around the last place of the
shrunk screen ends with the screen and holds the template in the corner. And the bulb is found at
the edge of the lamp, with its centre on it. -/
theorem corner_is_searched :
    (Correlation.normalized.Sized ∧ 1 ≤ 17 ∧ 1 ≤ 19 ∧ 17 ≤ 35 ∧ 19 ≤ 29 ∧ 35 < 2 ^ 29 ∧ 29 < 2 ^ 29) ∧
    VisionSettings.factorFor {} (night 17 19) = 2 ∧
    (window (9 * 2) 17 (2 * 2) 35 = (14, 35) ∧ window (5 * 2) 19 (2 * 2) 29 = (6, 29)) ∧
    (18 / 2 = 9 ∧ 10 / 2 = 5 ∧ 14 ≤ 18 ∧ 18 + 17 ≤ 35 ∧ 6 ≤ 10 ∧ 10 + 19 ≤ 29) ∧
    ∃ m ∈ search Correlation.normalized {} lamp bulb 0.9 1,
      m.left = 1 ∧ m.left + m.width ≤ 3 ∧ m.center.x.toInt < 3 := by
  have hsized := Correlation.normalized_sized
  obtain ⟨hwindows, -⟩ := searches_stay_on_screen Correlation.normalized hsized {} (night 35 29)
    (night 17 19) (by decide) (by decide) (by decide) (by decide) (by decide) (by decide)
  obtain ⟨-, -, -, -, hholds, -⟩ := hwindows 9 5 (by decide) (by decide)
  obtain ⟨-, hinside⟩ := searches_stay_on_screen Correlation.normalized hsized {} lamp bulb
    (by decide) (by decide) (by decide) (by decide) (by decide) (by decide)
  obtain ⟨m, hleft, -, hsearch⟩ := search_lamp {} 1
  have hm : m ∈ search Correlation.normalized {} lamp bulb 0.9 1 :=
    hsearch ▸ List.mem_singleton_self m
  obtain ⟨-, -, hright, -, -, hcenter, -⟩ := hinside _ _ m hm
  exact ⟨⟨hsized, by decide⟩, by decide, by decide,
    ⟨rfl, rfl, hholds 18 10 (by decide) (by decide) (by decide) (by decide)⟩,
    m, hm, hleft, hright, hcenter⟩

end TemplateMatch

end Autoplay
