import Autoplay.Run.Export
import Mathlib.Tactic.SplitIfs

/-!
# Names of exported files

The name of an exported file is made of the label, the day and the name of the account file of the
device. Only what stands for blanks and separators in the label is lost in it
(`exportFileName_inj`): the day is always written with as many digits behind the year, and nothing
in it is written with the `_` that ends the label.
-/

namespace Autoplay

/-! ## Numbers -/

namespace Decimal

/-- The digits are those of the number. -/
theorem ofDigitChars_padded (width n : Nat) :
    Nat.ofDigitChars 10 (padded width n).toList 0 = n := by
  rw [padded, String.toList_ofList, Nat.ofDigitChars_append, Nat.ofDigitChars_replicate_zero,
    Nat.mul_zero, Nat.ofDigitChars_ten_toDigits]

/-- Numbers of at least as many digits are written differently if they differ. -/
theorem padded_inj {width m n : Nat} (h : padded width m = padded width n) : m = n := by
  calc m = Nat.ofDigitChars 10 (padded width m).toList 0 := (ofDigitChars_padded width m).symm
    _ = Nat.ofDigitChars 10 (padded width n).toList 0 := by rw [h]
    _ = n := ofDigitChars_padded width n

/-- What is written is digits. -/
theorem isDigit_of_mem_padded {width n : Nat} {c : Char} (h : c ∈ (padded width n).toList) :
    c.isDigit = true := by
  rw [padded, String.toList_ofList, List.mem_append] at h
  obtain h | h := h
  · rw [(List.mem_replicate.1 h).2]
    rfl
  · exact Nat.isDigit_of_mem_toDigits (by decide) (by decide) h

/-- A number that fits is written with as many digits as are asked for. -/
theorem length_padded {width n : Nat} (hwidth : 0 < width) (h : n < Nat.pow 10 width) :
    (padded width n).toList.length = width := by
  have hlen : (Nat.toDigits 10 n).length ≤ width :=
    (Nat.length_toDigits_le_iff (by decide) hwidth).2 h
  rw [padded, String.toList_ofList, List.length_append, List.length_replicate]
  omega

/-- A number has at least one digit. -/
theorem padded_ne_empty (width n : Nat) : (padded width n).toList ≠ [] := by
  rw [padded, String.toList_ofList]
  exact List.append_ne_nil_of_right_ne_nil _ Nat.toDigits_ne_nil

end Decimal

/-! ## Days -/

namespace Date

/-- A date of the calendar. -/
def IsReal (d : Date) : Prop := make? d.year d.month d.day = some d

instance (d : Date) : Decidable d.IsReal :=
  inferInstanceAs (Decidable (make? d.year d.month d.day = some d))

/-- The sign of a year, if one is written. -/
def yearSign (year : Int) : List Char :=
  if 0 ≤ year ∧ year ≤ 9999 then [] else if year < 0 then ['-'] else ['+']

/-- A year is written as its sign and its digits. -/
theorem yearText_toList (year : Int) :
    (yearText year).toList = yearSign year ++ (Decimal.padded 4 year.natAbs).toList := by
  unfold yearText yearSign
  split
  · next h =>
    have habs : year.toNat = year.natAbs := by omega
    rw [List.nil_append, habs]
  · split <;> rw [String.toList_append] <;> rfl

/-- Signs are no digits. -/
theorem isDigit_of_mem_yearSign {year : Int} {c : Char} (h : c ∈ yearSign year) :
    c.isDigit = false := by
  unfold yearSign at h
  split_ifs at h <;> simp_all

/-- Only years before 0 have a minus sign. -/
theorem neg_iff_yearSign (year : Int) : year < 0 ↔ yearSign year = ['-'] := by
  unfold yearSign
  split_ifs <;> simp <;> omega

/-- Different years are written differently. -/
theorem yearText_inj {y z : Int} (h : yearText y = yearText z) : y = z := by
  -- What stands before the first digit is the sign.
  have hsplit : ∀ year, (yearText year).toList.takeWhile (fun c => !c.isDigit) = yearSign year := by
    intro year
    obtain ⟨c, rest, hc⟩ := List.exists_cons_of_ne_nil (Decimal.padded_ne_empty 4 year.natAbs)
    have hdigit : c.isDigit = true :=
      @Decimal.isDigit_of_mem_padded 4 year.natAbs c (hc ▸ List.mem_cons_self)
    rw [yearText_toList, hc, List.takeWhile_append_of_pos fun d hd => by
      rw [isDigit_of_mem_yearSign hd]; rfl, List.takeWhile_cons_of_neg (by simp [hdigit]),
      List.append_nil]
  have hsign : yearSign y = yearSign z := by rw [← hsplit, h, hsplit]
  have hdigits : (Decimal.padded 4 y.natAbs).toList = (Decimal.padded 4 z.natAbs).toList := by
    have hlist := congrArg String.toList h
    rw [yearText_toList, yearText_toList, hsign] at hlist
    exact List.append_cancel_left hlist
  have habs : y.natAbs = z.natAbs := Decimal.padded_inj (String.toList_inj.1 hdigits)
  have hneg : y < 0 ↔ z < 0 := by rw [neg_iff_yearSign, hsign, ← neg_iff_yearSign]
  omega

/-- Nothing in a date is written with `_`. -/
theorem underscore_not_mem_compact (d : Date) : '_' ∉ d.compact.toList := by
  intro h
  rw [compact, String.toList_append, String.toList_append, yearText_toList] at h
  have hdigit : ∀ {width n}, '_' ∉ (Decimal.padded width n).toList := fun hmem =>
    absurd (Decimal.isDigit_of_mem_padded hmem) (by decide)
  have hsign : '_' ∉ yearSign d.year := by
    unfold yearSign
    split_ifs <;> decide
  simp only [List.mem_append, hdigit, hsign, or_self] at h

/-- A date that is made is one of the calendar. -/
theorem isReal_of_make? {year : Int} {month day : Nat} {d : Date}
    (h : make? year month day = some d) : d.IsReal := by
  have heq : d = ⟨year, month, day⟩ := by
    unfold make? at h
    split at h
    · exact (Option.some.inj h).symm
    · exact nomatch h
  subst heq
  exact h

/-- The year, month and day of a date are between bounds that do not depend on each other. -/
theorem IsReal.bounds {d : Date} (hd : d.IsReal) :
    yearInRange d.year = true ∧ (1 ≤ d.month ∧ d.month ≤ 12) ∧ (1 ≤ d.day ∧ d.day ≤ 31) := by
  have hdays : daysIn d.year d.month ≤ 31 := by
    unfold daysIn
    split_ifs <;> omega
  unfold IsReal make? at hd
  split at hd
  · next h =>
    simp only [Bool.and_eq_true, decide_eq_true_eq] at h
    obtain ⟨⟨⟨⟨hyear, hmonth⟩, hmonth'⟩, hday⟩, hday'⟩ := h
    exact ⟨hyear, ⟨hmonth, hmonth'⟩, hday, Nat.le_trans hday' hdays⟩
  · exact absurd hd (by simp)

/-- Months and days have two digits at most. -/
theorem IsReal.lt {d : Date} (hd : d.IsReal) : d.month < 100 ∧ d.day < 100 := by
  obtain ⟨-, hmonth, hday⟩ := hd.bounds
  omega

/-- Different dates of the calendar are written differently. -/
theorem compact_inj {d e : Date} (hd : d.IsReal) (he : e.IsReal) (h : d.compact = e.compact) :
    d = e := by
  have hlen : ∀ n, n < 100 → (Decimal.padded 2 n).toList.length = 2 := fun n hn =>
    Decimal.length_padded (by decide) hn
  have hlist := congrArg String.toList h
  simp only [compact, String.toList_append] at hlist
  -- The last four digits are the month and the day, whatever the year.
  obtain ⟨hrest, hday⟩ := List.append_inj' hlist ((hlen _ hd.lt.2).trans (hlen _ he.lt.2).symm)
  obtain ⟨hyear, hmonth⟩ := List.append_inj' hrest ((hlen _ hd.lt.1).trans (hlen _ he.lt.1).symm)
  have hy : d.year = e.year := yearText_inj (String.toList_inj.1 hyear)
  have hm : d.month = e.month := Decimal.padded_inj (String.toList_inj.1 hmonth)
  have hday' : d.day = e.day := Decimal.padded_inj (String.toList_inj.1 hday)
  cases d
  cases e
  simp_all

end Date

/-! ## File names -/

/-- A label as it stands in a file name: `_` for blanks and separators. -/
def fileLabel (label : String) : String :=
  label.map fun c => if c = ' ' || c = '/' then '_' else c

/-- The file name of an export, part after part. -/
theorem exportFileName_toList (label : String) (date : Date) (prefFileName : String) :
    (exportFileName label date prefFileName).toList =
      (fileLabel label).toList ++ '_' :: date.compact.toList ++ '_' :: prefFileName.toList := by
  simp only [exportFileName, fileLabel, String.toList_append]
  simp

/-- What stands before the last `_` and what stands behind it. -/
theorem eq_of_append_underscore {a b c d : List Char} (hb : '_' ∉ b) (hd : '_' ∉ d)
    (h : a ++ '_' :: b = c ++ '_' :: d) : a = c ∧ b = d := by
  have hbehind : ∀ u v : List Char, '_' ∉ v →
      (u ++ '_' :: v).reverse.takeWhile (fun x => decide (x ≠ '_')) = v.reverse := by
    intro u v hv
    have hkeep : ∀ x ∈ v.reverse, decide (x ≠ '_') = true := fun x hx =>
      decide_eq_true fun e => hv (e ▸ List.mem_reverse.1 hx)
    rw [List.reverse_append, List.reverse_cons, List.append_assoc,
      List.takeWhile_append_of_pos hkeep, List.singleton_append,
      List.takeWhile_cons_of_neg (by decide), List.append_nil]
  have hrev : b.reverse = d.reverse := by rw [← hbehind a b hb, h, hbehind c d hd]
  obtain rfl := List.reverse_inj.1 hrev
  exact ⟨List.append_cancel_right h, rfl⟩

/-- The labels, as they stand in a file name, and the days of two exports are the same if their
files have the same name. -/
theorem exportFileName_inj {label label' : String} {day day' : Date} (hday : day.IsReal)
    (hday' : day'.IsReal) {prefFileName : String}
    (h : exportFileName label day prefFileName = exportFileName label' day' prefFileName) :
    fileLabel label = fileLabel label' ∧ day = day' := by
  have hlist := congrArg String.toList h
  rw [exportFileName_toList, exportFileName_toList] at hlist
  obtain ⟨hlabel, hcompact⟩ := eq_of_append_underscore (Date.underscore_not_mem_compact day)
    (Date.underscore_not_mem_compact day') (List.append_cancel_right hlist)
  exact ⟨String.toList_inj.1 hlabel, Date.compact_inj hday hday' (String.toList_inj.1 hcompact)⟩

/-- And the other way round. -/
theorem exportFileName_congr {label label' : String} (h : fileLabel label = fileLabel label')
    (day : Date) (prefFileName : String) :
    exportFileName label day prefFileName = exportFileName label' day prefFileName := by
  refine String.toList_inj.1 ?_
  rw [exportFileName_toList, exportFileName_toList, h]

/-- The file name of an export is no absolute path. -/
theorem isAbsolute_exportFileName (label : String) (day : Date) (prefFileName : String) :
    Path.isAbsolute (exportFileName label day prefFileName) = false := by
  have hlabel : '/' ∉ (fileLabel label).toList := by
    rw [fileLabel, String.toList_map, List.mem_map]
    rintro ⟨c, -, hc⟩
    split at hc
    · exact absurd hc (by decide)
    · next h => simp_all
  unfold Path.isAbsolute
  rw [exportFileName_toList]
  cases h : (fileLabel label).toList with
  | nil => rfl
  | cons c rest =>
    have hc : c ≠ '/' := fun e => hlabel (h ▸ e ▸ List.mem_cons_self)
    simp [hc]

/-- Seen from one folder, different names that are no absolute paths lead to different paths. -/
theorem Path.join_inj {folder a b : String} (ha : Path.isAbsolute a = false)
    (hb : Path.isAbsolute b = false) (h : Path.join folder a = Path.join folder b) : a = b := by
  rw [Path.join, Path.join, ha, hb] at h
  simp only [Bool.false_eq_true, if_false] at h
  have hlist := congrArg String.toList h
  split at hlist
  all_goals
    simp only [String.toList_append] at hlist
    exact String.toList_inj.1 (List.append_cancel_left hlist)

end Autoplay
