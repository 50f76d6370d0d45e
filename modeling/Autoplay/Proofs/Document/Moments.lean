import Autoplay.Document.Decode
import Autoplay.Proofs.Run.Naming

/-!
# Moments and their texts

The text of a moment is read as the moment (`ofText_text`), provided that it is one that can be read
at all: a date of the calendar, a time of day, and a sixty-first second only at the end of a minute.
-/

namespace Autoplay

/-- A reader that succeeds has succeeded at each step. -/
theorem exists_of_bind {ε α β : Type} {x : Except ε α} {f : α → Except ε β} {b : β}
    (h : (x >>= f) = .ok b) : ∃ a, x = .ok a ∧ f a = .ok b := by
  cases x with
  | error e => exact nomatch h
  | ok a => exact ⟨a, rfl, h⟩

/-- A result is the outcome of a success. -/
theorem eq_ok_of_toOption {ε α : Type} {x : Except ε α} {a : α} (h : x.toOption = some a) :
    x = .ok a := by
  cases x with
  | error e => exact nomatch h
  | ok b => exact congrArg Except.ok (Option.some.inj h)

namespace Moment

/-! ## Reading digits -/

/-- The value of a digit. -/
theorem digitValue?_of_isDigit {c : Char} (h : c.isDigit = true) :
    digitValue? c = some (c.toNat - 48) := if_pos h

/-- What has a value is a digit, and its value is below ten. -/
theorem lt_of_digitValue? {c : Char} {d : Nat} (h : digitValue? c = some d) : d < 10 := by
  unfold digitValue? at h
  split at h
  next hdigit =>
    cases h
    have hle : c.toNat ≤ 57 := by
      simp only [Char.isDigit, Bool.and_eq_true, decide_eq_true_eq] at hdigit
      exact hdigit.2
    omega
  next => exact nomatch h

/-- Digits do not go on here. -/
def NoDigit (s : List Char) : Prop := ∀ c ∈ s.head?, c.isDigit = false

/-- Digits are read up to the last one that there is room for. -/
theorem moreDigits_append {ds rest : List Char} (hds : ∀ c ∈ ds, c.isDigit = true) (n : Nat)
    {room : Nat} (hroom : ds.length ≤ room) (hrest : ds.length = room ∨ NoDigit rest) :
    moreDigits n room (ds ++ rest) = (Nat.ofDigitChars 10 ds n, rest) := by
  induction ds generalizing n room with
  | nil =>
    rw [List.nil_append]
    cases room with
    | zero =>
      cases rest <;> rfl
    | succ room =>
      have hend : NoDigit rest := hrest.resolve_left (Nat.succ_ne_zero room).symm
      cases rest with
      | nil => rfl
      | cons c rest =>
        have hc : digitValue? c = none := if_neg (ne_true_of_eq_false (hend c rfl))
        unfold moreDigits
        rw [hc]
        rfl
  | cons c ds ih =>
    obtain ⟨hc, hds⟩ := List.forall_mem_cons.1 hds
    cases room with
    | zero => exact absurd hroom (Nat.not_succ_le_zero _)
    | succ room =>
      rw [List.cons_append]
      unfold moreDigits
      rw [digitValue?_of_isDigit hc]
      exact ih hds _ (Nat.le_of_succ_le_succ hroom) (hrest.imp_left Nat.succ.inj)

/-- A number of digits is read. -/
theorem number_append {ds rest : List Char} (hds : ∀ c ∈ ds, c.isDigit = true) (hne : ds ≠ [])
    {room : Nat} (hroom : ds.length ≤ room) (hrest : ds.length = room ∨ NoDigit rest)
    (hlt : Nat.ofDigitChars 10 ds 0 < 0x8000000000000000) :
    number room (ds ++ rest) = .ok (Nat.ofDigitChars 10 ds 0, rest) := by
  cases ds with
  | nil => exact absurd rfl hne
  | cons c ds =>
    obtain ⟨hc, hds⟩ := List.forall_mem_cons.1 hds
    have hvalue : Nat.ofDigitChars 10 ds (c.toNat - 48) = Nat.ofDigitChars 10 (c :: ds) 0 := by
      show _ = Nat.ofDigitChars 10 ds (10 * 0 + (c.toNat - 48))
      rw [Nat.mul_zero, Nat.zero_add]
    rw [List.length_cons] at hroom hrest
    have hmore : moreDigits (c.toNat - 48) (room - 1) (ds ++ rest) =
        (Nat.ofDigitChars 10 (c :: ds) 0, rest) := by
      rw [moreDigits_append hds _ (by omega) (hrest.imp_left fun h => by omega), hvalue]
    rw [List.cons_append, number, digitValue?_of_isDigit hc]
    dsimp only
    rw [hmore]
    exact if_pos hlt

/-- A number that is filled up with zeros is read. -/
theorem number_padded {width n room : Nat} {rest : List Char} (hn : n < 0x8000000000000000)
    (hroom : (Decimal.padded width n).toList.length ≤ room)
    (hrest : (Decimal.padded width n).toList.length = room ∨ NoDigit rest) :
    number room ((Decimal.padded width n).toList ++ rest) = .ok (n, rest) := by
  have hvalue : Nat.ofDigitChars 10 (Decimal.padded width n).toList 0 = n :=
    Decimal.ofDigitChars_padded width n
  have h := number_append (fun c hc => Decimal.isDigit_of_mem_padded hc)
    (Decimal.padded_ne_empty width n) hroom hrest (by rw [hvalue]; exact hn)
  rw [hvalue] at h
  exact h

/-- A number behind `n` has at most as many digits as there is room for. -/
theorem moreDigits_lt {n room m : Nat} {s rest : List Char} (h : moreDigits n room s = (m, rest)) :
    ∃ k ≤ room, s.length = rest.length + k ∧ m < (n + 1) * Nat.pow 10 k := by
  induction s generalizing n room with
  | nil =>
    have heq : (n, ([] : List Char)) = (m, rest) := by
      cases room <;> exact h
    cases heq
    exact ⟨0, Nat.zero_le _, rfl, Nat.lt_of_lt_of_eq (Nat.lt_succ_self _) (Nat.mul_one _).symm⟩
  | cons c s ih =>
    have hstop {p : Nat × List Char} (hp : (n, c :: s) = p) :
        ∃ k ≤ room, (c :: s).length = p.2.length + k ∧ p.1 < (n + 1) * Nat.pow 10 k := by
      cases hp
      exact ⟨0, Nat.zero_le _, rfl, Nat.lt_of_lt_of_eq (Nat.lt_succ_self _) (Nat.mul_one _).symm⟩
    cases room with
    | zero => exact hstop h
    | succ room =>
      unfold moreDigits at h
      split at h
      next d hd =>
        obtain ⟨k, hk, hlen, hm⟩ := ih h
        have hten : d < 10 := lt_of_digitValue? hd
        refine ⟨k + 1, Nat.succ_le_succ hk, ?_, ?_⟩
        · rw [List.length_cons, hlen, Nat.add_assoc]
        · calc m < (10 * n + d + 1) * Nat.pow 10 k := hm
            _ ≤ (n + 1) * 10 * Nat.pow 10 k := Nat.mul_le_mul_right _ (by omega)
            _ = (n + 1) * (Nat.pow 10 k * 10) := by rw [Nat.mul_assoc, Nat.mul_comm 10]
            _ = (n + 1) * Nat.pow 10 (k + 1) := rfl
      next => exact hstop h

/-- So has a number. -/
theorem number_lt {room n : Nat} {s rest : List Char} (hroom : 0 < room)
    (h : number room s = .ok (n, rest)) :
    ∃ k ≤ room, s.length = rest.length + k ∧ n < Nat.pow 10 k := by
  cases s with
  | nil => exact nomatch h
  | cons c s =>
    rw [number] at h
    split at h
    next => exact nomatch h
    next d hd =>
      generalize hmore : moreDigits d (room - 1) s = more at h
      obtain ⟨m, tail⟩ := more
      dsimp only at h
      split at h
      next =>
        cases h
        obtain ⟨k, hk, hlen, hm⟩ := moreDigits_lt hmore
        have hten : d < 10 := lt_of_digitValue? hd
        refine ⟨k + 1, by omega, ?_, ?_⟩
        · rw [List.length_cons, hlen, Nat.add_assoc]
        · calc n < (d + 1) * Nat.pow 10 k := hm
            _ ≤ 10 * Nat.pow 10 k := Nat.mul_le_mul_right _ hten
            _ = Nat.pow 10 k * 10 := Nat.mul_comm _ _
            _ = Nat.pow 10 (k + 1) := rfl
      next => exact nomatch h

/-! ## Reading the parts of a moment -/

/-- No digit is a blank. -/
theorem isBlank_of_isDigit {c : Char} (h : c.isDigit = true) : Text.isBlank c = false := by
  have hrange : 48 ≤ c.toNat ∧ c.toNat ≤ 57 := by
    simp only [Char.isDigit, Bool.and_eq_true, decide_eq_true_eq] at h
    exact h
  simp only [Text.isBlank, Bool.or_eq_false_iff, Bool.and_eq_false_iff, decide_eq_false_iff_not,
    beq_eq_false_iff_ne]
  omega

/-- There is no blank in front of a number. -/
theorem trimStart_padded (width n : Nat) (rest : List Char) :
    Text.trimStart ((Decimal.padded width n).toList ++ rest) =
      (Decimal.padded width n).toList ++ rest := by
  obtain ⟨c, ds, hds⟩ := List.exists_cons_of_ne_nil (Decimal.padded_ne_empty width n)
  have hc : c.isDigit = true := Decimal.isDigit_of_mem_padded (hds ▸ List.mem_cons_self)
  rw [hds]
  exact List.dropWhile_cons_of_neg (ne_true_of_eq_false (isBlank_of_isDigit hc))

/-- A part of two digits is read. -/
theorem part_padded {low high n : Nat} (hlow : low ≤ n) (hhigh : n ≤ high) (h : high < 100)
    (rest : List Char) :
    part low high ((Decimal.padded 2 n).toList ++ rest) = .ok (n, rest) := by
  have hlen : (Decimal.padded 2 n).toList.length = 2 :=
    Decimal.length_padded (by decide) (show n < 100 by omega)
  unfold part
  rw [trimStart_padded, number_padded (by omega) (Nat.le_of_eq hlen) (.inl hlen)]
  show (if (decide (low ≤ n) && decide (n ≤ high)) = true then _ else _) = _
  rw [decide_eq_true hlow, decide_eq_true hhigh]
  rfl

/-- A part that was read is between its bounds. -/
theorem between_of_part {low high n : Nat} {s rest : List Char}
    (h : part low high s = .ok (n, rest)) : low ≤ n ∧ n ≤ high := by
  unfold part at h
  cases hnumber : number 2 (Text.trimStart s) with
  | error e =>
    rw [hnumber] at h
    exact nomatch h
  | ok p =>
    obtain ⟨m, tail⟩ := p
    rw [hnumber] at h
    change (if (decide (low ≤ m) && decide (m ≤ high)) = true then _ else _) = _ at h
    split at h
    next hbounds =>
      cases h
      simpa using hbounds
    next => exact nomatch h

/-- A year is what is made of the number that is read, if that is between the bounds. -/
theorem bind_year {f : Nat → Int} {read : Except ReadError (Nat × List Char)} {n : Nat}
    {rest : List Char} {low year high : Int} (hread : read = .ok (n, rest)) (hyear : f n = year)
    (hlow : low ≤ year) (hhigh : year < high) :
    (do
      let p ← read
      let p ← (pure (f p.1, p.2) : Except ReadError (Int × List Char))
      if low ≤ p.1 && p.1 < high then .ok p else .error .outOfRange) =
      (.ok (year, rest) : Except ReadError (Int × List Char)) := by
  simp only [hread, bind, Except.bind, pure, Except.pure, hyear, decide_eq_true hlow,
    decide_eq_true hhigh, Bool.and_self, if_true]

/-- A year of the calendar is read. -/
theorem yearPart_yearText {year : Int} (h : Date.yearInRange year = true) {rest : List Char}
    (hrest : NoDigit rest) :
    yearPart ((Date.yearText year).toList ++ rest) = .ok (year, rest) := by
  simp only [Date.yearInRange, Bool.and_eq_true, decide_eq_true_eq] at h
  have hlow : -0x80000000 ≤ year := by omega
  have hhigh : year < 0x80000000 := by omega
  -- Behind a sign there is room for all digits.
  have hsigned : number ((Decimal.padded 4 year.natAbs).toList ++ rest).length
      ((Decimal.padded 4 year.natAbs).toList ++ rest) = .ok (year.natAbs, rest) := by
    refine number_padded (by omega) ?_ (.inr hrest)
    rw [List.length_append]
    exact Nat.le_add_right _ _
  rw [Date.yearText_toList, List.append_assoc]
  unfold Date.yearSign
  split
  next hplain =>
    have hlen : (Decimal.padded 4 year.natAbs).toList.length = 4 :=
      Decimal.length_padded (by decide) (show _ < 10000 by omega)
    have hnumber : number 4 ((Decimal.padded 4 year.natAbs).toList ++ rest) =
        .ok (year.natAbs, rest) :=
      number_padded (by omega) (Nat.le_of_eq hlen) (.inl hlen)
    obtain ⟨c, ds, hds⟩ := List.exists_cons_of_ne_nil (Decimal.padded_ne_empty 4 year.natAbs)
    have hc : c.isDigit = true := Decimal.isDigit_of_mem_padded (hds ▸ List.mem_cons_self)
    unfold yearPart
    rw [List.nil_append, trimStart_padded]
    rw [hds, List.cons_append] at hnumber ⊢
    dsimp only
    -- A digit is no sign.
    split
    next heq => exact absurd (List.cons.inj heq).1 (by rintro rfl; exact nomatch hc)
    next heq => exact absurd (List.cons.inj heq).1 (by rintro rfl; exact nomatch hc)
    next => exact bind_year (f := fun n => n) hnumber (by omega) hlow hhigh
  next =>
    have htrim {c : Char} (hc : Text.isBlank c = false) (s : List Char) :
        Text.trimStart ([c] ++ s) = c :: s :=
      List.dropWhile_cons_of_neg (ne_true_of_eq_false hc)
    split
    next hneg =>
      rw [yearPart, htrim (by decide)]
      exact bind_year (f := fun n => -n) hsigned (by omega) hlow hhigh
    next hpos =>
      rw [yearPart, htrim (by decide)]
      exact bind_year (f := fun n => n) hsigned (by omega) hlow hhigh

/-- Digits behind a point are read as a fraction, in nine places. -/
theorem fraction_padded {width n scale : Nat} (hpos : 0 < width) (hwidth : width ≤ 9)
    (hscale : Nat.pow 10 (9 - width) = scale) (hn : n < Nat.pow 10 width) :
    fraction ('.' :: (Decimal.padded width n).toList) = .ok (n * scale, []) := by
  have hlen : (Decimal.padded width n).toList.length = width := Decimal.length_padded hpos hn
  have hlt : n < 0x8000000000000000 :=
    calc n < Nat.pow 10 width := hn
      _ ≤ Nat.pow 10 9 := Nat.pow_le_pow_right (by decide) hwidth
      _ < 0x8000000000000000 := by decide
  have hnumber : number 9 ((Decimal.padded width n).toList ++ []) = .ok (n, []) :=
    number_padded hlt (Nat.le_trans (Nat.le_of_eq hlen) hwidth) (.inr nofun)
  rw [List.append_nil] at hnumber
  unfold fraction
  simp only [hnumber, bind, Except.bind, pure, Except.pure, hlen, List.length_nil, Nat.sub_zero,
    hscale, List.dropWhile_nil]

/-- The fraction of a second is read. -/
theorem fraction_fractionText {nanos : Nat} (h : nanos < 1000000000) :
    fraction (fractionText nanos).toList = .ok (nanos, []) := by
  unfold fractionText
  split
  next hzero =>
    subst hzero
    rfl
  split
  next hmillis =>
    have hvalue : nanos / 1000000 * 1000000 = nanos := by omega
    have hlt : nanos / 1000000 < 1000 := by omega
    rw [String.toList_append]
    show fraction ('.' :: (Decimal.padded 3 (nanos / 1000000)).toList) = _
    rw [fraction_padded (by decide) (by decide) rfl hlt, hvalue]
  split
  next hmicros =>
    have hvalue : nanos / 1000 * 1000 = nanos := by omega
    have hlt : nanos / 1000 < 1000000 := by omega
    rw [String.toList_append]
    show fraction ('.' :: (Decimal.padded 6 (nanos / 1000)).toList) = _
    rw [fraction_padded (by decide) (by decide) rfl hlt, hvalue]
  next =>
    rw [String.toList_append]
    show fraction ('.' :: (Decimal.padded 9 nanos).toList) = _
    rw [fraction_padded (by decide) (by decide) rfl h, Nat.mul_one]

/-- A fraction that was read is less than a second. -/
theorem lt_of_fraction {n : Nat} {s rest : List Char} (h : fraction s = .ok (n, rest)) :
    n < 1000000000 := by
  unfold fraction at h
  split at h
  next s =>
    cases hnumber : number 9 s with
    | error e =>
      rw [hnumber] at h
      exact nomatch h
    | ok p =>
      obtain ⟨m, tail⟩ := p
      obtain ⟨k, hk, hlen, hm⟩ := number_lt (by decide) hnumber
      have hplaces : s.length - tail.length = k := by omega
      rw [hnumber] at h
      simp only [bind, Except.bind, pure, Except.pure, hplaces] at h
      cases h
      calc m * Nat.pow 10 (9 - k) < Nat.pow 10 k * Nat.pow 10 (9 - k) :=
            Nat.mul_lt_mul_of_pos_right hm (Nat.pow_pos (by decide))
        _ = Nat.pow 10 (k + (9 - k)) := (Nat.pow_add 10 k (9 - k)).symm
        _ = 1000000000 := by rw [Nat.add_sub_cancel' hk]
  next =>
    cases h
    decide

/-! ## Reading moments -/

/-- A moment that can be read: a date of the calendar and a time of day, whose minute may have a
sixty-first second. -/
structure IsReal (m : Moment) : Prop where
  /-- The date is one of the calendar. -/
  date : m.date.IsReal
  /-- The time is before midnight. -/
  second : m.second < 86400
  /-- A second and a sixty-first one are over. -/
  nanos : m.nanos < 2000000000
  /-- There is a sixty-first second at the end of a minute only. -/
  leap : 1000000000 ≤ m.nanos → m.second % 60 = 59

/-- A moment that was read can be read. -/
theorem isReal_of_ofText {text : String} {m : Moment} (h : ofText text = .ok m) : m.IsReal := by
  unfold ofText at h
  obtain ⟨⟨year, s⟩, -, h⟩ := exists_of_bind h
  obtain ⟨s, -, h⟩ := exists_of_bind h
  obtain ⟨⟨month, s⟩, -, h⟩ := exists_of_bind h
  obtain ⟨s, -, h⟩ := exists_of_bind h
  obtain ⟨⟨day, s⟩, -, h⟩ := exists_of_bind h
  obtain ⟨s, -, h⟩ := exists_of_bind h
  obtain ⟨⟨hour, s⟩, hhour, h⟩ := exists_of_bind h
  obtain ⟨s, -, h⟩ := exists_of_bind h
  obtain ⟨⟨minute, s⟩, hminute, h⟩ := exists_of_bind h
  obtain ⟨s, -, h⟩ := exists_of_bind h
  obtain ⟨⟨second, s⟩, hsecond, h⟩ := exists_of_bind h
  obtain ⟨⟨nanos, s⟩, hnanos, h⟩ := exists_of_bind h
  have hhour : hour ≤ 23 := (between_of_part hhour).2
  have hminute : minute ≤ 59 := (between_of_part hminute).2
  have hsecond : second ≤ 60 := (between_of_part hsecond).2
  have hnanos : nanos < 1000000000 := lt_of_fraction hnanos
  dsimp only at h
  split at h
  next => exact nomatch h
  next =>
    cases hdate : Date.make? year month day with
    | none =>
      rw [hdate] at h
      exact nomatch h
    | some date =>
      rw [hdate] at h
      cases h
      -- A sixty-first second is the one where the nanoseconds count on.
      refine ⟨Date.isReal_of_make? hdate, ?_, ?_, ?_⟩ <;> dsimp only <;> split <;> omega

/-- What is written of a moment, part after part. -/
theorem text_toList (m : Moment) : m.text.toList =
    (Date.yearText m.date.year).toList ++ '-' :: ((Decimal.padded 2 m.date.month).toList ++
      '-' :: ((Decimal.padded 2 m.date.day).toList ++
      'T' :: ((Decimal.padded 2 (m.second / 3600)).toList ++
      ':' :: ((Decimal.padded 2 (m.second / 60 % 60)).toList ++
      ':' :: ((Decimal.padded 2 (m.second % 60 + if 1000000000 ≤ m.nanos then 1 else 0)).toList ++
      (fractionText (if 1000000000 ≤ m.nanos then m.nanos - 1000000000 else m.nanos)).toList)))))
    := by
  have hdash : "-".toList = ['-'] := rfl
  have htime : "T".toList = ['T'] := rfl
  have hcolon : ":".toList = [':'] := rfl
  unfold text Date.text
  simp only [String.toList_append, List.append_assoc, hdash, htime, hcolon, List.cons_append,
    List.nil_append]

/-- The text of a moment that can be read is read as the moment. -/
theorem ofText_text {m : Moment} (hm : m.IsReal) : ofText m.text = .ok m := by
  obtain ⟨hdate, hsecond, hnanos, hleap⟩ := hm
  obtain ⟨hyear, hmonth, hday⟩ := hdate.bounds
  have hyearPart (rest : List Char) :
      yearPart ((Date.yearText m.date.year).toList ++ '-' :: rest) =
        .ok (m.date.year, '-' :: rest) :=
    yearPart_yearText hyear fun c hc => by cases hc; rfl
  have hseparator {c : Char} (hc : Text.isBlank c = false) (rest : List Char) :
      separator c (c :: rest) = .ok rest := by
    have htrim : Text.trimStart (c :: rest) = c :: rest :=
      List.dropWhile_cons_of_neg (ne_true_of_eq_false hc)
    unfold separator
    rw [htrim]
    exact if_pos rfl
  have hmonthPart := part_padded hmonth.1 hmonth.2 (by decide)
  have hdayPart := part_padded hday.1 hday.2 (by decide)
  have hhourPart (rest : List Char) :
      part 0 23 ((Decimal.padded 2 (m.second / 3600)).toList ++ rest) =
        .ok (m.second / 3600, rest) :=
    part_padded (Nat.zero_le _) (by omega) (by decide) rest
  have hminutePart (rest : List Char) :
      part 0 59 ((Decimal.padded 2 (m.second / 60 % 60)).toList ++ rest) =
        .ok (m.second / 60 % 60, rest) :=
    part_padded (Nat.zero_le _) (by omega) (by decide) rest
  have hsecondPart := part_padded (n := m.second % 60 + if 1000000000 ≤ m.nanos then 1 else 0)
    (Nat.zero_le _) (show _ ≤ 60 by split <;> omega) (by decide)
  have hfraction := fraction_fractionText
    (show (if 1000000000 ≤ m.nanos then m.nanos - 1000000000 else m.nanos) < 1000000000 by
      split <;> omega)
  have hmake : Date.make? m.date.year m.date.month m.date.day = some m.date := hdate
  have htrim : Text.trimStart [] = [] := rfl
  unfold ofText
  simp only [text_toList, hyearPart, hseparator (c := '-') rfl, hmonthPart, hdayPart,
    hseparator (c := 'T') rfl, hhourPart, hseparator (c := ':') rfl, hminutePart, hsecondPart,
    hfraction, htrim, List.isEmpty_nil, Bool.not_true, Bool.false_eq_true, if_false, hmake, bind,
    Except.bind, pure, Except.pure]
  -- What is left is to put the parts together again.
  obtain ⟨date, second, nanos⟩ := m
  dsimp only at hleap hsecond ⊢
  by_cases h : 1000000000 ≤ nanos
  · have hlast := hleap h
    have hsixty : second % 60 + 1 = 60 := by omega
    have htime : second / 3600 * 3600 + second / 60 % 60 * 60 + 59 = second := by omega
    have hrest : nanos - 1000000000 + 1000000000 = nanos := Nat.sub_add_cancel h
    simp only [if_pos h, hsixty, if_true, htime, hrest]
  · have hless : second % 60 ≠ 60 := by omega
    have htime : second / 3600 * 3600 + second / 60 % 60 * 60 + second % 60 = second := by omega
    simp only [if_neg h, Nat.add_zero, if_neg hless, htime]

end Moment

end Autoplay
