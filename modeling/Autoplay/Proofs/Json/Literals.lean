import Autoplay.Json.Reader
import Autoplay.Json.Writer
import Mathlib.Data.List.TakeWhile

/-!
# Texts and numbers between the quotes and commas

What is written between the quotes of a text is read as the text itself (`unescape_escape`), the
digits of a whole number of 64 bits as the number (`number?_toString`), and whatever is read as a
word or number is made of the characters of words (`isWordChar_of_wordToken?`).
-/

namespace Autoplay.Json

/-! ## Texts -/

/-- The four digits of an escaped control. -/
theorem hex4?_hexChar {n : Nat} (h : n < 0x20) :
    hex4? '0' '0' (hexChar (n / 16)) (hexChar (n % 16)) = some n := by
  have hall : ∀ n : Fin 0x20,
      hex4? '0' '0' (hexChar (n.val / 16)) (hexChar (n.val % 16)) = some n.val := by decide
  exact hall ⟨n, h⟩

/-- The forms that a character takes between the quotes: a backslash and a letter that stands for
it, a backslash and its number, or itself. -/
theorem escape_cases (c : Char) :
    (∃ d, escape c = ['\\', d] ∧ d ≠ 'u' ∧ escaped? d = some c) ∨
      (c.toNat < 0x20 ∧
        escape c = ['\\', 'u', '0', '0', hexChar (c.toNat / 16), hexChar (c.toNat % 16)]) ∨
      (escape c = [c] ∧ c ≠ '"' ∧ c ≠ '\\' ∧ ¬ c.toNat < 0x20) := by
  -- A control that has a letter of its own is given by its number.
  have hcontrol {n : Nat} (h : c.toNat = n) : c = Char.ofNat n := by rw [← h, Char.ofNat_toNat]
  unfold escape
  split
  next h => subst h; exact .inl ⟨'"', rfl, by decide, by decide⟩
  next hquote =>
  split
  next h => subst h; exact .inl ⟨'\\', rfl, by decide, by decide⟩
  next hbackslash =>
  split
  next h => subst h; exact .inl ⟨'n', rfl, by decide, by decide⟩
  split
  next h => subst h; exact .inl ⟨'r', rfl, by decide, by decide⟩
  split
  next h => subst h; exact .inl ⟨'t', rfl, by decide, by decide⟩
  split
  next h => rw [hcontrol h]; exact .inl ⟨'b', rfl, by decide, by decide⟩
  split
  next h => rw [hcontrol h]; exact .inl ⟨'f', rfl, by decide, by decide⟩
  split
  next h => exact .inr (.inl ⟨h, rfl⟩)
  next h => exact .inr (.inr ⟨rfl, hquote, hbackslash, h⟩)

/-- A backslash and `u` in what is written are followed by the four digits of a number. -/
theorem isSome_hex4?_of_escape {s rest : List Char} {e f g h : Char}
    (heq : s.flatMap escape = '\\' :: 'u' :: e :: f :: g :: h :: rest) :
    (hex4? e f g h).isSome = true := by
  cases s with
  | nil => exact nomatch heq
  | cons c s =>
    rw [List.flatMap_cons] at heq
    rcases escape_cases c with ⟨d, hd, hne, -⟩ | ⟨hlt, hd⟩ | ⟨hd, -, hne, -⟩
    · rw [hd] at heq
      exact absurd (List.cons.inj (List.cons.inj heq).2).1 hne
    · rw [hd] at heq
      simp only [List.cons_append, List.nil_append, List.cons.injEq] at heq
      obtain ⟨-, -, rfl, rfl, rfl, rfl, -⟩ := heq
      rw [hex4?_hexChar hlt]
      rfl
    · rw [hd] at heq
      exact absurd (List.cons.inj heq).1 hne

/-- A backslash and a letter stand for a character. -/
theorem unescape_letter {c d : Char} (hne : d ≠ 'u') (h : escaped? d = some c) (rest : List Char) :
    unescape ('\\' :: d :: rest) = (unescape rest).map (c :: ·) := by
  rw [unescape]
  · rw [h]
    cases unescape rest <;> rfl
  all_goals simp [hne]

/-- A backslash and a number below the surrogates stand for a character. -/
theorem unescape_number {n : Nat} (h : n < 0x20) {rest : List Char}
    (hrest : ∀ e f g h tail, rest = '\\' :: 'u' :: e :: f :: g :: h :: tail →
      (hex4? e f g h).isSome = true) :
    unescape ('\\' :: 'u' :: '0' :: '0' :: hexChar (n / 16) :: hexChar (n % 16) :: rest) =
      (unescape rest).map (Char.ofNat n :: ·) := by
  have hhex : hex4? '0' '0' (hexChar (n / 16)) (hexChar (n % 16)) = some n := hex4?_hexChar h
  have hlow : ¬ (0xD800 ≤ n ∧ n < 0xDC00) := by omega
  have hhigh : ¬ (0xDC00 ≤ n ∧ n < 0xE000) := by omega
  have hsurrogate : ¬ (0xD800 ≤ n ∧ n < 0xE000) := by omega
  -- The number of a second escape is read as well, in case it is the other half of a pair.
  by_cases hpair : ∃ e f g h tail, rest = '\\' :: 'u' :: e :: f :: g :: h :: tail
  · obtain ⟨e, f, g, h, tail, rfl⟩ := hpair
    obtain ⟨m, hm⟩ := Option.isSome_iff_exists.1 (hrest e f g h tail rfl)
    rw [unescape, hhex, hm]
    simp only [Option.bind_eq_bind, Option.bind_some]
    rw [if_neg hlow, if_neg hhigh]
    cases unescape ('\\' :: 'u' :: e :: f :: g :: h :: tail) <;> rfl
  · rw [unescape, hhex]
    · simp only [Option.bind_eq_bind, Option.bind_some]
      rw [if_neg hsurrogate]
      cases unescape rest <;> rfl
    · intro e f g h tail hrest
      exact hpair ⟨e, f, g, h, tail, hrest⟩

/-- What is written between the quotes of a text is read as the text. -/
theorem unescape_escape (s : List Char) : unescape (s.flatMap escape) = some s := by
  induction s with
  | nil => rfl
  | cons c s ih =>
    rw [List.flatMap_cons]
    rcases escape_cases c with ⟨d, hd, hne, hc⟩ | ⟨hlt, hd⟩ | ⟨hd, -, hne, hge⟩
    · rw [hd, List.cons_append, List.cons_append, List.nil_append, unescape_letter hne hc, ih]
      rfl
    · rw [hd]
      simp only [List.cons_append, List.nil_append]
      rw [unescape_number hlt fun _ _ _ _ _ => isSome_hex4?_of_escape, ih, Char.ofNat_toNat]
      rfl
    · rw [hd, List.cons_append, List.nil_append, unescape]
      · rw [if_neg (not_or.2 ⟨hne, hge⟩), ih]
        rfl
      all_goals simp [hne]

/-! ## Whole numbers -/

/-- The digits of a number do not start with a zero, unless it is zero. -/
theorem head?_toDigits {n : Nat} (h : (Nat.toDigits 10 n).head? = some '0') :
    Nat.toDigits 10 n = ['0'] := by
  induction n using Nat.strongRecOn with
  | ind n ih =>
    by_cases hn : n < 10
    · rw [Nat.toDigits_of_lt_base hn] at h ⊢
      exact congrArg (fun c => [c]) (Option.some.inj h)
    · -- The first digit is that of the number without its last digit, which is not zero.
      have hdiv : n / 10 < n := Nat.div_lt_self (by omega) (by decide)
      rw [Nat.toDigits_of_base_le (by decide) (by omega), List.head?_append,
        List.head?_eq_some_head Nat.toDigits_ne_nil, Option.some_or,
        ← List.head?_eq_some_head Nat.toDigits_ne_nil] at h
      have hzero : Nat.toDigits 10 (n / 10) = ['0'] := ih (n / 10) hdiv h
      have hvalue : n / 10 = 0 := by
        calc n / 10 = Nat.ofDigitChars 10 (Nat.toDigits 10 (n / 10)) 0 :=
              Nat.ofDigitChars_ten_toDigits.symm
          _ = Nat.ofDigitChars 10 ['0'] 0 := by rw [hzero]
          _ = 0 := rfl
      omega

namespace Literal

/-- Cuts what follows the sign into its parts. -/
def unsigned? (negative : Bool) (s : List Char) : Option Literal :=
  let whole := s.takeWhile Char.isDigit
  if whole = [] ∨ (whole.head? = some '0' ∧ whole ≠ ['0']) then none
  else do
    let (fraction, s) ← fractionPart? (s.dropWhile Char.isDigit)
    let exponent ← exponentPart? s
    some ⟨negative, whole, fraction, exponent⟩

/-- Behind a minus sign. -/
theorem ofChars?_minus (s : List Char) : ofChars? ('-' :: s) = unsigned? true s := rfl

/-- Without a sign. -/
theorem ofChars?_unsigned {s : List Char} (h : s.head? ≠ some '-') :
    ofChars? s = unsigned? false s := by
  cases s with
  | nil => rfl
  | cons c s =>
    have hc : c ≠ '-' := fun hc => h (congrArg some hc)
    unfold ofChars?
    split
    next negative t heq =>
      split at heq
      next hcons => exact absurd (List.cons.inj hcons).1 hc
      next =>
        cases heq
        rfl

/-- Digits make a literal without fraction and exponent. -/
theorem unsigned?_digits (negative : Bool) {ds : List Char}
    (hdigits : ∀ c ∈ ds, c.isDigit = true) (hne : ds ≠ [])
    (hhead : ds.head? = some '0' → ds = ['0']) :
    unsigned? negative ds = some ⟨negative, ds, none, none⟩ := by
  have htake : ds.takeWhile Char.isDigit = ds := List.takeWhile_eq_self_iff.2 hdigits
  have hdrop : ds.dropWhile Char.isDigit = [] := List.dropWhile_eq_nil_iff.2 hdigits
  have hcond : ¬ (ds = [] ∨ ds.head? = some '0' ∧ ds ≠ ['0']) :=
    not_or.2 ⟨hne, fun h => h.2 (hhead h.1)⟩
  unfold unsigned?
  dsimp only
  rw [htake, hdrop, if_neg hcond]
  rfl

end Literal

/-- A natural number below the limit is read back. -/
theorem number?_nat {n : Nat} (h : n < wordLimit) :
    number? (Nat.toDigits 10 n) = some (.integer n) := by
  have hdigits : ∀ c ∈ Nat.toDigits 10 n, c.isDigit = true :=
    fun _ hc => Nat.isDigit_of_mem_toDigits (by decide) (by decide) hc
  have hsign : (Nat.toDigits 10 n).head? ≠ some '-' := fun hhead =>
    absurd (hdigits '-' (List.mem_of_head? hhead)) (by decide)
  have hvalue : decimal (Nat.toDigits 10 n) = n := Nat.ofDigitChars_ten_toDigits
  unfold number?
  rw [Literal.ofChars?_unsigned hsign,
    Literal.unsigned?_digits false hdigits Nat.toDigits_ne_nil head?_toDigits, Option.bind_some]
  unfold Literal.value?
  simp only [hvalue]
  exact if_pos ⟨rfl, rfl, rfl, h⟩

/-- So is a negative number, down to the least one. -/
theorem number?_neg {n : Nat} (hpos : 0 < n) (h : n ≤ 0x8000000000000000) :
    number? ('-' :: Nat.toDigits 10 n) = some (.integer (-n)) := by
  have hdigits : ∀ c ∈ Nat.toDigits 10 n, c.isDigit = true :=
    fun _ hc => Nat.isDigit_of_mem_toDigits (by decide) (by decide) hc
  have hvalue : decimal (Nat.toDigits 10 n) = n := Nat.ofDigitChars_ten_toDigits
  unfold number?
  rw [Literal.ofChars?_minus,
    Literal.unsigned?_digits true hdigits Nat.toDigits_ne_nil head?_toDigits, Option.bind_some]
  unfold Literal.value?
  simp only [hvalue]
  rw [if_neg (by simp)]
  exact if_pos ⟨rfl, rfl, trivial, hpos, h⟩

/-- A whole number of 64 bits, with a sign or without, is read back. -/
theorem number?_toString {n : Int} (hlow : -0x8000000000000000 ≤ n)
    (hhigh : n < 0x10000000000000000) : number? (toString n).toList = some (.integer n) := by
  cases n with
  | ofNat n =>
    have htext : (toString (Int.ofNat n)).toList = Nat.toDigits 10 n := Nat.toList_repr
    have hlimit : n < wordLimit := Int.ofNat_lt.1 hhigh
    rw [htext]
    exact number?_nat hlimit
  | negSucc n =>
    have htext : (toString (Int.negSucc n)).toList = '-' :: Nat.toDigits 10 (n + 1) := by
      show ("-" ++ (n + 1).repr).toList = _
      rw [String.toList_append, Nat.toList_repr]
      rfl
    rw [htext]
    exact number?_neg (Nat.succ_pos n) (by omega)

/-- What is read as a number is one. -/
theorem number?_cases {s : List Char} {d : Document} (h : number? s = some d) :
    (∃ n, d = .integer n) ∨ ∃ x, d = .float x := by
  obtain ⟨l, -, hl⟩ := Option.bind_eq_some_iff.1 h
  unfold Literal.value? at hl
  dsimp only at hl
  split at hl
  next => exact .inl ⟨_, (Option.some.inj hl).symm⟩
  split at hl
  next => exact .inl ⟨_, (Option.some.inj hl).symm⟩
  next =>
    obtain ⟨x, -, hx⟩ := Option.map_eq_some_iff.1 hl
    exact .inr ⟨_, hx.symm⟩

/-! ## Characters of words -/

/-- Digits are characters of words. -/
theorem isWordChar_of_isDigit {c : Char} (h : c.isDigit = true) : isWordChar c = true := by
  simp [isWordChar, Char.isAlphanum, h]

/-- What is read as an exponent is made of characters of words. -/
theorem isWordChar_of_exponentPart? {s : List Char} {e : Option (Bool × List Char)}
    (h : Literal.exponentPart? s = some e) : ∀ c ∈ s, isWordChar c = true := by
  cases s with
  | nil => exact List.forall_mem_nil _
  | cons c s =>
    unfold Literal.exponentPart? at h
    dsimp only at h
    split at h
    next hc =>
      have hletter : isWordChar c = true := by rcases hc with rfl | rfl <;> rfl
      have hall {ds : List Char} (hds : (ds.all Char.isDigit) = true ∧ ds ≠ []) :
          ∀ c ∈ ds, isWordChar c = true :=
        fun c hc => isWordChar_of_isDigit (List.all_eq_true.1 hds.1 c hc)
      refine List.forall_mem_cons.2 ⟨hletter, ?_⟩
      -- The digits may stand behind a sign.
      split at h
      next ds =>
        split at h
        next hds => exact List.forall_mem_cons.2 ⟨rfl, hall hds⟩
        next => exact nomatch h
      next ds =>
        split at h
        next hds => exact List.forall_mem_cons.2 ⟨rfl, hall hds⟩
        next => exact nomatch h
      next =>
        split at h
        next hds => exact hall hds
        next => exact nomatch h
    next => exact nomatch h

/-- So is what is read as a fraction, if what follows is. -/
theorem isWordChar_of_fractionPart? {s rest : List Char} {f : Option (List Char)}
    (h : Literal.fractionPart? s = some (f, rest)) (hrest : ∀ c ∈ rest, isWordChar c = true) :
    ∀ c ∈ s, isWordChar c = true := by
  unfold Literal.fractionPart? at h
  split at h
  next s =>
    dsimp only at h
    split at h
    next => exact nomatch h
    next =>
      cases h
      refine List.forall_mem_cons.2 ⟨rfl, ?_⟩
      rw [← List.takeWhile_append_dropWhile (p := Char.isDigit) (l := s)]
      refine List.forall_mem_append.2 ⟨fun c hc => ?_, hrest⟩
      exact isWordChar_of_isDigit (List.mem_takeWhile_imp hc)
  next =>
    cases h
    exact hrest

/-- And so is the whole of a literal behind its sign. -/
theorem isWordChar_of_unsigned? {s : List Char} {negative : Bool} {l : Literal}
    (h : Literal.unsigned? negative s = some l) : s ≠ [] ∧ ∀ c ∈ s, isWordChar c = true := by
  unfold Literal.unsigned? at h
  dsimp only at h
  split at h
  next => exact nomatch h
  next hwhole =>
    have hne : s.takeWhile Char.isDigit ≠ [] := fun hnil => hwhole (.inl hnil)
    obtain ⟨⟨fraction, rest⟩, hfraction, h⟩ := Option.bind_eq_some_iff.1 h
    obtain ⟨e, hexponent, -⟩ := Option.bind_eq_some_iff.1 h
    have hdrop : ∀ c ∈ s.dropWhile Char.isDigit, isWordChar c = true :=
      isWordChar_of_fractionPart? hfraction (isWordChar_of_exponentPart? hexponent)
    refine ⟨fun hs => hne (by rw [hs]; rfl), ?_⟩
    rw [← List.takeWhile_append_dropWhile (p := Char.isDigit) (l := s)]
    refine List.forall_mem_append.2 ⟨fun c hc => ?_, hdrop⟩
    exact isWordChar_of_isDigit (List.mem_takeWhile_imp hc)

/-- What is read as a number is made of characters of words. -/
theorem isWordChar_of_number? {s : List Char} {d : Document} (h : number? s = some d) :
    s ≠ [] ∧ ∀ c ∈ s, isWordChar c = true := by
  obtain ⟨l, hl, -⟩ := Option.bind_eq_some_iff.1 h
  by_cases hsign : s.head? = some '-'
  · obtain ⟨rest, rfl⟩ := List.head?_eq_some_iff.1 hsign
    rw [Literal.ofChars?_minus] at hl
    exact ⟨List.cons_ne_nil _ _, List.forall_mem_cons.2 ⟨rfl, (isWordChar_of_unsigned? hl).2⟩⟩
  · rw [Literal.ofChars?_unsigned hsign] at hl
    exact isWordChar_of_unsigned? hl

/-- So is what is read as a word or number. -/
theorem isWordChar_of_wordToken? {s : List Char} {t : Token} (h : wordToken? s = some t) :
    s ≠ [] ∧ ∀ c ∈ s, isWordChar c = true := by
  have hword {c : Char} {w : List Char} (hs : s = c :: w) (hw : (c :: w).all isWordChar = true) :
      s ≠ [] ∧ ∀ c ∈ s, isWordChar c = true :=
    ⟨hs ▸ List.cons_ne_nil c w, hs ▸ List.all_eq_true.1 hw⟩
  unfold wordToken? at h
  split at h
  next hs => exact hword hs rfl
  split at h
  next hs => exact hword hs rfl
  split at h
  next hs => exact hword hs rfl
  next =>
    obtain ⟨d, hd, -⟩ := Option.map_eq_some_iff.1 h
    exact isWordChar_of_number? hd

/-- A number is read as a word. -/
theorem wordToken?_of_number? {s : List Char} {d : Document} (h : number? s = some d) :
    wordToken? s = some (.plain d) := by
  -- The words are no numbers.
  have hne {w : List Char} (hw : number? w = none) : s ≠ w := fun hs => by
    rw [hs, hw] at h
    exact nomatch h
  unfold wordToken?
  rw [if_neg (hne rfl), if_neg (hne rfl), if_neg (hne rfl), h]
  rfl

end Autoplay.Json
