import Mathlib.Data.List.Infix
import Autoplay.Proofs.Single.Order
import Autoplay.Proofs.Text.Plain
import Autoplay.Recognition.NameMatch

/-!
# Names are found in their order

Of the names that a text is compared with, the first one that is accepted is found. So a lower
threshold never finds a later name, names behind the one that is found do not matter, and neither do
those in front of it; and a name that is part of the text, or of which the text is part, is found
unless an earlier one is, whatever the threshold: `findName_in_order`. The last needs that a text
that is not blank leaves something to compare (`normalized_ne_nil`).
-/

namespace Autoplay.Recognition

/-! ## What is accepted -/

/-- A text that is not blank leaves something to compare. -/
theorem normalized_ne_nil {s : String} (h : Text.allBlank s = false) : normalized s ≠ [] := by
  obtain ⟨c, hc, hsolid⟩ := Text.compatibilityForm_solid h
  apply Text.lowercase_ne_nil
  apply List.ne_nil_of_mem (a := c)
  rw [List.mem_filter, hsolid]
  exact ⟨hc, rfl⟩

/-- Of an ASCII text, the letters are compared as small ones and the blanks not at all. -/
theorem normalized_ascii {s : String} (h : (s.toList.all fun c => c.toNat < 128) = true) :
    normalized s = (s.toList.filter fun c => !Text.isBlank c).map Char.toLower := by
  have hascii (c : Char) (hc : c ∈ s.toList) : c.toNat < 128 :=
    of_decide_eq_true (List.all_eq_true.mp h c hc)
  have hform : Text.compatibilityForm s = s := by
    have hplain := Text.compatibilityForm_plain fun c hc => Nat.lt_trans (hascii c hc) (by decide)
    rwa [String.ofList_toList] at hplain
  rw [normalized, hform, Text.lowercase_ascii fun c hc => hascii c (List.mem_of_mem_filter hc),
    String.toList_ofList]

/-- One text is part of another one where it stands in it without gaps. -/
theorem isPart_iff {part whole : List Char} : Text.isPart part whole = true ↔ part <:+: whole := by
  induction whole with
  | nil => rw [Text.isPart, List.isEmpty_iff, List.infix_nil]
  | cons c whole ih =>
    rw [Text.isPart, Bool.or_eq_true, List.isPrefixOf_iff_prefix, ih, List.infix_cons_iff]

/-- A name that is accepted at one threshold is accepted at every lower one. -/
theorem accepts_mono {text name : List Char} {least stricter : Float32} (h : least ≤ stricter)
    (haccepts : accepts text stricter name = true) : accepts text least name = true := by
  simp only [accepts, Bool.and_eq_true, Bool.or_eq_true, decide_eq_true_eq] at haccepts ⊢
  exact ⟨haccepts.1, haccepts.2.imp_right (single_le_trans h)⟩

/-- A name that is part of the text, or of which the text is part, is accepted at every
threshold. -/
theorem accepts_of_part {text name : List Char} (htext : text ≠ []) (hname : name ≠ [])
    (h : name <:+: text ∨ text <:+: name) (least : Float32) : accepts text least name = true := by
  have hcontains : containsEither text name = true := by
    rw [← isPart_iff, ← isPart_iff] at h
    simp [containsEither, htext, hname, h]
  simp [accepts, hname, hcontains]

/-! ## The place of the name that is found -/

/-- The place among the names of the one that is found. -/
def findPlace (text : String) (names : List String) (least : Float32) : Option Nat :=
  if Text.allBlank text then none
  else names.findIdx? fun name => accepts (normalized text) least (normalized name)

variable {text : String} {names : List String} {least : Float32} {i : Nat}

/-- In a text that is not blank, the first name that is accepted is found. -/
theorem findPlace_eq (htext : Text.allBlank text = false) (names : List String) (least : Float32) :
    findPlace text names least =
      names.findIdx? fun name => accepts (normalized text) least (normalized name) := by
  rw [findPlace, htext]
  exact if_neg Bool.false_ne_true

/-- Nothing is found in a blank text. -/
theorem not_blank_of_findPlace (hi : findPlace text names least = some i) :
    Text.allBlank text = false := by
  unfold findPlace at hi
  split_ifs at hi with htext
  exact eq_false_of_ne_true htext

/-- The name that is found is the one at that place. -/
theorem findName_eq (text : String) (names : List String) (least : Float32) :
    findName text names least = (findPlace text names least).bind (names[·]?) := by
  unfold findName findPlace
  split_ifs
  · rfl
  · dsimp only
    cases hplace : names.findIdx? fun name => accepts (normalized text) least (normalized name) with
    | none =>
      rw [List.findIdx?_eq_none_iff] at hplace
      rw [Option.bind_none, List.find?_eq_none]
      intro name hname
      rw [hplace name hname]
      exact Bool.false_ne_true
    | some i =>
      rw [List.findIdx?_eq_some_iff_findIdx_eq] at hplace
      rw [List.find?_eq_getElem?_findIdx, hplace.2, Option.bind_some]

/-- At a lower threshold an earlier name is found, if not the same. -/
theorem findPlace_mono {stricter : Float32} (h : least ≤ stricter)
    (hi : findPlace text names stricter = some i) :
    ∃ j ≤ i, findPlace text names least = some j := by
  have htext := not_blank_of_findPlace hi
  rw [findPlace_eq htext] at hi ⊢
  exact List.findIdx?_eq_some_le_of_findIdx?_eq_some (fun name _ => accepts_mono h) hi

/-- Names that are added behind the one that is found do not matter. -/
theorem findPlace_append (hi : findPlace text names least = some i) (more : List String) :
    findPlace text (names ++ more) least = some i := by
  have htext := not_blank_of_findPlace hi
  rw [findPlace_eq htext] at hi ⊢
  rw [List.findIdx?_append, hi, Option.some_or]

/-- Of the names in front of the one that is found, any can be left out. -/
theorem findPlace_leaveOut (hi : findPlace text names least = some i) {kept : List String}
    (hkept : kept.Sublist (names.take i)) :
    findPlace text (kept ++ names.drop i) least = some kept.length := by
  have htext := not_blank_of_findPlace hi
  rw [findPlace_eq htext] at hi ⊢
  obtain ⟨hlt, haccepts, hbefore⟩ := List.findIdx?_eq_some_iff_getElem.mp hi
  have hnone : kept.findIdx? (fun name => accepts (normalized text) least (normalized name)) =
      none := by
    rw [List.findIdx?_eq_none_iff]
    intro name hname
    obtain ⟨j, hj, rfl⟩ := List.mem_take_iff_getElem.mp (hkept.subset hname)
    exact eq_false_of_ne_true (hbefore j (by omega))
  rw [List.findIdx?_append, hnone, Option.none_or, List.drop_eq_getElem_cons hlt,
    List.findIdx?_cons, if_pos haccepts, Option.map_some, Nat.zero_add]

/-- No later name is found than one that is accepted. -/
theorem findPlace_le {j : Nat} {name : String} (hj : names[j]? = some name)
    (htext : Text.allBlank text = false)
    (haccepts : accepts (normalized text) least (normalized name) = true) :
    ∃ i ≤ j, findPlace text names least = some i := by
  obtain ⟨hlt, rfl⟩ := List.getElem?_eq_some_iff.mp hj
  rw [findPlace_eq htext]
  refine ⟨_, ?_, List.findIdx?_eq_some_of_exists ⟨_, List.getElem_mem hlt, haccepts⟩⟩
  by_contra hlater
  rw [List.not_of_lt_findIdx (Nat.lt_of_not_le hlater)] at haccepts
  exact Bool.false_ne_true haccepts

/-! ## The names in their order -/

/-- A text is compared with names in their order. At a lower threshold no later name is found. Names
that are added behind the one that is found do not change it, nor does leaving out names in front of
it. And if a text is not blank, then a name that stands in it, or in which it stands, is found
unless an earlier one is, whatever the threshold. -/
theorem findName_in_order (text : String) (names : List String) (least : Float32) :
    findName text names least = (findPlace text names least).bind (names[·]?) ∧
      (∀ stricter i, least ≤ stricter → findPlace text names stricter = some i →
        ∃ j ≤ i, findPlace text names least = some j) ∧
      (∀ i, findPlace text names least = some i →
        (∀ more, findPlace text (names ++ more) least = some i ∧
          findName text (names ++ more) least = findName text names least) ∧
        ∀ kept : List String, kept.Sublist (names.take i) →
          findPlace text (kept ++ names.drop i) least = some kept.length ∧
          findName text (kept ++ names.drop i) least = findName text names least) ∧
      ∀ j name, names[j]? = some name → Text.allBlank text = false → normalized name ≠ [] →
        (normalized name <:+: normalized text ∨ normalized text <:+: normalized name) →
        ∃ i ≤ j, findPlace text names least = some i := by
  refine ⟨findName_eq text names least, fun stricter i h hi => findPlace_mono h hi, ?_, ?_⟩
  · intro i hi
    have hlt : i < names.length := by
      rw [findPlace_eq (not_blank_of_findPlace hi)] at hi
      exact (List.findIdx?_eq_some_iff_getElem.mp hi).1
    refine ⟨fun more => ⟨findPlace_append hi more, ?_⟩,
      fun kept hkept => ⟨findPlace_leaveOut hi hkept, ?_⟩⟩
    · rw [findName_eq, findName_eq, findPlace_append hi, hi, Option.bind_some, Option.bind_some,
        List.getElem?_append_left hlt]
    · rw [findName_eq, findName_eq, findPlace_leaveOut hi hkept, hi, Option.bind_some,
        Option.bind_some, List.getElem?_append_right (Nat.le_refl _), Nat.sub_self,
        List.getElem?_drop, Nat.add_zero]
  · intro j name hj htext hname hpart
    exact findPlace_le hj htext (accepts_of_part (normalized_ne_nil htext) hname hpart least)

/-- What is compared of the texts below. -/
theorem normalized_conny :
    normalized "Conny" = ['c', 'o', 'n', 'n', 'y'] ∧
      normalized "Brown" = ['b', 'r', 'o', 'w', 'n'] ∧
      normalized " " = [] ∧ normalized "Cony" = ['c', 'o', 'n', 'y'] ∧
      normalized "NEW! Cony" = ['n', 'e', 'w', '!', 'c', 'o', 'n', 'y'] := by
  refine ⟨?_, ?_, ?_, ?_, ?_⟩ <;> rw [normalized_ascii (by decide)] <;> decide

/-- A name with a character too many is found behind another name and a blank one. -/
theorem findPlace_conny : findPlace "Conny" ["Brown", " ", "Cony"] 0.6 = some 2 := by
  obtain ⟨hconny, hbrown, hblank, hcony, -⟩ := normalized_conny
  rw [findPlace_eq (by decide)]
  simp only [List.findIdx?_cons, hconny, hbrown, hblank, hcony]
  decide +kernel

/-- A misread name is found in its place, not behind it at a lower threshold, just as well with more
names behind it or fewer in front of it; and a name that stands in a text is found at a threshold
that is no number. -/
theorem cony_found_in_order :
    ((0.3 : Float32) ≤ 0.6 ∧ findPlace "Conny" ["Brown", " ", "Cony"] 0.6 = some 2 ∧
      ∃ j ≤ 2, findPlace "Conny" ["Brown", " ", "Cony"] 0.3 = some j) ∧
    findName "Conny" (["Brown", " ", "Cony"] ++ ["Conny"]) (0.6 : Float32) =
      findName "Conny" ["Brown", " ", "Cony"] (0.6 : Float32) ∧
    ([" "].Sublist (["Brown", " ", "Cony"].take 2) ∧
      findPlace "Conny" ([" "] ++ ["Brown", " ", "Cony"].drop 2) 0.6 = some 1) ∧
    ((["Brown", " ", "Cony"][2]? = some "Cony" ∧ Text.allBlank "NEW! Cony" = false ∧
      normalized "Cony" ≠ [] ∧ normalized "Cony" <:+: normalized "NEW! Cony") ∧
      ∃ i ≤ 2, findPlace "NEW! Cony" ["Brown", " ", "Cony"] (0 / 0) = some i) := by
  obtain ⟨-, -, -, hcony, hbanner⟩ := normalized_conny
  have hless : (0.3 : Float32) ≤ 0.6 := by decide +kernel
  have hkept : [" "].Sublist (["Brown", " ", "Cony"].take 2) := by decide
  have hne : normalized "Cony" ≠ [] := by
    rw [hcony]
    exact List.cons_ne_nil _ _
  have hpart : normalized "Cony" <:+: normalized "NEW! Cony" := by
    rw [hcony, hbanner]
    decide
  have hlow := findName_in_order "Conny" ["Brown", " ", "Cony"] 0.3
  have hat := findName_in_order "Conny" ["Brown", " ", "Cony"] 0.6
  have hnan := findName_in_order "NEW! Cony" ["Brown", " ", "Cony"] (0 / 0)
  have hplace := hat.2.2.1 2 findPlace_conny
  exact ⟨⟨hless, findPlace_conny, hlow.2.1 _ _ hless findPlace_conny⟩, (hplace.1 _).2,
    ⟨hkept, (hplace.2 _ hkept).1⟩, ⟨rfl, by decide, hne, hpart⟩,
    hnan.2.2.2 2 "Cony" rfl (by decide) hne (.inl hpart)⟩

end Autoplay.Recognition
