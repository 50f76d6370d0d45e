import Autoplay.Files.Tree

/-!
# Names in paths

What the text of a path says when a name is put behind it: `Path.join folder n` has the parts of the
folder and then the name (`parts_join`), the name is its last one (`fileName?_join`), and the path
that it lies in is again one of the folder (`parent?_join`). Paths that differ only in separators
and steps to the same place are told apart by their text and not by where they lead; `Path.Alike`
states that two of them are of this kind.
-/

namespace Autoplay

/-- What may be the name of a file or a folder. -/
structure FileTree.IsName (n : String) : Prop where
  /-- It is not empty. -/
  ne_empty : n ≠ ""
  /-- It does not stand for the folder itself. -/
  ne_here : n ≠ "."
  /-- It does not stand for the folder above. -/
  ne_up : n ≠ ".."
  /-- It holds no separator. -/
  no_separator : '/' ∉ n.toList
  /-- It holds no zero character. -/
  no_zero : Char.ofNat 0 ∉ n.toList
  /-- It is not too long. -/
  short : n.utf8ByteSize ≤ FileTree.nameLimit

instance (n : String) : Decidable (FileTree.IsName n) :=
  decidable_of_iff (n ≠ "" ∧ n ≠ "." ∧ n ≠ ".." ∧ '/' ∉ n.toList ∧ Char.ofNat 0 ∉ n.toList ∧
      n.utf8ByteSize ≤ FileTree.nameLimit)
    ⟨fun ⟨h, h', h'', hs, hz, hl⟩ => ⟨h, h', h'', hs, hz, hl⟩,
      fun h => ⟨h.ne_empty, h.ne_here, h.ne_up, h.no_separator, h.no_zero, h.short⟩⟩

namespace Path

/-! ## Parts -/

/-- The parts among some characters. -/
def partsOf (s : List Char) : List String :=
  ((piecesAfter [] s).filter fun p => p ≠ [] && p ≠ ['.']).map String.ofList

/-- A separator ends a piece. -/
theorem piecesAfter_append (part a b : List Char) :
    piecesAfter part (a ++ '/' :: b) = piecesAfter part a ++ piecesAfter [] b := by
  induction a generalizing part with
  | nil => simp [piecesAfter]
  | cons c a ih =>
    simp only [List.cons_append, piecesAfter]
    split
    · rw [ih, List.cons_append]
    · rw [ih]

/-- Without a separator there is one piece. -/
theorem piecesAfter_of_not_mem {s : List Char} (h : '/' ∉ s) (part : List Char) :
    piecesAfter part s = [part.reverse ++ s] := by
  induction s generalizing part with
  | nil => simp [piecesAfter]
  | cons c s ih =>
    obtain ⟨hc, hs⟩ := not_or.1 (mt List.mem_cons.2 h)
    rw [piecesAfter, if_neg (Ne.symm hc), ih hs, List.reverse_cons, List.append_assoc,
      List.singleton_append]

/-- The parts on both sides of a separator. -/
theorem partsOf_append (a b : List Char) : partsOf (a ++ '/' :: b) = partsOf a ++ partsOf b := by
  simp only [partsOf, piecesAfter_append, List.filter_append, List.map_append]

/-- A separator at the end adds no part. -/
theorem partsOf_separator (a : List Char) : partsOf (a ++ ['/']) = partsOf a := by
  rw [partsOf_append]
  exact List.append_nil _

/-- A step to the same place adds no part. -/
theorem partsOf_here (a : List Char) : partsOf (a ++ ['/', '.']) = partsOf a := by
  rw [partsOf_append]
  exact List.append_nil _

/-- A name has one part. -/
theorem partsOf_name {n : String} (hn : FileTree.IsName n) : partsOf n.toList = [n] := by
  have hempty : n.toList ≠ [] := fun h => hn.ne_empty (String.toList_eq_nil_iff.1 h)
  have hhere : n.toList ≠ ['.'] := fun h => hn.ne_here (String.toList_inj.1 h)
  rw [partsOf, piecesAfter_of_not_mem hn.no_separator]
  simp [hempty, hhere, String.ofList_toList]

/-! ## Paths that lead to the same place -/

/-- Two paths start at the same place and have the same parts, and both can be followed. -/
structure Alike (p r : String) : Prop where
  /-- The second one is not empty. -/
  ne_empty : r ≠ ""
  /-- The second one holds no zero character. -/
  no_zero : Char.ofNat 0 ∉ r.toList
  /-- They have the same parts. -/
  parts : parts r = parts p
  /-- Both start at the root or none does. -/
  isAbsolute : isAbsolute r = isAbsolute p

/-- A path that can be followed is one of its kind. -/
theorem Alike.refl {p : String} (hne : p ≠ "") (hz : Char.ofNat 0 ∉ p.toList) : Alike p p :=
  ⟨hne, hz, rfl, rfl⟩

/-- Paths of one kind with a third are of one kind. -/
theorem Alike.trans {p r q : String} (h : Alike p r) (h' : Alike r q) : Alike p q :=
  ⟨h'.ne_empty, h'.no_zero, h'.parts.trans h.parts, h'.isAbsolute.trans h.isAbsolute⟩

/-- What is left by trimming is not empty and ends as before, with the same parts. -/
theorem trimEnd_spec (s : List Char) :
    (trimEnd s).getLast? = s.getLast? ∧ partsOf (trimEnd s).reverse = partsOf s.reverse ∧
      ∀ c ∈ trimEnd s, c ∈ s := by
  fun_induction trimEnd s with
  | case1 => exact ⟨rfl, rfl, fun _ hc => hc⟩
  | case2 rest hrest ih =>
    obtain ⟨hlast, hparts, hmem⟩ := ih
    refine ⟨?_, ?_, fun c hc => List.mem_cons_of_mem _ (hmem c hc)⟩
    · rw [hlast, List.getLast?_cons_of_ne_nil hrest]
    · rw [hparts, List.reverse_cons, partsOf_separator]
  | case3 => exact ⟨rfl, rfl, fun c hc => by simp_all⟩
  | case4 rest hrest ih =>
    obtain ⟨hlast, hparts, hmem⟩ := ih
    refine ⟨?_, ?_, fun c hc => List.mem_cons_of_mem _ (List.mem_cons_of_mem _ (hmem c hc))⟩
    · rw [hlast, List.getLast?_cons_cons, List.getLast?_cons_of_ne_nil hrest]
    · rw [hparts, List.reverse_cons, List.reverse_cons, List.append_assoc]
      exact (partsOf_here _).symm
  | case5 => exact ⟨rfl, rfl, fun _ hc => hc⟩

/-- At its end a name has neither a separator nor a step to the same place. -/
theorem name_reverse {n : String} (hn : FileTree.IsName n) :
    (∃ c, n.toList.reverse = [c] ∧ c ≠ '/' ∧ c ≠ '.') ∨
      ∃ c d rest, n.toList.reverse = c :: d :: rest ∧ c ≠ '/' ∧ d ≠ '/' := by
  have hslash : '/' ∉ n.toList.reverse := fun h => hn.no_separator (List.mem_reverse.1 h)
  match hr : n.toList.reverse with
  | [] => exact absurd (String.toList_eq_nil_iff.1 (List.reverse_eq_nil_iff.1 hr)) hn.ne_empty
  | [c] =>
    rw [hr] at hslash
    have hdot : c ≠ '.' := by
      rintro rfl
      have hlist : n.toList = ['.'] := by rw [← List.reverse_reverse n.toList, hr]; rfl
      exact hn.ne_here (String.toList_inj.1 hlist)
    exact .inl ⟨c, rfl, fun h => hslash (h ▸ List.mem_cons_self), hdot⟩
  | c :: d :: rest =>
    rw [hr] at hslash
    exact .inr ⟨c, d, rest, rfl, fun h => hslash (h ▸ List.mem_cons_self),
      fun h => hslash (h ▸ List.mem_cons_of_mem _ List.mem_cons_self)⟩

/-- Nothing is trimmed behind a name. -/
theorem trimEnd_name {n : String} (hn : FileTree.IsName n) (g : List Char) :
    trimEnd (n.toList.reverse ++ '/' :: g) = n.toList.reverse ++ '/' :: g := by
  obtain ⟨c, hr, hc, hdot⟩ | ⟨c, d, rest, hr, hc, hd⟩ := name_reverse hn
  · rw [hr]
    simp [trimEnd, hc, hdot]
  · rw [hr]
    simp [trimEnd, hc, hd]

section Join

variable {folder n : String}

/-- A name is no absolute path. -/
theorem isAbsolute_name (hn : FileTree.IsName n) : isAbsolute n = false := by
  have hslash := hn.no_separator
  unfold isAbsolute
  cases h : n.toList with
  | nil => rfl
  | cons c rest =>
    rw [h] at hslash
    have hc : c ≠ '/' := fun e => hslash (e ▸ List.mem_cons_self)
    simp [hc]

/-- Between a folder and a name there is a separator, the last one of the folder or a new one. -/
theorem join_toList (hf : folder ≠ "") (hn : FileTree.IsName n) :
    ∃ g, (join folder n).toList = g ++ '/' :: n.toList ∧
      (folder.toList = g ∧ g ≠ [] ∨ folder.toList = g ++ ['/']) := by
  have hempty : folder.isEmpty = false := by
    simpa [String.isEmpty_iff] using hf
  rw [join, isAbsolute_name hn, hempty]
  simp only [Bool.false_eq_true, if_false, Bool.false_or]
  split
  · next h =>
    obtain ⟨g, hg⟩ := List.getLast?_eq_some_iff.1 (eq_of_beq h)
    refine ⟨g, ?_, .inr hg⟩
    rw [String.toList_append, hg, List.append_assoc, List.singleton_append]
  · refine ⟨folder.toList, ?_, .inl ⟨rfl, fun h => hf (String.toList_eq_nil_iff.1 h)⟩⟩
    rw [String.toList_append, String.toList_append, List.append_assoc]
    rfl

/-- A path with a name behind it has the parts of the path and then the name. -/
theorem parts_join (hf : folder ≠ "") (hn : FileTree.IsName n) :
    parts (join folder n) = parts folder ++ [n] := by
  obtain ⟨g, hjoin, hfolder⟩ := join_toList hf hn
  have hg : partsOf g = parts folder := by
    obtain ⟨h, -⟩ | h := hfolder
    · rw [← h]
      rfl
    · rw [← partsOf_separator, ← h]
      rfl
  show partsOf (join folder n).toList = _
  rw [hjoin, partsOf_append, hg, partsOf_name hn]

/-- The name is the last one of the path. -/
theorem fileName?_join (hf : folder ≠ "") (hn : FileTree.IsName n) :
    fileName? (join folder n) = some n := by
  rw [fileName?, parts_join hf hn, List.getLast?_concat]
  split
  · next h => exact absurd (Option.some.inj h) hn.ne_up
  · rfl

/-- The name does not change where the path starts. -/
theorem isAbsolute_join (hf : folder ≠ "") (hn : FileTree.IsName n) :
    isAbsolute (join folder n) = isAbsolute folder := by
  obtain ⟨g, hjoin, ⟨h, hg⟩ | h⟩ := join_toList hf hn
  · obtain ⟨c, g, rfl⟩ := List.exists_cons_of_ne_nil hg
    rw [isAbsolute, isAbsolute, hjoin, h]
    rfl
  · rw [isAbsolute, isAbsolute, hjoin, h]
    cases g <;> rfl

/-- A path with a name behind it is not empty. -/
theorem join_ne_empty (hf : folder ≠ "") (hn : FileTree.IsName n) : join folder n ≠ "" := by
  intro h
  obtain ⟨g, hjoin, -⟩ := join_toList hf hn
  rw [h] at hjoin
  exact absurd hjoin (by simp)

/-- The name brings no zero character. -/
theorem join_no_zero (hf : folder ≠ "") (hn : FileTree.IsName n)
    (hz : Char.ofNat 0 ∉ folder.toList) : Char.ofNat 0 ∉ (join folder n).toList := by
  obtain ⟨g, hjoin, hfolder⟩ := join_toList hf hn
  have hg : Char.ofNat 0 ∉ g := by
    obtain ⟨h, -⟩ | h := hfolder
    · rwa [← h]
    · exact fun hmem => hz (h ▸ List.mem_append_left _ hmem)
  rw [hjoin, List.mem_append, List.mem_cons]
  rintro (h | h | h)
  · exact hg h
  · exact absurd h (by decide)
  · exact hn.no_zero h

/-- A name behind paths of one kind leads to paths of one kind. -/
theorem Alike.join {r : String} (hf : folder ≠ "") (h : Alike folder r)
    (hn : FileTree.IsName n) : Alike (Path.join folder n) (Path.join r n) := by
  refine ⟨join_ne_empty h.ne_empty hn, join_no_zero h.ne_empty hn h.no_zero, ?_, ?_⟩
  · rw [parts_join h.ne_empty hn, parts_join hf hn, h.parts]
  · rw [isAbsolute_join h.ne_empty hn, isAbsolute_join hf hn, h.isAbsolute]

/-- A path with a name at its end, read from its end. -/
theorem reverse_of_toList {path : String} {g : List Char}
    (hpath : path.toList = g ++ '/' :: n.toList) :
    path.toList.reverse = n.toList.reverse ++ '/' :: g.reverse := by
  rw [hpath, List.reverse_append, List.reverse_cons, List.append_assoc, List.singleton_append]

/-- The path that a name lies in is what stands before its separator, trimmed. -/
theorem parent?_of_toList (hn : FileTree.IsName n) {path : String} {g : List Char}
    (hpath : path.toList = g ++ '/' :: n.toList) :
    parent? path = some (String.ofList (trimEnd ('/' :: g.reverse)).reverse) := by
  have hname : ∀ c ∈ n.toList.reverse, (decide (c ≠ '/')) = true := fun c hc =>
    decide_eq_true fun e => hn.no_separator (e ▸ List.mem_reverse.1 hc)
  have hdrop : (n.toList.reverse ++ '/' :: g.reverse).dropWhile (fun c => decide (c ≠ '/')) =
      '/' :: g.reverse := by
    rw [List.dropWhile_append_of_pos hname]
    exact List.dropWhile_cons_of_neg (by decide)
  rw [parent?, reverse_of_toList hpath, trimEnd_name hn, hdrop]
  refine if_neg (not_or.2 ⟨by simp, fun h => ?_⟩)
  -- More than a separator is left, since the name is not empty.
  have hpos : 0 < n.toList.length :=
    List.length_pos_iff.2 fun e => hn.ne_empty (String.toList_eq_nil_iff.1 e)
  have hlen := congrArg List.length h
  simp only [List.length_append, List.length_reverse, List.length_cons, List.length_nil] at hlen
  omega

/-- The path that the name lies in leads where the folder leads. -/
theorem parent?_join (hf : folder ≠ "") (hn : FileTree.IsName n)
    (hz : Char.ofNat 0 ∉ folder.toList) :
    ∃ p, parent? (join folder n) = some p ∧ Alike folder p := by
  obtain ⟨g, hjoin, hfolder⟩ := join_toList hf hn
  obtain ⟨hlast, hparts, hmem⟩ := trimEnd_spec ('/' :: g.reverse)
  have hrev : ('/' :: g.reverse).reverse = g ++ ['/'] := by
    rw [List.reverse_cons, List.reverse_reverse]
  refine ⟨_, parent?_of_toList hn hjoin, ?_, ?_, ?_, ?_⟩
  · -- Trimming keeps the first character of the path.
    intro h
    have hnil : trimEnd ('/' :: g.reverse) = [] :=
      List.reverse_eq_nil_iff.1 (String.ofList_eq_empty_iff.1 h)
    rw [hnil] at hlast
    exact absurd (List.getLast?_eq_none_iff.1 hlast.symm) (List.cons_ne_nil _ _)
  · rw [String.toList_ofList, List.mem_reverse]
    intro h
    obtain h | h := List.mem_cons.1 (hmem _ h)
    · exact absurd h (by decide)
    · obtain ⟨hg, -⟩ | hg := hfolder
      · exact hz (hg ▸ List.mem_reverse.1 h)
      · exact hz (hg ▸ List.mem_append_left _ (List.mem_reverse.1 h))
  · show partsOf (String.ofList _).toList = partsOf folder.toList
    rw [String.toList_ofList, hparts, hrev, partsOf_separator]
    obtain ⟨hg, -⟩ | hg := hfolder
    · rw [hg]
    · rw [hg, partsOf_separator]
  · rw [isAbsolute, isAbsolute, String.toList_ofList, List.head?_reverse, hlast,
      ← List.head?_reverse, hrev]
    obtain ⟨hg, hne⟩ | hg := hfolder
    · obtain ⟨c, rest, rfl⟩ := List.exists_cons_of_ne_nil hne
      rw [hg]
      rfl
    · rw [hg]

end Join

end Path

end Autoplay
