import Autoplay.Proofs.Files.Whole

/-!
# Trees without links

A tree is plain (`FileTree.Plain`) when its table lists no place twice, everything in it lies in a
folder under a proper name, and it holds no links. In a plain tree a path leads where its names lead
one after the other: `FileTree.Enters` states that a path leads into a folder, and a name behind
such a path leads to the place of that name in the folder (`Enters.resolve_join`). Folders that stay
are entered as before (`Enters.of_keepsFolders`), and so they are by paths that differ in their text
only (`Enters.of_alike`).
-/

namespace Autoplay.FileTree

/-- A tree is that of a file system without links. -/
structure Plain (t : FileTree) : Prop where
  /-- No place is listed twice. -/
  nodup : (t.entries.map (·.1)).Nodup
  /-- Everything is in a folder, under a proper name. -/
  rooted : ∀ x ∈ t.entries, ∃ l n, x.1 = l ++ [n] ∧ IsName n ∧ t.lookup l = some .folder
  /-- There are no links. -/
  no_links : ∀ x ∈ t.entries, ∀ target, x.2 ≠ .link target

/-- Whether an entry may stand in a plain tree. -/
def admits (t : FileTree) (x : Location × FileEntry) : Bool :=
  match x.2 with
  | .link _ => false
  | _ => x.1.getLast?.any (fun n => decide (IsName n)) && t.lookup x.1.dropLast == some .folder

namespace Plain

variable {t : FileTree}

/-- A tree is plain if its table lists no place twice and all its entries may stand in it. -/
theorem iff_admits (t : FileTree) :
    t.Plain ↔ (t.entries.map (·.1)).Nodup ∧ ∀ x ∈ t.entries, t.admits x = true := by
  constructor
  · intro ht
    refine ⟨ht.nodup, fun x hx => ?_⟩
    obtain ⟨l, n, hplace, hn, hl⟩ := ht.rooted x hx
    rw [admits, hplace, List.getLast?_concat, List.dropLast_concat, hl]
    split
    · next hlink => exact absurd hlink (ht.no_links x hx _)
    · simpa using hn
  · rintro ⟨hnodup, h⟩
    refine ⟨hnodup, fun x hx => ?_, fun x hx target hlink => ?_⟩
    · have hadmits := h x hx
      rw [admits] at hadmits
      split at hadmits
      · exact absurd hadmits Bool.false_ne_true
      · rw [Bool.and_eq_true, Option.any_eq_true, beq_iff_eq] at hadmits
        obtain ⟨⟨n, hlast, hn⟩, hfolder⟩ := hadmits
        have hplace := List.dropLast_append_getLast? n hlast
        exact ⟨x.1.dropLast, n, hplace.symm, of_decide_eq_true hn, hfolder⟩
    · have hadmits := h x hx
      rw [admits, hlink] at hadmits
      exact absurd hadmits Bool.false_ne_true

instance (t : FileTree) : Decidable t.Plain := decidable_of_iff' _ (iff_admits t)

/-- What is found is what the table lists. -/
theorem lookup_iff (ht : t.Plain) {l : Location} (hl : l ≠ []) {e : FileEntry} :
    t.lookup l = some e ↔ (l, e) ∈ t.entries :=
  lookup_eq_some_iff ht.nodup hl

/-- Everything in it lies in a folder. -/
theorem isRooted (ht : t.Plain) : t.Rooted := by
  intro x hx
  obtain ⟨l, n, hplace, -, hl⟩ := ht.rooted x hx
  exact ⟨l, n, hplace, hl⟩

/-- With a working folder it is the tree of a file system. -/
theorem whole (ht : t.Plain) (hworking : t.lookup t.workingFolder = some .folder) : t.Whole :=
  ⟨ht.isRooted, hworking⟩

/-- A name under which something is found is proper. -/
theorem isName_of_lookup (ht : t.Plain) {l : Location} {n : String} {e : FileEntry}
    (h : t.lookup (l ++ [n]) = some e) : IsName n := by
  obtain ⟨m, k, hplace, hk, -⟩ := ht.rooted _ (mem_of_lookup (by simp) h)
  obtain rfl : n = k := List.singleton_inj.1 (List.append_inj' hplace rfl).2
  exact hk

/-- No link is found. -/
theorem lookup_ne_link (ht : t.Plain) (l : Location) (target : String) :
    t.lookup l ≠ some (.link target) := by
  intro h
  by_cases hl : l = []
  · rw [hl, lookup_nil] at h
    exact absurd h (by simp)
  · exact ht.no_links _ ((ht.lookup_iff hl).1 h) target rfl

/-- Without one of its files the tree is still plain. -/
theorem erase (ht : t.Plain) {l : Location} (hl : t.lookup l ≠ some .folder) :
    (t.erase l).Plain := by
  refine ⟨ht.nodup.sublist (List.filter_sublist.map _), fun x hx => ?_, fun x hx => ?_⟩
  · obtain ⟨m, n, hplace, hn, hm⟩ := ht.rooted x (List.mem_filter.1 hx).1
    refine ⟨m, n, hplace, hn, ?_⟩
    by_cases hroot : m = []
    · rw [hroot, lookup_nil]
    · have hne : m ≠ l := fun e => hl (e ▸ hm)
      rw [lookup_erase t l m hroot, if_neg hne, hm]
  · exact ht.no_links x (List.mem_filter.1 hx).1

end Plain

/-! ## Walking -/

/-- A tree has the folders of another one, and the same working folder. -/
structure KeepsFolders (t after : FileTree) : Prop where
  /-- The same working folder. -/
  workingFolder : after.workingFolder = t.workingFolder
  /-- Every folder stays. -/
  folders : ∀ l, t.lookup l = some .folder → after.lookup l = some .folder

/-- A tree keeps its folders. -/
theorem KeepsFolders.refl (t : FileTree) : t.KeepsFolders t := ⟨rfl, fun _ h => h⟩

/-- Folders are kept from one tree to the next. -/
theorem KeepsFolders.trans {t after last : FileTree} (h : t.KeepsFolders after)
    (h' : after.KeepsFolders last) : t.KeepsFolders last :=
  ⟨h'.workingFolder.trans h.workingFolder, fun l hl => h'.folders l (h.folders l hl)⟩

/-- Walks on from a folder where there are no links. -/
def tread (t : FileTree) (here : Location) : List String → Except SystemError Location
  | [] => .ok here
  | name :: rest =>
    if name = "." then t.tread here rest
    else if name = ".." then t.tread here.dropLast rest
    else if nameLimit < name.utf8ByteSize then .error .nameTooLong
    else if t.lookup (here ++ [name]) = some .folder then t.tread (here ++ [name]) rest
    else if rest = [] then .ok (here ++ [name])
    else if t.lookup (here ++ [name]) = none then .error .notFound
    else .error .notAFolder

/-- Without links it does not matter whether and how many links may be followed. -/
theorem Plain.walk_eq_tread {t : FileTree} (ht : t.Plain) (follow : Bool) (links : Nat)
    (here : Location) (way : List String) : t.walk follow links here way = t.tread here way := by
  induction way generalizing here with
  | nil => rw [walk, tread]
  | cons name rest ih =>
    rw [walk, tread]
    -- The first three questions are the same; then it matters what is found.
    refine ite_congr rfl (fun _ => ih here) fun _ => ?_
    refine ite_congr rfl (fun _ => ih here.dropLast) fun _ => ?_
    refine ite_congr rfl (fun _ => rfl) fun _ => ?_
    cases h : t.lookup (here ++ [name]) with
    | none => simp [h]
    | some e =>
      cases e with
      | file text => simp [h]
      | folder => simp [h, ih]
      | link target => exact absurd h (ht.lookup_ne_link _ target)

/-- A walk into a folder goes the same way wherever its folders stay, and on from there. -/
theorem tread_append {t after : FileTree} (hk : t.KeepsFolders after) {here l : Location}
    {way : List String} (h : t.tread here way = .ok l) (hl : t.lookup l = some .folder)
    (rest : List String) : after.tread here (way ++ rest) = after.tread l rest := by
  fun_induction tread t here way with
  | case1 here => rw [Except.ok.inj h, List.nil_append]
  | case2 here way ih => rw [List.cons_append, tread, if_pos rfl, ih h]
  | case3 here way hhere ih => rw [List.cons_append, tread, if_neg hhere, if_pos rfl, ih h]
  | case5 here name way hhere hup hshort hfolder ih =>
    rw [List.cons_append, tread, if_neg hhere, if_neg hup, if_neg hshort,
      if_pos (hk.folders _ hfolder), ih h]
  | case6 here name hhere hup hshort hfolder => exact absurd (Except.ok.inj h ▸ hl) hfolder
  | case4 | case7 | case8 => exact absurd h (by simp)

/-- A last step to the same place may be left out. -/
theorem tread_here {t : FileTree} {here l : Location} {way : List String}
    (h : t.tread here (way ++ ["."]) = .ok l) : t.tread here way = .ok l := by
  induction way generalizing here with
  | nil => exact h
  | cons name way ih =>
    have hne : way ++ ["."] ≠ [] := by simp
    rw [List.cons_append, tread] at h
    rw [tread]
    split_ifs at h ⊢ <;> exact ih h

/-! ## Paths into folders -/

/-- Where a path starts. -/
def start (t : FileTree) (path : String) : Location :=
  if Path.isAbsolute path then [] else t.workingFolder

/-- A path leads into a folder. -/
structure Enters (t : FileTree) (path : String) (l : Location) : Prop where
  /-- The path is not empty. -/
  ne_empty : path ≠ ""
  /-- The path holds no zero character. -/
  no_zero : Char.ofNat 0 ∉ path.toList
  /-- Its parts lead there. -/
  treads : t.tread (t.start path) (Path.parts path) = .ok l
  /-- There is a folder. -/
  folder : t.lookup l = some .folder

instance (t : FileTree) (path : String) (l : Location) : Decidable (t.Enters path l) :=
  decidable_of_iff (path ≠ "" ∧ Char.ofNat 0 ∉ path.toList ∧
      t.tread (t.start path) (Path.parts path) = .ok l ∧ t.lookup l = some .folder)
    ⟨fun ⟨h, hz, ht, hl⟩ => ⟨h, hz, ht, hl⟩, fun h => ⟨h.ne_empty, h.no_zero, h.treads, h.folder⟩⟩

/-- A path to a folder can be followed: it is not empty and holds no zero character. -/
theorem follows_of_isFolder {t : FileTree} {path : String} (h : t.isFolder path = true) :
    path ≠ "" ∧ Char.ofNat 0 ∉ path.toList := by
  have hne : path ≠ "" := by
    rintro rfl
    simp [isFolder, find?, resolve] at h
  refine ⟨hne, fun hmem => ?_⟩
  simp [isFolder, find?, resolve, hne, hmem] at h

/-- Without links a path leads where its steps lead. -/
theorem Plain.resolve_eq {t : FileTree} (ht : t.Plain) {path : String} (hne : path ≠ "")
    (hzero : Char.ofNat 0 ∉ path.toList) (follow : Bool) :
    t.resolve follow path = t.tread (t.start path) (steps path) := by
  have hempty : path.isEmpty = false := by simpa [String.isEmpty_iff] using hne
  have hcontains : path.toList.contains (Char.ofNat 0) = false := by simpa using hzero
  rw [resolve, hempty, hcontains, ht.walk_eq_tread]
  rfl

/-- The steps of a path are its parts, and at its end there may be one to the same place. -/
theorem steps_eq (path : String) :
    steps path = Path.parts path ∨ steps path = Path.parts path ++ ["."] := by
  unfold steps
  split
  · exact .inr rfl
  · exact .inr rfl
  · exact .inr rfl
  · exact .inl rfl

/-- The steps of a path with a name behind it. -/
theorem steps_join {path n : String} (hne : path ≠ "") (hn : IsName n) :
    steps (Path.join path n) = Path.parts path ++ [n] := by
  obtain ⟨g, hjoin, -⟩ := Path.join_toList hne hn
  rw [steps, Path.reverse_of_toList hjoin, Path.parts_join hne hn]
  obtain ⟨c, hr, hc, hdot⟩ | ⟨c, d, rest, hr, hc, hd⟩ := Path.name_reverse hn
  · rw [hr]
    simp [hc, hdot]
  · rw [hr]
    simp [hc, hd]

namespace Enters

variable {t : FileTree} {path n : String} {l : Location}

/-- A path to a folder leads into it. -/
theorem of_isFolder (ht : t.Plain) (h : t.isFolder path = true) : ∃ l, t.Enters path l := by
  obtain ⟨hne, hzero⟩ := follows_of_isFolder h
  rw [isFolder, find?, ht.resolve_eq hne hzero] at h
  cases hl : t.tread (t.start path) (steps path) with
  | error e => simp [hl] at h
  | ok l =>
    have hfolder : t.lookup l = some .folder := by
      cases hfound : t.lookup l with
      | none => simp [hl, hfound] at h
      | some e => cases e <;> simp_all [FileEntry.isFolder]
    refine ⟨l, hne, hzero, ?_, hfolder⟩
    obtain hsteps | hsteps := steps_eq path
    · rwa [hsteps] at hl
    · exact tread_here (hsteps ▸ hl)

/-- It leads to the folder. -/
theorem resolve (ht : t.Plain) (he : t.Enters path l) (follow : Bool) :
    t.resolve follow path = .ok l := by
  rw [ht.resolve_eq he.ne_empty he.no_zero]
  obtain hsteps | hsteps := steps_eq path
  · rw [hsteps, he.treads]
  · rw [hsteps, tread_append (.refl t) he.treads he.folder]
    rfl

/-- It is a path to a folder. -/
theorem isFolder (ht : t.Plain) (he : t.Enters path l) : t.isFolder path = true := by
  rw [FileTree.isFolder, find?, he.resolve ht]
  simp [he.folder, FileEntry.isFolder]

/-- A proper name behind it leads to the place of that name in the folder. -/
theorem tread_name (he : t.Enters path l) (hn : IsName n) :
    t.tread (t.start path) (Path.parts path ++ [n]) = .ok (l ++ [n]) := by
  rw [tread_append (.refl t) he.treads he.folder, tread, if_neg hn.ne_here, if_neg hn.ne_up,
    if_neg (Nat.not_lt.2 hn.short)]
  split
  · rw [tread]
  · rw [if_pos rfl]

/-- A name behind it does not change where it starts. -/
theorem start_join (he : t.Enters path l) (hn : IsName n) :
    t.start (Path.join path n) = t.start path := by
  rw [start, start, Path.isAbsolute_join he.ne_empty hn]

/-- A name behind the path leads to the place of that name in the folder. -/
theorem resolve_join (ht : t.Plain) (he : t.Enters path l) (hn : IsName n) (follow : Bool) :
    t.resolve follow (Path.join path n) = .ok (l ++ [n]) := by
  rw [ht.resolve_eq (Path.join_ne_empty he.ne_empty hn)
    (Path.join_no_zero he.ne_empty hn he.no_zero), he.start_join hn, steps_join he.ne_empty hn,
    he.tread_name hn]

/-- The name of a folder behind the path leads into that folder. -/
theorem join (he : t.Enters path l) (hn : IsName n)
    (h : t.lookup (l ++ [n]) = some .folder) : t.Enters (Path.join path n) (l ++ [n]) := by
  refine ⟨Path.join_ne_empty he.ne_empty hn, Path.join_no_zero he.ne_empty hn he.no_zero, ?_, h⟩
  rw [he.start_join hn, Path.parts_join he.ne_empty hn, he.tread_name hn]

/-- A path that differs only in its text leads into the folder as well. -/
theorem of_alike (he : t.Enters path l) {p : String} (hp : Path.Alike path p) : t.Enters p l := by
  refine ⟨hp.ne_empty, hp.no_zero, ?_, he.folder⟩
  rw [start, hp.isAbsolute, hp.parts]
  exact he.treads

/-- Where the folders stay, a path leads into the same one. -/
theorem of_keepsFolders {after : FileTree} (he : t.Enters path l) (hk : t.KeepsFolders after) :
    after.Enters path l := by
  refine ⟨he.ne_empty, he.no_zero, ?_, hk.folders l he.folder⟩
  have hstart : after.start path = t.start path := by rw [start, start, hk.workingFolder]
  have hway := tread_append hk he.treads he.folder []
  rw [List.append_nil] at hway
  rw [hstart, hway, tread]

end Enters

end Autoplay.FileTree
