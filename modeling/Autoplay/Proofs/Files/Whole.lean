import Autoplay.Files.Operations
import Autoplay.Proofs.Files.Names
import Mathlib.Data.List.Induction
import Mathlib.Data.List.Nodup
import Mathlib.Tactic.SplitIfs

/-!
# Trees of a file system

A tree is that of a file system (`FileTree.Whole`) when everything in it lies in a folder and the
working folder is a folder; it may hold links. What a path leads to then lies in a folder
(`Whole.folder_above`). In any tree, where a path leads with links followed, it also leads with a
link at its end left alone: to the same place or to that link (`resolve_unfollowed`). Making folders
adds nothing but folders (`moreFolders_makeFolders`) and keeps a tree that of a file system
(`Whole.makeFolders`).
-/

namespace Autoplay.FileTree

/-! ## Looking up -/

/-- The root is a folder. -/
theorem lookup_nil (t : FileTree) : t.lookup [] = some .folder := if_pos rfl

/-- So a file is not there. -/
theorem ne_nil_of_file {t : FileTree} {l : Location} {text : String}
    (h : t.lookup l = some (.file text)) : l ≠ [] := by
  rintro rfl
  rw [lookup_nil] at h
  exact absurd h (by simp)

/-- What is found is listed. -/
theorem mem_of_lookup {t : FileTree} {l : Location} (hl : l ≠ []) {e : FileEntry}
    (h : t.lookup l = some e) : (l, e) ∈ t.entries := by
  rw [lookup, if_neg hl, Option.map_eq_some_iff] at h
  obtain ⟨⟨m, d⟩, hfound, rfl⟩ := h
  obtain rfl : m = l := by simpa using List.find?_some hfound
  exact List.mem_of_find?_eq_some hfound

/-- What is found is what the table lists, if it lists no place twice. -/
theorem lookup_eq_some_iff {t : FileTree} (h : (t.entries.map (·.1)).Nodup) {l : Location}
    (hl : l ≠ []) {e : FileEntry} : t.lookup l = some e ↔ (l, e) ∈ t.entries := by
  rw [lookup, if_neg hl]
  generalize t.entries = es at h
  induction es with
  | nil => simp
  | cons x es ih =>
    obtain ⟨m, d⟩ := x
    rw [List.map_cons, List.nodup_cons] at h
    obtain ⟨hm, hes⟩ := h
    by_cases hml : m = l
    · subst hml
      have hrest : (m, e) ∉ es := fun hmem => hm (List.mem_map.2 ⟨_, hmem, rfl⟩)
      simp [hrest, eq_comm]
    · rw [List.find?_cons_of_neg (by simpa using hml), ih hes, List.mem_cons, Prod.mk.injEq]
      exact ⟨.inr, fun h => h.resolve_left fun e => hml e.1.symm⟩

/-- The names in a folder are those under which something is found. -/
theorem mem_names_iff {t : FileTree} {l : Location} {n : String} :
    n ∈ t.names l ↔ ∃ e, (l ++ [n], e) ∈ t.entries := by
  rw [names, List.mem_filterMap]
  constructor
  · rintro ⟨⟨m, e⟩, hmem, hm⟩
    simp only at hm
    split at hm
    · next hd => exact ⟨e, by rwa [← hd, List.dropLast_append_getLast? n hm]⟩
    · exact absurd hm (by simp)
  · rintro ⟨e, hmem⟩
    exact ⟨_, hmem, by simp⟩

/-! ## Folders above -/

/-- Everything is in a folder. -/
def Rooted (t : FileTree) : Prop :=
  ∀ x ∈ t.entries, ∃ l n, x.1 = l ++ [n] ∧ t.lookup l = some .folder

namespace Rooted

variable {t : FileTree}

/-- What is found under a name lies in a folder. -/
theorem folder_of_lookup (ht : t.Rooted) {l : Location} {n : String} {e : FileEntry}
    (h : t.lookup (l ++ [n]) = some e) : t.lookup l = some .folder := by
  obtain ⟨m, k, hplace, hm⟩ := ht _ (mem_of_lookup (by simp) h)
  obtain ⟨rfl, -⟩ := List.append_inj' hplace rfl
  exact hm

/-- What has something below it is a folder. -/
theorem folder_of_below (ht : t.Rooted) {l m : Location} (hm : m ≠ []) {e : FileEntry}
    (h : t.lookup (l ++ m) = some e) : t.lookup l = some .folder := by
  induction m using List.reverseRecOn generalizing e with
  | nil => exact absurd rfl hm
  | append_singleton m n ih =>
    rw [← List.append_assoc] at h
    have hfolder := ht.folder_of_lookup h
    by_cases hnil : m = []
    · rwa [hnil, List.append_nil] at hfolder
    · exact ih hnil hfolder

/-- So nothing lies below what is no folder. -/
theorem none_below (ht : t.Rooted) {l m : Location} (hl : t.lookup l ≠ some .folder)
    (hm : m ≠ []) : t.lookup (l ++ m) = none := by
  cases h : t.lookup (l ++ m) with
  | none => rfl
  | some e => exact absurd (ht.folder_of_below hm h) hl

/-- One step up from what is found there is a folder; above the root is the root. -/
theorem folder_dropLast (ht : t.Rooted) {l : Location} {e : FileEntry}
    (h : t.lookup l = some e) : t.lookup l.dropLast = some .folder := by
  obtain rfl | ⟨m, n, rfl⟩ := l.eq_nil_or_concat'
  · exact lookup_nil t
  · rw [List.dropLast_concat]
    exact ht.folder_of_lookup h

/-- What has something below it has a name in it. -/
theorem names_ne_nil (ht : t.Rooted) {l m : Location} (hm : m ≠ []) {e : FileEntry}
    (h : (l ++ m, e) ∈ t.entries) : t.lookup l = some .folder ∧ t.names l ≠ [] := by
  induction m using List.reverseRecOn generalizing e with
  | nil => exact absurd rfl hm
  | append_singleton m n ih =>
    obtain ⟨k, _, hplace, hfolder⟩ := ht _ h
    rw [← List.append_assoc] at hplace h
    obtain ⟨rfl, -⟩ := List.append_inj' hplace rfl
    by_cases hnil : m = []
    · subst hnil
      rw [List.append_nil] at hfolder h
      exact ⟨hfolder, List.ne_nil_of_mem (mem_names_iff.2 ⟨e, h⟩)⟩
    · exact ih hnil (mem_of_lookup (by simp [hnil]) hfolder)

end Rooted

/-- A tree is that of a file system. -/
structure Whole (t : FileTree) : Prop where
  /-- Everything is in a folder. -/
  rooted : t.Rooted
  /-- The working folder is one. -/
  working : t.lookup t.workingFolder = some .folder

/-! ## Where paths lead -/

variable {t : FileTree}

/-- A walk from a folder leads to a place in a folder. -/
theorem Rooted.folder_above_walk (ht : t.Rooted) {follow : Bool} {links : Nat} {here l : Location}
    {way : List String} (hhere : t.lookup here = some .folder)
    (h : t.walk follow links here way = .ok l) : t.lookup l.dropLast = some .folder := by
  -- At each step the walk stands in a folder.
  fun_induction t.walk follow links here way
  case case1 here => exact Except.ok.inj h ▸ ht.folder_dropLast hhere
  case case2 ih => exact ih hhere h
  case case3 ih => exact ih (ht.folder_dropLast hhere) h
  case case5 | case8 | case10 =>
    -- The walk ends at a name in the folder that it has come to.
    rw [← Except.ok.inj h, List.dropLast_concat]
    exact hhere
  case case7 hfolder ih => exact ih hfolder h
  case case12 ih =>
    refine ih ?_ h
    split
    · exact lookup_nil t
    · exact hhere
  all_goals exact absurd h (by simp)

/-- Where a walk leads with links followed, it also leads with a link at its end left alone: to the
same place or to that link. -/
theorem walk_unfollowed {links : Nat} {here l : Location} {way : List String}
    (h : t.walk true links here way = .ok l) : ∃ k, t.walk false links here way = .ok k ∧
      (k = l ∨ ∃ target, t.lookup k = some (.link target)) := by
  -- Both walks take the same steps, and only a link as the last name can part them.
  fun_induction t.walk true links here way
  case case1 => exact ⟨l, by rw [walk]; exact h, .inl rfl⟩
  case case2 ih =>
    obtain ⟨k, hk, hend⟩ := ih h
    exact ⟨k, by rw [walk, if_pos rfl]; exact hk, hend⟩
  case case3 hhere ih =>
    obtain ⟨k, hk, hend⟩ := ih h
    exact ⟨k, by rw [walk, if_neg hhere, if_pos rfl]; exact hk, hend⟩
  case case5 hhere hup hshort there hfound | case8 hhere hup hshort there _ hfound =>
    refine ⟨l, ?_, .inl rfl⟩
    rw [walk, if_neg hhere, if_neg hup, if_neg hshort]
    simpa [there, hfound] using h
  case case7 hhere hup hshort there hfound ih =>
    obtain ⟨k, hk, hend⟩ := ih h
    refine ⟨k, ?_, hend⟩
    rw [walk, if_neg hhere, if_neg hup, if_neg hshort]
    simpa [there, hfound] using hk
  case case12 here name rest hhere hup hshort there target hfound _ links ih =>
    by_cases hrest : rest = []
    · -- The link is at the end, so it is where the other walk ends.
      refine ⟨there, ?_, .inr ⟨target, hfound⟩⟩
      rw [walk, if_neg hhere, if_neg hup, if_neg hshort]
      simp [there, hfound, hrest]
    · obtain ⟨k, hk, hend⟩ := ih h
      refine ⟨k, ?_, hend⟩
      rw [walk, if_neg hhere, if_neg hup, if_neg hshort]
      simpa [there, hfound, hrest] using hk
  case case10 hend => exact absurd hend.2 (by simp)
  all_goals exact absurd h (by simp)

/-- Where a path leads with links followed, it also leads with a link at its end left alone: to the
same place or to that link. -/
theorem resolve_unfollowed {path : String} {l : Location} (h : t.resolve true path = .ok l) :
    ∃ k, t.resolve false path = .ok k ∧ (k = l ∨ ∃ target, t.lookup k = some (.link target)) := by
  unfold resolve at h ⊢
  split_ifs at h ⊢
  all_goals exact walk_unfollowed h

/-- A walk from a folder with links followed does not end at a link. -/
theorem Rooted.walk_ne_link (ht : t.Rooted) {links : Nat} {here l : Location} {way : List String}
    (hhere : t.lookup here = some .folder) (h : t.walk true links here way = .ok l)
    (target : String) : t.lookup l ≠ some (.link target) := by
  -- As before the walk stands in a folder at each step.
  fun_induction t.walk true links here way
  case case1 here =>
    obtain rfl := Except.ok.inj h
    rw [hhere]
    simp
  case case2 ih => exact ih hhere h
  case case3 ih => exact ih (ht.folder_dropLast hhere) h
  case case5 hfound | case8 hfound =>
    obtain rfl := Except.ok.inj h
    simp_all
  case case7 hfolder ih => exact ih hfolder h
  case case10 hend => exact absurd hend.2 (by simp)
  case case12 ih =>
    refine ih ?_ h
    split
    · exact lookup_nil t
    · exact hhere
  all_goals exact absurd h (by simp)

/-- A walk to something goes the same way in another tree that holds what the walk finds, other
texts of files apart. -/
theorem walk_of_found {after : FileTree} {follow : Bool} {links : Nat} {here l : Location}
    {way : List String}
    (hkeep : ∀ m e, t.lookup m = some e → after.lookup m = some e ∨
      (∃ old, e = .file old) ∧ ∃ new, after.lookup m = some (.file new))
    (h : t.walk follow links here way = .ok l) (hl : t.lookup l ≠ none) :
    after.walk follow links here way = .ok l := by
  -- What decides about a step is found by both walks: a folder, a link, or that there is a file.
  fun_induction t.walk follow links here way
  case case1 => rw [walk, h]
  case case2 ih => rw [walk, if_pos rfl, ih h]
  case case3 hhere ih => rw [walk, if_neg hhere, if_pos rfl, ih h]
  case case5 hfound =>
    obtain rfl := Except.ok.inj h
    exact absurd hfound hl
  case case7 hhere hup hshort there hfound ih =>
    obtain hsame | ⟨⟨old, hfile⟩, -⟩ := hkeep _ _ hfound
    · rw [walk, if_neg hhere, if_neg hup, if_neg hshort]
      simpa [there, hsame] using ih h
    · exact absurd hfile (by simp)
  case case8 hhere hup hshort there old hfound =>
    have hfile : ∃ text, after.lookup there = some (.file text) := by
      obtain hsame | ⟨-, hnew⟩ := hkeep _ _ hfound
      · exact ⟨old, hsame⟩
      · exact hnew
    obtain ⟨text, hfile⟩ := hfile
    rw [walk, if_neg hhere, if_neg hup, if_neg hshort]
    simpa [there, hfile] using h
  case case10 hhere hup hshort there target hfound hend =>
    obtain hsame | ⟨⟨old, hfile⟩, -⟩ := hkeep _ _ hfound
    · rw [walk, if_neg hhere, if_neg hup, if_neg hshort]
      simpa [there, hsame, hend] using h
    · exact absurd hfile (by simp)
  case case12 hhere hup hshort there target hfound hend links ih =>
    obtain hsame | ⟨⟨old, hfile⟩, -⟩ := hkeep _ _ hfound
    · rw [walk, if_neg hhere, if_neg hup, if_neg hshort]
      simp only [there] at hsame
      simp only [hsame, if_neg hend]
      simpa using ih h
    · exact absurd hfile (by simp)
  all_goals exact absurd h (by simp)

/-- A path leads to a place in a folder. -/
theorem Whole.folder_above (ht : t.Whole) {follow : Bool} {path : String} {l : Location}
    (h : t.resolve follow path = .ok l) : t.lookup l.dropLast = some .folder := by
  unfold resolve at h
  split_ifs at h
  · exact ht.rooted.folder_above_walk (lookup_nil t) h
  · exact ht.rooted.folder_above_walk ht.working h

/-- With links followed it does not lead to a link. -/
theorem Whole.lookup_ne_link (ht : t.Whole) {path : String} {l : Location}
    (h : t.resolve true path = .ok l) (target : String) : t.lookup l ≠ some (.link target) := by
  unfold resolve at h
  split_ifs at h
  · exact ht.rooted.walk_ne_link (lookup_nil t) h target
  · exact ht.rooted.walk_ne_link ht.working h target

/-- So all that the place lies below are folders. -/
theorem Whole.folder_of_isPrefixOf (ht : t.Whole) {follow : Bool} {path : String} {l m : Location}
    (h : t.resolve follow path = .ok l) (hm : m.isPrefixOf l = true) (hne : m ≠ l) :
    t.lookup m = some .folder := by
  have habove := ht.folder_above h
  obtain ⟨rest, rfl⟩ := List.isPrefixOf_iff_prefix.1 hm
  have hrest : rest ≠ [] := fun e => hne (by rw [e, List.append_nil])
  rw [List.dropLast_append_of_ne_nil hrest] at habove
  by_cases hnil : rest.dropLast = []
  · rwa [hnil, List.append_nil] at habove
  · exact ht.rooted.folder_of_below hnil habove

/-! ## More folders -/

/-- A tree holds what another one holds, and beyond that nothing but folders. -/
structure MoreFolders (t after : FileTree) : Prop where
  /-- The same working folder. -/
  workingFolder : after.workingFolder = t.workingFolder
  /-- Everything stays as it is. -/
  keeps : ∀ m e, t.lookup m = some e → after.lookup m = some e
  /-- Where nothing was there is nothing, or a folder. -/
  added : ∀ m, t.lookup m = none → after.lookup m = none ∨ after.lookup m = some .folder

namespace MoreFolders

variable {after last : FileTree}

/-- A tree holds what it holds. -/
theorem refl (t : FileTree) : t.MoreFolders t := ⟨rfl, fun _ _ h => h, fun _ h => .inl h⟩

/-- What is held from one tree to the next is held to the last. -/
theorem trans (h : t.MoreFolders after) (h' : after.MoreFolders last) : t.MoreFolders last := by
  refine ⟨h'.workingFolder.trans h.workingFolder, fun m e hm => h'.keeps m e (h.keeps m e hm),
    fun m hm => ?_⟩
  obtain hnone | hfolder := h.added m hm
  · exact h'.added m hnone
  · exact .inr (h'.keeps m _ hfolder)

/-- The files are the same. -/
theorem file_iff (h : t.MoreFolders after) (m : Location) (text : String) :
    after.lookup m = some (.file text) ↔ t.lookup m = some (.file text) := by
  refine ⟨fun hafter => ?_, h.keeps m _⟩
  cases hm : t.lookup m with
  | some e => rw [← h.keeps m e hm, hafter]
  | none =>
    obtain hnone | hfolder := h.added m hm
    · exact absurd (hafter.symm.trans hnone) (by simp)
    · exact absurd (hafter.symm.trans hfolder) (by simp)

/-- Where nothing is, a folder may be put. -/
theorem put {l : Location} (hl : t.lookup l = none) : t.MoreFolders (t.put l .folder) := by
  have hroot : l ≠ [] := by
    rintro rfl
    rw [lookup_nil] at hl
    exact absurd hl (by simp)
  constructor
  · rfl
  · intro m e hm
    have hne : m ≠ l := by
      rintro rfl
      exact absurd (hl.symm.trans hm) (by simp)
    rw [lookup_put_of_ne t hne, hm]
  · intro m hm
    by_cases hml : m = l
    · rw [hml, lookup_put t l l _ hroot, if_pos rfl]
      exact .inr rfl
    · rw [lookup_put_of_ne t hml]
      exact .inl hm

end MoreFolders

/-- To make a folder is to put one where nothing is. -/
theorem makeFolder_eq_ok {path : String} {after : FileTree} (h : t.makeFolder path = .ok after) :
    ∃ l, t.resolve false (bare path) = .ok l ∧ t.lookup l = none ∧ after = t.put l .folder := by
  cases hl : t.resolve false (bare path) with
  | error e => simp [makeFolder, hl, bind, Except.bind] at h
  | ok l =>
    simp only [makeFolder, hl, bind, Except.bind] at h
    split at h
    · exact absurd h (by simp)
    · next hnone => exact ⟨l, rfl, hnone, (Except.ok.inj h).symm⟩

variable {refuses : String → Option SystemError}

/-- What one made folder keeps, making a folder and those that it lies in keeps, whether or not it
comes to its end, and whatever is refused. -/
theorem makeFoldersWithin_induct {P : FileTree → Prop}
    (hstep : ∀ (t after : FileTree) path, P t → t.makeFolder path = .ok after → P after)
    (depth : Nat) (path : String) (ht : P t) : P (t.makeFoldersWithin refuses depth path).1 := by
  induction depth generalizing path with
  | zero => exact ht
  | succ depth ih =>
    rw [makeFoldersWithin]
    split
    · exact ht
    · split
      · next hmake =>
        split
        · exact hstep _ _ _ ht hmake
        · exact ht
      · split
        · exact ht
        · next parent _ =>
          -- The folder above comes first, and what it keeps is kept by the last step too.
          have habove := ih parent
          split
          · next hmade => rwa [hmade] at habove
          · next hmade =>
            rw [hmade] at habove
            split
            · next hmake => exact hstep _ _ _ habove (SystemError.refusing_eq_ok.1 hmake).2
            · exact habove
      · exact ht

/-- To make a folder and those that it lies in adds folders, whether or not it comes to its end. -/
theorem moreFolders_makeFolders (t : FileTree) (path : String)
    (refuses : String → Option SystemError) : t.MoreFolders (t.makeFolders path refuses).1 := by
  refine makeFoldersWithin_induct (P := t.MoreFolders) (fun t after path h hmake => ?_) _ path
    (.refl t)
  obtain ⟨l, -, hnone, rfl⟩ := makeFolder_eq_ok hmake
  exact h.trans (.put hnone)

/-- It keeps a tree that of a file system. -/
theorem Whole.makeFolders (ht : t.Whole) (path : String)
    (refuses : String → Option SystemError) : (t.makeFolders path refuses).1.Whole := by
  refine makeFoldersWithin_induct (P := Whole) (fun t after path ht hmake => ?_) _ path ht
  obtain ⟨l, hl, hnone, rfl⟩ := makeFolder_eq_ok hmake
  have hmore := MoreFolders.put hnone
  refine ⟨fun x hx => ?_, hmore.keeps _ _ ht.working⟩
  obtain rfl | hx := List.mem_cons.1 hx
  · -- The path leads to a place in a folder, and that folder stays.
    have habove := hmore.keeps _ _ (ht.folder_above hl)
    obtain rfl | ⟨m, n, rfl⟩ := l.eq_nil_or_concat'
    · rw [lookup_nil] at hnone
      exact absurd hnone (by simp)
    · rw [List.dropLast_concat] at habove
      exact ⟨m, n, rfl, habove⟩
  · obtain ⟨m, n, hplace, hm⟩ := ht.rooted x (List.mem_filter.1 hx).1
    exact ⟨m, n, hplace, hmore.keeps _ _ hm⟩

end Autoplay.FileTree
