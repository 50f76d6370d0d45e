import Autoplay.Proofs.Files.Plain
import Autoplay.Proofs.Files.Renaming

/-!
# Making folders and moving files

What the operations on a plain tree do to it. Making a folder in a folder adds that folder at most
(`Enters.makeFolders`). Moving a file gives it its new place and changes nothing else, or it fails
(`Enters.moveFile`): then nothing is changed but that a part of the file, or all of it, may be at
the new place too, where the system has refused to rename it and has not let it be copied or
removed. Either way the tree stays plain and all its folders stay.
-/

namespace Autoplay.FileTree

variable {t : FileTree} {path n : String} {l : Location}

/-! ## Making folders -/

/-- A tree has the folders of another one and perhaps more, and exactly its files. -/
structure AddsFolders (t after : FileTree) : Prop extends t.KeepsFolders after where
  /-- The files are the same. -/
  files : ∀ m text, after.lookup m = some (.file text) ↔ t.lookup m = some (.file text)

/-- A tree has its own folders and files. -/
theorem AddsFolders.refl (t : FileTree) : t.AddsFolders t :=
  ⟨.refl t, fun _ _ => .rfl⟩

/-- A tree that holds more folders has the folders and exactly the files. -/
theorem MoreFolders.addsFolders {after : FileTree} (h : t.MoreFolders after) :
    t.AddsFolders after :=
  ⟨⟨h.workingFolder, fun l hl => h.keeps l _ hl⟩, h.file_iff⟩

/-- Under a proper name in a folder anything but a link may be put where no folder is. -/
theorem Plain.put (ht : t.Plain) (hl : t.lookup l = some .folder) (hn : IsName n)
    (hfree : t.lookup (l ++ [n]) ≠ some .folder) {e : FileEntry} (he : ∀ target, e ≠ .link target) :
    (t.put (l ++ [n]) e).Plain ∧ t.KeepsFolders (t.put (l ++ [n]) e) := by
  have hkeeps : t.KeepsFolders (t.put (l ++ [n]) e) := by
    refine ⟨rfl, fun m hm => ?_⟩
    have hne : m ≠ l ++ [n] := fun h => hfree (h ▸ hm)
    rw [lookup_put_of_ne t hne, hm]
  refine ⟨⟨?_, fun x hx => ?_, fun x hx => ?_⟩, hkeeps⟩
  · rw [FileTree.put, List.map_cons, List.nodup_cons]
    refine ⟨fun hmem => ?_, ht.nodup.sublist (List.filter_sublist.map _)⟩
    obtain ⟨x, hx, hplace⟩ := List.mem_map.1 hmem
    exact (of_decide_eq_true (List.mem_filter.1 hx).2) hplace
  · obtain rfl | hx := List.mem_cons.1 hx
    · exact ⟨l, n, rfl, hn, hkeeps.folders l hl⟩
    · obtain ⟨m, k, hplace, hk, hm⟩ := ht.rooted x (List.mem_filter.1 hx).1
      exact ⟨m, k, hplace, hk, hkeeps.folders m hm⟩
  · obtain rfl | hx := List.mem_cons.1 hx
    · exact he
    · exact ht.no_links x (List.mem_filter.1 hx).1

/-- Where nothing is, a folder may be put. -/
theorem Plain.put_folder (ht : t.Plain) (hl : t.lookup l = some .folder) (hn : IsName n)
    (hnone : t.lookup (l ++ [n]) = none) :
    (t.put (l ++ [n]) .folder).Plain ∧ t.AddsFolders (t.put (l ++ [n]) .folder) :=
  ⟨(ht.put hl hn (by simp [hnone]) (by simp)).1, (MoreFolders.put hnone).addsFolders⟩

/-- Nothing is trimmed at the end of a path with a name behind it. -/
theorem bare_join (hne : path ≠ "") (hn : IsName n) :
    bare (Path.join path n) = Path.join path n := by
  obtain ⟨g, hjoin, -⟩ := Path.join_toList hne hn
  rw [bare, Path.reverse_of_toList hjoin, Path.trimEnd_name hn, ← Path.reverse_of_toList hjoin,
    List.reverse_reverse, String.ofList_toList]

section MakeFolders

variable {refuses : String → Option SystemError}

/-- To make a folder in a folder where nothing is puts it there, unless that is refused. -/
theorem Enters.makeFolders_of_none (ht : t.Plain) (he : t.Enters path l) (hn : IsName n)
    (h : t.lookup (l ++ [n]) = none) : t.makeFolders (Path.join path n) refuses =
      match refuses (Path.join path n) with
      | none => (t.put (l ++ [n]) .folder, .ok ())
      | some e => (t, .error e) := by
  have hempty : (Path.join path n).isEmpty = false := by
    simpa [String.isEmpty_iff] using Path.join_ne_empty he.ne_empty hn
  have hmake : t.makeFolder (Path.join path n) = .ok (t.put (l ++ [n]) .folder) := by
    simp only [makeFolder, bare_join he.ne_empty hn, he.resolve_join ht hn, bind, Except.bind, h]
  rw [FileTree.makeFolders, makeFoldersWithin, hempty, hmake]
  rfl

/-- So it puts it there if nothing is refused. -/
theorem Enters.makeFolders_eq_put (ht : t.Plain) (he : t.Enters path l) (hn : IsName n)
    (h : t.lookup (l ++ [n]) = none) :
    t.makeFolders (Path.join path n) = (t.put (l ++ [n]) .folder, .ok ()) :=
  he.makeFolders_of_none ht hn h

/-- To make what there is fails, unless it is a folder. -/
theorem Enters.makeFolders_of_some (ht : t.Plain) (he : t.Enters path l) (hn : IsName n)
    {e : FileEntry} (h : t.lookup (l ++ [n]) = some e) : t.makeFolders (Path.join path n) refuses =
      (t, if t.isFolder (Path.join path n) then .ok () else .error .alreadyExists) := by
  have hempty : (Path.join path n).isEmpty = false := by
    simpa [String.isEmpty_iff] using Path.join_ne_empty he.ne_empty hn
  have hmake : t.makeFolder (Path.join path n) = .error .alreadyExists := by
    simp only [makeFolder, bare_join he.ne_empty hn, he.resolve_join ht hn, bind, Except.bind, h]
  rw [FileTree.makeFolders, makeFoldersWithin, hempty, hmake]
  rfl

/-- To make a folder in a folder adds that folder, finds it, or fails and changes nothing. -/
theorem Enters.makeFolders (ht : t.Plain) (he : t.Enters path l) (hn : IsName n)
    (refuses : String → Option SystemError) :
    (∃ e, t.makeFolders (Path.join path n) refuses = (t, .error e)) ∨
      ∃ after, t.makeFolders (Path.join path n) refuses = (after, .ok ()) ∧ after.Plain ∧
        t.AddsFolders after ∧ after.Enters (Path.join path n) (l ++ [n]) := by
  cases h : t.lookup (l ++ [n]) with
  | none =>
    rw [he.makeFolders_of_none ht hn h]
    cases refuses (Path.join path n) with
    | some e => exact .inl ⟨e, rfl⟩
    | none =>
      obtain ⟨hplain, hadds⟩ := ht.put_folder he.folder hn h
      refine .inr ⟨_, rfl, hplain, hadds, ?_⟩
      exact (he.of_keepsFolders hadds.toKeepsFolders).join hn
        (by rw [lookup_put t _ _ _ (by simp), if_pos rfl])
  | some e =>
    rw [he.makeFolders_of_some ht hn h]
    by_cases hfolder : e = .folder
    · subst hfolder
      have hjoin := he.join hn h
      exact .inr ⟨t, by rw [if_pos (hjoin.isFolder ht)], ht, .refl t, hjoin⟩
    · have hno : t.isFolder (Path.join path n) = false := by
        rw [FileTree.isFolder, find?, he.resolve_join ht hn]
        cases e <;> simp_all [FileEntry.isFolder]
      exact .inl ⟨.alreadyExists, by rw [hno]; rfl⟩

end MakeFolders

/-! ## Moving files -/

/-- A tree after one file has got another place. -/
structure Moved (t after : FileTree) (old new : Location) (text : String) : Prop
    extends t.KeepsFolders after where
  /-- The tree is plain. -/
  plain : after.Plain
  /-- The file is at its new place and no longer at its old one; all else is as before. -/
  lookup_eq : ∀ m, after.lookup m =
    if m = new then some (.file text) else if m = old then none else t.lookup m

/-- A tree after something was written at one place, or nothing was. -/
structure ChangedAt (t after : FileTree) (place : Location) : Prop
    extends t.KeepsFolders after where
  /-- The tree is plain. -/
  plain : after.Plain
  /-- Everywhere else all is as before. -/
  lookup_eq : ∀ m, m ≠ place → after.lookup m = t.lookup m

/-- A tree in which nothing was written. -/
theorem Plain.changedAt_self (ht : t.Plain) (place : Location) : t.ChangedAt t place :=
  ⟨.refl t, ht, fun _ _ => rfl⟩

/-- A file may be written in a folder, where no folder is. -/
theorem Plain.changedAt_put (ht : t.Plain) (hl : t.lookup l = some .folder) (hn : IsName n)
    (hfree : t.lookup (l ++ [n]) ≠ some .folder) (text : String) :
    t.ChangedAt (t.put (l ++ [n]) (.file text)) (l ++ [n]) := by
  obtain ⟨hplain, hkeeps⟩ := ht.put hl hn hfree (e := .file text) (by simp)
  exact ⟨hkeeps, hplain, fun m hm => lookup_put_of_ne t hm _⟩

section Relocate

variable {old : Location} {text : String}

/-- What the table lists then: the file at its new place, and nothing that it did not list. -/
theorem Plain.mem_relocate (ht : t.Plain) (hold : t.lookup old = some (.file text))
    {new : Location} {x : Location × FileEntry}
    (hx : x ∈ ((t.erase new).relocate old new).entries) :
    x = (new, .file text) ∨ x ∈ t.entries := by
  rw [relocate_entries] at hx
  obtain ⟨y, hy, rfl⟩ := List.mem_map.1 hx
  have hmem : y ∈ t.entries := (List.mem_filter.1 hy).1
  by_cases h : old.isPrefixOf y.1 = true
  · -- Nothing lies below a file, so this is the entry of the file itself.
    obtain ⟨rest, hrest⟩ := List.isPrefixOf_iff_prefix.1 h
    have hroot : y.1 ≠ [] := by
      rw [← hrest]
      exact List.append_ne_nil_of_left_ne_nil (ne_nil_of_file hold) rest
    have hfound : t.lookup (old ++ rest) = some y.2 := hrest ▸ (ht.lookup_iff hroot).2 hmem
    have hnil : rest = [] := by
      by_contra hne
      rw [ht.isRooted.none_below (by simp [hold]) hne] at hfound
      exact absurd hfound (by simp)
    rw [hnil, List.append_nil] at hrest hfound
    left
    rw [relocated, if_pos h, ← hrest, List.drop_length, List.append_nil]
    rw [← Option.some.inj (hold.symm.trans hfound)]
  · right
    rw [relocated, if_neg h]
    exact hmem

/-- A file gets another place in a folder, where no folder is. -/
theorem Plain.relocate (ht : t.Plain) (hold : t.lookup old = some (.file text))
    (hl : t.lookup l = some .folder) (hn : IsName n) (hnew : t.lookup (l ++ [n]) ≠ some .folder)
    (hbelow : ¬ old.isPrefixOf (l ++ [n]) = true) (habove : ¬ (l ++ [n]).isPrefixOf old = true) :
    t.Moved ((t.erase (l ++ [n])).relocate old (l ++ [n])) old (l ++ [n]) text := by
  have hclear := ht.isRooted.clear fun h => absurd h hnew
  have hrenamed := renamed_relocate hbelow habove hclear
  have hnodup : (((t.erase (l ++ [n])).relocate old (l ++ [n])).entries.map (·.1)).Nodup :=
    nodup_relocate ht.nodup hclear
  have hlisted : ∀ x ∈ ((t.erase (l ++ [n])).relocate old (l ++ [n])).entries,
      x = (l ++ [n], .file text) ∨ x ∈ t.entries := fun _ => ht.mem_relocate hold
  generalize (t.erase (l ++ [n])).relocate old (l ++ [n]) = after at hrenamed hnodup hlisted
  have hfile : t.lookup old ≠ some .folder := by simp [hold]
  -- Nothing lies below the file and below its new place, so only these two places change.
  have hlookup : ∀ m, after.lookup m =
      if m = l ++ [n] then some (.file text) else if m = old then none else t.lookup m := by
    intro m
    rw [hrenamed.lookup_eq]
    by_cases hmnew : (l ++ [n]).isPrefixOf m = true
    · obtain ⟨rest, rfl⟩ := List.isPrefixOf_iff_prefix.1 hmnew
      rw [if_pos hmnew, List.drop_left]
      by_cases hrest : rest = []
      · rw [hrest, List.append_nil, List.append_nil, if_pos rfl, hold]
      · rw [ht.isRooted.none_below hfile hrest, ht.isRooted.none_below hnew hrest,
          if_neg (by simpa using hrest), ite_self]
    · have hne : m ≠ l ++ [n] := by
        rintro rfl
        exact hmnew (List.isPrefixOf_iff_prefix.2 (List.prefix_refl _))
      rw [if_neg hmnew, if_neg hne]
      by_cases hmold : old.isPrefixOf m = true
      · obtain ⟨rest, rfl⟩ := List.isPrefixOf_iff_prefix.1 hmold
        rw [if_pos hmold]
        by_cases hrest : rest = []
        · rw [hrest, List.append_nil, if_pos rfl]
        · rw [ht.isRooted.none_below hfile hrest, ite_self]
      · have hne' : m ≠ old := by
          rintro rfl
          exact hmold (List.isPrefixOf_iff_prefix.2 (List.prefix_refl m))
        rw [if_neg hmold, if_neg hne']
  have hkeeps : t.KeepsFolders after := by
    refine ⟨hrenamed.workingFolder, fun m hm => ?_⟩
    have hmold : m ≠ old := fun e => hfile (e ▸ hm)
    have hmnew : m ≠ l ++ [n] := fun e => hnew (e ▸ hm)
    rw [hlookup, if_neg hmnew, if_neg hmold, hm]
  refine ⟨hkeeps, ⟨hnodup, fun x hx => ?_, fun x hx target => ?_⟩, hlookup⟩
  · obtain rfl | hx := hlisted x hx
    · exact ⟨l, n, rfl, hn, hkeeps.folders l hl⟩
    · obtain ⟨m, k, hplace, hk, hm⟩ := ht.rooted x hx
      exact ⟨m, k, hplace, hk, hkeeps.folders m hm⟩
  · obtain rfl | hx := hlisted x hx
    · simp
    · exact ht.no_links x hx target

/-- To rename a file into a folder gives it its new place, or, if a folder is in the way, fails. -/
theorem Plain.rename (ht : t.Plain) {source dest : String} (hold : t.lookup old = some (.file text))
    (hl : t.lookup l = some .folder) (hn : IsName n) (hne : old ≠ l ++ [n])
    (hsource : t.resolve false source = .ok old) (hdest : t.resolve false dest = .ok (l ++ [n])) :
    (t.lookup (l ++ [n]) = some .folder ∧ ∃ e, t.rename source dest = .error e) ∨
      ∃ after, t.rename source dest = .ok after ∧ t.Moved after old (l ++ [n]) text := by
  have hrename : t.rename source dest =
      if old.isPrefixOf (l ++ [n]) then .error .invalidInput
      else if (l ++ [n]).isPrefixOf old then .error .folderNotEmpty
      else if t.lookup (l ++ [n]) = some .folder then .error .isAFolder
      else .ok ((t.erase (l ++ [n])).relocate old (l ++ [n])) := by
    simp only [FileTree.rename, hsource, hdest, bind, Except.bind, hold, if_neg hne]
    refine ite_congr rfl (fun _ => rfl) fun _ => ite_congr rfl (fun _ => rfl) fun _ => ?_
    cases h : t.lookup (l ++ [n]) with
    | none => simp
    | some e => cases e <;> simp
  by_cases hnew : t.lookup (l ++ [n]) = some .folder
  · refine .inl ⟨hnew, ?_⟩
    rw [hrename, if_pos hnew]
    split_ifs <;> exact ⟨_, rfl⟩
  · -- Files have nothing below them, so neither place lies below the other one.
    have hbelow : ¬ old.isPrefixOf (l ++ [n]) = true := by
      intro h
      obtain h | ⟨rest, rfl⟩ := List.prefix_concat_iff.1 (List.isPrefixOf_iff_prefix.1 h)
      · exact hne h
      · have hfolder : t.lookup old = some .folder := by
          by_cases hrest : rest = []
          · rwa [hrest, List.append_nil] at hl
          · exact ht.isRooted.folder_of_below hrest hl
        exact absurd (hold.symm.trans hfolder) (by simp)
    have habove : ¬ (l ++ [n]).isPrefixOf old = true := by
      intro h
      obtain ⟨rest, rfl⟩ := List.isPrefixOf_iff_prefix.1 h
      refine hnew (ht.isRooted.folder_of_below (fun hrest => hne ?_) hold)
      rw [hrest, List.append_nil]
    refine .inr ⟨_, ?_, ht.relocate hold hl hn hnew hbelow habove⟩
    rw [hrename, if_neg hbelow, if_neg habove, if_neg hnew]

/-- A file that was written at another place and is taken out at its own has got that place. -/
theorem Plain.moved_of_copy (ht : t.Plain) (hold : t.lookup old = some (.file text))
    (hl : t.lookup l = some .folder) (hn : IsName n) (hfree : t.lookup (l ++ [n]) ≠ some .folder)
    (hne : old ≠ l ++ [n]) :
    t.Moved ((t.put (l ++ [n]) (.file text)).erase old) old (l ++ [n]) text := by
  have hput := ht.changedAt_put hl hn hfree text
  have hroot : old ≠ [] := ne_nil_of_file hold
  have hfile : (t.put (l ++ [n]) (.file text)).lookup old ≠ some .folder := by
    simp [hput.lookup_eq old hne, hold]
  have hlookup : ∀ m, ((t.put (l ++ [n]) (.file text)).erase old).lookup m =
      if m = l ++ [n] then some (.file text) else if m = old then none else t.lookup m := by
    intro m
    by_cases hnil : m = []
    · rw [hnil, lookup_nil, if_neg (by simp), if_neg hroot.symm, lookup_nil]
    · rw [lookup_erase _ _ m hnil]
      by_cases hmnew : m = l ++ [n]
      · rw [hmnew, if_neg hne.symm, if_pos rfl, lookup_put t _ _ _ (by simp), if_pos rfl]
      · rw [hput.lookup_eq m hmnew, if_neg hmnew]
  refine ⟨⟨rfl, fun m hm => ?_⟩, hput.plain.erase hfile, hlookup⟩
  have hmnew : m ≠ l ++ [n] := fun e => hfree (e ▸ hm)
  have hmold : m ≠ old := fun e => absurd (hold.symm.trans (e ▸ hm)) (by simp)
  rw [hlookup, if_neg hmnew, if_neg hmold, hm]

end Relocate

/-- To move a file into a folder gives it its new place; or it fails, and only at the new place
something may have been left of it, if no folder is there. -/
theorem Enters.moveFile (ht : t.Plain) {source dest m : String} {k : Location} {text : String}
    (hs : t.Enters source k) (hm : IsName m) (hd : t.Enters dest l) (hn : IsName n)
    (hold : t.lookup (k ++ [m]) = some (.file text)) (hne : k ++ [m] ≠ l ++ [n])
    (r : MoveRefusals) :
    (∃ left e, t.moveFile (Path.join source m) (Path.join dest n) r = (left, .error e) ∧
        t.ChangedAt left (l ++ [n])) ∨
      ∃ after, t.moveFile (Path.join source m) (Path.join dest n) r = (after, .ok ()) ∧
        t.Moved after (k ++ [m]) (l ++ [n]) text := by
  have hsource := hs.resolve_join ht hm
  have hdest := hd.resolve_join ht hn
  have hexists : t.exists? (Path.join source m) = true := by
    simp only [exists?, find?, hsource, hold, Option.isSome_some]
  unfold FileTree.moveFile
  cases hrename : SystemError.refusing r.rename
    (t.rename (Path.join source m) (Path.join dest n)) with
  | ok after =>
    have hafter := (SystemError.refusing_eq_ok.1 hrename).2
    obtain ⟨-, e, he⟩ | ⟨moved, hmove, hmoved⟩ :=
      ht.rename hold hd.folder hn hne (hsource false) (hdest false)
    · exact absurd (he.symm.trans hafter) (by simp)
    · obtain rfl := Except.ok.inj (hmove.symm.trans hafter)
      exact .inr ⟨_, rfl, hmoved⟩
  | error e =>
    simp only [hexists, if_true]
    obtain ⟨e, hcopy⟩ | ⟨new, copy, htarget, hcopy⟩ := t.copyFile_cases (Path.join source m)
      (Path.join dest n) r.copy
    · exact .inl ⟨t, e, by rw [hcopy], ht.changedAt_self _⟩
    · -- The copy goes to the place of the file in the folder, and it has the text of the file.
      obtain ⟨place, text', hplace, hfile, hnew, hfree, rfl⟩ := copyTarget_eq_ok htarget
      obtain rfl := Except.ok.inj ((hsource true).symm.trans hplace)
      obtain rfl := Except.ok.inj ((hdest true).symm.trans hnew)
      obtain rfl := FileEntry.file.inj (Option.some.inj (hold.symm.trans hfile))
      rw [if_neg hne] at hcopy htarget
      obtain ⟨left, e, hbroken, l', copy, length, htarget', rfl⟩ | hwhole := hcopy
      · obtain ⟨rfl, -⟩ := Prod.mk.inj (Except.ok.inj (htarget'.symm.trans htarget))
        exact .inl ⟨_, e, by rw [hbroken], ht.changedAt_put hd.folder hn hfree _⟩
      · rw [hwhole]
        simp only
        cases hremove : SystemError.refusing r.remove
            ((t.put (l ++ [n]) (.file text)).removeFile (Path.join source m)) with
        | error e => exact .inl ⟨_, e, rfl, ht.changedAt_put hd.folder hn hfree _⟩
        | ok after =>
          obtain ⟨old, hthere, rfl⟩ := removeFile_eq_ok (SystemError.refusing_eq_ok.1 hremove).2
          have hput := ht.changedAt_put hd.folder hn hfree text
          have hthere' := (hs.of_keepsFolders hput.toKeepsFolders).resolve_join hput.plain hm false
          obtain rfl := Except.ok.inj (hthere'.symm.trans hthere)
          exact .inr ⟨_, rfl, ht.moved_of_copy hold hd.folder hn hfree hne⟩

end Autoplay.FileTree
