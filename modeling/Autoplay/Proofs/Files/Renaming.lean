import Autoplay.Proofs.Files.Whole
import Mathlib.Data.List.Find

/-!
# Renaming and moving in a file system

What renaming does to all that a tree holds, links and folders with what is in them included
(`Whole.renamed`): everything at and below the old place is found at and below the new one, what was
at the new place has given way, and all else is as before. Where a file can be copied it can also be
renamed (`Whole.rename_of_copyTarget`), unless that is refused. So the copying that moving falls
back on comes to something only where the system refuses to rename; then a part of the copy, or all
of it, may be left where it goes (`PartlyCopied`). Beyond that moving renames, or it fails and
changes nothing (`Whole.moveFile_cases`).
-/

namespace Autoplay.FileTree

/-! ## Relocating -/

/-- A tree after everything at and below one place has got another one. -/
structure Renamed (t after : FileTree) (old new : Location) : Prop where
  /-- The same working folder. -/
  workingFolder : after.workingFolder = t.workingFolder
  /-- Below the new place was nothing else. -/
  clear : ∀ m, new.isPrefixOf m = true → m ≠ new → ¬ old.isPrefixOf m = true → t.lookup m = none
  /-- What was at and below the old place is at and below the new one, and all else is as before. -/
  lookup_eq : ∀ m, after.lookup m =
    if new.isPrefixOf m then t.lookup (old ++ m.drop new.length)
    else if old.isPrefixOf m then none
    else t.lookup m

variable {t after : FileTree} {old new : Location}

/-- A place that is given to itself. -/
theorem Renamed.refl (t : FileTree) (old : Location) : t.Renamed t old old := by
  refine ⟨rfl, fun m hm _ hout => absurd hm hout, fun m => ?_⟩
  split_ifs with h
  · obtain ⟨rest, rfl⟩ := List.isPrefixOf_iff_prefix.1 h
    rw [List.drop_left]
  · rfl

/-- Where a file was, it is found then: at its place below the new one if it lay at or below the old
one, else where it was, unless it gave way at the new place itself. -/
theorem Renamed.file (h : t.Renamed after old new) {m : Location} {text : String}
    (hm : t.lookup m = some (.file text)) :
    if old.isPrefixOf m then after.lookup (new ++ m.drop old.length) = some (.file text)
    else m ≠ new → after.lookup m = some (.file text) := by
  split_ifs with hold
  · obtain ⟨rest, rfl⟩ := List.isPrefixOf_iff_prefix.1 hold
    have hnew : new.isPrefixOf (new ++ rest) = true :=
      List.isPrefixOf_iff_prefix.2 (List.prefix_append new rest)
    rw [List.drop_left, h.lookup_eq, if_pos hnew, List.drop_left, hm]
  · intro hne
    have hout : ¬ new.isPrefixOf m = true := by
      intro hnew
      exact absurd (hm.symm.trans (h.clear m hnew hne hold)) (by simp)
    rw [h.lookup_eq, if_neg hout, if_neg hold, hm]

/-- The place of an entry after everything at and below one place has got another one. -/
def relocated (old new m : Location) : Location :=
  if old.isPrefixOf m then new ++ m.drop old.length else m

/-- To relocate is to give each entry its place. -/
theorem relocate_entries (t : FileTree) (old new : Location) :
    (t.relocate old new).entries = t.entries.map fun x => (relocated old new x.1, x.2) := by
  refine List.map_congr_left fun x _ => ?_
  simp only [relocated]
  split <;> rfl

/-- What lies at or below the new place then came from the old one. -/
theorem relocated_eq_below {m rest : Location} (hm : ¬ new.isPrefixOf m = true) :
    relocated old new m = new ++ rest ↔ m = old ++ rest := by
  rw [relocated]
  split_ifs with h
  · obtain ⟨r, rfl⟩ := List.isPrefixOf_iff_prefix.1 h
    rw [List.drop_left, List.append_right_inj, List.append_right_inj]
  · constructor
    · rintro rfl
      exact absurd (List.isPrefixOf_iff_prefix.2 (List.prefix_append new rest)) hm
    · rintro rfl
      exact absurd (List.isPrefixOf_iff_prefix.2 (List.prefix_append old rest)) h

/-- What lies elsewhere then was there before, outside the old place. -/
theorem relocated_eq_elsewhere {m k : Location} (hk : ¬ new.isPrefixOf k = true) :
    relocated old new m = k ↔ m = k ∧ ¬ old.isPrefixOf k = true := by
  rw [relocated]
  split_ifs with h
  · constructor
    · rintro rfl
      exact absurd (List.isPrefixOf_iff_prefix.2 (List.prefix_append new _)) hk
    · rintro ⟨rfl, hout⟩
      exact absurd h hout
  · exact ⟨fun e => ⟨e, e ▸ h⟩, fun e => e.1⟩

/-- Places that do not lie below the new one stay apart. -/
theorem relocated_inj {m k : Location} (hm : ¬ new.isPrefixOf m = true)
    (hk : ¬ new.isPrefixOf k = true) (h : relocated old new m = relocated old new k) : m = k := by
  by_cases hold : old.isPrefixOf k = true
  · obtain ⟨rest, rfl⟩ := List.isPrefixOf_iff_prefix.1 hold
    rw [(relocated_eq_below hk).2 rfl] at h
    exact (relocated_eq_below hm).1 h
  · have hstays : relocated old new k = k := if_neg hold
    rw [hstays] at h
    exact ((relocated_eq_elsewhere hk).1 h).1

/-- If no folder with something in it is at a place, nothing is listed below it. -/
theorem Rooted.clear (ht : t.Rooted) (hempty : t.lookup new = some .folder → t.names new = []) :
    ∀ x ∈ t.entries, new.isPrefixOf x.1 = true → x.1 = new := by
  intro x hx hprefix
  by_contra hne
  obtain ⟨rest, hrest⟩ := List.isPrefixOf_iff_prefix.1 hprefix
  have hnil : rest ≠ [] := by
    rintro rfl
    exact hne (by rw [← hrest, List.append_nil])
  have hmem : (new ++ rest, x.2) ∈ t.entries := by
    rw [hrest]
    exact hx
  obtain ⟨hfolder, hnames⟩ := ht.names_ne_nil hnil hmem
  exact hnames (hempty hfolder)

/-- So with that place cleared, nothing is listed at or below it. -/
theorem not_below_of_mem_erase (hclear : ∀ x ∈ t.entries, new.isPrefixOf x.1 = true → x.1 = new)
    {x : Location × FileEntry} (hx : x ∈ (t.erase new).entries) : ¬ new.isPrefixOf x.1 = true := by
  intro h
  obtain ⟨hmem, hne⟩ := List.mem_filter.1 hx
  exact of_decide_eq_true hne (hclear x hmem h)

/-- After relocating no place is listed twice, if none was before. -/
theorem nodup_relocate (hnodup : (t.entries.map (·.1)).Nodup)
    (hclear : ∀ x ∈ t.entries, new.isPrefixOf x.1 = true → x.1 = new) :
    (((t.erase new).relocate old new).entries.map (·.1)).Nodup := by
  have hplaces : ((t.erase new).entries.map (·.1)).Nodup :=
    hnodup.sublist (List.filter_sublist.map _)
  -- No two of the entries that are left get one place.
  rw [relocate_entries, List.map_map]
  refine List.Nodup.map_on (fun x hx y hy h => ?_) hplaces.of_map
  refine List.inj_on_of_nodup_map hplaces hx hy ?_
  exact relocated_inj (not_below_of_mem_erase hclear hx) (not_below_of_mem_erase hclear hy) h

/-- What is found after relocating, if neither place lies below the other one and nothing lies below
the new one. -/
theorem renamed_relocate (hbelow : ¬ old.isPrefixOf new = true)
    (habove : ¬ new.isPrefixOf old = true)
    (hclear : ∀ x ∈ t.entries, new.isPrefixOf x.1 = true → x.1 = new) :
    t.Renamed ((t.erase new).relocate old new) old new := by
  have hold : old ≠ [] := by
    rintro rfl
    exact hbelow (List.isPrefixOf_iff_prefix.2 List.nil_prefix)
  have hnew : new ≠ [] := by
    rintro rfl
    exact habove (List.isPrefixOf_iff_prefix.2 List.nil_prefix)
  refine ⟨rfl, fun m hm hne _ => ?_, fun m => ?_⟩
  · cases hfound : t.lookup m with
    | none => rfl
    | some e =>
      have hroot : m ≠ [] := by
        rintro rfl
        exact hnew (List.prefix_nil.1 (List.isPrefixOf_iff_prefix.1 hm))
      exact absurd (hclear _ (mem_of_lookup hroot hfound) hm) hne
  by_cases hroot : m = []
  · subst hroot
    have hnew' : ¬ new.isPrefixOf [] = true := by
      rw [List.isPrefixOf_iff_prefix, List.prefix_nil]
      exact hnew
    have hold' : ¬ old.isPrefixOf [] = true := by
      rw [List.isPrefixOf_iff_prefix, List.prefix_nil]
      exact hold
    rw [if_neg hnew', if_neg hold', lookup_nil, lookup_nil]
  have hlookup : ((t.erase new).relocate old new).lookup m =
      ((t.entries.filter fun x => x.1 ≠ new).find? fun x => relocated old new x.1 = m).map
        (·.2) := by
    rw [lookup, if_neg hroot, relocate_entries, List.find?_map, Option.map_map]
    rfl
  rw [hlookup]
  split_ifs with hm hm'
  · -- The place lies at or below the new one: ask where its entry was before.
    obtain ⟨rest, rfl⟩ := List.isPrefixOf_iff_prefix.1 hm
    have hrest : old ++ rest ≠ new := fun e =>
      hbelow (List.isPrefixOf_iff_prefix.2 (e ▸ List.prefix_append old rest))
    rw [List.drop_left, lookup, if_neg (by simp [hold]), ← find?_filter_ne hrest]
    refine congrArg _ (List.find?_congr fun x hx => ?_)
    exact decide_eq_decide.2 (relocated_eq_below (not_below_of_mem_erase hclear hx))
  · -- The place lies at or below the old one, where nothing is left.
    rw [List.find?_eq_none.2, Option.map_none]
    intro x hx h
    exact ((relocated_eq_elsewhere hm).1 (of_decide_eq_true h)).2 hm'
  · have hne : m ≠ new := by
      rintro rfl
      exact hm (List.isPrefixOf_iff_prefix.2 (List.prefix_refl m))
    rw [lookup, if_neg hroot, ← find?_filter_ne hne]
    refine congrArg _ (List.find?_congr fun x hx => decide_eq_decide.2 ?_)
    rw [relocated_eq_elsewhere hm]
    exact and_iff_left hm'

/-! ## Renaming -/

/-- What renaming does: nothing if both paths lead to one place; else neither place lies below the
other one, a folder that gives way is empty, and the entry is relocated. -/
theorem rename_eq_ok {source dest : String} (h : t.rename source dest = .ok after) :
    ∃ old new, t.resolve false source = .ok old ∧ t.resolve false dest = .ok new ∧
      t.lookup old ≠ none ∧
      (old = new ∧ after = t ∨
        ¬ old.isPrefixOf new = true ∧ ¬ new.isPrefixOf old = true ∧
          (t.lookup new = some .folder → t.names new = []) ∧
          after = (t.erase new).relocate old new) := by
  cases hsource : t.resolve false source with
  | error e => simp [FileTree.rename, hsource, bind, Except.bind] at h
  | ok old =>
    cases hdest : t.resolve false dest with
    | error e => simp [FileTree.rename, hsource, hdest, bind, Except.bind] at h
    | ok new =>
      simp only [FileTree.rename, hsource, hdest, bind, Except.bind] at h
      cases hmoved : t.lookup old with
      | none => simp [hmoved] at h
      | some moved =>
        refine ⟨old, new, rfl, rfl, by simp [hmoved], ?_⟩
        simp only [hmoved] at h
        split at h
        · next hsame => exact .inl ⟨hsame, (Except.ok.inj h).symm⟩
        split at h
        · exact absurd h (by simp)
        split at h
        · exact absurd h (by simp)
        next hbelow habove =>
        refine .inr ⟨hbelow, habove, ?_⟩
        -- What is at the new place decides whether it gives way.
        cases hnew : t.lookup new with
        | none => cases moved <;> simp_all
        | some e =>
          cases e <;> cases moved <;> simp_all
          -- Only a folder in place of a folder is left.
          split at h
          · next hempty => exact ⟨List.isEmpty_iff.1 hempty, (Except.ok.inj h).symm⟩
          · exact absurd h (by simp)

/-- To rename gives everything at and below one place another one. -/
theorem Whole.renamed (ht : t.Whole) {source dest : String}
    (h : t.rename source dest = .ok after) : ∃ old new,
      t.resolve false source = .ok old ∧ t.resolve false dest = .ok new ∧
      t.lookup old ≠ none ∧ t.Renamed after old new := by
  obtain ⟨old, new, hold, hnew, hmoved, ⟨rfl, rfl⟩ | ⟨hbelow, habove, hempty, rfl⟩⟩ :=
    rename_eq_ok h
  · exact ⟨old, old, hold, hnew, hmoved, .refl after old⟩
  · exact ⟨old, new, hold, hnew, hmoved,
      renamed_relocate hbelow habove (ht.rooted.clear hempty)⟩

/-! ## Copying -/

/-- What is copied is a file, and no folder is where its copy goes. -/
theorem copyTarget_eq_ok {source dest copy : String} {l : Location}
    (h : t.copyTarget source dest = .ok (l, copy)) :
    ∃ k text, t.resolve true source = .ok k ∧ t.lookup k = some (.file text) ∧
      t.resolve true dest = .ok l ∧ t.lookup l ≠ some .folder ∧
      copy = if k = l then "" else text := by
  cases hsource : t.resolve true source with
  | error e => simp [copyTarget, hsource, bind, Except.bind] at h
  | ok k =>
    simp only [copyTarget, hsource, bind, Except.bind] at h
    split at h
    · exact absurd h (by simp)
    · next text hfile =>
      cases hdest : t.resolve true dest with
      | error e => simp [hdest] at h
      | ok new =>
        simp only [hdest] at h
        split at h
        · exact absurd h (by simp)
        · next hfree =>
          obtain ⟨rfl, rfl⟩ := Prod.mk.inj (Except.ok.inj h)
          exact ⟨k, text, rfl, hfile, rfl, hfree, rfl⟩
    · exact absurd h (by simp)

/-- Where a file can be copied, it can be renamed. -/
theorem Whole.rename_of_copyTarget (ht : t.Whole) {source dest : String} {r : Location × String}
    (h : t.copyTarget source dest = .ok r) : ∃ moved, t.rename source dest = .ok moved := by
  obtain ⟨k, text, hk, hfile, hl, hfree, -⟩ := copyTarget_eq_ok h
  obtain ⟨old, hold, hend⟩ := resolve_unfollowed hk
  obtain ⟨new, hnew, hend'⟩ := resolve_unfollowed hl
  -- Links at the ends are left alone now, but no place becomes a folder by that.
  have hmoved : ∃ e, t.lookup old = some e ∧ e ≠ .folder := by
    obtain rfl | ⟨target, hlink⟩ := hend
    · exact ⟨_, hfile, by simp⟩
    · exact ⟨_, hlink, by simp⟩
  have hplace : t.lookup new ≠ some .folder := by
    obtain rfl | ⟨target, hlink⟩ := hend'
    · exact hfree
    · simp [hlink]
  obtain ⟨moved, hfound, hentry⟩ := hmoved
  by_cases hsame : old = new
  · exact ⟨t, by simp only [FileTree.rename, hold, hnew, bind, Except.bind, hfound, if_pos hsame]⟩
  · have hbelow : ¬ old.isPrefixOf new = true := by
      intro hprefix
      have hfolder := ht.folder_of_isPrefixOf hnew hprefix hsame
      exact hentry (Option.some.inj (hfound.symm.trans hfolder))
    have habove : ¬ new.isPrefixOf old = true := fun hprefix =>
      hplace (ht.folder_of_isPrefixOf hold hprefix (Ne.symm hsame))
    refine ⟨(t.erase new).relocate old new, ?_⟩
    simp only [FileTree.rename, hold, hnew, bind, Except.bind, hfound, if_neg hsame, if_neg hbelow,
      if_neg habove]
    cases hplaced : t.lookup new with
    | none => cases moved <;> simp_all
    | some e => cases e <;> cases moved <;> simp_all

/-- The copy of a file, or a first part of it, is where the copy goes, and nothing else is new. -/
def PartlyCopied (t left : FileTree) (source dest : String) : Prop :=
  ∃ l text length, t.copyTarget source dest = .ok (l, text) ∧
    left = t.put l (.file (String.ofList (text.toList.take length)))

/-- A copy at its end is the first part that is as long as it. -/
theorem partlyCopied_put {source dest text : String} {l : Location}
    (h : t.copyTarget source dest = .ok (l, text)) :
    t.PartlyCopied (t.put l (.file text)) source dest :=
  ⟨l, text, text.toList.length, h, by rw [List.take_length, String.ofList_toList]⟩

/-- Copying fails and changes nothing, or it leaves a part of the copy or all of it. -/
theorem copyFile_cases (t : FileTree) (source dest : String) (failure : Option CopyFailure) :
    (∃ e, t.copyFile source dest failure = (t, .error e)) ∨
      ∃ l text, t.copyTarget source dest = .ok (l, text) ∧
        ((∃ left e, t.copyFile source dest failure = (left, .error e) ∧
          t.PartlyCopied left source dest) ∨
        t.copyFile source dest failure = (t.put l (.file text), .ok ())) := by
  unfold copyFile
  cases htarget : t.copyTarget source dest with
  | error e => exact .inl ⟨e, rfl⟩
  | ok target =>
    obtain ⟨l, text⟩ := target
    cases failure with
    | none => exact .inr ⟨l, text, rfl, .inr rfl⟩
    | some failure =>
      cases failure with
      | refused e => exact .inl ⟨e, rfl⟩
      | broken e length =>
        exact .inr ⟨l, text, rfl, .inl ⟨_, e, rfl, l, text, length, htarget, rfl⟩⟩

/-- A path to a file that is copied leads to something, its last link left alone. -/
theorem place_of_copyTarget {source dest : String} {r : Location × String}
    (h : t.copyTarget source dest = .ok r) :
    ∃ old, t.resolve false source = .ok old ∧ t.lookup old ≠ none := by
  obtain ⟨k, text, hk, hfile, -⟩ := copyTarget_eq_ok h
  obtain ⟨old, hold, rfl | ⟨target, hlink⟩⟩ := resolve_unfollowed hk
  · exact ⟨old, hold, by simp [hfile]⟩
  · exact ⟨old, hold, by simp [hlink]⟩

/-- To remove a file is to take out what its path leads to, its last link left alone. -/
theorem removeFile_eq_ok {path : String} (h : t.removeFile path = .ok after) :
    ∃ l, t.resolve false path = .ok l ∧ after = t.erase l := by
  cases hl : t.resolve false path with
  | error e => simp [removeFile, hl, bind, Except.bind] at h
  | ok l =>
    simp only [removeFile, hl, bind, Except.bind] at h
    split at h
    · exact absurd h (by simp)
    · exact absurd h (by simp)
    · exact ⟨l, rfl, (Except.ok.inj h).symm⟩

/-- Where the copy of a file goes there is a file, or nothing is. -/
theorem Whole.lookup_copyTarget (ht : t.Whole) {source dest text : String} {l : Location}
    (h : t.copyTarget source dest = .ok (l, text)) :
    t.lookup l = none ∨ ∃ old, t.lookup l = some (.file old) := by
  obtain ⟨-, -, -, -, hdest, hfree, -⟩ := copyTarget_eq_ok h
  have hlink := ht.lookup_ne_link hdest
  cases hfound : t.lookup l with
  | none => exact .inl rfl
  | some e =>
    cases e with
    | file old => exact .inr ⟨old, rfl⟩
    | folder => exact absurd hfound hfree
    | link target => exact absurd hfound (hlink target)

/-- A file that is written where a file or nothing is changes no place that a path to something
leads to. -/
theorem resolve_put {path : String} {k l : Location} (text : String)
    (h : t.resolve false path = .ok k) (hk : t.lookup k ≠ none)
    (hl : t.lookup l = none ∨ ∃ old, t.lookup l = some (.file old)) :
    (t.put l (.file text)).resolve false path = .ok k := by
  have hput : ∀ m e, t.lookup m = some e →
      (t.put l (.file text)).lookup m = some e ∨
        (∃ old, e = .file old) ∧ ∃ new, (t.put l (.file text)).lookup m = some (.file new) := by
    intro m e hm
    by_cases hml : m = l
    · subst hml
      obtain hnone | ⟨old, hold⟩ := hl
      · exact absurd (hnone.symm.trans hm) (by simp)
      · refine .inr ⟨⟨old, (Option.some.inj (hold.symm.trans hm)).symm⟩, text, ?_⟩
        rw [lookup_put t m m _ (ne_nil_of_file hold), if_pos rfl]
    · exact .inl ((lookup_put_of_ne t hml _).trans hm)
  unfold resolve at h ⊢
  split_ifs at h ⊢
  all_goals exact walk_of_found hput h hk

/-! ## Moving -/

/-- Moving renames; or it fails and changes nothing; or renaming is refused, and then the file was
copied and removed, or copied at least in part. -/
theorem Whole.moveFile_cases (ht : t.Whole) (source dest : String) (r : MoveRefusals) :
    (∃ e, t.moveFile source dest r = (t, .error e)) ∨
      (∃ after, r.rename = none ∧ t.rename source dest = .ok after ∧
        t.moveFile source dest r = (after, .ok ())) ∨
      r.rename ≠ none ∧
        ((∃ left e, t.moveFile source dest r = (left, .error e) ∧
          t.PartlyCopied left source dest) ∨
        ∃ old new text, t.resolve false source = .ok old ∧
          t.copyTarget source dest = .ok (new, text) ∧
          t.moveFile source dest r = ((t.put new (.file text)).erase old, .ok ())) := by
  unfold moveFile
  cases hrename : SystemError.refusing r.rename (t.rename source dest) with
  | ok after =>
    obtain ⟨hr, hafter⟩ := SystemError.refusing_eq_ok.1 hrename
    exact .inr (.inl ⟨after, hr, hafter, rfl⟩)
  | error e =>
    simp only
    split
    · obtain ⟨e, hcopy⟩ | ⟨l, text, htarget, hcopy⟩ := t.copyFile_cases source dest r.copy
      · exact .inl ⟨e, by rw [hcopy]⟩
      · -- Something is copied, so nothing but a refusal has kept the file from being renamed.
        obtain ⟨moved, hmoved⟩ := ht.rename_of_copyTarget htarget
        have hrefused : r.rename ≠ none := by
          intro hr
          rw [hr, SystemError.refusing_none, hmoved] at hrename
          exact absurd hrename (by simp)
        refine .inr (.inr ⟨hrefused, ?_⟩)
        obtain ⟨left, e, hbroken, hpart⟩ | hwhole := hcopy
        · exact .inl ⟨left, e, by rw [hbroken], hpart⟩
        · rw [hwhole]
          simp only
          cases hremove : SystemError.refusing r.remove
            ((t.put l (.file text)).removeFile source) with
          | error e => exact .inl ⟨_, e, rfl, partlyCopied_put htarget⟩
          | ok after =>
            obtain ⟨old, hold, rfl⟩ := removeFile_eq_ok (SystemError.refusing_eq_ok.1 hremove).2
            obtain ⟨place, hplace, hsome⟩ := place_of_copyTarget htarget
            have hsame := resolve_put text hplace hsome (ht.lookup_copyTarget htarget)
            obtain rfl : place = old := Except.ok.inj (hsame.symm.trans hold)
            exact .inr ⟨place, l, text, hplace, htarget, rfl⟩
    · exact .inl ⟨e, rfl⟩

/-- So what is moved has got its new place, unless renaming is refused. -/
theorem Whole.renamed_of_moveFile (ht : t.Whole) {source dest : String} {r : MoveRefusals}
    (hr : r.rename = none) (h : t.moveFile source dest r = (after, .ok ())) : ∃ old new,
      t.resolve false source = .ok old ∧ t.resolve false dest = .ok new ∧
      t.lookup old ≠ none ∧ t.Renamed after old new := by
  obtain ⟨e, hfail⟩ | ⟨renamed, -, hrename, hdone⟩ | ⟨hrefused, -⟩ :=
    ht.moveFile_cases source dest r
  · rw [hfail] at h
    exact absurd (Prod.mk.inj h).2 (by simp)
  · obtain rfl : renamed = after := (Prod.mk.inj (hdone.symm.trans h)).1
    exact ht.renamed hrename
  · exact absurd hr hrefused

end Autoplay.FileTree
