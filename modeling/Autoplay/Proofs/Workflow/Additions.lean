import Autoplay.Proofs.Document.Additions
import Mathlib.Logic.Relation

/-!
# Fields that do not matter

A reader of fields that asks for certain names only reads the same whatever stands under the others
(`Fields.ReadsOnly`). The fields of an action are read by the names of its kind, so what else is
said of a step does not matter, and neither do fields without a value anywhere in a document. The
main statement, `additions_do_not_matter`, says this of the texts of two documents;
`not_read_with_every_note` has values that a text cannot be read with.
-/

namespace Autoplay

open Decoder Document

/-! ## Reading by name -/

namespace Fields

variable {α β : Type} {names names' : List String}

/-- What is read depends on the fields of these names only. -/
def ReadsOnly (names : List String) (read : Fields → Except Mismatch α) : Prop :=
  ∀ ⦃k : String⦄ ⦃f : Fields⦄, k ∉ names → read (f.without k) = read f

/-- Fields of other names are not tested. -/
theorem readsOnly_check {tests : List Test} (h : tests.map Test.name ⊆ names) :
    ReadsOnly names (check tests) := by
  intro k f hk
  have hfind : findTest k tests = none := by
    cases hfind : findTest k tests with
    | none => rfl
    | some accepts =>
      obtain ⟨t, ht, rfl, -⟩ := exists_of_findTest hfind
      exact absurd (h (List.mem_map_of_mem ht)) hk
  induction f with
  | nil => rfl
  | cons field rest ih =>
    obtain ⟨key, value⟩ := field
    unfold without at ih ⊢
    by_cases hkey : key = k
    · rw [List.filter_cons_of_neg (by simpa using hkey), ih, check, hkey, hfind]
    · rw [List.filter_cons_of_pos (by simpa using hkey), check, check, ih]

/-- A field that has to be there is looked for by its name. -/
theorem readsOnly_required {n : String} {decoder : Decoder α} (h : n ∈ names) :
    ReadsOnly names fun f => f.required n decoder := by
  intro k f hk
  have hn : n ≠ k := fun hn => hk (hn ▸ h)
  show (f.without k).required n decoder = f.required n decoder
  unfold Fields.required
  rw [lookup_without, if_neg hn]

/-- So is a field that may be missing. -/
theorem readsOnly_withDefault {n : String} {decoder : Decoder α} {default : α} (h : n ∈ names) :
    ReadsOnly names fun f => f.withDefault n decoder default := by
  intro k f hk
  have hn : n ≠ k := fun hn => hk (hn ▸ h)
  show (f.without k).withDefault n decoder default = f.withDefault n decoder default
  unfold Fields.withDefault
  rw [lookup_without, if_neg hn]

/-- What is read one after the other. -/
theorem ReadsOnly.bind {read : Fields → Except Mismatch α} {next : α → Fields → Except Mismatch β}
    (h : ReadsOnly names read) (hnext : ∀ a, ReadsOnly names (next a)) :
    ReadsOnly names fun f => read f >>= fun a => next a f := by
  intro k f hk
  dsimp only
  rw [h hk]
  cases read f with
  | error m => rfl
  | ok a => exact hnext a hk

/-- What is made of what was read. -/
theorem ReadsOnly.map {read : Fields → Except Mismatch α} (h : ReadsOnly names read) (g : α → β) :
    ReadsOnly names fun f => (read f).map g :=
  fun _ _ hk => congrArg (Except.map g) (h hk)

/-- What does not depend on the fields. -/
theorem readsOnly_const (r : Except Mismatch α) : ReadsOnly names fun _ => r :=
  fun _ _ _ => rfl

/-- A choice of readers reads by the names of the one that is chosen. -/
theorem ReadsOnly.ite {c : Prop} [Decidable c] {read read' : Fields → Except Mismatch α}
    (h : ReadsOnly names read) (h' : ReadsOnly names' read') :
    ReadsOnly (if c then names else names') fun f => if c then read f else read' f := by
  intro k f hk
  split at hk
  next hc => simpa only [if_pos hc] using h hk
  next hc => simpa only [if_neg hc] using h' hk

end Fields

open Fields

/-! ## The fields of an action -/

namespace Click

/-- The names of the fields of a tap. -/
def fieldNames : List String := ["x", "y"]

/-- A tap is read by these names. -/
theorem readsOnly : ReadsOnly fieldNames decode := by
  unfold decode
  exact .bind (readsOnly_check (List.Subset.refl _)) fun _ =>
    .bind (readsOnly_required (by simp [fieldNames])) fun _ =>
    .bind (readsOnly_required (by simp [fieldNames])) fun _ => readsOnly_const _

end Click

namespace Swipe

/-- The names of the fields of a swipe. -/
def fieldNames : List String := ["x", "y", "end_x", "end_y", "swipe_duration_ms"]

/-- A swipe is read by these names. -/
theorem readsOnly : ReadsOnly fieldNames decode := by
  unfold decode
  exact .bind (readsOnly_check (List.Subset.refl _)) fun _ =>
    .bind (readsOnly_required (by simp [fieldNames])) fun _ =>
    .bind (readsOnly_required (by simp [fieldNames])) fun _ =>
    .bind (readsOnly_required (by simp [fieldNames])) fun _ =>
    .bind (readsOnly_required (by simp [fieldNames])) fun _ =>
    .bind (readsOnly_withDefault (by simp [fieldNames])) fun _ => readsOnly_const _

end Swipe

namespace Wait

/-- The names of the fields of a pause. -/
def fieldNames : List String := ["wait_duration_ms"]

/-- A pause is read by these names. -/
theorem readsOnly : ReadsOnly fieldNames decode := by
  unfold decode
  exact .bind (readsOnly_check (List.Subset.refl _)) fun _ =>
    .bind (readsOnly_withDefault (by simp [fieldNames])) fun _ => readsOnly_const _

end Wait

namespace TemplateSearch

/-- The names of the fields of a template search. -/
def fieldNames : List String :=
  ["template_path", "template_name", "threshold", "match_all", "skip_if_not_found",
    "max_wait_seconds", "max_retries", "retry_interval"]

/-- A template search is read by these names. -/
theorem readsOnly : ReadsOnly fieldNames decode := by
  unfold decode
  exact .bind (readsOnly_check (List.Subset.refl _)) fun _ =>
    .bind (readsOnly_required (by simp [fieldNames])) fun _ =>
    .bind (readsOnly_withDefault (by simp [fieldNames])) fun _ =>
    .bind (readsOnly_withDefault (by simp [fieldNames])) fun _ =>
    .bind (readsOnly_withDefault (by simp [fieldNames])) fun _ =>
    .bind (readsOnly_withDefault (by simp [fieldNames])) fun _ =>
    .bind (readsOnly_withDefault (by simp [fieldNames])) fun _ =>
    .bind (readsOnly_withDefault (by simp [fieldNames])) fun _ =>
    .bind (readsOnly_withDefault (by simp [fieldNames])) fun _ => readsOnly_const _

end TemplateSearch

namespace LoopClick

/-- The names of the fields of a tapping loop. -/
def fieldNames : List String :=
  ["template_path", "threshold", "max_iterations", "not_found_threshold", "click_delay",
    "retry_delay"]

/-- A tapping loop is read by these names. -/
theorem readsOnly : ReadsOnly fieldNames decode := by
  unfold decode
  exact .bind (readsOnly_check (List.Subset.refl _)) fun _ =>
    .bind (readsOnly_required (by simp [fieldNames])) fun _ =>
    .bind (readsOnly_withDefault (by simp [fieldNames])) fun _ =>
    .bind (readsOnly_withDefault (by simp [fieldNames])) fun _ =>
    .bind (readsOnly_withDefault (by simp [fieldNames])) fun _ =>
    .bind (readsOnly_withDefault (by simp [fieldNames])) fun _ =>
    .bind (readsOnly_withDefault (by simp [fieldNames])) fun _ => readsOnly_const _

end LoopClick

namespace ColorWait

/-- The names of the fields of a wait for a colour. -/
def fieldNames : List String :=
  ["x", "y", "expected_color", "tolerance", "max_wait_seconds", "check_interval"]

/-- A wait for a colour is read by these names. -/
theorem readsOnly : ReadsOnly fieldNames decode := by
  unfold decode
  exact .bind (readsOnly_check (List.Subset.refl _)) fun _ =>
    .bind (readsOnly_required (by simp [fieldNames])) fun _ =>
    .bind (readsOnly_required (by simp [fieldNames])) fun _ =>
    .bind (readsOnly_withDefault (by simp [fieldNames])) fun _ =>
    .bind (readsOnly_withDefault (by simp [fieldNames])) fun _ =>
    .bind (readsOnly_withDefault (by simp [fieldNames])) fun _ =>
    .bind (readsOnly_withDefault (by simp [fieldNames])) fun _ => readsOnly_const _

end ColorWait

namespace Conditional

/-- The names of the fields of a conditional step. -/
def fieldNames : List String :=
  ["template_path", "threshold", "condition_type", "goto_step_on_true", "goto_step_on_false"]

/-- A conditional step is read by these names. -/
theorem readsOnly : ReadsOnly fieldNames decode := by
  unfold decode
  exact .bind (readsOnly_check (List.Subset.refl _)) fun _ =>
    .bind (readsOnly_required (by simp [fieldNames])) fun _ =>
    .bind (readsOnly_withDefault (by simp [fieldNames])) fun _ =>
    .bind (readsOnly_required (by simp [fieldNames])) fun _ =>
    .bind (readsOnly_withDefault (by simp [fieldNames])) fun _ =>
    .bind (readsOnly_withDefault (by simp [fieldNames])) fun _ => readsOnly_const _

end Conditional

namespace App

/-- The names of the fields of a step about the game. -/
def fieldNames : List String := ["package"]

/-- A step about the game is read by these names. -/
theorem readsOnly : ReadsOnly fieldNames decode := by
  unfold decode
  exact .bind (readsOnly_check (List.Subset.refl _)) fun _ =>
    .bind (readsOnly_withDefault (by simp [fieldNames])) fun _ => readsOnly_const _

end App

namespace RepeatGroup

/-- The names of the fields of a step that repeats a group. -/
def fieldNames : List String :=
  ["loop_group_name", "stop_template_path", "threshold", "stop_on_not_found", "loop_max_iterations"]

/-- A step that repeats a group is read by these names. -/
theorem readsOnly : ReadsOnly fieldNames decode := by
  unfold decode
  exact .bind (readsOnly_check (List.Subset.refl _)) fun _ =>
    .bind (readsOnly_withDefault (by simp [fieldNames])) fun _ =>
    .bind (readsOnly_withDefault (by simp [fieldNames])) fun _ =>
    .bind (readsOnly_withDefault (by simp [fieldNames])) fun _ =>
    .bind (readsOnly_withDefault (by simp [fieldNames])) fun _ =>
    .bind (readsOnly_withDefault (by simp [fieldNames])) fun _ => readsOnly_const _

end RepeatGroup

namespace GachaCheck

/-- The names of the fields of a look at what was drawn. -/
def fieldNames : List String := ["ocr_region", "target_characters", "gacha_save_folder"]

/-- A look at what was drawn is read by these names. -/
theorem readsOnly : ReadsOnly fieldNames decode := by
  unfold decode
  exact .bind (readsOnly_check (List.Subset.refl _)) fun _ =>
    .bind (readsOnly_withDefault (by simp [fieldNames])) fun _ =>
    .bind (readsOnly_withDefault (by simp [fieldNames])) fun _ =>
    .bind (readsOnly_withDefault (by simp [fieldNames])) fun _ => readsOnly_const _

end GachaCheck

namespace Action

/-- The names of the fields of an action of a kind. -/
def fieldNames (kind : String) : List String :=
  if kind = "click" then Click.fieldNames
  else if kind = "swipe" then Swipe.fieldNames
  else if kind = "wait" then Wait.fieldNames
  else if kind = "image_match" then TemplateSearch.fieldNames
  else if kind = "find_all_click" then TemplateSearch.fieldNames
  else if kind = "loop_click" then LoopClick.fieldNames
  else if kind = "wait_for_color" then ColorWait.fieldNames
  else if kind = "press_back" then []
  else if kind = "conditional" then Conditional.fieldNames
  else if kind = "start_game" then App.fieldNames
  else if kind = "restart_game" then App.fieldNames
  else if kind = "repeat_group" then RepeatGroup.fieldNames
  else GachaCheck.fieldNames

/-- An action of a kind is read by the names of its fields. -/
theorem readsOnly_decodeFields (kind : String) : ReadsOnly (fieldNames kind) (decodeFields kind) :=
  .ite (Click.readsOnly.map _) <| .ite (Swipe.readsOnly.map _) <| .ite (Wait.readsOnly.map _) <|
    .ite (TemplateSearch.readsOnly.map _) <| .ite (TemplateSearch.readsOnly.map _) <|
    .ite (LoopClick.readsOnly.map _) <| .ite (ColorWait.readsOnly.map _) <|
    .ite (readsOnly_const _) <| .ite (Conditional.readsOnly.map _) <|
    .ite (App.readsOnly.map _) <| .ite (App.readsOnly.map _) <|
    .ite (RepeatGroup.readsOnly.map _) (GachaCheck.readsOnly.map _)

/-- The kind that a document names is the one that its content names. -/
theorem decodeKind_content {d : Document} {kind : String}
    (h : decodeKind (content d) = .ok kind) : decodeKind d = .ok kind := by
  cases d with
  | list ds =>
    rw [content_list] at h
    exact nomatch h
  | record f =>
    rw [content_record] at h
    exact nomatch h
  | null | bool | integer | float | single | text => exact h

end Action

/-! ## The fields of a step -/

namespace Step

/-- The names of the fields that every step has. -/
def fieldNames : List String := ["description", "group_name", "step_type"]

/-- A name is foreign to a step with these fields: neither does every step have a field of that name
nor do the steps of its kind. -/
structure Foreign (n : String) (f : Fields) : Prop where
  /-- It is not the name of a field that every step has. -/
  step : n ∉ fieldNames
  /-- It is not the name of a field of the action. -/
  action : ∀ d kind, ("step_type", d) ∈ f → Action.decodeKind d = .ok kind →
    n ∉ Action.fieldNames kind

variable {n : String} {f g : Fields}

/-- A step is read by the names of its fields. -/
theorem decodeFields_without (hstep : n ∉ fieldNames)
    (haction : ∀ kind, f.required "step_type" Action.decodeKind = .ok kind →
      n ∉ Action.fieldNames kind) : decodeFields (f.without n) = decodeFields f := by
  have hcheck : check [.of "description" text, .of "group_name" (option text)] (f.without n) =
      check [.of "description" text, .of "group_name" (option text)] f :=
    readsOnly_check (List.sublist_append_left _ _).subset hstep
  have hdescription : (f.without n).withDefault "description" text "" =
      f.withDefault "description" text "" := readsOnly_withDefault (by simp [fieldNames]) hstep
  have hgroup : (f.without n).withDefault "group_name" (option text) none =
      f.withDefault "group_name" (option text) none :=
    readsOnly_withDefault (by simp [fieldNames]) hstep
  have hkind : (f.without n).required "step_type" Action.decodeKind =
      f.required "step_type" Action.decodeKind := readsOnly_required (by simp [fieldNames]) hstep
  have hdecode : Action.decode (f.without n) = Action.decode f := by
    unfold Action.decode
    rw [hkind]
    cases hread : f.required "step_type" Action.decodeKind with
    | error m => rfl
    | ok kind => exact Action.readsOnly_decodeFields kind (haction kind hread)
  unfold decodeFields
  rw [hcheck, hdecode, hdescription, hgroup]

/-- The kind of a step is read from its content. -/
theorem decodeKind_of_required {kind : String}
    (h : (contentFields f).required "step_type" Action.decodeKind = .ok kind) :
    ∃ d, ("step_type", d) ∈ f ∧ Action.decodeKind d = .ok kind := by
  unfold Fields.required at h
  rw [lookup_contentFields] at h
  cases hvalue : value? "step_type" f with
  | none =>
    rw [hvalue] at h
    exact nomatch h
  | some d =>
    rw [hvalue] at h
    have hlookup : lookup "step_type" f.reverse = some d := (Option.filter_eq_some_iff.1 hvalue).1
    exact ⟨d, List.mem_reverse.1 (mem_of_lookup hlookup), Action.decodeKind_content h⟩

/-- Beside a foreign field, a step is read as without it. -/
theorem decodeFields_foreign (h : Foreign n (f ++ g)) (d : Document) :
    decodeFields (contentFields (f ++ (n, d) :: g)) = decodeFields (contentFields (f ++ g)) := by
  have hlookup {m : String} (hm : m ≠ n) : lookup m (contentFields (f ++ (n, d) :: g)) =
      lookup m (contentFields (f ++ g)) := by
    rw [lookup_contentFields, lookup_contentFields, value?_of_ne (Ne.symm hm)]
  have hothers : (contentFields (f ++ (n, d) :: g)).without n =
      (contentFields (f ++ g)).without n := by
    refine eq_of_lookup (sorted_without (sorted_contentFields _) n)
      (sorted_without (sorted_contentFields _) n) fun m => ?_
    rw [lookup_without, lookup_without]
    split
    next => rfl
    next hm => exact hlookup hm
  have hkind : (contentFields (f ++ (n, d) :: g)).required "step_type" Action.decodeKind =
      (contentFields (f ++ g)).required "step_type" Action.decodeKind := by
    have hne : "step_type" ≠ n := fun hn => h.step (hn ▸ by simp [fieldNames])
    unfold Fields.required
    rw [hlookup hne]
  have haction (kind : String)
      (hread : (contentFields (f ++ g)).required "step_type" Action.decodeKind = .ok kind) :
      n ∉ Action.fieldNames kind := by
    obtain ⟨d, hd, hkind⟩ := decodeKind_of_required hread
    exact h.action d kind hd hkind
  -- Neither step is asked for the foreign name, and without it they are the same.
  calc decodeFields (contentFields (f ++ (n, d) :: g))
      = decodeFields ((contentFields (f ++ (n, d) :: g)).without n) :=
        (decodeFields_without h.step (hkind ▸ haction)).symm
    _ = decodeFields ((contentFields (f ++ g)).without n) := by rw [hothers]
    _ = decodeFields (contentFields (f ++ g)) := decodeFields_without h.step haction

/-- A field of any value is put into a step under a foreign name. -/
inductive ForeignAdded : Document → Document → Prop
  /-- Anywhere among the fields. -/
  | intro {n : String} {f g : Fields} (h : Foreign n (f ++ g)) (d : Document) :
    ForeignAdded (.record (f ++ g)) (.record (f ++ (n, d) :: g))

/-- A step is read as without such a field. -/
theorem ForeignAdded.decode_eq {d d' : Document} (h : ForeignAdded d d') :
    decode (content d) = decode (content d') := by
  cases h with
  | intro h d =>
    rw [content_record, content_record]
    exact (decodeFields_foreign h d).symm

/-- Such a field makes a step deeper, if anything. -/
theorem ForeignAdded.depth_le {d d' : Document} (h : ForeignAdded d d') :
    Json.depth d ≤ Json.depth d' := by
  cases h with
  | intro h d =>
    rw [Json.depth, Json.depth, Json.fieldDepth_append, Json.fieldDepth_append, Json.fieldDepth]
    omega

end Step

/-! ## The fields of a workflow -/

namespace Fields

variable {α : Type} {Q : String → Document → Document → Prop} {f g : Fields}

/-- Related fields pass the same tests if the tests do not tell related values apart. -/
theorem Related.check {tests : List Test} (h : Related Q f g)
    (htests : ∀ n u v accepts, Q n u v → findTest n tests = some accepts → accepts u = accepts v) :
    f.check tests = g.check tests := by
  unfold Related at h
  induction h with
  | nil => rfl
  | @cons a b f g hhead _ ih =>
    obtain ⟨n, u⟩ := a
    obtain ⟨n', v⟩ := b
    obtain ⟨hname, hvalue⟩ := hhead
    dsimp only at hname hvalue
    subst hname
    rw [Fields.check, Fields.check, ih]
    cases hfind : findTest n tests with
    | none => rfl
    | some accepts =>
      dsimp only
      rw [htests n u v accepts hvalue hfind]

/-- Under a name, related fields have related values. -/
theorem Related.lookup (h : Related Q f g) (n : String) :
    Option.Rel (Q n) (Document.lookup n f) (Document.lookup n g) := by
  unfold Related at h
  induction h with
  | nil => exact .none
  | @cons a b f g hhead _ ih =>
    obtain ⟨key, u⟩ := a
    obtain ⟨key', v⟩ := b
    obtain ⟨hname, hvalue⟩ := hhead
    dsimp only at hname hvalue
    subst hname
    rw [Document.lookup, Document.lookup]
    split
    next hkey => exact .some (hkey ▸ hvalue)
    next => exact ih

/-- A field is the same if its decoder does not tell related values apart. -/
theorem Related.withDefault {n : String} {decoder : Decoder α} (h : Related Q f g)
    (hdecoder : ∀ u v, Q n u v → decoder u = decoder v) (default : α) :
    f.withDefault n decoder default = g.withDefault n decoder default := by
  have hlookup := h.lookup n
  unfold Fields.withDefault
  generalize Document.lookup n f = u, Document.lookup n g = v at hlookup ⊢
  cases hlookup with
  | none => rfl
  | some hvalue => exact hdecoder _ _ hvalue

end Fields

namespace Workflow

/-- A field has the same value, or the same steps are read from both values. -/
def SameSteps (n : String) (u v : Document) : Prop :=
  u = v ∨ n = "steps" ∧ list Step.decode u = list Step.decode v

/-- A workflow depends on the steps that are read, and not on how they are written. -/
theorem decodeFields_eq {f g : Fields} (h : Related SameSteps f g) :
    decodeFields f = decodeFields g := by
  have hplain {α : Type} {n : String} (hn : n ≠ "steps") (decoder : Decoder α) (default : α) :
      f.withDefault n decoder default = g.withDefault n decoder default :=
    h.withDefault (fun u v huv => congrArg decoder (huv.resolve_right fun h => hn h.1)) default
  have hsteps : f.withDefault "steps" (list Step.decode) [] =
      g.withDefault "steps" (list Step.decode) [] := by
    refine h.withDefault (fun u v huv => ?_) []
    rcases huv with rfl | ⟨-, huv⟩
    · rfl
    · exact huv
  unfold decodeFields
  rw [h.check, hsteps]
  · simp (disch := decide) only [hplain]
  · rintro n u v accepts (rfl | ⟨rfl, huv⟩) hfind
    · rfl
    · have haccepts : (Test.of "steps" (list Step.decode)).accepts = accepts := by
        simpa [findTest, Test.of] using hfind
      subst haccepts
      exact congrArg (Except.map fun _ => ()) huv

/-- The items of a list are read the same if one of them gives way to one that is. -/
theorem items_replace {α : Type} {item : Decoder α} {d d' : Document} (h : item d = item d')
    (ds es : List Document) :
    Decoder.items item (ds ++ d :: es) = Decoder.items item (ds ++ d' :: es) := by
  induction ds with
  | nil => rw [List.nil_append, List.nil_append, Decoder.items, Decoder.items, h]
  | cons e ds ih => rw [List.cons_append, List.cons_append, Decoder.items, Decoder.items, ih]

/-- A field of any value is put into a step of a workflow under a foreign name. The steps stand
under their name, or in their place if the workflow is written as a list. -/
inductive ForeignAdded : Document → Document → Prop
  /-- The workflow is a record. -/
  | named {f g : Fields} {ds es : List Document} {d d' : Document} (h : Step.ForeignAdded d d') :
    ForeignAdded (.record (f ++ ("steps", .list (ds ++ d :: es)) :: g))
      (.record (f ++ ("steps", .list (ds ++ d' :: es)) :: g))
  /-- The workflow is a list. -/
  | placed {fs gs ds es : List Document} {d d' : Document} (hplace : fs.length = 11)
    (h : Step.ForeignAdded d d') :
    ForeignAdded (.list (fs ++ .list (ds ++ d :: es) :: gs))
      (.list (fs ++ .list (ds ++ d' :: es) :: gs))

/-- The same steps are read beside a foreign field of one of them. -/
theorem sameSteps_content {d d' : Document} (h : Step.ForeignAdded d d') (ds es : List Document) :
    SameSteps "steps" (content (.list (ds ++ d :: es))) (content (.list (ds ++ d' :: es))) := by
  refine .inr ⟨rfl, ?_⟩
  rw [content_list, content_list, List.map_append, List.map_append, List.map_cons, List.map_cons]
  exact items_replace h.decode_eq _ _

/-- In a workflow that is written as a list, the twelfth item holds the steps. -/
theorem positional_append_cons {ds : List Document} (hplace : ds.length = 11) (d : Document)
    (es : List Document) :
    positional fieldNames (ds ++ d :: es) = (fieldNames.take 11).zip ds ++ [("steps", d)] := by
  have hlength : (fieldNames.take 11).length = ds.length := hplace.symm
  calc positional fieldNames (ds ++ d :: es)
      = (fieldNames.take 11 ++ ["steps"]).zip (ds ++ d :: es) := rfl
    _ = (fieldNames.take 11).zip ds ++ [("steps", d)] := List.zip_append hlength

/-- A workflow is read the same beside a foreign field of a step. -/
theorem ForeignAdded.decode_eq {d d' : Document} (h : ForeignAdded d d') :
    decode (content d) = decode (content d') := by
  cases h with
  | @named f g ds es d d' h =>
    rw [content_record, content_record]
    refine decodeFields_eq (related_contentFields fun n => ?_)
    exact rel_value? (Q := fun n u v => SameSteps n (content u) (content v))
      (fun _ _ => .inl rfl) rfl (sameSteps_content h ds es)
  | @placed fs gs ds es d d' hplace h =>
    -- The fields in front have the first eleven names, and behind the steps there are no names.
    have hlength : (fs.map content).length = 11 := by rw [List.length_map, hplace]
    have hfields : decodeFields (positional fieldNames
          (fs.map content ++ content (.list (ds ++ d :: es)) :: gs.map content)) =
        decodeFields (positional fieldNames
          (fs.map content ++ content (.list (ds ++ d' :: es)) :: gs.map content)) := by
      rw [positional_append_cons hlength, positional_append_cons hlength]
      exact decodeFields_eq
        (related_replace (fun _ _ => .inl rfl) (sameSteps_content h ds es) _ [])
    rw [content_list, content_list, List.map_append, List.map_append, List.map_cons, List.map_cons]
    unfold decode
    dsimp only
    rw [hfields, List.length_append, List.length_append, List.length_cons, List.length_cons]

/-- A foreign field makes a workflow deeper, if anything. -/
theorem ForeignAdded.depth_le {d d' : Document} (h : ForeignAdded d d') :
    Json.depth d ≤ Json.depth d' := by
  cases h with
  | named h =>
    have hstep := h.depth_le
    simp only [Json.depth, Json.fieldDepth_append, Json.fieldDepth, Json.itemDepth_append,
      Json.itemDepth]
    omega
  | placed _ h =>
    have hstep := h.depth_le
    simp only [Json.depth, Json.itemDepth_append, Json.itemDepth]
    omega

/-- A field without a value under a new name at any depth, or a foreign field of a step. -/
inductive Addition (d d' : Document) : Prop
  /-- A field without a value. -/
  | empty (h : EmptyAdded d d')
  /-- A foreign field. -/
  | foreign (h : ForeignAdded d d')

/-- A workflow is read the same with an addition. -/
theorem Addition.decode_eq {d d' : Document} (h : Addition d d') :
    decode (content d) = decode (content d') := by
  cases h with
  | empty h => rw [h.content_eq]
  | foreign h => exact h.decode_eq

/-- An addition makes a document deeper, if anything. -/
theorem Addition.depth_le {d d' : Document} (h : Addition d d') : Json.depth d ≤ Json.depth d' := by
  cases h with
  | empty h => exact h.depth_eq.le
  | foreign h => exact h.depth_le

/-- Any number of additions leave what is read, and make a document deeper, if anything. -/
theorem unchanged_of_additions {d d' : Document} (h : Relation.ReflTransGen Addition d d') :
    decode (content d) = decode (content d') ∧ Json.depth d ≤ Json.depth d' := by
  induction h with
  | refl => exact ⟨rfl, le_rfl⟩
  | tail _ hlast ih => exact ⟨ih.1.trans hlast.decode_eq, ih.2.trans hlast.depth_le⟩

/-- Any number of fields without a value leave the depth. -/
theorem depth_of_emptyAdded {d d' : Document} (h : Relation.ReflTransGen EmptyAdded d d') :
    Json.depth d = Json.depth d' := by
  induction h with
  | refl => rfl
  | tail _ hlast ih => exact ih.trans hlast.depth_eq

/-- What is read from the text of a document. -/
theorem ofJson_of_isTextOf {s : String} {d : Document} (hs : Json.IsTextOf s d) :
    ofJson s = if Json.depth d ≤ Json.Assembly.maxDepth then
      (decode (content d)).mapError .mismatch else .error .notJson := by
  unfold ofJson
  by_cases hdepth : Json.depth d ≤ Json.Assembly.maxDepth
  · rw [Json.read_eq_some hs hdepth, if_pos hdepth, content]
    dsimp only
    cases decode (Json.ordered d).dropNulls with
    | ok w => rfl
    | error m => rfl
  · rw [Json.read_eq_none hs (Nat.lt_of_not_le hdepth), if_neg hdepth]

/-- From the text of a document, a workflow is read or an error is found; it is the same one as from
a text with any number of additions, unless these make the document too deep. Fields without a value
alone do not make it deeper. -/
theorem additions_do_not_matter {s s' : String} {d d' : Document} (hs : Json.IsTextOf s d)
    (hs' : Json.IsTextOf s' d') :
    (Relation.ReflTransGen EmptyAdded d d' → ofJson s' = ofJson s) ∧
      (Relation.ReflTransGen Addition d d' →
        (Json.depth d ≤ Json.Assembly.maxDepth → Json.depth d' ≤ Json.Assembly.maxDepth) →
        ofJson s' = ofJson s) := by
  have hgeneral (hadded : Relation.ReflTransGen Addition d d')
      (hdepth : Json.depth d ≤ Json.Assembly.maxDepth → Json.depth d' ≤ Json.Assembly.maxDepth) :
      ofJson s' = ofJson s := by
    -- Additions only make a document deeper, so that both are too deep or neither is.
    obtain ⟨hdecode, hle⟩ := unchanged_of_additions hadded
    have hiff : Json.depth d' ≤ Json.Assembly.maxDepth ↔ Json.depth d ≤ Json.Assembly.maxDepth :=
      ⟨hle.trans, hdepth⟩
    rw [ofJson_of_isTextOf hs, ofJson_of_isTextOf hs', hdecode]
    simp only [hiff]
  refine ⟨fun hadded => ?_, hgeneral⟩
  have hle : EmptyAdded ≤ Addition := fun _ _ => .empty
  exact hgeneral (Relation.ReflTransGen.mono hle _ _ hadded) (depth_of_emptyAdded hadded).ge.trans

/-- A document with one step. -/
def ofStep (fields step : Fields) : Document :=
  .record (fields ++ [("steps", .list [.record step])])

/-- The fields of a tap. -/
def tap : Fields := [("step_type", .text "click"), ("x", .integer 1), ("y", .integer 2)]

/-- A note about it. -/
def note : String × Document := ("note", .record [("by", .list [.text "me", .integer 1])])

/-- A tap has no notes. -/
theorem foreign_note {f : Fields} (h : ∀ d, ("step_type", d) ∉ f) :
    Step.Foreign "note" (tap ++ f) := by
  refine ⟨by simp [Step.fieldNames], fun d kind hd hkind => ?_⟩
  have hclick : d = .text "click" := by simpa [tap, h d] using hd
  subst hclick
  cases hkind
  decide

/-- A tap. -/
def tapText : String :=
  "\x7b\"steps\":[\x7b\"step_type\":\"click\",\"x\":1,\"y\":2\x7d]\x7d"

/-- This is a text of the tap. -/
theorem isTextOf_tapText : Json.IsTextOf tapText (ofStep [] tap) := by
  unfold Json.IsTextOf
  rfl

/-- The tap is read from it. -/
theorem ofJson_tapText : ofJson tapText = .ok { steps := [{ action := .click ⟨1, 2⟩ }] } :=
  eq_ok_of_toOption (by decide +kernel)

/-- The tap with two fields that are `null`. -/
def emptyText : String :=
  "\x7b \"id\":null, \"steps\":[\x7b\"step_type\":\"click\",\"x\":1,\"y\":2," ++
  "\"group_name\":null\x7d] \x7d"

/-- The same with the note. -/
def notedText : String :=
  "\x7b\"id\":null,\"steps\":[\x7b\"note\":\x7b\"by\":[\"me\",1]\x7d," ++
  "\"step_type\":\"click\",\"x\":1,\"y\":2,\"group_name\":null\x7d]\x7d"

/-- From all three texts the same workflow is read. -/
theorem noted_tap_same_as_tap :
    ofJson emptyText = .ok { steps := [{ action := .click ⟨1, 2⟩ }] } ∧
      ofJson notedText = .ok { steps := [{ action := .click ⟨1, 2⟩ }] } := by
  have hempty : Json.IsTextOf emptyText
      (ofStep [("id", .null)] (tap ++ [("group_name", .null)])) := by
    unfold Json.IsTextOf
    rfl
  have hnoted : Json.IsTextOf notedText
      (ofStep [("id", .null)] (note :: tap ++ [("group_name", .null)])) := by
    unfold Json.IsTextOf
    rfl
  have hgroup : EmptyAdded (ofStep [] tap) (ofStep [] (tap ++ [("group_name", .null)])) :=
    @EmptyAdded.field "steps" [] [] _ _ <| @EmptyAdded.item [] [] _ _ <|
      @EmptyAdded.here "group_name" tap [] (by simp [tap])
  have hid : EmptyAdded (ofStep [] (tap ++ [("group_name", .null)]))
      (ofStep [("id", .null)] (tap ++ [("group_name", .null)])) :=
    @EmptyAdded.here "id" [] _ (by simp)
  have hnote : Addition (ofStep [("id", .null)] (tap ++ [("group_name", .null)]))
      (ofStep [("id", .null)] (note :: tap ++ [("group_name", .null)])) :=
    .foreign <| @ForeignAdded.named [("id", .null)] [] [] [] _ _ <|
      @Step.ForeignAdded.intro "note" [] _ (foreign_note (by simp)) note.2
  constructor
  · rw [(additions_do_not_matter isTextOf_tapText hempty).1 (.tail (.single hgroup) hid),
      ofJson_tapText]
  · rw [(additions_do_not_matter isTextOf_tapText hnoted).2
      (.tail (.tail (.single (.empty hgroup)) (.empty hid)) hnote) fun _ => by decide,
      ofJson_tapText]

/-- Lists in each other. -/
def nested : Nat → Document
  | 0 => .list []
  | n + 1 => .list [nested n]

/-- Lists in each other are written with whole numbers only: there are none. -/
theorem tokens_nested (n : Nat) : Json.tokens (nested n) = Json.spelling (nested n) := by
  induction n with
  | zero => rfl
  | succ n ih => rw [nested, Json.tokens, Json.spelling, ih]; rfl

/-- They can be read again where there is room for them. -/
theorem readable_nested (n room : Nat) : Json.Readable (n + 1 + room) (nested n) := by
  induction n generalizing room with
  | zero => exact ⟨by omega, trivial⟩
  | succ n ih =>
    rw [Nat.add_right_comm]
    exact ⟨by omega, ih room, trivial⟩

/-- How deep they are. -/
theorem depth_nested (n : Nat) : Json.depth (nested n) = n + 1 := by
  induction n with
  | zero => rfl
  | succ n ih => rw [nested, Json.depth, Json.itemDepth, ih]; rfl

/-- A tap with a note that is too deep. -/
def overdeep : Document := ofStep [] (tap ++ [("note", nested 124)])

/-- A tap with a note as it is written. -/
def textWithNote (note : String) : String :=
  "\x7b\"steps\":[\x7b\"step_type\":\"click\",\"x\":1,\"y\":2,\"note\":" ++ note ++ "\x7d]\x7d"

/-- A tap is not read beside a note that is too deep, a number that is too large or a text with half
of a pair of surrogates. -/
theorem not_read_with_every_note :
    Json.IsTextOf tapText (ofStep [] tap) ∧ Json.IsTextOf (Json.write overdeep) overdeep ∧
      Addition (ofStep [] tap) overdeep ∧
      ofJson tapText = .ok { steps := [{ action := .click ⟨1, 2⟩ }] } ∧
      ofJson (Json.write overdeep) = .error .notJson ∧
      ofJson (textWithNote "1e999") = .error .notJson ∧
      ofJson (textWithNote "\"\\ud800\"") = .error .notJson := by
  have hadded : Addition (ofStep [] tap) overdeep :=
    .foreign <| @ForeignAdded.named [] [] [] [] _ _ <|
      @Step.ForeignAdded.intro "note" tap [] (foreign_note (by simp)) (nested 124)
  have hwhole : Json.tokens overdeep = Json.spelling overdeep := by
    simp only [overdeep, ofStep, tap, List.nil_append, List.cons_append, Json.tokens,
      Json.itemTokens, Json.fieldTokens, Json.spelling, Json.itemSpelling, Json.fieldSpelling,
      tokens_nested]
  have hreadable : Json.Readable 128 overdeep :=
    ⟨by decide, ⟨by decide, ⟨by decide, trivial, ⟨by decide, by decide⟩, ⟨by decide, by decide⟩,
      readable_nested 124 0, trivial⟩, trivial⟩, trivial⟩
  have hdeep : Json.IsTextOf (Json.write overdeep) overdeep := Json.isTextOf_write hreadable hwhole
  have hdepth : ¬Json.depth overdeep ≤ Json.Assembly.maxDepth := by
    simp only [overdeep, ofStep, tap, List.nil_append, List.cons_append, Json.depth,
      Json.fieldDepth, Json.itemDepth, depth_nested]
    decide
  have hnothing {s : String} (h : (Json.read s).isNone = true) : ofJson s = .error .notJson := by
    unfold ofJson
    rw [Option.isNone_iff_eq_none.1 h]
  refine ⟨isTextOf_tapText, hdeep, hadded, ofJson_tapText, ?_, hnothing (by decide +kernel),
    hnothing (by decide +kernel)⟩
  rw [ofJson_of_isTextOf hdeep, if_neg hdepth]

end Workflow

end Autoplay
