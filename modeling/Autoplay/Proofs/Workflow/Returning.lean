import Autoplay.Document.Lenient
import Autoplay.Proofs.Document.Returning
import Autoplay.Workflow.Decode

/-!
# Workflows that are written and read again

A workflow that was read from JSON, written as JSON and read again is the same workflow, field for
field and step for step (`same_when_reread`). The exception are numbers that JSON cannot write: what
was too large for single precision became infinite, is written as `null` and gives way to the
default of its field (`settled`; `overlarge_not_same_when_reread` is such a workflow). That the
digits of the other numbers are read as the numbers is a hypothesis on the workflow
(`NumbersReread`), that its moments are read again is proved of every workflow that was read
(`momentsReal_of_ofJson`).
-/

namespace Autoplay

open Decoder Document

/-! ## Numbers of a workflow -/

namespace Fields

/-- The numbers in double precision. -/
def doubles (f : Fields) : List Float :=
  f.filterMap fun field =>
    match field.2 with
    | .float x => some x
    | _ => none

/-- The numbers in single precision. -/
def singles (f : Fields) : List Float32 :=
  f.filterMap fun field =>
    match field.2 with
    | .single x => some x
    | _ => none

/-- The digits of every finite number are read as the number. -/
def NumbersReread (f : Fields) : Prop :=
  (∀ x ∈ f.doubles, x.isFinite = true → Json.rereadDouble x = some x) ∧
    ∀ x ∈ f.singles, x.isFinite = true → Json.rereadSingle x = some x

instance (f : Fields) : Decidable f.NumbersReread :=
  inferInstanceAs (Decidable (_ ∧ _))

/-- Every number is finite. -/
def NumbersFinite (f : Fields) : Prop :=
  (∀ x ∈ f.doubles, x.isFinite = true) ∧ ∀ x ∈ f.singles, x.isFinite = true

instance (f : Fields) : Decidable f.NumbersFinite :=
  inferInstanceAs (Decidable (_ ∧ _))

variable {f : Fields} {n : String}

/-- The number of a field is one of the numbers. -/
theorem NumbersReread.double (h : f.NumbersReread) {x : Float} (hx : (n, .float x) ∈ f) :
    x.isFinite = true → Json.rereadDouble x = some x :=
  h.1 x (List.mem_filterMap.2 ⟨_, hx, rfl⟩)

/-- So is one in single precision. -/
theorem NumbersReread.single (h : f.NumbersReread) {x : Float32} (hx : (n, .single x) ∈ f) :
    x.isFinite = true → Json.rereadSingle x = some x :=
  h.2 x (List.mem_filterMap.2 ⟨_, hx, rfl⟩)

/-- The number of a field is finite. -/
theorem NumbersFinite.double (h : f.NumbersFinite) {x : Float} (hx : (n, .float x) ∈ f)
    (usual : Float) : (if x.isFinite then x else usual) = x :=
  if_pos (h.1 x (List.mem_filterMap.2 ⟨_, hx, rfl⟩))

/-- So is one in single precision. -/
theorem NumbersFinite.single (h : f.NumbersFinite) {x : Float32} (hx : (n, .single x) ∈ f)
    (usual : Float32) : (if x.isFinite then x else usual) = x :=
  if_pos (h.2 x (List.mem_filterMap.2 ⟨_, hx, rfl⟩))

end Fields

/-! ## Actions

Each kind of action is read back from its fields, whatever fields of the step stand beside them: a
field that was written is found under its name (`Fields.Consistent.yields`), so it passes its test
and is read as the value that was written. -/

section

variable {f : Fields}

/-- A tap is read back. -/
theorem Click.decode_returned {s : Click} (hf : f.Consistent)
    (hsub : (Action.click s).encodeFields ⊆ f) : decode f.returned = .ok s := by
  simp only [Action.encodeFields, List.cons_subset] at hsub
  obtain ⟨hx, hy, -⟩ := hsub
  have x := hf.yields hx (returns_int32 s.x none)
  have y := hf.yields hy (returns_int32 s.y none)
  unfold decode
  rw [hf.returned.check, x.required, y.required]
  · rfl
  · simp [x.passes, y.passes]

/-- A swipe is read back. -/
theorem Swipe.decode_returned {s : Swipe} (hf : f.Consistent)
    (hsub : (Action.swipe s).encodeFields ⊆ f) : decode f.returned = .ok s := by
  simp only [Action.encodeFields, List.cons_subset] at hsub
  obtain ⟨hx, hy, hendX, hendY, hmillis, -⟩ := hsub
  have x := hf.yields hx (returns_int32 s.x none)
  have y := hf.yields hy (returns_int32 s.y none)
  have endX := hf.yields hendX (returns_int32 s.endX none)
  have endY := hf.yields hendY (returns_int32 s.endY none)
  have millis := hf.yields hmillis (returns_uint64 s.millis (some 300))
  unfold decode
  rw [hf.returned.check, x.required, y.required, endX.required, endY.required, millis.withDefault]
  · rfl
  · simp [x.passes, y.passes, endX.passes, endY.passes, millis.passes]

/-- A pause is read back. -/
theorem Wait.decode_returned {s : Wait} (hf : f.Consistent)
    (hsub : (Action.wait s).encodeFields ⊆ f) : decode f.returned = .ok s := by
  simp only [Action.encodeFields, List.cons_subset] at hsub
  obtain ⟨hmillis, -⟩ := hsub
  have millis := hf.yields hmillis (returns_uint64 s.millis (some 1000))
  unfold decode
  rw [hf.returned.check, millis.withDefault]
  · rfl
  · simp [millis.passes]

/-- A template search as it is read back. -/
def TemplateSearch.settled (s : TemplateSearch) : TemplateSearch :=
  { s with
    threshold := if s.threshold.isFinite then s.threshold else 0.8
    maxWaitSeconds := if s.maxWaitSeconds.isFinite then s.maxWaitSeconds else 10.0
    retryInterval := if s.retryInterval.isFinite then s.retryInterval else 1.0 }

/-- A template search is read back, but for numbers that are not finite. -/
theorem TemplateSearch.decode_returned {s : TemplateSearch} (hf : f.Consistent)
    (hnumbers : f.NumbersReread) (hsub : s.encode ⊆ f) : decode f.returned = .ok s.settled := by
  simp only [encode, List.cons_subset] at hsub
  obtain ⟨hpath, hname, hthreshold, hall, hskip, hwait, hretries, hinterval, -⟩ := hsub
  have path := hf.yields hpath (returns_path s.templatePath none)
  have name := hf.yields hname (returns_option s.templateName fun n _ => returns_text n none)
  have threshold := hf.yields hthreshold (returns_single 0.8 (hnumbers.single hthreshold))
  have all := hf.yields hall (returns_bool s.matchAll (some false))
  have skip := hf.yields hskip (returns_bool s.skipIfNotFound (some false))
  have wait := hf.yields hwait (returns_float 10.0 (hnumbers.double hwait))
  have retries := hf.yields hretries (returns_option s.maxRetries fun n _ => returns_uint32 n none)
  have interval := hf.yields hinterval (returns_float 1.0 (hnumbers.double hinterval))
  unfold decode
  rw [hf.returned.check, path.required, name.withDefault, threshold.withDefault, all.withDefault,
    skip.withDefault, wait.withDefault, retries.withDefault, interval.withDefault]
  · rfl
  · simp [path.passes, name.passes, threshold.passes, all.passes, skip.passes, wait.passes,
      retries.passes, interval.passes]

/-- A tapping loop as it is read back. -/
def LoopClick.settled (s : LoopClick) : LoopClick :=
  { s with
    threshold := if s.threshold.isFinite then s.threshold else 0.8
    clickDelay := if s.clickDelay.isFinite then s.clickDelay else 1.5
    retryDelay := if s.retryDelay.isFinite then s.retryDelay else 2.0 }

/-- A tapping loop is read back, but for numbers that are not finite. -/
theorem LoopClick.decode_returned {s : LoopClick} (hf : f.Consistent)
    (hnumbers : f.NumbersReread) (hsub : (Action.loopClick s).encodeFields ⊆ f) :
    decode f.returned = .ok s.settled := by
  simp only [Action.encodeFields, List.cons_subset] at hsub
  obtain ⟨hpath, hthreshold, hiterations, hmisses, hclick, hretry, -⟩ := hsub
  have path := hf.yields hpath (returns_path s.templatePath none)
  have threshold := hf.yields hthreshold (returns_single 0.8 (hnumbers.single hthreshold))
  have iterations := hf.yields hiterations (returns_uint32 s.maxIterations (some 20))
  have misses := hf.yields hmisses (returns_uint32 s.notFoundThreshold (some 3))
  have click := hf.yields hclick (returns_float 1.5 (hnumbers.double hclick))
  have retry := hf.yields hretry (returns_float 2.0 (hnumbers.double hretry))
  unfold decode
  rw [hf.returned.check, path.required, threshold.withDefault, iterations.withDefault,
    misses.withDefault, click.withDefault, retry.withDefault]
  · rfl
  · simp [path.passes, threshold.passes, iterations.passes, misses.passes, click.passes,
      retry.passes]

/-- A wait for a colour as it is read back. -/
def ColorWait.settled (s : ColorWait) : ColorWait :=
  { s with
    maxWaitSeconds := if s.maxWaitSeconds.isFinite then s.maxWaitSeconds else 30.0
    checkInterval := if s.checkInterval.isFinite then s.checkInterval else 1.0 }

/-- A wait for a colour is read back, but for numbers that are not finite. -/
theorem ColorWait.decode_returned {s : ColorWait} (hf : f.Consistent)
    (hnumbers : f.NumbersReread) (hsub : (Action.waitForColor s).encodeFields ⊆ f) :
    decode f.returned = .ok s.settled := by
  simp only [Action.encodeFields, List.cons_subset] at hsub
  obtain ⟨hx, hy, hcolor, htolerance, hwait, hinterval, -⟩ := hsub
  have x := hf.yields hx (returns_int32 s.x none)
  have y := hf.yields hy (returns_int32 s.y none)
  have color := hf.yields hcolor
    (returns_list_self s.expectedColor (fun c _ => returns_uint8 c none) (some [255, 255, 255]))
  have tolerance := hf.yields htolerance (returns_uint32 s.tolerance (some 30))
  have wait := hf.yields hwait (returns_float 30.0 (hnumbers.double hwait))
  have interval := hf.yields hinterval (returns_float 1.0 (hnumbers.double hinterval))
  unfold decode
  rw [hf.returned.check, x.required, y.required, color.withDefault, tolerance.withDefault,
    wait.withDefault, interval.withDefault]
  · rfl
  · simp [x.passes, y.passes, color.passes, tolerance.passes, wait.passes, interval.passes]

/-- A condition is read back. -/
theorem Condition.returns (c : Condition) (default : Option Condition) :
    (Document.text c.name).Returns decode default c := by
  cases c <;> exact .of_returned rfl rfl

/-- A conditional step as it is read back. -/
def Conditional.settled (s : Conditional) : Conditional :=
  { s with threshold := if s.threshold.isFinite then s.threshold else 0.8 }

/-- A conditional step is read back, but for a threshold that is not finite. -/
theorem Conditional.decode_returned {s : Conditional} (hf : f.Consistent)
    (hnumbers : f.NumbersReread) (hsub : (Action.conditional s).encodeFields ⊆ f) :
    decode f.returned = .ok s.settled := by
  simp only [Action.encodeFields, List.cons_subset] at hsub
  obtain ⟨hpath, hthreshold, hcondition, hyes, hno, -⟩ := hsub
  have path := hf.yields hpath (returns_path s.templatePath none)
  have threshold := hf.yields hthreshold (returns_single 0.8 (hnumbers.single hthreshold))
  have condition := hf.yields hcondition (s.condition.returns none)
  have yes := hf.yields hyes (returns_option s.gotoOnTrue fun n _ => returns_index n none)
  have no := hf.yields hno (returns_option s.gotoOnFalse fun n _ => returns_index n none)
  unfold decode
  rw [hf.returned.check, path.required, threshold.withDefault, condition.required,
    yes.withDefault, no.withDefault]
  · rfl
  · simp [path.passes, threshold.passes, condition.passes, yes.passes, no.passes]

/-- A step about the game is read back. -/
theorem App.decode_returned {s : App} (hf : f.Consistent)
    (hsub : (Action.startGame s).encodeFields ⊆ f) : decode f.returned = .ok s := by
  simp only [Action.encodeFields, List.cons_subset] at hsub
  obtain ⟨hpackage, -⟩ := hsub
  have package := hf.yields hpackage (returns_option s.package fun p _ => returns_text p none)
  unfold decode
  rw [hf.returned.check, package.withDefault]
  · rfl
  · simp [package.passes]

/-- A step that repeats a group as it is read back. -/
def RepeatGroup.settled (s : RepeatGroup) : RepeatGroup :=
  { s with threshold := if s.threshold.isFinite then s.threshold else 0.8 }

/-- A step that repeats a group is read back, but for a threshold that is not finite. -/
theorem RepeatGroup.decode_returned {s : RepeatGroup} (hf : f.Consistent)
    (hnumbers : f.NumbersReread) (hsub : (Action.repeatGroup s).encodeFields ⊆ f) :
    decode f.returned = .ok s.settled := by
  simp only [Action.encodeFields, List.cons_subset] at hsub
  obtain ⟨hgroup, hstop, hthreshold, hgone, hiterations, -⟩ := hsub
  have group := hf.yields hgroup (returns_option s.group fun g _ => returns_text g none)
  have stop := hf.yields hstop (returns_option s.stopTemplatePath fun p _ => returns_path p none)
  have threshold := hf.yields hthreshold (returns_single 0.8 (hnumbers.single hthreshold))
  have gone := hf.yields hgone (returns_bool s.stopOnNotFound (some true))
  have iterations := hf.yields hiterations (returns_uint32 s.maxIterations (some 100))
  unfold decode
  rw [hf.returned.check, group.withDefault, stop.withDefault, threshold.withDefault,
    gone.withDefault, iterations.withDefault]
  · rfl
  · simp [group.passes, stop.passes, threshold.passes, gone.passes, iterations.passes]

/-- A region is read back. -/
theorem Region.returns (r : Region) (default : Option Region) :
    r.encode.Returns decode default r := by
  have hf : Fields.Consistent [("x", .integer r.x.toNat), ("y", .integer r.y.toNat),
      ("width", .integer r.width.toNat), ("height", .integer r.height.toNat)] :=
    Fields.consistent_of_nodup (by simp)
  have x := hf.yields (n := "x") (by simp) (returns_uint32 r.x (some 320))
  have y := hf.yields (n := "y") (by simp) (returns_uint32 r.y (some 140))
  have width := hf.yields (n := "width") (by simp) (returns_uint32 r.width (some 320))
  have height := hf.yields (n := "height") (by simp) (returns_uint32 r.height (some 60))
  refine returns_record ?_ default
  show decodeFields _ = _
  unfold decodeFields
  rw [hf.returned.check, x.withDefault, y.withDefault, width.withDefault, height.withDefault]
  · rfl
  · simp [x.passes, y.passes, width.passes, height.passes]

/-- A look at what was drawn is read back. -/
theorem GachaCheck.decode_returned {s : GachaCheck} (hf : f.Consistent)
    (hsub : (Action.gachaCheck s).encodeFields ⊆ f) : decode f.returned = .ok s := by
  simp only [Action.encodeFields, List.cons_subset] at hsub
  obtain ⟨hregion, htargets, hfolder, -⟩ := hsub
  have region := hf.yields hregion (returns_option s.region fun r _ => r.returns none)
  have targets := hf.yields htargets
    (returns_list_self s.targets (fun t _ => returns_text t none) (some []))
  have folder := hf.yields hfolder (returns_option s.saveFolder fun p _ => returns_path p none)
  unfold decode
  rw [hf.returned.check, region.withDefault, targets.withDefault, folder.withDefault]
  · rfl
  · simp [region.passes, targets.passes, folder.passes]

end

namespace Action

/-- An action as it is read back. -/
def settled : Action → Action
  | .imageMatch s => .imageMatch s.settled
  | .findAllClick s => .findAllClick s.settled
  | .loopClick s => .loopClick s.settled
  | .waitForColor s => .waitForColor s.settled
  | .conditional s => .conditional s.settled
  | .repeatGroup s => .repeatGroup s.settled
  | a => a

/-- The kind of an action is one of the kinds. -/
theorem kind_mem_kinds (a : Action) : a.kind ∈ kinds := by
  cases a <;> simp [kind, kinds]

/-- An action is read back, but for numbers that are not finite. -/
theorem decodeFields_returned {a : Action} {f : Fields} (hf : f.Consistent)
    (hnumbers : f.NumbersReread) (hsub : a.encodeFields ⊆ f) :
    decodeFields a.kind f.returned = .ok a.settled := by
  cases a with
  | click s => exact congrArg (Except.map Action.click) (Click.decode_returned hf hsub)
  | swipe s => exact congrArg (Except.map Action.swipe) (Swipe.decode_returned hf hsub)
  | wait s => exact congrArg (Except.map Action.wait) (Wait.decode_returned hf hsub)
  | imageMatch s =>
    exact congrArg (Except.map Action.imageMatch)
      (TemplateSearch.decode_returned hf hnumbers hsub)
  | findAllClick s =>
    exact congrArg (Except.map Action.findAllClick)
      (TemplateSearch.decode_returned hf hnumbers hsub)
  | loopClick s =>
    exact congrArg (Except.map Action.loopClick) (LoopClick.decode_returned hf hnumbers hsub)
  | waitForColor s =>
    exact congrArg (Except.map Action.waitForColor) (ColorWait.decode_returned hf hnumbers hsub)
  | pressBack => rfl
  | conditional s =>
    exact congrArg (Except.map Action.conditional) (Conditional.decode_returned hf hnumbers hsub)
  | startGame s => exact congrArg (Except.map Action.startGame) (App.decode_returned hf hsub)
  | restartGame s => exact congrArg (Except.map Action.restartGame) (App.decode_returned hf hsub)
  | repeatGroup s =>
    exact congrArg (Except.map Action.repeatGroup) (RepeatGroup.decode_returned hf hnumbers hsub)
  | gachaCheck s =>
    exact congrArg (Except.map Action.gachaCheck) (GachaCheck.decode_returned hf hsub)

/-- The fields of an action can be read again. -/
theorem readable_encodeFields {a : Action} {f : Fields} (hnumbers : f.NumbersReread)
    (hsub : a.encodeFields ⊆ f) (room : Nat) : Json.ReadableFields (room + 1) a.encodeFields := by
  have double {n : String} {x : Float} (h : (n, .float x) ∈ f) :
      Json.Readable (room + 1) (.float x) := readable_float (hnumbers.double h)
  have single {n : String} {x : Float32} (h : (n, .single x) ∈ f) :
      Json.Readable (room + 1) (.single x) := readable_single (hnumbers.single h)
  have search {s : TemplateSearch} (hsub : s.encode ⊆ f) :
      Json.ReadableFields (room + 1) s.encode := by
    simp only [TemplateSearch.encode, List.cons_subset] at hsub
    obtain ⟨-, -, hthreshold, -, -, hwait, -, hinterval, -⟩ := hsub
    exact ⟨trivial, readable_option readable_text _, single hthreshold, trivial, trivial,
      double hwait, readable_option readable_uint32 _, double hinterval, trivial⟩
  cases a with
  | click s => exact ⟨readable_int32 _, readable_int32 _, trivial⟩
  | swipe s =>
    exact ⟨readable_int32 _, readable_int32 _, readable_int32 _, readable_int32 _,
      readable_uint64 _, trivial⟩
  | wait s => exact ⟨readable_uint64 _, trivial⟩
  | imageMatch s => exact search hsub
  | findAllClick s => exact search hsub
  | loopClick s =>
    simp only [encodeFields, List.cons_subset] at hsub
    obtain ⟨-, hthreshold, -, -, hclick, hretry, -⟩ := hsub
    exact ⟨trivial, single hthreshold, readable_uint32 _, readable_uint32 _, double hclick,
      double hretry, trivial⟩
  | waitForColor s =>
    simp only [encodeFields, List.cons_subset] at hsub
    obtain ⟨-, -, -, -, hwait, hinterval, -⟩ := hsub
    exact ⟨readable_int32 _, readable_int32 _,
      readable_list fun c _ => readable_natural (Nat.lt_trans c.toNat_lt (by decide)),
      readable_uint32 _, double hwait, double hinterval, trivial⟩
  | pressBack => trivial
  | conditional s =>
    simp only [encodeFields, List.cons_subset] at hsub
    obtain ⟨-, hthreshold, -⟩ := hsub
    exact ⟨trivial, single hthreshold, trivial, readable_option readable_uint64 _,
      readable_option readable_uint64 _, trivial⟩
  | startGame s => exact ⟨readable_option readable_text _, trivial⟩
  | restartGame s => exact ⟨readable_option readable_text _, trivial⟩
  | repeatGroup s =>
    simp only [encodeFields, List.cons_subset] at hsub
    obtain ⟨-, -, hthreshold, -⟩ := hsub
    exact ⟨readable_option readable_text _, readable_option readable_text _,
      single hthreshold, trivial, readable_uint32 _, trivial⟩
  | gachaCheck s =>
    have hregion (r : Region) : Json.Readable (room + 1) r.encode :=
      ⟨Nat.succ_pos room, readable_uint32 _, readable_uint32 _, readable_uint32 _,
        readable_uint32 _, trivial⟩
    exact ⟨readable_option hregion _, readable_list fun _ _ => trivial,
      readable_option readable_text _, trivial⟩

/-- Nothing changes if every number is finite. -/
theorem settled_of_finite {a : Action} {f : Fields} (hfinite : f.NumbersFinite)
    (hsub : a.encodeFields ⊆ f) : a.settled = a := by
  have search {s : TemplateSearch} (hsub : s.encode ⊆ f) : s.settled = s := by
    simp only [TemplateSearch.encode, List.cons_subset] at hsub
    obtain ⟨-, -, hthreshold, -, -, hwait, -, hinterval, -⟩ := hsub
    unfold TemplateSearch.settled
    rw [hfinite.single hthreshold, hfinite.double hwait, hfinite.double hinterval]
  cases a with
  | imageMatch s => exact congrArg Action.imageMatch (search hsub)
  | findAllClick s => exact congrArg Action.findAllClick (search hsub)
  | loopClick s =>
    simp only [encodeFields, List.cons_subset] at hsub
    obtain ⟨-, hthreshold, -, -, hclick, hretry, -⟩ := hsub
    refine congrArg Action.loopClick ?_
    unfold LoopClick.settled
    rw [hfinite.single hthreshold, hfinite.double hclick, hfinite.double hretry]
  | waitForColor s =>
    simp only [encodeFields, List.cons_subset] at hsub
    obtain ⟨-, -, -, -, hwait, hinterval, -⟩ := hsub
    refine congrArg Action.waitForColor ?_
    unfold ColorWait.settled
    rw [hfinite.double hwait, hfinite.double hinterval]
  | conditional s =>
    simp only [encodeFields, List.cons_subset] at hsub
    obtain ⟨-, hthreshold, -⟩ := hsub
    refine congrArg Action.conditional ?_
    unfold Conditional.settled
    rw [hfinite.single hthreshold]
  | repeatGroup s =>
    simp only [encodeFields, List.cons_subset] at hsub
    obtain ⟨-, -, hthreshold, -⟩ := hsub
    refine congrArg Action.repeatGroup ?_
    unfold RepeatGroup.settled
    rw [hfinite.single hthreshold]
  | click _ | swipe _ | wait _ | pressBack | startGame _ | restartGame _ | gachaCheck _ => rfl

end Action

/-! ## Steps -/

namespace Step

/-- A step as it is read back. -/
def settled (s : Step) : Step := { s with action := s.action.settled }

/-- The fields of a step have different names. -/
theorem consistent_fields (s : Step) : Fields.Consistent s.encode.fields := by
  obtain ⟨description, group, action⟩ := s
  refine Fields.consistent_of_nodup ?_
  cases action <;>
    simp [encode, Document.fields, Action.encodeFields, TemplateSearch.encode]

/-- The fields of its action are among them. -/
theorem encodeFields_subset (s : Step) : s.action.encodeFields ⊆ s.encode.fields :=
  fun _ h => List.mem_cons_of_mem _ (List.mem_cons_of_mem _ (List.mem_cons_of_mem _ h))

/-- The kind of an action is read back. -/
theorem returns_kind (a : Action) (default : Option String) :
    (Document.text a.kind).Returns Action.decodeKind default a.kind :=
  .of_returned rfl (if_pos a.kind_mem_kinds)

/-- A step is read back, but for numbers that are not finite. -/
theorem returns {s : Step} (hnumbers : Fields.NumbersReread s.encode.fields) :
    s.encode.Returns decode none s.settled := by
  have hf := s.consistent_fields
  have hdescription : ("description", .text s.description) ∈ s.encode.fields := List.mem_cons_self
  have hgroup : ("group_name", ofOption .text s.group) ∈ s.encode.fields :=
    List.mem_cons_of_mem _ List.mem_cons_self
  have hkind : ("step_type", .text s.action.kind) ∈ s.encode.fields :=
    List.mem_cons_of_mem _ (List.mem_cons_of_mem _ List.mem_cons_self)
  have description := hf.yields hdescription (returns_text s.description (some ""))
  have group := hf.yields hgroup (returns_option s.group fun g _ => returns_text g none)
  have kind := hf.yields hkind (returns_kind s.action none)
  have haction : Action.decode (Fields.returned s.encode.fields) = .ok s.action.settled := by
    unfold Action.decode
    rw [kind.required]
    exact Action.decodeFields_returned hf hnumbers s.encodeFields_subset
  refine returns_record ?_ none
  show decodeFields (Fields.returned s.encode.fields) = _
  unfold decodeFields
  rw [hf.returned.check, haction, description.withDefault, group.withDefault]
  · rfl
  · simp [description.passes, group.passes]

/-- A step can be read again. -/
theorem readable_encode {s : Step} (hnumbers : Fields.NumbersReread s.encode.fields) (room : Nat) :
    Json.Readable (room + 2) s.encode :=
  ⟨Nat.succ_pos _, trivial, readable_option readable_text _, trivial,
    Action.readable_encodeFields hnumbers s.encodeFields_subset room⟩

end Step

/-! ## Workflows -/

namespace Workflow

/-- The digits of every finite number of a step are read as the number. -/
def NumbersReread (w : Workflow) : Prop :=
  ∀ s ∈ w.steps, Fields.NumbersReread s.encode.fields

instance (w : Workflow) : Decidable w.NumbersReread :=
  inferInstanceAs (Decidable (∀ s ∈ w.steps, Fields.NumbersReread s.encode.fields))

/-- Every number of a step is finite. -/
def NumbersFinite (w : Workflow) : Prop :=
  ∀ s ∈ w.steps, Fields.NumbersFinite s.encode.fields

instance (w : Workflow) : Decidable w.NumbersFinite :=
  inferInstanceAs (Decidable (∀ s ∈ w.steps, Fields.NumbersFinite s.encode.fields))

/-- The moments of the workflow can be read. -/
structure MomentsReal (w : Workflow) : Prop where
  /-- The first moment at which it may be used. -/
  validFrom : ∀ m, w.validFrom = some m → m.IsReal
  /-- The last moment at which it may be used. -/
  validUntil : ∀ m, w.validUntil = some m → m.IsReal
  /-- The moment of the last change. -/
  updatedAt : ∀ m, w.updatedAt = some m → m.IsReal

/-- A workflow as it is read back. -/
def settled (w : Workflow) : Workflow := { w with steps := w.steps.map Step.settled }

/-- Nothing changes if every number is finite. -/
theorem settled_of_finite {w : Workflow} (hfinite : w.NumbersFinite) : w.settled = w := by
  have hsteps : w.steps.map Step.settled = w.steps := by
    have hstep : ∀ s ∈ w.steps, s.settled = s := by
      intro s hs
      unfold Step.settled
      rw [Action.settled_of_finite (hfinite s hs) s.encodeFields_subset]
    rw [List.map_congr_left hstep, List.map_id']
  unfold settled
  rw [hsteps]

/-- The fields of a workflow have different names. -/
theorem consistent_fields (w : Workflow) : Fields.Consistent w.encode.fields :=
  Fields.consistent_of_nodup (by simp [encode, Document.fields])

/-- A workflow is read back, but for numbers that are not finite. -/
theorem decodeFields_returned {w : Workflow} {f : Fields} (hf : f.Consistent)
    (hsub : w.encode.fields ⊆ f) (hnumbers : w.NumbersReread) (hmoments : w.MomentsReal) :
    decodeFields f.returned = .ok w.settled := by
  simp only [encode, Document.fields, List.cons_subset] at hsub
  obtain ⟨hid, hname, hdescription, hwidth, hheight, hfirst, hlast, hmaster, hmode, hmonth, hchange,
    hsteps, -⟩ := hsub
  have id := hf.yields hid (returns_option w.id fun n _ => returns_int64 n none)
  have name := hf.yields hname (returns_text w.name (some ""))
  have description := hf.yields hdescription (returns_text w.description (some ""))
  have width := hf.yields hwidth (returns_uint32 w.screenWidth (some 960))
  have height := hf.yields hheight (returns_uint32 w.screenHeight (some 540))
  have first := hf.yields hfirst
    (returns_option w.validFrom fun m hm => returns_moment (hmoments.validFrom m hm) none)
  have last := hf.yields hlast
    (returns_option w.validUntil fun m hm => returns_moment (hmoments.validUntil m hm) none)
  have master := hf.yields hmaster (returns_bool w.isMaster (some false))
  have mode := hf.yields hmode (returns_option w.modeName fun s _ => returns_text s none)
  have month := hf.yields hmonth (returns_option w.monthYear fun s _ => returns_text s none)
  have change := hf.yields hchange
    (returns_option w.updatedAt fun m hm => returns_moment (hmoments.updatedAt m hm) none)
  have steps := hf.yields hsteps
    (returns_list w.steps (fun s hs => Step.returns (hnumbers s hs)) (some []))
  unfold decodeFields
  rw [hf.returned.check, id.withDefault, name.withDefault, description.withDefault,
    width.withDefault, height.withDefault, first.withDefault, last.withDefault,
    master.withDefault, mode.withDefault, month.withDefault, change.withDefault,
    steps.withDefault]
  · rfl
  · simp [id.passes, name.passes, description.passes, width.passes, height.passes, first.passes,
      last.passes, master.passes, mode.passes, month.passes, change.passes, steps.passes]

/-- A workflow can be read again: its lists and records lie in each other five deep. -/
theorem readable_encode {w : Workflow} (hnumbers : w.NumbersReread) (room : Nat) :
    Json.Readable (room + 4) w.encode :=
  ⟨Nat.succ_pos _, readable_option readable_int64 _, trivial, trivial, readable_uint32 _,
    readable_uint32 _, readable_option (fun _ => readable_text _) _,
    readable_option (fun _ => readable_text _) _, trivial, readable_option readable_text _,
    readable_option readable_text _, readable_option (fun _ => readable_text _) _,
    readable_list fun s hs => Step.readable_encode (hnumbers s hs) room, trivial⟩

/-- The text of a workflow is read as the workflow, but for numbers that are not finite. -/
theorem ofJson_toJson {w : Workflow} (hnumbers : w.NumbersReread) (hmoments : w.MomentsReal) :
    ofJson w.toJson = .ok w.settled := by
  have hread : Json.read w.toJson = some (Json.reread w.encode) :=
    Json.read_write (readable_encode hnumbers 123)
  -- What was read is a record, and what is left of its fields is what the decoder gets.
  have hdecode : decode (Json.reread w.encode).dropNulls = .ok w.settled :=
    decodeFields_returned w.consistent_fields (List.Subset.refl _) hnumbers hmoments
  unfold ofJson
  rw [hread]
  dsimp only
  rw [hdecode]

/-- A moment that was read from a field can be read. -/
theorem isReal_of_withDefault {f : Fields} {n : String} {r : Option Moment}
    (h : f.withDefault n (option moment) none = .ok r) : ∀ m, r = some m → m.IsReal := by
  rintro m rfl
  unfold Fields.withDefault at h
  split at h
  next => exact nomatch h
  next d hd =>
    unfold option at h
    split at h
    next => exact nomatch h
    next =>
      unfold moment at h
      split at h
      next text _ =>
        cases hread : Moment.ofText text with
        | error e =>
          rw [hread] at h
          exact nomatch h
        | ok m' =>
          rw [hread] at h
          cases h
          exact Moment.isReal_of_ofText hread
      next => exact nomatch h

/-- The moments of a workflow that was read can be read. -/
theorem momentsReal_of_decodeFields {f : Fields} {w : Workflow} (h : decodeFields f = .ok w) :
    w.MomentsReal := by
  unfold decodeFields at h
  obtain ⟨-, -, h⟩ := exists_of_bind h
  obtain ⟨id, -, h⟩ := exists_of_bind h
  obtain ⟨name, -, h⟩ := exists_of_bind h
  obtain ⟨description, -, h⟩ := exists_of_bind h
  obtain ⟨width, -, h⟩ := exists_of_bind h
  obtain ⟨height, -, h⟩ := exists_of_bind h
  obtain ⟨first, hfirst, h⟩ := exists_of_bind h
  obtain ⟨last, hlast, h⟩ := exists_of_bind h
  obtain ⟨master, -, h⟩ := exists_of_bind h
  obtain ⟨mode, -, h⟩ := exists_of_bind h
  obtain ⟨month, -, h⟩ := exists_of_bind h
  obtain ⟨change, hchange, h⟩ := exists_of_bind h
  obtain ⟨steps, -, h⟩ := exists_of_bind h
  cases h
  exact ⟨isReal_of_withDefault hfirst, isReal_of_withDefault hlast, isReal_of_withDefault hchange⟩

/-- So are those of a workflow that was read from a text. -/
theorem momentsReal_of_ofJson {text : String} {w : Workflow} (h : ofJson text = .ok w) :
    w.MomentsReal := by
  have hdecode : ∃ d, decode d = .ok w := by
    unfold ofJson at h
    split at h
    next => exact nomatch h
    next d _ =>
      split at h
      next w' hw' =>
        cases h
        exact ⟨d.dropNulls, hw'⟩
      next => exact nomatch h
  obtain ⟨d, hd⟩ := hdecode
  unfold decode at hd
  split at hd
  next f => exact momentsReal_of_decodeFields hd
  next items =>
    obtain ⟨w', hw', hd⟩ := exists_of_bind hd
    split at hd
    next =>
      cases hd
      exact momentsReal_of_decodeFields hw'
    next => exact nomatch hd
  next => exact nomatch hd

/-- A workflow that was read from a text, written and read again is the same, field for field and
step for step, but for numbers that are not finite: they give way to the defaults of their fields.
The digits of the other numbers have to be read as the numbers. -/
theorem same_when_reread {text : String} {w : Workflow} (hread : ofJson text = .ok w)
    (hnumbers : w.NumbersReread) :
    ofJson w.toJson = .ok w.settled ∧ (w.NumbersFinite → ofJson w.toJson = .ok w) := by
  have hsettled : ofJson w.toJson = .ok w.settled :=
    ofJson_toJson hnumbers (momentsReal_of_ofJson hread)
  refine ⟨hsettled, fun hfinite => ?_⟩
  rw [hsettled, settled_of_finite hfinite]

/-- A text of a workflow with a moment, steps of two kinds, a field that is `null` and many that are
left out. -/
def dailyText : String :=
  "\x7b\"name\":\"Daily\",\"valid_from\":\"2024-02-29T09:30:00.250\",\"steps\":[" ++
  "\x7b\"step_type\":\"click\",\"x\":3,\"y\":-4\x7d," ++
  "\x7b\"step_type\":\"image_match\",\"template_path\":\"a.png\",\"threshold\":0.9," ++
  "\"max_retries\":null\x7d]\x7d"

/-- The workflow of the text. -/
def daily : Workflow where
  name := "Daily"
  validFrom := some ⟨⟨2024, 2, 29⟩, 34200, 250000000⟩
  steps :=
    [{ action := .click ⟨3, -4⟩ },
      { action := .imageMatch { templatePath := "a.png", threshold := 0.9 } }]

/-- This workflow is the same when it is written and read again. -/
theorem daily_same_when_reread : ofJson dailyText = .ok daily ∧ daily.NumbersReread ∧
    daily.NumbersFinite ∧ ofJson daily.toJson = .ok daily := by
  have hread : ofJson dailyText = .ok daily := eq_ok_of_toOption (by decide +kernel)
  have hnumbers : daily.NumbersReread := by decide +kernel
  have hfinite : daily.NumbersFinite := by decide +kernel
  exact ⟨hread, hnumbers, hfinite, (same_when_reread hread hnumbers).2 hfinite⟩

/-- A text of a workflow with a threshold that is too large for single precision. -/
def overlargeText : String :=
  "\x7b\"steps\":[\x7b\"step_type\":\"image_match\",\"template_path\":\"x.png\"," ++
  "\"threshold\":1e39\x7d]\x7d"

/-- The workflow of the text: the threshold is infinite. -/
def overlarge : Workflow where
  steps := [{ action := .imageMatch { templatePath := "x.png", threshold := 1.0 / 0.0 } }]

/-- Written and read again, such a threshold is the usual one. -/
theorem overlarge_not_same_when_reread : ofJson overlargeText = .ok overlarge ∧
    overlarge.NumbersReread ∧ ofJson overlarge.toJson ≠ .ok overlarge := by
  have hread : ofJson overlargeText = .ok overlarge := eq_ok_of_toOption (by decide +kernel)
  have hnumbers : overlarge.NumbersReread := by decide +kernel
  have hdiffers : overlarge.settled ≠ overlarge := by decide +kernel
  refine ⟨hread, hnumbers, fun hsame => hdiffers ?_⟩
  rw [ofJson_toJson hnumbers (momentsReal_of_ofJson hread)] at hsame
  exact Except.ok.inj hsame

end Workflow

end Autoplay
