import Autoplay.Console.Session
import Autoplay.Proofs.Document.Moments
import Autoplay.Proofs.Files.Plain
import Mathlib.Data.List.Induction
import Mathlib.Data.List.Lex
import Mathlib.Data.Prod.Lex
import Mathlib.Order.WithBot

/-!
# The workflow that is chosen

Selecting takes two passes over the workflows of a mode. The first one looks at those for the month
(`foldl_preferMaster`), the second one, if there are none, at all of them by their `rank`
(`foldl_better`). What a folder has to offer are the workflows of its files that may be used at the
moment (`chosenWorkflow_eq`). Main statement: the selection in full, and that files of which nothing
can come make no difference to it (`usable_selected_by_month_and_rank`).
-/

namespace Autoplay

/-- One moment is not after another just if its parts are not. -/
theorem Moment.notAfter_iff (a b : Moment) : a.notAfter b = true ↔ a.key ≤ b.key := by
  have hkeys : ∀ as bs : List Int, keyLe as bs = true ↔ ¬ bs < as := by
    intro as bs
    induction as generalizing bs with
    | nil => simp [keyLe]
    | cons x as ih =>
      cases bs with
      | nil => simp [keyLe]
      | cons y bs =>
        simp only [keyLe, List.cons_lt_cons_iff, Bool.or_eq_true, Bool.and_eq_true,
          decide_eq_true_eq, beq_iff_eq, ih]
        by_cases h : bs < as
        · simp only [h, not_true_eq_false, and_false, or_false, and_true]
          omega
        · simp only [h, not_false_eq_true, and_true, and_false, or_false]
          omega
  rw [notAfter, hkeys, not_lt]

namespace Workflow

/-- What decides among the workflows of a mode. Masters stand above the others; then the later
change counts, and no change is the lowest. -/
def rank (w : Workflow) : Bool ×ₗ WithBot (List Int) :=
  toLex (w.isMaster, match w.updatedAt with
    | some m => (m.key : WithBot (List Int))
    | none => ⊥)

/-- A workflow outranks those of a lower rank. -/
theorem outranks_iff (a b : Workflow) : a.outranks b = true ↔ b.rank < a.rank := by
  rw [rank, rank, Prod.Lex.toLex_lt_toLex, outranks]
  by_cases hmaster : a.isMaster = b.isMaster
  · -- Neither or both are masters, so the last changes decide.
    cases ha : a.updatedAt <;> cases hb : b.updatedAt <;>
      simp [hmaster, ← Bool.not_eq_true, Moment.notAfter_iff]
  · cases ha : a.isMaster <;> cases hb : b.isMaster <;> simp_all

/-! ## The two passes -/

/-- The best of a list is the first one that none outranks. -/
theorem foldl_better (l : List Workflow) : l.foldl better none = none ∧ l = [] ∨
    ∃ before w after, l = before ++ w :: after ∧ l.foldl better none = some w ∧
      (∀ v ∈ before, v.rank < w.rank) ∧ ∀ v ∈ after, v.rank ≤ w.rank := by
  induction l using List.reverseRecOn with
  | nil => exact .inl ⟨rfl, rfl⟩
  | append_singleton l x ih =>
    right
    rw [List.foldl_append, List.foldl_cons, List.foldl_nil]
    obtain ⟨hnone, rfl⟩ | ⟨before, w, after, rfl, hbest, hbefore, hafter⟩ := ih
    · exact ⟨[], x, [], rfl, rfl, by simp, by simp⟩
    · rw [hbest, better]
      by_cases hx : w.rank < x.rank
      · -- The new one stands above the best so far, and so above all before it.
        refine ⟨before ++ w :: after, x, [], rfl, ?_, fun v hv => ?_, by simp⟩
        · rw [if_pos ((outranks_iff x w).2 hx)]
        · obtain hv | hv := List.mem_append.1 hv
          · exact (hbefore v hv).trans hx
          · obtain rfl | hv := List.mem_cons.1 hv
            · exact hx
            · exact (hafter v hv).trans_lt hx
      · refine ⟨before, w, after ++ [x], by simp, ?_, hbefore, fun v hv => ?_⟩
        · rw [if_neg (mt (outranks_iff x w).1 hx)]
        · obtain hv | hv := List.mem_append.1 hv
          · exact hafter v hv
          · obtain rfl := List.mem_singleton.1 hv
            exact not_lt.1 hx

/-- Of the workflows for a month the first master is taken, or the first one. -/
theorem foldl_preferMaster (l : List Workflow) :
    l.foldl preferMaster none = (l.find? Workflow.isMaster).or l.head? := by
  have hbest : ∀ (b : Workflow) (l : List Workflow), l.foldl preferMaster (some b) =
      if b.isMaster then some b else (l.find? Workflow.isMaster).or (some b) := by
    intro b l
    induction l generalizing b with
    | nil => simp
    | cons x l ih =>
      rw [List.foldl_cons, preferMaster]
      cases hb : b.isMaster <;> cases hx : x.isMaster <;> simp [ih, hb, hx]
  cases l with
  | nil => rfl
  | cons x l =>
    rw [List.foldl_cons, preferMaster, hbest]
    cases hx : x.isMaster <;> simp [hx]

variable {workflows : List Workflow} {mode month : String}

/-- Whether a workflow is meant for a mode. -/
def isForMode (mode : String) (w : Workflow) : Bool := w.modeName == some mode

/-- Whether a workflow is meant for a mode and a month. -/
def isForMonth (mode month : String) (w : Workflow) : Bool :=
  w.isForMode mode && w.monthYear == some month

/-- The workflows for a month are looked at first, and then those for the mode. -/
theorem select_eq (workflows : List Workflow) (mode month : String) :
    select workflows mode month =
      ((workflows.filter (isForMonth mode month)).foldl preferMaster none).or
        ((workflows.filter (isForMode mode)).foldl better none) := by
  have hmonth : (workflows.filter (isForMode mode)).filter (fun w => w.monthYear == some month) =
      workflows.filter (isForMonth mode month) := by
    rw [List.filter_filter]
    exact List.filter_congr fun w _ => Bool.and_comm _ _
  have hmode : workflows.filter (isForMode mode) =
      workflows.filter fun w => w.modeName == some mode := rfl
  rw [← hmonth, hmode]
  simp only [select]
  split
  · next w hsome => rw [hsome, Option.some_or]
  · next hnone => rw [hnone, Option.none_or]

/-- If some workflow is meant for the month, the first master of these is selected, or the first
one. -/
theorem select_of_month (h : ∃ w ∈ workflows, w.isForMonth mode month = true) :
    select workflows mode month =
      (workflows.find? fun w => w.isForMonth mode month && w.isMaster).or
        (workflows.find? fun w => w.isForMonth mode month) := by
  obtain ⟨first, hfirst⟩ := Option.isSome_iff_exists.1 (List.find?_isSome.2 h)
  rw [select_eq, foldl_preferMaster, List.find?_filter, List.head?_filter, hfirst]
  simp only [Bool.decide_and, Bool.decide_eq_true]
  cases workflows.find? fun w => w.isForMonth mode month && w.isMaster <;> rfl

/-- If none is meant for the month, the first one of the mode that none of the mode outranks is
selected. -/
theorem select_of_no_month (h : ¬ ∃ w ∈ workflows, w.isForMonth mode month = true) :
    select workflows mode month = none ∧ (∀ w ∈ workflows, w.isForMode mode = false) ∨
      ∃ before w after, workflows = before ++ w :: after ∧ w.isForMode mode = true ∧
        select workflows mode month = some w ∧
        (∀ v ∈ before, v.isForMode mode = true → v.rank < w.rank) ∧
        ∀ v ∈ after, v.isForMode mode = true → v.rank ≤ w.rank := by
  have hmonth : workflows.filter (isForMonth mode month) = [] :=
    List.filter_eq_nil_iff.2 fun w hw hmeant => h ⟨w, hw, hmeant⟩
  rw [select_eq, hmonth, List.foldl_nil, Option.none_or]
  obtain ⟨hnone, hnil⟩ | ⟨before, w, after, hsplit, hbest, hbefore, hafter⟩ :=
    foldl_better (workflows.filter (isForMode mode))
  · exact .inl ⟨hnone, fun w hw => by simpa using List.filter_eq_nil_iff.1 hnil w hw⟩
  · -- What stands before and after the best one in the whole list is there also without the others.
    right
    obtain ⟨front, back, rfl, rfl, hback⟩ := List.filter_eq_append_iff.1 hsplit
    obtain ⟨between, back', rfl, hbetween, hw, rfl⟩ := List.filter_eq_cons_iff.1 hback
    refine ⟨front ++ between, w, back', by simp, hw, hbest, fun v hv hmode => ?_,
      fun v hv hmode => ?_⟩
    · obtain hv | hv := List.mem_append.1 hv
      · exact hbefore v (List.mem_filter.2 ⟨hv, hmode⟩)
      · exact absurd hmode (hbetween v hv)
    · exact hafter v (List.mem_filter.2 ⟨hv, hmode⟩)

/-- Nothing is selected just when no workflow is meant for the mode. -/
theorem select_eq_none_iff :
    select workflows mode month = none ↔ ∀ w ∈ workflows, w.modeName ≠ some mode := by
  constructor
  · intro hnone w hw hmode
    by_cases hmonth : ∃ v ∈ workflows, v.isForMonth mode month = true
    · obtain ⟨first, hfirst⟩ := Option.isSome_iff_exists.1 (List.find?_isSome.2 hmonth)
      rw [select_of_month hmonth, hfirst] at hnone
      simp at hnone
    · obtain ⟨-, hno⟩ | ⟨before, v, after, -, -, hsome, -⟩ := select_of_no_month hmonth
      · exact absurd (hno w hw) (by simp [isForMode, hmode])
      · rw [hsome] at hnone
        simp at hnone
  · intro hno
    have hmode : workflows.filter (isForMode mode) = [] :=
      List.filter_eq_nil_iff.2 fun w hw h => hno w hw (by simpa [isForMode] using h)
    have hmonth : workflows.filter (isForMonth mode month) = [] :=
      List.filter_eq_nil_iff.2 fun w hw h =>
        hno w hw (by simpa [isForMode] using (Bool.and_eq_true_iff.1 h).1)
    rw [select_eq, hmonth, hmode]
    rfl

/-! ## Workflows of a folder -/

/-- The last moment at which a workflow may be used has passed. -/
def IsExpired (now : Moment) (w : Workflow) : Prop :=
  ∃ last, w.validUntil = some last ∧ last.key < now.key

/-- The first moment at which a workflow may be used is yet to come. -/
def IsEarly (now : Moment) (w : Workflow) : Prop :=
  ∃ first, w.validFrom = some first ∧ now.key < first.key

/-- At every other moment a workflow may be used. -/
theorem isValidAt_eq_false_iff (w : Workflow) (now : Moment) :
    w.isValidAt now = false ↔ w.IsExpired now ∨ w.IsEarly now := by
  have hlater (a b : Moment) : a.notAfter b = false ↔ b.key < a.key := by
    rw [← Bool.not_eq_true, Moment.notAfter_iff, not_le]
  rw [isValidAt, Bool.and_eq_false_iff, or_comm]
  apply or_congr
  · cases h : w.validUntil <;> simp [IsExpired, h, hlater]
  · cases h : w.validFrom <;> simp [IsEarly, h, hlater]

/-- Nothing can come of a file at a moment: it holds no workflow, or one that may not be used. -/
def IsUnusable (t : FileTree) (now : Moment) (path : String) : Prop :=
  (∃ e, load t path = .error e) ∨ ∃ w, load t path = .ok w ∧ (w.IsExpired now ∨ w.IsEarly now)

/-- The workflow of a file that may be used at a moment. -/
def usable? (t : FileTree) (now : Moment) (path : String) : Option Workflow :=
  if Path.extension? path == some "json" then
    (load t path).toOption.filter fun w => w.isValidAt now
  else none

/-- Of a file of which nothing can come there is no such workflow. -/
theorem IsUnusable.usable?_eq_none {t : FileTree} {now : Moment} {path : String}
    (h : IsUnusable t now path) : usable? t now path = none := by
  rw [usable?]
  split
  · obtain ⟨e, he⟩ | ⟨w, hw, hno⟩ := h
    · rw [he]
      rfl
    · have hinvalid := (isValidAt_eq_false_iff w now).2 hno
      rw [hw]
      simp [Except.toOption, hinvalid]
  · rfl

/-- What is chosen from a folder is selected among the workflows of its files that may be used. -/
theorem chosenWorkflow_eq {w : Console.Workplace} {folder : String} {names : List String}
    (hnames : w.files.list folder = .ok names) (mode : String) (month : Option String) :
    Console.chosenWorkflow none (some folder) (some mode) month w =
      .ok (select (names.filterMap fun n => usable? w.files w.moment (Path.join folder n)) mode
        (month.getD w.moment.date.monthText)) := by
  have husable : ((((names.map (Path.join folder)).filter fun p => Path.extension? p == some "json")
      |>.filterMap fun p => (load w.files p).toOption).filter fun v => v.isValidAt w.moment) =
      names.filterMap fun n => usable? w.files w.moment (Path.join folder n) := by
    rw [List.filter_map, List.filterMap_map, List.filter_filterMap, List.filterMap_filter]
    refine List.filterMap_congr fun n _ => ?_
    simp only [Function.comp_apply, usable?]
  simp only [Console.chosenWorkflow, loadFolder, hnames, Except.map, selectValid, husable]

/-- Nothing is selected just when no workflow is meant for the mode. If some workflow is meant for
the mode and the month, the first master of these is selected, or the first of them if none is a
master. If there are others for the mode only, it is the first one of those that stand highest, by
being a master and by the last change. Of a folder the workflows of those files are selected from
that may be used at the moment; so it makes no difference to the choice if files are added or taken
away that hold no workflow, or one that has expired or may not be used yet. -/
theorem usable_selected_by_month_and_rank (workflows : List Workflow) (mode month : String) :
    (select workflows mode month = none ↔ ∀ w ∈ workflows, w.modeName ≠ some mode) ∧
    ((∃ w ∈ workflows, w.isForMonth mode month = true) →
      select workflows mode month =
        (workflows.find? fun w => w.isForMonth mode month && w.isMaster).or
          (workflows.find? fun w => w.isForMonth mode month)) ∧
    ((∃ w ∈ workflows, w.isForMode mode = true) →
      (¬ ∃ w ∈ workflows, w.isForMonth mode month = true) →
      ∃ before w after, workflows = before ++ w :: after ∧ w.isForMode mode = true ∧
        select workflows mode month = some w ∧
        (∀ v ∈ before, v.isForMode mode = true → v.rank < w.rank) ∧
        ∀ v ∈ after, v.isForMode mode = true → v.rank ≤ w.rank) ∧
    ∀ (p : Console.Workplace) (folder : String) (names : List String) (asked : Option String),
      p.files.list folder = .ok names →
      Console.chosenWorkflow none (some folder) (some mode) asked p =
        .ok (select (names.filterMap fun n => usable? p.files p.moment (Path.join folder n)) mode
          (asked.getD p.moment.date.monthText)) ∧
      ∀ (p' : Console.Workplace) (left : String → Bool), p'.moment = p.moment →
        p'.files.list folder = .ok (names.filter left) →
        (∀ n ∈ names, left n = true →
          p'.files.readText (Path.join folder n) = p.files.readText (Path.join folder n)) →
        (∀ n ∈ names, left n = false → IsUnusable p.files p.moment (Path.join folder n)) →
        Console.chosenWorkflow none (some folder) (some mode) asked p' =
          Console.chosenWorkflow none (some folder) (some mode) asked p := by
  refine ⟨select_eq_none_iff, select_of_month, fun hmode hmonth => ?_,
    fun p folder names asked hnames => ?_⟩
  · obtain ⟨-, hno⟩ | hbest := select_of_no_month hmonth
    · obtain ⟨w, hw, hfor⟩ := hmode
      rw [hno w hw] at hfor
      exact absurd hfor Bool.false_ne_true
    · exact hbest
  · refine ⟨chosenWorkflow_eq hnames mode asked, fun p' left hmoment hleft hsame huseless => ?_⟩
    rw [chosenWorkflow_eq hnames, chosenWorkflow_eq hleft, hmoment, List.filterMap_filter]
    congr 2
    refine List.filterMap_congr fun n hn => ?_
    cases hl : left n with
    | true => simp only [if_true, usable?, load, hsame n hn hl]
    | false => simp [(huseless n hn hl).usable?_eq_none]

/-- A folder with some files. -/
def cardTree (files : List (String × String)) : FileTree where
  entries := (["w"], .folder) :: files.map fun x => (["w", x.1], .file x.2)

/-- The text of a master that has expired. -/
def expiredText : String :=
  "\x7b\"mode_name\":\"m\",\"is_master\":true,\"steps\":[]," ++
  "\"valid_until\":\"2025-12-31T23:59:59\"\x7d"

/-- The master that has expired. -/
def expiredMaster : Workflow where
  modeName := some "m"
  isMaster := true
  validUntil := some ⟨⟨2025, 12, 31⟩, 86399, 0⟩

/-- The text of a workflow. -/
def plainText : String := "\x7b\"mode_name\":\"m\",\"steps\":[]\x7d"

/-- A master that has expired, a file that holds no workflow, and a workflow. -/
def cards : List (String × String) :=
  [("a.json", expiredText), ("b.json", "\x7b"), ("c.json", plainText)]

/-- Such a folder is found by its path. -/
theorem enters_cardTree (files : List (String × String)) :
    (cardTree files).Enters "/w" ["w"] :=
  ⟨by decide, by decide +kernel, rfl, rfl⟩

/-- A folder with some of the cards is plain. -/
theorem plain_cardTree {files : List (String × String)} (h : files.Sublist cards) :
    (cardTree files).Plain := by
  have hname : ∀ x ∈ cards, FileTree.IsName x.1 := by
    intro x hx
    constructor <;> · revert x; decide +kernel
  have hw : FileTree.IsName "w" := by constructor <;> decide +kernel
  have hnodup : (files.map fun x => ["w", x.1]).Nodup :=
    List.Nodup.sublist (h.map _) (by decide +kernel)
  refine ⟨?_, fun x hx => ?_, fun x hx => ?_⟩
  · simpa [cardTree, Function.comp_def] using hnodup
  · obtain rfl | hx := List.mem_cons.1 hx
    · exact ⟨[], "w", rfl, hw, rfl⟩
    · obtain ⟨y, hy, rfl⟩ := List.mem_map.1 hx
      exact ⟨["w"], y.1, rfl, hname y (h.subset hy), rfl⟩
  · obtain rfl | hx := List.mem_cons.1 hx
    · simp
    · obtain ⟨y, hy, rfl⟩ := List.mem_map.1 hx
      simp

/-- Its files are listed by name. -/
theorem list_cardTree {files : List (String × String)} (h : files.Sublist cards) :
    (cardTree files).list "/w" = .ok (files.map (·.1)) := by
  have hnames : (cardTree files).names ["w"] = files.map (·.1) := by
    simp [FileTree.names, cardTree, List.filterMap_map, Function.comp_def]
  have hsorted : (files.map (·.1)).Pairwise fun a b => (!decide (b < a)) = true :=
    List.Pairwise.sublist (h.map _) (by decide +kernel)
  simp only [FileTree.list, (enters_cardTree files).resolve (plain_cardTree h), bind, Except.bind,
    (enters_cardTree files).folder, hnames, List.mergeSort_of_pairwise hsorted]

/-- Their texts are read. -/
theorem readText_cardTree {files : List (String × String)} (h : files.Sublist cards)
    {n text : String} (hn : (n, text) ∈ files) :
    (cardTree files).readText (Path.join "/w" n) = .ok text := by
  have hplain := plain_cardTree h
  have hfound : (cardTree files).lookup ["w", n] = some (.file text) :=
    (hplain.lookup_iff (by simp)).2 (List.mem_cons_of_mem _ (List.mem_map.2 ⟨_, hn, rfl⟩))
  have hname := hplain.isName_of_lookup (l := ["w"]) hfound
  simp only [FileTree.readText, (enters_cardTree files).resolve_join hplain hname, bind,
    Except.bind, List.cons_append, List.nil_append, hfound]

/-- They hold what their texts hold. -/
theorem load_cardTree {files : List (String × String)} (h : files.Sublist cards)
    {n text : String} (hn : (n, text) ∈ files) :
    (load (cardTree files) (Path.join "/w" n)).toOption = (ofJson text).toOption := by
  rw [load, readText_cardTree h hn]
  cases hread : ofJson text <;> simp [hread, Except.toOption]

/-- An expired master and a file that holds no workflow are no matter: the third card is chosen, as
it is when it lies there alone. -/
theorem third_card_is_chosen :
    let p : Console.Workplace := { files := cardTree cards, moment := ⟨⟨2026, 1, 1⟩, 0, 0⟩ }
    let p' : Console.Workplace := { p with files := cardTree (cards.drop 2) }
    Console.chosenWorkflow none (some "/w") (some "m") none p' =
        .ok (some { modeName := some "m" }) ∧
      Console.chosenWorkflow none (some "/w") (some "m") none p =
        .ok (some { modeName := some "m" }) := by
  intro p p'
  have hleft : (cards.drop 2).Sublist cards := List.drop_sublist _ _
  have hthird : ("c.json", plainText) ∈ cards.drop 2 := by simp [cards]
  obtain ⟨-, -, -, hchosen⟩ := usable_selected_by_month_and_rank [] "m" ""
  have halone : Console.chosenWorkflow none (some "/w") (some "m") none p' =
      .ok (some { modeName := some "m" }) := by
    have husable : usable? p'.files p'.moment (Path.join "/w" "c.json") =
        some { modeName := some "m" } := by
      rw [usable?, load_cardTree hleft hthird]
      decide +kernel
    rw [(hchosen p' "/w" _ none (list_cardTree hleft)).1]
    show Except.ok (select ([_].filterMap _) _ _) = _
    rw [List.filterMap_cons, husable]
    exact congrArg Except.ok (by decide +kernel)
  refine ⟨halone, halone ▸ Eq.symm ?_⟩
  refine (hchosen p "/w" _ none (list_cardTree (.refl _))).2 p' (· == "c.json") rfl
    ((list_cardTree hleft).trans (by decide +kernel)) (fun n _ hc => ?_) fun n hn hc => ?_
  · -- The text of the third card is the same in both folders.
    obtain rfl := eq_of_beq hc
    exact (readText_cardTree hleft hthird).trans
      (readText_cardTree (.refl _) (hleft.subset hthird)).symm
  · obtain ⟨⟨n, text⟩, hx, rfl⟩ := List.mem_map.1 hn
    have hload := load_cardTree (.refl _) hx
    simp only [cards, List.mem_cons, Prod.mk.injEq, List.not_mem_nil, or_false] at hx
    obtain ⟨rfl, rfl⟩ | ⟨rfl, rfl⟩ | ⟨rfl, rfl⟩ := hx
    · have hread : load p.files (Path.join "/w" "a.json") = .ok expiredMaster :=
        eq_ok_of_toOption (hload.trans (by decide +kernel))
      exact .inr ⟨_, hread, .inl ⟨_, rfl, by decide⟩⟩
    · have hnone : (load p.files (Path.join "/w" "b.json")).toOption = none :=
        hload.trans (by decide +kernel)
      cases hread : load p.files (Path.join "/w" "b.json") with
      | error e => exact .inl ⟨e, hread⟩
      | ok w => simp [hread, Except.toOption] at hnone
    · exact absurd hc (by decide)

end Workflow

end Autoplay
