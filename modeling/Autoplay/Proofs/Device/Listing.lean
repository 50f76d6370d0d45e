import Autoplay.Device.Listing
import Autoplay.Proofs.Text.Words
import Mathlib.Data.List.Forall2

/-!
# Lists of devices that are read back

A list of devices is written with one device in a line: its name, its state and further words, with
any blanks between them and around them. Headings, notices and blank lines may stand anywhere
(`Written`). The main statement, `devices_read_back`, says that from such a list exactly the written
devices are read, in their order.
-/

namespace Autoplay.Listing

open Text DeviceInfo

/-! ## Lists that are written -/

/-- A device as a line of a list tells of it. -/
structure Entry where
  /-- The name by which it is driven. -/
  serial : Word
  /-- The word for its state. -/
  state : Word
  /-- Further words. -/
  more : List Word

namespace Entry

/-- All words of the line. -/
def words (e : Entry) : List Word := e.serial :: e.state :: e.more

end Entry

/-- What headings begin with. -/
def heading : List Char := "List of devices".toList

/-- Its characters. -/
theorem heading_eq :
    heading = ['L', 'i', 's', 't', ' ', 'o', 'f', ' ', 'd', 'e', 'v', 'i', 'c', 'e', 's'] :=
  String.toList_ofList

/-- A line that tells of no device. -/
inductive IsAside : List Char → Prop where
  /-- It is blank. -/
  | blank {line : List Char} (h : IsGap line) : IsAside line
  /-- It is a heading. -/
  | heading (front rest : List Char) (hfront : IsGap front) (hrest : '\n' ∉ rest) :
    IsAside (front ++ (Listing.heading ++ rest))
  /-- It is a notice of the program. -/
  | notice (front rest : List Char) (hfront : IsGap front) (hrest : '\n' ∉ rest) :
    IsAside (front ++ '*' :: rest)

/-- The lines of a list in which the entries are written. -/
inductive Written : List Entry → List (List Char) → Prop where
  /-- No line. -/
  | nil : Written [] []
  /-- A line that tells of no device. -/
  | aside {es : List Entry} {line : List Char} {lines : List (List Char)} (h : IsAside line)
    (hlines : Written es lines) : Written es (line :: lines)
  /-- A line with a device, which could not be taken for a heading or a notice. -/
  | entry {e : Entry} {es : List Entry} (front s back : List Char) {lines : List (List Char)}
    (hfront : IsGap front) (hs : Spaced e.words s) (hback : IsGap back)
    (hheading : ¬ heading <+: s) (hnotice : ¬ ['*'] <+: s) (hlines : Written es lines) :
    Written (e :: es) ((front ++ s ++ back) :: lines)

/-! ## Devices that are read -/

/-- The state that a word stands for. -/
inductive StandsFor : String → DeviceState → Prop where
  /-- A device that is ready. -/
  | online : StandsFor "device" .online
  /-- A device that does not answer. -/
  | offline : StandsFor "offline" .offline
  /-- A device that has not been allowed. -/
  | unauthorized : StandsFor "unauthorized" .unauthorized
  /-- Any other word stands for itself. -/
  | other {word : String} (honline : word ≠ "device") (hoffline : word ≠ "offline")
    (hunauthorized : word ≠ "unauthorized") : StandsFor word (.other word)

/-- The model among words: what stands behind `model:` in the first of them that begins so. -/
inductive Tells : List String → Option String → Prop where
  /-- None of them does. -/
  | nothing {words : List String} (h : ∀ w ∈ words, ¬ "model:".toList <+: w.toList) :
    Tells words none
  /-- The first one that does. -/
  | model (front back : List String) (rest : String)
    (h : ∀ w ∈ front, ¬ "model:".toList <+: w.toList) :
    Tells (front ++ ("model:" ++ rest) :: back) (some rest)

/-- A device is the one of an entry. -/
structure Entry.IsOf (e : Entry) (d : DeviceInfo) : Prop where
  /-- It has its name. -/
  serial : d.serial = e.serial.text
  /-- It is in its state. -/
  state : StandsFor e.state.text d.state
  /-- It is of its model. -/
  model : Tells (e.more.map Word.text) d.model
  /-- Its screen is not known. -/
  screenSize : d.screenSize = none

/-! ## Words that are read -/

/-- A word stands for the state that is read. -/
theorem standsFor_ofWord (word : String) : StandsFor word (.ofWord word) := by
  unfold DeviceState.ofWord
  split
  next h => exact h ▸ .online
  next honline =>
  split
  next h => exact h ▸ .offline
  next hoffline =>
  split
  next h => exact h ▸ .unauthorized
  next hunauthorized => exact .other honline hoffline hunauthorized

/-- The model is found behind `model:`. -/
theorem wordBehind?_append (rest : String) :
    wordBehind? "model:" ("model:" ++ rest) = some rest := by
  unfold wordBehind? behind?
  simp

/-- Nothing is found in other words. -/
theorem wordBehind?_eq_none {w : String} (h : ¬ "model:".toList <+: w.toList) :
    wordBehind? "model:" w = none := by
  unfold wordBehind? behind?
  rw [if_neg (by rwa [List.isPrefixOf_iff_prefix])]
  rfl

/-- The model that is read is the one that the words tell. -/
theorem tells_findSome? (words : List String) :
    Tells words (words.findSome? (wordBehind? "model:")) := by
  induction words with
  | nil => exact .nothing nofun
  | cons w words ih =>
    by_cases hw : "model:".toList <+: w.toList
    · obtain ⟨rest, hrest⟩ := hw
      have hmodel : w = "model:" ++ String.ofList rest := by
        rw [← String.toList_inj, ← hrest, String.toList_append, String.toList_ofList]
        simp
      rw [hmodel, List.findSome?_cons, wordBehind?_append]
      exact .model [] words _ nofun
    · rw [List.findSome?_cons, wordBehind?_eq_none hw]
      generalize words.findSome? (wordBehind? "model:") = m at ih
      cases ih with
      | nothing h => exact .nothing (List.forall_mem_cons.2 ⟨hw, h⟩)
      | model front back rest h =>
        exact .model (w :: front) back rest (List.forall_mem_cons.2 ⟨hw, h⟩)

/-! ## Lines that are read -/

/-- The device of a line, if there is one. -/
def ofLine? (line : List Char) : Option DeviceInfo :=
  if isEntry (trim (String.ofList line)) then ofWords? (words (trim (String.ofList line))) else none

/-- The devices of a list are those of its lines. -/
theorem ofListing_eq (listing : String) :
    ofListing listing = (linesAfter [] listing.toList).filterMap ofLine? := by
  unfold ofListing lines
  rw [List.filterMap_filter, List.filterMap_map, List.filterMap_map]
  refine List.filterMap_congr fun line _ => ?_
  unfold ofLine?
  rw [Function.comp_apply, Function.comp_apply]

/-- A line without blanks around it tells of a device if there is something in it and it begins
neither as a heading nor as a notice. -/
theorem isEntry_ofList_iff (s : List Char) :
    isEntry (String.ofList s) = true ↔ s ≠ [] ∧ ¬ heading <+: s ∧ ¬ ['*'] <+: s := by
  have hnotice : s.head? = some '*' ↔ ['*'] <+: s := by
    cases s <;> simp [eq_comm]
  rw [← hnotice, ← List.isPrefixOf_iff_prefix, heading_eq, Bool.not_eq_true]
  simp [isEntry, and_assoc]

/-- What headings begin with is no blank, nor is what it ends with. -/
theorem firm_heading : Firm heading :=
  ⟨⟨'L', _, heading_eq, by decide⟩,
    ⟨['L', 'i', 's', 't', ' ', 'o', 'f', ' ', 'd', 'e', 'v', 'i', 'c', 'e'], 's', heading_eq,
      by decide⟩⟩

/-- Nor is a star. -/
theorem firm_star : Firm ['*'] := ⟨⟨'*', [], rfl, by decide⟩, ⟨[], '*', rfl, by decide⟩⟩

/-- Nothing is read from a line that tells of no device. -/
theorem ofLine?_aside {line : List Char} (h : IsAside line) : ofLine? line = none := by
  have hentry : ¬ isEntry (trim (String.ofList line)) = true := by
    unfold trim
    rw [String.toList_ofList, isEntry_ofList_iff]
    rintro ⟨hsome, hheading, hnotice⟩
    cases h with
    | blank h =>
      have hstart : trimStart line = [] := by
        have happend := h.trimStart_append []
        rwa [List.append_nil] at happend
      exact hsome (congrArg trimEnd hstart)
    | heading front rest hfront _ =>
      exact hheading (firm_heading.isPrefix_trim hfront _)
    | notice front rest hfront _ =>
      exact hnotice (firm_star.isPrefix_trim hfront _)
  unfold ofLine?
  rw [if_neg hentry]

/-- From a line with a device, the device is read. -/
theorem ofLine?_entry {e : Entry} {front s back : List Char} (hfront : IsGap front)
    (hs : Spaced e.words s) (hback : IsGap back) (hheading : ¬ heading <+: s)
    (hnotice : ¬ ['*'] <+: s) : ∃ d, ofLine? (front ++ s ++ back) = some d ∧ e.IsOf d := by
  have htrim : trim (String.ofList (front ++ s ++ back)) = String.ofList s := by
    unfold trim
    rw [String.toList_ofList, hs.firm.trim hfront hback]
  have hwords : words (String.ofList s) = e.words.map Word.text := by
    unfold words
    rw [String.toList_ofList, hs.wordsAfter, List.map_map]
    exact List.map_congr_left fun w _ => String.ofList_toList
  have hentry : isEntry (String.ofList s) = true :=
    (isEntry_ofList_iff s).2 ⟨hs.firm.ne_nil, hheading, hnotice⟩
  have hread : ofLine? (front ++ s ++ back) = ofWords? (e.words.map Word.text) := by
    unfold ofLine?
    rw [htrim, if_pos hentry, hwords]
  exact ⟨_, hread, rfl, standsFor_ofWord _, tells_findSome? _, rfl⟩

/-- The devices of the lines are those of the entries. -/
theorem forall₂_filterMap {es : List Entry} {lines : List (List Char)} (h : Written es lines) :
    List.Forall₂ Entry.IsOf es (lines.filterMap ofLine?) := by
  induction h with
  | nil => exact .nil
  | aside h _ ih =>
    rw [List.filterMap_cons_none (ofLine?_aside h)]
    exact ih
  | entry front s back hfront hs hback hheading hnotice _ ih =>
    obtain ⟨d, hd, he⟩ := ofLine?_entry hfront hs hback hheading hnotice
    rw [List.filterMap_cons_some hd]
    exact .cons he ih

/-- No line feed stands in a line that tells of no device. -/
theorem newline_not_mem_aside {line : List Char} (h : IsAside line) : '\n' ∉ line := by
  have hheading : '\n' ∉ heading := by
    rw [heading_eq]
    decide
  cases h with
  | blank h => exact h.newline_not_mem
  | heading front rest hfront hrest => simp [hfront.newline_not_mem, hrest, hheading]
  | notice front rest hfront hrest => simp [hfront.newline_not_mem, hrest]

/-- Nor in any line. -/
theorem newline_not_mem {es : List Entry} {lines : List (List Char)} (h : Written es lines) :
    ∀ line ∈ lines, '\n' ∉ line := by
  induction h with
  | nil => exact nofun
  | aside h _ ih => exact List.forall_mem_cons.2 ⟨newline_not_mem_aside h, ih⟩
  | entry front s back hfront hs hback _ _ _ ih =>
    refine List.forall_mem_cons.2 ⟨?_, ih⟩
    simp [hfront.newline_not_mem, hs.newline_not_mem, hback.newline_not_mem]

/-- A list is read back: the devices that are read are those that are written in it, in their
order. -/
theorem devices_read_back {es : List Entry} {lines : List (List Char)} (h : Written es lines) :
    List.Forall₂ Entry.IsOf es (ofListing (String.ofList (['\n'].intercalate lines))) := by
  have hempty : ofLine? [] = none := ofLine?_aside (.blank nofun)
  rw [ofListing_eq, String.toList_ofList, filterMap_linesAfter hempty (newline_not_mem h)]
  exact forall₂_filterMap h

/-- A text without blanks, checked character by character. -/
theorem solid_of_all {s : String} (h : (s.toList.all fun c => !isBlank c) = true) :
    ∀ c ∈ s.toList, isBlank c = false := by
  simpa using h

/-- An entry for a device that is ready, with two words about its model. -/
def pixel : Entry where
  serial := ⟨"emulator-5554", by decide, solid_of_all (by decide +kernel)⟩
  state := ⟨"device", by decide, solid_of_all (by decide +kernel)⟩
  more := [⟨"usb:1", by decide, solid_of_all (by decide +kernel)⟩,
    ⟨"model:Pixel", by decide, solid_of_all (by decide +kernel)⟩,
    ⟨"model:6", by decide, solid_of_all (by decide +kernel)⟩]

/-- An entry for a device in a state without a name of its own. -/
def rescued : Entry where
  serial := ⟨"127.0.0.1:5555", by decide, solid_of_all (by decide +kernel)⟩
  state := ⟨"recovery", by decide, solid_of_all (by decide +kernel)⟩
  more := []

/-- The lines of a list of both, with a notice, a heading between them and a line feed behind. -/
def attached : List (List Char) :=
  ['*' :: " daemon started".toList,
    [' '] ++ "emulator-5554\t device usb:1 model:Pixel  model:6".toList ++ [],
    heading ++ " attached".toList, [] ++ "127.0.0.1:5555 \trecovery".toList ++ ['\r'], []]

/-- Both devices are read from the list. -/
theorem two_devices_read_back : Written [pixel, rescued] attached ∧
    List.Forall₂ Entry.IsOf [pixel, rescued] (ofListing
      ("* daemon started\n emulator-5554\t device usb:1 model:Pixel  model:6\n" ++
        "List of devices attached\n127.0.0.1:5555 \trecovery\r\n")) := by
  have hgap {s : List Char} (h : (s.all fun c => isBlank c && c != '\n') = true) : IsGap s := by
    simpa [IsGap] using h
  have hpixel : Spaced pixel.words "emulator-5554\t device usb:1 model:Pixel  model:6".toList :=
    .cons _ ['\t', ' '] (by decide) (hgap (by decide)) <|
    .cons _ [' '] (by decide) (hgap (by decide)) <|
    .cons _ [' '] (by decide) (hgap (by decide)) <|
    .cons _ [' ', ' '] (by decide) (hgap (by decide)) <| .last _
  have hrescued : Spaced rescued.words "127.0.0.1:5555 \trecovery".toList :=
    .cons _ [' ', '\t'] (by decide) (hgap (by decide)) <| .last _
  have hwritten : Written [pixel, rescued] attached :=
    .aside (.notice [] _ nofun (by decide +kernel)) <|
    .entry [' '] _ [] (hgap (by decide)) hpixel nofun (by decide +kernel) (by decide +kernel) <|
    .aside (.heading [] _ nofun (by decide +kernel)) <|
    .entry [] _ ['\r'] nofun hrescued (hgap (by decide)) (by decide +kernel) (by decide +kernel) <|
    .aside (.blank nofun) .nil
  have htext : String.ofList (['\n'].intercalate attached) =
      "* daemon started\n emulator-5554\t device usb:1 model:Pixel  model:6\n" ++
        "List of devices attached\n127.0.0.1:5555 \trecovery\r\n" := by
    decide +kernel
  have hread := devices_read_back hwritten
  rw [htext] at hread
  exact ⟨hwritten, hread⟩

end Autoplay.Listing
