import Autoplay.Proofs.Json.Rereading

/-!
# Documents in any spelling

A text writes a document if it is cut into the tokens of the document, whatever blanks stand between
them and however its texts and numbers are spelled (`IsTextOf`). The main statement, `read_eq_some`,
says what is read from such a text: the document with the fields of its records in the order of
their names, of a repeated name only the last one (`ordered`). If more lists and records lie in each
other than a reader opens, nothing is read (`read_eq_none`).
-/

namespace Autoplay.Json

mutual

/-- The tokens of a document as it stands. -/
def spelling : Document → List Token
  | .text s => [.text s]
  | .list [] => [.openList, .closeList]
  | .list (d :: rest) => .openList :: (spelling d ++ itemSpelling rest)
  | .record [] => [.openRecord, .closeRecord]
  | .record ((name, d) :: rest) =>
    .openRecord :: .text name :: .colon :: (spelling d ++ fieldSpelling rest)
  | d => [.plain d]

/-- The tokens from behind an item to the end of its list. -/
def itemSpelling : List Document → List Token
  | [] => [.closeList]
  | d :: rest => .comma :: (spelling d ++ itemSpelling rest)

/-- The tokens from behind a field to the end of its record. -/
def fieldSpelling : List (String × Document) → List Token
  | [] => [.closeRecord]
  | (name, d) :: rest => .comma :: .text name :: .colon :: (spelling d ++ fieldSpelling rest)

end

/-- A text is one of a document. -/
def IsTextOf (s : String) (d : Document) : Prop := tokens? s.toList = some (spelling d)

/-- A document is written as one of its texts if its numbers are whole. -/
theorem isTextOf_write {room : Nat} {d : Document} (h : Readable room d)
    (hwhole : tokens d = spelling d) : IsTextOf (write d) d := by
  unfold IsTextOf write
  rw [String.toList_ofList, tokens?_writeChars h, hwhole]

mutual

/-- A document with the fields of its records in the order of their names; the last value of a
repeated name counts. -/
def ordered : Document → Document
  | .list ds => .list (orderedItems ds)
  | .record fs => .record (orderedFields [] fs)
  | d => d

/-- The items of a list with their records in order. -/
def orderedItems : List Document → List Document
  | [] => []
  | d :: rest => ordered d :: orderedItems rest

/-- The fields of a record, put in with those that are in order. -/
def orderedFields (sofar : List (String × Document)) :
    List (String × Document) → List (String × Document)
  | [] => sofar
  | (name, d) :: rest => orderedFields (Document.insert name (ordered d) sofar) rest

end

mutual

/-- How many lists and records lie in each other. -/
def depth : Document → Nat
  | .list ds => itemDepth ds + 1
  | .record fs => fieldDepth fs + 1
  | _ => 0

/-- The greatest depth of an item. -/
def itemDepth : List Document → Nat
  | [] => 0
  | d :: rest => max (depth d) (itemDepth rest)

/-- The greatest depth of a field. -/
def fieldDepth : List (String × Document) → Nat
  | [] => 0
  | (_, d) :: rest => max (depth d) (fieldDepth rest)

end

/-- The depth of items is that of those in front or that of the others. -/
theorem itemDepth_append (ds es : List Document) :
    itemDepth (ds ++ es) = max (itemDepth ds) (itemDepth es) := by
  induction ds with
  | nil => rw [List.nil_append, itemDepth, Nat.zero_max]
  | cons d rest ih => rw [List.cons_append, itemDepth, itemDepth, ih, Nat.max_assoc]

/-- So it is with fields. -/
theorem fieldDepth_append (fs gs : List (String × Document)) :
    fieldDepth (fs ++ gs) = max (fieldDepth fs) (fieldDepth gs) := by
  induction fs with
  | nil => rw [List.nil_append, fieldDepth, Nat.zero_max]
  | cons f rest ih =>
    obtain ⟨name, d⟩ := f
    rw [List.cons_append, fieldDepth, fieldDepth, ih, Nat.max_assoc]

namespace Assembly

/-- The value of a document may be the first item of a list. -/
theorem foldlM_spelling_firstItem (d : Document) (stack : List Frame) :
    (spelling d).foldlM step ⟨stack, .firstItem⟩ = (spelling d).foldlM step ⟨stack, .value⟩ := by
  match d with
  | .null | .bool _ | .integer _ | .float _ | .single _ | .text _ | .list [] | .list (_ :: _)
  | .record [] | .record (_ :: _) => rfl

mutual

/-- The tokens of a document are put together to the document in order. -/
theorem foldlM_spelling {stack : List Frame} :
    (d : Document) → stack.length + depth d ≤ maxDepth →
    (spelling d).foldlM step ⟨stack, .value⟩ = some ⟨stack, .more (ordered d)⟩
  | .null, _ | .bool _, _ | .integer _, _ | .float _, _ | .single _, _ | .text _, _ => rfl
  | .list ds, h => by
    rw [depth] at h
    have hopen : stack.length < maxDepth := by omega
    cases ds with
    | nil =>
      show [.openList, .closeList].foldlM step _ = _
      rw [List.foldlM_cons, step_openList hopen]
      rfl
    | cons d rest =>
      rw [itemDepth] at h
      show (.openList :: (spelling d ++ itemSpelling rest)).foldlM step _ = _
      rw [List.foldlM_cons, step_openList hopen]
      show (spelling d ++ itemSpelling rest).foldlM step ⟨.list [] :: stack, .firstItem⟩ = _
      rw [List.foldlM_append, foldlM_spelling_firstItem,
        foldlM_spelling d (by rw [List.length_cons]; omega)]
      exact foldlM_itemSpelling rest [] (ordered d) (by omega)
  | .record fs, h => by
    rw [depth] at h
    have hopen : stack.length < maxDepth := by omega
    cases fs with
    | nil =>
      show [.openRecord, .closeRecord].foldlM step _ = _
      rw [List.foldlM_cons, step_openRecord hopen]
      rfl
    | cons f rest =>
      obtain ⟨name, d⟩ := f
      rw [fieldDepth] at h
      show (.openRecord :: .text name :: .colon :: (spelling d ++ fieldSpelling rest)).foldlM
        step _ = _
      rw [List.foldlM_cons, step_openRecord hopen]
      show (spelling d ++ fieldSpelling rest).foldlM step ⟨.record [] name :: stack, .value⟩ = _
      rw [List.foldlM_append, foldlM_spelling d (by rw [List.length_cons]; omega)]
      exact foldlM_fieldSpelling rest [] name (ordered d) (by omega)

/-- So are the tokens behind an item, with the items in front of it. -/
theorem foldlM_itemSpelling {stack : List Frame} : (ds : List Document) →
    (before : List Document) → (d : Document) → stack.length + (itemDepth ds + 1) ≤ maxDepth →
    (itemSpelling ds).foldlM step ⟨.list before :: stack, .more d⟩ =
      some ⟨stack, .more (.list ((d :: before).reverse ++ orderedItems ds))⟩
  | [], before, d, _ => by
    show some _ = some _
    rw [orderedItems, List.append_nil]
  | d' :: rest, before, d, h => by
    rw [itemDepth] at h
    show (spelling d' ++ itemSpelling rest).foldlM step ⟨.list (d :: before) :: stack, .value⟩ = _
    rw [List.foldlM_append, foldlM_spelling d' (by rw [List.length_cons]; omega)]
    show (itemSpelling rest).foldlM step ⟨.list (d :: before) :: stack, .more (ordered d')⟩ = _
    rw [foldlM_itemSpelling rest (d :: before) (ordered d') (by omega), List.reverse_cons,
      List.append_assoc]
    rfl

/-- And the tokens behind a field, with the fields in front of it. -/
theorem foldlM_fieldSpelling {stack : List Frame} : (fs : List (String × Document)) →
    (before : List (String × Document)) → (name : String) → (d : Document) →
    stack.length + (fieldDepth fs + 1) ≤ maxDepth →
    (fieldSpelling fs).foldlM step ⟨.record before name :: stack, .more d⟩ =
      some ⟨stack, .more (.record (orderedFields (Document.insert name d before) fs))⟩
  | [], _, _, _, _ => rfl
  | (name', d') :: rest, before, name, d, h => by
    rw [fieldDepth] at h
    show (spelling d' ++ fieldSpelling rest).foldlM step
      ⟨.record (Document.insert name d before) name' :: stack, .value⟩ = _
    rw [List.foldlM_append, foldlM_spelling d' (by rw [List.length_cons]; omega)]
    exact foldlM_fieldSpelling rest (Document.insert name d before) name' (ordered d') (by omega)

end

mutual

/-- The tokens of a document that is too deep are not put together to anything. -/
theorem foldlM_spelling_eq_none {stack : List Frame} :
    (d : Document) → maxDepth < stack.length + depth d → stack.length ≤ maxDepth →
    (spelling d).foldlM step ⟨stack, .value⟩ = none
  | .null, h, hstack | .bool _, h, hstack | .integer _, h, hstack | .float _, h, hstack
  | .single _, h, hstack | .text _, h, hstack => absurd h (Nat.not_lt.2 hstack)
  | .list ds, h, _ => by
    rw [depth] at h
    by_cases hopen : stack.length < maxDepth
    · cases ds with
      | nil =>
        rw [itemDepth] at h
        omega
      | cons d rest =>
        rw [itemDepth] at h
        show (.openList :: (spelling d ++ itemSpelling rest)).foldlM step _ = _
        rw [List.foldlM_cons, step_openList hopen]
        show (spelling d ++ itemSpelling rest).foldlM step ⟨.list [] :: stack, .firstItem⟩ = _
        rw [List.foldlM_append, foldlM_spelling_firstItem]
        -- Either the first item is too deep, or one behind it.
        by_cases hd : (Frame.list [] :: stack).length + depth d ≤ maxDepth
        · rw [foldlM_spelling d hd]
          rw [List.length_cons] at hd
          exact foldlM_itemSpelling_eq_none hopen rest [] (ordered d) (by omega)
        · rw [foldlM_spelling_eq_none d (Nat.lt_of_not_le hd) hopen]
          rfl
    · have hfirst : step ⟨stack, .value⟩ .openList = none := if_neg hopen
      cases ds <;> exact congrArg (Option.bind · _) hfirst
  | .record fs, h, _ => by
    rw [depth] at h
    by_cases hopen : stack.length < maxDepth
    · cases fs with
      | nil =>
        rw [fieldDepth] at h
        omega
      | cons f rest =>
        obtain ⟨name, d⟩ := f
        rw [fieldDepth] at h
        show (.openRecord :: .text name :: .colon :: (spelling d ++ fieldSpelling rest)).foldlM
          step _ = _
        rw [List.foldlM_cons, step_openRecord hopen]
        show (spelling d ++ fieldSpelling rest).foldlM step ⟨.record [] name :: stack, .value⟩ = _
        rw [List.foldlM_append]
        by_cases hd : (Frame.record [] name :: stack).length + depth d ≤ maxDepth
        · rw [foldlM_spelling d hd]
          rw [List.length_cons] at hd
          exact foldlM_fieldSpelling_eq_none hopen rest [] name (ordered d) (by omega)
        · rw [foldlM_spelling_eq_none d (Nat.lt_of_not_le hd) hopen]
          rfl
    · have hfirst : step ⟨stack, .value⟩ .openRecord = none := if_neg hopen
      cases fs <;> exact congrArg (Option.bind · _) hfirst

/-- Nor are those behind an item, if there is an item among them that is too deep. -/
theorem foldlM_itemSpelling_eq_none {stack : List Frame} (hstack : stack.length < maxDepth) :
    (ds : List Document) → (before : List Document) → (d : Document) →
    maxDepth < stack.length + (itemDepth ds + 1) →
    (itemSpelling ds).foldlM step ⟨.list before :: stack, .more d⟩ = none
  | [], _, _, h => by
    rw [itemDepth] at h
    omega
  | d' :: rest, before, d, h => by
    rw [itemDepth] at h
    show (spelling d' ++ itemSpelling rest).foldlM step ⟨.list (d :: before) :: stack, .value⟩ = _
    rw [List.foldlM_append]
    by_cases hd : (Frame.list (d :: before) :: stack).length + depth d' ≤ maxDepth
    · rw [foldlM_spelling d' hd]
      rw [List.length_cons] at hd
      exact foldlM_itemSpelling_eq_none hstack rest (d :: before) (ordered d') (by omega)
    · rw [foldlM_spelling_eq_none d' (Nat.lt_of_not_le hd) hstack]
      rfl

/-- And so it is with the tokens behind a field. -/
theorem foldlM_fieldSpelling_eq_none {stack : List Frame} (hstack : stack.length < maxDepth) :
    (fs : List (String × Document)) → (before : List (String × Document)) → (name : String) →
    (d : Document) → maxDepth < stack.length + (fieldDepth fs + 1) →
    (fieldSpelling fs).foldlM step ⟨.record before name :: stack, .more d⟩ = none
  | [], _, _, _, h => by
    rw [fieldDepth] at h
    omega
  | (name', d') :: rest, before, name, d, h => by
    rw [fieldDepth] at h
    show (spelling d' ++ fieldSpelling rest).foldlM step
      ⟨.record (Document.insert name d before) name' :: stack, .value⟩ = _
    rw [List.foldlM_append]
    by_cases hd : (Frame.record (Document.insert name d before) name' :: stack).length + depth d' ≤
        maxDepth
    · rw [foldlM_spelling d' hd]
      rw [List.length_cons] at hd
      exact foldlM_fieldSpelling_eq_none hstack rest (Document.insert name d before) name'
        (ordered d') (by omega)
    · rw [foldlM_spelling_eq_none d' (Nat.lt_of_not_le hd) hstack]
      rfl

end

end Assembly

/-- A text of a document is read by putting the tokens of the document together. -/
theorem read_eq_bind {s : String} {d : Document} (hs : IsTextOf s d) :
    read s = ((spelling d).foldlM Assembly.step ⟨[], .value⟩).bind Assembly.finish :=
  calc read s
      = (tokens? s.toList).bind fun ts =>
          (ts.foldlM Assembly.step ⟨[], .value⟩).bind Assembly.finish := rfl
    _ = ((spelling d).foldlM Assembly.step ⟨[], .value⟩).bind Assembly.finish := by
      rw [hs, Option.bind_some]

/-- From a text of a document that is not too deep, the document in order is read. -/
theorem read_eq_some {s : String} {d : Document} (hs : IsTextOf s d)
    (hdepth : depth d ≤ Assembly.maxDepth) : read s = some (ordered d) := by
  have hassembly : (spelling d).foldlM Assembly.step ⟨[], .value⟩ = some ⟨[], .more (ordered d)⟩ :=
    Assembly.foldlM_spelling d (by rw [List.length_nil, Nat.zero_add]; exact hdepth)
  rw [read_eq_bind hs, hassembly]
  rfl

/-- From a text of a document that is too deep, nothing is read. -/
theorem read_eq_none {s : String} {d : Document} (hs : IsTextOf s d)
    (hdepth : Assembly.maxDepth < depth d) : read s = none := by
  have hassembly : (spelling d).foldlM Assembly.step ⟨[], .value⟩ = none :=
    Assembly.foldlM_spelling_eq_none d
      (by rw [List.length_nil, Nat.zero_add]; exact hdepth) (Nat.zero_le _)
  rw [read_eq_bind hs, hassembly]
  rfl

end Autoplay.Json
