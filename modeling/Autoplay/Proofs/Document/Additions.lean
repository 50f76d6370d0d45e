import Autoplay.Proofs.Document.Returning
import Autoplay.Proofs.Json.Spelling

/-!
# What counts of a document

A document is read with the fields of its records in order, and the fields that are `null` are
dropped at every depth; what is left is the content of the document. Under a name the content of a
record has the last value of that name, unless it is `null` (`lookup_content`), and this is all that
the content depends on (`related_content`). So the content stays what it is when fields of new names
and without a value are added anywhere in a document (`content_eq_of_emptyAdded`).
-/

namespace Autoplay

/-! ## Fields in order -/

namespace Fields

/-- The names of the fields are in order and different. -/
def Sorted (f : Fields) : Prop := f.Pairwise fun a b => a.1 < b.1

/-- The fields without those of a name. -/
def without (f : Fields) (n : String) : Fields := f.filter fun field => field.1 ≠ n

/-- The fields have the same names in the same order, and the values of a name are related. -/
def Related (Q : String → Document → Document → Prop) (f g : Fields) : Prop :=
  List.Forall₂ (fun a b => a.1 = b.1 ∧ Q a.1 a.2 b.2) f g

/-- If a value gives way to a related one, the fields are related. -/
theorem related_replace {Q : String → Document → Document → Prop} (hrefl : ∀ n d, Q n d d)
    {n : String} {d d' : Document} (h : Q n d d') (f g : Fields) :
    Related Q (f ++ (n, d) :: g) (f ++ (n, d') :: g) := by
  have hsame (f : Fields) : List.Forall₂ (fun a b => a.1 = b.1 ∧ Q a.1 a.2 b.2) f f :=
    List.forall₂_same.2 fun a _ => ⟨rfl, hrefl a.1 a.2⟩
  exact List.rel_append (hsame f) (.cons ⟨rfl, h⟩ (hsame g))

/-- Fields with equal values are the same. -/
theorem Related.eq {f g : Fields} (h : Related (fun _ u v => u = v) f g) : f = g := by
  induction h with
  | nil => rfl
  | cons hhead _ ih => rw [Prod.ext hhead.1 hhead.2, ih]

end Fields

namespace Document

open Fields

variable {m n : String} {d : Document} {f g : Fields}

/-- A value is looked for in the fields in front first. -/
theorem lookup_append : lookup n (f ++ g) = (lookup n f).or (lookup n g) := by
  induction f with
  | nil => rfl
  | cons field rest ih =>
    obtain ⟨key, value⟩ := field
    rw [List.cons_append, lookup, lookup, ih]
    split
    next => rfl
    next => rfl

/-- A name that is not there has no value. -/
theorem lookup_eq_none (h : n ∉ f.map Prod.fst) : lookup n f = none := by
  cases hlookup : lookup n f with
  | none => rfl
  | some d => exact absurd (List.mem_map_of_mem (f := Prod.fst) (mem_of_lookup hlookup)) h

/-- A name in front of all others has no value. -/
theorem lookup_eq_none_of_lt (h : ∀ field ∈ f, n < field.1) : lookup n f = none := by
  refine lookup_eq_none fun hmem => ?_
  obtain ⟨field, hfield, rfl⟩ := List.mem_map.1 hmem
  exact String.lt_irrefl _ (h field hfield)

/-- In order, the first name has no value further down. -/
theorem lookup_of_sorted (h : Sorted ((n, d) :: f)) : lookup n f = none :=
  lookup_eq_none_of_lt fun _ hfield => List.rel_of_pairwise_cons h hfield

/-- A name in front of the first one in order has no value. -/
theorem lookup_of_lt (h : Sorted ((n, d) :: f)) (hlt : m < n) : lookup m ((n, d) :: f) = none := by
  refine lookup_eq_none_of_lt fun field hfield => ?_
  rcases List.mem_cons.1 hfield with rfl | hfield
  · exact hlt
  · exact String.lt_trans hlt (List.rel_of_pairwise_cons h hfield)

/-- The value of a name among the fields without those of another one. -/
theorem lookup_without : lookup m (f.without n) = if m = n then none else lookup m f := by
  induction f with
  | nil => split <;> rfl
  | cons field rest ih =>
    obtain ⟨key, value⟩ := field
    unfold without at ih ⊢
    by_cases hkey : key = n
    · rw [List.filter_cons_of_neg (by simpa using hkey), ih]
      split
      next => rfl
      next hm => rw [lookup, if_neg fun h => hm (h.symm.trans hkey)]
    · rw [List.filter_cons_of_pos (by simpa using hkey), lookup, lookup, ih]
      split
      next h => rw [if_neg (h ▸ hkey)]
      next => rfl

/-- Fields in order stay so without those of a name. -/
theorem sorted_without (h : f.Sorted) (n : String) : (f.without n).Sorted :=
  h.sublist List.filter_sublist

/-- Among the fields with one more put in, its name has its value. -/
theorem lookup_insert :
    lookup m (insert n d f) = if n = m then some d else lookup m f := by
  induction f with
  | nil => rfl
  | cons field rest ih =>
    obtain ⟨key, value⟩ := field
    unfold insert
    split
    next => rfl
    split
    next hkey =>
      subst hkey
      rw [lookup, lookup]
      split
      next => rfl
      next => rfl
    next hne =>
      rw [lookup, lookup, ih]
      split
      next h => rw [if_neg fun hn => hne (hn.trans h.symm)]
      next => rfl

/-- Fields in order stay so with one more put in. -/
theorem sorted_insert (n : String) (d : Document) (h : f.Sorted) : Sorted (insert n d f) := by
  induction f with
  | nil => exact List.pairwise_singleton _ _
  | cons field rest ih =>
    obtain ⟨key, value⟩ := field
    obtain ⟨hkey, hrest⟩ := List.pairwise_cons.1 h
    unfold insert
    split
    next hlt =>
      refine List.pairwise_cons.2 ⟨fun b hb => ?_, h⟩
      rcases List.mem_cons.1 hb with rfl | hb
      · exact hlt
      · exact String.lt_trans hlt (hkey b hb)
    split
    next heq =>
      subst heq
      exact List.pairwise_cons.2 ⟨hkey, hrest⟩
    next hge hne =>
      refine List.pairwise_cons.2 ⟨fun b hb => ?_, ih hrest⟩
      rcases mem_of_mem_insert hb with ⟨hn, -⟩ | hb
      · exact hn ▸ Std.lt_of_le_of_ne (String.not_lt.1 hge) (Ne.symm hne)
      · exact hkey b hb

/-- Fields in order are related if the values found under every name are. -/
theorem related_of_lookup {Q : String → Document → Document → Prop} (hf : f.Sorted) (hg : g.Sorted)
    (h : ∀ n, Option.Rel (Q n) (lookup n f) (lookup n g)) : Related Q f g := by
  have hhere (n : String) (d : Document) (f : Fields) : lookup n ((n, d) :: f) = some d :=
    if_pos rfl
  induction f generalizing g with
  | nil =>
    cases g with
    | nil => exact .nil
    | cons field g =>
      have hb := h field.1
      rw [hhere] at hb
      exact nomatch hb
  | cons field f ih =>
    obtain ⟨a, u⟩ := field
    have ha := h a
    rw [hhere] at ha
    cases g with
    | nil => exact nomatch ha
    | cons field g =>
      obtain ⟨b, v⟩ := field
      have hb := h b
      rw [hhere] at hb
      -- The smaller one of the first names would not be among the other fields.
      have hnames : a = b := by
        by_cases hlt : a < b
        · rw [lookup_of_lt hg hlt] at ha
          exact nomatch ha
        by_cases hgt : b < a
        · rw [lookup_of_lt hf hgt] at hb
          exact nomatch hb
        · exact String.le_antisymm (String.not_lt.1 hgt) (String.not_lt.1 hlt)
      subst hnames
      rw [hhere] at ha
      refine .cons ⟨rfl, Option.rel_some_some.1 ha⟩ (ih hf.of_cons hg.of_cons fun n => ?_)
      by_cases hn : a = n
      · subst hn
        rw [lookup_of_sorted hf, lookup_of_sorted hg]
        exact .none
      · have hrest := h n
        rwa [lookup, lookup, if_neg hn, if_neg hn] at hrest

/-- Fields in order are given by the values found under the names. -/
theorem eq_of_lookup (hf : f.Sorted) (hg : g.Sorted) (h : ∀ n, lookup n f = lookup n g) :
    f = g := by
  refine (related_of_lookup (Q := fun _ u v => u = v) hf hg fun n => ?_).eq
  rw [h n]
  cases lookup n g with
  | none => exact .none
  | some d => exact .some rfl

/-! ## The content of a document -/

/-- What is left of a document that was read when the fields without a value are dropped. -/
def content (d : Document) : Document := (Json.ordered d).dropNulls

/-- The content of a record. -/
def contentFields (f : Fields) : Fields := dropNullFields (Json.orderedFields [] f)

/-- The value that counts under a name: the last one, unless it is `null`. -/
def value? (n : String) (f : Fields) : Option Document :=
  (lookup n f.reverse).filter fun d => !d.isNull

/-- The content of a record has the content of its fields. -/
theorem content_record : content (.record f) = .record (contentFields f) := by
  rw [content, Json.ordered, dropNulls, contentFields]

/-- The content of a list has the contents of its items. -/
theorem content_list (ds : List Document) : content (.list ds) = .list (ds.map content) := by
  rw [content, Json.ordered, dropNulls]
  refine congrArg Document.list ?_
  induction ds with
  | nil => rfl
  | cons d rest ih => rw [Json.orderedItems, dropNullItems, ih, List.map_cons, content]

/-- A document in order is `null` if the document is. -/
theorem isNull_ordered (d : Document) : (Json.ordered d).isNull = d.isNull := by
  cases d with
  | list ds => rw [Json.ordered, isNull, isNull] <;> exact nofun
  | record f => rw [Json.ordered, isNull, isNull] <;> exact nofun
  | null | bool | integer | float | single | text => rw [Json.ordered] <;> exact nofun

/-- The fields of a record stay in order while they are put in. -/
theorem sorted_orderedFields (hg : g.Sorted) : Sorted (Json.orderedFields g f) := by
  induction f generalizing g with
  | nil => exact hg
  | cons field rest ih =>
    obtain ⟨key, value⟩ := field
    exact ih (sorted_insert key _ hg)

/-- Under a name stands the last value that was put in, or the one that was there. -/
theorem lookup_orderedFields :
    lookup n (Json.orderedFields g f) =
      ((lookup n f.reverse).map Json.ordered).or (lookup n g) := by
  induction f generalizing g with
  | nil => rfl
  | cons field rest ih =>
    obtain ⟨key, value⟩ := field
    rw [Json.orderedFields, ih, lookup_insert, List.reverse_cons, lookup_append, lookup]
    cases lookup n rest.reverse with
    | some d => rfl
    | none =>
      rw [Option.map_none, Option.none_or, Option.none_or]
      split
      next => rfl
      next => rfl

/-- Without the fields that are `null`, the names are fewer. -/
theorem mem_of_mem_dropNullFields (h : n ∈ (dropNullFields f).map Prod.fst) :
    n ∈ f.map Prod.fst := by
  induction f with
  | nil => exact h
  | cons field rest ih =>
    obtain ⟨key, value⟩ := field
    rw [dropNullFields] at h
    split at h
    next => exact List.mem_cons_of_mem _ (ih h)
    next => exact (List.mem_cons.1 h).elim (· ▸ List.mem_cons_self) (List.mem_cons_of_mem _ ∘ ih)

/-- Fields in order stay so without those that are `null`. -/
theorem sorted_dropNullFields (h : f.Sorted) : Sorted (dropNullFields f) := by
  induction f with
  | nil => exact h
  | cons field rest ih =>
    obtain ⟨key, value⟩ := field
    obtain ⟨hkey, hrest⟩ := List.pairwise_cons.1 h
    rw [dropNullFields]
    split
    next => exact ih hrest
    next =>
      refine List.pairwise_cons.2 ⟨fun b hb => ?_, ih hrest⟩
      obtain ⟨b', hb', hname⟩ :=
        List.mem_map.1 (mem_of_mem_dropNullFields (List.mem_map_of_mem (f := Prod.fst) hb))
      exact hname ▸ hkey b' hb'

/-- Of fields in order, those that are not `null` are left. -/
theorem lookup_dropNullFields (h : f.Sorted) :
    lookup n (dropNullFields f) = ((lookup n f).filter fun d => !d.isNull).map dropNulls := by
  induction f with
  | nil => rfl
  | cons field rest ih =>
    obtain ⟨key, value⟩ := field
    have ih := ih h.of_cons
    rw [dropNullFields, lookup]
    by_cases hkey : key = n
    · -- If this value is dropped, there is no other one of its name to be found instead.
      subst hkey
      rw [lookup_of_sorted h] at ih
      rw [if_pos rfl, Option.filter_some]
      split
      next hnull => rw [ih, hnull]; rfl
      next hvalue => rw [lookup, if_pos rfl, eq_false_of_ne_true hvalue]; rfl
    · rw [if_neg hkey, ← ih]
      split
      next => rfl
      next => rw [lookup, if_neg hkey]

/-- The content of a record is in order. -/
theorem sorted_contentFields (f : Fields) : Sorted (contentFields f) :=
  sorted_dropNullFields (sorted_orderedFields .nil)

/-- Under a name, the content of a record has the content of the value that counts. -/
theorem lookup_contentFields : lookup n (contentFields f) = (value? n f).map content := by
  rw [contentFields, lookup_dropNullFields (sorted_orderedFields .nil), lookup_orderedFields,
    value?]
  cases lookup n f.reverse with
  | none => rfl
  | some d =>
    rw [Option.map_some, Option.some_or, Option.filter_some, Option.filter_some, isNull_ordered]
    split
    next => rfl
    next => rfl

/-- The contents of two records are related if the values that count are. -/
theorem related_contentFields {Q : String → Document → Document → Prop}
    (h : ∀ n, Option.Rel (fun u v => Q n (content u) (content v)) (value? n f) (value? n g)) :
    Related Q (contentFields f) (contentFields g) := by
  refine related_of_lookup (sorted_contentFields f) (sorted_contentFields g) fun n => ?_
  have hn := h n
  rw [lookup_contentFields, lookup_contentFields]
  generalize value? n f = u, value? n g = v at hn ⊢
  cases hn with
  | some h => exact .some h
  | none => exact .none

/-! ## Fields without a value -/

/-- Of a name, the value that comes last counts. -/
theorem lookup_reverse_append_cons :
    lookup n (f ++ (m, d) :: g).reverse =
      (lookup n g.reverse).or (if m = n then some d else lookup n f.reverse) := by
  rw [List.reverse_append, List.reverse_cons, List.append_assoc, lookup_append,
    List.singleton_append, lookup]

/-- A field does not matter for the other names. -/
theorem value?_of_ne (h : m ≠ n) : value? n (f ++ (m, d) :: g) = value? n (f ++ g) := by
  rw [value?, value?, lookup_reverse_append_cons, if_neg h, List.reverse_append, lookup_append]

/-- A field without a value does not matter if its name is new. -/
theorem value?_null (hnew : m ∉ (f ++ g).map Prod.fst) :
    value? n (f ++ (m, .null) :: g) = value? n (f ++ g) := by
  by_cases hn : m = n
  · subst hn
    have hreverse : m ∉ (f ++ g).reverse.map Prod.fst := by
      rwa [List.map_reverse, List.mem_reverse]
    have hbehind : m ∉ g.reverse.map Prod.fst := by
      rw [List.map_append, List.mem_append] at hnew
      rw [List.map_reverse, List.mem_reverse]
      exact fun h => hnew (.inr h)
    rw [value?, value?, lookup_reverse_append_cons, if_pos rfl, lookup_eq_none hreverse,
      lookup_eq_none hbehind]
    rfl
  · exact value?_of_ne hn

/-- If a value gives way to a related one, the values that count stay related. -/
theorem rel_value? {Q : String → Document → Document → Prop} (hrefl : ∀ n d, Q n d d)
    {d' : Document} (hnull : d.isNull = d'.isNull) (h : Q m d d') :
    Option.Rel (Q n) (value? n (f ++ (m, d) :: g)) (value? n (f ++ (m, d') :: g)) := by
  have hsame (o : Option Document) : Option.Rel (Q n) o o := by
    cases o with
    | none => exact .none
    | some d => exact .some (hrefl n d)
  by_cases hn : m = n
  · subst hn
    rw [value?, value?, lookup_reverse_append_cons, lookup_reverse_append_cons, if_pos rfl,
      if_pos rfl]
    -- A later value of the name hides both.
    cases lookup m g.reverse with
    | some e => exact hsame _
    | none =>
      rw [Option.none_or, Option.none_or, Option.filter_some, Option.filter_some, ← hnull]
      split
      next => exact .some h
      next => exact .none
  · rw [value?_of_ne hn, value?_of_ne hn]
    exact hsame _

/-- A field without a value is put into a record at any depth, under a name that is new there. -/
inductive EmptyAdded : Document → Document → Prop
  /-- Into the record itself. -/
  | here {n : String} {f g : Fields} (hnew : n ∉ (f ++ g).map Prod.fst) :
    EmptyAdded (.record (f ++ g)) (.record (f ++ (n, .null) :: g))
  /-- Into an item of the list. -/
  | item {ds es : List Document} {d d' : Document} (h : EmptyAdded d d') :
    EmptyAdded (.list (ds ++ d :: es)) (.list (ds ++ d' :: es))
  /-- Into a field of the record. -/
  | field {n : String} {f g : Fields} {d d' : Document} (h : EmptyAdded d d') :
    EmptyAdded (.record (f ++ (n, d) :: g)) (.record (f ++ (n, d') :: g))

/-- What has a record in it has a value. -/
theorem EmptyAdded.isNull_eq {d d' : Document} (h : EmptyAdded d d') : d.isNull = d'.isNull := by
  cases h <;> rfl

/-- A field without a value under a new name does not change the content. -/
theorem EmptyAdded.content_eq {d d' : Document} (h : EmptyAdded d d') : content d = content d' := by
  induction h with
  | here hnew =>
    rw [content_record, content_record]
    refine congrArg Document.record
      (eq_of_lookup (sorted_contentFields _) (sorted_contentFields _) fun n => ?_)
    rw [lookup_contentFields, lookup_contentFields, value?_null hnew]
  | item _ ih => rw [content_list, content_list, List.map_append, List.map_append, List.map_cons,
      List.map_cons, ih]
  | field h ih =>
    rw [content_record, content_record]
    refine congrArg Document.record (related_contentFields fun n => ?_).eq
    exact rel_value? (Q := fun _ u v => content u = content v) (fun _ _ => rfl) h.isNull_eq ih

/-- Nor does it change how deep the document is. -/
theorem EmptyAdded.depth_eq {d d' : Document} (h : EmptyAdded d d') :
    Json.depth d = Json.depth d' := by
  induction h with
  | here _ =>
    rw [Json.depth, Json.depth, Json.fieldDepth_append, Json.fieldDepth_append, Json.fieldDepth,
      Json.depth, Nat.zero_max]
    all_goals exact nofun
  | item _ ih =>
    rw [Json.depth, Json.depth, Json.itemDepth_append, Json.itemDepth_append, Json.itemDepth,
      Json.itemDepth, ih]
  | field _ ih =>
    rw [Json.depth, Json.depth, Json.fieldDepth_append, Json.fieldDepth_append, Json.fieldDepth,
      Json.fieldDepth, ih]

end Document

end Autoplay
