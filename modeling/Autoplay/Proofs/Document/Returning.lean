import Autoplay.Proofs.Document.Moments
import Autoplay.Proofs.Json.Rereading
import Autoplay.Workflow.Encode
import Mathlib.Data.List.Nodup

/-!
# What a decoder makes of what was written

Of a record that is written as JSON, read again and cleared of its empty fields, the fields with a
value are left (`Fields.mem_returned`). A decoder that accepts each of them, and has a default for
those that are gone, reads the record back; `Returns` says this of one field and is proved here for
the values that records hold.
-/

namespace Autoplay

open Decoder

/-! ## Reading fields -/

namespace Fields

/-- No name has two values. -/
def Consistent (f : Fields) : Prop := ∀ n d d', (n, d) ∈ f → (n, d') ∈ f → d = d'

/-- Fields with different names are consistent. -/
theorem consistent_of_nodup {f : Fields} (h : (f.map Prod.fst).Nodup) : f.Consistent :=
  fun _ _ _ hd hd' => congrArg Prod.snd (List.inj_on_of_nodup_map h hd hd' rfl)

/-- The value found under a name is a value of that name. -/
theorem mem_of_lookup {f : Fields} {n : String} {d : Document}
    (h : Document.lookup n f = some d) : (n, d) ∈ f := by
  induction f with
  | nil => exact nomatch h
  | cons field rest ih =>
    obtain ⟨key, value⟩ := field
    unfold Document.lookup at h
    split at h
    next hkey =>
      cases h
      exact hkey ▸ List.mem_cons_self
    next => exact List.mem_cons_of_mem _ (ih h)

/-- A name with a value is found. -/
theorem exists_lookup_of_mem {f : Fields} {n : String} {d : Document} (h : (n, d) ∈ f) :
    ∃ d', Document.lookup n f = some d' := by
  induction f with
  | nil => exact nomatch h
  | cons field rest ih =>
    obtain ⟨key, value⟩ := field
    unfold Document.lookup
    split
    next => exact ⟨value, rfl⟩
    next hkey =>
      rcases List.mem_cons.1 h with heq | h
      · exact absurd (congrArg Prod.fst heq).symm hkey
      · exact ih h

/-- In consistent fields, a value of a name is the one found under it. -/
theorem Consistent.lookup {f : Fields} (hf : f.Consistent) {n : String} {d : Document}
    (h : (n, d) ∈ f) : Document.lookup n f = some d := by
  obtain ⟨d', hd'⟩ := exists_lookup_of_mem h
  rw [hd', hf n d d' h (mem_of_lookup hd')]

/-- A field passes a test, if it is there. -/
def Passes (f : Fields) (t : Test) : Prop :=
  ∀ d, Document.lookup t.name f = some d → t.accepts d = .ok ()

/-- The test of a name is one of the tests. -/
theorem exists_of_findTest {n : String} {tests : List Test} {accepts : Decoder Unit}
    (h : findTest n tests = some accepts) : ∃ t ∈ tests, t.name = n ∧ t.accepts = accepts := by
  induction tests with
  | nil => exact nomatch h
  | cons t rest ih =>
    unfold findTest at h
    split at h
    next hname =>
      cases h
      exact ⟨t, List.mem_cons_self, hname, rfl⟩
    next =>
      obtain ⟨t', ht', h⟩ := ih h
      exact ⟨t', List.mem_cons_of_mem _ ht', h⟩

/-- Fields that pass the tests one by one pass them together. -/
theorem Consistent.check {f : Fields} (hf : f.Consistent) {tests : List Test}
    (h : ∀ t ∈ tests, f.Passes t) : f.check tests = .ok () := by
  have hfield {n : String} {d : Document} (hmem : (n, d) ∈ f) {accepts : Decoder Unit}
      (hfind : findTest n tests = some accepts) : accepts d = .ok () := by
    obtain ⟨t, ht, rfl, rfl⟩ := exists_of_findTest hfind
    exact h t ht d (hf.lookup hmem)
  -- The fields are tested one after the other; of those in front nothing is needed any more.
  have hall : ∀ g : Fields, g ⊆ f → Fields.check tests g = .ok () := by
    intro g hg
    induction g with
    | nil => rfl
    | cons field rest ih =>
      obtain ⟨n, d⟩ := field
      obtain ⟨hmem, hrest⟩ := List.cons_subset.1 hg
      unfold Fields.check
      split
      next => exact ih hrest
      next accepts hfind =>
        rw [hfield hmem hfind]
        exact ih hrest
  exact hall f (List.Subset.refl f)

variable {α : Type} {f : Fields} {n : String} {decoder : Decoder α} {a : α}

/-- A field is read as `a`: it is accepted as that, or is missing and `a` is what holds then. -/
structure Yields (f : Fields) (n : String) (decoder : Decoder α) (default : Option α) (a : α) :
    Prop where
  /-- Its value is accepted. -/
  accepted : ∀ d, Document.lookup n f = some d → decoder d = .ok a
  /-- Without a value there is the default. -/
  missing : Document.lookup n f = none → default = some a

/-- Such a field passes the test of its decoder. -/
theorem Yields.passes {default : Option α} (h : f.Yields n decoder default a) :
    f.Passes (.of n decoder) := by
  intro d hd
  show (decoder d).map (fun _ => ()) = .ok ()
  rw [h.accepted d hd]
  rfl

/-- Without a default, the field is there. -/
theorem Yields.required (h : f.Yields n decoder none a) : f.required n decoder = .ok a := by
  unfold Fields.required
  split
  next hnone => exact nomatch h.missing hnone
  next d hd => exact h.accepted d hd

/-- With the default, the field may be missing. -/
theorem Yields.withDefault {default : α} (h : f.Yields n decoder (some default) a) :
    f.withDefault n decoder default = .ok a := by
  unfold Fields.withDefault
  split
  next hnone => exact congrArg Except.ok (Option.some.inj (h.missing hnone))
  next d hd => exact h.accepted d hd

end Fields

/-! ## Fields that were written -/

namespace Document

/-- What is left of a value that was written, read again and cleared of empty fields. -/
def returned (d : Document) : Option Document :=
  if (Json.reread d).isNull then none else some (Json.reread d).dropNulls

/-- A field that is put in is there. -/
theorem mem_insert_self (n : String) (d : Document) (f : Fields) : (n, d) ∈ insert n d f := by
  induction f with
  | nil => exact List.mem_cons_self
  | cons field rest ih =>
    obtain ⟨key, value⟩ := field
    unfold insert
    split
    next => exact List.mem_cons_self
    split
    next => exact List.mem_cons_self
    next => exact List.mem_cons_of_mem _ ih

/-- A field of another name stays. -/
theorem mem_insert_of_ne {m n : String} {d d' : Document} {f : Fields} (hne : n ≠ m)
    (h : (m, d') ∈ f) : (m, d') ∈ insert n d f := by
  induction f with
  | nil => exact nomatch h
  | cons field rest ih =>
    obtain ⟨key, value⟩ := field
    unfold insert
    split
    next => exact List.mem_cons_of_mem _ h
    split
    next hkey =>
      rcases List.mem_cons.1 h with heq | h
      · exact absurd (hkey.trans (congrArg Prod.fst heq).symm) hne
      · exact List.mem_cons_of_mem _ h
    next =>
      rcases List.mem_cons.1 h with heq | h
      · exact heq ▸ List.mem_cons_self
      · exact List.mem_cons_of_mem _ (ih h)

/-- Nothing else is put in. -/
theorem mem_of_mem_insert {m n : String} {d d' : Document} {f : Fields}
    (h : (m, d') ∈ insert n d f) : (m = n ∧ d' = d) ∨ (m, d') ∈ f := by
  induction f with
  | nil => exact .inl (Prod.mk.inj (List.mem_singleton.1 h))
  | cons field rest ih =>
    obtain ⟨key, value⟩ := field
    unfold insert at h
    split at h
    next => exact (List.mem_cons.1 h).imp Prod.mk.inj id
    split at h
    next => exact (List.mem_cons.1 h).imp Prod.mk.inj (List.mem_cons_of_mem _)
    next =>
      rcases List.mem_cons.1 h with heq | h
      · exact .inr (heq ▸ List.mem_cons_self)
      · exact (ih h).imp id (List.mem_cons_of_mem _)

/-- The fields that were read are the written ones, each reread, and those that were there. -/
theorem mem_of_mem_rereadFields {n : String} {v : Document} {sofar f : Fields}
    (h : (n, v) ∈ Json.rereadFields sofar f) :
    (n, v) ∈ sofar ∨ ∃ d, (n, d) ∈ f ∧ Json.reread d = v := by
  induction f generalizing sofar with
  | nil => exact .inl h
  | cons field rest ih =>
    obtain ⟨key, value⟩ := field
    rcases ih h with hsofar | ⟨d, hd, hv⟩
    · rcases mem_of_mem_insert hsofar with ⟨rfl, rfl⟩ | hsofar
      · exact .inr ⟨value, List.mem_cons_self, rfl⟩
      · exact .inl hsofar
    · exact .inr ⟨d, List.mem_cons_of_mem _ hd, hv⟩

/-- A field that was there stays if no other value is written under its name. -/
theorem mem_rereadFields_of_mem {n : String} {v : Document} {sofar f : Fields}
    (h : (n, v) ∈ sofar) (hf : ∀ d, (n, d) ∈ f → Json.reread d = v) :
    (n, v) ∈ Json.rereadFields sofar f := by
  induction f generalizing sofar with
  | nil => exact h
  | cons field rest ih =>
    obtain ⟨key, value⟩ := field
    have hinsert : (n, v) ∈ insert key (Json.reread value) sofar := by
      by_cases hkey : key = n
      · subst hkey
        rw [hf value List.mem_cons_self]
        exact mem_insert_self key v sofar
      · exact mem_insert_of_ne hkey h
    exact ih hinsert fun d hd => hf d (List.mem_cons_of_mem _ hd)

/-- Consistent fields are all read again. -/
theorem mem_rereadFields {n : String} {d : Document} {sofar f : Fields} (hf : f.Consistent)
    (h : (n, d) ∈ f) : (n, Json.reread d) ∈ Json.rereadFields sofar f := by
  induction f generalizing sofar with
  | nil => exact nomatch h
  | cons field rest ih =>
    obtain ⟨key, value⟩ := field
    rcases List.mem_cons.1 h with heq | h
    · cases heq
      show (n, Json.reread d) ∈ Json.rereadFields (insert n (Json.reread d) sofar) rest
      refine mem_rereadFields_of_mem (mem_insert_self n _ sofar) fun d' hd' => ?_
      rw [hf n d' d (List.mem_cons_of_mem _ hd') List.mem_cons_self]
    · exact ih (fun n d d' hd hd' =>
        hf n d d' (List.mem_cons_of_mem _ hd) (List.mem_cons_of_mem _ hd')) h

/-- The fields that have a value stay when the others are dropped. -/
theorem mem_dropNullFields {n : String} {v : Document} {f : Fields} :
    (n, v) ∈ dropNullFields f ↔ ∃ d, (n, d) ∈ f ∧ d.isNull = false ∧ d.dropNulls = v := by
  induction f with
  | nil => simp [dropNullFields]
  | cons field rest ih =>
    obtain ⟨key, value⟩ := field
    unfold dropNullFields
    split
    next hnull =>
      rw [ih]
      constructor
      · rintro ⟨d, hd, h⟩
        exact ⟨d, List.mem_cons_of_mem _ hd, h⟩
      · rintro ⟨d, hd, h⟩
        rcases List.mem_cons.1 hd with heq | hd
        · cases heq
          exact absurd hnull (ne_true_of_eq_false h.1)
        · exact ⟨d, hd, h⟩
    next hnull =>
      rw [List.mem_cons, ih]
      constructor
      · rintro (heq | ⟨d, hd, h⟩)
        · cases heq
          exact ⟨value, List.mem_cons_self, Bool.eq_false_iff.2 hnull, rfl⟩
        · exact ⟨d, List.mem_cons_of_mem _ hd, h⟩
      · rintro ⟨d, hd, h⟩
        rcases List.mem_cons.1 hd with heq | hd
        · cases heq
          exact .inl (congrArg (Prod.mk n) h.2.symm)
        · exact .inr ⟨d, hd, h⟩

end Document

namespace Fields

/-- What is left of fields that were written, read again and cleared of empty ones. -/
def returned (f : Fields) : Fields := Document.dropNullFields (Json.rereadFields [] f)

/-- They are what is left of each field. -/
theorem mem_returned {f : Fields} (hf : f.Consistent) {n : String} {v : Document} :
    (n, v) ∈ f.returned ↔ ∃ d, (n, d) ∈ f ∧ d.returned = some v := by
  have hleft {d : Document} : d.returned = some v ↔
      (Json.reread d).isNull = false ∧ (Json.reread d).dropNulls = v := by
    unfold Document.returned
    cases (Json.reread d).isNull <;> simp
  unfold returned
  rw [Document.mem_dropNullFields]
  constructor
  · rintro ⟨r, hr, h⟩
    rcases Document.mem_of_mem_rereadFields hr with hnil | ⟨d, hd, rfl⟩
    · exact nomatch hnil
    · exact ⟨d, hd, hleft.2 h⟩
  · rintro ⟨d, hd, h⟩
    exact ⟨Json.reread d, Document.mem_rereadFields hf hd, hleft.1 h⟩

/-- Still no name has two values. -/
theorem Consistent.returned {f : Fields} (hf : f.Consistent) : f.returned.Consistent := by
  intro n v v' hv hv'
  obtain ⟨d, hd, hreturned⟩ := (mem_returned hf).1 hv
  obtain ⟨d', hd', hreturned'⟩ := (mem_returned hf).1 hv'
  rw [hf n d d' hd hd'] at hreturned
  exact Option.some.inj (hreturned.symm.trans hreturned')

/-- Under the name of a field that was written, there is what is left of it. -/
theorem Consistent.lookup_returned {f : Fields} (hf : f.Consistent) {n : String} {d : Document}
    (h : (n, d) ∈ f) : Document.lookup n f.returned = d.returned := by
  cases hreturned : d.returned with
  | some v => exact hf.returned.lookup ((mem_returned hf).2 ⟨d, h, hreturned⟩)
  | none =>
    cases hlookup : Document.lookup n f.returned with
    | none => rfl
    | some v =>
      obtain ⟨d', hd', hv⟩ := (mem_returned hf).1 (mem_of_lookup hlookup)
      rw [hf n d' d hd' h, hreturned] at hv
      exact nomatch hv

end Fields

/-! ## Values that were written -/

namespace Json

/-- What the digits of a number in double precision are read as. -/
def rereadDouble (x : Float) : Option Float :=
  (number? (writeFloat x)).bind fun d => (float64 d).toOption

/-- What the digits of a number in single precision are read as. -/
def rereadSingle (x : Float32) : Option Float32 :=
  (number? (writeSingle x)).bind fun d => (float32 d).toOption

end Json

namespace Document

variable {α β : Type}

/-- A value that was written is read as `a`, or nothing is left of it and `a` is what holds then. -/
structure Returns (d : Document) (decoder : Decoder α) (default : Option α) (a : α) : Prop where
  /-- What is left of it is accepted. -/
  accepted : ∀ v, d.returned = some v → decoder v = .ok a
  /-- If nothing is left, there is the default. -/
  missing : d.returned = none → default = some a

/-- A value is read back if what is left of it is accepted. -/
theorem Returns.of_returned {d v : Document} {decoder : Decoder α} {default : Option α} {a : α}
    (hreturned : d.returned = some v) (h : decoder v = .ok a) : d.Returns decoder default a := by
  refine ⟨fun v' hv' => ?_, fun hnone => ?_⟩
  · rw [hreturned] at hv'
    exact Option.some.inj hv' ▸ h
  · rw [hreturned] at hnone
    exact nomatch hnone

/-- A value that is always read back is left. -/
theorem Returns.exists {d : Document} {decoder : Decoder α} {a : α} (h : d.Returns decoder none a) :
    ∃ v, d.returned = some v ∧ decoder v = .ok a := by
  cases hreturned : d.returned with
  | none => exact nomatch h.missing hreturned
  | some v => exact ⟨v, rfl, h.accepted v hreturned⟩

end Document

/-- A field whose value is read as `a` is. -/
theorem Fields.Consistent.yields {α : Type} {f : Fields} (hf : f.Consistent) {n : String}
    {d : Document} {decoder : Decoder α} {default : Option α} {a : α} (hmem : (n, d) ∈ f)
    (h : d.Returns decoder default a) : f.returned.Yields n decoder default a := by
  have hlookup := hf.lookup_returned hmem
  exact ⟨fun v hv => h.accepted v (hlookup ▸ hv), fun hnone => h.missing (hlookup ▸ hnone)⟩

namespace Document

variable {α β : Type} {default : Option α}

/-- A text is read back. -/
theorem returns_text (s : String) (default : Option String) :
    (Document.text s).Returns Decoder.text default s := .of_returned rfl rfl

/-- A path is read back. -/
theorem returns_path (s : String) (default : Option String) :
    (Document.text s).Returns path default s := .of_returned rfl rfl

/-- A truth value is read back. -/
theorem returns_bool (b : Bool) (default : Option Bool) :
    (Document.bool b).Returns Decoder.bool default b := .of_returned rfl rfl

/-- A whole number is read back by a decoder that makes a value of it, if it is in the bounds. -/
theorem returns_integer {f : Int → α} {low high n : Int} {expected : String} {a : α}
    (hlow : low ≤ n) (hhigh : n ≤ high) (ha : f n = a) :
    (Document.integer n).Returns (fun d => (Decoder.integer low high expected d).map f) default
      a := by
  have hinteger : Decoder.integer low high expected (.integer n) = .ok n := if_pos ⟨hlow, hhigh⟩
  refine .of_returned rfl ?_
  show (Decoder.integer low high expected (.integer n)).map f = .ok a
  rw [hinteger, ← ha]
  rfl

/-- A signed number of 32 bits is read back. -/
theorem returns_int32 (n : Int32) (default : Option Int32) :
    (Document.integer n.toInt).Returns int32 default n :=
  returns_integer n.le_toInt (Int.le_of_lt_add_one n.toInt_lt) (Int32.ofInt_toInt n)

/-- A signed number of 64 bits is read back. -/
theorem returns_int64 (n : Int64) (default : Option Int64) :
    (Document.integer n.toInt).Returns int64 default n :=
  returns_integer n.le_toInt (Int.le_of_lt_add_one n.toInt_lt) (Int64.ofInt_toInt n)

/-- A number of 8 bits is read back. -/
theorem returns_uint8 (n : UInt8) (default : Option UInt8) :
    (Document.integer n.toNat).Returns uint8 default n :=
  returns_integer (Int.natCast_nonneg _) (by have := n.toNat_lt; omega) UInt8.ofNat_toNat

/-- A number of 32 bits is read back. -/
theorem returns_uint32 (n : UInt32) (default : Option UInt32) :
    (Document.integer n.toNat).Returns uint32 default n :=
  returns_integer (Int.natCast_nonneg _) (by have := n.toNat_lt; omega) UInt32.ofNat_toNat

/-- A number of 64 bits is read back. -/
theorem returns_uint64 (n : UInt64) (default : Option UInt64) :
    (Document.integer n.toNat).Returns uint64 default n :=
  returns_integer (Int.natCast_nonneg _) (by have := n.toNat_lt; omega) UInt64.ofNat_toNat

/-- The number of an item is read back. -/
theorem returns_index (n : UInt64) (default : Option UInt64) :
    (Document.integer n.toNat).Returns index default n :=
  returns_integer (Int.natCast_nonneg _) (by have := n.toNat_lt; omega) UInt64.ofNat_toNat

/-- What is left of a value is what was read again, without empty fields. -/
theorem dropNulls_of_returned {d v : Document} (h : d.returned = some v) :
    (Json.reread d).dropNulls = v := by
  unfold returned at h
  split at h
  next => exact nomatch h
  next => exact Option.some.inj h

/-- What is left of a value is not `null`. -/
theorem ne_null_of_returned {d v : Document} (h : d.returned = some v) : v ≠ .null := by
  unfold returned at h
  split at h
  next => exact nomatch h
  next hnull =>
    cases h
    intro hv
    cases hreread : Json.reread d with
    | null => exact hnull (by rw [hreread]; rfl)
    | _ => rw [hreread] at hv; exact nomatch hv

/-- A number that was written and read again is left. -/
theorem returned_of_number? {d v : Document} {s : List Char}
    (hreread : Json.reread d = Json.numberOf s) (h : Json.number? s = some v) :
    d.returned = some v := by
  have hv : Json.reread d = v := by
    rw [hreread, Json.numberOf, h]
    rfl
  unfold returned
  rw [hv]
  rcases Json.number?_cases h with ⟨n, rfl⟩ | ⟨x, rfl⟩ <;> rfl

/-- A number is read back when its digits are read as the number; without digits it is gone. -/
theorem returns_number {d : Document} {s digits : List Char} {finite : Bool} {decoder : Decoder α}
    {usual a : α} (hreread : Json.reread d = Json.numberOf s)
    (hs : s = if finite then digits else ['n', 'u', 'l', 'l'])
    (h : finite = true → (Json.number? s).bind (fun v => (decoder v).toOption) = some a) :
    d.Returns decoder (some usual) (if finite then a else usual) := by
  cases finite with
  | true =>
    obtain ⟨v, hv, ha⟩ := Option.bind_eq_some_iff.1 (h rfl)
    exact .of_returned (returned_of_number? hreread hv) (eq_ok_of_toOption ha)
  | false =>
    have hgone : d.returned = none := by
      unfold returned
      rw [hreread, hs]
      rfl
    refine ⟨fun v hv => ?_, fun _ => rfl⟩
    rw [hgone] at hv
    exact nomatch hv

/-- A number in double precision is read back, or its default if it is not finite. -/
theorem returns_float {x : Float} (usual : Float)
    (h : x.isFinite = true → Json.rereadDouble x = some x) :
    (Document.float x).Returns float64 (some usual) (if x.isFinite then x else usual) :=
  returns_number rfl rfl h

/-- So is a number in single precision. -/
theorem returns_single {x : Float32} (usual : Float32)
    (h : x.isFinite = true → Json.rereadSingle x = some x) :
    (Document.single x).Returns float32 (some usual) (if x.isFinite then x else usual) :=
  returns_number rfl rfl h

/-- A moment that can be read is read back. -/
theorem returns_moment {m : Moment} (hm : m.IsReal) (default : Option Moment) :
    (Document.text m.text).Returns moment default m := by
  have hmoment : moment (.text m.text) = .ok m := by
    unfold moment
    dsimp only
    rw [Moment.ofText_text hm]
  exact .of_returned rfl hmoment

/-- A value that may be missing is read back; a missing one is the default. -/
theorem returns_option {f : β → Document} {decoder : Decoder β} (b : Option β)
    (h : ∀ x, b = some x → (f x).Returns decoder none x) :
    (ofOption f b).Returns (option decoder) (some none) b := by
  cases b with
  | none => exact ⟨nofun, fun _ => rfl⟩
  | some x =>
    obtain ⟨v, hreturned, hdecoder⟩ := (h x rfl).exists
    refine .of_returned hreturned ?_
    unfold option
    split
    next => exact absurd rfl (ne_null_of_returned hreturned)
    next => rw [hdecoder]; rfl

/-- The items of a list are read back one by one. -/
theorem returns_list {γ : Type} {f : γ → Document} {g : γ → α} {decoder : Decoder α}
    (cs : List γ) (h : ∀ c ∈ cs, (f c).Returns decoder none (g c)) (default : Option (List α)) :
    (Document.list (cs.map f)).Returns (Decoder.list decoder) default (cs.map g) := by
  have hitems : Decoder.items decoder (dropNullItems (Json.rereadItems (cs.map f))) =
      .ok (cs.map g) := by
    induction cs with
    | nil => rfl
    | cons c rest ih =>
      obtain ⟨hc, hrest⟩ := List.forall_mem_cons.1 h
      have hitem : decoder (Json.reread (f c)).dropNulls = .ok (g c) := by
        obtain ⟨v, hv, hdecoder⟩ := hc.exists
        rw [dropNulls_of_returned hv]
        exact hdecoder
      show Decoder.items decoder
        ((Json.reread (f c)).dropNulls :: dropNullItems (Json.rereadItems (rest.map f))) = _
      unfold Decoder.items
      rw [hitem, ih hrest]
      rfl
  exact .of_returned rfl hitems

/-- So they are when each is read back as itself. -/
theorem returns_list_self {f : α → Document} {decoder : Decoder α} (as : List α)
    (h : ∀ a ∈ as, (f a).Returns decoder none a) (default : Option (List α)) :
    (Document.list (as.map f)).Returns (Decoder.list decoder) default as := by
  have hlist := returns_list (g := id) as h default
  rw [List.map_id] at hlist
  exact hlist

/-- A record is read back when its decoder reads back its fields. -/
theorem returns_record {f : Fields} {decoder : Decoder α} {a : α}
    (h : decoder (.record f.returned) = .ok a) (default : Option α) :
    (Document.record f).Returns decoder default a := .of_returned rfl h

/-! ## Values that can be read again -/

section

variable {room : Nat}

/-- A text can be read again. -/
theorem readable_text (s : String) : Json.Readable room (.text s) := trivial

/-- A natural number of 64 bits can be read again. -/
theorem readable_natural {n : Nat} (h : n < Json.wordLimit) : Json.Readable room (.integer n) :=
  ⟨by omega, Int.ofNat_lt.2 h⟩

/-- A signed number of 32 bits can be read again. -/
theorem readable_int32 (n : Int32) : Json.Readable room (.integer n.toInt) := by
  have hlow := n.le_toInt
  have hhigh := n.toInt_lt
  exact ⟨by omega, by omega⟩

/-- A signed number of 64 bits can be read again. -/
theorem readable_int64 (n : Int64) : Json.Readable room (.integer n.toInt) := by
  have hlow := n.le_toInt
  have hhigh := n.toInt_lt
  exact ⟨by omega, by omega⟩

/-- A natural number of 32 bits can be read again. -/
theorem readable_uint32 (n : UInt32) : Json.Readable room (.integer n.toNat) :=
  readable_natural (Nat.lt_trans n.toNat_lt (by decide))

/-- A natural number of 64 bits can be read again. -/
theorem readable_uint64 (n : UInt64) : Json.Readable room (.integer n.toNat) :=
  readable_natural n.toNat_lt

/-- A number in double precision can be read again if its digits are read as the number. -/
theorem readable_float {x : Float} (h : x.isFinite = true → Json.rereadDouble x = some x) :
    Json.Readable room (.float x) := by
  intro hfinite
  obtain ⟨d, hd, -⟩ := Option.bind_eq_some_iff.1 (h hfinite)
  exact Option.isSome_iff_exists.2 ⟨d, hd⟩

/-- So can a number in single precision. -/
theorem readable_single {x : Float32} (h : x.isFinite = true → Json.rereadSingle x = some x) :
    Json.Readable room (.single x) := by
  intro hfinite
  obtain ⟨d, hd, -⟩ := Option.bind_eq_some_iff.1 (h hfinite)
  exact Option.isSome_iff_exists.2 ⟨d, hd⟩

/-- A value that may be missing can be read again. -/
theorem readable_option {f : α → Document} (h : ∀ a, Json.Readable room (f a)) (a : Option α) :
    Json.Readable room (ofOption f a) := by
  cases a with
  | none => trivial
  | some a => exact h a

/-- A list can be read again if its items can, where there is room for one more. -/
theorem readable_list {f : α → Document} {as : List α} (h : ∀ a ∈ as, Json.Readable room (f a)) :
    Json.Readable (room + 1) (.list (as.map f)) := by
  refine ⟨Nat.succ_pos room, ?_⟩
  show Json.ReadableItems room (as.map f)
  induction as with
  | nil => trivial
  | cons a rest ih =>
    obtain ⟨ha, hrest⟩ := List.forall_mem_cons.1 h
    exact ⟨ha, ih hrest⟩

end

end Document

end Autoplay
