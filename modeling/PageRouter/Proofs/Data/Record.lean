import Mathlib.Logic.Relation
import PageRouter.Data.Value

/-!
# Records as tables

A record is read from a table key by key: each of its fields is read from what stands under one key, or
from nothing if nothing stands there.  `IsRecordReader` says this of a reader, and nothing else about
readers is used here.

`TableEdit` is one edit of a table, within a `Leeway`: a key is taken out, a key that the record does not
have is put in, a null is put in, or what stands under a key is edited.  A leeway `Keeps` a record if
each of these leaves what is read for every field as it is.  Then the record is read from the table after
an edit if it was read before (`IsRecordReader.of_edit`), and so after any number of edits
(`IsRecordReader.of_edits`).

A record whose fields all have defaults (`IsDefaulted`) is kept if only such keys are taken out under
which the same is written for the defaults (`IsDefaulted.keeps`).
-/

set_option autoImplicit false

namespace PageRouter.Data

namespace Value

/-! ## Looking up keys -/

@[simp]
theorem lookup_nil (key : String) : lookup [] key = none := by simp [lookup]

theorem lookup_cons (k : String) (v : Value) (fields : List (String × Value)) (key : String) :
    lookup ((k, v) :: fields) key = if k = key then some v else lookup fields key := by
  by_cases h : k = key <;> simp [lookup, h]

theorem lookup_append (before after : List (String × Value)) (key : String) :
    lookup (before ++ after) key = (lookup before key).or (lookup after key) := by
  simp only [lookup, List.find?_append, Option.map_or]

/-- A field is found under its key, unless one of the same key stands before it. -/
theorem lookup_append_cons_self (before after : List (String × Value)) (key : String) (v : Value) :
    lookup (before ++ (key, v) :: after) key = (lookup before key).or (some v) := by
  rw [lookup_append, lookup_cons, if_pos rfl]

theorem lookup_append_cons_of_ne {k key : String} (h : k ≠ key)
    (before after : List (String × Value)) (v : Value) :
    lookup (before ++ (k, v) :: after) key = lookup (before ++ after) key := by
  rw [lookup_append, lookup_cons, if_neg h, lookup_append]

/-- The fields of a table without those of one key. -/
def without (fields : List (String × Value)) (key : String) : List (String × Value) :=
  fields.filter (·.1 != key)

theorem lookup_without_self (fields : List (String × Value)) (key : String) :
    lookup (without fields key) key = none := by
  simp [lookup, without]

theorem lookup_without_of_ne {key k : String} (h : k ≠ key) (fields : List (String × Value)) :
    lookup (without fields key) k = lookup fields k := by
  rw [lookup, lookup, without, List.find?_filter]
  congr 2
  funext field
  -- a field of the key that is looked up is none of those that were taken out
  by_cases hfield : field.1 = k <;> simp [hfield, h]

/-- The keys of a table. -/
def keys : Value → List String
  | .table fields => fields.map (·.1)
  | _ => []

/-- What stands under a key of a table. -/
def at? : Value → String → Option Value
  | .table fields, key => lookup fields key
  | _, _ => none

/-! ## Reading single values -/

@[simp]
theorem text?_eq_some_iff {v : Value} {s : String} : v.text? = some s ↔ v = .text s := by
  cases v <;> simp [text?]

@[simp]
theorem bool?_eq_some_iff {v : Value} {b : Bool} : v.bool? = some b ↔ v = .bool b := by
  cases v <;> simp [bool?]


/-- A list is read item by item. -/
theorem list?_eq_some_iff {α : Type} {read : Value → Option α} {items : List Value}
    {as : List α} : list? read (.list items) = some as ↔ items.map read = as.map some := by
  rw [list?]
  induction items generalizing as with
  | nil => cases as <;> simp
  | cons v items ih =>
    simp only [List.mapM_cons, Option.bind_eq_bind, Option.pure_def, Option.bind_eq_some_iff, ih]
    cases as <;> simp

/-- An item of a list can be replaced by one that is read in the same way. -/
theorem list?_set {α : Type} {read : Value → Option α} {items : List Value} {as : List α}
    {i : Nat} {a : α} {v : Value} (h : list? read (.list items) = some as) (ha : as[i]? = some a)
    (hv : read v = some a) : list? read (.list (items.set i v)) = some as := by
  obtain ⟨hi, rfl⟩ := List.getElem?_eq_some_iff.1 ha
  rw [list?_eq_some_iff] at h ⊢
  rw [List.map_set, h, hv, ← List.map_set, List.set_getElem_self]

end Value

open Value

variable {α : Type}

/-! ## Readers of records -/

/-- A field of a record: its key, how it is read from what stands under that key, and where the record
has it. -/
structure RecordField (α : Type) where
  {β : Type}
  key : String
  read : Option Value → Option β
  get : α → β

/-- A field that has a default. -/
def RecordField.withDefault {β : Type} (key : String) (read : Value → Option β) (get : α → β)
    (default : β) : RecordField α :=
  ⟨key, fun v? => v?.elim (some default) read, get⟩

/-- What stands under the key of a field gives what the record has there. -/
def RecordField.Gives (f : RecordField α) (a : α) (v? : Option Value) : Prop :=
  f.read v? = some (f.get a)

@[simp]
theorem RecordField.key_withDefault {β : Type} {key : String} {read : Value → Option β}
    {get : α → β} {default : β} : (withDefault key read get default).key = key := rfl

@[simp]
theorem RecordField.gives_withDefault {β : Type} {key : String} {read : Value → Option β}
    {get : α → β} {default : β} {a : α} {v? : Option Value} :
    (withDefault key read get default).Gives a v? ↔ v?.elim (some default) read = some (get a) :=
  .rfl

/-- A record is read from a table field by field. -/
def IsRecordReader (read : Value → Option α) (fs : List (RecordField α)) : Prop :=
  ∀ table a, read (.table table) = some a ↔ ∀ f ∈ fs, f.Gives a (lookup table f.key)

/-! ## Edits -/

/-- How the table of a record may be edited. -/
structure Leeway where
  /-- The keys of the record.  Any other key may be put in. -/
  known : List String
  /-- The keys that may be taken out. -/
  spare : String → Prop
  /-- The keys under which a null may stand, if nothing does. -/
  nullable : String → Prop := fun _ => False
  /-- The edits of what stands under a key. -/
  within : String → Value → Value → Prop := fun _ _ _ => False

/-- One edit of a table. -/
inductive TableEdit (w : Leeway) : Value → Value → Prop
  | takeOut {fields : List (String × Value)} {key : String} (h : w.spare key) :
    TableEdit w (.table fields) (.table (without fields key))
  | putIn {before after : List (String × Value)} {key : String} {v : Value} (h : key ∉ w.known) :
    TableEdit w (.table (before ++ after)) (.table (before ++ (key, v) :: after))
  | putNull {before after : List (String × Value)} {key : String} (h : w.nullable key)
    (habsent : lookup (before ++ after) key = none) :
    TableEdit w (.table (before ++ after)) (.table (before ++ (key, .null) :: after))
  | change {before after : List (String × Value)} {key : String} {v v' : Value}
    (h : w.within key v v') :
    TableEdit w (.table (before ++ (key, v) :: after)) (.table (before ++ (key, v') :: after))

/-- A leeway in which no edit changes what is read for the fields of a record. -/
structure Leeway.Keeps (w : Leeway) (fs : List (RecordField α)) (a : α) : Prop where
  known : ∀ f ∈ fs, f.key ∈ w.known
  spare : ∀ f ∈ fs, w.spare f.key → f.Gives a none
  nullable : ∀ f ∈ fs, w.nullable f.key → f.Gives a (some .null)
  within : ∀ f ∈ fs, ∀ v v', w.within f.key v v' → f.Gives a (some v) → f.Gives a (some v')

/-- **One edit leaves every field as it is.** -/
theorem Leeway.Keeps.gives {w : Leeway} {fs : List (RecordField α)} {a : α} (hw : w.Keeps fs a)
    {fields fields' : List (String × Value)}
    (hedit : TableEdit w (.table fields) (.table fields')) {f : RecordField α} (hf : f ∈ fs)
    (h : f.Gives a (lookup fields f.key)) : f.Gives a (lookup fields' f.key) := by
  cases hedit with
  | @takeOut _ key hspare =>
    by_cases hkey : f.key = key
    · subst hkey
      rw [lookup_without_self]
      exact hw.spare f hf hspare
    · rwa [lookup_without_of_ne hkey]
  | @putIn before after key v hknown =>
    have hkey : key ≠ f.key := fun heq => hknown (heq ▸ hw.known f hf)
    rwa [lookup_append_cons_of_ne hkey]
  | @putNull before after key hnull habsent =>
    by_cases hkey : key = f.key
    · subst hkey
      rw [lookup_append, Option.or_eq_none_iff] at habsent
      rw [lookup_append_cons_self, habsent.1]
      exact hw.nullable f hf hnull
    · rwa [lookup_append_cons_of_ne hkey]
  | @change before after key v v' hwithin =>
    by_cases hkey : key = f.key
    · subst hkey
      rw [lookup_append_cons_self] at h ⊢
      -- only the first field of a key is read
      cases hbefore : lookup before f.key with
      | some u => rwa [hbefore] at h
      | none =>
        rw [hbefore] at h
        exact hw.within f hf v v' hwithin h
    · rw [lookup_append_cons_of_ne hkey] at h ⊢
      exact h

variable {read : Value → Option α} {fs : List (RecordField α)} {w : Leeway} {a : α}
  {v v' : Value}

theorem IsRecordReader.of_edit (hread : IsRecordReader read fs) (hw : w.Keeps fs a)
    (hedit : TableEdit w v v') (h : read v = some a) : read v' = some a := by
  obtain ⟨fields, rfl⟩ : ∃ fields, v = .table fields := by cases hedit <;> exact ⟨_, rfl⟩
  obtain ⟨fields', rfl⟩ : ∃ fields', v' = .table fields' := by cases hedit <;> exact ⟨_, rfl⟩
  rw [hread] at h ⊢
  exact fun f hf => hw.gives hedit hf (h f hf)

/-- **What is read from a table is read from it after any number of edits.** -/
theorem IsRecordReader.of_edits (hread : IsRecordReader read fs) (hw : w.Keeps fs a)
    (hedits : Relation.ReflTransGen (TableEdit w) v v') (h : read v = some a) :
    read v' = some a := by
  induction hedits with
  | refl => exact h
  | tail _ hedit ih => exact hread.of_edit hw hedit ih

/-! ## Records with defaults -/

/-- A record all of whose fields have defaults, and which is written with all of them. -/
structure IsDefaulted (read : Value → Option α) (write : α → Value) (fs : List (RecordField α))
    (default : α) : Prop where
  reader : IsRecordReader read fs
  isTable : ∀ a, ∃ fields, write a = .table fields
  read_write : ∀ a, read (write a) = some a
  read_nil : read (.table []) = some default
  known : ∀ f ∈ fs, f.key ∈ (write default).keys

/-- The leeway of such a record: a key can be left out if the same is written there for the defaults. -/
def Leeway.ofDefaults (written defaults : Value) (within : String → Value → Value → Prop) :
    Leeway where
  known := defaults.keys
  spare key := written.at? key = defaults.at? key
  within := within

variable {write : α → Value} {default : α}

/-- **A field need not be written if the same is written for its default.** -/
theorem IsDefaulted.gives_none (h : IsDefaulted read write fs default) {f : RecordField α}
    (hf : f ∈ fs) (heq : (write a).at? f.key = (write default).at? f.key) : f.Gives a none := by
  have hwritten := h.read_write a
  have hdefaults := h.read_write default
  obtain ⟨written, hw⟩ := h.isTable a
  obtain ⟨defaults, hd⟩ := h.isTable default
  rw [hw, h.reader] at hwritten
  rw [hd, h.reader] at hdefaults
  have hsame : lookup written f.key = lookup defaults f.key := by rwa [hw, hd] at heq
  have hget : f.get a = f.get default := by
    have hgives := hwritten f hf
    rw [hsame] at hgives
    exact Option.some.inj (hgives.symm.trans (hdefaults f hf))
  have hnone : f.Gives default none := (h.reader _ _).1 h.read_nil f hf
  rwa [RecordField.Gives, ← hget] at hnone

/-- What is left to show of the leeway of such a record is about the edits of what stands under its
keys. -/
theorem IsDefaulted.keeps (h : IsDefaulted read write fs default)
    {within : String → Value → Value → Prop}
    (hwithin : ∀ f ∈ fs, ∀ v v', within f.key v v' → f.Gives a (some v) → f.Gives a (some v')) :
    (Leeway.ofDefaults (write a) (write default) within).Keeps fs a where
  known := h.known
  spare _ hf heq := h.gives_none hf heq
  nullable _ _ h := h.elim
  within := hwithin

/-- A record whose fields are not edited in place is read after an edit. -/
theorem IsDefaulted.of_edit (h : IsDefaulted read write fs default)
    (hedit : TableEdit (.ofDefaults (write a) (write default) fun _ _ _ => False) v v')
    (hv : read v = some a) : read v' = some a :=
  h.reader.of_edit (h.keeps fun _ _ _ _ h => h.elim) hedit hv

end PageRouter.Data
