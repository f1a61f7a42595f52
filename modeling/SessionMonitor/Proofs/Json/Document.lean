import SessionMonitor.Json.Draft
import SessionMonitor.Proofs.Json.Fields

/-!
# Documents that hold a value

A value may be written with the fields of its objects in any order. Whatever the order, what is
read from the document is the value again, if it is in the form in which values are kept.
-/

namespace SessionMonitor.Json

/-- A number that has a text. -/
def Number.Finite : Number → Prop
  | .integer _ => True
  | .double x => x.isFinite = true

mutual

/-- The form in which values are kept: numbers have texts, and the keys of an object increase, as
setting its fields one by one leaves them. -/
def Canonical : Json → Prop
  | null => True
  | bool _ => True
  | number n => n.Finite
  | string _ => True
  | array items => CanonicalItems items
  | object fields => Fields.Ascending fields ∧ CanonicalFields fields

def CanonicalItems : List Json → Prop
  | [] => True
  | item :: rest => Canonical item ∧ CanonicalItems rest

def CanonicalFields : List (String × Json) → Prop
  | [] => True
  | (_, value) :: rest => Canonical value ∧ CanonicalFields rest

end

theorem canonicalItems_iff {items : List Json} :
    CanonicalItems items ↔ ∀ item ∈ items, item.Canonical := by
  induction items with
  | nil => simp [CanonicalItems]
  | cons item rest ih => simp [CanonicalItems, ih]

theorem canonicalFields_iff {fields : List (String × Json)} :
    CanonicalFields fields ↔ ∀ field ∈ fields, field.2.Canonical := by
  induction fields with
  | nil => simp [CanonicalFields]
  | cons field rest ih => simp [CanonicalFields, ih]

mutual

/-- The documents that a value may be written as. -/
inductive WrittenAs : Json → Draft → Prop where
  | null : WrittenAs .null .null
  | bool (b : Bool) : WrittenAs (.bool b) (.bool b)
  | number {n : Number} (finite : n.Finite) : WrittenAs (.number n) (.number n)
  /-- A number without a text is written as nothing. -/
  | nothing {n : Number} (infinite : ¬ n.Finite) : WrittenAs (.number n) .null
  | string (s : String) : WrittenAs (.string s) (.string s)
  | array {items : List Json} {drafts : List Draft} (each : ItemsWrittenAs items drafts) :
    WrittenAs (.array items) (.array drafts)
  | object {fields : Fields} {drafts shuffled : List (String × Draft)}
    (each : FieldsWrittenAs fields drafts) (order : shuffled.Perm drafts) :
    WrittenAs (.object fields) (.object shuffled)

inductive ItemsWrittenAs : List Json → List Draft → Prop where
  | nil : ItemsWrittenAs [] []
  | cons {item : Json} {draft : Draft} {items : List Json} {drafts : List Draft}
    (first : WrittenAs item draft) (rest : ItemsWrittenAs items drafts) :
    ItemsWrittenAs (item :: items) (draft :: drafts)

inductive FieldsWrittenAs : List (String × Json) → List (String × Draft) → Prop where
  | nil : FieldsWrittenAs [] []
  | cons {key : String} {value : Json} {draft : Draft} {fields : List (String × Json)}
    {drafts : List (String × Draft)}
    (first : WrittenAs value draft) (rest : FieldsWrittenAs fields drafts) :
    FieldsWrittenAs ((key, value) :: fields) ((key, draft) :: drafts)

end

/-! ### Every value can be written -/

mutual

theorem exists_writtenAs : ∀ value : Json, ∃ d, value.WrittenAs d
  | null => ⟨_, .null⟩
  | bool b => ⟨_, .bool b⟩
  | number n => by
    by_cases finite : n.Finite
    · exact ⟨_, .number finite⟩
    · exact ⟨_, .nothing finite⟩
  | string s => ⟨_, .string s⟩
  | array items =>
    have ⟨_, each⟩ := exists_itemsWrittenAs items
    ⟨_, .array each⟩
  | object fields =>
    have ⟨_, each⟩ := exists_fieldsWrittenAs fields
    ⟨_, .object each (.refl _)⟩

theorem exists_itemsWrittenAs : ∀ items : List Json, ∃ drafts, ItemsWrittenAs items drafts
  | [] => ⟨_, .nil⟩
  | item :: rest =>
    have ⟨_, first⟩ := exists_writtenAs item
    have ⟨_, each⟩ := exists_itemsWrittenAs rest
    ⟨_, .cons first each⟩

theorem exists_fieldsWrittenAs :
    ∀ fields : List (String × Json), ∃ drafts, FieldsWrittenAs fields drafts
  | [] => ⟨_, .nil⟩
  | (_, value) :: rest =>
    have ⟨_, first⟩ := exists_writtenAs value
    have ⟨_, each⟩ := exists_fieldsWrittenAs rest
    ⟨_, .cons first each⟩

end

/-! ### What is read from a document -/

namespace Draft

theorem fieldValues?_perm {drafts shuffled : List (String × Draft)} (order : shuffled.Perm drafts)
    {fields : List (String × Json)} (read : fieldValues? drafts = some fields) :
    ∃ found, fieldValues? shuffled = some found ∧ found.Perm fields := by
  induction order generalizing fields with
  | nil => exact ⟨fields, read, .refl _⟩
  | cons field _ ih =>
    simp only [fieldValues?, bind, pure, Option.bind_eq_some_iff, Option.some.injEq] at read ⊢
    obtain ⟨value, first, rest, later, rfl⟩ := read
    obtain ⟨found, read, order⟩ := ih later
    exact ⟨_, ⟨value, first, found, read, rfl⟩, order.cons _⟩
  | swap second first rest =>
    simp only [fieldValues?, bind, pure, Option.bind_eq_some_iff, Option.some.injEq] at read ⊢
    obtain ⟨_, one, _, ⟨_, two, rest, later, rfl⟩, rfl⟩ := read
    exact ⟨_, ⟨_, two, _, ⟨_, one, rest, later, rfl⟩, rfl⟩, .swap _ _ _⟩
  | trans _ _ ih₁ ih₂ =>
    obtain ⟨middle, read, order⟩ := ih₂ read
    obtain ⟨found, read, before⟩ := ih₁ read
    exact ⟨found, read, before.trans order⟩

end Draft

open Draft

mutual

theorem value?_of_writtenAs {value : Json} {d : Draft} (canonical : value.Canonical)
    (written : value.WrittenAs d) : d.value? = some value := by
  cases written with
  | null => rfl
  | bool b => rfl
  | number finite => rfl
  | nothing infinite => exact absurd canonical infinite
  | string s => rfl
  | array each => rw [value?, values?_of_writtenAs canonical each]; rfl
  | object each order =>
    obtain ⟨ascending, canonical⟩ := canonical
    have inOrder := fieldValues?_of_writtenAs canonical each
    obtain ⟨found, read, order⟩ := fieldValues?_perm order inOrder
    rw [value?, read, Option.map_some, ascending.ofList_of_perm order]

theorem values?_of_writtenAs {items : List Json} {drafts : List Draft}
    (canonical : CanonicalItems items) (written : ItemsWrittenAs items drafts) :
    values? drafts = some items := by
  cases written with
  | nil => rfl
  | cons first rest =>
    rw [values?, value?_of_writtenAs canonical.1 first, values?_of_writtenAs canonical.2 rest]
    rfl

theorem fieldValues?_of_writtenAs {fields : List (String × Json)} {drafts : List (String × Draft)}
    (canonical : CanonicalFields fields) (written : FieldsWrittenAs fields drafts) :
    fieldValues? drafts = some fields := by
  cases written with
  | nil => rfl
  | cons first rest =>
    rw [fieldValues?, value?_of_writtenAs canonical.1 first,
      fieldValues?_of_writtenAs canonical.2 rest]
    rfl

end

/-! ### Values that are read -/

mutual

/-- All numbers of a document have texts. -/
def Draft.Finite : Draft → Prop
  | .refused => True
  | .null => True
  | .bool _ => True
  | .number n => n.Finite
  | .string _ => True
  | .array items => FiniteItems items
  | .object fields => FiniteFields fields

def Draft.FiniteItems : List Draft → Prop
  | [] => True
  | item :: rest => item.Finite ∧ FiniteItems rest

def Draft.FiniteFields : List (String × Draft) → Prop
  | [] => True
  | (_, item) :: rest => item.Finite ∧ FiniteFields rest

end

mutual

theorem canonical_of_value? : ∀ {d : Draft} {value : Json}, d.Finite → d.value? = some value →
    value.Canonical
  | .null, _, _, rfl => trivial
  | .bool _, _, _, rfl => trivial
  | .number _, _, finite, rfl => finite
  | .string _, _, _, rfl => trivial
  | .array _, _, finite, read => by
    obtain ⟨items, each, rfl⟩ := Option.map_eq_some_iff.mp read
    exact canonicalItems_of_values? finite each
  | .object _, _, finite, read => by
    obtain ⟨fields, each, rfl⟩ := Option.map_eq_some_iff.mp read
    have canonical := canonicalFields_iff.mp (canonicalFields_of_fieldValues? finite each)
    exact ⟨Fields.ascending_ofList fields,
      canonicalFields_iff.mpr (Fields.forall_mem_ofList canonical)⟩

theorem canonicalItems_of_values? : ∀ {drafts : List Draft} {items : List Json},
    FiniteItems drafts → values? drafts = some items → CanonicalItems items
  | [], _, _, rfl => trivial
  | _ :: _, _, finite, read => by
    simp only [values?, bind, pure, Option.bind_eq_some_iff, Option.some.injEq] at read
    obtain ⟨item, first, rest, later, rfl⟩ := read
    exact ⟨canonical_of_value? finite.1 first, canonicalItems_of_values? finite.2 later⟩

theorem canonicalFields_of_fieldValues? : ∀ {drafts : List (String × Draft)}
    {fields : List (String × Json)}, FiniteFields drafts → fieldValues? drafts = some fields →
    CanonicalFields fields
  | [], _, _, rfl => trivial
  | _ :: _, _, finite, read => by
    simp only [fieldValues?, bind, pure, Option.bind_eq_some_iff, Option.some.injEq] at read
    obtain ⟨value, first, rest, later, rfl⟩ := read
    exact ⟨canonical_of_value? finite.1 first, canonicalFields_of_fieldValues? finite.2 later⟩

end

end SessionMonitor.Json
