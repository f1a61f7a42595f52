import Mathlib.Data.List.Forall2
import Mathlib.Data.Option.Basic
import SessionMonitor.Json.Reader
import SessionMonitor.Proofs.Json.Document
import SessionMonitor.Proofs.Session.Naming

/-!
# Fields of records in documents

What the readers of texts, words, measures, lists and fields make of every document that a value
may be written as.
-/

namespace SessionMonitor.Json

/-- The reader makes `a` of every document that the value may be written as. -/
def Reads {α : Type} (read : Draft → Option α) (value : Json) (a : α) : Prop :=
  ∀ d, value.WrittenAs d → read d = some a

/-- The slot of a field holds a document of the value of the field, if it has one. -/
def Fills : Option Json → Option Draft → Prop :=
  Option.Rel WrittenAs

variable {α : Type} {read : Draft → Option α} {value : Json} {a : α} {fields : Fields}

/-! ### Single values -/

theorem reads_text (s : String) : Reads Draft.text? (.string s) s := by
  intro d written
  cases written
  rfl

theorem reads_optionalText (text : Option String) :
    Reads Draft.optionalText? (.ofOption text) text := by
  intro d written
  cases text <;> cases written <;> rfl

theorem reads_word (word : UInt64) : Reads Draft.word? (.ofNat word.toNat) word := by
  intro d written
  cases written with
  | number _ =>
    show (Number.integer word.toNat).word? = some word
    exact Row.number_word?_eq_some_iff.mpr rfl
  | nothing infinite => exact absurd trivial infinite

theorem reads_float {x : Float} (finite : x.isFinite = true) :
    Reads Draft.float? (.number (.double x)) x := by
  intro d written
  cases written with
  | number _ => rfl
  | nothing infinite => exact absurd finite infinite

theorem reads_value (canonical : value.Canonical) : Reads Draft.value? value value :=
  fun _ => value?_of_writtenAs canonical

theorem reads_anyFields (canonical : (object fields).Canonical) :
    Reads Draft.anyFields? (.object fields) fields := by
  intro d written
  have whole := value?_of_writtenAs canonical written
  cases written with
  | object each order =>
    rw [Draft.value?, Option.map_eq_some_iff] at whole
    obtain ⟨found, read, same⟩ := whole
    rw [Draft.anyFields?, read, Option.map_some, (object.inj same)]

theorem reads_list {json : α → Json} {items : List α} (each : ∀ a ∈ items, Reads read (json a) a) :
    Reads (Draft.list? read) (.array (items.map json)) items := by
  intro d written
  cases written with
  | @array _ drafts written =>
    show drafts.mapM read = some items
    induction items generalizing drafts with
    | nil =>
      cases written
      rfl
    | cons item rest ih =>
      obtain ⟨head, tail⟩ := List.forall_mem_cons.mp each
      cases written with
      | cons first later => simp [head _ first, ih tail later]

/-! ### Fields by name -/

variable {drafts shuffled : List (String × Draft)}

theorem keys_of_fieldsWrittenAs (each : FieldsWrittenAs fields drafts) :
    drafts.map Prod.fst = fields.map Prod.fst := by
  induction fields generalizing drafts with
  | nil =>
    cases each
    rfl
  | cons field rest ih =>
    cases each with
    | cons _ later => rw [List.map_cons, List.map_cons, ih later]

theorem field?_perm (distinct : (drafts.map Prod.fst).Nodup) (order : shuffled.Perm drafts)
    (name : String) : Draft.field? shuffled name = Draft.field? drafts name := by
  have same := order.filter fun field => field.1 = name
  have keys := (List.filter_sublist (p := fun field => decide (field.1 = name)).map Prod.fst).nodup
    distinct
  have named (field : String × Draft) (mem : field ∈ drafts.filter (·.1 = name)) :
      field.1 = name := by simpa using (List.mem_filter.mp mem).2
  unfold Draft.field?
  rcases found : drafts.filter (·.1 = name) with _ | ⟨first, _ | ⟨second, rest⟩⟩
  · rw [found] at same
    rw [same.eq_nil, found]
  · rw [found] at same
    rw [same.eq_singleton, found]
  · rw [found] at keys named
    have repeated : first.1 = second.1 := by
      rw [named first (by simp), named second (by simp)]
    simp [repeated] at keys

theorem field?_of_fieldsWrittenAs (distinct : (fields.map Prod.fst).Nodup)
    (each : FieldsWrittenAs fields drafts) (name : String) :
    ∃ slot, Draft.field? drafts name = some slot ∧ Fills (fields.get? name) slot := by
  induction fields generalizing drafts with
  | nil =>
    cases each
    exact ⟨none, rfl, .none⟩
  | cons field rest ih =>
    cases each with
    | @cons key value draft _ drafts first later =>
      obtain ⟨fresh, distinct⟩ := List.nodup_cons.mp distinct
      by_cases same : key = name
      · subst same
        have alone : drafts.filter (·.1 = key) = [] := by
          rw [List.filter_eq_nil_iff]
          intro field mem named
          refine fresh (keys_of_fieldsWrittenAs later ▸ ?_)
          exact List.mem_map.mpr ⟨field, mem, by simpa using named⟩
        refine ⟨some draft, by simp [Draft.field?, alone], ?_⟩
        rw [Fields.get?, List.lookup_cons_self]
        exact .some first
      · obtain ⟨slot, found, fills⟩ := ih distinct later
        refine ⟨slot, by simpa [Draft.field?, same] using found, ?_⟩
        rw [Fields.get?, List.lookup_cons, beq_eq_false_iff_ne.mpr (Ne.symm same)]
        exact fills

/-- A document has a slot for every name, filled by the field of that name if there is one. -/
structure Slots (fields : Fields) (d : Draft) (slot : String → Option Draft) : Prop where
  fills : ∀ name, Fills (fields.get? name) (slot name)
  slots? : ∀ names : List String, d.slots? names = some (names.map slot)

theorem exists_slots {d : Draft} (written : (object fields).WrittenAs d)
    (distinct : (fields.map Prod.fst).Nodup) : ∃ slot, Slots fields d slot := by
  cases written with
  | @object _ drafts shuffled each order =>
    have keys : (drafts.map Prod.fst).Nodup := keys_of_fieldsWrittenAs each ▸ distinct
    choose slot found fills using field?_of_fieldsWrittenAs distinct each
    refine ⟨slot, fills, fun names => ?_⟩
    show names.mapM (Draft.field? shuffled) = _
    induction names with
    | nil => rfl
    | cons name rest ih => simp [field?_perm keys order, found, ih]

namespace Slots

variable {d : Draft} {slot : String → Option Draft}

theorem required (slots : Slots fields d slot) (name : String) (reads : Reads read value a)
    (holds : fields.get? name = some value) : Draft.required read (slot name) = some a := by
  have fills := slots.fills name
  rw [holds] at fills
  generalize slot name = given at fills ⊢
  cases fills with
  | some written => exact reads _ written

theorem defaulted (slots : Slots fields d slot) (name : String) (reads : Reads read value a)
    (holds : fields.get? name = some value) (default : α) :
    Draft.defaulted default read (slot name) = some a := by
  have fills := slots.fills name
  rw [holds] at fills
  generalize slot name = given at fills ⊢
  cases fills with
  | some written => exact reads _ written

theorem missing (slots : Slots fields d slot) (name : String) (holds : fields.get? name = none) :
    slot name = none := by
  have fills := slots.fills name
  rw [holds] at fills
  generalize slot name = given at fills ⊢
  cases fills
  rfl

theorem field? {drafts : List (String × Draft)} (slots : Slots fields (.object drafts) slot)
    (name : String) : Draft.field? drafts name = some (slot name) := by
  simpa [Draft.slots?, Option.bind_eq_some_iff] using slots.slots? [name]

theorem optionalText (slots : Slots fields d slot) (name : String) (text : Option String)
    (holds : fields.get? name = text.map .string) :
    Draft.defaulted none Draft.optionalText? (slot name) = some text := by
  cases text with
  | none => rw [slots.missing name holds, Draft.defaulted]
  | some s => exact slots.defaulted name (reads_optionalText (some s)) holds none

end Slots

end SessionMonitor.Json
