import SessionMonitor.Proofs.Decimal.Wording

/-!
# Texts on one line

A text with neither a line feed nor a carriage return. The compact text of a value is one: a string
is written with its control characters escaped, and nothing else that is written has any.
-/

namespace SessionMonitor

namespace Text

def OneLine (s : String) : Prop :=
  '\n' ∉ s.toList ∧ '\r' ∉ s.toList

instance (s : String) : Decidable (OneLine s) :=
  inferInstanceAs (Decidable (_ ∧ _))

theorem mem_intercalate_iff {c : Char} {separator : String} (absent : c ∉ separator.toList)
    (parts : List String) :
    c ∈ (String.intercalate separator parts).toList ↔ ∃ part ∈ parts, c ∈ part.toList := by
  induction parts with
  | nil => simp
  | cons first rest ih =>
    cases rest with
    | nil => simp
    | cons next rest =>
      rw [String.intercalate_cons_cons, String.toList_append, String.toList_append, List.mem_append,
        List.mem_append, or_iff_left absent, ih]
      simp only [List.mem_cons, exists_eq_or_imp]

theorem oneLine_iff_of_mem {s : String} {parts : List String}
    (same : ∀ c : Char, c.toNat < 0x20 → (c ∈ s.toList ↔ ∃ part ∈ parts, c ∈ part.toList)) :
    OneLine s ↔ ∀ part ∈ parts, OneLine part := by
  rw [OneLine, same '\n' (by decide), same '\r' (by decide)]
  simp only [OneLine, not_exists, not_and, forall_and]

/-! ### Control characters -/

/-- None of the control characters at the beginning of ASCII. -/
def Uncontrolled (s : List Char) : Prop :=
  ∀ c ∈ s, 0x20 ≤ c.toNat

instance (s : List Char) : Decidable (Uncontrolled s) :=
  decidable_of_decidable_of_iff (p := s.all (fun c => decide (0x20 ≤ c.toNat)) = true)
    (by simp [Uncontrolled])

theorem uncontrolled_append {s t : List Char} :
    Uncontrolled (s ++ t) ↔ Uncontrolled s ∧ Uncontrolled t :=
  List.forall_mem_append

theorem uncontrolled_of_plain {s : List Char} (plain : Decimal.Plain s) : Uncontrolled s :=
  fun c member => (plain c member).1.le

theorem Uncontrolled.notMem {s : List Char} {c : Char} (uncontrolled : Uncontrolled s)
    (control : c.toNat < 0x20) : c ∉ s :=
  fun member => absurd (uncontrolled c member) (Nat.not_le.mpr control)

theorem uncontrolled_toString (n : Nat) : Uncontrolled (toString n).toList := by
  rw [Nat.toString_eq_repr, Nat.toList_repr]
  exact uncontrolled_of_plain (Decimal.plain_digitsOf n)

end Text

/-! ### Values -/

namespace Json

open Text (Uncontrolled uncontrolled_append)

theorem uncontrolled_escapeChar (c : Char) : Uncontrolled (escapeChar c) := by
  have codes : ∀ code < 0x20, Uncontrolled (['\\', 'u'] ++ controlDigits code) := by decide
  unfold escapeChar
  iterate 7 (split; · decide)
  split
  · rename_i control
    exact codes c.toNat control
  · rename_i control
    intro other member
    rw [List.mem_singleton.mp member]
    exact Nat.not_lt.mp control

theorem uncontrolled_writeString (s : String) : Uncontrolled (writeString s) := by
  rw [writeString, uncontrolled_append, uncontrolled_append]
  refine ⟨⟨by decide, fun c member => ?_⟩, by decide⟩
  obtain ⟨source, -, escaped⟩ := List.mem_flatMap.mp member
  exact uncontrolled_escapeChar source c escaped

theorem Number.plain_text (n : Number) : Decimal.Plain n.text.toList := by
  cases n with
  | integer value =>
    rw [text, String.toList_ofList, Decimal.plain_append]
    refine ⟨?_, Decimal.plain_digitsOf _⟩
    split <;> decide
  | double x =>
    unfold text
    dsimp only
    split
    · rename_i written
      rw [String.toList_ofList]
      exact (Decimal.marked_write? written).1
    · decide

mutual

theorem uncontrolled_write : ∀ value : Json, Uncontrolled value.write
  | null => by decide
  | bool true => by decide
  | bool false => by decide
  | number n => Text.uncontrolled_of_plain n.plain_text
  | string s => uncontrolled_writeString s
  | array items => by
    rw [write, uncontrolled_append, uncontrolled_append]
    exact ⟨⟨by decide, uncontrolled_writeItems items⟩, by decide⟩
  | object fields => by
    rw [write, uncontrolled_append, uncontrolled_append]
    exact ⟨⟨by decide, uncontrolled_writeFields fields⟩, by decide⟩

theorem uncontrolled_writeItems : ∀ items : List Json, Uncontrolled (writeItems items)
  | [] => List.forall_mem_nil _
  | [item] => uncontrolled_write item
  | item :: next :: rest => by
    rw [writeItems, uncontrolled_append, uncontrolled_append]
    exact ⟨⟨uncontrolled_write item, by decide⟩, uncontrolled_writeItems (next :: rest)⟩

theorem uncontrolled_writeFields :
    ∀ fields : List (String × Json), Uncontrolled (writeFields fields)
  | [] => List.forall_mem_nil _
  | [(key, value)] => by
    rw [writeFields, uncontrolled_append, uncontrolled_append]
    exact ⟨⟨uncontrolled_writeString key, by decide⟩, uncontrolled_write value⟩
  | (key, value) :: next :: rest => by
    rw [writeFields, uncontrolled_append, uncontrolled_append, uncontrolled_append,
      uncontrolled_append]
    exact ⟨⟨⟨⟨uncontrolled_writeString key, by decide⟩, uncontrolled_write value⟩, by decide⟩,
      uncontrolled_writeFields (next :: rest)⟩

end

theorem uncontrolled_compact (value : Json) : Uncontrolled value.compact.toList := by
  rw [compact, String.toList_ofList]
  exact value.uncontrolled_write

end Json

end SessionMonitor
