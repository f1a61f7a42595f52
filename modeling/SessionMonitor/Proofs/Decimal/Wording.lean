import SessionMonitor.Json.Value
import SessionMonitor.Proofs.Decimal.Words

/-!
# Texts that write no number

The text of a double has a point or an exponent, so it is no text of a word. Neither is the text of
an integer outside the words.
-/

namespace SessionMonitor.Decimal

open Text

variable {s digits : List Char} {n : Nat} {word : UInt64} {c : Char}

/-- A text without blanks at its ends that writes no number of 64 bits. -/
structure Wording (s : List Char) : Prop where
  ne_nil : s ≠ []
  trimmed : Trimmed s
  no_word : ∀ word : UInt64, ¬Writes s word.toNat

theorem trimmedWord?_of_wording {text : String} (wording : Wording text.toList) :
    trimmedWord? text = none := by
  cases found : trimmedWord? text with
  | none => rfl
  | some word => exact (wording.no_word word (trimmedWord?_eq_some_iff.mp found)).elim

/-- A printable character that no text of a word has. -/
def IsMark (c : Char) : Prop :=
  IsPlain c ∧ c ≠ '+' ∧ ¬('0' ≤ c ∧ c ≤ '9')

instance (c : Char) : Decidable (IsMark c) :=
  inferInstanceAs (Decidable (_ ∧ _))

theorem not_writes_of_mark (mark : IsMark c) (member : c ∈ s) : ¬Writes s n := by
  obtain ⟨plain, unsigned, undigit⟩ := mark
  rintro ⟨before, sign, digits, after, rfl, left, right, signed, written⟩
  have solid := isBlank_of_plain plain
  simp only [List.mem_append] at member
  rcases member with (member | member | member) | member
  · rw [left c member] at solid
    cases solid
  · rcases signed with rfl | rfl
    · cases member
    · exact unsigned (List.mem_singleton.mp member)
  · exact undigit (written.digits c member)
  · rw [right c member] at solid
    cases solid

def Plain (s : List Char) : Prop :=
  ∀ c ∈ s, IsPlain c

instance (s : List Char) : Decidable (Plain s) :=
  decidable_of_decidable_of_iff (p := s.all (fun c => decide (IsPlain c)) = true)
    (by simp [Plain])

theorem plain_append {first second : List Char} :
    Plain (first ++ second) ↔ Plain first ∧ Plain second :=
  List.forall_mem_append

theorem Plain.take (plain : Plain s) (n : Nat) : Plain (s.take n) :=
  fun c member => plain c (List.mem_of_mem_take member)

theorem Plain.drop (plain : Plain s) (n : Nat) : Plain (s.drop n) :=
  fun c member => plain c (List.mem_of_mem_drop member)

theorem Plain.trimmed (plain : Plain s) : Trimmed s :=
  trimmed_of_no_blank fun c member => isBlank_of_plain (plain c member)

/-- A text of printable characters with a mark among them. -/
def Marked (s : List Char) : Prop :=
  Plain s ∧ ∃ c ∈ s, IsMark c

instance (s : List Char) : Decidable (Marked s) :=
  decidable_of_decidable_of_iff
    (p := Plain s ∧ s.any (fun c => decide (IsMark c)) = true) (by simp [Marked])

theorem wording_of_marked (marked : Marked s) : Wording s := by
  obtain ⟨plain, c, member, mark⟩ := marked
  exact ⟨List.ne_nil_of_mem member, plain.trimmed, fun _ => not_writes_of_mark mark member⟩

theorem wording_enclosed {first last : Char} (mark : IsMark first) (plain : IsPlain last)
    (inner : List Char) : Wording ([first] ++ inner ++ [last]) where
  ne_nil := by simp
  trimmed := by
    constructor
    · intro c begins
      obtain rfl : first = c := by simpa using begins
      exact isBlank_of_plain mark.1
    · intro c ends
      rw [List.getLast?_concat] at ends
      obtain rfl := Option.some.inj ends
      exact isBlank_of_plain plain
  no_word _ := not_writes_of_mark mark (by simp)

theorem Marked.signed (marked : Marked s) (negative : Bool) :
    Marked ((if negative then ['-'] else []) ++ s) := by
  obtain ⟨plain, c, member, mark⟩ := marked
  refine ⟨plain_append.mpr ⟨?_, plain⟩, c, List.mem_append_right _ member, mark⟩
  split <;> decide

/-! ### Integers -/

theorem plain_digitsOf (n : Nat) : Plain (digitsOf n) :=
  fun c member => plain_of_digit ((digits_digitsOf n).digits c member)

theorem wording_digitsOf (large : UInt64.size ≤ n) : Wording (digitsOf n) where
  ne_nil := (digits_digitsOf n).ne_nil
  trimmed := (plain_digitsOf n).trimmed
  no_word := by
    intro word writes
    have written := digits_digitsOf n
    obtain ⟨sign, digits, split, signed, same⟩ :=
      word?_eq_some_iff.mp ((writes_iff_of_trimmed (plain_digitsOf n).trimmed).mp writes)
    rcases signed with rfl | rfl
    · have bound : word.toNat < UInt64.size := word.toNat_lt
      have value := written.value
      rw [split, List.nil_append, same.value] at value
      omega
    · exact written.not_plus (by rw [split]; rfl)

/-! ### Doubles -/

theorem plain_zeros (n : Nat) : Plain (List.replicate n '0') := by
  intro c member
  rw [List.eq_of_mem_replicate member]
  decide

theorem marked_positional {leading : Int} (plain : Plain digits) :
    Marked (positional digits leading) := by
  refine ⟨?_, '.', ?_, by decide⟩
  · unfold positional
    split
    · simp only [plain_append]
      exact ⟨⟨by decide, plain_zeros _⟩, plain⟩
    · simp only [plain_append]
      refine ⟨⟨⟨plain.take _, plain_zeros _⟩, by decide⟩, ?_⟩
      split
      · decide
      · exact plain.drop _
  · unfold positional
    split <;> simp

theorem marked_exponential {leading : Int} (plain : Plain digits) :
    Marked (exponential digits leading) := by
  refine ⟨?_, 'e', by simp [exponential], by decide⟩
  unfold exponential
  simp only [plain_append]
  refine ⟨⟨⟨⟨plain.take 1, ?_⟩, by decide⟩, ?_⟩, plain_digitsOf _⟩
  · split
    · decide
    · exact List.forall_mem_cons.mpr ⟨by decide, plain.drop 1⟩
  · split <;> decide

theorem marked_write? {style : Style} {x : Float} (written : style.write? x = some s) :
    Marked s := by
  obtain ⟨d, -, rfl⟩ := Option.map_eq_some_iff.mp written
  dsimp only
  by_cases none : d.significand = 0
  · rw [if_pos none]
    exact Marked.signed (by decide) d.negative
  · rw [if_neg none]
    refine Marked.signed ?_ d.negative
    split
    · exact marked_positional (plain_digitsOf _)
    · exact marked_exponential (plain_digitsOf _)

end SessionMonitor.Decimal

namespace SessionMonitor.Json

open Decimal

/-! ### Values -/

theorem Number.wording_text {n : Number} (wordless : n.word? = none) : Wording n.text.toList := by
  cases n with
  | integer value =>
    rw [Number.text, String.toList_ofList]
    split
    · refine wording_of_marked ⟨?_, '-', by simp, by decide⟩
      exact plain_append.mpr ⟨by decide, plain_digitsOf _⟩
    · rename_i natural
      rw [List.nil_append]
      refine wording_digitsOf ?_
      by_contra small
      rw [Number.word?, if_pos (by omega)] at wordless
      cases wordless
  | double x =>
    unfold Number.text
    dsimp only
    split
    · rename_i written
      rw [String.toList_ofList]
      exact wording_of_marked (marked_write? written)
    · exact wording_of_marked (by decide)

theorem wording_compact {value : Json} (unnumbered : ∀ n, value ≠ .number n)
    (unquoted : ∀ s, value ≠ .string s) : Wording value.compact.toList := by
  rw [compact, String.toList_ofList]
  cases value with
  | null => exact wording_of_marked (by decide)
  | bool value => cases value <;> exact wording_of_marked (by decide)
  | number n => exact (unnumbered n rfl).elim
  | string s => exact (unquoted s rfl).elim
  | array items =>
    unfold write
    exact wording_enclosed (by decide) (by decide) _
  | object fields =>
    unfold write
    exact wording_enclosed (by decide) (by decide) _

end SessionMonitor.Json
