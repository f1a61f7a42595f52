import SessionMonitor.Decimal.Layout
import SessionMonitor.Decimal.Reading
import SessionMonitor.Proofs.Text.Trimming

/-!
# Words in texts

Which texts write a number of 64 bits, and that the digits of a number write it.
-/

namespace SessionMonitor.Decimal

open Text

variable {s : List Char} {n : Nat} {word : UInt64}

/-- Digits that write a number in base ten. -/
structure Digits (s : List Char) (n : Nat) : Prop where
  ne_nil : s ≠ []
  digits : ∀ c ∈ s, '0' ≤ c ∧ c ≤ '9'
  value : Nat.ofDigitChars 10 s 0 = n

/-- A text that writes a number: digits, with a plus sign or none, and any blanks around. -/
def Writes (s : List Char) (n : Nat) : Prop :=
  ∃ before sign digits after, s = before ++ (sign ++ digits) ++ after ∧
    AllBlank before ∧ AllBlank after ∧ (sign = [] ∨ sign = ['+']) ∧ Digits digits n

theorem isDigit_iff {c : Char} : isDigit c = true ↔ '0' ≤ c ∧ c ≤ '9' := by
  simp [isDigit]

theorem toNat_of_digit {c : Char} (digit : '0' ≤ c ∧ c ≤ '9') : 48 ≤ c.toNat ∧ c.toNat ≤ 57 :=
  ⟨UInt32.le_iff_toNat_le.mp (Char.le_def.mp digit.1),
    UInt32.le_iff_toNat_le.mp (Char.le_def.mp digit.2)⟩

theorem plain_of_digit {c : Char} (digit : '0' ≤ c ∧ c ≤ '9') : IsPlain c := by
  have bounds := toNat_of_digit digit
  exact ⟨by omega, by omega⟩

theorem natural?_eq_some_iff : natural? s = some n ↔ Digits s n := by
  have same : valueFrom 0 s = Nat.ofDigitChars 10 s 0 := rfl
  unfold natural?
  simp only [List.all_eq_true, isDigit_iff, same]
  split
  · rename_i written
    constructor
    · intro value
      exact ⟨written.1, written.2, Option.some.inj value⟩
    · intro digits
      rw [digits.value]
  · rename_i unwritten
    constructor
    · intro value
      cases value
    · intro digits
      exact (unwritten ⟨digits.ne_nil, digits.digits⟩).elim

/-! ### Words -/

theorem Digits.not_plus (digits : Digits s n) : s.head? ≠ some '+' := by
  intro plus
  have bounds := toNat_of_digit (digits.digits '+' (List.mem_of_mem_head? plus))
  have code : ('+' : Char).toNat = 43 := rfl
  omega

theorem word?_of_digits (digits : Digits s word.toNat) :
    word? s = some word ∧ word? ('+' :: s) = some word := by
  have written := natural?_eq_some_iff.mpr digits
  have bound : word.toNat < UInt64.size := word.toNat_lt
  have unsigned := digits.not_plus
  constructor
  · unfold word?
    split
    · exact (unsigned rfl).elim
    · simp [written, bound]
  · simp [word?, written, bound]

theorem digits_of_word? (found : word? s = some word) :
    ∃ sign digits, s = sign ++ digits ∧ (sign = [] ∨ sign = ['+']) ∧
      Digits digits word.toNat := by
  have value {digits : List Char} {n : Nat} (written : natural? digits = some n)
      (kept : (if n < UInt64.size then some (UInt64.ofNat n) else none) = some word) :
      Digits digits word.toNat := by
    split at kept
    · rename_i bound
      obtain rfl := Option.some.inj kept
      rw [UInt64.toNat_ofNat_of_lt' bound]
      exact natural?_eq_some_iff.mp written
    · cases kept
  unfold word? at found
  obtain ⟨n, written, kept⟩ := Option.bind_eq_some_iff.mp found
  split at written
  · rename_i rest
    exact ⟨['+'], rest, rfl, .inr rfl, value written kept⟩
  · exact ⟨[], s, rfl, .inl rfl, value written kept⟩

theorem word?_eq_some_iff :
    word? s = some word ↔ ∃ sign digits, s = sign ++ digits ∧ (sign = [] ∨ sign = ['+']) ∧
      Digits digits word.toNat := by
  constructor
  · exact digits_of_word?
  · rintro ⟨sign, digits, rfl, rfl | rfl, written⟩
    · exact (word?_of_digits written).1
    · exact (word?_of_digits written).2

theorem word?_trimChars_eq_some_iff :
    word? (trimChars s) = some word ↔ Writes s word.toNat := by
  constructor
  · intro found
    obtain ⟨before, after, split, left, right⟩ := exists_blanks_around s
    obtain ⟨sign, digits, core, signed, written⟩ := word?_eq_some_iff.mp found
    exact ⟨before, sign, digits, after, core ▸ split, left, right, signed, written⟩
  · rintro ⟨before, sign, digits, after, split, left, right, signed, written⟩
    have solid : ∀ c ∈ sign ++ digits, isBlank c = false := by
      intro c member
      rcases List.mem_append.mp member with member | member
      · rcases signed with rfl | rfl
        · cases member
        · obtain rfl := List.mem_singleton.mp member
          exact isBlank_of_plain ⟨by decide, by decide⟩
      · exact isBlank_of_plain (plain_of_digit (written.digits c member))
    have ne : sign ++ digits ≠ [] := by
      intro empty
      exact written.ne_nil (List.append_eq_nil_iff.mp empty).2
    rw [split, trimChars_surrounded left (trimmed_of_no_blank solid) ne right]
    exact word?_eq_some_iff.mpr ⟨sign, digits, rfl, signed, written⟩

theorem trimmedWord?_eq_some_iff {text : String} :
    trimmedWord? text = some word ↔ Writes text.toList word.toNat :=
  word?_trimChars_eq_some_iff

theorem writes_iff_of_trimmed (trimmed : Trimmed s) :
    Writes s word.toNat ↔ word? s = some word := by
  rw [← word?_trimChars_eq_some_iff, trimChars_of_trimmed trimmed]

/-! ### Digits of numbers -/

theorem digits_digitsOf (n : Nat) : Digits (digitsOf n) n where
  ne_nil := Nat.toDigits_ne_nil
  digits c member := by
    have digit := Nat.isDigit_of_mem_toDigits (by decide) (by decide) member
    simpa [Char.isDigit, Char.le_def] using digit
  value := Nat.ofDigitChars_toDigits (by decide) (by decide)

end SessionMonitor.Decimal
