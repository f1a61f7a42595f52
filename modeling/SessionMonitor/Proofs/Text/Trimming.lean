import Mathlib.Data.List.DropRight
import SessionMonitor.Text.Blank

/-!
# Trimming

Trimming takes the blanks at both ends of a text and nothing else, so there is one way to cut a text
into blanks, a trimmed text and blanks.
-/

namespace SessionMonitor.Text

variable {s before core after : List Char}

structure Trimmed (s : List Char) : Prop where
  head : ∀ c ∈ s.head?, isBlank c = false
  last : ∀ c ∈ s.getLast?, isBlank c = false

def AllBlank (s : List Char) : Prop :=
  ∀ c ∈ s, isBlank c = true

/-- The printable characters of ASCII, without the space. -/
def IsPlain (c : Char) : Prop :=
  0x20 < c.toNat ∧ c.toNat < 0x7F

instance (c : Char) : Decidable (IsPlain c) :=
  inferInstanceAs (Decidable (_ ∧ _))

theorem isBlank_of_plain {c : Char} (plain : IsPlain c) : isBlank c = false := by
  obtain ⟨low, high⟩ := plain
  simp [isBlank, inRanges, blankRanges]
  omega

theorem trimmed_of_no_blank (solid : ∀ c ∈ s, isBlank c = false) : Trimmed s :=
  ⟨fun c first => solid c (List.mem_of_mem_head? first),
    fun c last => solid c (List.mem_of_getLast? last)⟩

theorem Trimmed.exists_solid (trimmed : Trimmed s) (ne : s ≠ []) : ∃ c ∈ s, isBlank c = false := by
  obtain ⟨c, rest, rfl⟩ := List.exists_cons_of_ne_nil ne
  exact ⟨c, List.mem_cons_self, trimmed.head c rfl⟩

/-! ### Dropping at the end -/

section
variable {p : Char → Bool} {c : Char}

theorem dropTrailing_eq_rdropWhile (p : Char → Bool) (s : List Char) :
    dropTrailing p s = s.rdropWhile p :=
  rfl

theorem dropTrailing_eq_nil_iff : dropTrailing p s = [] ↔ ∀ c ∈ s, p c = true := by
  rw [dropTrailing_eq_rdropWhile, List.rdropWhile_eq_nil_iff]

/-- If anything is left of the second part, all of the first one is. -/
theorem dropTrailing_append (p : Char → Bool) (front back : List Char) :
    dropTrailing p (front ++ back) =
      if dropTrailing p back = [] then dropTrailing p front else front ++ dropTrailing p back := by
  unfold dropTrailing
  rw [List.reverse_append, List.dropWhile_append]
  simp only [List.isEmpty_iff, List.reverse_eq_nil_iff]
  split
  · rfl
  · rw [List.reverse_append, List.reverse_reverse]

theorem head?_dropTrailing (first : c ∈ (dropTrailing p s).head?) : c ∈ s.head? := by
  rw [dropTrailing_eq_rdropWhile] at first
  obtain ⟨rest, same⟩ := List.rdropWhile_prefix p s
  rw [← same, List.head?_append, Option.mem_def.mp first]
  rfl

theorem last_dropTrailing (last : c ∈ (dropTrailing p s).getLast?) : p c = false := by
  rw [dropTrailing_eq_rdropWhile] at last
  obtain ⟨left, rfl⟩ := List.mem_getLast?_eq_getLast last
  simpa using List.rdropWhile_last_not p s left

theorem dropTrailing_of_last (ends : ∀ c ∈ s.getLast?, p c = false) : dropTrailing p s = s := by
  rw [dropTrailing_eq_rdropWhile, List.rdropWhile_eq_self_iff]
  intro ne
  simpa using ends _ (List.getLast?_eq_some_getLast ne)

end

/-! ### Trimming -/

theorem trimmed_trimChars (s : List Char) : Trimmed (trimChars s) where
  head := by
    intro c first
    -- What is left after the end is dropped begins as before.
    have begins : (s.dropWhile isBlank).head? = some c := head?_dropTrailing first
    have solid := List.head?_dropWhile_not isBlank s
    rw [begins] at solid
    exact solid
  last := fun _ => last_dropTrailing

theorem exists_blanks_around (s : List Char) :
    ∃ before after, s = before ++ trimChars s ++ after ∧ AllBlank before ∧ AllBlank after := by
  refine ⟨s.takeWhile isBlank, (s.dropWhile isBlank).rtakeWhile isBlank, ?_, ?_, ?_⟩
  · rw [List.append_assoc, trimChars, dropTrailing_eq_rdropWhile, List.rdropWhile_append_rtakeWhile,
      List.takeWhile_append_dropWhile]
  · exact fun c first => List.mem_takeWhile_imp first
  · exact fun c last => List.mem_rtakeWhile_imp last

theorem exists_blanks_behind (s : List Char) :
    ∃ after, s = dropTrailing isBlank s ++ after ∧ AllBlank after ∧
      ∀ c ∈ (dropTrailing isBlank s).getLast?, isBlank c = false :=
  ⟨s.rtakeWhile isBlank, List.rdropWhile_append_rtakeWhile.symm,
    fun _ last => List.mem_rtakeWhile_imp last, fun _ => last_dropTrailing⟩

/-- There is only one trimmed text between blanks, unless it is empty. -/
theorem trimChars_surrounded (left : AllBlank before) (trimmed : Trimmed core) (ne : core ≠ [])
    (right : AllBlank after) : trimChars (before ++ core ++ after) = core := by
  have front : (before ++ core ++ after).dropWhile isBlank = core ++ after := by
    rw [List.append_assoc, List.dropWhile_append_of_pos left]
    obtain ⟨c, rest, rfl⟩ := List.exists_cons_of_ne_nil ne
    have solid : isBlank c = false := trimmed.head c rfl
    rw [List.cons_append, List.dropWhile_cons_of_neg (by simp [solid])]
  have back : (core ++ after).reverse.dropWhile isBlank = core.reverse := by
    have right : ∀ c ∈ after.reverse, isBlank c = true :=
      fun c member => right c (List.mem_reverse.mp member)
    rw [List.reverse_append, List.dropWhile_append_of_pos right]
    obtain ⟨rest, c, rfl⟩ := (List.eq_nil_or_concat' core).resolve_left ne
    have solid : isBlank c = false := trimmed.last c (by simp)
    rw [List.reverse_concat, List.dropWhile_cons_of_neg (by simp [solid])]
  rw [trimChars, front, dropTrailing, back, List.reverse_reverse]

theorem trimChars_of_trimmed (trimmed : Trimmed s) : trimChars s = s := by
  by_cases empty : s = []
  · rw [empty]
    rfl
  · have none : AllBlank [] := nofun
    simpa using trimChars_surrounded none trimmed empty none

theorem hasInk_iff {text : String} : hasInk text = true ↔ ∃ c ∈ text.toList, isBlank c = false := by
  simp [hasInk]

theorem trimChars_ne_nil {text : String} (ink : hasInk text = true) :
    trimChars text.toList ≠ [] := by
  intro empty
  obtain ⟨before, after, split, left, right⟩ := exists_blanks_around text.toList
  obtain ⟨c, member, solid⟩ := hasInk_iff.mp ink
  rw [split, empty, List.append_nil, List.mem_append] at member
  rcases member with member | member
  · rw [left c member] at solid
    cases solid
  · rw [right c member] at solid
    cases solid

end SessionMonitor.Text
