import SessionMonitor.Proofs.Text.Truncate
import SessionMonitor.Text.Width

/-!
# Truncated texts in cells

Texts are truncated by characters, and drawn in the cells of a terminal. How many cells a text takes
is measured elsewhere; little of it is assumed here. A truncated text keeps to as many cells where
characters and cells agree: on whether the text is too long at all, and on the room in front of the
dots.
-/

namespace SessionMonitor

namespace Text

variable {width : String → Nat} {s : String} {limit : Nat}

/-- The dots in place of what is cut; where there is no room for more than dots there are none. -/
def dots (limit : Nat) : String :=
  if limit ≤ 3 then "" else "..."

def front (s : String) (limit : Nat) : String :=
  .ofList (s.toList.take (limit - (dots limit).length))

/-- The text `t` shows `s` in at most `limit` of what `width` counts: whole if that is possible, or
else a front part of it with dots. -/
structure Fits (width : String → Nat) (s : String) (limit : Nat) (t : String) : Prop where
  whole : width s ≤ limit → t = s
  fits : limit < width s → width t ≤ limit
  cut : limit < width s → ∃ kept : String, kept.toList <+: s.toList ∧ t = kept ++ dots limit

def isPrinted (c : Char) : Bool :=
  inRanges [(0x20, 0x7E)] c

def isAccent (c : Char) : Bool :=
  inRanges [(0x300, 0x36F)] c

def isIdeograph (c : Char) : Bool :=
  inRanges [(0x4E00, 0x9FFF)] c

/-- What is known of a measure of the cells that a text takes. -/
structure MeasuresCells (width : String → Nat) : Prop where
  /-- A printed character of ASCII takes one cell, and an accent upon it none. -/
  narrow : ∀ s, (∀ c ∈ s.toList, isPrinted c ∨ isAccent c) → width s = s.toList.countP isPrinted
  wide : ∀ s, (∀ c ∈ s.toList, isIdeograph c) → width s = 2 * s.length
  /-- Dots stand by themselves. -/
  dots : ∀ s, width (s ++ "...") = width s + 3

/-! ### What is left of a text -/

theorem length_dots_le (limit : Nat) : (dots limit).length ≤ limit := by
  unfold dots
  split
  · exact Nat.zero_le _
  · rw [show "...".length = 3 by decide]
    omega

theorem length_front_le (s : String) (limit : Nat) :
    (front s limit).length + (dots limit).length ≤ limit := by
  have room := length_dots_le limit
  rw [front, String.length_ofList, List.length_take]
  omega

theorem front_isPrefix (s : String) (limit : Nat) : (front s limit).toList <+: s.toList := by
  rw [front, String.toList_ofList]
  exact List.take_prefix _ _

theorem truncate_of_lt (long : limit < s.length) :
    truncate s limit = front s limit ++ dots limit := by
  have uncut : ¬s.toList.length ≤ limit := by
    rw [String.length_toList]
    omega
  rw [truncate, truncateChars, if_neg uncut, front, dots]
  split
  · rw [String.append_empty]
    rfl
  · rw [String.ofList_append]
    rfl

theorem truncate_ne (long : limit < s.length) : truncate s limit ≠ s := by
  intro same
  have length := length_truncate s limit
  rw [same] at length
  omega

/-! ### When it fits -/

theorem width_append_dots (apart : ∀ t, width (t ++ "...") = width t + 3) (t : String)
    (limit : Nat) : width (t ++ dots limit) = width t + (dots limit).length := by
  unfold dots
  split
  · rw [String.append_empty]
    rfl
  · exact apart t

theorem fits_of_le (short : s.length ≤ limit) :
    Fits width s limit (truncate s limit) ↔ width s ≤ limit := by
  rw [truncate_of_le short]
  constructor
  · intro shown
    exact Nat.le_of_not_lt fun wide => Nat.not_le.mpr wide (shown.fits wide)
  · intro fits
    have narrow := Nat.not_lt.mpr fits
    exact ⟨fun _ => rfl, fun wide => absurd wide narrow, fun wide => absurd wide narrow⟩

theorem fits_of_lt (apart : ∀ t, width (t ++ "...") = width t + 3) (long : limit < s.length) :
    Fits width s limit (truncate s limit) ↔
      limit < width s ∧ width (front s limit) + (dots limit).length ≤ limit := by
  rw [← width_append_dots apart, ← truncate_of_lt long]
  constructor
  · intro shown
    have wide : limit < width s :=
      Nat.not_le.mp fun narrow => truncate_ne long (shown.whole narrow)
    exact ⟨wide, shown.fits wide⟩
  · rintro ⟨wide, fits⟩
    exact ⟨fun narrow => absurd wide (Nat.not_lt.mpr narrow), fun _ => fits,
      fun _ => ⟨_, front_isPrefix s limit, truncate_of_lt long⟩⟩

theorem fits_truncate_iff (apart : ∀ t, width (t ++ "...") = width t + 3) (s : String)
    (limit : Nat) :
    Fits width s limit (truncate s limit) ↔
      (s.length ≤ limit ↔ width s ≤ limit) ∧
      (limit < s.length → width (front s limit) + (dots limit).length ≤ limit) := by
  rcases Nat.lt_or_ge limit s.length with long | short
  · rw [fits_of_lt apart long, iff_false_left (Nat.not_le.mpr long), Nat.not_le, imp_iff_right long]
  · rw [fits_of_le short, iff_true_left short]
    exact (and_iff_left fun long => absurd short (Nat.not_le.mpr long)).symm

theorem fits_length (s : String) (limit : Nat) : Fits String.length s limit (truncate s limit) := by
  have apart (t : String) : (t ++ "...").length = t.length + 3 := String.length_append t "..."
  exact (fits_truncate_iff apart s limit).mpr ⟨Iff.rfl, fun _ => length_front_le s limit⟩

theorem MeasuresCells.width_eq_length (measures : MeasuresCells width)
    (printed : ∀ c ∈ s.toList, isPrinted c) : width s = s.length := by
  rw [measures.narrow s fun c member => .inl (printed c member), List.countP_eq_length.mpr printed,
    String.length_toList]

theorem MeasuresCells.fits_of_printed (measures : MeasuresCells width)
    (printed : ∀ c ∈ s.toList, isPrinted c) (limit : Nat) :
    Fits width s limit (truncate s limit) := by
  rw [fits_truncate_iff measures.dots, measures.width_eq_length printed]
  refine ⟨Iff.rfl, fun _ => ?_⟩
  rw [measures.width_eq_length fun c member => printed c ((front_isPrefix s limit).mem member)]
  exact length_front_le s limit

/-! ### A measure -/

def charsWidth (s : List Char) : Nat :=
  s.foldr (fun c n => charWidth c + n) 0

/-- What the characters of a text take by themselves, added up. -/
def addedWidth (s : String) : Nat :=
  charsWidth s.toList

theorem charsWidth_cons (c : Char) (s : List Char) :
    charsWidth (c :: s) = charWidth c + charsWidth s :=
  rfl

theorem charsWidth_append (s t : List Char) :
    charsWidth (s ++ t) = charsWidth s + charsWidth t := by
  induction s with
  | nil => exact (Nat.zero_add _).symm
  | cons c rest ih => rw [List.cons_append, charsWidth_cons, charsWidth_cons, ih, Nat.add_assoc]

theorem inRanges_single_iff {first last : Nat} {c : Char} :
    inRanges [(first, last)] c ↔ first ≤ c.toNat ∧ c.toNat ≤ last := by
  simp [inRanges]

theorem inRanges_of_within {ranges : List (Nat × Nat)} {range : Nat × Nat} {c : Char}
    (member : range ∈ ranges) (within : range.1 ≤ c.toNat ∧ c.toNat ≤ range.2) :
    inRanges ranges c = true :=
  List.any_eq_true.mpr ⟨range, member, by simpa using within⟩

theorem charWidth_of_isPrinted {c : Char} (printed : isPrinted c) : charWidth c = 1 := by
  obtain ⟨-, last⟩ := inRanges_single_iff.mp printed
  rw [charWidth, if_pos (by omega)]

theorem charWidth_of_isAccent {c : Char} (accent : isAccent c) : charWidth c = 0 := by
  have within := inRanges_single_iff.mp accent
  have listed : (0x300, 0x36F) ∈ zeroWidthRanges := by decide
  rw [charWidth, if_neg (by omega), if_pos (inRanges_of_within listed within)]

theorem charWidth_of_isIdeograph {c : Char} (ideograph : isIdeograph c) : charWidth c = 2 := by
  obtain ⟨first, last⟩ := inRanges_single_iff.mp ideograph
  have listed : (0x3250, 0xA48C) ∈ wideRanges := by decide
  have apart : ∀ range ∈ zeroWidthRanges, range.2 < 0x4E00 ∨ 0x9FFF < range.1 := by
    decide +kernel
  have unlisted : ¬inRanges zeroWidthRanges c := by
    intro inside
    obtain ⟨range, member, within⟩ := List.any_eq_true.mp inside
    have away := apart range member
    simp only [Bool.and_eq_true, decide_eq_true_eq] at within
    omega
  rw [charWidth, if_neg (by omega), if_neg unlisted,
    if_pos (inRanges_of_within listed (by constructor <;> dsimp only <;> omega))]

theorem charsWidth_of_narrow {s : List Char} (narrow : ∀ c ∈ s, isPrinted c ∨ isAccent c) :
    charsWidth s = s.countP isPrinted := by
  induction s with
  | nil => rfl
  | cons c rest ih =>
    obtain ⟨first, later⟩ := List.forall_mem_cons.mp narrow
    rw [charsWidth_cons, ih later, List.countP_cons, Nat.add_comm]
    by_cases printed : isPrinted c
    · rw [charWidth_of_isPrinted printed, if_pos printed]
    · rw [charWidth_of_isAccent (first.resolve_left printed), if_neg printed]

theorem charsWidth_of_ideographs {s : List Char} (ideographs : ∀ c ∈ s, isIdeograph c) :
    charsWidth s = 2 * s.length := by
  induction s with
  | nil => rfl
  | cons c rest ih =>
    obtain ⟨first, later⟩ := List.forall_mem_cons.mp ideographs
    rw [charsWidth_cons, ih later, charWidth_of_isIdeograph first, List.length_cons]
    omega

theorem measuresCells_addedWidth : MeasuresCells addedWidth where
  narrow s narrow := charsWidth_of_narrow narrow
  wide s ideographs := by
    rw [addedWidth, charsWidth_of_ideographs ideographs, String.length_toList]
  dots s := by
    rw [addedWidth, String.toList_append, charsWidth_append]
    rfl

end Text

namespace Screen

open Text (Fits MeasuresCells truncate addedWidth dots front)
open Text (inRanges isPrinted isAccent isIdeograph)

/-- Three ideographs take six cells, and are not cut to four. -/
theorem wide_text_is_not_cut :
    truncate "日本語" 4 = "日本語" ∧ addedWidth "日本語" = 6 ∧
      ¬Fits addedWidth "日本語" 4 (truncate "日本語" 4) ∧
      ∀ width, MeasuresCells width → ¬Fits width "日本語" 4 (truncate "日本語" 4) := by
  have whole : truncate "日本語" 4 = "日本語" := by decide +kernel
  have wide {width : String → Nat} (measures : MeasuresCells width) : width "日本語" = 6 :=
    measures.wide "日本語" (by simp [isIdeograph, inRanges])
  have broken {width : String → Nat} (measures : MeasuresCells width) :
      ¬Fits width "日本語" 4 (truncate "日本語" 4) := by
    intro shown
    have fits := shown.fits (by rw [wide measures]; decide)
    rw [whole, wide measures] at fits
    exact absurd fits (by decide)
  have sums := Text.measuresCells_addedWidth
  exact ⟨whole, wide sums, broken sums, fun width => broken⟩

/-- A truncated text has at most `limit` characters. In cells it fits if and only if it is cut where
it is too wide, and what is left of it has room. -/
theorem truncated_text_fits (s : String) (limit : Nat) :
    Fits String.length s limit (truncate s limit) ∧
    ∀ width, MeasuresCells width →
      (Fits width s limit (truncate s limit) ↔
        (s.length ≤ limit ↔ width s ≤ limit) ∧
        (limit < s.length → width (front s limit) + (dots limit).length ≤ limit)) ∧
      ((∀ c ∈ s.toList, isPrinted c) → Fits width s limit (truncate s limit)) :=
  ⟨Text.fits_length s limit, fun _ measures => ⟨Text.fits_truncate_iff measures.dots s limit,
    fun printed => measures.fits_of_printed printed limit⟩⟩

/-- Two accented letters take two cells, but are cut to two characters. -/
theorem accented_text_is_cut :
    MeasuresCells addedWidth ∧ Fits addedWidth "hello world" 8 "hello..." ∧
      ¬Fits addedWidth "e\u0301e\u0301" 2 (truncate "e\u0301e\u0301" 2) := by
  have measures := Text.measuresCells_addedWidth
  refine ⟨measures, ?_, ?_⟩
  · exact ((truncated_text_fits "hello world" 8).2 addedWidth measures).2 (by simp [isPrinted, inRanges])
  · intro shown
    have agree :=
      (((truncated_text_fits "e\u0301e\u0301" 2).2 addedWidth measures).1.mp shown).1
    rw [measures.narrow "e\u0301e\u0301" (by simp [isPrinted, isAccent, inRanges])] at agree
    exact absurd (agree.mpr (by decide)) (by decide)

end Screen

end SessionMonitor
