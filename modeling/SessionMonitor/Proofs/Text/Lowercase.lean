import Mathlib.Data.List.Infix
import SessionMonitor.Text.Contains
import SessionMonitor.Text.Lowercase

/-!
# Parts of texts in small letters

The small letters of a part of a text stand in the small letters of the whole, but for a capital
sigma next to an end of the part: only the whole tells whether it ends a word. A text is settled if
it has no such sigma.
-/

namespace SessionMonitor.Text

variable {before rest after s needle : List Char} {letter : Char}

theorem containsChars_iff : containsChars needle s = true ↔ needle <:+: s := by
  induction s with
  | nil => simp [containsChars]
  | cons c rest ih =>
    rw [containsChars, Bool.or_eq_true, List.isPrefixOf_iff_prefix, ih, List.infix_cons_iff]

theorem contains_iff {s needle : String} :
    contains s needle = true ↔ needle.toList <:+: s.toList :=
  containsChars_iff

/-! ### The test for a cased letter -/

/-- The test for a letter with case passes over these characters. -/
def AllIgnorable (s : List Char) : Prop :=
  ∀ c ∈ s, inRanges caseIgnorableRanges c = true

instance (s : List Char) : Decidable (AllIgnorable s) :=
  List.decidableBAll _ s

theorem allIgnorable_cons {c : Char} : AllIgnorable (c :: s) ↔
    inRanges caseIgnorableRanges c = true ∧ AllIgnorable s :=
  List.forall_mem_cons

theorem startsCased_cons (c : Char) (s : List Char) :
    startsCased (c :: s) =
      if inRanges caseIgnorableRanges c then startsCased s else inRanges casedRanges c := by
  unfold startsCased
  rw [List.dropWhile_cons]
  by_cases ignorable : inRanges caseIgnorableRanges c <;> simp [ignorable]

theorem startsCased_of_allIgnorable (ignorable : AllIgnorable s) : startsCased s = false := by
  induction s with
  | nil => rfl
  | cons c rest ih =>
    obtain ⟨first, later⟩ := allIgnorable_cons.mp ignorable
    rw [startsCased_cons, if_pos first, ih later]

theorem startsCased_append (s after : List Char) :
    startsCased (s ++ after) = if AllIgnorable s then startsCased after else startsCased s := by
  induction s with
  | nil => rw [if_pos (by nofun), List.nil_append]
  | cons c rest ih =>
    rw [List.cons_append, startsCased_cons, startsCased_cons, ih]
    by_cases first : inRanges caseIgnorableRanges c <;> simp [allIgnorable_cons, first]

/-! ### Small letters in context -/

/-- The small letter of a capital sigma between `before`, given backwards, and `rest`. -/
def sigmaBetween (before rest : List Char) : Char :=
  if startsCased before && !startsCased rest then 'ς' else 'σ'

/-- The small letters of a part of a text that stands between `before`, given backwards, and
`after`. -/
def lowerBetween (before : List Char) : List Char → List Char → List Char
  | [], _ => []
  | c :: rest, after =>
    (if c = 'Σ' then [sigmaBetween before (rest ++ after)] else lowerChar c) ++
      lowerBetween (c :: before) rest after

theorem lowerAfter_cons (before : List Char) (c : Char) (rest : List Char) :
    lowerAfter before (c :: rest) =
      (if c = 'Σ' then [sigmaBetween before rest] else lowerChar c) ++
        lowerAfter (c :: before) rest := by
  rw [lowerAfter, sigmaBetween]
  split
  · split <;> rfl
  · rfl

theorem lowerAfter_append (before s after : List Char) :
    lowerAfter before (s ++ after) =
      lowerBetween before s after ++ lowerAfter (s.reverse ++ before) after := by
  induction s generalizing before with
  | nil => rfl
  | cons c rest ih => simp [lowerAfter_cons, lowerBetween, ih]

theorem lowerAfter_eq_lowerBetween (before s : List Char) :
    lowerAfter before s = lowerBetween before s [] := by
  simpa [lowerAfter] using lowerAfter_append before s []

theorem lowerBetween_append (before s rest after : List Char) :
    lowerBetween before (s ++ rest) after =
      lowerBetween before s (rest ++ after) ++ lowerBetween (s.reverse ++ before) rest after := by
  induction s generalizing before with
  | nil => rfl
  | cons c s ih => simp [lowerBetween, ih]

theorem length_lowerBetween (before after before' after' s : List Char) :
    (lowerBetween before s after).length = (lowerBetween before' s after').length := by
  induction s generalizing before before' with
  | nil => rfl
  | cons c rest ih =>
    rw [lowerBetween, lowerBetween, List.length_append, List.length_append, ih _ (c :: before')]
    split <;> rfl

/-! ### Settled texts -/

/-- Whatever comes in front of `before`, which is given backwards, and behind `rest`, a capital
sigma between the two has the same small letter. -/
def SigmaSettled (before rest : List Char) : Prop :=
  ¬ (AllIgnorable before ∧ startsCased rest = false) ∧
    ¬ (startsCased before = true ∧ AllIgnorable rest)

/-- Every capital sigma of the text that follows `before`, given backwards, has the same small
letter, whatever stands around the two. -/
def SettledAfter (before : List Char) : List Char → Prop
  | [] => True
  | c :: rest => (c = 'Σ' → SigmaSettled before rest) ∧ SettledAfter (c :: before) rest

def Settled (text : String) : Prop :=
  SettledAfter [] text.toList

instance (before rest : List Char) : Decidable (SigmaSettled before rest) :=
  inferInstanceAs (Decidable (_ ∧ _))

instance decidableSettledAfter : (before s : List Char) → Decidable (SettledAfter before s)
  | _, [] => .isTrue trivial
  | before, c :: rest =>
    have := decidableSettledAfter (c :: before) rest
    inferInstanceAs (Decidable ((c = 'Σ' → _) ∧ _))

instance (text : String) : Decidable (Settled text) :=
  inferInstanceAs (Decidable (SettledAfter _ _))

theorem settledAfter_of_no_sigma (none : 'Σ' ∉ s) : SettledAfter before s := by
  induction s generalizing before with
  | nil => trivial
  | cons c rest ih =>
    rw [List.mem_cons, not_or] at none
    exact ⟨fun sigma => absurd sigma.symm none.1, ih none.2⟩

theorem sigmaBetween_of_settled (settled : SigmaSettled before rest) (front after : List Char) :
    sigmaBetween (before ++ front) (rest ++ after) = sigmaBetween before rest := by
  obtain ⟨left, right⟩ := settled
  unfold sigmaBetween
  rw [startsCased_append, startsCased_append]
  by_cases ahead : AllIgnorable before
  · have cased : startsCased rest = true := by simpa [ahead] using left
    have counts : ¬ AllIgnorable rest := fun ignorable => by
      simp [startsCased_of_allIgnorable ignorable] at cased
    simp [ahead, counts, cased]
  · by_cases behind : AllIgnorable rest
    · have uncased : startsCased before = false := by simpa [behind] using right
      simp [ahead, uncased]
    · simp [ahead, behind]

theorem lowerBetween_of_settled (settled : SettledAfter before s) (front after : List Char) :
    lowerBetween (before ++ front) s after = lowerBetween before s [] := by
  induction s generalizing before with
  | nil => rfl
  | cons c rest ih =>
    have tail : lowerBetween (c :: before ++ front) rest after =
        lowerBetween (c :: before) rest [] := ih settled.2
    rw [lowerBetween, lowerBetween, ← List.cons_append, tail, List.append_nil]
    split
    · rename_i sigma
      rw [sigmaBetween_of_settled (settled.1 sigma)]
    · rfl

theorem lower_infix_of_settled (settled : SettledAfter [] needle) (inside : needle <:+: s) :
    lowerAfter [] needle <:+: lowerAfter [] s := by
  obtain ⟨front, after, rfl⟩ := inside
  refine ⟨lowerBetween [] front (needle ++ after),
    lowerAfter (needle.reverse ++ front.reverse) after, ?_⟩
  have middle := lowerBetween_of_settled settled front.reverse after
  rw [List.nil_append] at middle
  rw [lowerAfter_eq_lowerBetween, ← middle, List.append_assoc front, lowerAfter_append,
    lowerAfter_append, List.append_nil, List.append_assoc]

/-! ### Unsettled texts -/

theorem exists_sigma_of_not_settled (unsettled : ¬ SettledAfter before s) :
    ∃ front rest, s = front ++ 'Σ' :: rest ∧ ¬ SigmaSettled (front.reverse ++ before) rest := by
  induction s generalizing before with
  | nil => exact absurd trivial unsettled
  | cons c later ih =>
    by_cases here : c = 'Σ' → SigmaSettled before later
    · obtain ⟨front, rest, rfl, loose⟩ := ih fun settled => unsettled ⟨here, settled⟩
      exact ⟨c :: front, rest, rfl, by simpa using loose⟩
    · obtain ⟨rfl, loose⟩ := Classical.not_imp.mp here
      exact ⟨[], later, rfl, loose⟩

/-- A letter with case, not the one given. -/
def otherLetter (c : Option Char) : Char :=
  if c = some 'a' then 'b' else 'a'

theorem otherLetter_ne (c : Option Char) : some (otherLetter c) ≠ c := by
  unfold otherLetter
  split
  · rename_i same
    simp [same]
  · rename_i different
    exact Ne.symm different

theorem startsCased_otherLetter (c : Option Char) (s : List Char) :
    startsCased (otherLetter c :: s) = true := by
  have counts : inRanges caseIgnorableRanges (otherLetter c) = false := by
    unfold otherLetter
    split <;> decide +kernel
  have cased : inRanges casedRanges (otherLetter c) = true := by
    unfold otherLetter
    split <;> decide +kernel
  simp [startsCased_cons, counts, cased]

theorem lowerAfter_otherLetter (c : Option Char) (before s : List Char) :
    lowerAfter before (otherLetter c :: s) =
      otherLetter c :: lowerAfter (otherLetter c :: before) s := by
  unfold otherLetter
  split <;> rfl

theorem sigmaBetween_ne_in_front (ignorable : AllIgnorable before)
    (uncased : startsCased rest = false) {front : List Char} (cased : startsCased front = true) :
    sigmaBetween (before ++ front) rest ≠ sigmaBetween before rest := by
  simp [sigmaBetween, startsCased_append, ignorable, startsCased_of_allIgnorable, uncased, cased]

theorem sigmaBetween_ne_behind (cased : startsCased before = true) (ignorable : AllIgnorable rest)
    (follows : startsCased after = true) :
    sigmaBetween before (rest ++ after) ≠ sigmaBetween before rest := by
  simp [sigmaBetween, startsCased_append, ignorable, startsCased_of_allIgnorable, follows, cased]

/-- Texts of one length agree in their small letters only if they do for each sigma. -/
theorem lowerBetween_ne (front : List Char) {before' after' : List Char}
    (differs : sigmaBetween (front.reverse ++ before) (rest ++ after) ≠
      sigmaBetween (front.reverse ++ before') (rest ++ after')) :
    lowerBetween before (front ++ 'Σ' :: rest) after ≠
      lowerBetween before' (front ++ 'Σ' :: rest) after' := by
  intro same
  rw [lowerBetween_append, lowerBetween_append] at same
  obtain ⟨-, same⟩ := List.append_inj same (length_lowerBetween ..)
  exact differs (List.cons.inj same).1

theorem not_infix_cons (length : needle.length = s.length) (differs : needle ≠ s)
    (begins : some letter ≠ needle.head?) : ¬ needle <:+: letter :: s := by
  rw [List.infix_cons_iff, List.prefix_cons_iff]
  rintro ((rfl | ⟨rest, rfl, -⟩) | inside)
  · exact differs (List.eq_nil_of_length_eq_zero length.symm).symm
  · exact begins rfl
  · exact differs (inside.eq_of_length length)

theorem not_infix_concat (length : needle.length = s.length) (differs : needle ≠ s)
    (ends : some letter ≠ needle.getLast?) : ¬ needle <:+: s ++ [letter] := by
  rw [← List.reverse_infix, List.reverse_append]
  refine not_infix_cons (by simpa using length) (by simpa using differs) ?_
  rwa [List.head?_reverse]

/-- A text that is not settled stands in a text whose small letters are without its own. -/
theorem exists_hidden_of_not_settled (unsettled : ¬ SettledAfter [] needle) :
    ∃ s, needle <:+: s ∧ ¬ lowerAfter [] needle <:+: lowerAfter [] s := by
  obtain ⟨front, rest, split, loose⟩ := exists_sigma_of_not_settled unsettled
  have alone := lowerAfter_eq_lowerBetween [] needle
  rw [List.append_nil, SigmaSettled, not_and_or, not_not, not_not] at loose
  rcases loose with ⟨ignorable, uncased⟩ | ⟨cased, ignorable⟩
  -- No letter before the sigma: one in front of the text makes it end a word.
  · let letter := otherLetter (lowerAfter [] needle).head?
    refine ⟨letter :: needle, (List.suffix_cons letter needle).isInfix, ?_⟩
    rw [lowerAfter_otherLetter, lowerAfter_eq_lowerBetween [letter]]
    refine not_infix_cons ?_ ?_ (otherLetter_ne _)
    · rw [alone]
      exact length_lowerBetween ..
    · rw [alone, split]
      refine (lowerBetween_ne front ?_).symm
      simpa using sigmaBetween_ne_in_front ignorable uncased (startsCased_otherLetter _ [])
  -- A letter before it and none behind: one after the text takes the end of the word away.
  · let letter := otherLetter (lowerAfter [] needle).getLast?
    refine ⟨needle ++ [letter], (List.prefix_append needle [letter]).isInfix, ?_⟩
    rw [lowerAfter_append, lowerAfter_otherLetter]
    refine not_infix_concat ?_ ?_ (otherLetter_ne _)
    · rw [alone]
      exact length_lowerBetween ..
    · rw [alone, split]
      refine (lowerBetween_ne front ?_).symm
      simpa using sigmaBetween_ne_behind cased ignorable (startsCased_otherLetter _ [])

end SessionMonitor.Text
