import Mathlib.Data.Ordering.Basic
import SessionMonitor.View.Sorting

/-!
# The order of sessions

A sorting compares any two sessions, the other way around in the other direction, and never in a
circle. Sessions that compare equal need not be the same.
-/

namespace SessionMonitor

instance : Std.TransCmp compareTexts :=
  inferInstanceAs (Std.TransCmp (compareOn Text.lowercase))

instance : Std.TransCmp SessionId.order :=
  inferInstanceAs (Std.TransCmp (compareOn SessionId.value))

theorem SessionId.order_eq_iff {a b : SessionId} : a.order b = .eq ↔ a = b := by
  rw [order, Std.LawfulEqOrd.compare_eq_iff_eq]
  constructor
  · intro same
    exact congrArg mk same
  · rintro rfl
    rfl

theorem compareTexts_eq_iff {a b : String} : compareTexts a b = .eq ↔
    Elapsed.text (Text.lowercase a) = .text (Text.lowercase b) := by
  rw [compareTexts, Std.LawfulEqOrd.compare_eq_iff_eq, Elapsed.text.injEq]

/-! ### Times -/

theorem Elapsed.order_swap (a b : Elapsed) : a.order b = (b.order a).swap := by
  cases a with
  | seconds first =>
    cases b with
    | seconds second => exact Std.OrientedOrd.eq_swap
    | text second => rfl
  | text first =>
    cases b with
    | seconds second => rfl
    | text second =>
      show compareTexts first second = (compareTexts second first).swap
      exact Std.OrientedCmp.eq_swap

instance : Std.TransCmp Elapsed.order where
  eq_swap := Elapsed.order_swap _ _
  isLE_trans {a b c} below above := by
    cases a with
    | seconds first =>
      cases c with
      | seconds third =>
        cases b with
        | seconds second => exact Std.TransOrd.isLE_trans below above
        | text second => cases above
      | text third => rfl
    | text first =>
      cases b with
      | seconds second => cases below
      | text second =>
        cases c with
        | seconds third => cases above
        | text third =>
          show (compareTexts first third).isLE = true
          have below : (compareTexts first second).isLE = true := below
          have above : (compareTexts second third).isLE = true := above
          exact Std.TransCmp.isLE_trans below above

/-- What counts of a time: the seconds, or the words in small letters. -/
def Elapsed.folded : Elapsed → Elapsed
  | seconds count => seconds count
  | text words => text (Text.lowercase words)

theorem Elapsed.order_eq_iff {a b : Elapsed} : a.order b = .eq ↔ a.folded = b.folded := by
  cases a with
  | seconds first =>
    cases b with
    | seconds second =>
      show compare first second = .eq ↔ seconds first = seconds second
      rw [Std.LawfulEqOrd.compare_eq_iff_eq, seconds.injEq]
    | text second => exact ⟨nofun, nofun⟩
  | text first =>
    cases b with
    | seconds second => exact ⟨nofun, nofun⟩
    | text second => exact compareTexts_eq_iff

/-! ### Columns -/

theorem transCmp_column {α : Type} (cmp : α → α → Ordering) [Std.TransCmp cmp]
    (column : Session → α) : Std.TransCmp fun a b => cmp (column a) (column b) where
  eq_swap := Std.OrientedCmp.eq_swap
  isLE_trans := Std.TransCmp.isLE_trans

instance (key : SortKey) : Std.TransCmp key.order := by
  cases key with
  | id => exact transCmp_column SessionId.order (·.id)
  | user => exact transCmp_column compareTexts (·.user)
  | host => exact transCmp_column compareTexts (·.host)
  | db => exact transCmp_column compareTexts (·.db.getD "")
  | command => exact transCmp_column compareTexts (·.command)
  | time => exact transCmp_column Elapsed.order (·.time)
  | state => exact transCmp_column compareTexts (·.state.getD "")
  | info => exact transCmp_column compareTexts (·.info.getD "")

/-- What counts of a session in a column: a number, or words in small letters, of which there are
none where the column is empty. -/
def SortKey.folded (key : SortKey) (p : Session) : Elapsed :=
  match key with
  | id => .seconds p.id.value
  | user => .text (Text.lowercase p.user)
  | host => .text (Text.lowercase p.host)
  | db => .text (Text.lowercase (p.db.getD ""))
  | command => .text (Text.lowercase p.command)
  | time => p.time.folded
  | state => .text (Text.lowercase (p.state.getD ""))
  | info => .text (Text.lowercase (p.info.getD ""))

theorem SortKey.order_eq_iff (key : SortKey) {a b : Session} :
    key.order a b = .eq ↔ key.folded a = key.folded b := by
  cases key with
  | id =>
    show compare a.id.value b.id.value = .eq ↔
      Elapsed.seconds a.id.value = .seconds b.id.value
    rw [Std.LawfulEqOrd.compare_eq_iff_eq, Elapsed.seconds.injEq]
  | time => exact Elapsed.order_eq_iff
  | _ => exact compareTexts_eq_iff

namespace Sorting

variable (s : Sorting) {a b c : Session}

theorem order_desc (key : SortKey) (a b : Session) : order ⟨key, .desc⟩ a b = key.order b a := by
  show (key.order a b).swap = key.order b a
  exact Std.OrientedCmp.eq_swap.symm

theorem order_flipped (a b : Session) :
    ({ s with direction := s.direction.flipped } : Sorting).order a b = s.order b a := by
  obtain ⟨key, direction⟩ := s
  cases direction with
  | asc => exact order_desc key a b
  | desc => exact (order_desc key b a).symm

instance : Std.TransCmp s.order := by
  obtain ⟨key, direction⟩ := s
  cases direction with
  | asc => exact inferInstanceAs (Std.TransCmp key.order)
  | desc =>
    have swapped : order ⟨key, .desc⟩ = fun a b => key.order b a := by
      funext a b
      exact order_desc key a b
    rw [swapped]
    exact Std.TransCmp.opposite

theorem order_swap (a b : Session) : s.order a b = (s.order b a).swap :=
  Std.OrientedCmp.eq_swap

theorem allows_iff : s.allows a b = true ↔ s.order a b ≠ .gt := by
  simp [allows]

theorem allows_trans (first : s.allows a b = true) (second : s.allows b c = true) :
    s.allows a c = true := by
  simp only [allows_iff, ne_eq, ← Ordering.isLE_iff_ne_gt] at *
  exact Std.TransCmp.isLE_trans first second

theorem allows_total (a b : Session) : (s.allows a b || s.allows b a) = true := by
  rw [Bool.or_eq_true, allows_iff, allows_iff]
  by_cases greater : s.order a b = .gt
  · right
    rw [s.order_swap, greater]
    decide
  · exact .inl greater

theorem order_eq_of_allows (first : s.order a b ≠ .gt) (second : s.order b a ≠ .gt) :
    s.order a b = .eq := by
  cases compared : s.order a b with
  | eq => rfl
  | gt => exact (first compared).elim
  | lt =>
    rw [s.order_swap, compared] at second
    exact (second rfl).elim

theorem order_id_eq_iff (key : s.key = .id) : s.order a b = .eq ↔ a.id = b.id := by
  obtain ⟨_, direction⟩ := s
  obtain rfl := key
  cases direction with
  | asc => exact SessionId.order_eq_iff
  | desc => exact Ordering.swap_eq_eq.trans SessionId.order_eq_iff

theorem order_eq_iff : s.order a b = .eq ↔ s.key.folded a = s.key.folded b := by
  obtain ⟨key, direction⟩ := s
  cases direction with
  | asc => exact key.order_eq_iff
  | desc => exact Ordering.swap_eq_eq.trans key.order_eq_iff

theorem equivalence_order : Equivalence fun a b => s.order a b = .eq where
  refl _ := Std.ReflCmp.compare_self
  symm := Std.OrientedCmp.eq_symm
  trans := Std.TransCmp.eq_trans

/-- Every sorting is a total preorder. Sessions compare equal if the same counts in the column, and
the direction turns all comparisons around. -/
theorem order_is_total_preorder (s : Sorting) :
    (∀ a, s.order a a = .eq) ∧
    (∀ a b, s.order b a = (s.order a b).swap) ∧
    (∀ a b c, (s.order a b).isLE = true → (s.order b c).isLE = true → (s.order a c).isLE = true) ∧
    (Equivalence fun a b => s.order a b = .eq) ∧
    (∀ a b, s.order a b = .eq ↔ s.key.folded a = s.key.folded b) ∧
    (∀ a first b second, s.order a first = .eq → s.order b second = .eq →
      s.order a b = s.order first second) ∧
    ∀ a b, order ⟨s.key, .desc⟩ a b = (order ⟨s.key, .asc⟩ a b).swap := by
  refine ⟨fun a => Std.ReflCmp.compare_self, fun a b => s.order_swap b a,
    fun a b c => Std.TransCmp.isLE_trans, s.equivalence_order, fun a b => s.order_eq_iff, ?_,
    fun a b => rfl⟩
  intro a first b second left right
  calc s.order a b
    _ = s.order first b := Std.TransCmp.congr_left left
    _ = s.order first second := Std.TransCmp.congr_right right

/-- A time in seconds comes before any in words, and the case of the words does not count. -/
example :
    let told (time : Elapsed) : Session := { Session.blank ⟨1⟩ with time := time }
    order ⟨.time, .asc⟩ (told (.seconds 30)) (told (.text "1 H")) = .lt ∧
      order ⟨.time, .desc⟩ (told (.text "1 H")) (told (.text "1 h")) = .eq := by
  decide +kernel

end Sorting

end SessionMonitor
