import Mathlib
import SessionMonitor.Decimal.Layout
import SessionMonitor.Summary

/-!
# Sums from zero

Two doubles are zero, and a sum may begin with either. The negative zero leaves every double as it
is. The positive one does so too, but for the negative zero, which it makes positive. So it matters
with which of them a sum begins only where nothing but negative zeros is added. The facts about
packed doubles are those of `Batteries.Data.Float.Lemmas`, which only Mathlib as a whole imports.
-/

namespace SessionMonitor.Decimal

open Float.Model.UnpackedFloat

/-! ### Adding to zero -/

theorem add_eq_pack (x y : Float) :
    x + y = .ofModel (.pack (add .binary64 x.toModel.unpack y.toModel.unpack)) :=
  rfl

theorem pack_unpack (x : Float) : .ofModel (.pack x.toModel.unpack) = x :=
  Float.ofBits_toBits x

theorem unpack_eq_zero_iff {x : Float} {sign : Sign} :
    x.toModel.unpack = .zero sign ↔ x.toBits.toBitVec = packedZero .binary64 sign :=
  unpack_eq_zero_iff_of_valid x.toModel.valid

theorem unpack_zero : (0.0 : Float).toModel.unpack = .zero .positive :=
  unpack_eq_zero_iff.mpr (by decide)

theorem unpack_eq_negative_iff {x : Float} : x.toModel.unpack = .zero .negative ↔ x = -0.0 := by
  have bits : (-0.0 : Float).toBits.toBitVec = packedZero .binary64 .negative := by decide
  rw [unpack_eq_zero_iff, ← bits, UInt64.toBitVec_inj, Float.toBits_inj]

/-- A zero leaves a double as it is if it does so with what is unpacked of it. -/
theorem add_eq_of_unpack {zero x : Float} {sign : Sign} (unpacked : zero.toModel.unpack = .zero sign)
    (kept : add .binary64 (.zero sign) x.toModel.unpack = x.toModel.unpack) : zero + x = x := by
  rw [add_eq_pack, unpacked, kept, pack_unpack]

theorem negZero_add (x : Float) : -0.0 + x = x := by
  refine add_eq_of_unpack (unpack_eq_negative_iff.mpr rfl) ?_
  cases x.toModel.unpack with
  | zero sign => cases sign <;> rfl
  | _ => rfl

theorem zero_add_of_ne {x : Float} (ne : x ≠ -0.0) : 0.0 + x = x := by
  refine add_eq_of_unpack unpack_zero ?_
  cases shape : x.toModel.unpack with
  | zero sign =>
    cases sign with
    | positive => rfl
    | negative => exact (ne (unpack_eq_negative_iff.mp shape)).elim
  | _ => rfl

theorem zero_add_negZero : (0.0 : Float) + -0.0 = 0.0 := by
  decide

/-! ### Sums -/

variable {xs : List Float}

theorem sum_of_negZeros (zeros : ∀ x ∈ xs, x = -0.0) : Summary.sum xs = -0.0 := by
  unfold Summary.sum
  induction xs with
  | nil => rfl
  | cons x rest ih =>
    obtain ⟨rfl, others⟩ := List.forall_mem_cons.mp zeros
    rw [List.foldl_cons, negZero_add]
    exact ih others

theorem foldl_add_of_negZeros (zeros : ∀ x ∈ xs, x = -0.0) : xs.foldl (· + ·) 0.0 = 0.0 := by
  induction xs with
  | nil => rfl
  | cons x rest ih =>
    obtain ⟨rfl, others⟩ := List.forall_mem_cons.mp zeros
    rw [List.foldl_cons, zero_add_negZero]
    exact ih others

/-- Behind anything but negative zeros a sum does not remember from which zero it began. -/
theorem sum_eq_foldl_add (other : ∃ x ∈ xs, x ≠ -0.0) :
    Summary.sum xs = xs.foldl (· + ·) 0.0 := by
  unfold Summary.sum
  induction xs with
  | nil =>
    obtain ⟨x, member, -⟩ := other
    cases member
  | cons x rest ih =>
    rw [List.foldl_cons, List.foldl_cons, negZero_add]
    -- Up to the first other double the sums are the two zeros, and from then on they are the same.
    by_cases zero : x = -0.0
    · rw [zero, zero_add_negZero]
      refine ih ?_
      obtain ⟨y, member, ne⟩ := other
      rcases List.mem_cons.mp member with rfl | later
      · exact (ne zero).elim
      · exact ⟨y, later, ne⟩
    · rw [zero_add_of_ne zero]

theorem negZeros_or (xs : List Float) : (∀ x ∈ xs, x = -0.0) ∨ ∃ x ∈ xs, x ≠ -0.0 := by
  by_cases zeros : ∀ x ∈ xs, x = -0.0
  · exact .inl zeros
  · exact .inr (by simpa using zeros)

theorem sum_eq_foldl_add_iff : Summary.sum xs = xs.foldl (· + ·) 0.0 ↔ ∃ x ∈ xs, x ≠ -0.0 := by
  refine ⟨fun same => (negZeros_or xs).resolve_left fun zeros => ?_, sum_eq_foldl_add⟩
  rw [sum_of_negZeros zeros, foldl_add_of_negZeros zeros] at same
  exact absurd same (by decide)

/-- Where the two sums differ, so do their texts. -/
theorem onePlace_sum_eq_iff :
    onePlace (Summary.sum xs) = onePlace (xs.foldl (· + ·) 0.0) ↔ ∃ x ∈ xs, x ≠ -0.0 := by
  refine ⟨fun same => (negZeros_or xs).resolve_left fun zeros => ?_,
    fun other => by rw [sum_eq_foldl_add other]⟩
  rw [sum_of_negZeros zeros, foldl_add_of_negZeros zeros] at same
  exact absurd same (by decide +kernel)

end SessionMonitor.Decimal
