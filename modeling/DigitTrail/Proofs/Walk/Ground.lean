import DigitTrail.Plane
import DigitTrail.Reference
import DigitTrail.Sheet.Basic

/-!
The ground that a walk stands on. A sum that is strictly between the limits is
exact, so it can be undone; a position that a box leaves where it is lies in the
box; and what a sheet or a reference shows, it shows at an index within its size.
-/

set_option autoImplicit false
set_option relaxedAutoImplicit false

namespace DigitTrail

namespace Number

theorem toInt_minValue : Int64.minValue.toInt = -9223372036854775808 := by decide

theorem toInt_maxValue : Int64.maxValue.toInt = 9223372036854775807 := by decide

theorem toInt_satAdd_of_between {a b : Int64} (low : Int64.minValue.toInt < (satAdd a b).toInt)
    (high : (satAdd a b).toInt < Int64.maxValue.toInt) :
    (satAdd a b).toInt = a.toInt + b.toInt := by
  have bound := toInt_satAdd a b
  rw [bound] at low high ⊢
  omega

theorem satAdd_satAdd_of_neg {a b c : Int64} (opposite : c.toInt = -b.toInt)
    (low : Int64.minValue.toInt < (satAdd a b).toInt)
    (high : (satAdd a b).toInt < Int64.maxValue.toInt) : satAdd (satAdd a b) c = a := by
  have exact_sum := toInt_satAdd_of_between low high
  apply Int64.toInt.inj
  rw [toInt_satAdd, exact_sum, opposite]
  have least := Int64.minValue_le_toInt a
  have most := Int64.toInt_le a
  rw [toInt_minValue] at least ⊢
  rw [toInt_maxValue] at most ⊢
  omega

theorem toInt_nonneg_of_index? {i : Int64} {n : Nat} (h : index? i = some n) :
    i.toInt = Int.ofNat n := by
  unfold index? at h
  split at h
  · rename_i sign
    have value := Int64.le_iff_toInt_le.mp sign
    have zero : (0 : Int64).toInt = 0 := rfl
    cases Option.some.inj h
    simp only [Int.ofNat_eq_natCast]
    omega
  · cases h

end Number

namespace Plane.Box

private theorem within_eq_self_iff (lo hi v : Int64) : within lo hi v = v ↔ lo ≤ v ∧ v ≤ hi := by
  unfold within
  constructor
  · intro h
    split at h
    · rename_i below
      rw [h] at below
      exact absurd below (Int64.lt_irrefl)
    · rename_i notBelow
      split at h
      · rename_i above
        rw [h] at above
        exact absurd above (Int64.lt_irrefl)
      · rename_i notAbove
        exact ⟨Int64.not_lt.mp notBelow, Int64.not_lt.mp notAbove⟩
  · rintro ⟨low, high⟩
    rw [if_neg (Int64.not_lt.mpr low), if_neg (Int64.not_lt.mpr high)]

theorem nearest_eq_self_iff (b : Box) (p : Position) : b.nearest p = p ↔ b.contains p = true := by
  have both : b.nearest p = p ↔
      within b.lo.x b.hi.x p.x = p.x ∧ within b.lo.y b.hi.y p.y = p.y := by
    cases p
    simp only [nearest, Position.mk.injEq]
  rw [both, within_eq_self_iff, within_eq_self_iff]
  simp only [contains, Bool.and_eq_true, decide_eq_true_eq, and_assoc]

theorem clamp_moved_eq_false_iff (b : Box) (p : Position) :
    (b.clamp p).moved = false ↔ b.contains p = true := by
  rw [← nearest_eq_self_iff]
  simp [clamp]

end Plane.Box

namespace Reference

theorem index_of_get? {r : Reference} {i : Int64} {d : Digit} (h : r.get? i = some d) :
    0 ≤ i.toInt ∧ i.toInt < Int.ofNat r.size := by
  obtain ⟨n, hn, hd⟩ := Option.bind_eq_some_iff.mp h
  have value := Number.toInt_nonneg_of_index? hn
  have mark : r.marks[n]? = some (some d) := Option.join_eq_some_iff.mp hd
  obtain ⟨inside, _⟩ := Array.getElem?_eq_some_iff.mp mark
  rw [value]
  simp only [size, Int.ofNat_eq_natCast]
  omega

end Reference

namespace Sheet

open Plane (Position)

/-- The rows of a sheet, and the cells of each, are fewer than an index can count. -/
structure Indexable (s : Sheet) : Prop where
  height : s.rows.size < Nat.pow 2 63
  width : ∀ row ∈ s.rows, row.size < Nat.pow 2 63

theorem index_of_cell {s : Sheet} {p : Position} {d : Digit} (counted : s.Indexable)
    (h : s.cell p = .path d) :
    (0 ≤ p.x.toInt ∧ p.x.toInt < Int64.maxValue.toInt) ∧
      0 ≤ p.y.toInt ∧ p.y.toInt < Int64.maxValue.toInt := by
  unfold cell at h
  split at h
  · rename_i x y hx hy
    have valueX := Number.toInt_nonneg_of_index? hx
    have valueY := Number.toInt_nonneg_of_index? hy
    cases hrow : s.rows[y]? with
    | none => simp [hrow] at h
    | some row =>
      cases hcell : row[x]? with
      | none => simp [hrow, hcell] at h
      | some c =>
        obtain ⟨insideY, found⟩ := Array.getElem?_eq_some_iff.mp hrow
        obtain ⟨insideX, _⟩ := Array.getElem?_eq_some_iff.mp hcell
        have tall := counted.height
        have wide := counted.width row (found ▸ Array.getElem_mem insideY)
        have limit : Nat.pow 2 63 = 9223372036854775808 := rfl
        rw [valueX, valueY, Number.toInt_maxValue]
        simp only [Int.ofNat_eq_natCast]
        omega
  · cases h

end Sheet

end DigitTrail
