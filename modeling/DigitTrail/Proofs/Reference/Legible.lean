import Mathlib.Data.List.TakeWhile
import DigitTrail.Reference

/-!
The references that a program can be given: the digits that are built in, or a text
in which at least one digit was found. Neither is empty, so a reading starts on it.
-/

set_option autoImplicit false
set_option relaxedAutoImplicit false

namespace DigitTrail.Reference

def Legible (r : Reference) : Prop := r = pi ∨ ∃ text, ofText? text = some r

private theorem length_toList_loop (bytes : ByteArray) (i : Nat) (r : List UInt8) :
    (ByteArray.toList.loop bytes i r).length = r.length + (bytes.size - i) := by
  fun_induction ByteArray.toList.loop bytes i r with
  | case1 i r more ih =>
    rw [ih, List.length_cons]
    omega
  | case2 i r done =>
    rw [List.length_reverse]
    omega

private theorem size_marksOf (s : String) :
    (marksOf s).size = (Text.trimBlank s).utf8ByteSize := by
  simp [marksOf, ByteArray.toList, length_toList_loop]

private theorem trimBlank_ne_empty {s : String} {c : Char} (member : c ∈ s.toList)
    (visible : Text.isBlank c = false) : Text.trimBlank s ≠ "" := by
  intro empty
  have chars : ∀ x ∈ s.toList.dropWhile Text.isBlank, Text.isBlank x = true := by
    simpa [Text.trimBlank] using congrArg String.toList empty
  have rest : s.toList.dropWhile Text.isBlank = [] := by
    cases h : s.toList.dropWhile Text.isBlank with
    | nil => rfl
    | cons x l =>
      have first := List.head?_dropWhile_not Text.isBlank s.toList
      rw [h] at first chars
      simp [chars x (by simp)] at first
  have blank := List.dropWhile_eq_nil_iff.mp rest c member
  rw [visible] at blank
  cases blank

private theorem visible_numeral (i : Int) :
    ∃ c ∈ (toString i).toList, Text.isBlank c = false := by
  have digits (n : Nat) : ∃ c ∈ Nat.toDigits 10 n, Text.isBlank c = false := by
    cases h : Nat.toDigits 10 n with
    | nil => exact absurd h Nat.toDigits_ne_nil
    | cons c l =>
      have written := Nat.isDigit_of_mem_toDigits (by decide) (by decide)
        (h ▸ List.mem_cons_self : c ∈ Nat.toDigits 10 n)
      refine ⟨c, List.mem_cons_self, ?_⟩
      simp only [Char.isDigit, Bool.and_eq_true, decide_eq_true_eq] at written
      have low : 48 ≤ c.toNat := written.1
      have high : c.toNat ≤ 57 := written.2
      simp only [Text.isBlank, Text.blankRanges, List.any_cons, List.any_nil, Bool.or_false,
        Bool.or_eq_false_iff, Bool.and_eq_false_iff, decide_eq_false_iff_not]
      omega
  cases i with
  | ofNat n =>
    obtain ⟨c, member, visible⟩ := digits n
    refine ⟨c, ?_, visible⟩
    change c ∈ (Nat.repr n).toList
    simpa [Nat.repr] using member
  | negSucc n =>
    refine ⟨'-', ?_, by decide⟩
    change '-' ∈ ("-" ++ Nat.repr (n + 1)).toList
    simp

theorem Legible.size_pos {r : Reference} (legible : r.Legible) : 0 < r.size := by
  rcases legible with rfl | ⟨text, read⟩
  · unfold pi size
    generalize piScaled 9999 = i
    obtain ⟨c, member, visible⟩ := visible_numeral i
    rw [size_marksOf]
    apply Nat.pos_of_ne_zero
    rw [Ne, String.utf8ByteSize_eq_zero_iff]
    exact trimBlank_ne_empty member visible
  · unfold ofText? at read
    split at read
    · rename_i digit
      cases read
      obtain ⟨n, inside, _⟩ := Array.any_eq_true.mp digit
      exact Nat.zero_lt_of_lt inside
    · cases read

end DigitTrail.Reference
