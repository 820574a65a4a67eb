import Mathlib.Data.List.Rotate
import DigitTrail.Entropy

/-!
Scripts as cyclic streams. A cycle is a list of numbers that is read over and over, at a place
that moves on by one with each draw and that nothing else has an influence on. A script moves
each number that it yields from its front to its end; so it is its own list rotated by the draws
made from it, and it yields what the cycle of its numbers yields.
-/

set_option autoImplicit false
set_option relaxedAutoImplicit false

namespace DigitTrail.Entropy

/-! ### Draws in a row -/

section Draws

variable {ε : Type} [Entropy ε]

/-- The source after `k` draws, where `bounds` are asked for one after the other. -/
def after (source : ε) (bounds : Nat → UInt32) : Nat → ε
  | 0 => source
  | k + 1 => (below (after source bounds k) (bounds k)).2

/-- The number that the draw after `k` others yields. -/
def draw (source : ε) (bounds : Nat → UInt32) (k : Nat) : UInt32 :=
  (below (after source bounds k) (bounds k)).1

private theorem toInt_ofNat_toNat (n : UInt32) : (Int64.ofNat n.toNat).toInt = n.toNat :=
  Int64.toInt_ofNat_of_lt (Nat.lt_trans n.toNat_lt (by decide))

theorem toInt_digit (source : ε) : (digit source).1.toInt = (below source 10).1.toNat :=
  toInt_ofNat_toNat _

theorem toInt_bit (source : ε) : (bit source).1.toInt = (below source 2).1.toNat :=
  toInt_ofNat_toNat _

end Draws

/-! ### Bounds -/

private theorem max_one_eq_self {bound : UInt32} (positive : 1 ≤ bound) : max bound 1 = bound := by
  apply UInt32.toNat.inj
  rw [UInt32.toNat_max]
  exact max_eq_left (UInt32.le_iff_toNat_le.mp positive)

private theorem Script.modulus_eq_max (bound : UInt32) : modulus bound = max bound 1 := by
  unfold modulus
  split_ifs with zero
  · rw [zero]
    rfl
  · have positive : 1 ≤ bound := by
      rw [UInt32.le_iff_toNat_le]
      exact Nat.pos_of_ne_zero fun none => zero (UInt32.toNat.inj none)
    exact (max_one_eq_self positive).symm

/-! ### Cycles -/

/-- A list of numbers that is read over and over, and the place where it is read next. -/
structure Cycle where
  numbers : List UInt32
  place : Nat
  deriving DecidableEq

namespace Cycle

/-- The number at the place; without numbers it is zero everywhere. -/
def number (c : Cycle) : UInt32 := (c.numbers[c.place % c.numbers.length]?).getD 0

def below (c : Cycle) (bound : UInt32) : UInt32 × Cycle :=
  (c.number % max bound 1, { c with place := c.place + 1 })

instance : Entropy Cycle := ⟨below⟩

def script (c : Cycle) : Script := ⟨c.numbers.rotate c.place⟩

private theorem after_eq (c : Cycle) (bounds : Nat → UInt32) (k : Nat) :
    after c bounds k = { c with place := c.place + k } := by
  induction k with
  | zero => rfl
  | succ k ih =>
    rw [after, ih]
    rfl

private theorem number_of_script_nil {c : Cycle} (empty : c.script.numbers = []) :
    c.number = 0 := by
  have none : c.numbers = [] := List.rotate_eq_nil_iff.mp empty
  unfold number
  rw [none]
  rfl

private theorem number_of_script_cons {c : Cycle} {n : UInt32} {rest : List UInt32}
    (first : c.script.numbers = n :: rest) : c.number = n := by
  have rotated : c.numbers.rotate c.place = n :: rest := first
  have nonempty : 0 < c.numbers.length := by
    rw [← List.length_rotate c.numbers c.place, rotated]
    exact Nat.succ_pos _
  have next := List.getElem?_rotate (n := c.place) nonempty
  rw [rotated, Nat.zero_add] at next
  unfold number
  rw [← next]
  rfl

/-- A script yields what the cycle yields, and moving the number to the end of the script comes
to moving on in the cycle. -/
theorem below_script (c : Cycle) (bound : UInt32) :
    Entropy.below c.script bound =
      ((Entropy.below c bound).1, (Entropy.below c bound).2.script) := by
  have onward : (c.below bound).2.script = ⟨c.script.numbers.rotate 1⟩ := by
    unfold script
    rw [List.rotate_rotate]
    rfl
  change Script.below c.script bound = (c.number % max bound 1, (c.below bound).2.script)
  rw [onward]
  rcases rotated : c.script with ⟨_ | ⟨n, rest⟩⟩
  · rw [number_of_script_nil (congrArg Script.numbers rotated), UInt32.zero_mod]
    rfl
  · rw [number_of_script_cons (congrArg Script.numbers rotated), ← Script.modulus_eq_max,
      List.rotate_cons_succ, List.rotate_zero]
    rfl

private theorem after_script (c : Cycle) (bounds : Nat → UInt32) (k : Nat) :
    after c.script bounds k = (after c bounds k).script := by
  induction k with
  | zero => rfl
  | succ k ih => rw [after, ih, below_script, after]

end Cycle

/-! ### What a script yields -/

namespace Script

variable (s : Script)

/-- The cycle of the numbers of a script, from the first on. -/
def cycle : Cycle := ⟨s.numbers, 0⟩

@[simp] theorem script_cycle : s.cycle.script = s := by
  unfold cycle Cycle.script
  rw [List.rotate_zero]

theorem after_eq_script (bounds : Nat → UInt32) (k : Nat) :
    after s bounds k = (⟨s.numbers, k⟩ : Cycle).script := by
  have moved : after s.cycle bounds k = ⟨s.numbers, k⟩ := by
    rw [Cycle.after_eq, cycle, Nat.zero_add]
  rw [← moved, ← Cycle.after_script, script_cycle]

theorem draw_eq (bounds : Nat → UInt32) (k : Nat) :
    draw s bounds k = (⟨s.numbers, k⟩ : Cycle).number % max (bounds k) 1 := by
  unfold draw
  rw [after_eq_script, Cycle.below_script]
  rfl

theorem draw_lt (bounds : Nat → UInt32) (k : Nat) (positive : 1 ≤ bounds k) :
    draw s bounds k < bounds k := by
  have nonzero : 0 < bounds k := UInt32.lt_iff_toNat_lt.mpr (UInt32.le_iff_toNat_le.mp positive)
  rw [draw_eq, max_one_eq_self positive]
  exact UInt32.mod_lt _ nonzero

theorem toInt_digit_bounds : 0 ≤ (digit s).1.toInt ∧ (digit s).1.toInt ≤ 9 := by
  have small : (Entropy.below s 10).1 < 10 := s.draw_lt (fun _ => 10) 0 (by decide)
  have few : (Entropy.below s 10).1.toNat < 10 := UInt32.lt_iff_toNat_lt.mp small
  rw [toInt_digit]
  omega

theorem toInt_bit_eq : (bit s).1.toInt = 0 ∨ (bit s).1.toInt = 1 := by
  have small : (Entropy.below s 2).1 < 2 := s.draw_lt (fun _ => 2) 0 (by decide)
  have few : (Entropy.below s 2).1.toNat < 2 := UInt32.lt_iff_toNat_lt.mp small
  rw [toInt_bit]
  omega

end Script

end DigitTrail.Entropy
