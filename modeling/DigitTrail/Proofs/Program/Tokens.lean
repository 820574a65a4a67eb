import Mathlib.Data.List.Forall2
import DigitTrail.Proofs.Program.Mask
import DigitTrail.Proofs.Program.Semantics

/-!
The tokens under the cursor. Rows are counted with integers that stop at their limits, and a
sheet is too short for that to matter: a column reads what stands so many rows below the cursor
in the box, and the run of its modifiers ends before the sheet does.
-/

set_option autoImplicit false
set_option relaxedAutoImplicit false

namespace DigitTrail

open Plane (Box Position)
open Sheet (Cell Operator)

namespace Sheet

variable {s : Sheet}

def tokenAt (s : Sheet) (x y : Int) : Cell :=
  if 0 ≤ x ∧ 0 ≤ y then ((s.rows[y.toNat]?).bind fun row => row[x.toNat]?).getD .blank
  else .blank

theorem cell_eq_tokenAt (s : Sheet) (p : Position) : s.cell p = s.tokenAt p.x.toInt p.y.toInt := by
  have sign (i : Int64) : Number.index? i = if 0 ≤ i.toInt then some i.toInt.toNat else none := by
    simp only [Number.index?, Int64.le_iff_toInt_le]
    rfl
  unfold cell tokenAt
  rw [sign, sign]
  by_cases right : 0 ≤ p.x.toInt
  · by_cases down : 0 ≤ p.y.toInt
    · simp [right, down]
    · simp [right, down]
  · simp [right]

private theorem tokenAt_of_negative {x y : Int} (above : y < 0) : s.tokenAt x y = .blank := by
  have outside : ¬ (0 ≤ x ∧ 0 ≤ y) := by omega
  rw [tokenAt, if_neg outside]

private theorem tokenAt_of_height_le {x y : Int} (beyond : s.height ≤ y) :
    s.tokenAt x y = .blank := by
  unfold tokenAt
  split_ifs with inside
  · have missing : s.rows[y.toNat]? = none := by
      rw [Array.getElem?_eq_none_iff]
      change s.height ≤ _
      omega
    rw [missing]
    rfl
  · rfl

end Sheet

theorem Plane.Position.shift_down (p : Position) (dy : Int64) :
    p.shift ⟨0, dy⟩ = ⟨p.x, Number.satAdd p.y dy⟩ := by
  have still : Number.satAdd p.x 0 = p.x := by
    apply Int64.toInt.inj
    rw [Number.toInt_satAdd, Int64.toInt_zero]
    have least := Int64.minValue_le_toInt p.x
    have most := Int64.toInt_le p.x
    rw [Number.toInt_minValue] at least ⊢
    rw [Number.toInt_maxValue] at most ⊢
    omega
  rw [shift, still]

namespace Plane.Box

def Spans (b : Box) (x y : Int) : Prop :=
  b.lo.x.toInt ≤ x ∧ x ≤ b.hi.x.toInt ∧ b.lo.y.toInt ≤ y ∧ y ≤ b.hi.y.toInt

instance (b : Box) (x y : Int) : Decidable (b.Spans x y) :=
  inferInstanceAs (Decidable (_ ∧ _))

theorem contains_iff_spans (b : Box) (p : Position) :
    b.contains p = true ↔ b.Spans p.x.toInt p.y.toInt := by
  simp only [contains, Spans, Bool.and_eq_true, decide_eq_true_eq, Int64.le_iff_toInt_le, and_assoc]

end Plane.Box

namespace Program

private theorem mem_modifierOperators_iff (o : Operator) :
    o ∈ modifierOperators ↔ ∃ x, modifier? o = some x := by
  cases o <;> simp [modifierOperators, modifier?]

private theorem exists_run (below : Nat → Cell) (fuel row : Nat) :
    ∃ run : List Operator,
      List.Forall₂ (fun o x => modifier? o = some x) run (modifiersFrom below fuel row) ∧
      (∀ o ∈ run, o ∈ modifierOperators) ∧
      (∀ i o, run[i]? = some o → below (row + i) = .operator o) ∧
      run.length ≤ fuel ∧
      (run.length < fuel → ∀ o ∈ modifierOperators, below (row + run.length) ≠ .operator o) := by
  induction fuel generalizing row with
  | zero => exact ⟨[], .nil, by simp, by simp, by simp, by simp⟩
  | succ fuel ih =>
    unfold modifiersFrom
    cases found : (below row).operator?.bind modifier? with
    | none =>
      refine ⟨[], .nil, by simp, by simp, by simp, fun _ o listed stands => ?_⟩
      obtain ⟨x, modifies⟩ := (mem_modifierOperators_iff o).mp listed
      rw [List.length_nil, Nat.add_zero] at stands
      rw [stands] at found
      have unmodified : modifier? o = none := found
      rw [unmodified] at modifies
      cases modifies
    | some x =>
      obtain ⟨o, operator, modifies⟩ := Option.bind_eq_some_iff.mp found
      have stands : below row = .operator o := by
        cases cell : below row with
        | operator op =>
          rw [cell] at operator
          cases operator
          rfl
        | _ =>
          rw [cell] at operator
          cases operator
      obtain ⟨run, reads, listed, rows, few, ends⟩ := ih (row + 1)
      have first : o ∈ modifierOperators := (mem_modifierOperators_iff o).mpr ⟨x, modifies⟩
      refine ⟨o :: run, .cons modifies reads, List.forall_mem_cons.mpr ⟨first, listed⟩, ?_, ?_, ?_⟩
      · intro i o' listed
        cases i with
        | zero =>
          cases listed
          exact stands
        | succ i =>
          have later := rows i o' listed
          rwa [Nat.add_right_comm] at later
      · simpa using few
      · intro short o' listed
        have later := ends (by simpa using short) o' listed
        rwa [Nat.add_right_comm] at later

namespace Machine

variable {ε : Type} {m : Machine ε}

/-- The token so many rows below the cursor, blank outside the box. -/
def token (m : Machine ε) (rows : Nat) : Cell :=
  let x := m.walker.cursor.position.x.toInt
  let y := m.walker.cursor.position.y.toInt + rows
  if m.walker.cursor.box.Spans x y then m.sheet.tokenAt x y else .blank

def rowBelow (m : Machine ε) (rows : Nat) : Int :=
  (Number.satAdd m.walker.cursor.position.y (Int64.ofNat rows)).toInt

private theorem below_eq (m : Machine ε) (rows : Nat) :
    m.below rows =
      if m.walker.cursor.box.Spans m.walker.cursor.position.x.toInt (m.rowBelow rows) then
        m.sheet.tokenAt m.walker.cursor.position.x.toInt (m.rowBelow rows)
      else .blank := by
  rw [below, Walk.Walker.below, Walk.Walker.look_eq, Position.shift_down, Sheet.cell_eq_tokenAt]
  simp only [Box.contains_iff_spans]
  rfl

theorem bounds_of_token {rows : Nat} (full : m.token rows ≠ .blank) :
    0 ≤ m.walker.cursor.position.y.toInt + rows ∧
      m.walker.cursor.position.y.toInt + rows < m.sheet.height := by
  unfold token at full
  dsimp only at full
  split_ifs at full with inside
  · constructor
    · by_contra above
      exact full (Sheet.tokenAt_of_negative (by omega))
    · by_contra beyond
      exact full (Sheet.tokenAt_of_height_le (by omega))
  · exact absurd rfl full

private theorem below_eq_token (tall : m.sheet.height < Nat.pow 2 63) {rows : Nat}
    (few : rows < Nat.pow 2 63) : m.below rows = m.token rows := by
  have limit : Nat.pow 2 63 = 9223372036854775808 := rfl
  have count : (Int64.ofNat rows).toInt = rows := Int64.toInt_ofNat_of_lt few
  have sum : m.rowBelow rows = _ :=
    Number.toInt_satAdd m.walker.cursor.position.y (Int64.ofNat rows)
  have least := Int64.minValue_le_toInt m.walker.cursor.position.y
  have most := Int64.toInt_le m.walker.cursor.box.hi.y
  rw [count, Number.toInt_minValue, Number.toInt_maxValue] at sum
  rw [Number.toInt_minValue] at least
  rw [Number.toInt_maxValue] at most
  rw [below_eq, token]
  by_cases inside : m.walker.cursor.position.y.toInt + rows ≤ 9223372036854775807
  · have same : m.rowBelow rows = m.walker.cursor.position.y.toInt + rows := by omega
    rw [same]
  · have last : m.rowBelow rows = 9223372036854775807 := by omega
    have beyond : m.sheet.tokenAt m.walker.cursor.position.x.toInt (m.rowBelow rows) = .blank :=
      Sheet.tokenAt_of_height_le (by omega)
    have outside : ¬ m.walker.cursor.box.Spans m.walker.cursor.position.x.toInt
        (m.walker.cursor.position.y.toInt + rows) := by
      rintro ⟨_, _, _, under⟩
      omega
    rw [beyond, if_neg outside, ite_self]

/-- Below a run of tokens that are not blank, rows so far down that they cannot be counted are
blank, and a column reads them as blank. -/
private theorem below_eq_token_of_run (tall : m.sheet.height < Nat.pow 2 63) {length rows : Nat}
    (short : length ≤ m.sheet.height)
    (full : ∀ i < length, m.token (i + 1) ≠ .blank) (near : rows ≤ length + 3) :
    m.below rows = m.token rows := by
  by_cases few : rows < Nat.pow 2 63
  · exact below_eq_token tall few
  have limit : Nat.pow 2 63 = 9223372036854775808 := rfl
  obtain ⟨first, _⟩ := bounds_of_token (full 0 (by omega))
  obtain ⟨_, last⟩ := bounds_of_token (full (length - 1) (by omega))
  have wrapped : (Int64.ofNat rows).toInt = rows - 18446744073709551616 := by
    have size : Int64.size = 18446744073709551616 := rfl
    rw [Int64.toInt_ofNat', Int.bmod_def, size]
    omega
  have sum : m.rowBelow rows = _ :=
    Number.toInt_satAdd m.walker.cursor.position.y (Int64.ofNat rows)
  rw [wrapped, Number.toInt_minValue, Number.toInt_maxValue] at sum
  have above : m.rowBelow rows < 0 := by omega
  have blank : m.token rows = .blank := by
    by_contra full
    have bounds := bounds_of_token full
    omega
  rw [below_eq, blank, Sheet.tokenAt_of_negative above, ite_self]

theorem exists_longestRun (tall : m.sheet.height < Nat.pow 2 63) :
    ∃ run, LongestRun m.token run ∧
      List.Forall₂ (fun o x => modifier? o = some x) run m.column.modifiers ∧
      ∀ rows ≤ run.length + 3, m.below rows = m.token rows := by
  obtain ⟨run, reads, modifies, rows, few, ends⟩ := exists_run m.below m.sheet.height 1
  have stands : ∀ i o, run[i]? = some o → m.token (i + 1) = .operator o := by
    intro i o listed
    have early : i < run.length := (List.getElem?_eq_some_iff.mp listed).1
    rw [← below_eq_token tall (by omega), Nat.add_comm]
    exact rows i o listed
  have full : ∀ i < run.length, m.token (i + 1) ≠ .blank := by
    intro i early blank
    have operator := stands i run[i] (List.getElem?_eq_getElem early)
    rw [blank] at operator
    cases operator
  have agree : ∀ rows ≤ run.length + 3, m.below rows = m.token rows := fun rows near =>
    below_eq_token_of_run tall few full near
  refine ⟨run, ⟨modifies, stands, ?_⟩, reads, agree⟩
  intro o listed goesOn
  by_cases short : run.length < m.sheet.height
  · apply ends short o listed
    rw [agree _ (by omega), Nat.add_comm]
    exact goesOn
  · have further : m.token (run.length + 1) ≠ .blank := by
      rw [goesOn]
      exact Cell.noConfusion
    have after := bounds_of_token further
    by_cases empty : run.length = 0
    · omega
    · have first := bounds_of_token (full 0 (by omega))
      omega

end Machine

end Program

end DigitTrail
