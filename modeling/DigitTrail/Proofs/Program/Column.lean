import Mathlib.Logic.Function.Iterate
import DigitTrail.Program.Machine
import DigitTrail.Proofs.Memory.Frame

/-!
What a column comes to. Its modifiers can turn the walker and draw digits and do nothing
else; and if its action lacks an operand, the row that the fault points at is the one
whose cell the action could not use.
-/

set_option autoImplicit false
set_option relaxedAutoImplicit false

namespace DigitTrail.Program

open Sheet (Cell Operator)

/-- The reversal that a modifier fires on a walker that last moved `dx` columns. -/
def Modifier.reversal? (dx : Int64) : Modifier → Option Walk.Reversal
  | .toggle => some .toggle
  | .backIfEast => if 0 < dx then some (.toward .backward) else none
  | .forwardIfWest => if dx < 0 then some (.toward .forward) else none
  | _ => none

/-- The action in a row cannot use what it finds: which cell, in which row, and what it
would have needed there. -/
inductive Offence (below : Nat → Cell) (action : Nat) : Expected → Cell → Nat → Prop
  | store (h : below action = .operator .store)
      (unnamed : ∀ name, below (action + 1) ≠ .name name) :
    Offence below action .name (below (action + 1)) (action + 1)
  | sum (h : below action = .operator .add ∨ below action = .operator .subtract)
      (full : below (action + 1) ≠ .blank) (unnamed : ∀ name, below (action + 1) ≠ .name name) :
    Offence below action .nameOrBlank (below (action + 1)) (action + 1)
  | load (h : below action = .operator .load) (full : below (action + 1) ≠ .blank)
      (unnamed : ∀ name, below (action + 1) ≠ .name name)
      (inactive : ∀ o, below (action + 1) ≠ .operator o) :
    Offence below action .nameBlankOrOperator (below (action + 1)) (action + 1)
  | comparison (h : below action = .operator .load) {o : Operator}
      (found : below (action + 1) = .operator o) (other : comparison? o = none) :
    Offence below action .comparison (below (action + 1)) (action + 1)
  | compared (h : below action = .operator .load) {o : Operator} {test : Comparison}
      (found : below (action + 1) = .operator o) (compares : comparison? o = some test)
      (full : below (action + 2) ≠ .blank) (unnamed : ∀ name, below (action + 2) ≠ .name name) :
    Offence below action .nameOrBlank (below (action + 2)) (action + 2)

section Operands

variable {below : Nat → Cell} {row r : Nat} {expected : Expected} {found : Cell}

private theorem readForm_malformed {use : Use}
    (h : readForm below use row = .malformed expected found r) :
    expected = .nameOrBlank ∧ found = below row ∧ r = row ∧ below row ≠ .blank ∧
      ∀ name, below row ≠ .name name := by
  unfold readForm at h
  split at h
  · cases h
  · cases h
  · rename_i full unnamed
    cases h
    exact ⟨rfl, rfl, rfl, full, unnamed⟩

private theorem eq_operator {c : Cell} {a : Action} (h : c.operator?.bind action? = some a) :
    ∃ o, c = .operator o ∧ action? o = some a := by
  cases c with
  | operator o => exact ⟨o, rfl, h⟩
  | _ => cases h

private theorem action?_eq {o : Operator} :
    (action? o = some .store → o = .store) ∧ (action? o = some .load → o = .load) ∧
      (action? o = some .add → o = .add) ∧ (action? o = some .subtract → o = .subtract) := by
  cases o <;> decide

theorem offence_of_malformed (h : instructionAt below row = .malformed expected found r) :
    Offence below row expected found r := by
  unfold instructionAt at h
  split at h
  · cases h
  · cases h
  · cases h
  · cases h
  · rename_i stores
    obtain ⟨o, cell, action⟩ := eq_operator stores
    cases action?_eq.1 action
    unfold storeForm at h
    split at h
    · cases h
    · rename_i unnamed
      cases h
      exact .store cell unnamed
  · rename_i loads
    obtain ⟨o, cell, action⟩ := eq_operator loads
    cases action?_eq.2.1 action
    unfold loadForm at h
    split at h
    · rename_i o below_eq
      split at h
      · rename_i test compares
        obtain ⟨rfl, rfl, rfl, full, unnamed⟩ := readForm_malformed h
        exact .compared cell below_eq compares full unnamed
      · rename_i other
        cases h
        rw [← below_eq]
        exact .comparison cell below_eq other
    · rename_i d below_eq
      cases h
      rw [← below_eq]
      exact .load cell (by simp [below_eq]) (by simp [below_eq]) (by simp [below_eq])
    · rename_i c below_eq
      cases h
      rw [← below_eq]
      exact .load cell (by simp [below_eq]) (by simp [below_eq]) (by simp [below_eq])
    · rename_i below_eq
      exact absurd below_eq (readForm_malformed h).2.2.2.1
    · rename_i name below_eq
      exact absurd below_eq ((readForm_malformed h).2.2.2.2 name)
  · rename_i adds
    obtain ⟨o, cell, action⟩ := eq_operator adds
    cases action?_eq.2.2.1 action
    obtain ⟨rfl, rfl, rfl, full, unnamed⟩ := readForm_malformed h
    exact .sum (.inl cell) full unnamed
  · rename_i subtracts
    obtain ⟨o, cell, action⟩ := eq_operator subtracts
    cases action?_eq.2.2.2 action
    obtain ⟨rfl, rfl, rfl, full, unnamed⟩ := readForm_malformed h
    exact .sum (.inr cell) full unnamed

end Operands

namespace Machine

open Walk (Walker)

variable {ε : Type} [Entropy ε]

def swayed (m : Machine ε) (reversals : List Walk.Reversal) (draws : Nat) : Machine ε :=
  { m with
    walker := reversals.foldl Walker.turn m.walker
    memory := m.memory.reseed ((fun e => (Entropy.digit e).2)^[draws] m.memory.entropy) }

private theorem turns_eq (w : Walker) (reversals : List Walk.Reversal) :
    ∃ last heading, reversals.foldl Walker.turn w =
      { w with
        cursor := { w.cursor with lastMove := last }
        reading := { w.reading with heading := heading } } := by
  induction reversals generalizing w with
  | nil => exact ⟨w.cursor.lastMove, w.reading.heading, rfl⟩
  | cons r reversals ih =>
    obtain ⟨last, heading, turned⟩ := ih (w.turn r)
    refine ⟨last, heading, ?_⟩
    rw [List.foldl_cons, turned]
    cases r <;> rfl

theorem velocity_swayed (m : Machine ε) (reversals : List Walk.Reversal) (k : Nat) :
    (m.swayed reversals k).walker.cursor.velocity = m.walker.cursor.velocity := by
  obtain ⟨last, heading, turned⟩ := turns_eq m.walker reversals
  simp only [swayed, turned]

theorem faultPlace_swayed (m : Machine ε) (reversals : List Walk.Reversal) (k row : Nat) :
    (m.swayed reversals k).faultPlace row = (m.walker.cursor.box.nearest
      (m.walker.cursor.position.shift ⟨0, Int64.ofNat row⟩)).place := by
  obtain ⟨last, heading, turned⟩ := turns_eq m.walker reversals
  simp only [swayed, turned]
  rfl

theorem preferred_swayed (m : Machine ε) (reversals : List Walk.Reversal) (k : Nat) :
    (m.swayed reversals k).walker.preferred = m.walker.preferred := by
  obtain ⟨last, heading, turned⟩ := turns_eq m.walker reversals
  simp only [swayed, turned]

private theorem swayed_swayed (m : Machine ε) (first later : List Walk.Reversal) (k n : Nat) :
    (m.swayed first k).swayed later n = m.swayed (first ++ later) (n + k) := by
  simp only [swayed, List.foldl_append, Function.iterate_add_apply, Memory.reseed]

theorem modify_eq (m : Machine ε) (p : Prepared) (x : Modifier) :
    ∃ k ≤ [x].count .deref,
      (m.modify p x).2 = m.swayed (x.reversal? m.walker.cursor.velocity.dx).toList k := by
  cases x with
  | deref =>
    cases held : (m.memory.registers.value? p.value).or p.fallback with
    | some v =>
      refine ⟨0, Nat.zero_le _, ?_⟩
      simp only [modify, Memory.register, held]
      rfl
    | none =>
      refine ⟨1, Nat.le_refl _, ?_⟩
      simp only [modify, Memory.register, held]
      rfl
  | pass => exact ⟨0, Nat.zero_le _, rfl⟩
  | ground => exact ⟨0, Nat.zero_le _, rfl⟩
  | toggle => exact ⟨0, Nat.zero_le _, rfl⟩
  | backIfEast =>
    refine ⟨0, Nat.zero_le _, ?_⟩
    simp only [modify, Modifier.reversal?]
    split <;> rfl
  | forwardIfWest =>
    refine ⟨0, Nat.zero_le _, ?_⟩
    simp only [modify, Modifier.reversal?]
    split <;> rfl

theorem prepare_eq (m : Machine ε) (d : Digit) (modifiers : List Modifier) :
    ∃ k ≤ modifiers.count .deref, (m.prepare d modifiers).2 =
      m.swayed (modifiers.filterMap (Modifier.reversal? m.walker.cursor.velocity.dx)) k := by
  unfold prepare
  generalize (⟨Digit.toInt d, false⟩ : Prepared) = p
  induction modifiers generalizing m p with
  | nil => exact ⟨0, Nat.le_refl _, rfl⟩
  | cons x modifiers ih =>
    obtain ⟨k, few, first⟩ := modify_eq m p x
    obtain ⟨n, fewer, rest⟩ := ih (m.modify p x).2 (m.modify p x).1
    refine ⟨n + k, ?_, ?_⟩
    · rw [List.count_cons, ← List.count_singleton]
      omega
    · rw [List.foldl_cons, rest, first, velocity_swayed, swayed_swayed]
      cases fires : x.reversal? m.walker.cursor.velocity.dx <;>
        simp [fires]

end Machine

end DigitTrail.Program
