import Mathlib.Data.List.Induction
import DigitTrail.Proofs.Walk.Ground

/-!
Readings after any history. The index of a reading is the balance of the steps that it has taken
each way, whichever way it was turned in between. The digit behind a reading is computed from its
heading and is not remembered, so it is the digit the reading came from only right after a step:
there it is, and no earlier change of heading matters.
-/

set_option autoImplicit false
set_option relaxedAutoImplicit false

namespace DigitTrail.Reference

theorem Heading.toInt_step_forward : Heading.forward.step.toInt = 1 := by decide

theorem Heading.toInt_step_backward : Heading.backward.step.toInt = -1 := by decide

/-- What can be done to a reading. -/
inductive ReadingAction
  | advance
  | turn
  | head (heading : Heading)
  deriving DecidableEq, Repr

def Heading.apply (h : Heading) : ReadingAction → Heading
  | .advance => h
  | .turn => h.reverse
  | .head h' => h'

def headingAfter (history : List ReadingAction) : Heading := history.foldl Heading.apply .forward

def stepsToward (h : Heading) (history : List ReadingAction) : Nat :=
  (List.range history.length).countP fun k =>
    history[k]? = some .advance ∧ headingAfter (history.take k) = h

/-- The steps of a history that were taken forward, less those that were taken backward. -/
def balance (history : List ReadingAction) : Int :=
  stepsToward .forward history - stepsToward .backward history

section History

variable (history : List ReadingAction) (a : ReadingAction)

private theorem headingAfter_concat :
    headingAfter (history ++ [a]) = (headingAfter history).apply a := by
  rw [headingAfter, List.foldl_append]
  rfl

private theorem stepsToward_concat (h : Heading) :
    stepsToward h (history ++ [a]) =
      stepsToward h history + if a = .advance ∧ headingAfter history = h then 1 else 0 := by
  have earlier : (List.range history.length).countP (fun k =>
      (history ++ [a])[k]? = some .advance ∧ headingAfter ((history ++ [a]).take k) = h) =
      stepsToward h history := by
    apply List.countP_congr
    intro k member
    have inside : k < history.length := List.mem_range.mp member
    rw [List.getElem?_append_left inside, List.take_append_of_le_length (Nat.le_of_lt inside)]
  unfold stepsToward
  rw [List.length_append, List.length_singleton, List.range_succ, List.countP_append, earlier,
    List.countP_singleton]
  simp [stepsToward]

private theorem stepsToward_le :
    stepsToward .forward history + stepsToward .backward history ≤ history.length := by
  induction history using List.reverseRecOn with
  | nil => exact Nat.le_refl 0
  | append_singleton history a ih =>
    rw [stepsToward_concat, stepsToward_concat, List.length_append, List.length_singleton]
    split_ifs with ahead back
    · cases ahead.2.symm.trans back.2
    all_goals omega

private theorem balance_concat :
    balance (history ++ [a]) =
      balance history + if a = .advance then (headingAfter history).step.toInt else 0 := by
  unfold balance
  rw [stepsToward_concat, stepsToward_concat]
  by_cases steps : a = .advance
  · cases heading : headingAfter history with
    | forward =>
      simp only [steps, true_and, if_true, reduceCtorEq, if_false, Heading.toInt_step_forward]
      omega
    | backward =>
      simp only [steps, true_and, if_true, reduceCtorEq, if_false, Heading.toInt_step_backward]
      omega
  · simp [steps]

end History

namespace Reading

variable {r : Reading}

theorem toInt_index_advance (low : Int64.minValue.toInt < r.index.toInt)
    (high : r.index.toInt < Int64.maxValue.toInt) :
    r.advance.index.toInt = r.index.toInt + r.heading.step.toInt := by
  change (Number.satAdd r.index r.heading.step).toInt = _
  rw [Number.toInt_satAdd]
  cases r.heading with
  | forward => rw [Heading.toInt_step_forward]; omega
  | backward => rw [Heading.toInt_step_backward]; omega

theorem previous_advance (low : Int64.minValue.toInt < r.index.toInt)
    (high : r.index.toInt < Int64.maxValue.toInt) : r.advance.previous = r.digit := by
  have stepped := toInt_index_advance low high
  have opposite : (-r.heading.step).toInt = -r.heading.step.toInt := by
    cases r.heading <;> decide
  have back : Number.satAdd r.advance.index (-r.heading.step) = r.index := by
    apply Int64.toInt.inj
    rw [Number.toInt_satAdd, stepped, opposite]
    omega
  exact congrArg r.reference.get? back

def apply (r : Reading) : ReadingAction → Reading
  | .advance => r.advance
  | .turn => r.turn
  | .head h => r.head h

def after (reference : Reference) (history : List ReadingAction) : Reading :=
  history.foldl apply (start reference)

private theorem after_concat (reference : Reference) (history : List ReadingAction)
    (a : ReadingAction) :
    after reference (history ++ [a]) = (after reference history).apply a := by
  rw [after, List.foldl_append]
  rfl

/-- What holds of a reading of a reference after a history. -/
structure Tracks (reference : Reference) (history : List ReadingAction) (r : Reading) : Prop where
  reference : r.reference = reference
  heading : r.heading = headingAfter history
  index : r.index.toInt = balance history

private theorem Tracks.between {reference : Reference} {history : List ReadingAction}
    (tracks : Tracks reference history r) (short : history.length + 1 < Nat.pow 2 63) :
    Int64.minValue.toInt < r.index.toInt ∧ r.index.toInt < Int64.maxValue.toInt := by
  have limit : Nat.pow 2 63 = 9223372036854775808 := rfl
  have steps := stepsToward_le history
  rw [tracks.index, balance, Number.toInt_minValue, Number.toInt_maxValue]
  omega

private theorem Tracks.apply {reference : Reference} {history : List ReadingAction}
    (tracks : Tracks reference history r) (short : history.length + 1 < Nat.pow 2 63)
    (a : ReadingAction) : Tracks reference (history ++ [a]) (r.apply a) := by
  obtain ⟨low, high⟩ := tracks.between short
  cases a with
  | advance =>
    refine ⟨tracks.reference, ?_, ?_⟩
    · rw [headingAfter_concat]
      exact tracks.heading
    · rw [balance_concat, if_pos rfl, ← tracks.index, ← tracks.heading]
      exact toInt_index_advance low high
  | turn =>
    refine ⟨tracks.reference, ?_, ?_⟩
    · rw [headingAfter_concat, ← tracks.heading]
      rfl
    · rw [balance_concat, if_neg nofun, Int.add_zero]
      exact tracks.index
  | head h =>
    refine ⟨tracks.reference, ?_, ?_⟩
    · rw [headingAfter_concat]
      rfl
    · rw [balance_concat, if_neg nofun, Int.add_zero]
      exact tracks.index

private theorem tracks_after (reference : Reference) {history : List ReadingAction}
    (short : history.length < Nat.pow 2 63) :
    Tracks reference history (after reference history) := by
  induction history using List.reverseRecOn with
  | nil => exact ⟨rfl, rfl, rfl⟩
  | append_singleton history a ih =>
    rw [List.length_append, List.length_singleton] at short
    rw [after_concat]
    exact (ih (Nat.lt_of_succ_lt short)).apply short a

/-- For every reference and every history of fewer than `2 ^ 63` actions: the index of the
reading is the number of steps that were taken while it headed forward less the number of those
taken backward, and it shows the mark at that index; and right after any step of the history the
digit behind the reading is the one that it was at before that step, whatever turned it earlier. -/
theorem index_is_balance_and_previous_was_read (reference : Reference)
    {history : List ReadingAction} (short : history.length < Nat.pow 2 63) :
    let r := after reference history
    r.heading = headingAfter history ∧
    r.index.toInt = stepsToward .forward history - stepsToward .backward history ∧
    r.digit = (if 0 ≤ balance history then (reference.marks[(balance history).toNat]?).join
      else none) ∧
    ∀ before rest, history = before ++ .advance :: rest →
      (after reference (before ++ [.advance])).previous = (after reference before).digit := by
  intro r
  have tracks : Tracks reference history r := tracks_after reference short
  refine ⟨tracks.heading, tracks.index, ?_, ?_⟩
  · have sign : 0 ≤ r.index ↔ 0 ≤ balance history := by
      rw [Int64.le_iff_toInt_le, tracks.index]
      rfl
    unfold digit get? Number.index?
    rw [tracks.reference, tracks.index]
    simp only [sign]
    split_ifs <;> rfl
  · rintro before rest rfl
    rw [List.length_append, List.length_cons] at short
    have earlier : Tracks reference before (after reference before) :=
      tracks_after reference (by omega)
    obtain ⟨low, high⟩ := earlier.between (by omega)
    rw [after_concat]
    exact previous_advance low high

/-- Over a gap, back beyond the first digit, and forward again. -/
theorem index_of_a_reading_that_was_turned_back :
    let reference : Reference := ⟨#[some 3, none, some 1]⟩
    let history : List ReadingAction :=
      [.advance, .advance, .turn, .advance, .advance, .advance, .head .forward, .turn, .turn,
        .advance]
    history.length < Nat.pow 2 63 ∧ (after reference history).index.toInt = 3 - 3 ∧
    (after reference (history.take 3 ++ [.advance])).previous = some 1 ∧
    (after reference history).previous = none := by
  intro reference history
  have short : history.length < Nat.pow 2 63 := by decide
  obtain ⟨_, index, _, left⟩ := index_is_balance_and_previous_was_read reference short
  have digit : (after reference (history.take 3)).digit = some 1 := by decide
  have last : (after reference (history.take 9)).digit = none := by decide
  refine ⟨short, index, ?_, ?_⟩
  · rw [left (history.take 3) (history.drop 4) rfl, digit]
  · rw [← last]
    exact left (history.take 9) [] rfl

end Reading

end DigitTrail.Reference
