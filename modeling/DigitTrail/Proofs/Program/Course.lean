import DigitTrail.Proofs.Program.Synchrony
import DigitTrail.Proofs.Program.Order

/-!
The course of a program is its cursor and its reading. A tick that moves steps both of them;
after that, the rest of a step only turns the walker, once for each reversal that the modifiers
of its column fire. A dead end steps the reading alone, and nothing that a driver does in
between touches either, a new box apart.
-/

set_option autoImplicit false
set_option relaxedAutoImplicit false

namespace DigitTrail

namespace Walk.Walker

def course (w : Walker) : Cursor × Reference.Reading := (w.cursor, w.reading)

theorem lastMove_turns (w : Walker) (r : Reversal) (reversals : List Reversal) :
    ((r :: reversals).foldl turn w).cursor.lastMove = none := by
  induction reversals generalizing w r with
  | nil => cases r <;> rfl
  | cons r' reversals ih =>
    rw [List.foldl_cons]
    exact ih (w.turn r) r'

end Walk.Walker

namespace Program

/-- The reversals that a column fires, in order, if the last move went `dx` columns. -/
def Column.reversals (c : Column) (dx : Int64) : List Walk.Reversal :=
  c.modifiers.filterMap (Modifier.reversal? dx)

theorem Modifier.reversal?_isSome {dx : Int64} {x : Modifier} {r : Walk.Reversal}
    (h : x.reversal? dx = some r) :
    x = .toggle ∨ (x = .backIfEast ∧ 0 < dx) ∨ (x = .forwardIfWest ∧ dx < 0) := by
  cases x with
  | toggle => exact .inl rfl
  | backIfEast =>
    refine .inr (.inl ⟨rfl, ?_⟩)
    by_contra west
    simp [reversal?, west] at h
  | forwardIfWest =>
    refine .inr (.inr ⟨rfl, ?_⟩)
    by_contra east
    simp [reversal?, east] at h
  | deref => cases h
  | pass => cases h
  | ground => cases h

namespace Machine

variable {ε : Type} [Entropy ε]

/-! ### What an instruction leaves alone -/

omit [Entropy ε] in
private theorem course_prefer (m : Machine ε) (value : Int64) (preferred : Bool) :
    (m.prefer value preferred).walker.course = m.walker.course := by
  unfold prefer
  split <;> rfl

private theorem walker_conclude (m : Machine ε) (i : Intent) (operand : Option Int64) :
    (m.conclude i operand).walker = m.walker := by
  obtain ⟨e, v, concluded⟩ := conclude_eq m i operand
  rw [concluded]

private theorem walker_collect (m : Machine ε) (i : Intent) (ticket : Nat) (key : String) :
    (m.collect i ticket key).2.walker = m.walker := by
  unfold collect
  split
  · exact walker_conclude m.resume i _
  · rfl

private theorem walker_answer (m : Machine ε) (q : Question) (reply : Option String) :
    (m.answer q reply).2.walker = m.walker := by
  cases reply with
  | none => rfl
  | some text => exact walker_collect (m.accept q.terminal text) _ _ _

private theorem walker_await (m : Machine ε) (i : Intent) (ticket : Nat) (key : String) :
    (m.await i ticket key).machine.walker = m.walker := by
  unfold await
  split
  · exact walker_collect m i ticket key
  · split <;> rfl

private theorem walker_readVariable (m : Machine ε) (i : Intent) (name : String)
    (fallback : Option Int64) : (m.readVariable i name fallback).machine.walker = m.walker := by
  unfold readVariable
  split
  · rename_i v memory _
    exact walker_conclude { m with memory := memory } i v
  · rename_i ticket key memory _
    exact walker_await { m with memory := memory } i ticket key

private theorem course_perform (m : Machine ε) (d : Digit) (p : Prepared)
    (instruction : Instruction) :
    (m.perform d p instruction).machine.walker.course = m.walker.course := by
  cases instruction with
  | idle => rfl
  | exit => rfl
  | prefer => exact course_prefer m p.value true
  | unprefer => exact course_prefer m p.value false
  | store name => rfl
  | malformed expected found row => rfl
  | read use operand =>
    cases operand with
    | own => exact congrArg Walk.Walker.course (walker_conclude m _ _)
    | named name => exact congrArg Walk.Walker.course (walker_readVariable m _ name _)

/-! ### What a step does -/

section Moved

variable {m ticked : Machine ε} {dir : Plane.Direction} {d : Digit}

private theorem course_begin (tick : m.tick = (.moved dir d, ticked)) :
    m.begin.machine.walker.course =
      ((ticked.column.reversals dir.offset.dx).foldl Walk.Walker.turn ticked.walker).course := by
  have facing : ticked.walker.cursor.velocity = dir.offset := by
    obtain ⟨_, _, offers, e, rfl⟩ := of_tick_moved tick
    rfl
  obtain ⟨k, _, swayed⟩ := prepare_eq ticked d ticked.column.modifiers
  rw [facing] at swayed
  rw [begin_of_moved tick]
  unfold execute
  rw [course_perform, swayed]
  rfl

theorem course_step (tick : m.tick = (.moved dir d, ticked)) :
    m.step.2.walker.course =
      ((ticked.column.reversals dir.offset.dx).foldl Walk.Walker.turn ticked.walker).course := by
  have begun := course_begin tick
  cases phase : m.begin with
  | done result m' =>
    rw [phase] at begun
    rw [step_of_done phase]
    exact begun
  | asking q m' =>
    rw [phase] at begun
    rw [step_of_asking phase, walker_answer]
    exact begun

theorem course_of_walks (tick : m.tick = (.moved dir d, ticked)) {e : Event ε}
    (walks : e.walks = true) :
    ∃ reversals ⊆ ticked.column.reversals dir.offset.dx,
      (m.undergo e).walker.course = (reversals.foldl Walk.Walker.turn ticked.walker).course := by
  cases e with
  | step => exact ⟨_, List.Subset.refl _, course_step tick⟩
  | abandon => exact ⟨_, List.Subset.refl _, course_begin tick⟩
  | tick =>
    refine ⟨[], List.nil_subset _, ?_⟩
    change m.tick.2.walker.course = _
    rw [tick]
    rfl
  | _ => cases walks

theorem index_of_moved (short : m.walker.reading.reference.size < Nat.pow 2 63)
    (tick : m.tick = (.moved dir d, ticked)) :
    ticked.walker.reading.index.toInt =
        m.walker.reading.index.toInt + m.walker.reading.heading.step.toInt ∧
      0 ≤ ticked.walker.reading.index.toInt ∧
      ticked.walker.reading.index.toInt < Int.ofNat m.walker.reading.reference.size := by
  obtain ⟨next, _, offers, e, rfl⟩ := of_tick_moved tick
  obtain ⟨low, high⟩ := Reference.index_of_get? next
  have limit : Nat.pow 2 63 = 9223372036854775808 := rfl
  refine ⟨?_, low, high⟩
  apply Number.toInt_satAdd_of_between
  · rw [Number.toInt_minValue]
    exact Int.lt_of_lt_of_le (by decide) low
  · rw [Number.toInt_maxValue]
    refine Int.lt_of_lt_of_le high ?_
    change Int.ofNat m.walker.reading.reference.size ≤ _
    rw [Int.ofNat_eq_natCast]
    omega

end Moved

theorem tick_eta {m : Machine ε} {t : Walk.Tick} (h : m.tick.1 = t) : m.tick = (t, m.tick.2) :=
  Prod.ext h rfl

theorem undergo_of_deadEnd {m ticked : Machine ε} {stop : Walk.DeadEnd}
    (tick : m.tick = (.deadEnd stop, ticked)) {e : Event ε} (walks : e.walks = true) :
    m.undergo e = { m with walker := m.walker.stuck } := by
  have stuck := of_tick_deadEnd tick
  have begun := begin_of_deadEnd tick
  cases e with
  | step =>
    change m.step.2 = _
    rw [step_of_done begun, stuck]
  | tick =>
    change m.tick.2 = _
    rw [tick, stuck]
  | abandon =>
    change m.begin.machine = _
    rw [begun, ← stuck]
    rfl
  | _ => cases walks

theorem reading_of_not_walks (m : Machine ε) {e : Event ε} (still : e.walks = false) :
    (m.undergo e).walker.reading = m.walker.reading := by
  cases e with
  | operate op => rfl
  | enclose a b => rfl
  | guide g => rfl
  | supply input => rfl
  | connect connected => rfl
  | _ => cases still

end Machine

end Program

end DigitTrail
