import Mathlib.Data.List.Induction
import DigitTrail.Proofs.Memory.Chance
import DigitTrail.Proofs.Program.Run

/-!
What a step leaves to chance. A step draws where its walk branches, where a modifier looks up a
register that floats, where the name of an operand is indirect, and where an operand floats.
How often it draws can be told from the machine, and a step that never draws, or a run of such
steps, comes to the same with every source.
-/

set_option autoImplicit false
set_option relaxedAutoImplicit false

namespace DigitTrail

open Console (Terminal)
open Entropy (Follows Metered meter)
open Plane (Direction)

namespace Walk.Walker

variable {ε ε' ω : Type}

def branchKey (w : Walker) : Int64 := (w.reading.previous.map Digit.toInt).getD (-1)

/-- A branch is drawn for if two directions or more are left, the guide does not settle it, and
the digit before is not preferred and names no register that is set. -/
def choiceDraws (w : Walker) (m : Memory ε ω) (offer : List Direction) : Nat :=
  if 2 ≤ offer.length ∧ (w.consult offer).1 = none ∧
      w.reading.previous.any w.preferred.contains = false ∧
      m.registers.value? w.branchKey = none then 1 else 0

def tickDraws (w : Walker) (s : Sheet) (m : Memory ε ω) : Nat :=
  match w.stuck.reading.digit with
  | none => 0
  | some d => w.stuck.choiceDraws m (w.stuck.onward s d)

private theorem consult_keeps (w : Walker) (offer : List Direction) :
    (w.consult offer).2.reading = w.reading ∧ (w.consult offer).2.preferred = w.preferred := by
  unfold consult
  split <;> exact ⟨rfl, rfl⟩

variable [Entropy ε] [Entropy ε'] {g : ε → ε'} {w : Walker} {m : Memory ε ω}

private theorem settle_metered (first : Direction) {others : List Direction} {draws : Nat}
    (count : draws = if others ≠ [] ∧ w.reading.previous.any w.preferred.contains = false ∧
      m.registers.value? w.branchKey = none then 1 else 0)
    (follows : Follows g draws) (n : Nat) :
    w.settle (m.mapSource (meter g n)) first others =
      ((w.settle m first others).1,
        (w.settle m first others).2.mapSource (meter g (n + draws))) := by
  unfold settle
  by_cases settled : (others.isEmpty || w.reading.previous.any w.preferred.contains) = true
  · have none : draws = 0 := by
      rw [count, if_neg]
      rintro ⟨branches, unpreferred, _⟩
      rw [unpreferred, Bool.or_false, List.isEmpty_iff] at settled
      exact branches settled
    rw [if_pos settled, if_pos settled, none]
    rfl
  · obtain ⟨branches, unpreferred⟩ := Bool.or_eq_false_iff.mp (Bool.eq_false_iff.mpr settled)
    rw [List.isEmpty_eq_false_iff] at branches
    have drawn : draws = m.registerDraws w.branchKey none := by
      rw [count, Memory.registerDraws, Option.or_none]
      simp only [branches, unpreferred, ne_eq, not_false_eq_true, true_and]
    rw [if_neg settled, if_neg settled]
    rw [drawn] at follows ⊢
    unfold point
    have register := m.register_metered follows n
    unfold branchKey at register
    dsimp only
    rw [register]
    rfl

private theorem choose_metered {first : Direction} {others : List Direction}
    (follows : Follows g (w.choiceDraws m (first :: others))) (n : Nat) :
    w.choose (m.mapSource (meter g n)) first others =
      ((w.choose m first others).1, (w.choose m first others).2.1,
        (w.choose m first others).2.2.mapSource
          (meter g (n + w.choiceDraws m (first :: others)))) := by
  obtain ⟨reading, preferred⟩ := w.consult_keeps (first :: others)
  rcases consulted : w.consult (first :: others) with ⟨answer, asked⟩
  rw [consulted] at reading preferred
  cases answer with
  | some d =>
    have draws : w.choiceDraws m (first :: others) = 0 := by simp [choiceDraws, consulted]
    rw [draws]
    simp only [choose, consulted]
    rfl
  | none =>
    have count : w.choiceDraws m (first :: others) = if others ≠ [] ∧
        asked.reading.previous.any asked.preferred.contains = false ∧
          m.registers.value? asked.branchKey = none then 1 else 0 := by
      have two : 2 ≤ (first :: others).length ↔ others ≠ [] := by
        rw [List.length_cons, ← List.length_pos_iff_ne_nil]
        omega
      dsimp only at reading preferred
      unfold branchKey choiceDraws
      rw [consulted, reading, preferred]
      simp only [two, true_and]
      rfl
    have settled := settle_metered first count follows n
    simp only [choose, consulted, settled]

private theorem seek_metered {s : Sheet} {d : Digit}
    (follows : Follows g (w.choiceDraws m (w.onward s d)))
    (n : Nat) :
    w.seek s (m.mapSource (meter g n)) d =
      ((w.seek s m d).1, (w.seek s m d).2.1,
        (w.seek s m d).2.2.mapSource (meter g (n + w.choiceDraws m (w.onward s d)))) := by
  unfold seek
  cases offer : w.onward s d with
  | nil => rfl
  | cons first others =>
    rw [offer] at follows
    dsimp only
    rw [choose_metered follows n]

private theorem tick_metered {s : Sheet} (follows : Follows g (w.tickDraws s m)) (n : Nat) :
    w.tick s (m.mapSource (meter g n)) =
      ((w.tick s m).1, (w.tick s m).2.1,
        (w.tick s m).2.2.mapSource (meter g (n + w.tickDraws s m))) := by
  have ticks {δ : Type} [Entropy δ] (m : Memory δ ω) : w.tick s m =
      match w.stuck.reading.digit with
      | none => (.deadEnd ⟨w.cursor.position, none⟩, w.stuck, m)
      | some d => w.stuck.seek s m d := rfl
  unfold tickDraws at follows ⊢
  rw [ticks, ticks]
  cases next : w.stuck.reading.digit with
  | none => rfl
  | some d =>
    rw [next] at follows
    exact seek_metered follows n

end Walk.Walker

namespace Program.Machine

variable {ε ε' : Type}

/-- The same machine with the source that `f` puts in place of its own. -/
def mapSource (f : ε → ε') (m : Machine ε) : Machine ε' where
  sheet := m.sheet
  walker := m.walker
  memory := m.memory.mapSource f
  input := m.input
  asked := m.asked
  ticks := m.ticks

def withSource (m : Machine ε) (e : ε') : Machine ε' := m.mapSource fun _ => e

section Fields

variable (f : ε → ε') (m : Machine ε)

@[simp] theorem mapSource_sheet : (m.mapSource f).sheet = m.sheet := rfl
@[simp] theorem mapSource_walker : (m.mapSource f).walker = m.walker := rfl
@[simp] theorem mapSource_memory : (m.mapSource f).memory = m.memory.mapSource f := rfl
@[simp] theorem mapSource_column : (m.mapSource f).column = m.column := rfl

private theorem unmeter (n : Nat) : (m.mapSource (meter id n)).mapSource Metered.source = m := rfl

private theorem drawn_meter (n : Nat) : (m.mapSource (meter f n)).memory.entropy.drawn = n := rfl

end Fields

/-! ### Counting ahead -/

def modifierDraws (m : Machine ε) (p : Prepared) (x : Modifier) : Nat :=
  if x = .deref ∧ p.grounded = false ∧ m.memory.registers.value? p.value = none then 1 else 0

variable [Entropy ε]

/-- A chain of modifiers draws for each lookup that comes before any grounding and finds that
the register named by the value so far floats. -/
def chainDraws (m : Machine ε) (d : Digit) (modifiers : List Modifier) : Nat :=
  (List.range modifiers.length).countP fun i =>
    modifiers[i]? = some .deref ∧ .ground ∉ modifiers.take i ∧
      m.memory.registers.value? (m.prepare d (modifiers.take i)).1.value = none

/-- Whether nothing gives a value to an operand. A terminal is asked for its value. -/
def floats (m : Machine ε) (d : Digit) : Operand → Bool
  | .own => (m.memory.registers.get d).isNone
  | .named name =>
    (Terminal.ofKey? name).isNone && (m.memory.stored? (m.memory.resolve name).1).isNone

def operandDraws (m : Machine ε) (d : Digit) (p : Prepared) (use : Use) (operand : Operand) :
    Nat :=
  if use ≠ .keep ∧ p.grounded = false ∧ m.floats d operand = true then 1 else 0

/-- The draws of an instruction: for the name of its operand, and for the operand. -/
def instructionDraws (m : Machine ε) (d : Digit) (p : Prepared) : Instruction → Nat
  | .store name => m.memory.keyDraws name
  | .read use .own => m.operandDraws d p use .own
  | .read use (.named name) => m.memory.keyDraws name + m.operandDraws d p use (.named name)
  | _ => 0

/-- The draws of a column: for its modifiers, and for its instruction. -/
def columnDraws (m : Machine ε) (d : Digit) : Nat :=
  m.chainDraws d m.column.modifiers +
    (m.prepare d m.column.modifiers).2.instructionDraws d
      (m.prepare d m.column.modifiers).1 m.column.instruction

/-- The draws of the next step: for its tick, and for the column that it comes to. -/
def draws (m : Machine ε) : Nat :=
  m.walker.tickDraws m.sheet m.memory +
    match m.tick with
    | (.deadEnd _, _) => 0
    | (.moved _ d, ticked) => ticked.columnDraws d

/-! ### Metered steps -/

section Metered

variable [Entropy ε'] {g : ε → ε'} (m : Machine ε)

private theorem tick_metered (follows : Follows g (m.walker.tickDraws m.sheet m.memory)) (n : Nat) :
    (m.mapSource (meter g n)).tick =
      (m.tick.1, m.tick.2.mapSource
        (meter g (n + m.walker.tickDraws m.sheet m.memory))) := by
  have walked := Walk.Walker.tick_metered follows n
  simp only [tick, mapSource_sheet, mapSource_walker, mapSource_memory, walked]
  rcases m.walker.tick m.sheet m.memory with ⟨t, walker, memory⟩
  cases t <;> rfl

private theorem modify_metered {p : Prepared} {x : Modifier}
    (follows : Follows g (m.modifierDraws p x))
    (n : Nat) :
    (m.mapSource (meter g n)).modify p x =
      ((m.modify p x).1, (m.modify p x).2.mapSource (meter g (n + m.modifierDraws p x))) := by
  cases x with
  | deref =>
    have draws : m.modifierDraws p .deref = m.memory.registerDraws p.value p.fallback := by
      unfold modifierDraws Memory.registerDraws Prepared.fallback
      cases p.grounded <;> simp
    rw [draws] at follows ⊢
    have register := m.memory.register_metered follows n
    simp only [modify, mapSource_memory, register]
    rfl
  | pass => rfl
  | ground => rfl
  | toggle => rfl
  | backIfEast =>
    unfold modify
    change (_, if 0 < m.walker.cursor.velocity.dx then _ else _) = _
    split <;> rfl
  | forwardIfWest =>
    unfold modify
    change (_, if m.walker.cursor.velocity.dx < 0 then _ else _) = _
    split <;> rfl

omit [Entropy ε'] in
private theorem prepare_concat (d : Digit) (modifiers : List Modifier) (x : Modifier) :
    m.prepare d (modifiers ++ [x]) =
      (m.prepare d modifiers).2.modify (m.prepare d modifiers).1 x := by
  unfold prepare
  rw [List.foldl_append]
  rfl

omit [Entropy ε'] in
private theorem grounded_prepare (d : Digit) (modifiers : List Modifier) :
    (m.prepare d modifiers).1.grounded = decide (.ground ∈ modifiers) := by
  induction modifiers using List.reverseRecOn with
  | nil => rfl
  | append_singleton modifiers x ih =>
    rw [prepare_concat]
    cases x <;> simp [modify, ih]

omit [Entropy ε'] in
private theorem registers_prepare (d : Digit) (modifiers : List Modifier) :
    (m.prepare d modifiers).2.memory.registers = m.memory.registers := by
  obtain ⟨k, _, swayed⟩ := prepare_eq m d modifiers
  rw [swayed]
  rfl

omit [Entropy ε'] in
private theorem chainDraws_concat (d : Digit) (modifiers : List Modifier) (x : Modifier) :
    m.chainDraws d (modifiers ++ [x]) = m.chainDraws d modifiers +
      (m.prepare d modifiers).2.modifierDraws (m.prepare d modifiers).1 x := by
  unfold chainDraws modifierDraws
  rw [List.length_append, List.length_singleton, List.range_succ, List.countP_append]
  congr 1
  · apply List.countP_congr
    intro i inside
    have lt : i < modifiers.length := List.mem_range.mp inside
    rw [List.getElem?_append_left lt, List.take_append_of_le_length (Nat.le_of_lt lt)]
  · rw [grounded_prepare, registers_prepare]
    simp [List.countP_cons]

private theorem prepare_metered {d : Digit} {modifiers : List Modifier}
    (follows : Follows g (m.chainDraws d modifiers)) (n : Nat) :
    (m.mapSource (meter g n)).prepare d modifiers =
      ((m.prepare d modifiers).1, (m.prepare d modifiers).2.mapSource
        (meter g (n + m.chainDraws d modifiers))) := by
  induction modifiers using List.reverseRecOn with
  | nil => rfl
  | append_singleton modifiers x ih =>
    rw [chainDraws_concat] at follows ⊢
    rw [prepare_concat, prepare_concat, ih follows.left]
    dsimp only
    rw [modify_metered _ follows.right, Nat.add_assoc]

private theorem conclude_metered {i : Intent} {operand : Option Int64} {draws : Nat}
    (count : draws = if i.use ≠ .keep ∧ operand = none then 1 else 0) (follows : Follows g draws)
    (n : Nat) :
    (m.mapSource (meter g n)).conclude i operand =
      (m.conclude i operand).mapSource (meter g (n + draws)) := by
  obtain ⟨register, value, use⟩ := i
  cases operand with
  | some v =>
    simp only [reduceCtorEq, and_false, if_false] at count
    rw [conclude_some, conclude_some, count]
    rfl
  | none =>
    cases use with
    | keep =>
      simp only [ne_eq, not_true_eq_false, false_and, if_false] at count
      rw [count]
      rfl
    | compare test =>
      obtain rfl : draws = 1 := count
      have drawn := m.memory.drawBit_metered follows n
      simp only [conclude, mapSource_memory, drawn]
      rfl
    | add =>
      obtain rfl : draws = 1 := count
      have drawn := m.memory.drawDigit_metered follows n
      simp only [conclude, grasp, mapSource_memory, drawn]
      rfl
    | subtract =>
      obtain rfl : draws = 1 := count
      have drawn := m.memory.drawDigit_metered follows n
      simp only [conclude, grasp, mapSource_memory, drawn]
      rfl

private theorem conclude_operand_metered (d : Digit) {p : Prepared} {use : Use}
    (operand : Option Int64)
    {draws : Nat}
    (count : draws = if use ≠ .keep ∧ p.grounded = false ∧ operand.isNone = true then 1 else 0)
    (follows : Follows g draws) (n : Nat) :
    (m.mapSource (meter g n)).conclude ⟨d, p.value, use⟩ (operand.or p.fallback) =
      (m.conclude ⟨d, p.value, use⟩ (operand.or p.fallback)).mapSource (meter g (n + draws)) := by
  apply m.conclude_metered _ follows n
  rw [count]
  unfold Prepared.fallback
  cases p.grounded <;> simp

private theorem perform_metered {d : Digit} {p : Prepared} {instruction : Instruction}
    (plain : instruction.reads?.bind Terminal.ofKey? = none)
    (follows : Follows g (m.instructionDraws d p instruction)) (n : Nat) :
    ∃ result m', m.perform d p instruction = .done result m' ∧
      (m.mapSource (meter g n)).perform d p instruction =
        .done result (m'.mapSource (meter g (n + m.instructionDraws d p instruction))) := by
  cases instruction with
  | idle => exact ⟨_, _, rfl, rfl⟩
  | exit => exact ⟨_, _, rfl, rfl⟩
  | prefer =>
    refine ⟨_, _, rfl, ?_⟩
    simp only [perform, prefer]
    cases Digit.ofInt? p.value <;> rfl
  | unprefer =>
    refine ⟨_, _, rfl, ?_⟩
    simp only [perform, prefer]
    cases Digit.ofInt? p.value <;> rfl
  | store name =>
    refine ⟨_, _, rfl, ?_⟩
    simp only [perform, mapSource_memory, m.memory.set_metered follows p.value n]
    rfl
  | malformed expected found row => exact ⟨_, _, rfl, rfl⟩
  | read use operand =>
    cases operand with
    | own =>
      refine ⟨_, _, rfl, ?_⟩
      have concluded := m.conclude_operand_metered d (m.memory.registers.get d) rfl follows n
      exact congrArg (Phase.done (.ok .running)) concluded
    | named name =>
      have unasked : Terminal.ofKey? name = none := plain
      have got := m.memory.get_metered follows.left p.fallback n
      have resolved := m.memory.resolve_metered follows.left n
      refine ⟨_, _, readVariable_of_plain m _ unasked _, ?_⟩
      refine (readVariable_of_plain (m.mapSource (meter g n)) _ unasked _).trans ?_
      have count : m.operandDraws d p use (.named name) = if use ≠ .keep ∧ p.grounded = false ∧
          (m.memory.stored? (m.memory.resolve name).1).isNone = true then 1 else 0 := by
        simp only [operandDraws, floats, unasked, Option.isNone_none, Bool.true_and]
      have concluded := conclude_operand_metered
        { m with memory := (m.memory.get name p.fallback).2.resume } d _ count follows.right
        (n + m.memory.keyDraws name)
      rw [Nat.add_assoc] at concluded
      simp only [mapSource_memory, got, resolved, Memory.resume_mapSource]
      exact congrArg (Phase.done (.ok .running)) concluded

private theorem instructionDraws_key (d : Digit) (p : Prepared) (use : Use) (t : Terminal) :
    m.instructionDraws d p (.read use (.named t.key)) = 0 := by
  have direct : Memory.indirection? t.key = none := by cases t <;> decide
  simp [instructionDraws, Memory.keyDraws, direct, operandDraws, floats, Terminal.ofKey?_key]

private theorem step_of_column_metered {m ticked : Machine ε} {m' : Machine (Metered ε')}
    {d : Digit}
    {n : Nat} (follows : Follows g (ticked.columnDraws d)) (begun : m.begin = ticked.execute d)
    (begun' : m'.begin = (ticked.mapSource (meter g n)).execute d) :
    m'.step = (m.step.1, m.step.2.mapSource (meter g (n + ticked.columnDraws d))) := by
  unfold columnDraws at follows ⊢
  unfold execute at begun begun'
  rw [mapSource_column, ticked.prepare_metered follows.left] at begun'
  dsimp only at begun begun'
  rw [← Nat.add_assoc]
  generalize ticked.prepare d ticked.column.modifiers = prepared at begun begun' follows ⊢
  generalize n + ticked.chainDraws d ticked.column.modifiers = k at begun' ⊢
  cases asks : ticked.column.instruction.reads?.bind Terminal.ofKey? with
  | none =>
    obtain ⟨result, last, done, done'⟩ := prepared.2.perform_metered asks follows.right k
    rw [step_of_done (begun.trans done), step_of_done (begun'.trans done')]
  | some t =>
    obtain ⟨name, named, terminal⟩ := Option.bind_eq_some_iff.mp asks
    obtain ⟨use, instruction⟩ := Instruction.of_reads? named
    obtain rfl := Console.Terminal.eq_of_ofKey? terminal
    rw [instruction] at begun begun' ⊢
    rw [step_of_terminal begun, step_of_terminal begun', instructionDraws_key]
    have input : (prepared.2.mapSource (meter g k)).input = prepared.2.input := rfl
    rw [input]
    cases prepared.2.input.next.1 <;> rfl

private theorem step_metered (follows : Follows g m.draws) (n : Nat) :
    (m.mapSource (meter g n)).step =
      (m.step.1, m.step.2.mapSource (meter g (n + m.draws))) := by
  unfold draws at follows ⊢
  have ticked' := m.tick_metered follows.left n
  rcases tick : m.tick with ⟨t, ticked⟩
  rw [tick] at follows ticked'
  cases t with
  | deadEnd stop =>
    rw [step_of_done (begin_of_deadEnd tick), step_of_done (begin_of_deadEnd ticked')]
    rfl
  | moved dir d =>
    have rest := step_of_column_metered follows.right (begin_of_moved tick) (begin_of_moved ticked')
    rw [Nat.add_assoc] at rest
    exact rest

end Metered

/-! ### Other sources -/

section Sources

variable [Entropy ε'] {g : ε → ε'} {m : Machine ε}

omit [Entropy ε] [Entropy ε'] in
private theorem unmetered {α : Type} {a b : α} {m' : Machine ε'} {k k' : Nat}
    (h : (b, m'.mapSource (meter id k')) = (a, m.mapSource (meter g k))) :
    (b, m') = (a, m.mapSource g) :=
  congrArg (Prod.map id (mapSource Metered.source)) h

private theorem step_mapSource (follows : Follows g m.draws) :
    (m.mapSource g).step = (m.step.1, m.step.2.mapSource g) := by
  have metered := (m.mapSource g).step_metered (Entropy.follows_id _) 0
  have same : (m.mapSource g).mapSource (meter id 0) = m.mapSource (meter g 0) := rfl
  rw [same, m.step_metered follows] at metered
  exact unmetered metered.symm

theorem run_mapSource {fuel : Nat}
    (follows : ∀ k < fuel, (∀ j < k, (m.stepped j).step.1 = .ok .running) →
      Follows g (m.stepped k).draws) :
    (m.mapSource g).run fuel = ((m.run fuel).1, (m.run fuel).2.mapSource g) := by
  induction fuel generalizing m with
  | zero => rfl
  | succ fuel ih =>
    have first := step_mapSource (follows 0 (Nat.succ_pos fuel) (by simp))
    change (m.mapSource g).step = (m.step.1, m.step.2.mapSource g) at first
    rw [run_succ, run_succ, first]
    dsimp only
    cases ended : ending? m.step.1 with
    | some ending => rfl
    | none =>
      have running := ending?_eq_none_iff.mp ended
      refine ih fun k lt before => ?_
      rw [step_stepped]
      refine follows (k + 1) (Nat.succ_lt_succ lt) fun j le => ?_
      cases j with
      | zero => exact running
      | succ j =>
        rw [← step_stepped]
        exact before j (Nat.lt_of_succ_lt_succ le)

private theorem step_withSource (quiet : m.draws = 0) (e : ε') :
    (m.withSource e).step = (m.step.1, m.step.2.withSource e) :=
  step_mapSource (.inl quiet)

private theorem run_withSource {fuel : Nat}
    (quiet : ∀ k < fuel, (∀ j < k, (m.stepped j).step.1 = .ok .running) →
      (m.stepped k).draws = 0) (e : ε') :
    (m.withSource e).run fuel = ((m.run fuel).1, (m.run fuel).2.withSource e) :=
  run_mapSource fun k lt before => .inl (quiet k lt before)

end Sources

/-- Chance is accounted for, in every state of every program. With a meter on its source, a
step comes to the same and has drawn exactly the numbers counted ahead: one if the walk
branches and neither the guide nor the digit before settles it, one for each lookup before any
grounding that finds a floating register, one for the name of an operand that is indirect
through no register that is set, and one for a floating operand that is compared, added or
subtracted and not grounded. If that makes none, the step has the same result and leaves the
same machine with every other source; and so does a run, if none of the steps that it takes
draws. -/
theorem chance_is_accounted_for (m : Machine ε) :
    let metered := m.mapSource (meter id 0)
    (metered.step.1 = m.step.1 ∧ metered.step.2.mapSource Metered.source = m.step.2 ∧
      metered.step.2.memory.entropy.drawn = m.draws) ∧
    (m.draws = 0 → ∀ (ε' : Type) [Entropy ε'] (e : ε'),
      (m.withSource e).step = (m.step.1, m.step.2.withSource e)) ∧
    ∀ fuel, (∀ k < fuel, (∀ j < k, (m.stepped j).step.1 = .ok .running) →
        (m.stepped k).draws = 0) →
      ∀ (ε' : Type) [Entropy ε'] (e : ε'),
        (m.withSource e).run fuel = ((m.run fuel).1, (m.run fuel).2.withSource e) := by
  intro metered
  have counted := m.step_metered (Entropy.follows_id m.draws) 0
  refine ⟨?_, fun quiet ε' _ e => step_withSource quiet e, fun fuel quiet ε' _ e =>
    run_withSource quiet e⟩
  change metered.step = _ at counted
  rw [counted, Nat.zero_add]
  exact ⟨rfl, unmeter m.step.2 m.draws, drawn_meter id m.step.2 m.draws⟩

/-- A lookup, an index and an operand are drawn for; a grounded sum of an own register is not,
and does not depend on the source. -/
theorem three_draws_and_none :
    let m := Machine.load ⟨#[some 3, some 1]⟩ "3 1\n  @\n  +\n  x@2" (⟨[7]⟩ : Entropy.Script)
      .closed true
    let quiet := Machine.load ⟨#[some 3, some 1]⟩ "3 1\n  .\n  +" (⟨[7]⟩ : Entropy.Script)
      .closed true
    (m.mapSource (meter id 0)).step.2.memory.entropy.drawn = 3 ∧ quiet.draws = 0 ∧
      (quiet.withSource (⟨[4, 5]⟩ : Entropy.Script)).step =
        (.ok .running, quiet.step.2.withSource (⟨[4, 5]⟩ : Entropy.Script)) := by
  intro m quiet
  have drawn := (chance_is_accounted_for m).1.2.2
  have none : quiet.draws = 0 := by decide
  have same := (chance_is_accounted_for quiet).2.1 none Entropy.Script ⟨[4, 5]⟩
  have result : quiet.step.1 = .ok .running := by decide
  rw [result] at same
  refine ⟨?_, none, same⟩
  rw [drawn]
  decide

end Program.Machine

end DigitTrail
