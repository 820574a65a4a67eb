import DigitTrail.Entropy
import DigitTrail.Proofs.Program.Order

/-!
Failed steps compute nothing. A step fails in two ways: its column is not an
instruction, or it reads a terminal and gets no character. Both leave the registers, the
variables, the preferred digits and the output as they were; the second one also ends
every halt, so that no read stays parked.
-/

set_option autoImplicit false
set_option relaxedAutoImplicit false

namespace DigitTrail

open Console (Terminal)

namespace Console

private theorem muted_tell (c : Console) (n : Memory.Notice) : (n.tell c).muted = c.muted := by
  cases n with
  | asked key => rfl
  | wrote key value =>
    change (c.wrote key value).muted = c.muted
    unfold wrote emit
    split
    · rfl
    · split
      · split <;> rfl
      · rfl

end Console

namespace Memory

private theorem muted_apply {ε : Type} [Entropy ε] (m : Memory ε Console) (op : Operation ε) :
    (m.apply op).watcher.muted = m.watcher.muted := by
  rw [watcher_apply]
  generalize m.notices op = ns
  generalize m.watcher = c
  induction ns generalizing c with
  | nil => rfl
  | cons n ns ih => exact (ih _).trans (Console.muted_tell c n)

end Memory

namespace Program.Machine

open Walk (Walker)

variable {ε : Type} [Entropy ε]

theorem perform_cases (m : Machine ε) (d : Digit) (p : Prepared) (instruction : Instruction) :
    (∃ result m', m.perform d p instruction = .done (.ok result) m') ∨
      (∃ expected found row, instruction = .malformed expected found row ∧
        m.perform d p instruction =
          .done (.error (.malformed expected found (m.faultPlace row))) m) ∨
      ∃ (use : Use) (t : Terminal), instruction = .read use (.named t.key) ∧
        m.perform d p instruction = m.readVariable ⟨d, p.value, use⟩ t.key p.fallback := by
  cases instruction with
  | idle => exact .inl ⟨_, _, rfl⟩
  | exit => exact .inl ⟨_, _, rfl⟩
  | prefer => exact .inl ⟨_, _, rfl⟩
  | unprefer => exact .inl ⟨_, _, rfl⟩
  | store name => exact .inl ⟨_, _, rfl⟩
  | malformed expected found row => exact .inr (.inl ⟨expected, found, row, rfl, rfl⟩)
  | read use operand =>
    cases operand with
    | own => exact .inl ⟨_, _, rfl⟩
    | named name =>
      cases terminal : Terminal.ofKey? name with
      | none => exact .inl ⟨_, _, readVariable_of_plain m _ terminal _⟩
      | some t =>
        obtain rfl := Console.Terminal.eq_of_ofKey? terminal
        exact .inr (.inr ⟨use, t, rfl, rfl⟩)

private theorem step_error_of_read {m prepared : Machine ε} {t : Terminal} {i : Intent}
    {fallback : Option Int64} {f : Fault}
    (begun : m.begin = prepared.readVariable i t.key fallback) (failed : m.step.1 = .error f) :
    f = .inputUnavailable ∧ prepared.input.next.1 = none ∧
      m.step.2 = prepared.unanswered t fallback := by
  have step := step_of_terminal begun
  cases reply : prepared.input.next.1 with
  | none =>
    rw [reply] at step
    rw [step] at failed ⊢
    cases failed
    exact ⟨rfl, rfl, rfl⟩
  | some text =>
    rw [reply] at step
    rw [step] at failed
    cases failed

/-- A step fails after its tick and its modifiers, and either nothing follows or the
parking of a read that nobody answers. -/
theorem step_error_cases {m : Machine ε} {f : Fault} (failed : m.step.1 = .error f) :
    ∃ dir d ticked draws, m.tick = (.moved dir d, ticked) ∧
      draws ≤ ticked.column.modifiers.count .deref ∧
      let turned := ticked.swayed
        (ticked.column.modifiers.filterMap (Modifier.reversal? dir.offset.dx)) draws
      (∃ expected found row, ticked.column.instruction = .malformed expected found row ∧
          f = .malformed expected found (turned.faultPlace row) ∧ m.step.2 = turned) ∨
        ∃ (use : Use) (t : Terminal) (fallback : Option Int64),
          ticked.column.instruction = .read use (.named t.key) ∧
          f = .inputUnavailable ∧ turned.input.next.1 = none ∧
          m.step.2 = turned.unanswered t fallback := by
  rcases tick : m.tick with ⟨t, ticked⟩
  cases t with
  | deadEnd stop =>
    rw [step_of_done (begin_of_deadEnd tick)] at failed
    cases failed
  | moved dir d =>
    obtain ⟨draws, few, swayed⟩ := prepare_eq ticked d ticked.column.modifiers
    have facing : ticked.walker.cursor.velocity = dir.offset := by
      obtain ⟨_, _, offers, e, walked⟩ := of_tick_moved tick
      rw [walked]
      rfl
    rw [facing] at swayed
    refine ⟨dir, d, ticked, draws, rfl, few, ?_⟩
    intro turned
    rcases ready : ticked.prepare d ticked.column.modifiers with ⟨p, prepared⟩
    have prepared_eq : prepared = turned := by
      rw [ready] at swayed
      exact swayed
    have begun : m.begin = turned.perform d p ticked.column.instruction := by
      rw [begin_of_moved tick, execute, ready, prepared_eq]
    obtain ⟨result, m', done⟩ | ⟨expected, found, row, column, done⟩ | ⟨use, t, column, read⟩ :=
      perform_cases turned d p ticked.column.instruction
    · rw [step_of_done (begun.trans done)] at failed
      cases failed
    · rw [step_of_done (begun.trans done)] at failed ⊢
      cases failed
      exact .inl ⟨expected, found, row, column, rfl, rfl⟩
    · exact .inr ⟨use, t, p.fallback, column, step_error_of_read (begun.trans read) failed⟩

private theorem muted_effect {m m' : Machine ε} (h : Effect m m')
    (loud : m.memory.watcher.muted = false) : m'.memory.watcher.muted = false := by
  cases h with
  | turn r => exact loud
  | prefer value preferred =>
    unfold prefer
    split <;> exact loud
  | operate op => exact (Memory.muted_apply m.memory op).trans loud
  | accept t reply => rfl
  | ask input asked => exact loud

theorem Reachable.loud {m : Machine ε} (h : m.Reachable) : m.memory.watcher.muted = false := by
  refine h.invariant (P := fun m => m.memory.watcher.muted = false) ?_ ?_ muted_effect ?_
  · intro reference source entropy input connected
    rfl
  · intro m loud
    rcases tick : m.tick with ⟨t, ticked⟩
    cases t with
    | moved dir d =>
      obtain ⟨_, _, offers, e, rfl⟩ := of_tick_moved tick
      exact loud
    | deadEnd stop =>
      rw [of_tick_deadEnd tick]
      exact loud
  · intro m e still loud
    cases e with
    | operate op => exact (Memory.muted_apply m.memory op).trans loud
    | enclose a b => exact loud
    | guide g => exact loud
    | supply input => exact loud
    | connect connected => exact loud
    | _ => cases still

/-- Nothing was computed: registers, variables, preferred digits and output are the same. -/
structure SameResults (m m' : Machine ε) : Prop where
  registers : m'.memory.registers = m.memory.registers
  bindings : m'.memory.bindings = m.memory.bindings
  preferred : m'.walker.preferred = m.walker.preferred
  console : m'.memory.watcher = m.memory.watcher

namespace SameResults

omit [Entropy ε] in
theorem trans {a b c : Machine ε} (first : SameResults a b) (later : SameResults b c) :
    SameResults a c where
  registers := later.registers.trans first.registers
  bindings := later.bindings.trans first.bindings
  preferred := later.preferred.trans first.preferred
  console := later.console.trans first.console

theorem tick {m ticked : Machine ε} {dir : Plane.Direction} {d : Digit}
    (h : m.tick = (.moved dir d, ticked)) : SameResults m ticked := by
  obtain ⟨_, _, offers, e, rfl⟩ := of_tick_moved h
  exact ⟨rfl, rfl, rfl, rfl⟩

theorem swayed (m : Machine ε) (reversals : List Walk.Reversal) (draws : Nat) :
    SameResults m (m.swayed reversals draws) :=
  ⟨rfl, rfl, preferred_swayed m reversals draws, rfl⟩

omit [Entropy ε] in
private theorem unanswered (m : Machine ε) (t : Terminal) (fallback : Option Int64) :
    SameResults m (m.unanswered t fallback) :=
  ⟨rfl, rfl, rfl, rfl⟩

end SameResults

/-- A failed step computes nothing. All that remains of it is its tick, the reversals
that its modifiers fired and the digits that they drew. A malformed column leaves the
memory halted or not, and its reads parked, as they were, and the fault names the cell,
clamped to the box, of the row that the action could not use. A terminal without a
character leaves the memory running with no read parked and the console not muted. -/
theorem failed_step_computes_nothing {m : Machine ε} (reachable : m.Reachable) {f : Fault}
    (failed : m.step.1 = .error f) :
    let after := m.step.2
    SameResults m after ∧
    ∃ dir d ticked draws, m.tick = (.moved dir d, ticked) ∧
      let modifiers := ticked.column.modifiers
      let turned := ticked.swayed (modifiers.filterMap (Modifier.reversal? dir.offset.dx)) draws
      draws ≤ modifiers.count .deref ∧
      ((∃ expected found row,
          Offence ticked.below (modifiers.length + 1) expected found row ∧
          f = .malformed expected found (ticked.walker.cursor.box.nearest
            (ticked.walker.cursor.position.shift ⟨0, Int64.ofNat row⟩)).place ∧
          after = turned ∧
          after.memory.halted = m.memory.halted ∧ after.memory.parked = m.memory.parked) ∨
        ((∃ (use : Use) (t : Terminal),
            ticked.column.instruction = .read use (.named t.key)) ∧
          f = .inputUnavailable ∧ m.input.next.1 = none ∧
          after.sheet = turned.sheet ∧ after.walker = turned.walker ∧
          after.ticks = turned.ticks ∧ after.memory.entropy = turned.memory.entropy ∧
          after.memory.halted = false ∧ after.memory.parked = [] ∧
          after.memory.watcher.muted = false)) := by
  dsimp only
  obtain ⟨dir, d, ticked, draws, tick, few, cause⟩ := step_error_cases failed
  have same := (SameResults.tick tick).trans (.swayed ticked
    (ticked.column.modifiers.filterMap (Modifier.reversal? dir.offset.dx)) draws)
  obtain ⟨_, _, offers, e, walked⟩ := of_tick_moved tick
  obtain ⟨expected, found, row, column, fault, left⟩ |
    ⟨use, t, fallback, column, fault, silent, left⟩ := cause
  · rw [left]
    refine ⟨same, dir, d, ticked, draws, tick, few, .inl ⟨expected, found, row, ?_⟩⟩
    refine ⟨offence_of_malformed column, ?_, rfl, ?_, ?_⟩
    · rw [fault, faultPlace_swayed]
    · rw [walked]
      rfl
    · rw [walked]
      rfl
  · have results := same.trans (.unanswered _ t fallback)
    rw [left]
    refine ⟨results, dir, d, ticked, draws, tick, few, .inr ⟨⟨use, t, column⟩, fault, ?_⟩⟩
    refine ⟨?_, rfl, rfl, rfl, rfl, rfl, rfl, ?_⟩
    · rw [walked] at silent
      exact silent
    · rw [results.console]
      exact reachable.loud

/-- A request that is dropped, on a memory that was halted already: the number drawn and
the turn of the reading remain, and the halt is over. -/
theorem dropped_request_computes_nothing :
    let m := (Machine.load ⟨#[some 3, some 1]⟩ "3 1\n  @\n  :\n  ^\n  SYS_T"
      (⟨[7, 8]⟩ : Entropy.Script) (.listening [none]) true).undergo (.operate .halt)
    m.step.1 = .error .inputUnavailable ∧ SameResults m m.step.2 ∧
      m.memory.halted = true ∧ m.step.2.memory.halted = false ∧
      m.step.2.memory.parked = [] := by
  intro m
  have reachable : m.Reachable := .event (.operate .halt) (.load _ _ _ _ _)
  have failed : m.step.1 = .error .inputUnavailable := by decide
  obtain ⟨same, _, _, _, _, _, _, cause⟩ := failed_step_computes_nothing reachable failed
  obtain ⟨_, _, _, _, malformed, _⟩ | ⟨_, _, _, _, _, _, _, running, empty, _⟩ := cause
  · cases malformed
  · exact ⟨failed, same, rfl, running, empty⟩

end Program.Machine

end DigitTrail
