import DigitTrail.Proofs.Program.Failure

/-!
Steps come to rest. Whoever halted the memory before a step and whatever reads were left
parked in it, a read that a step makes is settled within the step: the memory runs again,
no read waits, and the console is not muted. A step that reads nothing leaves the memory
halted or not as it was.
-/

set_option autoImplicit false
set_option relaxedAutoImplicit false

namespace DigitTrail.Program.Machine

open Console (Terminal)

variable {ε : Type}

/-- The memory is not halted and no read waits in it. -/
structure AtRest (m : Machine ε) : Prop where
  running : m.memory.halted = false
  unparked : m.memory.parked = []

variable [Entropy ε]

def ReadsVariable (m : Machine ε) : Prop :=
  ∃ o name, m.order? = some o ∧ o.instruction.reads? = some name

private theorem sound_effect {m m' : Machine ε} (h : Effect m m') (sound : m.memory.Sound) :
    m'.memory.Sound := by
  cases h with
  | turn r => exact sound
  | prefer value preferred =>
    unfold prefer
    split <;> exact sound
  | operate op => exact sound.apply op
  | accept t reply =>
    rw [accept_eq]
    exact ⟨sound.quiet, sound.order⟩
  | ask input asked => exact sound

private theorem Reachable.sound {m : Machine ε} (h : m.Reachable) : m.memory.Sound := by
  refine h.invariant ?_ ?_ sound_effect ?_
  · intro reference source entropy input connected
    exact Memory.sound_fresh entropy _
  · intro m sound
    rcases tick : m.tick with ⟨t, ticked⟩
    cases t with
    | moved dir d =>
      obtain ⟨_, _, offers, e, rfl⟩ := of_tick_moved tick
      exact sound.apply (.reseed e)
    | deadEnd stop =>
      rw [of_tick_deadEnd tick]
      exact sound
  · intro m e still sound
    cases e with
    | operate op => exact sound.apply op
    | enclose a b => exact sound
    | guide g => exact sound
    | supply input => exact sound
    | connect connected => exact ⟨sound.quiet, sound.order⟩
    | _ => cases still

private theorem AtRest.conclude {m : Machine ε} (rest : m.AtRest) (i : Intent)
    (operand : Option Int64) : (m.conclude i operand).AtRest := by
  obtain ⟨e, v, concluded⟩ := conclude_eq m i operand
  rw [concluded]
  exact ⟨rest.running, rest.unparked⟩

omit [Entropy ε] in
private theorem atRest_of_resume {m : Machine ε} {memory : Memory ε Console} (sound : memory.Sound)
    (resumed : m.memory = memory.resume) : m.AtRest := by
  constructor
  · rw [resumed]
    exact memory.resume_halted
  · rw [resumed]
    exact sound.resume_parked

private theorem step_atRest_of_reads {m : Machine ε} (sound : m.memory.Sound)
    (reads : m.ReadsVariable) :
    m.step.2.AtRest := by
  obtain ⟨o, name, order, named⟩ := reads
  obtain ⟨use, instruction⟩ := Instruction.of_reads? named
  obtain ⟨turned, e, begun, memory, _⟩ := begin_of_order order
  rw [instruction] at begun
  change m.begin = turned.readVariable ⟨o.digit, o.prepared.value, use⟩ name _ at begun
  cases terminal : Terminal.ofKey? name with
  | none =>
    rw [readVariable_of_plain turned _ terminal] at begun
    have sound' : turned.memory.Sound := by
      rw [memory]
      exact sound.apply (.reseed e)
    have read := sound'.apply (.get name o.prepared.fallback)
    rw [step_of_done begun]
    exact (atRest_of_resume read rfl).conclude _ _
  | some t =>
    obtain rfl := Console.Terminal.eq_of_ofKey? terminal
    rw [step_of_terminal begun]
    split
    · exact ⟨rfl, rfl⟩
    · exact ⟨rfl, rfl⟩

private theorem AtRest.step {m : Machine ε} (rest : m.AtRest) (sound : m.memory.Sound) :
    m.step.2.AtRest := by
  cases order : m.order? with
  | none =>
    obtain ⟨stop, begun⟩ := begin_of_no_order order
    rw [step_of_done begun]
    exact ⟨rest.running, rest.unparked⟩
  | some o =>
    cases named : o.instruction.reads? with
    | some name => exact step_atRest_of_reads sound ⟨o, name, order, named⟩
    | none =>
      obtain ⟨turned, e, begun, memory, _⟩ := begin_of_order order
      obtain ⟨result, m', done, halted, parked, _⟩ :=
        perform_of_unread turned o.digit o.prepared named
      rw [step_of_done (begun.trans done)]
      rw [memory] at halted parked
      exact ⟨halted.trans rest.running, parked.trans rest.unparked⟩

/-- Reads inside a step are never abandoned and leave no halt behind, in every program that
steps, single ticks, steps given up at their question and operations on its memory can lead
to, halts and reads left parked among them: no step fails because a read was abandoned; a
step that reads a variable, whatever it comes to, ends with the memory running, no read
parked and the console not muted; and a step that begins at rest ends at rest. -/
theorem reads_settle_within_step {m : Machine ε} (reachable : m.Reachable) :
    (∀ key, m.step.1 ≠ .error (.readAbandoned key)) ∧
    (m.ReadsVariable → m.step.2.AtRest ∧ m.step.2.memory.watcher.muted = false) ∧
    (m.AtRest → m.step.2.AtRest) := by
  have sound := reachable.sound
  refine ⟨?_, ?_, fun rest => rest.step sound⟩
  · intro key failed
    obtain ⟨_, _, _, _, _, _, cause⟩ := step_error_cases failed
    obtain ⟨_, _, _, _, malformed, _⟩ | ⟨_, _, _, _, unavailable, _⟩ := cause
    · cases malformed
    · cases unavailable
  · intro reads
    have after : m.step.2.Reachable := .event .step reachable
    exact ⟨step_atRest_of_reads sound reads, after.loud⟩

/-- A step reads a plain variable behind a read of a terminal that its caller left parked. -/
theorem foreign_read_settles_within_step :
    let m := (Machine.load ⟨#[some 3, some 1]⟩ "3 1\n  ^\n  x" (⟨[]⟩ : Entropy.Script)
      (.listening []) true).after [.operate (.set "x" 5), .operate (.get "SYS_T" none)]
    m.memory.halted = true ∧ m.memory.parked.length = 1 ∧ m.step.1 = .ok .running ∧
      m.step.2.AtRest ∧ m.step.2.memory.registers.get 1 = some 5 := by
  intro m
  have reachable : m.Reachable :=
    .event (.operate (.get "SYS_T" none)) (.event (.operate (.set "x" 5)) (.load _ _ _ _ _))
  have order : m.order? = some ⟨1, ⟨1, false⟩, .read .keep (.named "x")⟩ := by decide
  have reads : m.ReadsVariable := ⟨_, "x", order, rfl⟩
  have settled := (reads_settle_within_step reachable).2.1 reads
  exact ⟨rfl, rfl, by decide, settled.1, by decide⟩

end DigitTrail.Program.Machine
