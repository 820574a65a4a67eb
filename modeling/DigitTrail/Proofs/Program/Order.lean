import DigitTrail.Proofs.Memory.Key
import DigitTrail.Proofs.Memory.Settlement
import DigitTrail.Proofs.Program.Column
import DigitTrail.Proofs.Program.History

/-!
Orders: what a step carries out once its tick has moved. An order is the digit of the
cell, what the modifiers made of it, and the instruction. A variable that is no terminal
is read to the end at once, even if others left the memory halted; a terminal is read by
a question, whose answer is written to it before the memory resumes.
-/

set_option autoImplicit false
set_option relaxedAutoImplicit false

namespace DigitTrail

open Console (Terminal)

namespace Memory

variable {ε ω : Type} {m : Memory ε ω}

@[simp] theorem resume_halted (m : Memory ε ω) : m.resume.halted = false := by
  unfold resume
  split
  · rfl
  · rename_i awake
    exact Bool.eq_false_iff.mpr awake

@[simp] theorem resume_watcher (m : Memory ε ω) : m.resume.watcher = m.watcher := by
  unfold resume
  split <;> rfl

theorem Sound.resume_parked (sound : m.Sound) : m.resume.parked = [] := by
  unfold Memory.resume
  split
  · rfl
  · rename_i awake
    by_contra waiting
    exact awake (sound.quiet waiting)

theorem get_watcher [Entropy ε] (m : Memory ε Console) (name : String)
    (fallback : Option Int64) : (m.get name fallback).2.watcher = m.watcher := by
  obtain ⟨e, _, ⟨_, got⟩ | got⟩ := m.get_cases name fallback
  · rw [got]
    rfl
  · rw [got]
    rfl

end Memory

namespace Program

/-- What an operand makes of the value that an instruction starts from. -/
def Use.result : Use → Int64 → Int64 → Int64
  | .keep, _, operand => operand
  | .compare test, value, operand => if test.holds value operand then 1 else 0
  | .add, value, operand => Number.satAdd value operand
  | .subtract, value, operand => Number.satSub value operand

def Instruction.reads? : Instruction → Option String
  | .read _ (.named name) => some name
  | _ => none

theorem Instruction.of_reads? {instruction : Instruction} {name : String}
    (h : instruction.reads? = some name) : ∃ use, instruction = .read use (.named name) := by
  unfold reads? at h
  split at h
  · cases h
    exact ⟨_, rfl⟩
  · cases h

def Instruction.tells {ε : Type} [Entropy ε] (instruction : Instruction)
    (memory : Memory ε Console) (value : Int64) : Console :=
  match instruction with
  | .store name => memory.watcher.wrote (memory.resolve name).1 value
  | _ => memory.watcher

/-- The digit of the cell that a step reached, what the modifiers made of it, and the
instruction that they stand before. -/
structure Order where
  digit : Digit
  prepared : Prepared
  instruction : Instruction
  deriving DecidableEq, Repr

/-- A phase carried to its end; a question is answered from the input. -/
def Phase.finish {ε : Type} [Entropy ε] : Phase ε → Except Fault Step × Machine ε
  | .done result m => (result, m)
  | .asking q m => { m with input := m.input.next.2 }.answer q m.input.next.1

/-- What a driver is in contact with: the console, the input and the number of questions. -/
structure Contact where
  console : Console
  input : Input
  asked : Nat

namespace Machine

variable {ε : Type}

def contact (m : Machine ε) : Contact := ⟨m.memory.watcher, m.input, m.asked⟩

variable [Entropy ε]

theorem step_eq_finish (m : Machine ε) : m.step = m.begin.finish := by
  cases phase : m.begin with
  | done result m' => exact step_of_done phase
  | asking q m' => exact step_of_asking phase

/-- What the next step will carry out, none if its tick meets a dead end. -/
def order? (m : Machine ε) : Option Order :=
  match m.tick with
  | (.moved _ d, ticked) =>
    some ⟨d, (ticked.prepare d ticked.column.modifiers).1, ticked.column.instruction⟩
  | (.deadEnd _, _) => none

theorem begin_of_order {m : Machine ε} {o : Order} (h : m.order? = some o) :
    ∃ (turned : Machine ε) (e : ε), m.begin = turned.perform o.digit o.prepared o.instruction ∧
      turned.memory = m.memory.reseed e ∧ turned.contact = m.contact := by
  unfold order? at h
  rcases tick : m.tick with ⟨t, ticked⟩
  rw [tick] at h
  cases t with
  | deadEnd stop => cases h
  | moved dir d =>
    cases h
    obtain ⟨_, _, offers, e, walked⟩ := of_tick_moved tick
    obtain ⟨k, _, swayed⟩ := prepare_eq ticked d ticked.column.modifiers
    have drawn : (ticked.prepare d ticked.column.modifiers).2.memory =
        m.memory.reseed (ticked.prepare d ticked.column.modifiers).2.memory.entropy := by
      rw [swayed, walked]
      rfl
    refine ⟨(ticked.prepare d ticked.column.modifiers).2, _, begin_of_moved tick, drawn, ?_⟩
    rw [swayed, walked]
    rfl

theorem begin_of_no_order {m : Machine ε} (h : m.order? = none) :
    ∃ stop, m.begin = .done (.ok (.crashed stop)) { m with walker := m.walker.stuck } := by
  unfold order? at h
  rcases tick : m.tick with ⟨t, ticked⟩
  rw [tick] at h
  cases t with
  | moved dir d => cases h
  | deadEnd stop =>
    refine ⟨stop, ?_⟩
    rw [begin_of_deadEnd tick, of_tick_deadEnd tick]

theorem conclude_eq (m : Machine ε) (i : Intent) (operand : Option Int64) :
    ∃ e v, m.conclude i operand =
      { m with memory := (m.memory.reseed e).setRegister i.register v } := by
  obtain ⟨register, value, use⟩ := i
  cases use with
  | keep => exact ⟨m.memory.entropy, operand, rfl⟩
  | compare test =>
    cases operand with
    | some v => exact ⟨m.memory.entropy, _, rfl⟩
    | none => exact ⟨(Entropy.bit m.memory.entropy).2, _, rfl⟩
  | add =>
    cases operand with
    | some v => exact ⟨m.memory.entropy, _, rfl⟩
    | none => exact ⟨(Entropy.digit m.memory.entropy).2, _, rfl⟩
  | subtract =>
    cases operand with
    | some v => exact ⟨m.memory.entropy, _, rfl⟩
    | none => exact ⟨(Entropy.digit m.memory.entropy).2, _, rfl⟩

theorem conclude_some (m : Machine ε) (i : Intent) (v : Int64) :
    m.conclude i (some v) = m.setRegister i.register (some (i.use.result i.value v)) := by
  obtain ⟨register, value, use⟩ := i
  cases use <;> rfl

private theorem collect_last {m : Machine ε} (halted : m.memory.halted = true)
    {before : List Memory.ParkedRead} {r : Memory.ParkedRead}
    (last : m.memory.parked = before ++ [r]) (i : Intent) (key : String) :
    m.collect i r.ticket key =
      (.ok .running, m.resume.conclude i ((m.memory.stored? r.key).or r.fallback)) := by
  have settled : m.resume.memory.settlement? r.ticket =
      some ((m.memory.stored? r.key).or r.fallback) := by
    simp only [resume, Memory.resume, halted, if_true, last, Memory.settlement?, List.map_append,
      List.map_cons, List.map_nil, List.reverse_append, List.reverse_singleton, List.cons_append]
    simp [Memory.settle]
  unfold collect
  rw [settled]

theorem accept_eq (m : Machine ε) (t : Terminal) (reply : String) :
    m.accept t reply = { m with memory := { m.memory with
      bindings := m.memory.bindings.insert t.key (t.decode reply)
      watcher := m.memory.watcher.setMuted false } } := by
  unfold accept Memory.set
  dsimp only
  rw [Memory.resolve_key]
  rfl

def parking (m : Machine ε) (t : Terminal) (fallback : Option Int64) : Machine ε :=
  { m with memory := m.memory.queued t.key fallback }

theorem readVariable_of_plain (m : Machine ε) (i : Intent) {name : String}
    (plain : Terminal.ofKey? name = none) (fallback : Option Int64) :
    m.readVariable i name fallback = .done (.ok .running)
      ({ m with memory := (m.memory.get name fallback).2.resume }.conclude i
        ((m.memory.stored? (m.memory.resolve name).1).or fallback)) := by
  have unresolved : Terminal.ofKey? (m.memory.resolve name).1 = none :=
    (m.memory.ofKey?_resolve name).trans plain
  unfold readVariable
  obtain ⟨e, _, ⟨awake, got⟩ | got⟩ := m.memory.get_cases name fallback
  · have still : (m.memory.told e (m.memory.resolve name).1).resume =
        m.memory.told e (m.memory.resolve name).1 := by
      unfold Memory.resume
      exact if_neg (Bool.eq_false_iff.mp awake)
    rw [got, still]
  · rw [got]
    dsimp only
    unfold await
    rw [unresolved]
    dsimp only
    rw [collect_last (r := ⟨m.memory.issued, (m.memory.resolve name).1, fallback⟩) rfl rfl]
    rfl

theorem readVariable_key (m : Machine ε) (i : Intent) (t : Terminal)
    (fallback : Option Int64) :
    m.readVariable i t.key fallback =
      if m.input.isOpen then
        .asking ⟨t, m.memory.issued, i⟩ { m.parking t fallback with asked := m.asked + 1 }
      else .done (.error .inputUnavailable) (m.parking t fallback).resume := by
  have halts : (m.memory.get t.key fallback) =
      (.parked m.memory.issued t.key, m.memory.queued t.key fallback) := by
    have known := Console.Terminal.ofKey?_key t
    unfold Memory.get Memory.fetch
    rw [Memory.resolve_key]
    have stops : (m.memory.announce t.key).halted = true := by
      change (m.memory.halted || (Terminal.ofKey? t.key).isSome) = true
      rw [known]
      exact Bool.or_true _
    rw [if_pos stops]
    simp only [Memory.queued, Memory.announce, Memory.Watcher.asked, Console.asked, known,
      Option.isSome_some, Bool.or_true]
  unfold readVariable
  rw [halts]
  dsimp only
  unfold await
  rw [Console.Terminal.ofKey?_key]
  rfl

def unanswered (m : Machine ε) (t : Terminal) (fallback : Option Int64) : Machine ε :=
  { m with
    memory := (m.memory.queued t.key fallback).resume
    input := m.input.next.2
    asked := m.asked + m.input.isOpen.toNat }

/-- The machine that has parked a read of a terminal and resumed with a reply: the
terminal holds the decoded reply, and the register what the reply is an operand for. -/
def answered (m : Machine ε) (t : Terminal) (fallback : Option Int64) (i : Intent)
    (reply : String) : Machine ε :=
  { m with
    memory := ({ m.memory.queued t.key fallback with
      bindings := m.memory.bindings.insert t.key (t.decode reply)
      watcher := m.memory.watcher.setMuted false } : Memory ε Console).resume.setRegister
        i.register (some (i.use.result i.value (t.decode reply)))
    input := m.input.next.2
    asked := m.asked + m.input.isOpen.toNat }

private theorem answer_some {m : Machine ε} (halted : m.memory.halted = true)
    {before : List Memory.ParkedRead} {ticket : Nat} {t : Terminal} {fallback : Option Int64}
    (last : m.memory.parked = before ++ [⟨ticket, t.key, fallback⟩]) (i : Intent)
    (reply : String) :
    m.answer ⟨t, ticket, i⟩ (some reply) =
      (.ok .running, (m.accept t reply).resume.setRegister i.register
        (some (i.use.result i.value (t.decode reply)))) := by
  have written : (m.accept t reply).memory.stored? t.key = some (t.decode reply) := by
    rw [accept_eq]
    exact Std.TreeMap.getElem?_insert_self
  have halted' : (m.accept t reply).memory.halted = true := by
    rw [accept_eq]
    exact halted
  have last' : (m.accept t reply).memory.parked = before ++ [⟨ticket, t.key, fallback⟩] := by
    rw [accept_eq]
    exact last
  have collected := collect_last halted' last' i t.key
  rw [written, Option.some_or, conclude_some] at collected
  exact collected

theorem finish_of_silence (m : Machine ε) (i : Intent) (t : Terminal) (fallback : Option Int64)
    (silent : m.input.next.1 = none) :
    (m.readVariable i t.key fallback).finish =
      (.error .inputUnavailable, m.unanswered t fallback) := by
  rw [readVariable_key]
  obtain ⟨sheet, walker, memory, input, asked, ticks⟩ := m
  cases input with
  | closed => rfl
  | listening replies =>
    cases replies with
    | nil => rfl
    | cons reply rest =>
      have dropped : reply = none := silent
      rw [dropped]
      rfl

theorem finish_of_reply (m : Machine ε) (i : Intent) (t : Terminal) (fallback : Option Int64)
    {text : String} (next : m.input.next.1 = some text) :
    (m.readVariable i t.key fallback).finish =
      (.ok .running, m.answered t fallback i text) := by
  rw [readVariable_key]
  obtain ⟨sheet, walker, memory, input, asked, ticks⟩ := m
  cases input with
  | closed => cases next
  | listening replies =>
    cases replies with
    | nil => cases next
    | cons reply rest =>
      have given : reply = some text := next
      have last : (memory.queued t.key fallback).parked =
          memory.parked ++ [⟨memory.issued, t.key, fallback⟩] := rfl
      rw [given]
      refine (answer_some rfl last i text).trans ?_
      rw [accept_eq]
      rfl

theorem step_of_terminal {m turned : Machine ε} {i : Intent} {t : Terminal}
    {fallback : Option Int64} (begun : m.begin = turned.readVariable i t.key fallback) :
    m.step = match turned.input.next.1 with
      | none => (.error .inputUnavailable, turned.unanswered t fallback)
      | some reply => (.ok .running, turned.answered t fallback i reply) := by
  rw [step_eq_finish, begun]
  cases next : turned.input.next.1 with
  | none => exact finish_of_silence turned i t fallback next
  | some reply => exact finish_of_reply turned i t fallback next

theorem perform_of_unread (m : Machine ε) (d : Digit) (p : Prepared) {instruction : Instruction}
    (unread : instruction.reads? = none) :
    ∃ result m', m.perform d p instruction = .done result m' ∧
      m'.memory.halted = m.memory.halted ∧ m'.memory.parked = m.memory.parked ∧
      m'.contact = { m.contact with console := instruction.tells m.memory p.value } := by
  have prefers (preferred : Bool) : (m.prefer p.value preferred).memory = m.memory ∧
      (m.prefer p.value preferred).contact = m.contact := by
    unfold prefer
    split <;> exact ⟨rfl, rfl⟩
  cases instruction with
  | idle => exact ⟨_, _, rfl, rfl, rfl, rfl⟩
  | exit => exact ⟨_, _, rfl, rfl, rfl, rfl⟩
  | prefer =>
    obtain ⟨memory, contact⟩ := prefers true
    exact ⟨_, _, rfl, by rw [memory], by rw [memory], contact⟩
  | unprefer =>
    obtain ⟨memory, contact⟩ := prefers false
    exact ⟨_, _, rfl, by rw [memory], by rw [memory], contact⟩
  | store name =>
    obtain ⟨e, written⟩ := m.memory.set_eq name p.value
    refine ⟨_, _, rfl, ?_, ?_, ?_⟩
    · rw [written]
    · rw [written]
    · rw [contact, written]
      rfl
  | malformed expected found row => exact ⟨_, _, rfl, rfl, rfl, rfl⟩
  | read use operand =>
    cases operand with
    | named name => cases unread
    | own =>
      obtain ⟨e, v, concluded⟩ := conclude_eq m ⟨d, p.value, use⟩
        ((m.memory.registers.get d).or p.fallback)
      refine ⟨_, _, rfl, ?_, ?_, ?_⟩
      · rw [concluded]
        rfl
      · rw [concluded]
        rfl
      · rw [concluded]
        rfl

end Machine

end Program

end DigitTrail
