import Mathlib.Logic.Relation
import DigitTrail.Program.Machine
import DigitTrail.Proofs.Memory.Session
import DigitTrail.Proofs.Walk.Tick

/-!
Histories of a program: steps, single ticks, steps given up at their question, and
all that a driver may do in between. What an instruction does to a machine is made of
five kinds of effects, and what each of them keeps, every step keeps after its tick. So
what a program stands on (its sheet, its place in the box and its place in the
reference) is changed by ticks and boxes alone.
-/

set_option autoImplicit false
set_option relaxedAutoImplicit false

namespace DigitTrail.Program

open Plane (Box Direction Position)

/-- What may happen to a program. -/
inductive Event (ε : Type)
  | step
  | tick
  /-- A step is begun, and given up if it asks a question. -/
  | abandon
  | operate (op : Memory.Operation ε)
  | enclose (a b : Position)
  | guide (g : Option Walk.Guide)
  | supply (input : Input)
  | connect (connected : Bool)

namespace Event

variable {ε : Type}

def walks : Event ε → Bool
  | .step => true
  | .tick => true
  | .abandon => true
  | _ => false

def encloses : Event ε → Bool
  | .enclose _ _ => true
  | _ => false

end Event

def Phase.machine {ε : Type} : Phase ε → Machine ε
  | .done _ m => m
  | .asking _ m => m

/-- What a machine stands on. -/
structure Footing where
  sheet : Sheet
  position : Position
  box : Box
  facing : Direction
  reference : Reference
  index : Int64

namespace Machine

variable {ε : Type}

def footing (m : Machine ε) : Footing where
  sheet := m.sheet
  position := m.walker.cursor.position
  box := m.walker.cursor.box
  facing := m.walker.cursor.facing
  reference := m.walker.reading.reference
  index := m.walker.reading.index

variable [Entropy ε]

def undergo (m : Machine ε) : Event ε → Machine ε
  | .step => m.step.2
  | .tick => m.tick.2
  | .abandon => m.begin.machine
  | .operate op => { m with memory := m.memory.apply op }
  | .enclose a b => m.enclosed a b
  | .guide g => m.guided g
  | .supply input => { m with input := input }
  | .connect connected =>
    { m with memory :=
      { m.memory with watcher := { m.memory.watcher with connected := connected } } }

def after (m : Machine ε) (events : List (Event ε)) : Machine ε := events.foldl undergo m

/-- What a freshly loaded program can become. -/
inductive Reachable : Machine ε → Prop
  | load (reference : Reference) (source : String) (entropy : ε) (input : Input)
      (connected : Bool) : Reachable (.load reference source entropy input connected)
  | event {m : Machine ε} (e : Event ε) : Reachable m → Reachable (m.undergo e)

theorem of_tick_moved {m ticked : Machine ε} {dir : Direction} {d : Digit}
    (h : m.tick = (.moved dir d, ticked)) :
    m.walker.reading.advance.digit = some d ∧ dir ∈ m.walker.onward m.sheet d ∧
      ∃ offers e, ticked = { m with
        walker := m.walker.strode dir offers
        memory := m.memory.reseed e
        ticks := m.ticks + 1 } := by
  unfold tick at h
  rcases walked : m.walker.tick m.sheet m.memory with ⟨t, walker, memory⟩
  rw [walked] at h
  cases t with
  | deadEnd stop => simp at h
  | moved dir' d' =>
    simp only [Prod.mk.injEq, Walk.Tick.moved.injEq] at h
    obtain ⟨⟨rfl, rfl⟩, rfl⟩ := h
    obtain ⟨next, offered, ⟨offers, rfl⟩, ⟨e, rfl⟩⟩ := Walk.Walker.of_tick_moved walked
    exact ⟨next, offered, offers, e, rfl⟩

theorem of_tick_deadEnd {m ticked : Machine ε} {stop : Walk.DeadEnd}
    (h : m.tick = (.deadEnd stop, ticked)) : ticked = { m with walker := m.walker.stuck } := by
  unfold tick at h
  rcases walked : m.walker.tick m.sheet m.memory with ⟨t, walker, memory⟩
  rw [walked] at h
  cases t with
  | moved dir d => simp at h
  | deadEnd stop' =>
    simp only [Prod.mk.injEq] at h
    obtain ⟨_, rfl⟩ := h
    obtain ⟨_, _, rfl, rfl⟩ := Walk.Walker.of_tick_deadEnd walked
    rfl

theorem begin_of_moved {m ticked : Machine ε} {dir : Direction} {d : Digit}
    (h : m.tick = (.moved dir d, ticked)) : m.begin = ticked.execute d := by
  unfold begin
  rw [h]

theorem begin_of_deadEnd {m ticked : Machine ε} {stop : Walk.DeadEnd}
    (h : m.tick = (.deadEnd stop, ticked)) : m.begin = .done (.ok (.crashed stop)) ticked := by
  unfold begin
  rw [h]

theorem step_of_done {m m' : Machine ε} {result : Except Fault Step}
    (h : m.begin = .done result m') : m.step = (result, m') := by
  unfold step
  rw [h]

theorem step_of_asking {m m' : Machine ε} {q : Question} (h : m.begin = .asking q m') :
    m.step = { m' with input := m'.input.next.2 }.answer q m'.input.next.1 := by
  unfold step
  rw [h]

/-- One of the things that an instruction does to a machine. -/
inductive Effect : Machine ε → Machine ε → Prop
  | turn (m : Machine ε) (r : Walk.Reversal) : Effect m (m.turn r)
  | prefer (m : Machine ε) (value : Int64) (preferred : Bool) :
    Effect m (m.prefer value preferred)
  | operate (m : Machine ε) (op : Memory.Operation ε) :
    Effect m { m with memory := m.memory.apply op }
  | accept (m : Machine ε) (t : Console.Terminal) (reply : String) :
    Effect m (m.accept t reply)
  | ask (m : Machine ε) (input : Input) (asked : Nat) :
    Effect m { m with input := input, asked := asked }

abbrev Effects : Machine ε → Machine ε → Prop := Relation.ReflTransGen Effect

namespace Effects

private theorem of_reseed {m : Machine ε} {memory : Memory ε Console} {e : ε}
    (h : memory = m.memory.reseed e) : Effects m { m with memory := memory } := by
  rw [h]
  exact .single (.operate m (.reseed e))

private theorem modify (m : Machine ε) (p : Prepared) (x : Modifier) :
    Effects m (m.modify p x).2 := by
  cases x with
  | deref =>
    obtain ⟨e, drawn⟩ := m.memory.register_reseed p.value p.fallback
    exact of_reseed drawn
  | pass => exact .refl
  | ground => exact .refl
  | toggle => exact .single (.turn m .toggle)
  | backIfEast =>
    dsimp only [Machine.modify]
    split
    · exact .single (.turn m _)
    · exact .refl
  | forwardIfWest =>
    dsimp only [Machine.modify]
    split
    · exact .single (.turn m _)
    · exact .refl

private theorem prepare (m : Machine ε) (d : Digit) (modifiers : List Modifier) :
    Effects m (m.prepare d modifiers).2 := by
  unfold Machine.prepare
  generalize (⟨Digit.toInt d, false⟩ : Prepared) = p
  induction modifiers generalizing m p with
  | nil => exact .refl
  | cons x modifiers ih =>
    rw [List.foldl_cons]
    exact (modify m p x).trans (ih _ _)

private theorem setRegister (m : Machine ε) (d : Digit) (v : Option Int64) :
    Effects m (m.setRegister d v) :=
  .single (.operate m (.setRegister d v))

private theorem grasp (m : Machine ε) (operand : Option Int64) :
    Effects m (m.grasp operand).2 := by
  cases operand with
  | some v => exact .refl
  | none =>
    obtain ⟨e, drawn⟩ := m.memory.drawDigit_reseed
    exact of_reseed drawn

private theorem conclude (m : Machine ε) (i : Intent) (operand : Option Int64) :
    Effects m (m.conclude i operand) := by
  obtain ⟨register, value, use⟩ := i
  cases use with
  | keep => exact setRegister m register operand
  | compare test =>
    cases operand with
    | some v => exact setRegister m register _
    | none =>
      have drawn : m.memory.drawBit.2 = m.memory.reseed (Entropy.bit m.memory.entropy).2 := rfl
      exact (of_reseed drawn).trans (setRegister _ register _)
  | add => exact (grasp m operand).trans (setRegister _ register _)
  | subtract => exact (grasp m operand).trans (setRegister _ register _)

private theorem collect (m : Machine ε) (i : Intent) (ticket : Nat) (key : String) :
    Effects m (m.collect i ticket key).2 := by
  have resumed : Effects m m.resume := .single (.operate m .resume)
  unfold Machine.collect
  split
  · exact resumed.trans (conclude m.resume i _)
  · exact resumed

theorem answer (m : Machine ε) (q : Question) (reply : Option String) :
    Effects m (m.answer q reply).2 := by
  cases reply with
  | none => exact .single (.operate m .resume)
  | some text =>
    exact Relation.ReflTransGen.head (.accept m q.terminal text) (collect _ _ _ _)

private theorem await (m : Machine ε) (i : Intent) (ticket : Nat) (key : String) :
    Effects m (m.await i ticket key).machine := by
  unfold Machine.await
  split
  · exact collect m i ticket key
  · split
    · exact .single (.ask m m.input (m.asked + 1))
    · exact .single (.operate m .resume)

private theorem readVariable (m : Machine ε) (i : Intent) (name : String)
    (fallback : Option Int64) :
    Effects m (m.readVariable i name fallback).machine := by
  have read := Effect.operate m (.get name fallback)
  unfold Machine.readVariable
  split
  · rename_i v memory got
    simp only [Memory.apply, got] at read
    exact Relation.ReflTransGen.head read (conclude _ i v)
  · rename_i ticket key memory got
    simp only [Memory.apply, got] at read
    exact Relation.ReflTransGen.head read (await _ i ticket key)

private theorem perform (m : Machine ε) (d : Digit) (p : Prepared) (instruction : Instruction) :
    Effects m (m.perform d p instruction).machine := by
  cases instruction with
  | idle => exact .refl
  | exit => exact .refl
  | prefer => exact .single (.prefer m p.value true)
  | unprefer => exact .single (.prefer m p.value false)
  | store name => exact .single (.operate m (.set name p.value))
  | read use operand =>
    cases operand with
    | own => exact conclude m _ _
    | named name => exact readVariable m _ name _
  | malformed expected found row => exact .refl

theorem execute (m : Machine ε) (d : Digit) : Effects m (m.execute d).machine :=
  (prepare m d m.column.modifiers).trans (perform _ d _ _)

private theorem begin (m : Machine ε) : Effects m.tick.2 m.begin.machine := by
  rcases tick : m.tick with ⟨t, ticked⟩
  cases t with
  | deadEnd stop =>
    rw [begin_of_deadEnd tick]
    exact .refl
  | moved dir d =>
    rw [begin_of_moved tick]
    exact execute ticked d

private theorem step (m : Machine ε) : Effects m.tick.2 m.step.2 := by
  have begun := begin m
  cases phase : m.begin with
  | done result m' =>
    rw [phase] at begun
    rw [step_of_done phase]
    exact begun
  | asking q m' =>
    rw [phase] at begun
    rw [step_of_asking phase]
    have asked : Effects m' { m' with input := m'.input.next.2 } :=
      .single (.ask m' m'.input.next.2 m'.asked)
    exact begun.trans (asked.trans (answer _ q _))

theorem of_walks (m : Machine ε) {e : Event ε} (h : e.walks = true) :
    Effects m.tick.2 (m.undergo e) := by
  cases e with
  | tick => exact .refl
  | abandon => exact begin m
  | step => exact step m
  | _ => cases h

theorem preserve {P : Machine ε → Prop}
    (each : ∀ {m m' : Machine ε}, Effect m m' → P m → P m') {m m' : Machine ε}
    (h : Effects m m') (start : P m) : P m' := by
  induction h with
  | refl => exact start
  | tail _ effect ih => exact each effect ih

end Effects

theorem footing_effect {m m' : Machine ε} (h : Effect m m') : m'.footing = m.footing := by
  cases h with
  | turn r => cases r <;> rfl
  | prefer value preferred =>
    unfold prefer
    split <;> rfl
  | operate op => rfl
  | accept t reply => rfl
  | ask input asked => rfl

theorem footing_of_walks {m : Machine ε} {e : Event ε} (h : e.walks = true) :
    (m.undergo e).footing = m.tick.2.footing :=
  Effects.preserve (P := fun m' => m'.footing = m.tick.2.footing)
    (fun effect same => (footing_effect effect).trans same) (Effects.of_walks m h) rfl

theorem footing_of_not_walks {m : Machine ε} {e : Event ε} (h : e.walks = false)
    (fixed : e.encloses = false) : (m.undergo e).footing = m.footing := by
  cases e with
  | operate op => rfl
  | guide g => rfl
  | supply input => rfl
  | connect connected => rfl
  | enclose a b => cases fixed
  | _ => cases h

theorem view_after {α : Type} (view : Machine ε → α) {allowed : Event ε → Prop}
    (each : ∀ (m : Machine ε) {e : Event ε}, allowed e → view (m.undergo e) = view m)
    (m : Machine ε) {events : List (Event ε)} (all : ∀ e ∈ events, allowed e) :
    view (m.after events) = view m := by
  induction events generalizing m with
  | nil => rfl
  | cons e events ih =>
    have head := each m (all e List.mem_cons_self)
    have tail := ih (m.undergo e) fun x member => all x (List.mem_cons_of_mem e member)
    exact tail.trans head

/-- What holds at the start and is preserved by a tick, by each effect and by what the
driver does in between, holds of every program. -/
theorem Reachable.invariant {P : Machine ε → Prop}
    (load : ∀ reference source entropy input connected,
      P (.load reference source entropy input connected))
    (tick : ∀ {m : Machine ε}, P m → P m.tick.2)
    (each : ∀ {m m' : Machine ε}, Effect m m' → P m → P m')
    (driver : ∀ {m : Machine ε} {e : Event ε}, e.walks = false → P m → P (m.undergo e))
    {m : Machine ε} (h : m.Reachable) : P m := by
  induction h with
  | load reference source entropy input connected =>
    exact load reference source entropy input connected
  | @event m e _ ih =>
    by_cases walks : e.walks = true
    · exact (Effects.of_walks m walks).preserve each (tick ih)
    · exact driver (Bool.eq_false_iff.mpr walks) ih

end Machine

end DigitTrail.Program
