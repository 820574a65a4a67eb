import DigitTrail.Proofs.Program.Column
import DigitTrail.Proofs.Program.History

/-!
Machines in another guise. An instruction looks at its column, at the last move, at the memory,
and at whether anybody listens to its questions. It does not look at what else surrounds it: the
sheet, the box, the reference, the fragments printed before, and the replies that wait. So it
does the same in all surroundings, and a step does the same wherever its tick finds the same
digits and cells.
-/

set_option autoImplicit false
set_option relaxedAutoImplicit false

namespace DigitTrail

open Plane (Box Direction)

/-! ### Fragments printed before -/

def Console.preceded (c : Console) (earlier : Array String) : Console :=
  { c with printed := earlier ++ c.printed }

private theorem Console.wrote_preceded (c : Console) (earlier : Array String) (key : String)
    (value : Int64) :
    (c.preceded earlier).wrote key value = (c.wrote key value).preceded earlier := by
  unfold wrote
  by_cases muted : c.muted = true
  · rw [if_pos muted, if_pos (show (c.preceded earlier).muted = true from muted)]
  · rw [if_neg muted, if_neg (show ¬ (c.preceded earlier).muted = true from muted)]
    cases Terminal.ofKey? key with
    | none => rfl
    | some t =>
      by_cases wired : c.connected = true
      · simp [emit, preceded, wired]
      · simp [emit, preceded, wired]

namespace Memory

variable {ε : Type}

def preceded (m : Memory ε Console) (earlier : Array String) : Memory ε Console :=
  { m with watcher := m.watcher.preceded earlier }

theorem preceded_empty (m : Memory ε Console) : m.preceded #[] = m := by
  simp [preceded, Console.preceded]

theorem resume_preceded (m : Memory ε Console) (earlier : Array String) :
    (m.preceded earlier).resume = m.resume.preceded earlier := by
  by_cases halted : m.halted = true
  · simp [resume, preceded, halted, settle, stored?]
  · simp [resume, preceded, halted]

variable [Entropy ε] (m : Memory ε Console) (earlier : Array String)

private theorem register_preceded (key : Int64) (fallback : Option Int64) :
    (m.preceded earlier).register key fallback =
      ((m.register key fallback).1, (m.register key fallback).2.preceded earlier) := by
  have same : (m.preceded earlier).registers = m.registers := rfl
  unfold register
  rw [same]
  cases (m.registers.value? key).or fallback with
  | some v => rfl
  | none => rfl

private theorem resolve_preceded (key : String) :
    (m.preceded earlier).resolve key =
      ((m.resolve key).1, (m.resolve key).2.preceded earlier) := by
  unfold resolve
  cases indirection? key with
  | none => rfl
  | some i =>
    have index : (m.preceded earlier).index i =
        ((m.index i).1, (m.index i).2.preceded earlier) := by
      unfold index
      cases i.key? with
      | none => rfl
      | some key => exact m.register_preceded earlier key none
    dsimp only
    rw [index]

private theorem set_preceded (key : String) (value : Int64) :
    (m.preceded earlier).set key value = (m.set key value).preceded earlier := by
  have told := Console.wrote_preceded (m.resolve key).2.watcher earlier (m.resolve key).1 value
  unfold set
  rw [resolve_preceded]
  unfold write
  dsimp only
  change Memory.mk _ _ _ _ _ _ _ (((m.resolve key).2.watcher.preceded earlier).wrote _ _) = _
  rw [told]
  rfl

private theorem get_preceded (key : String) (fallback : Option Int64) :
    (m.preceded earlier).get key fallback =
      ((m.get key fallback).1, (m.get key fallback).2.preceded earlier) := by
  unfold get
  rw [resolve_preceded]
  unfold fetch
  change (if ((m.resolve key).2.announce (m.resolve key).1).halted = true then _ else _) = _
  split
  · rfl
  · rfl

end Memory

namespace Program

/-- What a machine has around it, as a change of what it has: its sheet, its box and its
reference, fragments printed before its own, and the replies that wait for it. Whether anybody
listens stays as it is. -/
structure Guise where
  sheet : Sheet → Sheet := id
  box : Box → Box := id
  reference : Reference → Reference := id
  earlier : Array String := #[]
  input : Input → Input := id
  listens : ∀ i, (input i).isOpen = i.isOpen := by
    intro i
    rfl

end Program

open Program (Guise)

namespace Walk

def Cursor.inGuise (c : Cursor) (g : Guise) : Cursor := { c with box := g.box c.box }

namespace Walker

def inGuise (w : Walker) (g : Guise) : Walker :=
  { w with
    cursor := w.cursor.inGuise g
    reading := { w.reading with reference := g.reference w.reading.reference } }

/-- In this guise the next tick finds the same digits and the same cells. -/
structure Sees (w : Walker) (g : Guise) (s : Sheet) : Prop where
  digit : (w.inGuise g).stuck.reading.digit = w.stuck.reading.digit
  previous : ∀ d, w.stuck.reading.digit = some d →
    (w.inGuise g).stuck.reading.previous = w.stuck.reading.previous
  onward : ∀ d, (w.inGuise g).onward (g.sheet s) d = w.onward s d
  move : ∀ d, ∀ dir ∈ w.onward s d,
    ((w.cursor.inGuise g).face dir).advance = ((w.cursor.face dir).advance).inGuise g

variable {ε : Type} [Entropy ε] {w : Walker} {g : Guise} {s : Sheet}

private theorem settle_inGuise (previous : (w.inGuise g).reading.previous = w.reading.previous)
    (m : Memory ε Console) (first : Direction) (others : List Direction) :
    (w.inGuise g).settle (m.preceded g.earlier) first others =
      ((w.settle m first others).1, (w.settle m first others).2.preceded g.earlier) := by
  have preferred : (w.inGuise g).preferred = w.preferred := rfl
  unfold settle point
  rw [previous, preferred]
  split
  · rfl
  · dsimp only
    rw [m.register_preceded]

private theorem choose_inGuise (previous : (w.inGuise g).reading.previous = w.reading.previous)
    (m : Memory ε Console) (first : Direction) (others : List Direction) :
    (w.inGuise g).choose (m.preceded g.earlier) first others =
      ((w.choose m first others).1, (w.choose m first others).2.1.inGuise g,
        (w.choose m first others).2.2.preceded g.earlier) := by
  have asked : ∃ offers, (w.consult (first :: others)).2 = { w with offers := offers } ∧
      (w.inGuise g).consult (first :: others) =
        ((w.consult (first :: others)).1, (w.consult (first :: others)).2.inGuise g) := by
    obtain ⟨cursor, reading, preferred, guide, offers⟩ := w
    cases guide with
    | none => exact ⟨offers, rfl, rfl⟩
    | some hook => exact ⟨offers.push (first :: others), rfl, rfl⟩
  obtain ⟨offers, walker, consulted⟩ := asked
  unfold choose
  rw [consulted]
  rcases answer : w.consult (first :: others) with ⟨_ | dir, v⟩
  · rw [answer] at walker
    obtain rfl : v = { w with offers := offers } := walker
    have settled := settle_inGuise (w := { w with offers := offers }) previous m first others
    dsimp only
    rw [settled]
  · rfl

private theorem tick_of_no_digit (ends : w.stuck.reading.digit = none) (s : Sheet)
    (m : Memory ε Console) :
    w.tick s m = (.deadEnd ⟨w.cursor.position, none⟩, w.stuck, m) := by
  unfold tick
  change w.reading.advance.digit = none at ends
  dsimp only
  rw [ends]
  rfl

private theorem tick_of_digit {d : Digit} (next : w.stuck.reading.digit = some d) (s : Sheet)
    (m : Memory ε Console) : w.tick s m = w.stuck.seek s m d := by
  unfold tick
  change w.reading.advance.digit = some d at next
  dsimp only
  rw [next]
  rfl

private theorem tick_inGuise (sees : w.Sees g s) (m : Memory ε Console) :
    (w.inGuise g).tick (g.sheet s) (m.preceded g.earlier) =
      ((w.tick s m).1, (w.tick s m).2.1.inGuise g, (w.tick s m).2.2.preceded g.earlier) := by
  cases next : w.stuck.reading.digit with
  | none =>
    rw [tick_of_no_digit next, tick_of_no_digit (sees.digit.trans next)]
    rfl
  | some d =>
    rw [tick_of_digit next, tick_of_digit (sees.digit.trans next)]
    have onward : (w.inGuise g).stuck.onward (g.sheet s) d = w.stuck.onward s d := sees.onward d
    have chosen := choose_inGuise (w := w.stuck) (sees.previous d next) m
    have disguised : (w.inGuise g).stuck = w.stuck.inGuise g := rfl
    unfold seek
    rw [onward, disguised]
    cases offer : w.stuck.onward s d with
    | nil => rfl
    | cons first others =>
      dsimp only
      rw [chosen]
      dsimp only
      obtain ⟨member, ⟨offers, asked⟩, _⟩ := choose_spec w.stuck m first others
      have listed : (w.stuck.choose m first others).1 ∈ w.onward s d := by
        rw [← offer] at member
        exact member
      have moved := sees.move d _ listed
      rw [asked]
      refine Prod.ext rfl (Prod.ext ?_ rfl)
      dsimp only [Walker.move, inGuise, stuck] at moved ⊢
      rw [moved]

end Walker

end Walk

namespace Program

open Console (Terminal)

namespace Machine

variable {ε : Type}

def inGuise (m : Machine ε) (g : Guise) : Machine ε where
  sheet := g.sheet m.sheet
  walker := m.walker.inGuise g
  memory := m.memory.preceded g.earlier
  input := g.input m.input
  asked := m.asked
  ticks := m.ticks

end Machine

def Phase.inGuise {ε : Type} (g : Guise) : Phase ε → Phase ε
  | .done result m => .done result (m.inGuise g)
  | .asking q m => .asking q (m.inGuise g)

theorem Phase.machine_inGuise {ε : Type} (phase : Phase ε) (g : Guise) :
    (phase.inGuise g).machine = phase.machine.inGuise g := by
  cases phase with
  | done result m => rfl
  | asking q m => rfl

namespace Machine

variable {ε : Type} (m : Machine ε) (g : Guise)

/-! ### Instructions -/

private theorem turn_inGuise (r : Walk.Reversal) : (m.inGuise g).turn r = (m.turn r).inGuise g := by
  cases r with
  | toggle => rfl
  | toward heading => rfl

private theorem resume_inGuise : (m.inGuise g).resume = m.resume.inGuise g := by
  unfold resume
  exact congrArg (fun memory => { m.inGuise g with memory := memory })
    (m.memory.resume_preceded g.earlier)

variable [Entropy ε]

private theorem modify_inGuise (p : Prepared) (x : Modifier) :
    (m.inGuise g).modify p x = ((m.modify p x).1, (m.modify p x).2.inGuise g) := by
  have velocity : (m.inGuise g).walker.cursor.velocity = m.walker.cursor.velocity := rfl
  cases x with
  | deref =>
    have register := m.memory.register_preceded g.earlier p.value p.fallback
    have memory : (m.inGuise g).memory = m.memory.preceded g.earlier := rfl
    simp only [modify, memory, register]
    rfl
  | pass => rfl
  | ground => rfl
  | toggle => rfl
  | backIfEast =>
    dsimp only [modify]
    rw [turn_inGuise, velocity, apply_ite (fun m : Machine ε => m.inGuise g)]
  | forwardIfWest =>
    dsimp only [modify]
    rw [turn_inGuise, velocity, apply_ite (fun m : Machine ε => m.inGuise g)]

theorem prepare_inGuise (d : Digit) (modifiers : List Modifier) :
    (m.inGuise g).prepare d modifiers =
      ((m.prepare d modifiers).1, (m.prepare d modifiers).2.inGuise g) := by
  unfold prepare
  generalize (⟨Digit.toInt d, false⟩ : Prepared) = p
  induction modifiers generalizing m p with
  | nil => rfl
  | cons x modifiers ih =>
    rw [List.foldl_cons, List.foldl_cons, modify_inGuise]
    exact ih _ _

private theorem conclude_inGuise (i : Intent) (operand : Option Int64) :
    (m.inGuise g).conclude i operand = (m.conclude i operand).inGuise g := by
  obtain ⟨register, value, use⟩ := i
  cases use <;> cases operand <;> rfl

private theorem collect_inGuise (i : Intent) (ticket : Nat) (key : String) :
    (m.inGuise g).collect i ticket key =
      ((m.collect i ticket key).1, (m.collect i ticket key).2.inGuise g) := by
  have settled : (m.resume.inGuise g).memory.settlement? ticket =
      m.resume.memory.settlement? ticket := rfl
  unfold collect
  rw [resume_inGuise, settled]
  cases m.resume.memory.settlement? ticket with
  | none => rfl
  | some v =>
    dsimp only
    rw [conclude_inGuise]

private theorem accept_inGuise (t : Terminal) (reply : String) :
    (m.inGuise g).accept t reply = (m.accept t reply).inGuise g := by
  have muted := Memory.set_preceded
    { m.memory with watcher := m.memory.watcher.setMuted true } g.earlier t.key (t.decode reply)
  unfold accept
  exact congrArg (fun memory : Memory ε Console => { m.inGuise g with
    memory := { memory with watcher := memory.watcher.setMuted false } }) muted

theorem answer_inGuise (q : Question) (reply : Option String) :
    (m.inGuise g).answer q reply = ((m.answer q reply).1, (m.answer q reply).2.inGuise g) := by
  cases reply with
  | none => exact Prod.ext rfl (resume_inGuise m g)
  | some text =>
    unfold answer
    dsimp only
    rw [accept_inGuise, collect_inGuise]

private theorem await_inGuise (i : Intent) (ticket : Nat) (key : String) :
    (m.inGuise g).await i ticket key = (m.await i ticket key).inGuise g := by
  have listens : (m.inGuise g).input.isOpen = m.input.isOpen := g.listens m.input
  unfold await
  cases Terminal.ofKey? key with
  | none =>
    dsimp only
    rw [collect_inGuise]
    rfl
  | some t =>
    dsimp only
    rw [listens, resume_inGuise]
    split
    · rfl
    · rfl

private theorem readVariable_inGuise (i : Intent) (name : String) (fallback : Option Int64) :
    (m.inGuise g).readVariable i name fallback =
      (m.readVariable i name fallback).inGuise g := by
  have got := m.memory.get_preceded g.earlier name fallback
  have memory : (m.inGuise g).memory = m.memory.preceded g.earlier := rfl
  unfold readVariable
  rw [memory, got]
  rcases m.memory.get name fallback with ⟨v | ⟨ticket, key⟩, memory⟩
  · exact congrArg (Phase.done (.ok .running)) (conclude_inGuise { m with memory := memory } g i v)
  · exact await_inGuise { m with memory := memory } g i ticket key

theorem perform_inGuise (d : Digit) (p : Prepared) {instruction : Instruction}
    (place : ∀ expected found row, instruction = .malformed expected found row →
      (m.inGuise g).faultPlace row = m.faultPlace row) :
    (m.inGuise g).perform d p instruction = (m.perform d p instruction).inGuise g := by
  have prefers (preferred : Bool) :
      (m.inGuise g).prefer p.value preferred = (m.prefer p.value preferred).inGuise g := by
    unfold prefer
    cases Digit.ofInt? p.value with
    | none => rfl
    | some d => rfl
  cases instruction with
  | idle => rfl
  | exit => rfl
  | prefer => exact congrArg (Phase.done (.ok .running)) (prefers true)
  | unprefer => exact congrArg (Phase.done (.ok .running)) (prefers false)
  | store name =>
    have written := m.memory.set_preceded g.earlier name p.value
    exact congrArg (fun memory => Phase.done (.ok .running) { m.inGuise g with memory := memory })
      written
  | read use operand =>
    cases operand with
    | own => exact congrArg (Phase.done (.ok .running)) (conclude_inGuise m g _ _)
    | named name => exact readVariable_inGuise m g _ name _
  | malformed expected found row =>
    unfold perform
    dsimp only
    rw [place expected found row rfl]
    rfl

/-! ### Steps -/

theorem tick_inGuise (sees : m.walker.Sees g m.sheet) :
    (m.inGuise g).tick = (m.tick.1, m.tick.2.inGuise g) := by
  have walked := Walk.Walker.tick_inGuise sees m.memory
  unfold tick inGuise
  dsimp only
  rw [walked]
  rcases m.walker.tick m.sheet m.memory with ⟨_ | _, walker, memory⟩
  · rfl
  · rfl

section SameGround

variable {g} (sheet : g.sheet = id) (box : g.box = id)

include sheet box

omit [Entropy ε] in
private theorem column_inGuise : (m.inGuise g).column = m.column := by
  unfold column below Walk.Walker.below Walk.Walker.look inGuise Walk.Walker.inGuise
    Walk.Cursor.inGuise
  rw [sheet, box]
  rfl

private theorem execute_inGuise (d : Digit) :
    (m.inGuise g).execute d = (m.execute d).inGuise g := by
  unfold execute
  rw [column_inGuise m sheet box, prepare_inGuise]
  apply perform_inGuise
  intro expected found row _
  unfold faultPlace inGuise Walk.Walker.inGuise Walk.Cursor.inGuise
  rw [box]
  rfl

theorem begin_inGuise (sees : m.walker.Sees g m.sheet) :
    (m.inGuise g).begin = m.begin.inGuise g := by
  have same := tick_inGuise m g sees
  rcases tick : m.tick with ⟨_ | stop, ticked⟩
  · rw [tick] at same
    rw [begin_of_moved same, begin_of_moved tick]
    exact execute_inGuise ticked sheet box _
  · rw [tick] at same
    rw [begin_of_deadEnd same, begin_of_deadEnd tick]
    rfl

theorem step_inGuise (input : g.input = id) (sees : m.walker.Sees g m.sheet) :
    (m.inGuise g).step = (m.step.1, m.step.2.inGuise g) := by
  have same := begin_inGuise m sheet box sees
  cases begun : m.begin with
  | done result m' =>
    rw [begun] at same
    rw [step_of_done same, step_of_done begun]
  | asking q m' =>
    rw [begun] at same
    have answered := answer_inGuise { m' with input := m'.input.next.2 } g q m'.input.next.1
    have waiting : (m'.inGuise g).input = m'.input := by
      unfold inGuise
      rw [input]
      rfl
    rw [step_of_asking same, step_of_asking begun, waiting, ← answered]
    unfold inGuise
    rw [input]
    rfl

end SameGround

end Machine

end Program

end DigitTrail
