import DigitTrail.Entropy
import DigitTrail.Proofs.Program.Order

/-!
The transcript of a run. What a program prints and what it asks for can be read off the
orders that its steps carry out: a fragment for each store to a terminal, a question for
each read of one. The reply to a question is written to its terminal by the same operation
that prints what a store writes, and the transcript shows that it is never printed.
-/

set_option autoImplicit false
set_option relaxedAutoImplicit false

namespace DigitTrail

open Console (Terminal)

private theorem Console.wrote_eq {c : Console} (wired : c.connected = true) (loud : c.muted = false)
    (key : String) (value : Int64) :
    c.wrote key value = { c with
      printed := c.printed ++ ((Terminal.ofKey? key).map fun t => t.render value).toArray } := by
  unfold wrote
  rw [if_neg (Bool.eq_false_iff.mp loud)]
  cases Terminal.ofKey? key with
  | none => simp
  | some t => simp [emit, wired]

namespace Program

/-- The input of a driver that had these replies, after some questions. The question that
finds no reply left closes it. -/
def Input.drained (replies : List (Option String)) (questions : Nat) : Input :=
  if questions ≤ replies.length then .listening (replies.drop questions) else .closed

theorem Input.isOpen_drained (replies : List (Option String)) (k : Nat) :
    (drained replies k).isOpen = decide (k ≤ replies.length) := by
  unfold drained
  split <;> rename_i h <;> simp [isOpen, h]

theorem Input.next_drained (replies : List (Option String)) (k : Nat) :
    (drained replies k).next = (replies[k]?.join, drained replies (k + 1)) := by
  unfold drained
  rcases Nat.lt_trichotomy k replies.length with more | last | beyond
  · have now : k ≤ replies.length := Nat.le_of_lt more
    have later : k + 1 ≤ replies.length := more
    rw [if_pos now, if_pos later, List.drop_eq_getElem_cons more, List.getElem?_eq_getElem more]
    rfl
  · have later : ¬ k + 1 ≤ replies.length := by omega
    rw [if_pos (Nat.le_of_eq last), if_neg later, last, List.drop_length]
    simp [next]
  · have now : ¬ k ≤ replies.length := by omega
    have later : ¬ k + 1 ≤ replies.length := by omega
    rw [if_neg now, if_neg later, List.getElem?_eq_none (Nat.le_of_lt beyond)]
    rfl

def Order.fragment? (o : Order) : Option String :=
  match o.instruction with
  | .store name => (Terminal.ofKey? name).map fun t => t.render o.prepared.value
  | _ => none

private theorem Order.tells_eq {ε : Type} [Entropy ε] (o : Order) {memory : Memory ε Console}
    (wired : memory.watcher.connected = true) (loud : memory.watcher.muted = false) :
    o.instruction.tells memory o.prepared.value = { memory.watcher with
      printed := memory.watcher.printed ++ o.fragment?.toArray } := by
  obtain ⟨d, p, instruction⟩ := o
  cases instruction with
  | store name =>
    change memory.watcher.wrote (memory.resolve name).1 p.value = _
    rw [Console.wrote_eq wired loud, Memory.ofKey?_resolve]
    rfl
  | _ => simp [Instruction.tells, Order.fragment?]

def Order.terminal? (o : Order) : Option Terminal := o.instruction.reads?.bind Terminal.ofKey?

def Contact.print (c : Contact) (fragment : Option String) : Contact :=
  { c with console := { c.console with printed := c.console.printed ++ fragment.toArray } }

def Contact.ask (c : Contact) : Contact :=
  { c with input := c.input.next.2, asked := c.asked + c.input.isOpen.toNat }

namespace Machine

variable {ε : Type} [Entropy ε]

/-- The fragment that the next step prints, if it stores to a terminal. -/
def prints (m : Machine ε) : Option String := m.order?.bind Order.fragment?

/-- The terminal that the next step asks for a character, if it reads one. -/
def asks (m : Machine ε) : Option Terminal := m.order?.bind Order.terminal?

/-- The machine after some steps, whatever they came to. -/
def stepped (m : Machine ε) : Nat → Machine ε
  | 0 => m
  | n + 1 => (m.stepped n).step.2

/-- How many of the first steps read a terminal. -/
def questions (m : Machine ε) (n : Nat) : Nat :=
  ((List.range n).filterMap fun k => (m.stepped k).asks).length

theorem questions_succ (m : Machine ε) (n : Nat) :
    m.questions (n + 1) = m.questions n + (m.stepped n).asks.toList.length := by
  unfold questions
  rw [List.range_succ, List.filterMap_append, List.length_append]
  cases asks : (m.stepped n).asks <;> simp [asks]

private theorem begin_of_asks {m : Machine ε} {t : Terminal} (asks : m.asks = some t) :
    ∃ (o : Order) (use : Use) (turned : Machine ε) (e : ε), m.order? = some o ∧
      o.instruction = .read use (.named t.key) ∧
      m.begin = turned.readVariable ⟨o.digit, o.prepared.value, use⟩ t.key o.prepared.fallback ∧
      turned.memory = m.memory.reseed e ∧ turned.contact = m.contact := by
  obtain ⟨o, order, reads⟩ := Option.bind_eq_some_iff.mp asks
  obtain ⟨name, named, terminal⟩ := Option.bind_eq_some_iff.mp reads
  obtain ⟨use, instruction⟩ := Instruction.of_reads? named
  obtain rfl := Console.Terminal.eq_of_ofKey? terminal
  obtain ⟨turned, e, begun, memory, contact⟩ := begin_of_order order
  rw [instruction] at begun
  exact ⟨o, use, turned, e, order, instruction, begun, memory, contact⟩

private theorem prints_of_asks {m : Machine ε} {t : Terminal} (asks : m.asks = some t) :
    m.prints = none := by
  obtain ⟨o, use, _, _, order, instruction, _⟩ := begin_of_asks asks
  simp [prints, order, Order.fragment?, instruction]

private theorem begin_of_silent {m : Machine ε} (wired : m.memory.watcher.connected = true)
    (loud : m.memory.watcher.muted = false) (silent : m.asks = none) :
    ∃ result m', m.begin = .done result m' ∧ m'.contact = m.contact.print m.prints := by
  have printless (c : Contact) : c.print none = c := by simp [Contact.print]
  cases order : m.order? with
  | none =>
    obtain ⟨stop, begun⟩ := begin_of_no_order order
    refine ⟨_, _, begun, ?_⟩
    simp only [prints, order, Option.bind_none, printless]
    rfl
  | some o =>
    obtain ⟨turned, e, begun, memory, contact⟩ := begin_of_order order
    have silent' : o.terminal? = none := by simpa [asks, order] using silent
    have printed : m.prints = o.fragment? := by simp [prints, order]
    have console : turned.memory.watcher = m.memory.watcher := congrArg Contact.console contact
    rw [printed]
    cases named : o.instruction.reads? with
    | none =>
      obtain ⟨result, m', done, _, _, contact'⟩ :=
        perform_of_unread turned o.digit o.prepared named
      refine ⟨result, m', begun.trans done, ?_⟩
      rw [contact', contact]
      rw [o.tells_eq (by rw [console, wired]) (by rw [console, loud]), console]
      rfl
    | some name =>
      obtain ⟨use, instruction⟩ := Instruction.of_reads? named
      have plain : Terminal.ofKey? name = none := by
        simpa [Order.terminal?, named] using silent'
      have unprinted : o.fragment? = none := by rw [Order.fragment?, instruction]
      rw [instruction] at begun
      obtain ⟨e', v, concluded⟩ := conclude_eq
        { turned with memory := (turned.memory.get name o.prepared.fallback).2.resume }
        ⟨o.digit, o.prepared.value, use⟩
        ((turned.memory.stored? (turned.memory.resolve name).1).or o.prepared.fallback)
      refine ⟨_, _, begun.trans (readVariable_of_plain turned _ plain _), ?_⟩
      rw [concluded, unprinted, printless, ← contact]
      have heard : (turned.memory.get name o.prepared.fallback).2.resume.watcher =
          turned.memory.watcher := by
        rw [Memory.resume_watcher, Memory.get_watcher]
      simp only [Machine.contact, Contact.mk.injEq, and_true]
      exact heard

private theorem contact_step {m : Machine ε} (wired : m.memory.watcher.connected = true)
    (loud : m.memory.watcher.muted = false) :
    m.step.2.contact = match m.asks with
      | none => m.contact.print m.prints
      | some _ => m.contact.ask := by
  cases asks : m.asks with
  | none =>
    obtain ⟨result, m', begun, contact⟩ := begin_of_silent wired loud asks
    rw [step_of_done begun]
    exact contact
  | some t =>
    obtain ⟨o, use, turned, e, _, _, begun, memory, contact⟩ := begin_of_asks asks
    have console : turned.memory.watcher = m.memory.watcher := congrArg Contact.console contact
    have unmuted : turned.memory.watcher.setMuted false = m.memory.watcher := by
      rw [console, Console.setMuted, ← loud]
    rw [step_of_terminal begun, ← contact]
    cases turned.input.next.1 with
    | none => rfl
    | some reply =>
      simp only [Machine.contact, answered, Contact.ask, Contact.mk.injEq, and_true]
      exact unmuted.trans console.symm

theorem watcher_step {m : Machine ε} (wired : m.memory.watcher.connected = true)
    (loud : m.memory.watcher.muted = false) :
    m.step.2.memory.watcher = { m.memory.watcher with
      printed := m.memory.watcher.printed ++ m.prints.toArray } := by
  have contact := contact_step wired loud
  cases asks : m.asks with
  | none =>
    rw [asks] at contact
    exact congrArg Contact.console contact
  | some t =>
    rw [asks] at contact
    rw [prints_of_asks asks]
    have console : m.step.2.memory.watcher = m.memory.watcher := congrArg Contact.console contact
    simp [console]

theorem input_begin {m : Machine ε} (wired : m.memory.watcher.connected = true)
    (loud : m.memory.watcher.muted = false) : m.begin.machine.input = m.input := by
  cases asks : m.asks with
  | none =>
    obtain ⟨result, m', begun, contact⟩ := begin_of_silent wired loud asks
    rw [begun]
    exact congrArg Contact.input contact
  | some t =>
    obtain ⟨o, use, turned, e, _, _, begun, _, contact⟩ := begin_of_asks asks
    rw [begun, readVariable_key]
    have input : turned.input = m.input := congrArg Contact.input contact
    split
    · exact input
    · exact input

theorem input_answer (m : Machine ε) (q : Question) (reply : Option String) :
    (m.answer q reply).2.input = m.input := by
  cases reply with
  | none => rfl
  | some text =>
    unfold answer collect
    dsimp only
    split
    · rename_i v _
      obtain ⟨e, w, concluded⟩ := conclude_eq (m.accept q.terminal text).resume q.intent v
      rw [concluded]
      rfl
    · rfl

theorem contact_stepped {m : Machine ε} {replies : List (Option String)}
    (fresh : m.contact = ⟨.fresh true, .listening replies, 0⟩) (n : Nat) :
    (m.stepped n).contact =
      ⟨{ Console.fresh true with
          printed := ((List.range n).filterMap fun k => (m.stepped k).prints).toArray },
        .drained replies (m.questions n), min (m.questions n) (replies.length + 1)⟩ := by
  induction n with
  | zero => exact fresh
  | succ n ih =>
    have console := congrArg Contact.console ih
    have wired : (m.stepped n).memory.watcher.connected = true := congrArg Console.connected console
    have loud : (m.stepped n).memory.watcher.muted = false := congrArg Console.muted console
    have step := contact_step wired loud
    change (m.stepped n).step.2.contact = _
    rw [step, questions_succ, List.range_succ, List.filterMap_append]
    cases asks : (m.stepped n).asks with
    | none =>
      rw [ih]
      cases prints : (m.stepped n).prints <;> simp [Contact.print, prints]
    | some t =>
      have unprinted : (m.stepped n).prints = none := prints_of_asks asks
      have count : min (m.questions n) (replies.length + 1) +
          (decide (m.questions n ≤ replies.length)).toNat =
            min (m.questions n + 1) (replies.length + 1) := by
        by_cases h : m.questions n ≤ replies.length <;> simp [h] <;> omega
      rw [ih]
      simp [Contact.ask, unprinted, Input.next_drained, Input.isOpen_drained, count]

theorem asking_iff {m : Machine ε} (wired : m.memory.watcher.connected = true)
    (loud : m.memory.watcher.muted = false) :
    (∃ q left, m.begin = .asking q left) ↔ m.asks.isSome = true ∧ m.input.isOpen = true := by
  cases asks : m.asks with
  | none =>
    obtain ⟨result, m', begun, _⟩ := begin_of_silent wired loud asks
    simp [begun]
  | some t =>
    obtain ⟨o, use, turned, e, _, _, begun, _, contact⟩ := begin_of_asks asks
    have input : turned.input = m.input := congrArg Contact.input contact
    rw [begun, readVariable_key, input]
    cases m.input.isOpen <;> simp

private theorem step_of_read {m : Machine ε} {o : Order} {use : Use} {t : Terminal}
    (order : m.order? = some o) (reads : o.instruction = .read use (.named t.key)) :
    match m.input.next.1 with
    | none => m.step.1 = .error .inputUnavailable
    | some reply => m.step.1 = .ok .running ∧
      m.step.2.memory.stored? t.key = some (t.decode reply) ∧
      m.step.2.memory.registers = m.memory.registers.set o.digit
        (some (use.result o.prepared.value (t.decode reply))) := by
  obtain ⟨turned, e, begun, memory, contact⟩ := begin_of_order order
  rw [reads] at begun
  have input : turned.input = m.input := congrArg Contact.input contact
  have step := step_of_terminal begun
  rw [input] at step
  cases reply : m.input.next.1 with
  | none =>
    rw [reply] at step
    rw [step]
  | some text =>
    rw [reply] at step
    rw [step]
    refine ⟨rfl, ?_, ?_⟩
    · exact Std.TreeMap.getElem?_insert_self
    · change turned.memory.registers.set o.digit _ = _
      rw [memory]
      rfl

private theorem stored_of_store {m : Machine ε} {o : Order} {t : Terminal}
    (order : m.order? = some o)
    (stores : o.instruction = .store t.key) :
    m.step.2.memory.stored? t.key = some o.prepared.value := by
  obtain ⟨turned, e, begun, _⟩ := begin_of_order order
  rw [stores] at begun
  obtain ⟨e', written⟩ := turned.memory.set_eq t.key o.prepared.value
  rw [step_of_done begun, written, Memory.resolve_key]
  exact Std.TreeMap.getElem?_insert_self

/-- The transcript of a run, for every program whose driver has just been connected and has
these replies ahead, each a text or a refusal, and for any number of steps. The fragments
printed are, in order, the renderings of the values that the stores to a terminal wrote, and
nothing else. A step stops at a question exactly if it reads a terminal and the driver still
listens, so that there are as many questions as reads, up to the one that finds no reply
left. The reads take the replies in turn: a reply leaves its decoded value in the terminal
and is the operand, a refusal fails the step, and neither prints. -/
theorem transcript_of_run {m : Machine ε} {replies : List (Option String)}
    (fresh : m.contact = ⟨.fresh true, .listening replies, 0⟩) (n : Nat) :
    (m.stepped n).memory.watcher.printed.toList =
      (List.range n).filterMap (fun k => (m.stepped k).prints) ∧
    (∀ (o : Order) (t : Terminal), (m.stepped n).order? = some o → o.instruction = .store t.key →
      (m.stepped (n + 1)).memory.stored? t.key = some o.prepared.value) ∧
    (m.stepped n).asked = min (m.questions n) (replies.length + 1) ∧
    ((∃ q left, (m.stepped n).begin = .asking q left) ↔
      (m.stepped n).asks.isSome = true ∧ m.questions n ≤ replies.length) ∧
    (∀ (o : Order) (use : Use) (t : Terminal), (m.stepped n).order? = some o →
      o.instruction = .read use (.named t.key) →
      (m.stepped (n + 1)).memory.watcher = (m.stepped n).memory.watcher ∧
      match (replies[m.questions n]?).join with
      | none => (m.stepped n).step.1 = .error .inputUnavailable
      | some reply => (m.stepped n).step.1 = .ok .running ∧
        (m.stepped (n + 1)).memory.stored? t.key = some (t.decode reply) ∧
        (m.stepped (n + 1)).memory.registers = (m.stepped n).memory.registers.set o.digit
          (some (use.result o.prepared.value (t.decode reply)))) := by
  have contact := contact_stepped fresh n
  have console := congrArg Contact.console contact
  have input : (m.stepped n).input = .drained replies (m.questions n) :=
    congrArg Contact.input contact
  have wired : (m.stepped n).memory.watcher.connected = true := congrArg Console.connected console
  have loud : (m.stepped n).memory.watcher.muted = false := congrArg Console.muted console
  refine ⟨?_, fun o t order stores => stored_of_store order stores,
    congrArg Contact.asked contact, ?_, ?_⟩
  · exact congrArg (fun c => c.printed.toList) console
  · rw [asking_iff wired loud, input, Input.isOpen_drained, decide_eq_true_eq]
  · intro o use t order reads
    have asks : (m.stepped n).asks = some t := by
      simp [asks, order, Order.terminal?, reads, Instruction.reads?, Terminal.ofKey?_key]
    have silent := contact_step wired loud
    rw [asks] at silent
    have heard := step_of_read order reads
    rw [input, Input.next_drained] at heard
    exact ⟨congrArg Contact.console silent, heard⟩

/-- A character is read into a register and its terminal, a digit is printed, and a second
read finds nobody left to answer. -/
theorem transcript_of_a_short_run :
    let m := Machine.load ⟨#[some 3, some 1, some 4, some 1]⟩ "3 1 4 1\n  ^ v +\n  SYS_T"
      (⟨[]⟩ : Entropy.Script) (.listening [some "7"]) true
    (m.stepped 3).memory.watcher.printed.toList = ["4"] ∧ (m.stepped 3).asked = 2 ∧
      (m.stepped 1).memory.stored? "SYS_T" = some 7 ∧
      (m.stepped 2).step.1 = .error .inputUnavailable := by
  intro m
  have fresh : m.contact = ⟨.fresh true, .listening [some "7"], 0⟩ := rfl
  obtain ⟨printed, _, asked, _⟩ := transcript_of_run fresh 3
  obtain ⟨_, _, _, _, first⟩ := transcript_of_run fresh 0
  obtain ⟨_, _, _, _, second⟩ := transcript_of_run fresh 2
  have load : (m.stepped 0).order? = some ⟨1, ⟨1, false⟩, .read .keep (.named "SYS_T")⟩ := by
    decide +kernel
  have add : (m.stepped 2).order? = some ⟨1, ⟨1, false⟩, .read .add (.named "SYS_T")⟩ := by
    decide +kernel
  have count : m.questions 2 = 1 := by decide +kernel
  have heard := (first _ .keep .decimal load rfl).2
  rw [count] at second
  have refused := second _ .add .decimal add rfl
  exact ⟨printed.trans (by decide +kernel), asked.trans (by decide +kernel),
    heard.2.1.trans (by decide), refused.2⟩

end Machine

end Program

end DigitTrail
