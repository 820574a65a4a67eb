import DigitTrail.Entropy
import DigitTrail.Proofs.Command.Stream
import DigitTrail.Proofs.Command.Window
import DigitTrail.Proofs.Program.Guise
import DigitTrail.Proofs.Program.Run

/-!
Drivers and runs. A driver takes away what a machine prints and hands it the characters that it
asks for, step by step. A machine that runs alone keeps all that it prints and has its replies
from the start. The two go the same way: put back what was taken away and the replies to come,
and the machine of the driver is the one that runs alone.
-/

set_option autoImplicit false
set_option relaxedAutoImplicit false

namespace DigitTrail.Command

open Number (Overflow)
open Program (Ending Fault Guise Input Machine)

def replies (cs : List Char) : List (Option String) := cs.map fun c => some (String.singleton c)

theorem join_getElem?_replies (cs : List Char) (k : Nat) :
    ((replies cs)[k]?).join = cs[k]?.map String.singleton := by
  rw [replies, List.getElem?_map]
  cases cs[k]? <;> rfl

variable {ε σ : Type}

def alone (s : Settings) (r : Reference) (source : String) (entropy : ε) (input : Input) :
    Machine ε :=
  let loaded := Machine.load r source entropy input true
  s.corners.elim loaded fun corners => loaded.enclosed corners.1 corners.2

private theorem machineFor_eq (s : Settings) (r : Reference) (source : String) (entropy : ε)
    (input : Input) : machineFor s r source entropy input = alone s r source entropy input := by
  unfold machineFor alone
  cases s.corners with
  | none => rfl
  | some corners => rfl

theorem contact_alone (s : Settings) (r : Reference) (source : String) (entropy : ε)
    (input : Input) : (alone s r source entropy input).contact = ⟨.fresh true, input, 0⟩ := by
  unfold alone
  cases s.corners with
  | none => rfl
  | some corners => rfl

/-! ### Steps on a desk -/

section Steps

variable [Entropy ε] [Supplier σ]

def stepFrom (supply : σ) (m : Machine ε) : (Except Fault Program.Step × Machine ε) × σ :=
  match m.begin with
  | .done result m => ((result, m), supply)
  | .asking q m =>
    (m.answer q ((Supplier.next supply).1.map String.singleton), (Supplier.next supply).2)

theorem stepFrom_of_done {m m' : Machine ε} {result : Except Fault Program.Step}
    (begun : m.begin = .done result m') (supply : σ) :
    stepFrom supply m = ((result, m'), supply) := by
  unfold stepFrom
  rw [begun]

theorem stepFrom_of_asking {m m' : Machine ε} {q : Program.Question}
    (begun : m.begin = .asking q m') (supply : σ) :
    stepFrom supply m = (m'.answer q ((Supplier.next supply).1.map String.singleton),
      (Supplier.next supply).2) := by
  unfold stepFrom
  rw [begun]

private theorem run_stepOn (m : Machine ε) (desk : Desk σ) :
    (stepOn m : StateM (Desk σ) _).run desk =
      ((stepFrom desk.supply m).1, { desk with supply := (stepFrom desk.supply m).2 }) := by
  unfold stepOn stepFrom
  cases m.begin with
  | done result m => rfl
  | asking q m => rfl

theorem run_drive_succ (s : Settings) (page : Page) (fuel : Nat) (m : Machine ε) (desk : Desk σ) :
    (drive s page (fuel + 1) m : StateM (Desk σ) _).run desk =
      let step := stepFrom desk.supply m
      let round := Round.ofStep (shown s page) step.1.1 step.1.2
      let left : Desk σ := ⟨step.2, desk.out.push round.out, desk.err.push round.shown⟩
      match round.finish with
      | some f => ((some f, round.machine), left)
      | none => (drive s page fuel round.machine : StateM (Desk σ) _).run left := by
  rw [drive, StateT.run_bind, run_stepOn]
  generalize stepFrom desk.supply m = step
  obtain ⟨⟨result, m'⟩, supply⟩ := step
  show (match (Round.ofStep (shown s page) result m').finish with
    | some f => _
    | none => _ : StateM (Desk σ) _).run _ = _
  dsimp only
  generalize Round.ofStep (shown s page) result m' = round
  obtain ⟨finish, m', out, told⟩ := round
  cases finish with
  | none => rfl
  | some f => rfl

end Steps

section Rounds

variable (display : Machine ε → Except Overflow String) (result : Except Fault Program.Step)
  (m : Machine ε)

private theorem Round.machine_ofStep : (ofStep display result m).machine = drained m := by
  unfold ofStep
  split
  · rfl
  · split <;> rfl

private theorem Round.out_ofStep : (ofStep display result m).out = printedText m := by
  unfold ofStep
  split
  · rfl
  · split <;> rfl

private theorem Round.finish_cases :
    (ofStep display result m).finish = (Program.ending? result).map .ended ∨
      ∃ went cause, result = .ok went ∧ display (drained m) = .error cause ∧
        (ofStep display result m).finish = some (.overflowed cause) := by
  unfold ofStep
  cases result with
  | error f => exact .inl rfl
  | ok went =>
    dsimp only
    cases shows : display (drained m) with
    | ok text => exact .inl rfl
    | error cause => exact .inr ⟨went, cause, rfl, rfl, rfl⟩

private theorem outside_of_shown_error {s : Settings} {page : Page} {m : Machine ε}
    {cause : Overflow}
    (overflows : shown s page m = .error cause) :
    ∃ radius, s.radius = some radius ∧ ¬ HasRoom m.walker.cursor.position radius := by
  unfold shown view at overflows
  cases viewed : s.radius with
  | none =>
    rw [viewed] at overflows
    cases overflows
  | some radius =>
    refine ⟨radius, rfl, (window_overflows_iff page _ radius).mp ?_⟩
    rw [viewed] at overflows
    dsimp only at overflows
    cases drawn : window page m.walker.cursor.position radius with
    | error cause => exact ⟨cause, rfl⟩
    | ok text =>
      rw [drawn] at overflows
      cases overflows

end Rounds

/-! ### A machine that is attended and one that runs alone -/

/-- The same machine with what was taken away from it before, and with an input of its own. -/
def rejoined (m : Machine ε) (earlier : Array String) (input : Input) : Machine ε :=
  { m with memory := m.memory.preceded earlier, input := input }

/-- The guise of a machine that listens: fragments before its own, and replies that wait. -/
def attending (earlier : Array String) (waiting : List (Option String)) : Guise where
  earlier := earlier
  input
    | .closed => .closed
    | .listening _ => .listening waiting
  listens := by
    intro i
    cases i with
    | closed => rfl
    | listening _ => rfl

private theorem rejoined_eq {m : Machine ε} (opened : m.input.isOpen = true)
    (earlier : Array String)
    (waiting : List (Option String)) :
    rejoined m earlier (.listening waiting) = m.inGuise (attending earlier waiting) := by
  obtain ⟨sheet, walker, memory, input, asked, ticks⟩ := m
  cases input with
  | closed => cases opened
  | listening _ => rfl

/-- Between two steps a driver listens, and nothing is printed that it has not taken away. -/
structure Attended (m : Machine ε) : Prop where
  console : m.memory.watcher = .fresh true
  opened : m.input.isOpen = true

private theorem attended_drained {m : Machine ε} {fragments : Array String}
    (console : m.memory.watcher = { Console.fresh true with printed := fragments })
    (opened : m.input.isOpen = true) : Attended (drained m) := by
  refine ⟨?_, opened⟩
  change { m.memory.watcher with printed := #[] } = _
  rw [console]
  rfl

private theorem rejoined_drained (m : Machine ε) (earlier : Array String) (input : Input) :
    rejoined (drained m) (earlier ++ m.memory.watcher.printed) input =
      rejoined m earlier input := by
  simp [rejoined, drained, Memory.preceded, Console.preceded]

private theorem rejoined_alone (s : Settings) (r : Reference) (source : String) (entropy : ε)
    (input input' : Input) :
    rejoined (alone s r source entropy input) #[] input' = alone s r source entropy input' := by
  unfold alone
  cases s.corners with
  | none => rfl
  | some corners => rfl

variable [Entropy ε] [Supplier σ] {rest : σ → List Char}

namespace Attended

variable {m : Machine ε}

private theorem isOpen_begin (attended : Attended m) : m.begin.machine.input.isOpen = true := by
  have wired : m.memory.watcher.connected = true := by rw [attended.console]; rfl
  have loud : m.memory.watcher.muted = false := by rw [attended.console]; rfl
  rw [Machine.input_begin wired loud]
  exact attended.opened

private theorem begin_rejoined (attended : Attended m) (earlier : Array String)
    (waiting : List (Option String)) :
    (rejoined m earlier (.listening waiting)).begin =
      m.begin.inGuise (attending earlier waiting) := by
  rw [rejoined_eq attended.opened]
  exact Machine.begin_inGuise m rfl rfl ⟨rfl, fun _ _ => rfl, fun _ => rfl, fun _ _ _ => rfl⟩

/-- A step of the driver is a step of the machine with everything put back. Only the question that
finds no character left tells the inputs apart, and it fails both. -/
private theorem step_rejoined (streams : Streams rest) (attended : Attended m)
    (earlier : Array String)
    (supply : σ) :
    ∃ input, (rejoined m earlier (.listening (replies (rest supply)))).step =
        ((stepFrom supply m).1.1, rejoined (stepFrom supply m).1.2 earlier input) ∧
      (stepFrom supply m).1.2.input.isOpen = true ∧
      ∀ result, (stepFrom supply m).1.1 = .ok result →
        input = .listening (replies (rest (stepFrom supply m).2)) := by
  have opened := attended.isOpen_begin
  have begun := attended.begin_rejoined earlier (replies (rest supply))
  cases phase : m.begin with
  | done result m' =>
    rw [phase] at begun opened
    change m'.input.isOpen = true at opened
    rw [Machine.step_of_done begun, ← rejoined_eq opened, stepFrom_of_done phase]
    exact ⟨_, rfl, opened, fun _ _ => rfl⟩
  | asking q m' =>
    rw [phase] at begun opened
    change m'.input.isOpen = true at opened
    rw [Machine.step_of_asking begun, ← rejoined_eq opened, stepFrom_of_asking phase,
      streams.first]
    dsimp only
    rw [streams.later, Machine.input_answer]
    cases rest supply with
    | nil =>
      have resumed := m'.memory.resume_preceded earlier
      refine ⟨.closed, Prod.ext rfl ?_, opened, ?_⟩
      · exact congrArg (fun memory => { m' with memory := memory, input := .closed }) resumed
      · intro result failed
        cases failed
    | cons c rest =>
      refine ⟨_, ?_, opened, fun _ _ => rfl⟩
      have answered := m'.answer_inGuise (attending earlier (replies rest)) q
        (some (String.singleton c))
      rw [← rejoined_eq opened, ← rejoined_eq (by rw [Machine.input_answer]; exact opened)]
        at answered
      exact answered

private theorem supply_stepFrom (attended : Attended m) (earlier : Array String)
    (waiting : List (Option String)) (supply : σ) :
    (stepFrom supply m).2 =
      Supplier.after supply (rejoined m earlier (.listening waiting)).asks.toList.length := by
  have begun := attended.begin_rejoined earlier waiting
  have console : (rejoined m earlier (.listening waiting)).memory.watcher =
      (Console.fresh true).preceded earlier := congrArg (·.preceded earlier) attended.console
  have asking := Machine.asking_iff (m := rejoined m earlier (.listening waiting))
    (by rw [console]; rfl) (by rw [console]; rfl)
  rw [begun] at asking
  cases phase : m.begin with
  | done result m' =>
    rw [stepFrom_of_done phase]
    rw [phase] at asking
    cases asks : (rejoined m earlier (.listening waiting)).asks with
    | none => rfl
    | some t =>
      obtain ⟨q, left, impossible⟩ := asking.mpr ⟨by rw [asks]; rfl, rfl⟩
      cases impossible
  | asking q m' =>
    rw [stepFrom_of_asking phase]
    rw [phase] at asking
    obtain ⟨asks, _⟩ := asking.mp ⟨q, _, rfl⟩
    obtain ⟨t, asks⟩ := Option.isSome_iff_exists.mp asks
    rw [asks]
    rfl

private theorem watcher_stepFrom (streams : Streams rest) (attended : Attended m)
    (earlier : Array String)
    (supply : σ) :
    (stepFrom supply m).1.2.memory.watcher = { Console.fresh true with
      printed := (rejoined m earlier (.listening (replies (rest supply)))).prints.toArray } := by
  obtain ⟨input, step, _⟩ := attended.step_rejoined streams earlier supply
  have console : (rejoined m earlier (.listening (replies (rest supply)))).memory.watcher =
      (Console.fresh true).preceded earlier := congrArg (·.preceded earlier) attended.console
  have watcher := Machine.watcher_step
    (m := rejoined m earlier (.listening (replies (rest supply))))
    (by rw [console]; rfl) (by rw [console]; rfl)
  rw [step, console] at watcher
  change (stepFrom supply m).1.2.memory.watcher.preceded earlier = _ at watcher
  generalize (stepFrom supply m).1.2.memory.watcher = taken at watcher ⊢
  obtain ⟨connected, muted, printed⟩ := taken
  simpa [Console.preceded, Console.fresh, Array.append_right_inj] using watcher

private theorem printedText_stepFrom (streams : Streams rest) (attended : Attended m)
    (earlier : Array String) (supply : σ) :
    printedText (stepFrom supply m).1.2 =
      (rejoined m earlier (.listening (replies (rest supply)))).prints.getD "" := by
  unfold printedText
  rw [attended.watcher_stepFrom streams earlier supply]
  cases (rejoined m earlier (.listening (replies (rest supply)))).prints <;> simp

private theorem stepped (streams : Streams rest) (attended : Attended m) (earlier : Array String)
    (supply : σ) (went : Program.Step) (goes : (stepFrom supply m).1.1 = .ok went) :
    Attended (drained (stepFrom supply m).1.2) ∧ ∃ earlier',
      (rejoined m earlier (.listening (replies (rest supply)))).step.2 =
        rejoined (drained (stepFrom supply m).1.2) earlier'
          (.listening (replies (rest (stepFrom supply m).2))) := by
  obtain ⟨input, step, opened, listening⟩ := attended.step_rejoined streams earlier supply
  refine ⟨attended_drained (attended.watcher_stepFrom streams earlier supply) opened,
    earlier ++ (stepFrom supply m).1.2.memory.watcher.printed, ?_⟩
  rw [step, listening went goes, rejoined_drained]

end Attended

/-! ### How far a drive gets -/

/-- A driver may stop after some steps of a machine: they are all that it was allowed, the last of
them ends the run, or the last of them cannot be shown. -/
inductive Reaches (s : Settings) (fuel : Nat) (m : Machine ε) : Nat → Option Finish → Prop
  | unfinished (running : ∀ k < fuel, (m.stepped k).step.1 = .ok .running) :
      Reaches s fuel m fuel none
  | ended {n : Nat} {ending : Except Fault Ending} (within : n < fuel)
      (running : ∀ k < n, (m.stepped k).step.1 = .ok .running)
      (ends : Program.ending? (m.stepped n).step.1 = some ending) :
      Reaches s fuel m (n + 1) (some (.ended ending))
  | overflowed {n radius : Nat} {went : Program.Step} {cause : Overflow} (within : n < fuel)
      (running : ∀ k < n, (m.stepped k).step.1 = .ok .running)
      (goes : (m.stepped n).step.1 = .ok went) (viewed : s.radius = some radius)
      (outside : ¬ HasRoom (m.stepped (n + 1)).walker.cursor.position radius) :
      Reaches s fuel m (n + 1) (some (.overflowed cause))

/-- All the windows of some radius that a run of at most `fuel` steps shows have room. -/
def WindowsFit (radius : Option Nat) (m : Machine ε) (fuel : Nat) : Prop :=
  ∀ reach ∈ radius, ∀ n < fuel, (∀ k < n, (m.stepped k).step.1 = .ok .running) →
    ∀ went, (m.stepped n).step.1 = .ok went →
      HasRoom (m.stepped (n + 1)).walker.cursor.position reach

namespace Reaches

variable {s s' : Settings} {fuel n n' : Nat} {m : Machine ε} {finish finish' : Option Finish}

private theorem succ (runs : m.step.1 = .ok .running) (later : Reaches s fuel m.step.2 n finish) :
    Reaches s (fuel + 1) m (n + 1) finish := by
  have running {n : Nat} (rest : ∀ k < n, (m.step.2.stepped k).step.1 = .ok .running) :
      ∀ k < n + 1, (m.stepped k).step.1 = .ok .running := by
    intro k lt
    cases k with
    | zero => exact runs
    | succ k =>
      rw [← m.step_stepped]
      exact rest k (Nat.lt_of_succ_lt_succ lt)
  cases later with
  | unfinished rest => exact .unfinished (running rest)
  | ended within rest ends =>
    rw [m.step_stepped] at ends
    exact .ended (Nat.succ_lt_succ within) (running rest) ends
  | overflowed within rest goes viewed outside =>
    rw [m.step_stepped] at goes outside
    exact .overflowed (Nat.succ_lt_succ within) (running rest) goes viewed outside

theorem running (reaches : Reaches s fuel m n finish) :
    ∀ k, k + 1 < n → (m.stepped k).step.1 = .ok .running := by
  intro k lt
  cases reaches with
  | unfinished running => exact running k (Nat.lt_of_succ_lt lt)
  | ended within running ends => exact running k (Nat.lt_of_succ_lt_succ lt)
  | overflowed within running goes viewed outside => exact running k (Nat.lt_of_succ_lt_succ lt)

theorem run_eq (reaches : Reaches s fuel m n finish) (fit : WindowsFit s.radius m fuel) :
    finish = (m.run fuel).1.map .ended ∧ (m.run fuel).2 = m.stepped n := by
  cases reaches with
  | unfinished running =>
    rw [Machine.run_of_running running]
    exact ⟨rfl, rfl⟩
  | ended within running ends =>
    rw [Machine.run_of_ending running ends within]
    exact ⟨rfl, rfl⟩
  | overflowed within running goes viewed outside =>
    exact absurd (fit _ viewed _ within running _ goes) outside

private theorem le (reaches : Reaches s fuel m n finish) (other : Reaches s' fuel m n' finish')
    (fit : WindowsFit s'.radius m fuel) : n ≤ n' := by
  by_contra less
  cases other with
  | unfinished running =>
    cases reaches with
    | unfinished _ => exact less (Nat.le_refl _)
    | ended within _ _ => omega
    | overflowed within _ _ _ _ => omega
  | ended within running ends =>
    rw [reaches.running _ (Nat.lt_of_not_le less)] at ends
    cases ends
  | overflowed within running goes viewed outside =>
    exact absurd (fit _ viewed _ within running _ goes) outside

end Reaches

/-- A driver has gone through some steps of a machine that runs alone, with a question to its
supplier for each that the machine has, and has taken away what each of them printed. -/
structure Matches (rest : σ → List Char) (s : Settings) (fuel : Nat) (m : Machine ε)
    (desk : Desk σ) (driven : (Option Finish × Machine ε) × Desk σ) (n : Nat) : Prop where
  reaches : Reaches s fuel m n driven.1.1
  out : driven.2.out.toList = desk.out.toList ++ (m.trail n).map fun m => m.prints.getD ""
  supply : driven.2.supply = Supplier.after desk.supply (m.questions n)
  entropy : driven.1.2.memory.entropy = (m.stepped n).memory.entropy
  input : ∀ ending, driven.1.1 = some (.ended (.ok ending)) →
    (m.stepped n).input = .listening (replies (rest driven.2.supply))

section Follow

attribute [local irreducible] Machine.step stepFrom

namespace Matches

variable {s : Settings} {fuel n : Nat} {m m' : Machine ε} {desk : Desk σ} {supply : σ}
  {told : Array String}

private theorem of_last {finish : Option Finish} (reaches : Reaches s fuel m 1 finish)
    (asked : supply = Supplier.after desk.supply m.asks.toList.length)
    (entropy : m'.memory.entropy = m.step.2.memory.entropy)
    (input : ∀ ending, finish = some (.ended (.ok ending)) →
      m.step.2.input = .listening (replies (rest supply))) :
    Matches rest s fuel m desk
      ((finish, m'), ⟨supply, desk.out.push (m.prints.getD ""), told⟩) 1 where
  reaches := reaches
  out := Array.toList_push
  supply := by
    rw [m.questions_step 0]
    exact asked
  entropy := entropy
  input := input

private theorem of_running {driven : (Option Finish × Machine ε) × Desk σ}
    (runs : m.step.1 = .ok .running)
    (asked : supply = Supplier.after desk.supply m.asks.toList.length)
    (later : Matches rest s fuel m.step.2 ⟨supply, desk.out.push (m.prints.getD ""), told⟩
      driven n) :
    Matches rest s (fuel + 1) m desk driven (n + 1) where
  reaches := later.reaches.succ runs
  out := by
    rw [later.out, Array.toList_push, Machine.trail_succ, List.map_cons, List.append_assoc]
    rfl
  supply := by
    rw [later.supply, asked, ← Supplier.after_add, m.questions_step]
  entropy := by
    rw [← m.step_stepped]
    exact later.entropy
  input := by
    rw [← m.step_stepped]
    exact later.input

end Matches

private theorem Attended.drive_matches (streams : Streams rest) {m : Machine ε}
    (attended : Attended m)
    (s : Settings) (page : Page) (fuel : Nat) (earlier : Array String) (desk : Desk σ) :
    ∃ n, Matches rest s fuel (rejoined m earlier (.listening (replies (rest desk.supply)))) desk
      ((drive s page fuel m : StateM (Desk σ) _).run desk) n := by
  induction fuel generalizing m earlier desk with
  | zero =>
    refine ⟨0, .unfinished fun k lt => absurd lt (Nat.not_lt_zero k), ?_, rfl, rfl, ?_⟩
    · exact (List.append_nil _).symm
    · intro ending ends
      cases ends
  | succ fuel ih =>
    obtain ⟨input, step, _, listening⟩ := attended.step_rejoined streams earlier desk.supply
    have asked := attended.supply_stepFrom earlier (replies (rest desk.supply)) desk.supply
    have next := attended.stepped streams earlier desk.supply
    have out := attended.printedText_stepFrom streams earlier desk.supply
    rw [run_drive_succ]
    dsimp only
    rw [Round.machine_ofStep, Round.out_ofStep, out]
    generalize rejoined m earlier (.listening (replies (rest desk.supply))) = free
      at step asked next ⊢
    have result : free.step.1 = (stepFrom desk.supply m).1.1 := by rw [step]
    have entropy : (drained (stepFrom desk.supply m).1.2).memory.entropy =
        free.step.2.memory.entropy := by
      rw [step]
      rfl
    have first (k : Nat) (lt : k < 0) : (free.stepped k).step.1 = .ok .running :=
      absurd lt (Nat.not_lt_zero k)
    obtain finish | ⟨went, cause, goes, hidden, finish⟩ := Round.finish_cases (shown s page)
      (stepFrom desk.supply m).1.1 (stepFrom desk.supply m).1.2
    · rw [finish]
      cases ends : Program.ending? (stepFrom desk.supply m).1.1 with
      | some ending =>
        have last : Program.ending? (free.stepped 0).step.1 = some ending :=
          (congrArg Program.ending? result).trans ends
        refine ⟨1, .of_last (.ended (Nat.succ_pos fuel) first last) asked entropy ?_⟩
        intro e same
        cases same
        rw [step]
        cases result : (stepFrom desk.supply m).1.1 with
        | error f =>
          rw [result] at ends
          cases ends
        | ok went => exact listening went result
      | none =>
        have runs := Program.ending?_eq_none_iff.mp ends
        obtain ⟨attended', earlier', same⟩ := next _ runs
        obtain ⟨n, later⟩ := ih attended' earlier' ⟨(stepFrom desk.supply m).2,
          desk.out.push (free.prints.getD ""), _⟩
        rw [← same] at later
        exact ⟨n + 1, .of_running (result.trans runs) asked later⟩
    · rw [finish]
      obtain ⟨radius, viewed, outside⟩ := outside_of_shown_error hidden
      have place : (free.stepped 1).walker.cursor.position =
          (drained (stepFrom desk.supply m).1.2).walker.cursor.position := by
        change free.step.2.walker.cursor.position = _
        rw [step]
        rfl
      rw [← place] at outside
      refine ⟨1, .of_last (.overflowed (Nat.succ_pos fuel) first (result.trans goes) viewed outside)
        asked entropy ?_⟩
      intro e same
      cases same

end Follow

/-! ### Sources -/

theorem driveSource_matches (streams : Streams rest) (fuel : Nat) (s : Settings) (r : Reference)
    (source : String) (entropy : ε) (desk : Desk σ) :
    ∃ n, Matches rest s fuel (alone s r source entropy (.listening (replies (rest desk.supply))))
      desk ((driveSource fuel s r source entropy : StateM (Desk σ) _).run desk) n := by
  have contact := contact_alone s r source entropy (.listening [])
  have attended : Attended (alone s r source entropy (.listening [])) := by
    refine ⟨congrArg Program.Contact.console contact, ?_⟩
    rw [show (alone s r source entropy (.listening [])).input = .listening [] from
      congrArg Program.Contact.input contact]
    rfl
  have driven := attended.drive_matches streams s (Page.ofText source) fuel #[] desk
  rw [rejoined_alone] at driven
  unfold driveSource
  rw [machineFor_eq]
  exact driven

theorem join_prints {m : Machine ε} {waiting : List (Option String)}
    (fresh : m.contact = ⟨.fresh true, .listening waiting, 0⟩) (n : Nat) :
    String.join ((m.trail n).map fun m => m.prints.getD "") = printedText (m.stepped n) := by
  have joined (fragments : Nat → Option String) (ks : List Nat) :
      String.join (ks.map fun k => (fragments k).getD "") =
        String.join (ks.filterMap fragments) := by
    induction ks with
    | nil => rfl
    | cons k ks ih => cases h : fragments k <;> simp [h, ih]
  have console := congrArg Program.Contact.console (Machine.contact_stepped fresh n)
  rw [Machine.trail, List.map_map]
  calc String.join ((List.range n).map fun k => (m.stepped k).prints.getD "")
      = String.join ((List.range n).filterMap fun k => (m.stepped k).prints) := joined _ _
    _ = printedText (m.stepped n) := congrArg (fun c => String.join c.printed.toList) console.symm

/-- A driver refines the run. For every source, all settings and every input, and however many
steps are allowed, let the windows that are shown have room. Then driving the source comes to the
same end as the machine that runs alone, with the same reference, box and input, and after as many
steps; what goes out after each step is what that step printed, the step that ends the run included,
so that all in all there goes out what the run has printed; and the delay, the radius of the view
and the dump of the registers change neither the end nor what goes out nor what is left of the
input. -/
theorem driver_refines_run (fuel : Nat) (s : Settings) (r : Reference) (source : String)
    (entropy : ε) (supply : Supply) :
    let loaded := Machine.load r source entropy (.listening (replies supply.rest)) true
    let alone := s.corners.elim loaded fun corners => loaded.enclosed corners.1 corners.2
    let driven (s : Settings) : (Option Finish × Machine ε) × Desk Supply :=
      (driveSource fuel s r source entropy : StateM (Desk Supply) _).run (.fresh supply)
    WindowsFit s.radius alone fuel →
      (driven s).1.1 = (alone.run fuel).1.map .ended ∧
      (∀ ending, (alone.run fuel).1 = some ending → ∃ n,
        (∀ k < n, (alone.stepped k).step.1 = .ok .running) ∧
        Program.ending? (alone.stepped n).step.1 = some ending ∧
        (driven s).2.out.toList =
          (List.range (n + 1)).map fun k => (alone.stepped k).prints.getD "") ∧
      String.join (driven s).2.out.toList =
        String.join (alone.run fuel).2.memory.watcher.printed.toList ∧
      ∀ delay radius dump, WindowsFit radius alone fuel →
        let other := driven { s with delay := delay, radius := radius, dump := dump }
        other.1.1 = (driven s).1.1 ∧ other.2.out = (driven s).2.out ∧
          other.2.supply = (driven s).2.supply := by
  intro loaded m driven fit
  have fresh : m.contact = ⟨.fresh true, .listening (replies supply.rest), 0⟩ :=
    contact_alone s r source entropy _
  have matched (s' : Settings) (box : s'.corners = s.corners) :
      ∃ n, Matches Supply.rest s' fuel m (.fresh supply) (driven s') n := by
    obtain ⟨n, same⟩ := driveSource_matches Supply.streams fuel s' r source entropy (.fresh supply)
    unfold alone at same
    rw [box] at same
    exact ⟨n, same⟩
  obtain ⟨n, same⟩ := matched s rfl
  obtain ⟨finish, last⟩ := same.reaches.run_eq fit
  have out : (driven s).2.out.toList = (m.trail n).map fun m => m.prints.getD "" := same.out
  refine ⟨finish, ?_, ?_, ?_⟩
  · intro ending ends
    have reaches := same.reaches
    rw [finish, ends] at reaches
    cases reaches with
    | ended within running ends =>
      refine ⟨_, running, ends, ?_⟩
      rw [out, Machine.trail, List.map_map]
      rfl
  · rw [out, last]
    exact join_prints fresh n
  · intro delay radius dump fit' other
    obtain ⟨n', same'⟩ := matched { s with delay := delay, radius := radius, dump := dump } rfl
    obtain rfl : n' = n := Nat.le_antisymm (same'.reaches.le same.reaches fit)
      (same.reaches.le same'.reaches fit')
    refine ⟨?_, ?_, same'.supply.trans same.supply.symm⟩
    · exact (same'.reaches.run_eq fit').1.trans finish.symm
    · exact Array.toList_inj.mp (same'.out.trans same.out.symm)

attribute [local irreducible] Machine.run driveSource

/-- A character is read, a digit is printed, and the third step fails: the digit is still put
out, and a view and a dump change nothing. -/
theorem fragment_before_a_fault_is_put_out :
    let s : Settings := ⟨none, none, false, none, none⟩
    let r : Reference := ⟨#[some 3, some 1, some 4, some 1]⟩
    let source := "3 1 4 1\n  ^ v +\n  SYS_T"
    let supply := Supply.ofBytes "7".toUTF8
    let loaded := Machine.load r source (⟨[]⟩ : Entropy.Script)
      (.listening (replies supply.rest)) true
    let alone := s.corners.elim loaded fun corners => loaded.enclosed corners.1 corners.2
    let driven (s : Settings) : (Option Finish × Machine Entropy.Script) × Desk Supply :=
      (driveSource 5 s r source ⟨[]⟩ : StateM (Desk Supply) _).run (.fresh supply)
    let viewed := driven { s with delay := some 9, radius := some 1, dump := true }
    WindowsFit s.radius alone 5 ∧ WindowsFit (some 1) alone 5 ∧
      (driven s).1.1 = some (.ended (.error .inputUnavailable)) ∧
      String.join (driven s).2.out.toList = "4" ∧
      (∃ n, Program.ending? (alone.stepped n).step.1 = some (.error .inputUnavailable) ∧
        (driven s).2.out.toList =
          (List.range (n + 1)).map fun k => (alone.stepped k).prints.getD "") ∧
      viewed.1.1 = (driven s).1.1 ∧ viewed.2.out = (driven s).2.out ∧
      viewed.2.supply = (driven s).2.supply := by
  intro s r source supply loaded alone driven viewed
  have plain : WindowsFit s.radius alone 5 := by
    rintro reach ⟨⟩
  have fails : (alone.stepped 2).step.1 = .error .inputUnavailable := by decide +kernel
  have fit : WindowsFit (some 1) alone 5 := by
    rintro reach ⟨⟩ n within running went goes
    rcases Nat.lt_trichotomy n 2 with early | rfl | late
    · rcases Nat.le_one_iff_eq_zero_or_eq_one.mp (Nat.le_of_lt_succ early) with rfl | rfl
      · constructor <;> decide +kernel
      · constructor <;> decide +kernel
    · rw [fails] at goes
      cases goes
    · rw [running 2 late] at fails
      cases fails
  obtain ⟨finish, steps, out, unseen⟩ :=
    driver_refines_run 5 s r source (⟨[]⟩ : Entropy.Script) supply plain
  have ends : (alone.run 5).1 = some (.error .inputUnavailable) := by decide +kernel
  obtain ⟨n, _, last, each⟩ := steps _ ends
  have ended : (driven s).1.1 = some (.ended (.error .inputUnavailable)) :=
    finish.trans (congrArg (Option.map Finish.ended) ends)
  exact ⟨plain, fit, ended, out.trans (by decide +kernel), ⟨n, last, each⟩, unseen _ _ _ fit⟩

end DigitTrail.Command
