import DigitTrail.Proofs.Program.Course
import DigitTrail.Proofs.Program.Execution
import DigitTrail.Proofs.Program.Failure

/-!
The frame of a step. Whatever a step comes to, the instruction that it carries out changes one
register, one variable or one preferred digit at most, and the one that it names; the walk is
changed by its reversals alone.
-/

set_option autoImplicit false
set_option relaxedAutoImplicit false

namespace DigitTrail.Program

open Console (Terminal)
open Plane (Place)
open Sheet (Cell Operator)

variable {ε : Type} [Entropy ε]

/-! ### What a column leaves alone -/

private theorem Scene.resolve_eq (s : Scene ε) (name : String) :
    ∃ e, (s.resolve name).2 = { s with entropy := e } := by
  unfold resolve
  split
  · exact ⟨s.entropy, rfl⟩
  · split
    · exact ⟨s.entropy, rfl⟩
    · exact ⟨_, rfl⟩

private theorem Yields.eq_reseed {value : Int64} {use : Use} {operand result : Option Int64}
    {s s' : Scene ε} (h : Yields value use operand s result s') :
    ∃ e, s' = { s with entropy := e } := by
  induction h with
  | keep operand s => exact ⟨s.entropy, rfl⟩
  | met s holds => exact ⟨s.entropy, rfl⟩
  | unmet s fails => exact ⟨s.entropy, rfl⟩
  | guessed test s => exact ⟨_, rfl⟩
  | sum s clamped => exact ⟨s.entropy, rfl⟩
  | difference s clamped => exact ⟨s.entropy, rfl⟩
  | drawn sums later ih => exact ih

section Completes

variable {tokens : Nat → Cell} {place : Nat → Place} {row : Nat} {d : Digit} {w : Draft ε}
  {result : Except Fault Step} {s : Scene ε}

private theorem scene_of_operand {token : Cell} {use : Use} {operand given : Option Int64}
    {s s' : Scene ε} (supplies : Supplies token d w operand s)
    (yields : Yields w.value use operand s given s') :
    s'.registers = w.scene.registers ∧ s'.preferred = w.scene.preferred ∧
      (s'.values = w.scene.values ∨ ∃ (t : Terminal) (v : Int64), token = .name t.key ∧
        s'.values = Function.update w.scene.values t.key (some v)) := by
  obtain ⟨e, drawn⟩ := yields.eq_reseed
  rw [drawn]
  cases supplies with
  | own blank => exact ⟨rfl, rfl, .inl rfl⟩
  | @named name named plain =>
    obtain ⟨e, resolved⟩ := w.scene.resolve_eq name
    rw [resolved]
    exact ⟨rfl, rfl, .inl rfl⟩
  | @replied t reply named next => exact ⟨rfl, rfl, .inr ⟨t, t.decode reply, named, rfl⟩⟩

private theorem Completes.registers_of_ne (h : Completes tokens place row d w result s) {k : Digit}
    (other : k ≠ d) : s.registers k = w.scene.registers k := by
  cases h with
  | @store name action named =>
    obtain ⟨e, resolved⟩ := w.scene.resolve_eq name
    rw [Scene.write, resolved]
  | read reads supplies yields =>
    have kept := (scene_of_operand supplies yields).1
    rw [← kept]
    exact Function.update_of_ne other _ _
  | _ => rfl

private theorem Completes.values_cases (h : Completes tokens place row d w result s) :
    s.values = w.scene.values ∨
      (∃ name, tokens row = .operator .store ∧ tokens (row + 1) = .name name ∧
        s.values = Function.update w.scene.values (w.scene.resolve name).1 (some w.value)) ∨
      ∃ (use : Use) (r : Nat) (t : Terminal) (v : Int64), Reads tokens row use r ∧
        tokens r = .name t.key ∧ s.values = Function.update w.scene.values t.key (some v) := by
  cases h with
  | @store name action named => exact .inr (.inl ⟨name, action, named, rfl⟩)
  | @read use r operand given s s' reads supplies yields =>
    obtain ⟨_, _, kept | ⟨t, v, named, written⟩⟩ := scene_of_operand supplies yields
    · exact .inl kept
    · exact .inr (.inr ⟨use, r, t, v, reads, named, written⟩)
  | _ => exact .inl rfl

private theorem Completes.preferred_cases (h : Completes tokens place row d w result s) :
    s.preferred = w.scene.preferred ∨
      ∃ k : Digit, w.value.toInt = k.val ∧
        ((tokens row = .operator .prefer ∧
            s.preferred = Function.update w.scene.preferred k true) ∨
          tokens row = .operator .unprefer ∧
            s.preferred = Function.update w.scene.preferred k false) := by
  cases h with
  | @prefer k action key => exact .inr ⟨k, key, .inl ⟨action, rfl⟩⟩
  | @unprefer k action key => exact .inr ⟨k, key, .inr ⟨action, rfl⟩⟩
  | @store name action named =>
    obtain ⟨e, resolved⟩ := w.scene.resolve_eq name
    rw [Scene.write, resolved]
    exact .inl rfl
  | read reads supplies yields => exact .inl (scene_of_operand supplies yields).2.1
  | _ => exact .inl rfl

end Completes

namespace Machine

private theorem completes_step {m ticked : Machine ε} {dir : Plane.Direction} {d : Digit}
    (tick : m.tick = (.moved dir d, ticked)) :
    let prepared := ticked.prepare d ticked.column.modifiers
    Completes ticked.below prepared.2.faultPlace (ticked.column.modifiers.length + 1) d
      (prepared.2.draft prepared.1) m.step.1 m.step.2.scene := by
  intro prepared
  have begun : m.step = (ticked.execute d).finish := by
    rw [step_eq_finish, begin_of_moved tick]
  obtain ⟨result, s, means⟩ := exists_completes ticked.below prepared.2.faultPlace
    (ticked.column.modifiers.length + 1) d (prepared.2.draft prepared.1)
  obtain ⟨same, left⟩ := perform_of_completes prepared.2 d prepared.1 means
  rw [begun]
  rw [← same, ← left] at means
  exact means

/-- What a step may change that moved to a cell of digit `d` and was left there as `ticked`. The
value is the one that the modifiers of the column have made of the digit. -/
structure Frame (m ticked after : Machine ε) (dir : Plane.Direction) (d : Digit) : Prop where
  registers : ∀ k, k ≠ d → after.memory.registers.get k = m.memory.registers.get k
  /-- One variable at most: the one that is stored, or that of a terminal that is read. -/
  stored :
    let row := ticked.column.modifiers.length + 1
    let prepared := ticked.prepare d ticked.column.modifiers
    after.memory.stored? = m.memory.stored? ∨
      (∃ name, ticked.below row = .operator .store ∧ ticked.below (row + 1) = .name name ∧
        after.memory.stored? = Function.update m.memory.stored?
          (prepared.2.memory.resolve name).1 (some prepared.1.value)) ∨
      ∃ (use : Use) (r : Nat) (t : Terminal) (v : Int64), Reads ticked.below row use r ∧
        ticked.below r = .name t.key ∧
        after.memory.stored? = Function.update m.memory.stored? t.key (some v)
  /-- One digit at most, and it is the value. -/
  preferred :
    let row := ticked.column.modifiers.length + 1
    let prepared := ticked.prepare d ticked.column.modifiers
    after.walker.preferred.contains = m.walker.preferred.contains ∨
      ∃ k : Digit, prepared.1.value.toInt = k.val ∧
        ((ticked.below row = .operator .prefer ∧ after.walker.preferred.contains =
            Function.update m.walker.preferred.contains k true) ∨
          ticked.below row = .operator .unprefer ∧ after.walker.preferred.contains =
            Function.update m.walker.preferred.contains k false)
  /-- The heading and the last move, by the reversals that the modifiers fire. -/
  course : after.walker.course =
    ((ticked.column.reversals dir.offset.dx).foldl Walk.Walker.turn ticked.walker).course
  footing : after.footing = ticked.footing
  /-- Nothing else without an action. -/
  inert : (∀ o ∈ actionOperators,
      ticked.below (ticked.column.modifiers.length + 1) ≠ .operator o) →
    SameResults m after ∧ after.contact = m.contact

private theorem frame_of_moved {m ticked : Machine ε} {dir : Plane.Direction} {d : Digit}
    (tick : m.tick = (.moved dir d, ticked)) : Frame m ticked m.step.2 dir d := by
  obtain ⟨draws, _, swayed⟩ := prepare_eq ticked d ticked.column.modifiers
  have same : SameResults m (ticked.prepare d ticked.column.modifiers).2 := by
    rw [swayed]
    exact (SameResults.tick tick).trans (.swayed ticked _ draws)
  have values : (ticked.prepare d ticked.column.modifiers).2.memory.stored? =
      m.memory.stored? := by
    funext key
    exact congrArg (fun bindings => bindings[key]?) same.bindings
  have means := completes_step tick
  refine ⟨?_, ?_, ?_, course_step tick, ?_, ?_⟩
  · intro k other
    rw [← same.registers]
    exact means.registers_of_ne other
  · intro row prepared
    rw [← values]
    obtain kept | ⟨name, action, named, written⟩ | read := means.values_cases
    · exact .inl kept
    · refine .inr (.inl ⟨name, action, named, ?_⟩)
      have key : (prepared.2.scene.resolve name).1 = (prepared.2.memory.resolve name).1 :=
        congrArg Prod.fst (resolve_scene prepared.2 name)
      rw [← key]
      exact written
    · exact .inr (.inr read)
  · intro row prepared
    rw [← same.preferred]
    exact means.preferred_cases
  · have standing := footing_of_walks (m := m) (e := .step) rfl
    rw [tick] at standing
    exact standing
  · intro inert
    have left : m.step.2 = (ticked.prepare d ticked.column.modifiers).2 := by
      rw [step_eq_finish, begin_of_moved tick, execute_of_inert ticked d inert]
      rfl
    obtain ⟨_, _, offers, e, walked⟩ := of_tick_moved tick
    rw [left]
    refine ⟨same, ?_⟩
    rw [swayed, walked]
    rfl

/-- Every step keeps its frame, whatever it comes to. A dead end changes nothing but the
reading. -/
theorem step_keeps_its_frame (m : Machine ε) :
    (∀ stop ticked, m.tick = (.deadEnd stop, ticked) →
      m.step.2 = { m with walker := m.walker.stuck }) ∧
    ∀ dir d ticked, m.tick = (.moved dir d, ticked) → Frame m ticked m.step.2 dir d := by
  constructor
  · intro stop ticked tick
    exact undergo_of_deadEnd tick (e := .step) rfl
  · intro dir d ticked tick
    exact frame_of_moved tick

/-- A store under an indirect name, after a reversal: the one variable that it changes is the
cell at the index that the register holds. -/
theorem indirect_store_changes_one_cell :
    let m := (Machine.load ⟨#[some 3, some 1]⟩ "3 1\n  :\n  v\n  x@3" (⟨[7]⟩ : Entropy.Script)
      .closed true).setRegister 3 (some 4)
    m.tick.1 = .moved .e 1 ∧
      m.step.2.memory.stored? = Function.update m.memory.stored? "x[4]" (some 1) ∧
      (∀ k, k ≠ 1 → m.step.2.memory.registers.get k = m.memory.registers.get k) ∧
      m.step.2.walker.reading.heading = .backward := by
  intro m
  have moved : m.tick.1 = .moved .e 1 := by decide
  have length : m.tick.2.column.modifiers.length = 1 := by decide
  have action : m.tick.2.below 2 = .operator .store := by decide
  have operand : m.tick.2.below 3 = .name "x@3" := by decide
  have key : ((m.tick.2.prepare 1 m.tick.2.column.modifiers).2.memory.resolve "x@3").1 =
      "x[4]" := by decide
  have value : (m.tick.2.prepare 1 m.tick.2.column.modifiers).1.value = 1 := by decide
  have fired : m.tick.2.column.reversals Plane.Direction.e.offset.dx = [.toggle] := by decide
  have forward : m.tick.2.walker.reading.heading = .forward := by decide
  have held : m.step.2.memory.stored? "x[4]" = some 1 := by decide
  have unheld : m.memory.stored? "x[4]" = none := by decide
  have frame := (step_keeps_its_frame m).2 .e 1 m.tick.2 (tick_eta moved)
  clear_value m
  refine ⟨moved, ?_, frame.registers, ?_⟩
  · have stored := frame.stored
    dsimp only at stored
    rw [length] at stored
    obtain kept | ⟨name, _, named, written⟩ | ⟨use, r, t, v, reads, _⟩ := stored
    · rw [kept, unheld] at held
      cases held
    · obtain rfl : "x@3" = name := Cell.name.inj (operand.symm.trans named)
      rwa [key, value] at written
    · have other : ∀ o, m.tick.2.below 2 = .operator o → o = .store := fun o found =>
        Cell.operator.inj (found.symm.trans action)
      cases reads with
      | add found => cases other _ found
      | subtract found => cases other _ found
      | load found => cases other _ found
      | less found => cases other _ found
      | greater found => cases other _ found
      | equal found => cases other _ found
  · have course := frame.course
    rw [fired] at course
    have turned : m.step.2.walker.reading.heading = m.tick.2.walker.reading.heading.reverse :=
      congrArg (fun course => course.2.heading) course
    rw [turned, forward]
    rfl

end Machine

end DigitTrail.Program
