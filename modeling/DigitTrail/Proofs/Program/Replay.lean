import DigitTrail.Proofs.Entropy.Cycle
import DigitTrail.Proofs.Program.Chance

/-!
Scripted runs. A script hands a program the numbers of a cyclic stream one after the other,
whatever they are drawn for: an index of a key, a register that floats, a sum or a comparison with
an operand that floats. What such a draw comes to is told by the number at its place alone, so a
scripted run is the run on the cycle of its script.
-/

set_option autoImplicit false
set_option relaxedAutoImplicit false

namespace DigitTrail

open Entropy (Cycle Follows Script draw)

private theorem Entropy.Cycle.follows_script (draws : Nat) : Follows Cycle.script draws :=
  .inr Cycle.below_script

namespace Memory

variable {ε ω : Type}

private theorem resume_entropy (m : Memory ε ω) : m.resume.entropy = m.entropy := by
  unfold resume
  split <;> rfl

variable [Entropy ε] (m : Memory ε ω)

private theorem register_of_floating {key : Int64} (floating : m.registers.value? key = none) :
    m.register key none = m.drawDigit := by
  unfold register
  rw [floating]
  rfl

/-! Reading a register and resolving a key leave the source as it is after so many digits as were
counted ahead. -/

private theorem register_eq_reseed (key : Int64) (fallback : Option Int64) :
    (m.register key fallback).2 =
      m.reseed (Entropy.after m.entropy (fun _ => 10) (m.registerDraws key fallback)) := by
  unfold register registerDraws
  cases (m.registers.value? key).or fallback <;> rfl

private theorem index_eq_reseed (i : Indirection) :
    (m.index i).2 = m.reseed (Entropy.after m.entropy (fun _ => 10) (m.indexDraws i)) := by
  unfold index
  cases named : i.key? with
  | none =>
    unfold indexDraws
    rw [named]
    rfl
  | some key =>
    rw [indexDraws_of_named m named]
    exact m.register_eq_reseed key none

private theorem resolve_eq_reseed (key : String) :
    (m.resolve key).2 = m.reseed (Entropy.after m.entropy (fun _ => 10) (m.keyDraws key)) := by
  unfold resolve keyDraws
  cases indirection? key with
  | none => rfl
  | some i => exact m.index_eq_reseed i

private theorem get_entropy [Watcher ω] (key : String) (fallback : Option Int64) :
    (m.get key fallback).2.entropy = Entropy.after m.entropy (fun _ => 10) (m.keyDraws key) := by
  obtain ⟨e, drawn, ⟨_, got⟩ | got⟩ := m.get_cases key fallback
  all_goals
    rw [resolve_eq_reseed] at drawn
    rw [got]
    exact (congrArg Memory.entropy drawn).symm

end Memory

namespace Program.Machine

variable {ε : Type} [Entropy ε]

def nameDraws (m : Machine ε) : Operand → Nat
  | .own => 0
  | .named name => m.memory.keyDraws name

private theorem perform_of_floating (m : Machine ε) {d : Digit} {p : Prepared} {operand : Operand}
    (ungrounded : p.grounded = false) (floating : m.floats d operand = true) :
    ∃ m' : Machine ε,
      m'.memory.entropy = Entropy.after m.memory.entropy (fun _ => 10) (m.nameDraws operand) ∧
      ∀ use, m.perform d p (.read use operand) =
        .done (.ok .running) (m'.conclude ⟨d, p.value, use⟩ none) := by
  have fallback : p.fallback = none := by
    unfold Prepared.fallback
    rw [ungrounded]
    rfl
  cases operand with
  | own =>
    have unset : m.memory.registers.get d = none := Option.isNone_iff_eq_none.mp floating
    refine ⟨m, rfl, fun use => ?_⟩
    unfold perform
    rw [unset, fallback]
    rfl
  | named name =>
    obtain ⟨plain, unwritten⟩ := Bool.and_eq_true_iff.mp floating
    rw [Option.isNone_iff_eq_none] at plain unwritten
    refine ⟨{ m with memory := (m.memory.get name none).2.resume }, ?_, fun use => ?_⟩
    · exact (Memory.resume_entropy _).trans (m.memory.get_entropy name none)
    · rw [perform, readVariable_of_plain m _ plain, fallback, unwritten]
      rfl

private theorem get_conclude_compare (m : Machine ε) (d : Digit) (value : Int64)
    (test : Comparison) :
    (m.conclude ⟨d, value, .compare test⟩ none).memory.registers.get d =
      some (Entropy.bit m.memory.entropy).1 :=
  Memory.Registers.get_set_self _ d _

private theorem get_conclude_sum (m : Machine ε) (d : Digit) (value : Int64) {use : Use}
    (sums : use = .add ∨ use = .subtract) :
    (m.conclude ⟨d, value, use⟩ none).memory.registers.get d =
      some (use.result value (Entropy.digit m.memory.entropy).1) := by
  rcases sums with rfl | rfl
  · exact Memory.Registers.get_set_self _ d _
  · exact Memory.Registers.get_set_self _ d _

section Scripted

variable (m : Machine Script) {d : Digit} {p : Prepared} {operand : Operand}

private theorem compare_floating (ungrounded : p.grounded = false)
    (floating : m.floats d operand = true)
    (test : Comparison) :
    ∃ last v, m.perform d p (.read (.compare test) operand) = .done (.ok .running) last ∧
      last.memory.registers.get d = some v ∧
      v.toInt = (draw m.memory.entropy (fun _ => 2) (m.nameDraws operand)).toNat ∧
      (v.toInt = 0 ∨ v.toInt = 1) := by
  obtain ⟨m', source, performed⟩ := m.perform_of_floating ungrounded floating
  rw [Script.after_eq_script, ← Script.after_eq_script _ fun _ => 2] at source
  refine ⟨_, _, performed (.compare test), m'.get_conclude_compare d p.value test, ?_,
    Script.toInt_bit_eq _⟩
  rw [source]
  exact Entropy.toInt_bit _

private theorem sum_floating (ungrounded : p.grounded = false)
    (floating : m.floats d operand = true)
    {use : Use} (sums : use = .add ∨ use = .subtract) :
    ∃ last v, m.perform d p (.read use operand) = .done (.ok .running) last ∧
      last.memory.registers.get d = some (use.result p.value v) ∧
      v.toInt = (draw m.memory.entropy (fun _ => 10) (m.nameDraws operand)).toNat ∧
      0 ≤ v.toInt ∧ v.toInt ≤ 9 := by
  obtain ⟨m', source, performed⟩ := m.perform_of_floating ungrounded floating
  refine ⟨_, _, performed use, m'.get_conclude_sum d p.value sums, ?_,
    Script.toInt_digit_bounds _⟩
  rw [source]
  exact Entropy.toInt_digit _

private theorem run_eq_cycle (fuel : Nat) :
    m.run fuel =
      (((m.withSource m.memory.entropy.cycle).run fuel).1,
        ((m.withSource m.memory.entropy.cycle).run fuel).2.mapSource Cycle.script) := by
  have same : (m.withSource m.memory.entropy.cycle).mapSource Cycle.script = m := by
    change m.mapSource (fun _ => m.memory.entropy.cycle.script) = m
    rw [Script.script_cycle]
    rfl
  have followed : ((m.withSource m.memory.entropy.cycle).mapSource Cycle.script).run fuel = _ :=
    run_mapSource fun _ _ _ => Entropy.Cycle.follows_script _
  rw [same] at followed
  exact followed

end Scripted

/-- A script is a cyclic stream. The draw after `k` others yields the number at `k` modulo the
length of the script, reduced by its own bound, and no other bound matters; the script is then
the first one rotated by `k`, and an empty script yields zeros. So a floating register of any
memory reads as a digit, and an instruction gives its register, where its operand floats, a bit
for a comparison and a sum or difference with a digit; each of these is the draw at its place.
And for any program whatsoever, a run with the script is the run on the cycle of its numbers. -/
theorem script_is_a_cyclic_stream :
    (∀ (s : Script) (bounds : Nat → UInt32) (k : Nat),
      let length := s.numbers.length
      (1 ≤ length → ∃ n, s.numbers[k % length]? = some n ∧
        draw s bounds k = n % max (bounds k) 1) ∧
      (1 ≤ bounds k → draw s bounds k < bounds k) ∧
      (∀ others : Nat → UInt32, others k = bounds k → draw s others k = draw s bounds k) ∧
      (Entropy.after s bounds k).numbers = s.numbers.rotate k ∧
      (Entropy.after s bounds k).numbers.length = length ∧
      (length = 0 → draw s bounds k = 0)) ∧
    (∀ (ω : Type) (m : Memory Script ω) (key : Int64), m.registers.value? key = none →
      let v := (m.register key none).1
      v.toInt = (draw m.entropy (fun _ => 10) 0).toNat ∧ 0 ≤ v.toInt ∧ v.toInt ≤ 9) ∧
    (∀ (m : Machine Script) (d : Digit) (p : Prepared) (operand : Operand),
      p.grounded = false → m.floats d operand = true →
      (∀ test, ∃ last v, m.perform d p (.read (.compare test) operand) =
          .done (.ok .running) last ∧
        last.memory.registers.get d = some v ∧
        v.toInt = (draw m.memory.entropy (fun _ => 2) (m.nameDraws operand)).toNat ∧
        (v.toInt = 0 ∨ v.toInt = 1)) ∧
      ∀ use, use = .add ∨ use = .subtract → ∃ last v, m.perform d p (.read use operand) =
          .done (.ok .running) last ∧
        last.memory.registers.get d = some (use.result p.value v) ∧
        v.toInt = (draw m.memory.entropy (fun _ => 10) (m.nameDraws operand)).toNat ∧
        0 ≤ v.toInt ∧ v.toInt ≤ 9) ∧
    ∀ (m : Machine Script) (fuel : Nat),
      let streamed := (m.withSource m.memory.entropy.cycle).run fuel
      m.run fuel = (streamed.1, streamed.2.mapSource Cycle.script) := by
  refine ⟨fun s bounds k => ⟨?_, s.draw_lt bounds k, ?_, ?_, ?_, ?_⟩, ?_, ?_, run_eq_cycle⟩
  · intro nonempty
    have inside : k % s.numbers.length < s.numbers.length := Nat.mod_lt k nonempty
    refine ⟨_, List.getElem?_eq_getElem inside, ?_⟩
    rw [Script.draw_eq, Cycle.number, List.getElem?_eq_getElem inside]
    rfl
  · intro others same
    rw [Script.draw_eq, Script.draw_eq, same]
  · rw [Script.after_eq_script]
    rfl
  · rw [Script.after_eq_script]
    exact List.length_rotate s.numbers k
  · intro empty
    rw [Script.draw_eq, Cycle.number, List.eq_nil_of_length_eq_zero empty]
    exact UInt32.zero_mod
  · intro ω m key floating v
    have drawn : v = (Entropy.digit m.entropy).1 :=
      congrArg Prod.fst (m.register_of_floating floating)
    rw [drawn]
    exact ⟨Entropy.toInt_digit _, Script.toInt_digit_bounds _⟩
  · intro m d p operand ungrounded floating
    exact ⟨m.compare_floating ungrounded floating, fun _ => m.sum_floating ungrounded floating⟩

/-- Two digits, a bit and a draw that only zero is left for, from a script of two numbers. A
register that no digit names reads as the first of them. An index is drawn before a comparison with
the variable of its cell, and a step that draws three times leaves the script turned around. -/
theorem three_and_twelve_are_replayed :
    let s : Script := ⟨[3, 12]⟩
    let bounds : Nat → UInt32 := fun k => [10, 10, 2, 0].getD k 7
    let idle := Machine.load ⟨#[some 1]⟩ "1" s .closed true
    let drawing := Machine.load ⟨#[some 3, some 1]⟩ "3 1\n  @\n  +\n  x@2" s .closed true
    (draw s bounds 0 = 3 ∧ draw s bounds 1 = 2 ∧ draw s bounds 2 = 1 ∧ draw s bounds 3 = 0) ∧
    (Entropy.after s bounds 3).numbers = [12, 3] ∧ draw (⟨[]⟩ : Script) bounds 3 = 0 ∧
    idle.memory.registers.value? 42 = none ∧ (idle.memory.register 42 none).1.toInt = 3 ∧
    idle.floats 1 (.named "x@4") = true ∧
    (∃ last v, idle.perform 1 ⟨1, false⟩ (.read (.compare .less) (.named "x@4")) =
        .done (.ok .running) last ∧
      last.memory.registers.get 1 = some v ∧ v.toInt = 0) ∧
    (drawing.run 1).2.memory.entropy = ⟨[12, 3]⟩ := by
  intro s bounds idle drawing
  obtain ⟨stream, registers, operands, runs⟩ := script_is_a_cyclic_stream
  have drawn (k : Nat) {n : UInt32} (listed : s.numbers[k % 2]? = some n) :
      draw s bounds k = n % max (bounds k) 1 := by
    obtain ⟨other, found, value⟩ := (stream s bounds k).1 (by decide)
    cases listed.symm.trans found
    exact value
  have turned : (Entropy.after s bounds 3).numbers = [3, 12].rotate 3 := (stream s bounds 3).2.2.2.1
  have unnamed : idle.memory.registers.value? 42 = none := by decide
  have floating : idle.floats 1 (.named "x@4") = true := by decide
  refine ⟨⟨?_, ?_, ?_, ?_⟩, turned, (stream ⟨[]⟩ bounds 3).2.2.2.2.2 rfl, unnamed,
    (registers _ idle.memory 42 unnamed).1, floating, ?_, ?_⟩
  · exact (drawn 0 rfl).trans (by decide)
  · exact (drawn 1 rfl).trans (by decide)
  · exact (drawn 2 rfl).trans (by decide)
  · exact (drawn 3 rfl).trans (by decide)
  · obtain ⟨last, v, performed, holds, value, _⟩ :=
      (operands idle 1 ⟨1, false⟩ (.named "x@4") rfl floating).1 .less
    exact ⟨last, v, performed, holds, value.trans (by decide)⟩
  · have followed := runs drawing 1
    have place : ((drawing.withSource drawing.memory.entropy.cycle).run 1).2.memory.entropy =
        ⟨[3, 12], 3⟩ := by decide
    dsimp only at followed
    generalize (drawing.withSource drawing.memory.entropy.cycle).run 1 = streamed at followed place
    rw [followed]
    exact congrArg Cycle.script place

end Program.Machine

end DigitTrail
