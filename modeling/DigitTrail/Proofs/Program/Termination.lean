import Mathlib.Data.Nat.Find
import DigitTrail.Proofs.Program.Lattice
import DigitTrail.Proofs.Program.Run
import DigitTrail.Proofs.Reference.Reading
import DigitTrail.Proofs.Sheet.Spelling

/-!
Termination. Every tick that moves reads a digit of the reference, so it takes one step
towards the end of the reference that the reading heads for, and only a reversal gives back
what was used up. A program whose source writes no reversal that leads backward therefore
ends before it has made as many moves as the reference is long.
-/

set_option autoImplicit false
set_option relaxedAutoImplicit false

namespace DigitTrail

namespace Reference

namespace Reading

/-- How many steps the reading can take before it has left the reference, if it is on it. -/
def ahead (r : Reading) : Int :=
  match r.heading with
  | .forward => r.reference.size - r.index.toInt
  | .backward => r.index.toInt + 1

private theorem ahead_of_inside {r : Reading} (low : 0 ≤ r.index.toInt)
    (high : r.index.toInt < Int.ofNat r.reference.size) :
    1 ≤ r.ahead ∧ r.ahead ≤ r.reference.size := by
  simp only [Int.ofNat_eq_natCast] at high
  unfold ahead
  split <;> omega

private theorem ahead_advance {r : Reading}
    (unstopped : r.advance.index.toInt = r.index.toInt + r.heading.step.toInt) :
    r.advance.ahead = r.ahead - 1 := by
  have kept : r.advance.heading = r.heading ∧ r.advance.reference = r.reference := ⟨rfl, rfl⟩
  unfold ahead
  rw [kept.1, kept.2, unstopped]
  cases r.heading with
  | forward =>
    simp only [Heading.toInt_step_forward]
    omega
  | backward =>
    simp only [Heading.toInt_step_backward]
    omega

private theorem ahead_advance_le (r : Reading) : r.advance.ahead ≤ r.ahead := by
  have sum := Number.toInt_satAdd r.index r.heading.step
  have least := Int64.minValue_le_toInt r.index
  have most := Int64.toInt_le r.index
  rw [Number.toInt_minValue] at sum least
  rw [Number.toInt_maxValue] at sum most
  unfold ahead
  cases heading : r.heading with
  | forward =>
    simp only [advance, heading, Heading.toInt_step_forward] at sum ⊢
    omega
  | backward =>
    simp only [advance, heading, Heading.toInt_step_backward] at sum ⊢
    omega

end Reading

end Reference

namespace Program

open Reference (Heading Reading)

private theorem mem_modifiersFrom {below : Nat → Sheet.Cell} {fuel row : Nat} {x : Modifier}
    (h : x ∈ modifiersFrom below fuel row) :
    ∃ r o, below r = .operator o ∧ modifier? o = some x := by
  induction fuel generalizing row with
  | zero => cases h
  | succ fuel ih =>
    unfold modifiersFrom at h
    split at h
    · rename_i x' found
      rcases List.mem_cons.mp h with rfl | later
      · cases cell : below row with
        | operator o =>
          rw [cell] at found
          exact ⟨row, o, cell, found⟩
        | _ =>
          rw [cell] at found
          cases found
      · exact ih later
    · cases h

namespace Machine

variable {ε : Type} [Entropy ε]

omit [Entropy ε] in
private theorem reversals_of_plain {m : Machine ε} {source : String}
    (sheet : m.sheet = .ofText source)
    (colonless : ':' ∉ source.toList) (lessless : '<' ∉ source.toList) {dx : Int64}
    {r : Walk.Reversal} (h : r ∈ m.column.reversals dx) : r = .toward .forward := by
  obtain ⟨x, listed, fires⟩ := List.mem_filterMap.mp h
  obtain ⟨row, o, cell, modifier⟩ := mem_modifiersFrom listed
  have written : o.symbol ∈ source.toList := by
    unfold below Walk.Walker.below Walk.Walker.look at cell
    split at cell
    · cases cell
    · rw [sheet] at cell
      exact Sheet.symbol_mem_of_cell cell
  cases o with
  | toggle => exact absurd written colonless
  | less => exact absurd written lessless
  | greater =>
    cases modifier
    simp only [Modifier.reversal?, Option.ite_none_right_eq_some, Option.some.injEq] at fires
    exact fires.2.symm
  | _ => cases modifier <;> cases fires

private theorem heading_turns {w : Walk.Walker} (forward : w.reading.heading = .forward)
    {reversals : List Walk.Reversal} (plain : ∀ r ∈ reversals, r = .toward .forward) :
    (reversals.foldl Walk.Walker.turn w).reading.heading = .forward := by
  induction reversals generalizing w with
  | nil => exact forward
  | cons r reversals ih =>
    obtain rfl := plain r List.mem_cons_self
    exact ih (w := w.turn (.toward .forward)) rfl
      fun r' member => plain r' (List.mem_cons_of_mem _ member)

private theorem heading_undergo {m : Machine ε} {source : String} (sheet : m.sheet = .ofText source)
    (colonless : ':' ∉ source.toList) (lessless : '<' ∉ source.toList)
    (forward : m.walker.reading.heading = .forward) (e : Event ε) :
    (m.undergo e).walker.reading.heading = .forward := by
  by_cases walks : e.walks = true
  · rcases tick : m.tick with ⟨t, ticked⟩
    cases t with
    | moved dir d =>
      obtain ⟨reversals, fired, course⟩ := course_of_walks tick walks
      have reading : (m.undergo e).walker.reading = _ := congrArg Prod.snd course
      have moved : ticked.sheet = .ofText source ∧ ticked.walker.reading.heading = .forward := by
        obtain ⟨_, _, offers, seed, walked⟩ := of_tick_moved tick
        rw [walked]
        exact ⟨sheet, forward⟩
      rw [reading]
      exact heading_turns moved.2 fun r member =>
        reversals_of_plain moved.1 colonless lessless (fired member)
    | deadEnd stop =>
      rw [undergo_of_deadEnd tick walks]
      exact forward
  · rw [reading_of_not_walks m (Bool.eq_false_iff.mpr walks)]
    exact forward

private theorem heading_after {m : Machine ε} {source : String} (sheet : m.sheet = .ofText source)
    (colonless : ':' ∉ source.toList) (lessless : '<' ∉ source.toList)
    (forward : m.walker.reading.heading = .forward) (events : List (Event ε)) :
    (m.after events).walker.reading.heading = .forward := by
  induction events generalizing m with
  | nil => exact forward
  | cons e events ih =>
    have sheet' : (m.undergo e).sheet = .ofText source :=
      (sheet_reference_undergo m e).1.trans sheet
    exact ih sheet' (heading_undergo sheet colonless lessless forward e)

/-! ### How far the reading can still go -/

private theorem ahead_of_moved {m ticked : Machine ε} {dir : Plane.Direction} {d : Digit}
    (short : m.walker.reading.reference.size < Nat.pow 2 63)
    (tick : m.tick = (.moved dir d, ticked)) :
    ticked.walker.reading.ahead = m.walker.reading.ahead - 1 ∧
      1 ≤ ticked.walker.reading.ahead := by
  obtain ⟨index, low, high⟩ := index_of_moved short tick
  obtain ⟨_, _, offers, seed, rfl⟩ := of_tick_moved tick
  exact ⟨Reference.Reading.ahead_advance index, (Reference.Reading.ahead_of_inside low high).1⟩

private theorem ahead_undergo {m : Machine ε}
    (inward : m.walker.reading.ahead ≤ m.walker.reading.reference.size) (e : Event ε) :
    (m.undergo e).walker.reading.ahead ≤ (m.undergo e).walker.reading.reference.size := by
  by_cases walks : e.walks = true
  · rcases tick : m.tick with ⟨t, ticked⟩
    cases t with
    | moved dir d =>
      have on : (m.undergo e).footing.OnReference := by
        rw [footing_of_walks walks, tick]
        exact Reference.index_of_get? (onDigit_of_moved tick).digit
      exact (Reference.Reading.ahead_of_inside on.1 on.2).2
    | deadEnd stop =>
      rw [undergo_of_deadEnd tick walks]
      exact Int.le_trans (Reference.Reading.ahead_advance_le m.walker.reading) inward
  · rw [reading_of_not_walks m (Bool.eq_false_iff.mpr walks)]
    exact inward

private theorem ahead_after {m : Machine ε}
    (inward : m.walker.reading.ahead ≤ m.walker.reading.reference.size)
    (events : List (Event ε)) :
    (m.after events).walker.reading.ahead ≤
      (m.after events).walker.reading.reference.size := by
  induction events generalizing m with
  | nil => exact inward
  | cons e events ih => exact ih (ahead_undergo inward e)

/-! ### Runs -/

theorem moved_of_running {m : Machine ε} (running : m.step.1 = .ok .running) :
    ∃ dir d, m.tick = (.moved dir d, m.tick.2) := by
  cases t : m.tick.1 with
  | moved dir d => exact ⟨dir, d, tick_eta t⟩
  | deadEnd stop =>
    rw [step_of_done (begin_of_deadEnd (tick_eta t))] at running
    cases running

private theorem sheet_stepped (m : Machine ε) (n : Nat) : (m.stepped n).sheet = m.sheet := by
  induction n with
  | zero => rfl
  | succ n ih => exact (sheet_reference_undergo (m.stepped n) .step).1.trans ih

private theorem reference_stepped (m : Machine ε) (n : Nat) :
    (m.stepped n).walker.reading.reference = m.walker.reading.reference := by
  induction n with
  | zero => rfl
  | succ n ih => exact (sheet_reference_undergo (m.stepped n) .step).2.trans ih

private theorem heading_stepped {m : Machine ε} {source : String} (sheet : m.sheet = .ofText source)
    (colonless : ':' ∉ source.toList) (lessless : '<' ∉ source.toList)
    (forward : m.walker.reading.heading = .forward) (n : Nat) :
    (m.stepped n).walker.reading.heading = .forward := by
  induction n with
  | zero => exact forward
  | succ n ih =>
    exact heading_undergo ((sheet_stepped m n).trans sheet) colonless lessless ih .step

private theorem ahead_stepped {m : Machine ε}
    (short : m.walker.reading.reference.size < Nat.pow 2 63) {heading : Heading} {n : Nat}
    (unturned : ∀ k ≤ n, (m.stepped k).walker.reading.heading = heading)
    (running : ∀ k < n, (m.stepped k).step.1 = .ok .running) :
    (m.stepped n).walker.reading.ahead = m.walker.reading.ahead - n ∧
      (m.stepped n).ticks = m.ticks + n := by
  induction n with
  | zero => exact ⟨(Int.sub_zero _).symm, rfl⟩
  | succ n ih =>
    obtain ⟨ahead, ticks⟩ := ih (fun k le => unturned k (Nat.le_succ_of_le le))
      fun k lt => running k (Nat.lt_succ_of_lt lt)
    obtain ⟨dir, d, tick⟩ := moved_of_running (running n (Nat.lt_succ_self n))
    have short' : (m.stepped n).walker.reading.reference.size < Nat.pow 2 63 := by
      rw [reference_stepped]
      exact short
    obtain ⟨nearer, _⟩ := ahead_of_moved short' tick
    have stands : (m.stepped (n + 1)).footing = (m.stepped n).tick.2.footing :=
      footing_of_walks (e := .step) rfl
    have counted : (m.stepped (n + 1)).ticks = (m.stepped n).tick.2.ticks :=
      ticks_of_walks (e := .step) rfl
    rw [ticks_of_moved tick] at counted
    have same : (m.stepped (n + 1)).walker.reading.ahead =
        (m.stepped n).tick.2.walker.reading.ahead := by
      have kept : (m.stepped n).tick.2.walker.reading.heading = heading := by
        obtain ⟨_, _, offers, seed, walked⟩ := of_tick_moved tick
        rw [walked]
        exact unturned n (Nat.le_succ n)
      have reference : (m.stepped (n + 1)).walker.reading.reference =
          (m.stepped n).tick.2.walker.reading.reference := congrArg Footing.reference stands
      have index : (m.stepped (n + 1)).walker.reading.index =
          (m.stepped n).tick.2.walker.reading.index := congrArg Footing.index stands
      unfold Reading.ahead
      rw [unturned (n + 1) (Nat.le_refl _), kept, reference, index]
    rw [same, nearer, ahead, counted, ticks]
    omega

section Bounded

variable {m : Machine ε} (short : m.walker.reading.reference.size < Nat.pow 2 63)
  (inward : m.walker.reading.ahead ≤ m.walker.reading.reference.size)

include short inward

/-- A tick that moves after `n` steps without a turn has taken `n + 1` steps towards one end, and
has not reached it. -/
private theorem lt_size_of_moved {heading : Heading} {n : Nat}
    (unturned : ∀ k ≤ n, (m.stepped k).walker.reading.heading = heading)
    (running : ∀ k < n, (m.stepped k).step.1 = .ok .running) {dir : Plane.Direction} {d : Digit}
    (tick : (m.stepped n).tick = (.moved dir d, (m.stepped n).tick.2)) :
    n + 1 < m.walker.reading.reference.size := by
  obtain ⟨ahead, _⟩ := ahead_stepped short unturned running
  have short' : (m.stepped n).walker.reading.reference.size < Nat.pow 2 63 := by
    rw [reference_stepped]
    exact short
  obtain ⟨nearer, rest⟩ := ahead_of_moved short' tick
  omega

private theorem not_running_unturned (pos : 0 < m.walker.reading.reference.size)
    (heading : Heading) :
    ¬ ∀ k < m.walker.reading.reference.size,
      (m.stepped k).walker.reading.heading = heading ∧ (m.stepped k).step.1 = .ok .running := by
  intro all
  obtain ⟨dir, d, tick⟩ :=
    moved_of_running (all (m.walker.reading.reference.size - 1) (by omega)).2
  have more := lt_size_of_moved short inward (fun k le => (all k (by omega)).1)
    (fun k lt => (all k (by omega)).2) tick
  omega

private theorem run_of_unturned (pos : 0 < m.walker.reading.reference.size) (heading : Heading)
    (unturned : ∀ k, (m.stepped k).walker.reading.heading = heading) :
    ∃ ending last,
      (∀ fuel, m.walker.reading.reference.size ≤ fuel → m.run fuel = (some ending, last)) ∧
      last.ticks ≤ m.ticks + (m.walker.reading.reference.size - 1) := by
  have never := not_running_unturned short inward pos heading
  have stops : ∃ k, (m.stepped k).step.1 ≠ .ok .running := by
    by_contra! running
    exact never fun k _ => ⟨unturned k, running k⟩
  obtain ⟨n, stopped, running⟩ : ∃ n, (m.stepped n).step.1 ≠ .ok .running ∧
      ∀ k < n, (m.stepped k).step.1 = .ok .running := by
    classical
    exact ⟨Nat.find stops, Nat.find_spec stops, fun k lt => not_not.mp (Nat.find_min stops lt)⟩
  have early : n < m.walker.reading.reference.size := by
    by_contra! late
    exact never fun k lt => ⟨unturned k, running k (by omega)⟩
  obtain ⟨ending, ends⟩ := Option.ne_none_iff_exists'.mp (mt ending?_eq_none_iff.mp stopped)
  refine ⟨ending, m.stepped (n + 1), fun fuel enough => run_of_ending running ends (by omega), ?_⟩
  obtain ⟨_, ticks⟩ := ahead_stepped short (fun k _ => unturned k) running
  have counted : (m.stepped (n + 1)).ticks = (m.stepped n).tick.2.ticks :=
    ticks_of_walks (e := .step) rfl
  rw [counted]
  cases t : (m.stepped n).tick.1 with
  | moved dir d =>
    have more := lt_size_of_moved short inward (fun k _ => unturned k) running (tick_eta t)
    rw [ticks_of_moved (tick_eta t), ticks]
    omega
  | deadEnd stop =>
    rw [of_tick_deadEnd (tick_eta t)]
    change (m.stepped n).ticks ≤ _
    rw [ticks]
    omega

end Bounded

/-- A run cannot go on without turning, for every source, every reference that an index can
count, every source of chance and input, and after every history, whatever boxes and guides it
set: no `N` steps in a row, `N` the length of the reference, all go on with the reading heading
one way at their ticks. In particular, a program whose source has neither a colon nor a
less-than sign runs to an end, after at most `N - 1` more moves. -/
theorem run_cannot_go_on_unturned {reference : Reference} (legible : reference.Legible)
    (short : reference.size < Nat.pow 2 63) (source : String) (entropy : ε) (input : Input)
    (connected : Bool) (events : List (Event ε)) :
    let m := (Machine.load reference source entropy input connected).after events
    (∀ heading, ¬ ∀ k < reference.size,
      (m.stepped k).walker.reading.heading = heading ∧ (m.stepped k).step.1 = .ok .running) ∧
    (':' ∉ source.toList → '<' ∉ source.toList →
      ∃ ending last, (∀ fuel, reference.size ≤ fuel → m.run fuel = (some ending, last)) ∧
        last.ticks ≤ m.ticks + (reference.size - 1)) := by
  intro m
  have same := sheet_reference_after (.load reference source entropy input connected) events
  have kept : m.walker.reading.reference = reference := same.2
  have short' : m.walker.reading.reference.size < Nat.pow 2 63 := kept ▸ short
  have pos : 0 < m.walker.reading.reference.size := kept ▸ legible.size_pos
  have inward : m.walker.reading.ahead ≤ m.walker.reading.reference.size := by
    have start : (Machine.load reference source entropy input connected).walker.reading.ahead ≤
        reference.size := by
      change (reference.size : Int) - (0 : Int64).toInt ≤ reference.size
      have zero : (0 : Int64).toInt = 0 := rfl
      omega
    exact ahead_after start events
  have never := not_running_unturned short' inward pos
  have ends := run_of_unturned short' inward pos
  rw [kept] at never ends
  refine ⟨never, fun colonless lessless => ends .forward ?_⟩
  have forward : m.walker.reading.heading = .forward :=
    heading_after (m := .load reference source entropy input connected) rfl colonless lessless
      rfl events
  exact heading_stepped same.1 colonless lessless forward

/-- A straight path is walked to the end of the reference, with all the moves that it allows. -/
theorem straight_run_ends :
    let m := Machine.load ⟨#[some 3, some 1, some 4]⟩ "3 1 4\n  >" (⟨[]⟩ : Entropy.Script)
      .closed true
    (∃ ending last, m.run 3 = (some ending, last) ∧ last.ticks ≤ 0 + 2) ∧ (m.stepped 2).ticks = 2 ∧
      ¬ ∀ k < 3, (m.stepped k).walker.reading.heading = .forward ∧
        (m.stepped k).step.1 = .ok .running := by
  intro m
  have legible : Reference.Legible ⟨#[some 3, some 1, some 4]⟩ := .inr ⟨"314", by decide +kernel⟩
  obtain ⟨never, ends⟩ := run_cannot_go_on_unturned legible (by decide) "3 1 4\n  >"
    (⟨[]⟩ : Entropy.Script) .closed true []
  obtain ⟨ending, last, run, bound⟩ := ends (by decide) (by decide)
  exact ⟨⟨ending, last, run 3 (by decide), bound⟩, by decide, never .forward⟩

end Machine

end Program

end DigitTrail
