import DigitTrail.Program.Machine
import DigitTrail.Proofs.Program.Failure
import DigitTrail.Proofs.Program.Transcript

/-!
Runs, step after step. A run takes steps until one of them ends it, so it is given by the first
step that does, whatever fuel is left.
-/

set_option autoImplicit false
set_option relaxedAutoImplicit false

namespace DigitTrail.Program

theorem ending?_eq_none_iff {result : Except Fault Step} :
    ending? result = none ↔ result = .ok .running := by
  unfold ending?
  split <;> simp

namespace Machine

variable {ε : Type} [Entropy ε]

theorem step_stepped (m : Machine ε) (n : Nat) : m.step.2.stepped n = m.stepped (n + 1) := by
  induction n with
  | zero => rfl
  | succ n ih =>
    change (m.step.2.stepped n).step.2 = _
    rw [ih]
    rfl

section Unfold

attribute [local irreducible] step

theorem run_succ (m : Machine ε) (fuel : Nat) :
    m.run (fuel + 1) = match ending? m.step.1 with
      | some ending => (some ending, m.step.2)
      | none => m.step.2.run fuel := rfl

end Unfold

theorem run_of_le {m : Machine ε} {fuel more : Nat} (enough : fuel ≤ more)
    {ending : Except Fault Ending} (ended : (m.run fuel).1 = some ending) :
    m.run more = m.run fuel := by
  induction fuel generalizing m more with
  | zero => cases ended
  | succ fuel ih =>
    obtain ⟨more, rfl⟩ := Nat.exists_eq_add_one_of_ne_zero (Nat.ne_zero_of_lt enough)
    rw [run_succ] at ended ⊢
    rw [run_succ]
    cases ends : ending? m.step.1 with
    | some e => rfl
    | none =>
      rw [ends] at ended
      exact ih (Nat.le_of_succ_le_succ enough) ended

theorem run_fault {m : Machine ε} {fuel : Nat} {f : Fault}
    (failed : (m.run fuel).1 = some (.error f)) :
    (∃ expected found place, f = .malformed expected found place) ∨ f = .inputUnavailable := by
  induction fuel generalizing m with
  | zero => cases failed
  | succ fuel ih =>
    rw [run_succ] at failed
    cases result : m.step.1 with
    | error g =>
      rw [result] at failed
      obtain rfl : g = f := by
        cases failed
        rfl
      obtain ⟨_, _, ticked, _, _, _, malformed | silent⟩ := step_error_cases result
      · obtain ⟨expected, found, row, _, fault, _⟩ := malformed
        exact .inl ⟨expected, found, _, fault⟩
      · obtain ⟨_, _, _, _, fault, _⟩ := silent
        exact .inr fault
    | ok went =>
      rw [result] at failed
      cases went with
      | running => exact ih failed
      | exited => cases failed
      | crashed stop => cases failed

theorem run_of_ending {m : Machine ε} {n : Nat} {ending : Except Fault Ending}
    (running : ∀ k < n, (m.stepped k).step.1 = .ok .running)
    (ends : ending? (m.stepped n).step.1 = some ending) {fuel : Nat} (enough : n < fuel) :
    m.run fuel = (some ending, m.stepped (n + 1)) := by
  induction n generalizing m fuel with
  | zero =>
    obtain ⟨fuel, rfl⟩ := Nat.exists_eq_add_one_of_ne_zero (Nat.ne_zero_of_lt enough)
    change ending? m.step.1 = some ending at ends
    rw [run_succ, ends]
    rfl
  | succ n ih =>
    obtain ⟨fuel, rfl⟩ := Nat.exists_eq_add_one_of_ne_zero (Nat.ne_zero_of_lt enough)
    have first : ending? m.step.1 = none := ending?_eq_none_iff.mpr (running 0 (Nat.succ_pos n))
    have later (k : Nat) (lt : k < n) : (m.step.2.stepped k).step.1 = .ok .running := by
      rw [step_stepped]
      exact running (k + 1) (Nat.succ_lt_succ lt)
    have rest := ih later (by rw [step_stepped]; exact ends) (Nat.lt_of_succ_lt_succ enough)
    rw [step_stepped] at rest
    rw [run_succ, first]
    exact rest

theorem run_of_running {m : Machine ε} {fuel : Nat}
    (running : ∀ k < fuel, (m.stepped k).step.1 = .ok .running) :
    m.run fuel = (none, m.stepped fuel) := by
  induction fuel generalizing m with
  | zero => rfl
  | succ fuel ih =>
    have first : ending? m.step.1 = none :=
      ending?_eq_none_iff.mpr (running 0 (Nat.succ_pos fuel))
    have later (k : Nat) (lt : k < fuel) : (m.step.2.stepped k).step.1 = .ok .running := by
      rw [step_stepped]
      exact running (k + 1) (Nat.succ_lt_succ lt)
    rw [run_succ, first, ← step_stepped]
    exact ih later

/-! ### The machines along a run -/

/-- The machines that take the first steps, one after the other. -/
def trail (m : Machine ε) (n : Nat) : List (Machine ε) := (List.range n).map m.stepped

/-- Those of them that ask for a character. -/
def requests (m : Machine ε) (n : Nat) : List (Machine ε) :=
  (m.trail n).filter fun m => m.asks.isSome

theorem trail_succ (m : Machine ε) (n : Nat) : m.trail (n + 1) = m :: m.step.2.trail n := by
  unfold trail
  rw [List.range_succ_eq_map, List.map_cons, List.map_map]
  refine congrArg (m :: ·) (List.map_congr_left fun k _ => ?_)
  exact (m.step_stepped k).symm

private theorem requests_succ (m : Machine ε) (n : Nat) :
    m.requests (n + 1) =
      m.requests n ++ if (m.stepped n).asks.isSome then [m.stepped n] else [] := by
  unfold requests trail
  rw [List.range_succ, List.map_append, List.filter_append, List.map_singleton,
    List.filter_singleton, Bool.cond_eq_ite]

theorem length_requests (m : Machine ε) (n : Nat) : (m.requests n).length = m.questions n := by
  induction n with
  | zero => rfl
  | succ n ih =>
    rw [requests_succ, List.length_append, ih, questions_succ]
    cases (m.stepped n).asks <;> rfl

theorem questions_step (m : Machine ε) (n : Nat) :
    m.questions (n + 1) = m.asks.toList.length + m.step.2.questions n := by
  rw [← length_requests, ← length_requests, requests, trail_succ, List.filter_cons]
  cases m.asks with
  | none => exact (Nat.zero_add _).symm
  | some t => exact Nat.add_comm _ _

theorem exists_of_getElem?_requests {m asking : Machine ε} {n j : Nat}
    (found : (m.requests n)[j]? = some asking) :
    ∃ k < n, asking = m.stepped k ∧ (m.stepped k).asks.isSome = true ∧ m.questions k = j := by
  induction n with
  | zero => cases found
  | succ n ih =>
    rw [requests_succ] at found
    by_cases early : j < (m.requests n).length
    · rw [List.getElem?_append_left early] at found
      obtain ⟨k, lt, rest⟩ := ih found
      exact ⟨k, Nat.lt_succ_of_lt lt, rest⟩
    · rw [List.getElem?_append_right (Nat.le_of_not_lt early)] at found
      obtain ⟨inside, here⟩ := List.getElem?_eq_some_iff.mp found
      split at inside
      · rename_i asks
        have last : j = (m.requests n).length := by
          rw [List.length_singleton] at inside
          omega
        simp only [asks, if_true, List.getElem_singleton] at here
        exact ⟨n, Nat.lt_succ_self n, here.symm, asks, by rw [last, length_requests]⟩
      · cases inside

/-! ### Runs that ask -/

section Asks

variable {m : Machine ε} {replies : List (Option String)} {n : Nat}
  (fresh : m.contact = ⟨.fresh true, .listening replies, 0⟩)

include fresh

private theorem input_stepped : (m.stepped n).input = .drained replies (m.questions n) :=
  congrArg Contact.input (contact_stepped fresh n)

theorem step_of_asks (answered : m.questions n ≤ replies.length)
    (asks : (m.stepped n).asks.isSome = true) :
    ∃ q left, (m.stepped n).begin = .asking q left ∧
      (m.stepped n).step =
        { left with input := left.input.next.2 }.answer q (replies[m.questions n]?).join := by
  have console := congrArg Contact.console (contact_stepped fresh n)
  have wired : (m.stepped n).memory.watcher.connected = true := congrArg Console.connected console
  have loud : (m.stepped n).memory.watcher.muted = false := congrArg Console.muted console
  have input := input_stepped fresh (n := n)
  have listens : (m.stepped n).input.isOpen = true := by
    rw [input, Input.isOpen_drained]
    exact decide_eq_true answered
  obtain ⟨q, left, begun⟩ := (asking_iff wired loud).mpr ⟨asks, listens⟩
  have kept : left.input = .drained replies (m.questions n) := by
    have same := input_begin wired loud
    rw [begun] at same
    exact same.trans input
  refine ⟨q, left, begun, ?_⟩
  rw [step_of_asking begun, kept, Input.next_drained]

private theorem step_of_refusal (past : m.questions n = replies.length)
    (asks : (m.stepped n).asks.isSome = true) :
    (m.stepped n).step.1 = .error .inputUnavailable := by
  obtain ⟨q, left, _, step⟩ := step_of_asks fresh (Nat.le_of_eq past) asks
  rw [step, past, List.getElem?_eq_none (Nat.le_refl _)]
  rfl

theorem questions_le_of_running (running : ∀ k < n, (m.stepped k).step.1 = .ok .running) :
    m.questions n ≤ replies.length := by
  induction n with
  | zero => exact Nat.zero_le _
  | succ n ih =>
    have before := ih fun k lt => running k (Nat.lt_succ_of_lt lt)
    rw [questions_succ]
    cases asks : (m.stepped n).asks with
    | none => exact before
    | some t =>
      have heard : m.questions n ≠ replies.length := by
        intro past
        have refused := step_of_refusal fresh past (by rw [asks]; rfl)
        rw [running n (Nat.lt_succ_self n)] at refused
        cases refused
      change m.questions n + 1 ≤ replies.length
      omega

theorem questions_succ_le_of_running (running : ∀ k < n, (m.stepped k).step.1 = .ok .running) :
    m.questions (n + 1) ≤ replies.length + 1 ∧
      (replies.length < m.questions (n + 1) →
        (m.stepped n).step.1 = .error .inputUnavailable) := by
  have before := questions_le_of_running fresh running
  rw [questions_succ]
  cases asks : (m.stepped n).asks with
  | none =>
    refine ⟨Nat.le_succ_of_le before, fun past => ?_⟩
    exact absurd past (Nat.not_lt_of_le before)
  | some t =>
    refine ⟨Nat.succ_le_succ before, fun past => ?_⟩
    exact step_of_refusal fresh (Nat.le_antisymm before (Nat.le_of_lt_succ past))
      (by rw [asks]; rfl)

end Asks

end Machine

end DigitTrail.Program
