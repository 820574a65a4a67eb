import Mathlib.Logic.Function.Basic
import DigitTrail.Memory.Basic

/-!
What the operations of a memory leave alone. Reading a register, drawing and
resolving a key change nothing but the source of chance; reading a variable
changes that, the watcher, and the reads under way.
-/

set_option autoImplicit false
set_option relaxedAutoImplicit false

namespace DigitTrail.Memory

variable {ε ω : Type}

def reseed (m : Memory ε ω) (source : ε) : Memory ε ω := { m with entropy := source }

@[simp] theorem reseed_bindings (m : Memory ε ω) (e : ε) : (m.reseed e).bindings = m.bindings := rfl
@[simp] theorem reseed_registers (m : Memory ε ω) (e : ε) :
    (m.reseed e).registers = m.registers := rfl
@[simp] theorem reseed_halted (m : Memory ε ω) (e : ε) : (m.reseed e).halted = m.halted := rfl
@[simp] theorem reseed_parked (m : Memory ε ω) (e : ε) : (m.reseed e).parked = m.parked := rfl
@[simp] theorem reseed_settled (m : Memory ε ω) (e : ε) : (m.reseed e).settled = m.settled := rfl
@[simp] theorem reseed_issued (m : Memory ε ω) (e : ε) : (m.reseed e).issued = m.issued := rfl
@[simp] theorem reseed_watcher (m : Memory ε ω) (e : ε) : (m.reseed e).watcher = m.watcher := rfl
@[simp] theorem reseed_stored? (m : Memory ε ω) (e : ε) (key : String) :
    (m.reseed e).stored? key = m.stored? key := rfl
@[simp] theorem reseed_reseed (m : Memory ε ω) (e f : ε) : (m.reseed e).reseed f = m.reseed f := rfl

theorem stored?_insert (m : Memory ε ω) (key : String) (value : Int64) :
    ({ m with bindings := m.bindings.insert key value } : Memory ε ω).stored? =
      Function.update m.stored? key (some value) := by
  funext other
  unfold stored?
  by_cases same : other = key
  · subst same
    simp
  · rw [Function.update_of_ne same, Std.TreeMap.getElem?_insert]
    simp [Ne.symm same]

section Chance

variable [Entropy ε]

theorem drawDigit_reseed (m : Memory ε ω) : ∃ e, m.drawDigit.2 = m.reseed e := ⟨_, rfl⟩

theorem register_reseed (m : Memory ε ω) (key : Int64) (fallback : Option Int64) :
    ∃ e, (m.register key fallback).2 = m.reseed e := by
  unfold register
  split
  · exact ⟨m.entropy, rfl⟩
  · exact m.drawDigit_reseed

private theorem index_reseed (m : Memory ε ω) (i : Indirection) :
    ∃ e, (m.index i).2 = m.reseed e := by
  unfold index
  split
  · exact m.register_reseed _ _
  · exact m.drawDigit_reseed

theorem resolve_reseed (m : Memory ε ω) (key : String) : ∃ e, (m.resolve key).2 = m.reseed e := by
  unfold resolve
  split
  · exact ⟨m.entropy, rfl⟩
  · exact m.index_reseed _

section Watched

variable [Watcher ω]

/-- The same memory after its watcher was told of a read, with another source of chance. -/
def told (m : Memory ε ω) (source : ε) (key : String) : Memory ε ω :=
  { m with entropy := source, watcher := (Watcher.asked m.watcher key).2 }

/-- The same memory, halted, with one more read at the end of the queue. -/
def queued (m : Memory ε ω) (key : String) (fallback : Option Int64) : Memory ε ω :=
  { m with
    halted := true
    parked := m.parked ++ [⟨m.issued, key, fallback⟩]
    issued := m.issued + 1 }

/-- A read is answered at once by a memory that is not halted, and joins the queue of
one that is or that its watcher halts. -/
theorem get_cases (m : Memory ε ω) (key : String) (fallback : Option Int64) :
    ∃ e, (m.resolve key).2 = m.reseed e ∧
      ((m.halted = false ∧
          m.get key fallback =
            (.ready ((m.stored? (m.resolve key).1).or fallback), m.told e (m.resolve key).1)) ∨
        m.get key fallback =
          (.parked m.issued (m.resolve key).1,
            (m.told e (m.resolve key).1).queued (m.resolve key).1 fallback)) := by
  obtain ⟨e, drawn⟩ := m.resolve_reseed key
  refine ⟨e, drawn, ?_⟩
  unfold get fetch
  rw [drawn]
  by_cases halts : (m.halted || (Watcher.asked m.watcher (m.resolve key).1).1) = true
  · right
    simp only [announce, reseed_halted, reseed_watcher, halts, if_true]
    rfl
  · left
    have awake := Bool.or_eq_false_iff.mp (Bool.eq_false_iff.mpr halts)
    have heard : (m.reseed e).announce (m.resolve key).1 = m.told e (m.resolve key).1 := by
      simp only [announce, reseed_halted, reseed_watcher, awake.2, Bool.or_false]
      rfl
    refine ⟨awake.1, ?_⟩
    have still : (m.told e (m.resolve key).1).halted = false := awake.1
    rw [heard, if_neg (Bool.eq_false_iff.mp still)]
    rfl

theorem set_eq (m : Memory ε ω) (key : String) (value : Int64) :
    ∃ e, m.set key value =
      { m with
        entropy := e
        watcher := Watcher.wrote m.watcher (m.resolve key).1 value
        bindings := m.bindings.insert (m.resolve key).1 value } := by
  obtain ⟨e, drawn⟩ := m.resolve_reseed key
  refine ⟨e, ?_⟩
  unfold set write
  rw [drawn]
  rfl

end Watched

end Chance

end DigitTrail.Memory
