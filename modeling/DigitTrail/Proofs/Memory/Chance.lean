import DigitTrail.Proofs.Memory.Frame

/-!
Metered chance. A metered source counts the numbers that are drawn from it. Each operation of
a memory is carried over to a metered source that takes its numbers from another source, and
the count goes up by a number that the memory tells beforehand. Where that number is zero, the
other source need have nothing to do with the first.
-/

set_option autoImplicit false
set_option relaxedAutoImplicit false

namespace DigitTrail

namespace Entropy

/-- A source with the count of the draws made from it. -/
structure Metered (ε : Type) where
  source : ε
  drawn : Nat

variable {ε ε' : Type}

instance [Entropy ε] : Entropy (Metered ε) where
  below s bound := ((below s.source bound).1, ⟨(below s.source bound).2, s.drawn + 1⟩)

/-- The source that `g` puts in place of another, with a count of `n`. -/
def meter (g : ε → ε') (n : Nat) (e : ε) : Metered ε' := ⟨g e, n⟩

variable [Entropy ε] [Entropy ε']

/-- The sources that `g` puts in place of others yield the same numbers, which is asked of them
only if there are draws. -/
def Follows (g : ε → ε') (draws : Nat) : Prop :=
  draws = 0 ∨ ∀ e bound, below (g e) bound = ((below e bound).1, g (below e bound).2)

theorem follows_id (draws : Nat) : Follows (id : ε → ε) draws := .inr fun _ _ => rfl

namespace Follows

variable {g : ε → ε'} {a b : Nat}

theorem left (h : Follows g (a + b)) : Follows g a :=
  h.imp_left fun none => (Nat.add_eq_zero_iff.mp none).1

theorem right (h : Follows g (a + b)) : Follows g b :=
  h.imp_left fun none => (Nat.add_eq_zero_iff.mp none).2

private theorem digit (h : Follows g 1) (n : Nat) (e : ε) :
    Entropy.digit (meter g n e) = ((Entropy.digit e).1, meter g (n + 1) (Entropy.digit e).2) := by
  rcases h with none | same
  · cases none
  · simp only [Entropy.digit, meter, below]
    rw [same]

private theorem bit (h : Follows g 1) (n : Nat) (e : ε) :
    Entropy.bit (meter g n e) = ((Entropy.bit e).1, meter g (n + 1) (Entropy.bit e).2) := by
  rcases h with none | same
  · cases none
  · simp only [Entropy.bit, meter, below]
    rw [same]

end Follows

end Entropy

namespace Memory

open Entropy (Follows meter)

variable {ε ε' ω : Type}

/-- The same memory with the source that `f` puts in place of its own. -/
def mapSource (f : ε → ε') (m : Memory ε ω) : Memory ε' ω where
  bindings := m.bindings
  registers := m.registers
  halted := m.halted
  parked := m.parked
  settled := m.settled
  issued := m.issued
  entropy := f m.entropy
  watcher := m.watcher

theorem resume_mapSource (f : ε → ε') (m : Memory ε ω) :
    (m.mapSource f).resume = m.resume.mapSource f := by
  unfold resume
  change (if m.halted = true then _ else _) = _
  split <;> rfl

/-- A register that floats is drawn, unless there is a fallback. -/
def registerDraws (m : Memory ε ω) (key : Int64) (fallback : Option Int64) : Nat :=
  if (m.registers.value? key).or fallback = none then 1 else 0

/-- An index is drawn unless the text after the at sign is the numeral of a register that is
set. -/
def indexDraws (m : Memory ε ω) (i : Indirection) : Nat :=
  if i.key?.bind m.registers.value? = none then 1 else 0

theorem indexDraws_of_named (m : Memory ε ω) {i : Indirection} {key : Int64}
    (named : i.key? = some key) : m.indexDraws i = m.registerDraws key none := by
  unfold indexDraws registerDraws
  rw [named, Option.bind_some, Option.or_none]

def keyDraws (m : Memory ε ω) (key : String) : Nat :=
  match indirection? key with
  | none => 0
  | some i => m.indexDraws i

section Metered

variable [Entropy ε] [Entropy ε'] {g : ε → ε'} (m : Memory ε ω)

theorem drawDigit_metered (follows : Follows g 1) (n : Nat) :
    (m.mapSource (meter g n)).drawDigit =
      (m.drawDigit.1, m.drawDigit.2.mapSource (meter g (n + 1))) := by
  have drawn := follows.digit n m.entropy
  unfold drawDigit
  change ((Entropy.digit (meter g n m.entropy)).1,
    { m.mapSource (meter g n) with entropy := (Entropy.digit (meter g n m.entropy)).2 }) = _
  rw [drawn]
  rfl

theorem drawBit_metered (follows : Follows g 1) (n : Nat) :
    (m.mapSource (meter g n)).drawBit =
      (m.drawBit.1, m.drawBit.2.mapSource (meter g (n + 1))) := by
  have drawn := follows.bit n m.entropy
  unfold drawBit
  change ((Entropy.bit (meter g n m.entropy)).1,
    { m.mapSource (meter g n) with entropy := (Entropy.bit (meter g n m.entropy)).2 }) = _
  rw [drawn]
  rfl

theorem register_metered {key : Int64} {fallback : Option Int64}
    (follows : Follows g (m.registerDraws key fallback)) (n : Nat) :
    (m.mapSource (meter g n)).register key fallback =
      ((m.register key fallback).1, (m.register key fallback).2.mapSource
        (meter g (n + m.registerDraws key fallback))) := by
  have registers : (m.mapSource (meter g n)).registers = m.registers := rfl
  unfold registerDraws at follows ⊢
  unfold register
  rw [registers]
  cases held : (m.registers.value? key).or fallback with
  | some v =>
    simp only [reduceCtorEq, if_false]
    rfl
  | none =>
    rw [held, if_pos rfl] at follows
    simp only [if_true]
    exact m.drawDigit_metered follows n

private theorem index_metered {i : Indirection} (follows : Follows g (m.indexDraws i)) (n : Nat) :
    (m.mapSource (meter g n)).index i =
      ((m.index i).1, (m.index i).2.mapSource (meter g (n + m.indexDraws i))) := by
  unfold index
  cases named : i.key? with
  | none =>
    unfold indexDraws at follows ⊢
    rw [named] at follows ⊢
    exact m.drawDigit_metered follows n
  | some key =>
    rw [indexDraws_of_named m named] at follows ⊢
    exact m.register_metered follows n

theorem resolve_metered {key : String} (follows : Follows g (m.keyDraws key)) (n : Nat) :
    (m.mapSource (meter g n)).resolve key =
      ((m.resolve key).1, (m.resolve key).2.mapSource (meter g (n + m.keyDraws key))) := by
  unfold keyDraws at follows ⊢
  unfold resolve
  cases indirect : indirection? key with
  | none => rfl
  | some i =>
    rw [indirect] at follows
    have index := m.index_metered follows n
    dsimp only
    rw [index]

variable [Watcher ω]

theorem set_metered {key : String} (follows : Follows g (m.keyDraws key)) (value : Int64)
    (n : Nat) :
    (m.mapSource (meter g n)).set key value =
      (m.set key value).mapSource (meter g (n + m.keyDraws key)) := by
  unfold set
  rw [m.resolve_metered follows n]
  rfl

theorem get_metered {key : String} (follows : Follows g (m.keyDraws key))
    (fallback : Option Int64) (n : Nat) :
    (m.mapSource (meter g n)).get key fallback =
      ((m.get key fallback).1, (m.get key fallback).2.mapSource
        (meter g (n + m.keyDraws key))) := by
  unfold get
  rw [m.resolve_metered follows n]
  unfold fetch
  change (if ((m.resolve key).2.announce (m.resolve key).1).halted = true then _ else _) = _
  split <;> rfl

end Metered

end Memory

end DigitTrail
