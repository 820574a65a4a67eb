import Mathlib.Logic.Function.Basic
import DigitTrail.Proofs.Program.Column

/-!
The meaning of a column. The operators `@ | . : < >` from the row under the cursor downward are
taken one after the other, as many as there are; then comes an action with its operands, or the
column ends. All of this is stated on scenes, which have what an instruction can change and no
more: registers and variables are functions, numbers are compared and added as integers.
-/

set_option autoImplicit false
set_option relaxedAutoImplicit false

namespace DigitTrail.Program

open Console (Terminal)
open Plane (Direction Place)
open Reference (Heading)
open Sheet (Cell Operator)

/-- What an instruction can change of a program. -/
structure Scene (ε : Type) where
  registers : Digit → Option Int64
  values : String → Option Int64
  preferred : Digit → Bool
  heading : Heading
  lastMove : Option Direction
  entropy : ε
  console : Console
  input : Input

/-- How far a column has been taken: its value, whether what floats is grounded, the scene. -/
structure Draft (ε : Type) where
  value : Int64
  grounded : Bool
  scene : Scene ε

/-- The operators that stand before an action, any number of them in any order. -/
def modifierOperators : List Operator := [.deref, .pass, .ground, .toggle, .less, .greater]

def actionOperators : List Operator :=
  [.store, .load, .subtract, .add, .unprefer, .prefer, .exit]

/-- The operators from the first row downward, until there is another kind of token. -/
structure LongestRun (tokens : Nat → Cell) (run : List Operator) : Prop where
  modifies : ∀ o ∈ run, o ∈ modifierOperators
  stands : ∀ i o, run[i]? = some o → tokens (i + 1) = .operator o
  ends : ∀ o ∈ modifierOperators, tokens (run.length + 1) ≠ .operator o

theorem LongestRun.unique {tokens : Nat → Cell} {run run' : List Operator}
    (h : LongestRun tokens run) (h' : LongestRun tokens run') : run = run' := by
  have bounded {a b : List Operator} (ha : LongestRun tokens a) (hb : LongestRun tokens b) :
      b.length ≤ a.length := by
    by_contra longer
    have listed : b[a.length]? = some b[a.length] := List.getElem?_eq_getElem (by omega)
    exact ha.ends _ (hb.modifies _ (List.mem_of_getElem? listed)) (hb.stands _ _ listed)
  have length : run.length = run'.length := Nat.le_antisymm (bounded h' h) (bounded h h')
  refine List.ext_getElem length fun i early early' => ?_
  have first := h.stands i _ (List.getElem?_eq_getElem early)
  have second := h'.stands i _ (List.getElem?_eq_getElem early')
  exact Cell.operator.inj (first.symm.trans second)

def Comparison.Orders : Comparison → Int → Int → Prop
  | .less, a, b => a < b
  | .greater, a, b => a > b
  | .equal, a, b => a = b

namespace Scene

variable {ε : Type} (s : Scene ε)

/-- What the register with this number holds; beyond the digits every register floats. -/
def register (key : Int64) : Option Int64 :=
  if digit : 0 ≤ key.toInt ∧ key.toInt < 10 then
    s.registers ⟨key.toInt.toNat, by omega⟩
  else none

/-- The reading turns to a heading, and the last move is forgotten. -/
def turned (h : Heading) : Scene ε := { s with heading := h, lastMove := none }

variable [Entropy ε]

def drawn : Int64 × Scene ε :=
  ((Entropy.digit s.entropy).1, { s with entropy := (Entropy.digit s.entropy).2 })

/-- The variable that a name stands for. `name@r` is the cell of `name` at the index that
register `r` holds, or at a drawn one. -/
def resolve (name : String) : String × Scene ε :=
  match Memory.indirection? name with
  | none => (name, s)
  | some i =>
    match i.key?.bind s.register with
    | some index => (Memory.indexed i.name index, s)
    | none => (Memory.indexed i.name s.drawn.1, s.drawn.2)

/-- A value written under a name, which a terminal also prints. -/
def write (name : String) (value : Int64) : Scene ε :=
  { (s.resolve name).2 with
    values := Function.update s.values (s.resolve name).1 (some value)
    console := s.console.wrote (s.resolve name).1 value }

end Scene

namespace Draft

variable {ε : Type} (w : Draft ε)

def fallback : Option Int64 := if w.grounded then some 0 else none

variable [Entropy ε]

/-- One operator more before the action, after a move by `dx` columns. -/
def modified (dx : Int) : Operator → Draft ε
  | .deref =>
    match w.scene.register w.value, w.grounded with
    | some v, _ => { w with value := v }
    | none, true => { w with value := 0 }
    | none, false => { w with value := w.scene.drawn.1, scene := w.scene.drawn.2 }
  | .ground => { w with grounded := true }
  | .toggle => { w with scene := w.scene.turned w.scene.heading.reverse }
  | .less => if dx > 0 then { w with scene := w.scene.turned .backward } else w
  | .greater => if dx < 0 then { w with scene := w.scene.turned .forward } else w
  | _ => w

end Draft

/-- What the action in a row reads an operand for, and the row of the operand. -/
inductive Reads (tokens : Nat → Cell) (row : Nat) : Use → Nat → Prop
  | add (action : tokens row = .operator .add) : Reads tokens row .add (row + 1)
  | subtract (action : tokens row = .operator .subtract) : Reads tokens row .subtract (row + 1)
  | load (action : tokens row = .operator .load)
      (direct : ∀ o, tokens (row + 1) ≠ .operator o) : Reads tokens row .keep (row + 1)
  | less (action : tokens row = .operator .load) (test : tokens (row + 1) = .operator .less) :
    Reads tokens row (.compare .less) (row + 2)
  | greater (action : tokens row = .operator .load)
      (test : tokens (row + 1) = .operator .greater) :
    Reads tokens row (.compare .greater) (row + 2)
  | equal (action : tokens row = .operator .load) (test : tokens (row + 1) = .operator .equal) :
    Reads tokens row (.compare .equal) (row + 2)

section Meaning

variable {ε : Type} [Entropy ε]

/-- The operand that a token supplies, and the scene after it. An operand may float. -/
inductive Supplies (token : Cell) (d : Digit) (w : Draft ε) : Option Int64 → Scene ε → Prop
  | own (blank : token = .blank) :
    Supplies token d w ((w.scene.registers d).or w.fallback) w.scene
  | named {name : String} (named : token = .name name) (plain : ∀ t : Terminal, name ≠ t.key) :
    Supplies token d w ((w.scene.values (w.scene.resolve name).1).or w.fallback)
      (w.scene.resolve name).2
  /-- A terminal takes its operand from the input and keeps it as its variable. -/
  | replied {t : Terminal} {reply : String} (named : token = .name t.key)
      (next : w.scene.input.next.1 = some reply) :
    Supplies token d w (some (t.decode reply))
      { w.scene with
        values := Function.update w.scene.values t.key (some (t.decode reply))
        input := w.scene.input.next.2
        console := w.scene.console.setMuted false }

/-- What a register is given for a value and an operand, and the scene after that. -/
inductive Yields (value : Int64) :
    Use → Option Int64 → Scene ε → Option Int64 → Scene ε → Prop
  | keep (operand : Option Int64) (s : Scene ε) : Yields value .keep operand s operand s
  | met {test : Comparison} {v : Int64} (s : Scene ε) (holds : test.Orders value.toInt v.toInt) :
    Yields value (.compare test) (some v) s (some 1) s
  | unmet {test : Comparison} {v : Int64} (s : Scene ε)
      (fails : ¬ test.Orders value.toInt v.toInt) :
    Yields value (.compare test) (some v) s (some 0) s
  /-- A comparison with what floats is a matter of chance. -/
  | guessed (test : Comparison) (s : Scene ε) :
    Yields value (.compare test) none s (some (Entropy.bit s.entropy).1)
      { s with entropy := (Entropy.bit s.entropy).2 }
  | sum {v r : Int64} (s : Scene ε)
      (clamped : r.toInt =
        max Int64.minValue.toInt (min (value.toInt + v.toInt) Int64.maxValue.toInt)) :
    Yields value .add (some v) s (some r) s
  | difference {v r : Int64} (s : Scene ε)
      (clamped : r.toInt =
        max Int64.minValue.toInt (min (value.toInt - v.toInt) Int64.maxValue.toInt)) :
    Yields value .subtract (some v) s (some r) s
  /-- A sum or difference with what floats takes a drawn digit instead. -/
  | drawn {use : Use} {s s' : Scene ε} {result : Option Int64}
      (sums : use = .add ∨ use = .subtract)
      (later : Yields value use (some s.drawn.1) s.drawn.2 result s') :
    Yields value use none s result s'

/-- What a column comes to from the row after its modifiers on, and the scene that it leaves. -/
inductive Completes (tokens : Nat → Cell) (place : Nat → Place) (row : Nat) (d : Digit)
    (w : Draft ε) : Except Fault Step → Scene ε → Prop
  | idle (inert : ∀ o ∈ actionOperators, tokens row ≠ .operator o) :
    Completes tokens place row d w (.ok .running) w.scene
  | exit (action : tokens row = .operator .exit) :
    Completes tokens place row d w (.ok .exited) w.scene
  | prefer {k : Digit} (action : tokens row = .operator .prefer) (key : w.value.toInt = k.val) :
    Completes tokens place row d w (.ok .running)
      { w.scene with preferred := Function.update w.scene.preferred k true }
  | unprefer {k : Digit} (action : tokens row = .operator .unprefer)
      (key : w.value.toInt = k.val) :
    Completes tokens place row d w (.ok .running)
      { w.scene with preferred := Function.update w.scene.preferred k false }
  | ignored (action : tokens row = .operator .prefer ∨ tokens row = .operator .unprefer)
      (outside : ¬ (0 ≤ w.value.toInt ∧ w.value.toInt ≤ 9)) :
    Completes tokens place row d w (.ok .running) w.scene
  | store {name : String} (action : tokens row = .operator .store)
      (named : tokens (row + 1) = .name name) :
    Completes tokens place row d w (.ok .running) (w.scene.write name w.value)
  | read {use : Use} {r : Nat} {operand result : Option Int64} {s s' : Scene ε}
      (reads : Reads tokens row use r) (supplies : Supplies (tokens r) d w operand s)
      (yields : Yields w.value use operand s result s') :
    Completes tokens place row d w (.ok .running)
      { s' with registers := Function.update s'.registers d result }
  | refused {use : Use} {r : Nat} {t : Terminal} (reads : Reads tokens row use r)
      (named : tokens r = .name t.key) (silent : w.scene.input.next.1 = none) :
    Completes tokens place row d w (.error .inputUnavailable)
      { w.scene with input := w.scene.input.next.2 }
  | malformed {expected : Expected} {found : Cell} {r : Nat}
      (offence : Offence tokens row expected found r) :
    Completes tokens place row d w (.error (.malformed expected found (place r))) w.scene

/-! ### Every column means something -/

private theorem exists_clamped (i : Int) :
    ∃ r : Int64, r.toInt = max Int64.minValue.toInt (min i Int64.maxValue.toInt) :=
  ⟨Number.saturate i, Number.toInt_saturate i⟩

private theorem exists_yields_some (value : Int64) (use : Use) (v : Int64) (s : Scene ε) :
    ∃ result, Yields value use (some v) s result s := by
  cases use with
  | keep => exact ⟨_, .keep _ s⟩
  | compare test =>
    by_cases holds : test.Orders value.toInt v.toInt
    · exact ⟨_, .met s holds⟩
    · exact ⟨_, .unmet s holds⟩
  | add =>
    obtain ⟨r, clamped⟩ := exists_clamped (value.toInt + v.toInt)
    exact ⟨_, .sum s clamped⟩
  | subtract =>
    obtain ⟨r, clamped⟩ := exists_clamped (value.toInt - v.toInt)
    exact ⟨_, .difference s clamped⟩

private theorem exists_yields (value : Int64) (use : Use) (operand : Option Int64) (s : Scene ε) :
    ∃ result s', Yields value use operand s result s' := by
  cases operand with
  | some v =>
    obtain ⟨result, yields⟩ := exists_yields_some value use v s
    exact ⟨result, s, yields⟩
  | none =>
    obtain ⟨result, later⟩ := exists_yields_some value use s.drawn.1 s.drawn.2
    cases use with
    | keep => exact ⟨_, _, .keep none s⟩
    | compare test => exact ⟨_, _, .guessed test s⟩
    | add => exact ⟨_, _, .drawn (.inl rfl) later⟩
    | subtract => exact ⟨_, _, .drawn (.inr rfl) later⟩

private theorem supplies_cases (token : Cell) (d : Digit) (w : Draft ε) :
    (∃ operand s, Supplies token d w operand s) ∨
      (∃ t : Terminal, token = .name t.key ∧ w.scene.input.next.1 = none) ∨
      token ≠ .blank ∧ ∀ name, token ≠ .name name := by
  cases token with
  | blank => exact .inl ⟨_, _, .own rfl⟩
  | name name =>
    by_cases terminal : ∃ t : Terminal, name = t.key
    · obtain ⟨t, rfl⟩ := terminal
      cases next : w.scene.input.next.1 with
      | none => exact .inr (.inl ⟨t, rfl, rfl⟩)
      | some reply => exact .inl ⟨_, _, .replied rfl next⟩
    · exact .inl ⟨_, _, .named rfl (not_exists.mp terminal)⟩
  | path digit => exact .inr (.inr (by simp))
  | operator op => exact .inr (.inr (by simp))
  | unknown char => exact .inr (.inr (by simp))

variable {tokens : Nat → Cell} {row : Nat}

private theorem Reads.exists_completes {use : Use} {r : Nat} (reads : Reads tokens row use r)
    (offends : tokens r ≠ .blank → (∀ name, tokens r ≠ .name name) →
      ∃ expected found r', Offence tokens row expected found r')
    (place : Nat → Place) (d : Digit) (w : Draft ε) :
    ∃ result s, Completes tokens place row d w result s := by
  obtain ⟨operand, s, supplies⟩ | ⟨t, named, silent⟩ | ⟨full, unnamed⟩ :=
    supplies_cases (tokens r) d w
  · obtain ⟨result, s', yields⟩ := exists_yields w.value use operand s
    exact ⟨_, _, .read reads supplies yields⟩
  · exact ⟨_, _, .refused reads named silent⟩
  · obtain ⟨expected, found, r', offence⟩ := offends full unnamed
    exact ⟨_, _, .malformed offence⟩

private theorem exists_completes_load (action : tokens row = .operator .load) (place : Nat → Place)
    (d : Digit) (w : Draft ε) : ∃ result s, Completes tokens place row d w result s := by
  by_cases direct : ∀ o, tokens (row + 1) ≠ .operator o
  · exact (Reads.load action direct).exists_completes
      (fun full unnamed => ⟨_, _, _, .load action full unnamed direct⟩) place d w
  obtain ⟨o, found⟩ := not_forall_not.mp direct
  cases test : comparison? o with
  | none => exact ⟨_, _, .malformed (.comparison action found test)⟩
  | some compares =>
    have offends (full : tokens (row + 2) ≠ .blank)
        (unnamed : ∀ name, tokens (row + 2) ≠ .name name) :
        ∃ expected cell r', Offence tokens row expected cell r' :=
      ⟨_, _, _, .compared action found test full unnamed⟩
    cases o with
    | less => exact (Reads.less action found).exists_completes offends place d w
    | greater => exact (Reads.greater action found).exists_completes offends place d w
    | equal => exact (Reads.equal action found).exists_completes offends place d w
    | _ => cases test

theorem exists_completes (tokens : Nat → Cell) (place : Nat → Place) (row : Nat) (d : Digit)
    (w : Draft ε) : ∃ result s, Completes tokens place row d w result s := by
  by_cases inert : ∀ o ∈ actionOperators, tokens row ≠ .operator o
  · exact ⟨_, _, .idle inert⟩
  obtain ⟨o, listed, action⟩ : ∃ o ∈ actionOperators, tokens row = .operator o := by
    simpa using inert
  have digit_or_outside : (∃ k : Digit, w.value.toInt = k.val) ∨
      ¬ (0 ≤ w.value.toInt ∧ w.value.toInt ≤ 9) := by
    by_cases inside : 0 ≤ w.value.toInt ∧ w.value.toInt ≤ 9
    · exact .inl ⟨⟨w.value.toInt.toNat, by omega⟩, (Int.toNat_of_nonneg inside.1).symm⟩
    · exact .inr inside
  cases o with
  | exit => exact ⟨_, _, .exit action⟩
  | prefer =>
    obtain ⟨k, key⟩ | outside := digit_or_outside
    · exact ⟨_, _, .prefer action key⟩
    · exact ⟨_, _, .ignored (.inl action) outside⟩
  | unprefer =>
    obtain ⟨k, key⟩ | outside := digit_or_outside
    · exact ⟨_, _, .unprefer action key⟩
    · exact ⟨_, _, .ignored (.inr action) outside⟩
  | store =>
    by_cases named : ∃ name, tokens (row + 1) = .name name
    · obtain ⟨name, named⟩ := named
      exact ⟨_, _, .store action named⟩
    · exact ⟨_, _, .malformed (.store action (not_exists.mp named))⟩
  | load => exact exists_completes_load action place d w
  | add =>
    exact (Reads.add action).exists_completes
      (fun full unnamed => ⟨_, _, _, .sum (.inl action) full unnamed⟩) place d w
  | subtract =>
    exact (Reads.subtract action).exists_completes
      (fun full unnamed => ⟨_, _, _, .sum (.inr action) full unnamed⟩) place d w
  | _ => exact absurd listed (by decide)

end Meaning

end DigitTrail.Program
