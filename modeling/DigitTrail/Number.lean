/-!
Sixty-four bit integers and their numerals. Every coordinate, register and variable is such an
integer. Sums of them stop at the limits instead of wrapping, but for those that overflow. A
numeral is an optional sign and one or more digits, and a faulty one is told apart by the first
fault met from the left.
-/

set_option autoImplicit false
set_option relaxedAutoImplicit false

namespace DigitTrail.Number

/-- The representable integer nearest to `n`. -/
def saturate (n : Int) : Int64 := Int64.ofIntClamp n

def satAdd (a b : Int64) : Int64 := saturate (a.toInt + b.toInt)

def satSub (a b : Int64) : Int64 := saturate (a.toInt - b.toInt)

/-- A sum or a difference that sixty-four bits do not hold. -/
inductive Overflow
  | sum | difference
  deriving DecidableEq, Repr

def Overflow.message : Overflow → String
  | .sum => "attempt to add with overflow"
  | .difference => "attempt to subtract with overflow"

def int64? (n : Int) : Option Int64 :=
  if Int64.minValue.toInt ≤ n ∧ n ≤ Int64.maxValue.toInt then some (Int64.ofInt n) else none

/-- An exact result, or the overflow that it is. -/
def checked (overflow : Overflow) (n : Int) : Except Overflow Int64 :=
  match int64? n with
  | some v => .ok v
  | none => .error overflow

/-- The index that an integer names, unless it is negative. -/
def index? (i : Int64) : Option Nat :=
  if 0 ≤ i then some i.toInt.toNat else none

theorem int64?_eq_some_iff {n : Int} {v : Int64} : int64? n = some v ↔ v.toInt = n := by
  have least : Int64.minValue.toInt = -9223372036854775808 := by decide
  have most : Int64.maxValue.toInt = 9223372036854775807 := by decide
  unfold int64?
  split
  next fits =>
    have held : (Int64.ofInt n).toInt = n := Int64.toInt_ofInt_of_le (by omega) (by omega)
    rw [Option.some.injEq, ← Int64.toInt_inj, held, eq_comm]
  next outside =>
    refine ⟨nofun, ?_⟩
    rintro rfl
    exact absurd ⟨Int64.minValue_le_toInt v, Int64.toInt_le v⟩ outside

theorem checked_of_fits {n : Int} (low : Int64.minValue.toInt ≤ n)
    (high : n ≤ Int64.maxValue.toInt) (overflow : Overflow) :
    ∃ v, checked overflow n = .ok v ∧ v.toInt = n := by
  have held : int64? n = some (Int64.ofInt n) := if_pos ⟨low, high⟩
  refine ⟨Int64.ofInt n, ?_, int64?_eq_some_iff.mp held⟩
  rw [checked, held]

theorem checked_of_outside {n : Int}
    (outside : ¬ (Int64.minValue.toInt ≤ n ∧ n ≤ Int64.maxValue.toInt)) (overflow : Overflow) :
    checked overflow n = .error overflow := by
  rw [checked, int64?, if_neg outside]

theorem toInt_saturate (n : Int) :
    (saturate n).toInt = max Int64.minValue.toInt (min n Int64.maxValue.toInt) := by
  have hmin : Int64.minValue.toInt = -9223372036854775808 := by decide
  have hmax : Int64.maxValue.toInt = 9223372036854775807 := by decide
  unfold saturate Int64.ofIntClamp
  split
  · split
    · rw [Int64.toInt_ofIntLE]; omega
    · rw [hmax]; omega
  · rw [hmin]; omega

theorem toInt_satAdd (a b : Int64) :
    (satAdd a b).toInt = max Int64.minValue.toInt (min (a.toInt + b.toInt) Int64.maxValue.toInt) :=
  toInt_saturate _

theorem toInt_satSub (a b : Int64) :
    (satSub a b).toInt = max Int64.minValue.toInt (min (a.toInt - b.toInt) Int64.maxValue.toInt) :=
  toInt_saturate _

inductive NumeralFault
  | empty | invalidDigit | tooLarge | tooSmall
  deriving DecidableEq, Repr

def NumeralFault.message : NumeralFault → String
  | .empty => "cannot parse integer from empty string"
  | .invalidDigit => "invalid digit found in string"
  | .tooLarge => "number too large to fit in target type"
  | .tooSmall => "number too small to fit in target type"

def digitValue? (c : Char) : Option Nat :=
  if '0' ≤ c ∧ c ≤ '9' then some (c.toNat - '0'.toNat) else none

/-- Read digits onto `acc`; the first digit that exceeds `limit` reports `excess`. -/
def readMagnitude (limit : Nat) (excess : NumeralFault) (acc : Nat) :
    List Char → Except NumeralFault Nat
  | [] => .ok acc
  | c :: cs =>
    match digitValue? c with
    | none => .error .invalidDigit
    | some d =>
      if limit < acc * 10 + d then .error excess
      else readMagnitude limit excess (acc * 10 + d) cs

/-- At least one digit is needed, also after a sign. -/
def readDigits (limit : Nat) (excess : NumeralFault) : List Char → Except NumeralFault Nat
  | [] => .error .invalidDigit
  | cs => readMagnitude limit excess 0 cs

/-- An unsigned numeral up to `limit`; a plus sign is allowed. -/
def readUnsigned (limit : Nat) : List Char → Except NumeralFault Nat
  | [] => .error .empty
  | '+' :: cs => readDigits limit .tooLarge cs
  | cs => readDigits limit .tooLarge cs

def readSigned : List Char → Except NumeralFault Int64
  | [] => .error .empty
  | '+' :: cs => (readDigits Int64.maxValue.toInt.natAbs .tooLarge cs).map fun n => Int64.ofInt n
  | '-' :: cs => (readDigits Int64.minValue.toInt.natAbs .tooSmall cs).map fun n => Int64.ofInt (-n)
  | cs => (readDigits Int64.maxValue.toInt.natAbs .tooLarge cs).map fun n => Int64.ofInt n

def decimal (n : Int64) : String := toString n.toInt

end DigitTrail.Number
