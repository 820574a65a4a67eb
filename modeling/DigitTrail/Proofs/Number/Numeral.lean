import Mathlib.Data.List.TakeWhile
import Std.Data.String.ToInt
import DigitTrail.Number

/-!
Numerals as a grammar. A text is read as a number exactly if it is one or more digits, after a
sign that is allowed, and their value is within the limit. Where it is not read, the digits with
which it begins decide the fault: either they exceed the limit already, or what follows them is
at fault. The decimal text of an integer is read back as that integer.
-/

set_option autoImplicit false
set_option relaxedAutoImplicit false

namespace DigitTrail.Number

/-! ### Digits -/

private theorem digitValue?_eq (c : Char) :
    digitValue? c = if c.isDigit then some (c.toNat - '0'.toNat) else none := by
  have range : c.isDigit = true ↔ '0' ≤ c ∧ c ≤ '9' := by
    simp only [Char.isDigit, Bool.and_eq_true, decide_eq_true_eq]
    rfl
  simp only [digitValue?, range]

private theorem le_ofDigitChars (digits : List Char) (n : Nat) :
    n ≤ Nat.ofDigitChars 10 digits n := by
  rw [Nat.ofDigitChars_eq_ofDigitChars_zero]
  have scaled : 1 * n ≤ 10 ^ digits.length * n :=
    Nat.mul_le_mul_right n (Nat.one_le_pow _ _ (by omega))
  omega

private theorem readMagnitude_eq {limit acc : Nat} (excess : NumeralFault) (cs : List Char)
    (bounded : acc ≤ limit) :
    readMagnitude limit excess acc cs =
      if limit < Nat.ofDigitChars 10 (cs.takeWhile Char.isDigit) acc then .error excess
      else if cs.all Char.isDigit then .ok (Nat.ofDigitChars 10 cs acc)
      else .error .invalidDigit := by
  induction cs generalizing acc with
  | nil =>
    have fits : ¬limit < acc := by omega
    simp [readMagnitude, fits]
  | cons c cs ih =>
    cases kind : c.isDigit with
    | false =>
      have fits : ¬limit < acc := by omega
      simp [readMagnitude, digitValue?_eq, kind, fits]
    | true =>
      have value : acc * 10 + (c.toNat - '0'.toNat) = 10 * acc + (c.toNat - '0'.toNat) := by omega
      rw [readMagnitude, digitValue?_eq, if_pos kind, List.takeWhile_cons_of_pos kind,
        List.all_cons, kind, Bool.true_and, Nat.ofDigitChars_cons, Nat.ofDigitChars_cons]
      simp only [value]
      by_cases exceeds : limit < 10 * acc + (c.toNat - '0'.toNat)
      · have beyond := le_ofDigitChars (cs.takeWhile Char.isDigit)
          (10 * acc + (c.toNat - '0'.toNat))
        rw [if_pos exceeds, if_pos (by omega)]
      · rw [if_neg exceeds, ih (by omega)]

private theorem not_broken {cs : List Char} (written : cs ≠ [])
    (legible : ∀ c ∈ cs, c.isDigit = true) :
    ¬(cs = [] ∨ ∃ c ∈ cs, c.isDigit = false) := by
  rintro (bare | ⟨c, member, other⟩)
  · exact written bare
  · rw [legible c member] at other
    cases other

private theorem readDigits_cases (limit : Nat) (excess : NumeralFault) (cs : List Char) :
    (limit < Nat.ofDigitChars 10 (cs.takeWhile Char.isDigit) 0 ∧
      readDigits limit excess cs = .error excess) ∨
    Nat.ofDigitChars 10 (cs.takeWhile Char.isDigit) 0 ≤ limit ∧
      ((cs ≠ [] ∧ (∀ c ∈ cs, c.isDigit = true) ∧
        readDigits limit excess cs = .ok (Nat.ofDigitChars 10 cs 0)) ∨
      (cs = [] ∨ ∃ c ∈ cs, c.isDigit = false) ∧
        readDigits limit excess cs = .error .invalidDigit) := by
  cases cs with
  | nil => exact .inr ⟨Nat.zero_le limit, .inr ⟨.inl rfl, rfl⟩⟩
  | cons c cs =>
    rw [readDigits, readMagnitude_eq excess (c :: cs) (Nat.zero_le limit)]
    · by_cases exceeds : limit < Nat.ofDigitChars 10 ((c :: cs).takeWhile Char.isDigit) 0
      · exact .inl ⟨exceeds, if_pos exceeds⟩
      · refine .inr ⟨Nat.not_lt.mp exceeds, ?_⟩
        rw [if_neg exceeds]
        cases legible : (c :: cs).all Char.isDigit with
        | true => exact .inl ⟨nofun, List.all_eq_true.mp legible, rfl⟩
        | false =>
          obtain ⟨d, member, other⟩ := List.all_eq_false.mp legible
          exact .inr ⟨.inr ⟨d, member, Bool.eq_false_iff.mpr other⟩, rfl⟩
    · exact nofun

/-! ### Unsigned numerals -/

/-- One or more digits, after a plus sign or not, and their value. -/
def Unsigned (text : List Char) (n : Nat) : Prop :=
  ∃ digits, (text = digits ∨ text = '+' :: digits) ∧ digits ≠ [] ∧
    (∀ c ∈ digits, c.isDigit = true) ∧ Nat.ofDigitChars 10 digits 0 = n

def unsign : List Char → List Char
  | '+' :: digits => digits
  | digits => digits

def Refuses (limit : Nat) (text : List Char) : NumeralFault → Prop
  | .empty => text = []
  | .tooLarge => limit < Nat.ofDigitChars 10 ((unsign text).takeWhile Char.isDigit) 0
  | .invalidDigit =>
    Nat.ofDigitChars 10 ((unsign text).takeWhile Char.isDigit) 0 ≤ limit ∧ text ≠ [] ∧
      (unsign text = [] ∨ ∃ c ∈ unsign text, c.isDigit = false)
  | .tooSmall => False

private theorem unsign_of_ne {c : Char} (other : c ≠ '+') (cs : List Char) :
    unsign (c :: cs) = c :: cs := by
  simp [unsign, other]

theorem unsigned_iff {text : List Char} {n : Nat} :
    Unsigned text n ↔ unsign text ≠ [] ∧ (∀ c ∈ unsign text, c.isDigit = true) ∧
      Nat.ofDigitChars 10 (unsign text) 0 = n := by
  constructor
  · rintro ⟨digits, rfl | rfl, written, legible, value⟩
    · cases text with
      | nil => exact absurd rfl written
      | cons c cs =>
        have digit := legible c List.mem_cons_self
        have other : c ≠ '+' := by
          rintro rfl
          revert digit
          decide
        rw [unsign_of_ne other]
        exact ⟨written, legible, value⟩
    · exact ⟨written, legible, value⟩
  · rintro ⟨written, legible, value⟩
    refine ⟨unsign text, ?_, written, legible, value⟩
    unfold unsign
    split
    · exact .inr rfl
    · exact .inl rfl

private theorem readUnsigned_eq {limit : Nat} {text : List Char} (written : text ≠ []) :
    readUnsigned limit text = readDigits limit .tooLarge (unsign text) := by
  cases text with
  | nil => exact absurd rfl written
  | cons c cs =>
    by_cases plus : c = '+'
    · rw [plus]
      rfl
    · rw [unsign_of_ne plus, readUnsigned]
      · exact nofun
      · rintro _ same
        exact plus (List.cons.inj same).1

theorem readUnsigned_eq_ok_iff {limit n : Nat} {text : List Char} :
    readUnsigned limit text = .ok n ↔ Unsigned text n ∧ n ≤ limit := by
  rw [unsigned_iff]
  cases text with
  | nil => simp [readUnsigned, unsign]
  | cons c cs =>
    rw [readUnsigned_eq (List.cons_ne_nil c cs)]
    obtain ⟨exceeds, read⟩ | ⟨fits, ⟨written, legible, read⟩ | ⟨faulty, read⟩⟩ :=
      readDigits_cases limit .tooLarge (unsign (c :: cs))
    · rw [read]
      refine ⟨nofun, ?_⟩
      rintro ⟨⟨_, legible, value⟩, _⟩
      rw [List.takeWhile_eq_self_iff.mpr legible] at exceeds
      omega
    · rw [read]
      rw [List.takeWhile_eq_self_iff.mpr legible] at fits
      constructor
      · intro same
        cases same
        exact ⟨⟨written, legible, rfl⟩, fits⟩
      · rintro ⟨⟨_, _, value⟩, _⟩
        rw [value]
    · rw [read]
      refine ⟨nofun, ?_⟩
      rintro ⟨⟨written, legible, _⟩, _⟩
      exact absurd faulty (not_broken written legible)

theorem readUnsigned_eq_error_iff {limit : Nat} {text : List Char} {fault : NumeralFault} :
    readUnsigned limit text = .error fault ↔ Refuses limit text fault := by
  cases text with
  | nil => cases fault <;> simp [readUnsigned, Refuses, unsign]
  | cons c cs =>
    rw [readUnsigned_eq (List.cons_ne_nil c cs)]
    obtain ⟨exceeds, read⟩ | ⟨fits, ⟨written, legible, read⟩ | ⟨faulty, read⟩⟩ :=
      readDigits_cases limit .tooLarge (unsign (c :: cs))
    · have high := Nat.not_le.mpr exceeds
      cases fault <;> simp [read, Refuses, exceeds, high]
    · have low := Nat.not_lt.mpr fits
      cases fault with
      | empty | tooLarge | tooSmall => simp [read, Refuses, low]
      | invalidDigit =>
        rw [read]
        exact ⟨nofun, fun refused => absurd refused.2.2 (not_broken written legible)⟩
    · have low := Nat.not_lt.mpr fits
      cases fault <;> simp [read, Refuses, fits, low, faulty]

/-! ### Signed numerals -/

private theorem toList_decimal (i : Int64) :
    (decimal i).toList =
      if i.toInt < 0 then '-' :: Nat.toDigits 10 i.toInt.natAbs
      else Nat.toDigits 10 i.toInt.natAbs := by
  rw [decimal, Int.toString_eq_repr]
  cases sign : i.toInt with
  | ofNat n => simp [Int.repr, Nat.repr]
  | negSucc n => simp [Int.repr, Nat.repr, Int.negSucc_lt_zero]

theorem eq_or_isDigit_of_mem_decimal {i : Int64} {c : Char} (h : c ∈ (decimal i).toList) :
    c = '-' ∨ c.isDigit = true := by
  have digits (member : c ∈ Nat.toDigits 10 i.toInt.natAbs) : c.isDigit = true :=
    Nat.isDigit_of_mem_toDigits (by omega) (by omega) member
  rw [toList_decimal] at h
  split at h
  · rcases List.mem_cons.mp h with minus | member
    · exact .inl minus
    · exact .inr (digits member)
  · exact .inr (digits h)

theorem decimal_inj {i j : Int64} : decimal i = decimal j ↔ i = j := by
  rw [decimal, decimal, Int.toString_eq_repr, Int.toString_eq_repr, Int.repr_inj, Int64.toInt_inj]

private theorem readDigits_toDigits {limit n : Nat} (excess : NumeralFault) (fits : n ≤ limit) :
    readDigits limit excess (Nat.toDigits 10 n) = .ok n := by
  have legible : ∀ c ∈ Nat.toDigits 10 n, c.isDigit = true := fun c member =>
    Nat.isDigit_of_mem_toDigits (by omega) (by omega) member
  obtain ⟨exceeds, _⟩ | ⟨_, ⟨_, _, read⟩ | ⟨faulty, _⟩⟩ :=
    readDigits_cases limit excess (Nat.toDigits 10 n)
  · rw [List.takeWhile_eq_self_iff.mpr legible, Nat.ofDigitChars_ten_toDigits] at exceeds
    omega
  · rw [read, Nat.ofDigitChars_ten_toDigits]
  · exact absurd faulty (not_broken Nat.toDigits_ne_nil legible)

private theorem readSigned_of_isDigit {c : Char} (digit : c.isDigit = true) (cs : List Char) :
    readSigned (c :: cs) =
      (readDigits Int64.maxValue.toInt.natAbs .tooLarge (c :: cs)).map fun n => Int64.ofInt n := by
  have unsigned {d : Char} (other : d.isDigit = false) : c ≠ d := by
    rintro rfl
    rw [other] at digit
    cases digit
  rw [readSigned]
  · exact nofun
  · rintro _ same
    exact unsigned (d := '+') (by decide) (List.cons.inj same).1
  · rintro _ same
    exact unsigned (d := '-') (by decide) (List.cons.inj same).1

theorem readSigned_decimal (i : Int64) : readSigned (decimal i).toList = .ok i := by
  have least := Int64.minValue_le_toInt i
  have most := Int64.toInt_le i
  rw [toList_decimal]
  split
  next negative =>
    have fits : i.toInt.natAbs ≤ Int64.minValue.toInt.natAbs := by omega
    have value : -(i.toInt.natAbs : Int) = i.toInt := by omega
    rw [readSigned, readDigits_toDigits .tooSmall fits]
    show Except.ok (Int64.ofInt (-(i.toInt.natAbs : Int))) = .ok i
    rw [value, Int64.ofInt_toInt]
  next nonnegative =>
    have fits : i.toInt.natAbs ≤ Int64.maxValue.toInt.natAbs := by omega
    have value : (i.toInt.natAbs : Int) = i.toInt := by omega
    cases written : Nat.toDigits 10 i.toInt.natAbs with
    | nil => exact absurd written Nat.toDigits_ne_nil
    | cons c cs =>
      have digit : c.isDigit = true :=
        Nat.isDigit_of_mem_toDigits (by omega) (by omega) (written ▸ List.mem_cons_self)
      rw [readSigned_of_isDigit digit, ← written, readDigits_toDigits .tooLarge fits]
      show Except.ok (Int64.ofInt (i.toInt.natAbs : Int)) = .ok i
      rw [value, Int64.ofInt_toInt]

end DigitTrail.Number
