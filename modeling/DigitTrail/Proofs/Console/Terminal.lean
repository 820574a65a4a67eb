import DigitTrail.Console
import DigitTrail.Proofs.Number.Numeral

/-!
What the terminals print. Different values are printed differently, and a fragment is a line feed
or shows visible characters and spaces only. The decimal terminal prints numerals that can be read
back. The other prints one character exactly for the codes that a reply would give back, and all
other values as an escape in signed hexadecimal.
-/

set_option autoImplicit false
set_option relaxedAutoImplicit false

namespace DigitTrail.Console

/-! ### Hexadecimal numerals -/

/-- The digits up to fifteen, each in the place of its value. -/
def hexDigits : List Char := "0123456789abcdef".toList

def hexValue (digits : List Char) : Nat :=
  digits.foldl (fun n c => 16 * n + hexDigits.idxOf c) 0

/-- A number in lowercase hexadecimal digits, without a zero before others. -/
structure Hexadecimal (n : Nat) (digits : List Char) : Prop where
  written : digits ≠ []
  lowercase : ∀ c ∈ digits, c ∈ hexDigits
  lead : digits.head? = some '0' → digits = ['0']
  value : hexValue digits = n

private theorem digitChar_mem (d : Fin 16) : d.val.digitChar ∈ hexDigits := by
  revert d
  decide

private theorem idxOf_digitChar (d : Fin 16) : hexDigits.idxOf d.val.digitChar = d := by
  revert d
  decide

private theorem hexadecimal_digit (d : Fin 16) : Hexadecimal d [d.val.digitChar] where
  written := nofun
  lowercase := by
    intro c member
    rw [List.mem_singleton.mp member]
    exact digitChar_mem d
  lead := by
    intro zero
    exact congrArg (fun c => [c]) (Option.some.inj zero)
  value := by
    show 16 * 0 + hexDigits.idxOf d.val.digitChar = d
    rw [idxOf_digitChar]
    omega

private theorem Hexadecimal.concat {n : Nat} {digits : List Char} (numeral : Hexadecimal n digits)
    (positive : 0 < n) (d : Fin 16) :
    Hexadecimal (16 * n + d) (digits ++ [d.val.digitChar]) where
  written := by simp
  lowercase := by
    intro c member
    rcases List.mem_append.mp member with earlier | last
    · exact numeral.lowercase c earlier
    · rw [List.mem_singleton.mp last]
      exact digitChar_mem d
  lead := by
    obtain ⟨c, rest, rfl⟩ := List.exists_cons_of_ne_nil numeral.written
    intro zero
    have none := numeral.value
    rw [numeral.lead zero] at none
    exact absurd none (Nat.ne_of_lt positive)
  value := by
    rw [hexValue, List.foldl_append]
    show 16 * hexValue digits + hexDigits.idxOf d.val.digitChar = 16 * n + d
    rw [numeral.value, idxOf_digitChar]

private theorem hexadecimal_toDigits (n : Nat) : Hexadecimal n (Nat.toDigits 16 n) := by
  induction n using Nat.strong_induction_on with
  | _ n ih =>
    rw [Nat.toDigits_eq_if (by omega)]
    split
    next small => exact hexadecimal_digit ⟨n, small⟩
    next large =>
      have numeral := (ih (n / 16) (by omega)).concat (by omega) ⟨n % 16, Nat.mod_lt n (by omega)⟩
      have parts : 16 * (n / 16) + n % 16 = n := Nat.div_add_mod n 16
      simp only [parts] at numeral
      exact numeral

private theorem Hexadecimal.inj {n m : Nat} {digits : List Char} (numeral : Hexadecimal n digits)
    (numeral' : Hexadecimal m digits) : n = m :=
  numeral.value.symm.trans numeral'.value

/-! ### Fragments -/

/-- Characters that leave a mark of one column in ASCII, the space included. -/
def Printable (c : Char) : Prop := 32 ≤ c.toNat ∧ c.toNat ≤ 126

instance (c : Char) : Decidable (Printable c) := inferInstanceAs (Decidable (_ ∧ _))

namespace Terminal

private theorem word?_eq_some_iff {v : Int64} {w : UInt32} :
    word? v = some w ↔ (w.toNat : Int) = v.toInt := by
  have size : UInt32.size = 4294967296 := rfl
  have fits := w.toNat_lt
  unfold word?
  split
  next range =>
    have exact : (UInt32.ofNat v.toInt.toNat).toNat = v.toInt.toNat :=
      UInt32.toNat_ofNat_of_lt' (by omega)
    rw [Option.some.injEq, ← UInt32.toNat_inj, exact]
    omega
  next outside =>
    refine ⟨nofun, fun same => absurd ⟨?_, ?_⟩ outside⟩
    · omega
    · omega

private theorem charOf?_eq_some_iff {code : UInt32} {c : Char} :
    charOf? code = some c ↔ c.val = code := by
  unfold charOf?
  split
  next valid => rw [Option.some.injEq, Char.ext_iff, eq_comm]
  next invalid =>
    refine ⟨nofun, ?_⟩
    rintro rfl
    exact absurd c.valid invalid

private theorem isGraphic_iff (c : Char) : isGraphic c = true ↔ 33 ≤ c.toNat ∧ c.toNat ≤ 126 := by
  unfold isGraphic
  rw [Bool.and_eq_true, decide_eq_true_eq, decide_eq_true_eq]
  exact Iff.rfl

private theorem plain?_eq_some_iff {v : Int64} {c : Char} :
    plain? v = some c ↔
      (c.toNat : Int) = v.toInt ∧ (c.toNat = 10 ∨ 32 ≤ c.toNat ∧ c.toNat ≤ 126) := by
  have feed : c = '\n' ↔ c.toNat = 10 := by rw [← Char.toNat_inj]; rfl
  have space : c = ' ' ↔ c.toNat = 32 := by rw [← Char.toNat_inj]; rfl
  have code : (∃ w, word? v = some w ∧ charOf? w = some c) ↔ (c.toNat : Int) = v.toInt := by
    simp only [word?_eq_some_iff, charOf?_eq_some_iff]
    constructor
    · rintro ⟨w, same, rfl⟩
      exact same
    · intro same
      exact ⟨c.val, same, rfl⟩
  unfold plain?
  rw [Option.filter_eq_some_iff, Option.bind_eq_some_iff, code, Bool.or_eq_true, Bool.or_eq_true,
    isGraphic_iff, decide_eq_true_eq, decide_eq_true_eq, space, feed]
  omega

private theorem isSome_plain?_iff (v : Int64) :
    (plain? v).isSome = true ↔ v.toInt = 10 ∨ 32 ≤ v.toInt ∧ v.toInt ≤ 126 := by
  rw [Option.isSome_iff_exists]
  constructor
  · rintro ⟨c, plain⟩
    obtain ⟨code, range⟩ := plain?_eq_some_iff.mp plain
    omega
  · intro range
    have valid : v.toInt.toNat.isValidChar := Or.inl (by omega)
    have code : (Char.ofNat v.toInt.toNat).toNat = v.toInt.toNat := by
      rw [Char.ofNat, dif_pos valid]
      rfl
    refine ⟨Char.ofNat v.toInt.toNat, plain?_eq_some_iff.mpr ?_⟩
    rw [code]
    omega

private theorem render_of_plain {v : Int64} {c : Char} (plain : plain? v = some c) :
    (ascii.render v).toList = [c] := by
  simp [render, plain]

private theorem render_of_escaped {v : Int64} (escaped : plain? v = none) :
    (ascii.render v).toList =
      '\\' :: 'x' :: ((if v < 0 then ['-'] else []) ++ Nat.toDigits 16 v.toInt.natAbs) := by
  have escape : ascii.render v = escape v := by simp [render, escaped]
  rw [escape, Terminal.escape]
  split <;> simp [hex]

private theorem decode_render_of_plain {v : Int64} {c : Char} (plain : plain? v = some c) :
    ascii.decode (ascii.render v) = v := by
  obtain ⟨code, range⟩ := plain?_eq_some_iff.mp plain
  rw [decode, render_of_plain plain]
  apply Int64.toInt.inj
  show (Int64.ofNat c.toNat).toInt = v.toInt
  rw [Int64.toInt_ofNat_of_lt (by omega), code]

private theorem decode_render_of_escaped {v : Int64} (escaped : plain? v = none) :
    ascii.decode (ascii.render v) ≠ v := by
  have backslash : ascii.decode (ascii.render v) = 92 := by
    rw [decode, render_of_escaped escaped]
    rfl
  intro same
  rw [← same, backslash] at escaped
  exact absurd escaped (by decide)

private theorem printable_of_isDigit {c : Char} (digit : c.isDigit = true) : Printable c := by
  simp only [Char.isDigit, Bool.and_eq_true, decide_eq_true_eq] at digit
  have low : 48 ≤ c.toNat := UInt32.le_iff_toNat_le.mp digit.1
  have high : c.toNat ≤ 57 := UInt32.le_iff_toNat_le.mp digit.2
  constructor <;> omega

private theorem printable_of_mem_hexDigits {c : Char} (member : c ∈ hexDigits) : Printable c := by
  have all : hexDigits.all (Printable ·) = true := by decide
  exact of_decide_eq_true (List.all_eq_true.mp all c member)

private theorem printable_render (t : Terminal) (v : Int64) :
    t.render v = "\n" ∨ ∀ c ∈ (t.render v).toList, Printable c := by
  cases t with
  | decimal =>
    refine .inr fun c member => ?_
    rcases Number.eq_or_isDigit_of_mem_decimal member with rfl | digit
    · decide
    · exact printable_of_isDigit digit
  | ascii =>
    cases plain : plain? v with
    | some c =>
      obtain ⟨_, feed | range⟩ := plain?_eq_some_iff.mp plain
      · refine .inl (String.toList_inj.mp ?_)
        have same : c = '\n' := Char.toNat_inj.mp feed
        rw [render_of_plain plain, same]
        rfl
      · refine .inr fun d member => ?_
        rw [render_of_plain plain, List.mem_singleton] at member
        rw [member]
        exact range
    | none =>
      refine .inr fun c member => ?_
      rw [render_of_escaped plain] at member
      simp only [List.mem_cons, List.mem_append] at member
      rcases member with rfl | rfl | sign | digit
      · decide
      · decide
      · split at sign
        · rw [List.mem_singleton.mp sign]
          decide
        · cases sign
      · exact printable_of_mem_hexDigits ((hexadecimal_toDigits _).lowercase c digit)

private theorem length_render_eq_one_iff (v : Int64) :
    (ascii.render v).length = 1 ↔ (plain? v).isSome = true := by
  rw [← String.length_toList]
  cases plain : plain? v with
  | some c => simp [render_of_plain plain]
  | none => simp [render_of_escaped plain]

private theorem render_ne_empty (t : Terminal) (v : Int64) : t.render v ≠ "" := by
  intro empty
  cases t with
  | decimal =>
    have read := Number.readSigned_decimal v
    rw [show Number.decimal v = "" from empty] at read
    cases read
  | ascii =>
    have blank := congrArg String.toList empty
    cases plain : plain? v with
    | some c =>
      rw [render_of_plain plain] at blank
      cases blank
    | none =>
      rw [render_of_escaped plain] at blank
      cases blank

private theorem toDigits_ne_signed (n : Nat) (rest : List Char) :
    Nat.toDigits 16 n ≠ '-' :: rest := by
  intro signed
  have digit : '-' ∈ hexDigits := by
    refine (hexadecimal_toDigits n).lowercase '-' ?_
    rw [signed]
    exact List.mem_cons_self
  exact absurd digit (by decide)

private theorem escape_inj {v w : Int64} (escaped : plain? v = none) (escaped' : plain? w = none)
    (same : ascii.render v = ascii.render w) : v = w := by
  have sizes (digits : Nat.toDigits 16 v.toInt.natAbs = Nat.toDigits 16 w.toInt.natAbs) :
      v.toInt.natAbs = w.toInt.natAbs :=
    (hexadecimal_toDigits _).inj (digits ▸ hexadecimal_toDigits _)
  have lists := congrArg String.toList same
  rw [render_of_escaped escaped, render_of_escaped escaped', List.cons.injEq,
    List.cons.injEq] at lists
  obtain ⟨_, _, signed⟩ := lists
  apply Int64.toInt.inj
  have zero : (0 : Int64).toInt = 0 := rfl
  by_cases negative : v < 0
  · by_cases negative' : w < 0
    · rw [if_pos negative, if_pos negative'] at signed
      have size := sizes (List.cons.inj signed).2
      rw [Int64.lt_iff_toInt_lt] at negative negative'
      omega
    · rw [if_pos negative, if_neg negative'] at signed
      exact absurd signed.symm (toDigits_ne_signed _ _)
  · by_cases negative' : w < 0
    · rw [if_neg negative, if_pos negative'] at signed
      exact absurd signed (toDigits_ne_signed _ _)
    · rw [if_neg negative, if_neg negative'] at signed
      have size := sizes signed
      rw [Int64.lt_iff_toInt_lt] at negative negative'
      omega

private theorem render_inj (t : Terminal) {v w : Int64} : t.render v = t.render w ↔ v = w := by
  refine ⟨fun same => ?_, fun same => congrArg t.render same⟩
  cases t with
  | decimal => exact Number.decimal_inj.mp same
  | ascii =>
    have both : (plain? v).isSome = true ↔ (plain? w).isSome = true := by
      rw [← length_render_eq_one_iff, ← length_render_eq_one_iff, same]
    cases plain : plain? v with
    | some c =>
      obtain ⟨d, plain'⟩ := Option.isSome_iff_exists.mp (both.mp (by rw [plain]; rfl))
      rw [← decode_render_of_plain plain, same, decode_render_of_plain plain']
    | none =>
      have escaped : plain? w = none := by
        rw [plain] at both
        simpa using both
      exact escape_inj plain escaped same

/-- Both terminals print different values differently, never print nothing, and print a line feed
alone or printable characters. A decimal fragment is read back as its value. A fragment of the
other terminal is one character for the line feed and the printable codes, which are exactly
those that it decodes to its value, and for any other value an escape in signed lowercase
hexadecimal. -/
theorem fragments_are_unambiguous_and_printable (t : Terminal) (v w : Int64) :
    (t.render v = t.render w ↔ v = w) ∧
    t.render v ≠ "" ∧
    (t.render v = "\n" ∨ ∀ c ∈ (t.render v).toList, Printable c) ∧
    Number.readSigned (decimal.render v).toList = .ok v ∧
    ((ascii.render v).length = 1 ↔ v.toInt = 10 ∨ 32 ≤ v.toInt ∧ v.toInt ≤ 126) ∧
    ((ascii.render v).length = 1 ↔ ascii.decode (ascii.render v) = v) ∧
    ((ascii.render v).length ≠ 1 → ∃ digits, Hexadecimal v.toInt.natAbs digits ∧
      (ascii.render v).toList =
        ['\\', 'x'] ++ (if v.toInt < 0 then ['-'] else []) ++ digits) := by
  have single := length_render_eq_one_iff v
  refine ⟨t.render_inj, t.render_ne_empty v, t.printable_render v, Number.readSigned_decimal v,
    single.trans (isSome_plain?_iff v), ?_, ?_⟩
  · rw [single]
    cases plain : plain? v with
    | some c => exact ⟨fun _ => decode_render_of_plain plain, fun _ => rfl⟩
    | none => exact ⟨nofun, fun same => absurd same (decode_render_of_escaped plain)⟩
  · intro longer
    rw [ne_eq, single, Option.not_isSome_iff_eq_none] at longer
    refine ⟨Nat.toDigits 16 v.toInt.natAbs, hexadecimal_toDigits _, ?_⟩
    have negative : v < 0 ↔ v.toInt < 0 := Int64.lt_iff_toInt_lt
    rw [render_of_escaped longer]
    simp only [negative]
    rfl

end Terminal

end DigitTrail.Console
