import DigitTrail.Proofs.Sheet.Spelling

/-!
The grammar of a line. Name characters stand together in blocks, as long as they can be, and a
block is a name from its first letter or underscore on. What comes before that in the block, and
what stands between the blocks, is read one character at a time. The scanner, which looks ahead
of itself and carries names along, lays out each line as the grammar says and in no other way.
-/

set_option autoImplicit false
set_option relaxedAutoImplicit false

namespace DigitTrail.Sheet

def gapCell : Char → Cell
  | ' ' => .blank
  | '^' => .operator .load
  | '+' => .operator .add
  | '-' => .operator .subtract
  | '|' => .operator .pass
  | '<' => .operator .less
  | '>' => .operator .greater
  | ':' => .operator .toggle
  | '.' => .operator .ground
  | '=' => .operator .equal
  | c => .unknown c

/-- The cell of a digit, an at sign or a bracket before the letters of a block. -/
def leadCell (c : Char) : Cell :=
  match Digit.ofChar? c with
  | some d => .path d
  | none => if c = '@' then .operator .deref else .unknown c

def loneOperator? : Char → Option Operator
  | 'v' => some .store
  | 'p' => some .unprefer
  | 'P' => some .prefer
  | 'E' => some .exit
  | _ => none

def EndsBlock (rest : List Char) : Prop := ∀ c ∈ rest.head?, isNameChar c = false

/-- What leaves a letter before it standing alone: nothing, a blank or a bar. -/
def Frees (rest : List Char) : Prop :=
  rest.head? = none ∨ rest.head? = some ' ' ∨ rest.head? = some '|'

def IsLead (lead : List Char) : Prop := ∀ c ∈ lead, isNameChar c = true ∧ opensName c = false

/-- How a line is laid out in cells. -/
inductive LaidOut : List Char → List Cell → Prop
  | nil : LaidOut [] []
  /-- A character between blocks. -/
  | gap {c : Char} {rest : List Char} {cells : List Cell} (outside : isNameChar c = false)
      (tail : LaidOut rest cells) : LaidOut (c :: rest) (gapCell c :: cells)
  /-- A block without letters and underscores. -/
  | marks {lead rest : List Char} {cells : List Cell} (nonempty : lead ≠ []) (marks : IsLead lead)
      (ends : EndsBlock rest) (tail : LaidOut rest cells) :
    LaidOut (lead ++ rest) (lead.map leadCell ++ cells)
  /-- A block whose one letter is its last character and stands alone. -/
  | lone {lead rest : List Char} {letter : Char} {o : Operator} {cells : List Cell}
      (marks : IsLead lead) (writes : loneOperator? letter = some o) (frees : Frees rest)
      (tail : LaidOut rest cells) :
    LaidOut (lead ++ letter :: rest) (lead.map leadCell ++ .operator o :: cells)
  /-- Any other block is a name from its first letter or underscore on. -/
  | name {lead more rest : List Char} {first : Char} {cells : List Cell}
      (marks : IsLead lead) (opens : opensName first = true)
      (inside : ∀ c ∈ more, isNameChar c = true) (ends : EndsBlock rest)
      (bound : ¬ (more = [] ∧ (loneOperator? first).isSome ∧ Frees rest))
      (tail : LaidOut rest cells) :
    LaidOut (lead ++ first :: more ++ rest)
      (lead.map leadCell ++
        List.replicate (more.length + 1) (.name (String.ofList (first :: more))) ++ cells)

/-! ### Characters -/

private theorem isSome_ofChar? (c : Char) : (Digit.ofChar? c).isSome = c.isDigit := by
  have zero : '0' ≤ c ↔ c.val ≥ 48 := Iff.rfl
  have nine : c ≤ '9' ↔ c.val ≤ 57 := Iff.rfl
  unfold Digit.ofChar? Number.digitValue? Char.isDigit
  by_cases range : '0' ≤ c ∧ c ≤ '9'
  · have small : c.toNat - 48 < 10 := by
      have high : c.toNat ≤ 57 := range.2
      omega
    simp [range, Digit.ofNat?, small, ← zero, ← nine]
  · simp only [range, if_false, Option.bind_none, Option.isSome_none]
    simpa [← zero, ← nine] using range

private theorem ofChar?_eq_none {c : Char} (undigited : c.isDigit = false) :
    Digit.ofChar? c = none := by
  rw [← Option.not_isSome_iff_eq_none, isSome_ofChar?, undigited]
  exact Bool.false_ne_true

private theorem not_isAlpha_of_isDigit {c : Char} (digit : c.isDigit = true) :
    c.isAlpha = false := by
  simp only [Char.isDigit, Bool.and_eq_true, decide_eq_true_eq] at digit
  have high : c.val.toNat ≤ 57 := digit.2
  have upper : ¬ 65 ≤ c.val.toNat := by omega
  have lower : ¬ 97 ≤ c.val.toNat := by omega
  change (c.isUpper || c.isLower) = false
  rw [Bool.or_eq_false_iff]
  constructor
  · exact decide_eq_false fun range => upper range.1
  · have small : decide (c.val ≥ 97) = false := decide_eq_false lower
    change (decide (c.val ≥ 97) && decide (c.val ≤ 122)) = false
    rw [small, Bool.false_and]

private theorem not_opensName_of_isDigit {c : Char} (digit : c.isDigit = true) :
    opensName c = false := by
  have line : c ≠ '_' := by
    rintro rfl
    cases digit
  simp [opensName, not_isAlpha_of_isDigit digit, line]

private theorem cellAt_of_opensName {c : Char} (opens : opensName c = true) (rest : List Char) :
    cellAt c rest = letterCell c rest := by
  have visible : c ≠ ' ' := by
    rintro rfl
    cases opens
  have undigited : c.isDigit = false := by
    by_contra digit
    rw [not_opensName_of_isDigit (by simpa using digit)] at opens
    cases opens
  unfold cellAt
  rw [if_neg visible, ofChar?_eq_none undigited]
  simp [opens]

private theorem ofChar?_of_opensName {c : Char} (opens : opensName c = true) :
    Operator.ofChar? c = loneOperator? c := by
  unfold loneOperator?
  split
  · decide
  · decide
  · decide
  · decide
  · rename_i v p P E
    rw [Operator.ofChar?, List.find?_eq_none]
    intro o _ written
    have same : o.symbol = c := by simpa using written
    cases o with
    | prefer => exact P same.symm
    | unprefer => exact p same.symm
    | exit => exact E same.symm
    | store => exact v same.symm
    | _ =>
      rw [← same] at opens
      exact absurd opens (by decide)

private theorem symbolCell_of_gap {c : Char} (outside : isNameChar c = false) (visible : c ≠ ' ') :
    symbolCell c = gapCell c := by
  unfold gapCell
  split
  · exact absurd rfl visible
  all_goals try rfl
  rename_i load add subtract pass less greater toggle ground equal
  have unwritten : Operator.ofChar? c = none := by
    rw [Operator.ofChar?, List.find?_eq_none]
    intro o _ written
    have same : o.symbol = c := by simpa using written
    cases o with
    | load => exact load same.symm
    | add => exact add same.symm
    | subtract => exact subtract same.symm
    | pass => exact pass same.symm
    | less => exact less same.symm
    | greater => exact greater same.symm
    | toggle => exact toggle same.symm
    | ground => exact ground same.symm
    | equal => exact equal same.symm
    | _ =>
      rw [← same] at outside
      exact absurd outside (by decide)
  rw [symbolCell, unwritten]

private theorem cellAt_of_gap {c : Char} (outside : isNameChar c = false) (rest : List Char) :
    cellAt c rest = gapCell c := by
  by_cases blank : c = ' '
  · rw [blank]
    rfl
  have bare : c.isAlphanum = false ∧ c ≠ '_' := by
    simp only [isNameChar, Bool.or_eq_false_iff, decide_eq_false_iff_not] at outside
    exact ⟨outside.1.1.1.1, outside.1.1.1.2⟩
  have classes := bare.1
  rw [Char.isAlphanum, Bool.or_eq_false_iff] at classes
  have closed : opensName c = false := by simp [opensName, classes.1, bare.2]
  rw [cellAt, if_neg blank, ofChar?_eq_none classes.2, ← symbolCell_of_gap outside blank]
  simp [closed]

private theorem cellAt_of_lead {c : Char} (inside : isNameChar c = true)
    (closed : opensName c = false)
    (rest : List Char) : cellAt c rest = leadCell c := by
  have visible : c ≠ ' ' := by
    rintro rfl
    cases inside
  unfold cellAt leadCell
  rw [if_neg visible]
  cases digit : Digit.ofChar? c with
  | some d => rfl
  | none =>
    have undigited : c.isDigit = false := by
      rw [← isSome_ofChar?, digit]
      rfl
    have mark : c = '@' ∨ c = '[' ∨ c = ']' := by
      simp only [opensName, Bool.or_eq_false_iff, decide_eq_false_iff_not] at closed
      simpa [isNameChar, Char.isAlphanum, closed.1, closed.2, undigited, or_assoc] using inside
    rcases mark with rfl | rfl | rfl <;> rfl

private theorem opensName_of_loneOperator? {c : Char} {o : Operator}
    (writes : loneOperator? c = some o) :
    opensName c = true := by
  unfold loneOperator? at writes
  split at writes
  any_goals rfl
  cases writes

private theorem endsBlock_of_frees {rest : List Char} (frees : Frees rest) : EndsBlock rest := by
  intro c head
  rcases frees with none | blank | bar
  · rw [none] at head
    cases head
  · rw [blank] at head
    cases head
    rfl
  · rw [bar] at head
    cases head
    rfl

private theorem standsAlone_iff (rest : List Char) : standsAlone rest = true ↔ Frees rest := by
  cases rest <;> simp [standsAlone, Frees]

/-! ### Blocks -/

private theorem name?_gapCell (c : Char) : (gapCell c).name? = none := by
  unfold gapCell
  split <;> rfl

private theorem name?_leadCell (c : Char) : (leadCell c).name? = none := by
  unfold leadCell
  split
  · rfl
  · split <;> rfl

private theorem scan_gap {c : Char} (outside : isNameChar c = false) (rest : List Char) :
    scan (c :: rest) = gapCell c :: scan rest := by
  rw [scan, scanFrom_none_cons, cellAt_of_gap outside, run_eq_none (name?_gapCell c), scan]

private theorem scan_lead {lead : List Char} (marks : IsLead lead) (rest : List Char) :
    scan (lead ++ rest) = lead.map leadCell ++ scan rest := by
  induction lead with
  | nil => rfl
  | cons c lead ih =>
    have first := marks c List.mem_cons_self
    have later : IsLead lead := fun d member => marks d (List.mem_cons_of_mem c member)
    rw [List.cons_append, scan, scanFrom_none_cons, cellAt_of_lead first.1 first.2,
      run_eq_none (name?_leadCell c)]
    exact congrArg _ (ih later)

private theorem takeWhile_block {block rest : List Char} (inside : ∀ c ∈ block, isNameChar c = true)
    (ends : EndsBlock rest) : (block ++ rest).takeWhile isNameChar = block := by
  rw [List.takeWhile_append_of_pos inside]
  cases rest with
  | nil => simp
  | cons c rest => simp [ends c rfl]

private theorem dropWhile_block {block rest : List Char} (inside : ∀ c ∈ block, isNameChar c = true)
    (ends : EndsBlock rest) : (block ++ rest).dropWhile isNameChar = rest := by
  rw [List.dropWhile_append_of_pos inside]
  cases rest with
  | nil => rfl
  | cons c rest => simp [ends c rfl]

private theorem scan_lone {letter : Char} {o : Operator} (writes : loneOperator? letter = some o)
    {rest : List Char} (frees : Frees rest) :
    scan (letter :: rest) = .operator o :: scan rest := by
  have opens := opensName_of_loneOperator? writes
  have cell : cellAt letter rest = .operator o := by
    rw [cellAt_of_opensName opens, letterCell, if_pos ((standsAlone_iff rest).mpr frees),
      ofChar?_of_opensName opens, writes]
  rw [scan, scanFrom_none_cons, cell]
  rfl

private theorem scan_name {first : Char} {more rest : List Char} (opens : opensName first = true)
    (inside : ∀ c ∈ more, isNameChar c = true) (ends : EndsBlock rest)
    (bound : ¬ (more = [] ∧ (loneOperator? first).isSome ∧ Frees rest)) :
    scan (first :: more ++ rest) =
      List.replicate (more.length + 1) (.name (String.ofList (first :: more))) ++ scan rest := by
  have unwritten :
      (if standsAlone (more ++ rest) then Operator.ofChar? first else none) = none := by
    split_ifs with alone
    · rw [ofChar?_of_opensName opens, ← Option.not_isSome_iff_eq_none]
      rw [standsAlone_iff] at alone
      cases more with
      | nil => exact fun writes => bound ⟨rfl, writes, alone⟩
      | cons c more =>
        have outside := endsBlock_of_frees alone c rfl
        rw [inside c List.mem_cons_self] at outside
        cases outside
    · rfl
  have cell : cellAt first (more ++ rest) = .name (String.ofList (first :: more)) := by
    rw [cellAt_of_opensName opens, letterCell, unwritten, takeWhile_block inside ends]
  rw [List.cons_append, scan, scanFrom_none_cons, cell, Cell.run, scanFrom_some,
    takeWhile_block inside ends, dropWhile_block inside ends, scan, List.replicate_succ,
    List.cons_append]

private theorem scan_of_laidOut {line : List Char} {cells : List Cell} (h : LaidOut line cells) :
    scan line = cells := by
  induction h with
  | nil => rfl
  | gap outside _ ih => rw [scan_gap outside, ih]
  | marks _ marks _ _ ih => rw [scan_lead marks, ih]
  | lone marks writes frees _ ih => rw [scan_lead marks, scan_lone writes frees, ih]
  | name marks opens inside ends bound _ ih =>
    rw [List.append_assoc, scan_lead marks, scan_name opens inside ends bound, ih,
      List.append_assoc]

private theorem endsBlock_dropWhile (line : List Char) : EndsBlock (line.dropWhile isNameChar) := by
  intro c head
  have stops := List.head?_dropWhile_not isNameChar line
  rw [Option.mem_def.mp head] at stops
  simpa using stops

private theorem block_cases {block : List Char} (inside : ∀ c ∈ block, isNameChar c = true) :
    IsLead block ∨
      ∃ lead first more, block = lead ++ first :: more ∧ IsLead lead ∧ opensName first = true := by
  induction block with
  | nil => exact .inl (by simp [IsLead])
  | cons c block ih =>
    by_cases opens : opensName c = true
    · exact .inr ⟨[], c, block, rfl, by simp [IsLead], opens⟩
    have mark : isNameChar c = true ∧ opensName c = false :=
      ⟨inside c List.mem_cons_self, by simpa using opens⟩
    rcases ih fun d member => inside d (List.mem_cons_of_mem c member) with
      marks | ⟨lead, first, more, rfl, marks, opens⟩
    · exact .inl (List.forall_mem_cons.mpr ⟨mark, marks⟩)
    · exact .inr ⟨c :: lead, first, more, rfl, List.forall_mem_cons.mpr ⟨mark, marks⟩, opens⟩

private theorem laidOut_block {block rest : List Char} {cells : List Cell} (nonempty : block ≠ [])
    (inside : ∀ c ∈ block, isNameChar c = true) (ends : EndsBlock rest)
    (tail : LaidOut rest cells) : ∃ cells, LaidOut (block ++ rest) cells := by
  rcases block_cases inside with marks | ⟨lead, first, more, rfl, marks, opens⟩
  · exact ⟨_, .marks nonempty marks ends tail⟩
  have within : ∀ c ∈ more, isNameChar c = true := fun c member =>
    inside c (List.mem_append_right lead (List.mem_cons_of_mem first member))
  by_cases alone : more = [] ∧ (loneOperator? first).isSome ∧ Frees rest
  · obtain ⟨rfl, writes, frees⟩ := alone
    obtain ⟨o, writes⟩ := Option.isSome_iff_exists.mp writes
    rw [List.append_assoc]
    exact ⟨_, .lone marks writes frees tail⟩
  · exact ⟨_, .name marks opens within ends alone tail⟩

private theorem exists_laidOut (line : List Char) : ∃ cells, LaidOut line cells := by
  -- A block is taken whole, so the induction is on the length.
  induction size : line.length using Nat.strong_induction_on generalizing line with
  | _ n ih =>
    cases line with
    | nil => exact ⟨[], .nil⟩
    | cons c rest =>
      by_cases outside : isNameChar c = false
      · obtain ⟨cells, tail⟩ := ih rest.length (by simp [← size]) rest rfl
        exact ⟨_, .gap outside tail⟩
      have inside : isNameChar c = true := by simpa using outside
      have shorter : (rest.dropWhile isNameChar).length < n := by
        have dropped := (List.dropWhile_sublist isNameChar (l := rest)).length_le
        rw [List.length_cons] at size
        omega
      obtain ⟨cells, tail⟩ := ih _ shorter (rest.dropWhile isNameChar) rfl
      have block : ∀ d ∈ c :: rest.takeWhile isNameChar, isNameChar d = true :=
        List.forall_mem_cons.mpr ⟨inside, fun d member => List.mem_takeWhile_imp member⟩
      have laid := laidOut_block (List.cons_ne_nil _ _) block (endsBlock_dropWhile rest) tail
      rwa [List.cons_append, List.takeWhile_append_dropWhile] at laid

/-- The cells of a line are those that the grammar gives its blocks and the characters between
them. -/
theorem scan_eq_iff_laidOut (line : List Char) (cells : List Cell) :
    scan line = cells ↔ LaidOut line cells := by
  refine ⟨?_, scan_of_laidOut⟩
  rintro rfl
  obtain ⟨cells, laid⟩ := exists_laidOut line
  rw [scan_of_laidOut laid]
  exact laid

example : scan "7[v|a@1^ _".toList =
    [.path 7, .unknown '[', .operator .store, .operator .pass, .name "a@1", .name "a@1",
      .name "a@1", .operator .load, .blank, .name "_"] := by decide

end DigitTrail.Sheet
