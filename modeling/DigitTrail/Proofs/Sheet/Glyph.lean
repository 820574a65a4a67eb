import DigitTrail.Proofs.Sheet.Spelling

/-!
Glyphs: the one character that a cell stands for if it is not blank. All cells of a name hold
the whole name, so it takes the cells before one of them to tell which of its characters it
is. The glyphs of a line that was scanned are its characters, column by column.
-/

set_option autoImplicit false
set_option relaxedAutoImplicit false

namespace DigitTrail.Sheet

def runBefore (row : List Cell) (x : Nat) (cell : Cell) : Nat :=
  ((row.take x).reverse.takeWhile (· = cell)).length

/-- The character that a column of a row stands for, unless it is blank. -/
def rowGlyph? (row : List Cell) (x : Nat) : Option Char :=
  match row[x]? with
  | none => none
  | some .blank => none
  | some (.path d) => some d.toChar
  | some (.operator o) => some o.symbol
  | some (.unknown c) => some c
  | some (.name s) => s.toList[runBefore row x (.name s)]?

/-- The character that a cell of the plane stands for, unless it is blank. -/
def glyph? (s : Sheet) (x y : Int) : Option Char :=
  if 0 ≤ x ∧ 0 ≤ y then (s.rows[y.toNat]?).bind fun row => rowGlyph? row.toList x.toNat
  else none

example : (ofText "3\n a@1 v").glyph? 2 1 = some '@' ∧ (ofText "3\n a@1 v").glyph? 4 1 = none := by
  decide

section Row

variable {row : List Cell} {x : Nat}

theorem rowGlyph?_of_blank (blank : (row[x]?).getD .blank = .blank) : rowGlyph? row x = none := by
  unfold rowGlyph?
  cases here : row[x]? with
  | none => rfl
  | some cell =>
    rw [here, Option.getD_some] at blank
    rw [blank]

private theorem rowGlyph?_of_unnamed {cell : Cell} {c : Char} (here : row[x]? = some cell)
    (unnamed : cell.name? = none) (text : cell.text = String.singleton c) (inked : c ≠ ' ') :
    rowGlyph? row x = some c := by
  unfold rowGlyph?
  rw [here]
  cases cell with
  | blank =>
    have space : String.singleton ' ' = String.singleton c := text
    exact absurd (String.singleton_inj.mp space).symm inked
  | name s => cases unnamed
  | path d => simpa [Cell.text, Digit.text] using text
  | operator o => simpa [Cell.text] using text
  | unknown u => simpa [Cell.text] using text

private theorem rowGlyph?_of_named {s : String} (here : row[x]? = some (.name s)) :
    rowGlyph? row x = s.toList[runBefore row x (.name s)]? := by
  unfold rowGlyph?
  rw [here]

private theorem runBefore_replicate {cell : Cell} {n : Nat} (rest : List Cell) (inside : x < n) :
    runBefore (List.replicate n cell ++ rest) x cell = x := by
  have short : x ≤ (List.replicate n cell).length := by
    rw [List.length_replicate]
    omega
  unfold runBefore
  rw [List.take_append_of_le_length short, List.take_replicate, Nat.min_eq_left (by omega),
    List.reverse_replicate, List.takeWhile_replicate]
  simp

private theorem rowGlyph?_replicate {s : String} {n : Nat} (rest : List Cell) (inside : x < n) :
    rowGlyph? (List.replicate n (.name s) ++ rest) x = s.toList[x]? := by
  have here : (List.replicate n (Cell.name s) ++ rest)[x]? = some (.name s) := by
    rw [List.getElem?_append_left (by simpa using inside)]
    simp [inside]
  rw [rowGlyph?_of_named here, runBefore_replicate rest inside]

private theorem takeWhile_reverse_eq_nil {before : List Cell} {cell : Cell}
    (apart : before.getLast? ≠ some cell) : before.reverse.takeWhile (· = cell) = [] := by
  cases last : before.reverse with
  | nil => rfl
  | cons other cells =>
    have different : other ≠ cell := by
      rintro rfl
      apply apart
      rw [List.getLast?_eq_head?_reverse, last]
      rfl
    simp [different]

private theorem head_of_takeWhile {cell : Cell} (here : row[x]? = some cell)
    (whole : (row.take x).reverse.takeWhile (· = cell) = (row.take x).reverse) :
    row[0]? = some cell := by
  cases x with
  | zero => exact here
  | succ x =>
    cases row with
    | nil => cases here
    | cons first rest =>
      have member : first ∈ ((first :: rest).take (x + 1)).reverse.takeWhile (· = cell) := by
        rw [whole]
        simp
      have same : first = cell := by simpa using List.mem_takeWhile_imp member
      rw [same]
      rfl

private theorem runBefore_append {cell : Cell} (before : List Cell) (here : row[x]? = some cell)
    (apart : row[0]? = some cell → before.getLast? ≠ some cell) :
    runBefore (before ++ row) (before.length + x) cell = runBefore row x cell := by
  unfold runBefore
  rw [List.take_length_add_append, List.reverse_append, List.takeWhile_append]
  split_ifs with full
  · have whole := (List.takeWhile_prefix _).eq_of_length full
    rw [takeWhile_reverse_eq_nil (apart (head_of_takeWhile here whole)), whole, List.append_nil]
  · rfl

private theorem rowGlyph?_append (before : List Cell) (x : Nat)
    (apart : ∀ s, row[0]? = some (.name s) → before.getLast? ≠ some (.name s)) :
    rowGlyph? (before ++ row) (before.length + x) = rowGlyph? row x := by
  have here : (before ++ row)[before.length + x]? = row[x]? := by
    rw [List.getElem?_append_right (Nat.le_add_right _ _), Nat.add_sub_cancel_left]
  by_cases named : ∃ s, row[x]? = some (.name s)
  · obtain ⟨s, found⟩ := named
    rw [rowGlyph?_of_named found, rowGlyph?_of_named (here.trans found),
      runBefore_append before found (apart s)]
  · unfold rowGlyph?
    rw [here]
    cases found : row[x]? with
    | none => rfl
    | some cell =>
      cases cell with
      | name s => exact absurd ⟨s, found⟩ named
      | _ => rfl

end Row

/-! ### Lines -/

private theorem isNameChar_of_opensName {c : Char} (opens : opensName c = true) :
    isNameChar c = true := by
  unfold opensName at opens
  unfold isNameChar Char.isAlphanum
  rcases Bool.or_eq_true_iff.mp opens with letter | underscore
  · simp [letter]
  · simp_all

private theorem isNameChar_of_cellAt {c : Char} {rest : List Char} {s : String}
    (named : cellAt c rest = .name s) : isNameChar c = true := by
  unfold cellAt at named
  split_ifs at named with blank letter
  · exact isNameChar_of_opensName letter
  · cases digit : Digit.ofChar? c with
    | some d =>
      rw [digit] at named
      cases named
    | none =>
      have unnamed := name?_symbolCell c
      simp only [digit] at named
      rw [named] at unnamed
      cases unnamed

theorem scanFrom_of_space {chars : List Char} {x : Nat} (run : Option Cell)
    (space : chars[x]? = some ' ') : (scanFrom run chars)[x]? = some .blank := by
  induction chars generalizing run x with
  | nil => cases space
  | cons c rest ih =>
    cases x with
    | zero =>
      have first : c = ' ' := by simpa using space
      rw [first]
      have apart : (run.filter fun _ => isNameChar ' ') = none := by
        cases run <;> rfl
      rw [scanFrom, apart]
      rfl
    | succ x =>
      have later : rest[x]? = some ' ' := space
      unfold scanFrom
      split
      · exact ih _ later
      · exact ih _ later

private theorem scan_of_named {c : Char} {rest : List Char}
    (named : cellAt c rest = .name (String.ofList (c :: rest.takeWhile isNameChar))) :
    scan (c :: rest) =
        List.replicate (c :: rest.takeWhile isNameChar).length
          (.name (String.ofList (c :: rest.takeWhile isNameChar))) ++
          scan (rest.dropWhile isNameChar) ∧
      ∀ s, (scan (rest.dropWhile isNameChar))[0]? ≠ some (.name s) := by
  constructor
  · rw [scan, scanFrom_none_cons, named, Cell.run, scanFrom_some]
    rfl
  · intro s begins
    cases after : rest.dropWhile isNameChar with
    | nil =>
      rw [after] at begins
      cases begins
    | cons d more =>
      rw [after, scan, scanFrom_none_cons] at begins
      have goesOn := isNameChar_of_cellAt (Option.some.inj begins)
      have ends := List.head?_dropWhile_not isNameChar rest
      rw [after] at ends
      simp [goesOn] at ends

theorem rowGlyph?_scan {chars : List Char} {x : Nat} {c : Char} (here : chars[x]? = some c)
    (inked : c ≠ ' ') : rowGlyph? (scan chars) x = some c := by
  induction size : chars.length using Nat.strong_induction_on generalizing chars x with
  | _ n ih =>
    cases chars with
    | nil => cases here
    | cons first rest =>
      rw [List.length_cons] at size
      rcases cellAt_cases first rest with named | ⟨unnamed, text⟩
      · obtain ⟨cells, apart⟩ := scan_of_named named
        have parts : first :: rest =
            (first :: rest.takeWhile isNameChar) ++ rest.dropWhile isNameChar := by
          rw [List.cons_append, List.takeWhile_append_dropWhile]
        rw [cells]
        rw [parts] at here
        by_cases inside : x < (first :: rest.takeWhile isNameChar).length
        · rw [rowGlyph?_replicate _ inside, String.toList_ofList]
          rwa [List.getElem?_append_left inside] at here
        · obtain ⟨k, rfl⟩ := Nat.exists_eq_add_of_le (Nat.le_of_not_lt inside)
          rw [List.getElem?_append_right (Nat.le_add_right _ _), Nat.add_sub_cancel_left] at here
          have shorter : (rest.dropWhile isNameChar).length < n := by
            have dropped := (List.dropWhile_sublist isNameChar (l := rest)).length_le
            omega
          have glyph := rowGlyph?_append
            (List.replicate (first :: rest.takeWhile isNameChar).length
              (.name (String.ofList (first :: rest.takeWhile isNameChar)))) k
            (fun s begins => absurd begins (apart s))
          rw [List.length_replicate] at glyph
          rw [glyph]
          exact ih _ shorter here rfl
      · have cells : scan (first :: rest) = [cellAt first rest] ++ scan rest := by
          rw [scan, scanFrom_none_cons, run_eq_none unnamed]
          rfl
        rw [cells]
        cases x with
        | zero =>
          have same : first = c := by simpa using here
          exact rowGlyph?_of_unnamed rfl unnamed (same ▸ text) inked
        | succ x =>
          have apart : ∀ s, [cellAt first rest].getLast? ≠ some (.name s) := by
            intro s ends
            have last : cellAt first rest = .name s := Option.some.inj ends
            rw [last] at unnamed
            cases unnamed
          have glyph : rowGlyph? ([cellAt first rest] ++ scan rest) (1 + x) = _ :=
            rowGlyph?_append [cellAt first rest] x fun s _ => apart s
          rw [Nat.add_comm x 1, glyph]
          exact ih rest.length (by omega) here rfl

end DigitTrail.Sheet
