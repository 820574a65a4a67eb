import DigitTrail.Proofs.Text.Line
import DigitTrail.Sheet.Basic

/-!
Scanning loses nothing but carriage returns and the blanks that end a line. The cells of a
row spell their line: a name is written once for all the cells that it covers, every other
cell is written as its one character. The rows of a sheet therefore spell the source in its
normal form, and two sources have one sheet exactly if they have one normal form.
-/

set_option autoImplicit false
set_option relaxedAutoImplicit false

namespace DigitTrail.Sheet

/-- Blanks and tabs: at the end of a line they do not count. -/
def isPadding (c : Char) : Bool := c = ' ' || c = '\t'

def endsLine : List Char → Bool
  | [] => true
  | c :: _ => c = '\n'

def tidy : List Char → List Char
  | [] => []
  | c :: rest =>
    if c = '\r' || (isPadding c && endsLine (tidy rest)) then tidy rest
    else c :: tidy rest

def normalise (source : String) : String := String.ofList (tidy source.toList)

/-- Write cells back, each name once for as many cells as it has characters; there is no
such spelling where the cells that a name has to cover do not all hold it. -/
def spell? : List Cell → Option (List Char)
  | [] => some []
  | .name s :: rest =>
    if rest.take (s.length - 1) = List.replicate (s.length - 1) (.name s) then
      (spell? (rest.drop (s.length - 1))).map (s.toList ++ ·)
    else none
  | cell :: rest => (spell? rest).map (cell.text.toList ++ ·)
termination_by cells => cells.length
decreasing_by
  · simp only [List.length_drop, List.length_cons]
    omega
  · simp

/-- The rows written back, a line feed between each two. -/
def spelling? (s : Sheet) : Option String :=
  (s.rows.toList.mapM fun row => spell? row.toList).map fun lines =>
    String.ofList (['\n'].intercalate lines)

/-! ### Rows -/

theorem scanFrom_some (cell : Cell) (line : List Char) :
    scanFrom (some cell) line =
      List.replicate (line.takeWhile isNameChar).length cell ++
        scanFrom none (line.dropWhile isNameChar) := by
  induction line with
  | nil => rfl
  | cons c rest ih =>
    by_cases hc : isNameChar c
    · simp [scanFrom, Option.filter, hc, ih, List.replicate_succ]
    · simp [scanFrom, Option.filter, hc]

theorem scanFrom_none_cons (c : Char) (rest : List Char) :
    scanFrom none (c :: rest) = cellAt c rest :: scanFrom (cellAt c rest).run rest := rfl

private theorem text_symbolCell (c : Char) : (symbolCell c).text = String.singleton c := by
  unfold symbolCell
  cases h : Operator.ofChar? c with
  | some o => simp [Cell.text, Operator.symbol_of_ofChar? h]
  | none => rfl

theorem name?_symbolCell (c : Char) : (symbolCell c).name? = none := by
  unfold symbolCell
  cases Operator.ofChar? c <;> rfl

theorem cellAt_cases (c : Char) (rest : List Char) :
    cellAt c rest = .name (String.ofList (c :: rest.takeWhile isNameChar)) ∨
      ((cellAt c rest).name? = none ∧ (cellAt c rest).text = String.singleton c) := by
  unfold cellAt
  by_cases blank : c = ' '
  · exact .inr (by simp [blank, Cell.name?, Cell.text])
  rw [if_neg blank]
  cases digit : Digit.ofChar? c with
  | some d => exact .inr ⟨rfl, by simp [Cell.text, Digit.text, Digit.toChar_of_ofChar? digit]⟩
  | none =>
    by_cases letter : opensName c
    · simp only [letter, if_true]
      unfold letterCell
      cases alone : if standsAlone rest then Operator.ofChar? c else none with
      | some o =>
        have written : Operator.ofChar? c = some o := (Option.ite_none_right_eq_some.mp alone).2
        exact .inr ⟨rfl, by simp [Cell.text, Operator.symbol_of_ofChar? written]⟩
      | none => exact .inl rfl
    · simp only [letter]
      exact .inr ⟨name?_symbolCell c, text_symbolCell c⟩

private theorem spell?_name (c : Char) (cs : List Char) (rest : List Cell) :
    spell? (.name (String.ofList (c :: cs)) ::
        (List.replicate cs.length (.name (String.ofList (c :: cs))) ++ rest)) =
      (spell? rest).map (c :: cs ++ ·) := by
  rw [spell?]
  simp

private theorem spell?_cons_of_unnamed {cell : Cell} (h : cell.name? = none) (rest : List Cell) :
    spell? (cell :: rest) = (spell? rest).map (cell.text.toList ++ ·) := by
  cases cell <;> simp_all [spell?, Cell.name?]

theorem run_eq_none {cell : Cell} (h : cell.name? = none) : cell.run = none := by
  cases cell <;> simp_all [Cell.run, Cell.name?]

private theorem spell?_scan (line : List Char) : spell? (scan line) = some line := by
  induction size : line.length using Nat.strong_induction_on generalizing line with
  | _ n ih =>
    cases line with
    | nil => rw [scan, scanFrom, spell?]
    | cons c rest =>
      rw [scan, scanFrom_none_cons]
      rcases cellAt_cases c rest with named | ⟨unnamed, text⟩
      · have shorter : (rest.dropWhile isNameChar).length < n := by
          have dropped := (List.dropWhile_sublist isNameChar (l := rest)).length_le
          rw [List.length_cons] at size
          omega
        have spelt := ih _ shorter (rest.dropWhile isNameChar) rfl
        rw [named, Cell.run, scanFrom_some, spell?_name]
        rw [scan] at spelt
        simp [spelt, List.takeWhile_append_dropWhile]
      · have spelt := ih rest.length (by simp [← size]) rest rfl
        rw [scan] at spelt
        rw [run_eq_none unnamed, spell?_cons_of_unnamed unnamed, spelt, text]
        simp

/-! ### Operators -/

private theorem symbol_mem_of_mem_scanFrom {run : Option Cell}
    (named : ∀ cell, run = some cell → cell.operator? = none) {line : List Char} {o : Operator}
    (h : .operator o ∈ scanFrom run line) : o.symbol ∈ line := by
  induction line generalizing run with
  | nil => cases h
  | cons c rest ih =>
    unfold scanFrom at h
    split at h
    · rename_i cell goesOn
      have runs : run = some cell := (Option.filter_eq_some_iff.mp goesOn).1
      rcases List.mem_cons.mp h with rfl | later
      · cases named _ runs
      · refine List.mem_cons_of_mem c (ih (fun cell' same => ?_) later)
        exact named cell' (runs.trans same)
    · rcases List.mem_cons.mp h with first | later
      · rcases cellAt_cases c rest with name | ⟨_, text⟩
        · rw [name] at first
          cases first
        · rw [← first] at text
          have same : o.symbol = c := by simpa [Cell.text] using text
          rw [same]
          exact List.mem_cons_self
      · refine List.mem_cons_of_mem c (ih (fun cell' same => ?_) later)
        cases opened : cellAt c rest <;> rw [opened] at same <;> cases same
        rfl

private theorem mem_of_mem_normalLines {source : String} {line : List Char} {c : Char}
    (h : line ∈ normalLines source) (member : c ∈ line) : c ∈ source.toList := by
  obtain ⟨part, cut, rfl⟩ := List.mem_map.mp h
  have joined : c ∈ ['\n'].intercalate _ :=
    Text.mem_intercalate _ cut ((List.rdropWhile_prefix _ part).subset member)
  rw [List.intercalate_splitOn] at joined
  exact List.mem_of_mem_filter joined

theorem symbol_mem_of_cell {source : String} {p : Plane.Position} {o : Operator}
    (h : (ofText source).cell p = .operator o) : o.symbol ∈ source.toList := by
  unfold cell at h
  split at h
  · rename_i x y _ _
    cases hrow : (ofText source).rows[y]? with
    | none => simp [hrow] at h
    | some row =>
      have listed : row ∈ (ofText source).rows.toList :=
        Array.mem_def.mp (Array.mem_of_getElem? hrow)
      obtain ⟨line, normal, rfl⟩ := List.mem_map.mp listed
      have scanned : .operator o ∈ scan line := by
        cases hcell : (scan line)[x]? with
        | none => simp [hrow, hcell] at h
        | some c =>
          have found : c = .operator o := by simpa [hrow, hcell] using h
          rw [← found]
          exact List.mem_of_getElem? hcell
      have unnamed : ∀ cell, (none : Option Cell) = some cell → cell.operator? = none := by simp
      exact mem_of_mem_normalLines normal (symbol_mem_of_mem_scanFrom unnamed scanned)
  · cases h

/-! ### Normal forms -/

theorem normalLines_eq (source : String) :
    normalLines source =
      ((source.toList.filter (· ≠ '\r')).splitOn '\n').map (List.rdropWhile isPadding) := rfl

private theorem not_mem_normalLines {source : String} {line : List Char}
    (h : line ∈ normalLines source) :
    '\n' ∉ line := by
  obtain ⟨part, cut, rfl⟩ := List.mem_map.mp h
  exact fun feed => Text.not_mem_of_mem_splitOn cut ((List.rdropWhile_prefix _ part).subset feed)

private theorem endsLine_intercalate {line : List Char} (free : '\n' ∉ line)
    (lines : List (List Char)) :
    endsLine (['\n'].intercalate (line :: lines)) = line.isEmpty := by
  cases line with
  | nil => cases lines <;> simp [List.intercalate_cons_cons, endsLine]
  | cons c rest =>
    have other : c ≠ '\n' := by
      rintro rfl
      exact free List.mem_cons_self
    simp [List.intercalate_cons_cons_left, endsLine, other]

private theorem tidy_eq_intercalate (cs : List Char) :
    tidy cs = ['\n'].intercalate
      (((cs.filter (· ≠ '\r')).splitOn '\n').map (List.rdropWhile isPadding)) := by
  induction cs with
  | nil => rfl
  | cons c rest ih =>
    rw [tidy]
    by_cases ret : c = '\r'
    · simp [ret, ih]
    rw [List.filter_cons_of_pos (by simpa using ret)]
    by_cases feed : c = '\n'
    · rw [feed, Text.splitOn_cons_self, List.map_cons,
        List.intercalate_cons_of_ne_nil (by simp [List.splitOn_ne_nil]), ← ih]
      simp [isPadding]
    · obtain ⟨line, lines, cut⟩ := Text.splitOn_cases '\n' (rest.filter (· ≠ '\r'))
      have free : '\n' ∉ line.rdropWhile isPadding := fun h =>
        Text.not_mem_of_mem_splitOn (cut ▸ List.mem_cons_self)
          ((List.rdropWhile_prefix _ line).subset h)
      rw [cut, List.map_cons] at ih
      rw [Text.splitOn_cons_of_ne feed cut, List.map_cons, Text.rdropWhile_cons, ih,
        endsLine_intercalate free, Bool.and_comm]
      simp only [ret, decide_false, Bool.false_or]
      split_ifs with goes
      · have bare : line.rdropWhile isPadding = [] := by simp_all
        rw [bare]
      · rw [List.intercalate_cons_cons_left]

private theorem normalise_toList (source : String) :
    (normalise source).toList = ['\n'].intercalate (normalLines source) := by
  rw [normalise, String.toList_ofList, tidy_eq_intercalate, normalLines_eq]

private theorem lines_normalise (source : String) :
    Text.lines (normalise source) = normalLines source := by
  have nonempty : normalLines source ≠ [] := by simp [normalLines, List.splitOn_ne_nil]
  rw [Text.lines, normalise_toList]
  exact List.splitOn_intercalate '\n' (fun line h => not_mem_normalLines h) nonempty

example : normalise "3 v \r\t\n\r\n \t1 \r" = "3 v\n\n \t1" := by decide

private theorem not_mem_tidy (cs : List Char) : '\r' ∉ tidy cs := by
  fun_induction tidy cs with
  | case1 => simp
  | case2 c rest drop ih => exact ih
  | case3 c rest keep ih =>
    simp only [Bool.or_eq_true, decide_eq_true_eq, not_or] at keep
    simp [ih, Ne.symm keep.1]

private theorem normalLines_normalise (source : String) :
    normalLines (normalise source) = normalLines source := by
  have unreturned : (normalise source).toList.filter (· ≠ '\r') = (normalise source).toList := by
    rw [normalise, String.toList_ofList, List.filter_eq_self]
    intro c h
    simpa using ne_of_mem_of_not_mem h (not_mem_tidy source.toList)
  calc normalLines (normalise source)
      = (Text.lines (normalise source)).map (List.rdropWhile isPadding) := by
        rw [normalLines_eq, unreturned, Text.lines]
    _ = normalLines source := by
        rw [lines_normalise, normalLines_eq, List.map_map]
        refine List.map_congr_left fun line _ => ?_
        exact List.rdropWhile_idempotent isPadding line

private theorem rows_ofText (source : String) :
    (ofText source).rows.toList = (Text.lines (normalise source)).map fun line =>
      (scan line).toArray := by
  rw [lines_normalise]
  rfl

private theorem spell?_rows_ofText (source : String) :
    (ofText source).rows.toList.map (fun row => spell? row.toList) =
      (Text.lines (normalise source)).map some := by
  simp [rows_ofText, spell?_scan, Function.comp_def]

private theorem spelling?_ofText (source : String) :
    (ofText source).spelling? = some (normalise source) := by
  have spelt : (ofText source).rows.toList.mapM (fun row => spell? row.toList) =
      some (Text.lines (normalise source)) := by
    rw [rows_ofText, List.mapM_map]
    simp only [Function.comp_def, spell?_scan]
    simpa using List.mapM_pure (m := Option) (l := Text.lines (normalise source)) (f := id)
  rw [spelling?, spelt, Option.map_some, lines_normalise, ← normalise_toList, String.ofList_toList]

/-- The rows of a sheet have one cell for each character of the lines of the source in normal
form and spell them, so a sheet determines the normal form of its sources and is determined
by it. -/
theorem sheet_spells_normal_form (source : String) :
    (ofText source).rows.toList.map Array.size =
        (Text.lines (normalise source)).map List.length ∧
      (ofText source).rows.toList.map (fun row => spell? row.toList) =
        (Text.lines (normalise source)).map some ∧
      (ofText source).spelling? = some (normalise source) ∧
      ofText (normalise source) = ofText source ∧
      ∀ other, ofText other = ofText source ↔ normalise other = normalise source := by
  have rescanned : ∀ text, ofText (normalise text) = ofText text := by
    intro text
    rw [ofText, normalLines_normalise, ofText]
  refine ⟨?_, spell?_rows_ofText source, spelling?_ofText source, rescanned source, ?_⟩
  · simp [rows_ofText, Function.comp_def]
  intro other
  constructor
  · intro same
    have spelt := spelling?_ofText other
    rw [same, spelling?_ofText] at spelt
    exact (Option.some.inj spelt).symm
  · intro same
    rw [← rescanned other, same, rescanned]

end DigitTrail.Sheet
