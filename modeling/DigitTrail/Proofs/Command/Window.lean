import DigitTrail.Command.Window
import DigitTrail.Proofs.Program.Synchrony
import DigitTrail.Proofs.Program.Tokens
import DigitTrail.Proofs.Sheet.Glyph

/-!
What is shown and what is walked on. A page keeps the carriage returns inside its lines, a
sheet has none, so the two have the same columns exactly if the returns of every line stand
where the line ends. On such a source the window after a step that moved holds, between its
brackets, the digit that the step found.
-/

set_option autoImplicit false
set_option relaxedAutoImplicit false

namespace DigitTrail.Command

open Plane (Position)
open Program (Machine)

/-- Nothing follows the first carriage return of a line but carriage returns, blanks and tabs. -/
def endsInReturns (line : List Char) : Bool :=
  (line.dropWhile (· ≠ '\r')).all fun c => c = '\r' || Sheet.isPadding c

/-- What a window of some radius holds in its middle: there are two columns of three characters
on the left for every row above. -/
def middle? (radius : Nat) (text : String) : Option (List Char) :=
  ((Text.lines text)[radius]?).map fun line => (line.drop (6 * radius)).take 3

/-- The limits of a window are integers of sixty-four bits, so that none overflows. -/
structure HasRoom (cursor : Position) (radius : Nat) : Prop where
  above : Int64.minValue.toInt ≤ cursor.y.toInt - radius
  below : cursor.y.toInt + radius ≤ Int64.maxValue.toInt
  left : Int64.minValue.toInt ≤ cursor.x.toInt - (2 * radius : Nat)
  right : cursor.x.toInt + (2 * radius : Nat) ≤ Int64.maxValue.toInt

/-- A row of a neighbourhood as it is laid out, with the brackets in the middle of the middle row.
Rows and columns are counted from the top left. -/
def layoutRow (page : Page) (cursor : Position) (radius row : Nat) : List Char :=
  (List.range (4 * radius + 1)).flatMap fun (column : Nat) =>
    let c := page.char (cursor.x.toInt - 2 * radius + column) (cursor.y.toInt - radius + row)
    if column = 2 * radius ∧ row = radius then ['[', c, ']'] else [' ', c, ' ']

/-- The rows of a neighbourhood, each without the spaces at its end. -/
def trimmedRows (page : Page) (cursor : Position) (radius : Nat) : List (List Char) :=
  (List.range (2 * radius + 1)).map fun row =>
    (layoutRow page cursor radius row).rdropWhile (· = ' ')

/-! ### Lines of a page and lines of a sheet -/

def scannedLine (line : List Char) : List Char :=
  (line.filter (· ≠ '\r')).rdropWhile Sheet.isPadding

def shownLine (line : List Char) : List Char := line.rdropWhile (· = '\r')

private theorem normalLines_eq_map (source : String) :
    Sheet.normalLines source = (Text.lines source).map scannedLine := by
  rw [Sheet.normalLines_eq, Text.splitOn_filter (by decide), List.map_map]
  rfl

/-- A line shows in every column what is scanned there, unless that is a space. -/
def ColumnsAgree (line : List Char) : Prop :=
  ∀ (x : Nat) (c : Char), (scannedLine line)[x]? = some c → c ≠ ' ' →
    (shownLine line)[x]? = some c

section Columns

variable {line before after : List Char} {x : Nat} {c : Char}

private theorem filter_of_free (free : '\r' ∉ line) : line.filter (· ≠ '\r') = line := by
  rw [List.filter_eq_self]
  intro d member
  simpa using ne_of_mem_of_not_mem member free

private theorem scannedLine_append (free : '\r' ∉ before) (after : List Char) :
    scannedLine (before ++ '\r' :: after) =
      (before ++ after.filter (· ≠ '\r')).rdropWhile Sheet.isPadding := by
  unfold scannedLine
  rw [List.filter_append, filter_of_free free, List.filter_cons_of_neg (by decide)]

private theorem endsInReturns_append (free : '\r' ∉ before) (after : List Char) :
    endsInReturns (before ++ '\r' :: after) = true ↔
      ∀ c ∈ after, c ≠ '\r' → Sheet.isPadding c = true := by
  unfold endsInReturns
  rw [Text.dropWhile_ne_append free, List.all_cons]
  simp [List.all_eq_true, or_iff_not_imp_left]

private theorem endsInReturns_of_free (free : '\r' ∉ line) : endsInReturns line = true := by
  unfold endsInReturns
  have none : line.dropWhile (· ≠ '\r') = [] := by
    rw [List.dropWhile_eq_nil_iff]
    intro d member
    simpa using ne_of_mem_of_not_mem member free
  rw [none]
  rfl

private theorem getElem?_shownLine_append (free : '\r' ∉ before) (rest : List Char)
    (scanned : before[x]? = some c) : (shownLine (before ++ rest))[x]? = some c := by
  have kept : c ≠ '\r' := ne_of_mem_of_not_mem (List.mem_of_getElem? scanned) free
  obtain ⟨inside, _⟩ := List.getElem?_eq_some_iff.mp scanned
  refine Text.getElem?_rdropWhile _ (by simpa using kept) ?_
  rw [List.getElem?_append_left inside]
  exact scanned

private theorem columnsAgree_of_free (free : '\r' ∉ line) : ColumnsAgree line := by
  intro x c scanned _
  unfold scannedLine at scanned
  rw [filter_of_free free] at scanned
  rw [← List.append_nil line]
  exact getElem?_shownLine_append free [] (Text.getElem?_of_rdropWhile _ scanned)

private theorem columnsAgree_of_padding (free : '\r' ∉ before)
    (padded : ∀ c ∈ after, c ≠ '\r' → Sheet.isPadding c = true) :
    ColumnsAgree (before ++ '\r' :: after) := by
  intro x c scanned _
  have padding : ∀ c ∈ after.filter (· ≠ '\r'), Sheet.isPadding c = true := by
    intro c member
    obtain ⟨later, other⟩ := List.mem_filter.mp member
    exact padded c later (by simpa using other)
  rw [scannedLine_append free, Text.rdropWhile_append_of_forall _ _ padding] at scanned
  exact getElem?_shownLine_append free _ (Text.getElem?_of_rdropWhile _ scanned)

private theorem exists_lt_scannedLine (free : '\r' ∉ before) (beyond : before.length ≤ x)
    (kept : c ≠ '\r') (scanned : (scannedLine (before ++ '\r' :: after))[x]? = some c)
    (shown : (shownLine (before ++ '\r' :: after))[x]? = some c) :
    ∃ k < x, before.length ≤ k ∧ (scannedLine (before ++ '\r' :: after))[k]? = some c := by
  have written := Text.getElem?_of_rdropWhile _ shown
  rw [List.getElem?_append_right beyond] at written
  obtain ⟨place, here⟩ : ∃ place, x - before.length = place + 1 := by
    cases offset : x - before.length with
    | zero =>
      rw [offset] at written
      exact absurd (Option.some.inj written).symm kept
    | succ place => exact ⟨place, rfl⟩
  rw [here] at written
  change after[place]? = some c at written
  obtain ⟨k, early, found⟩ :=
    Text.exists_le_getElem?_filter (· ≠ '\r') (by simpa using kept) written
  have left : before.length + k < x := by omega
  refine ⟨before.length + k, left, Nat.le_add_right _ _, ?_⟩
  rw [scannedLine_append free] at scanned ⊢
  obtain ⟨rest, joined⟩ := List.rdropWhile_prefix Sheet.isPadding
    (l := before ++ after.filter (· ≠ '\r'))
  obtain ⟨inside, _⟩ := List.getElem?_eq_some_iff.mp scanned
  have whole : (before ++ after.filter (· ≠ '\r'))[before.length + k]? = some c := by
    rw [List.getElem?_append_right (Nat.le_add_right _ _), Nat.add_sub_cancel_left]
    exact found
  rw [← joined] at whole
  exact (List.getElem?_append_left (Nat.lt_trans left inside)).symm.trans whole

private theorem ColumnsAgree.eq_space (agree : ColumnsAgree (before ++ '\r' :: after))
    (free : '\r' ∉ before) (kept : c ≠ '\r') (beyond : before.length ≤ x)
    (scanned : (scannedLine (before ++ '\r' :: after))[x]? = some c) : c = ' ' := by
  -- What is scanned here is shown here, hence scanned further to the left: a descent.
  induction x using Nat.strong_induction_on with
  | _ x ih =>
    by_contra inked
    obtain ⟨k, nearer, beyond', scanned'⟩ :=
      exists_lt_scannedLine free beyond kept scanned (agree x c scanned inked)
    exact inked (ih k nearer beyond' scanned')

private theorem ColumnsAgree.padding (agree : ColumnsAgree (before ++ '\r' :: after))
    (free : '\r' ∉ before) (member : c ∈ after) (kept : c ≠ '\r') : Sheet.isPadding c = true := by
  by_contra inked
  have filtered : c ∈ after.filter (· ≠ '\r') := by simp [member, kept]
  obtain ⟨k, found⟩ := List.mem_iff_getElem?.mp filtered
  have scanned : (scannedLine (before ++ '\r' :: after))[before.length + k]? = some c := by
    rw [scannedLine_append free]
    refine Text.getElem?_rdropWhile _ (by simpa using inked) ?_
    rw [List.getElem?_append_right (Nat.le_add_right _ _), Nat.add_sub_cancel_left]
    exact found
  rw [agree.eq_space free kept (Nat.le_add_right _ _) scanned] at inked
  exact inked rfl

private theorem columnsAgree_iff (line : List Char) :
    ColumnsAgree line ↔ endsInReturns line = true := by
  by_cases returns : '\r' ∈ line
  · obtain ⟨before, after, rfl, free⟩ := List.eq_append_cons_of_mem returns
    rw [endsInReturns_append free]
    constructor
    · intro agree c member kept
      exact agree.padding free member kept
    · intro padded
      exact columnsAgree_of_padding free padded
  · simp only [columnsAgree_of_free returns, endsInReturns_of_free returns]

end Columns

/-! ### Cells of a page and cells of a sheet -/

section Cells

variable {source : String} {line : List Char} {c : Char} {x y : Nat}

private theorem char_ofText (source : String) (x y : Nat) :
    (Page.ofText source).char x y =
      (((Text.lines source)[y]?).bind fun line => (shownLine line)[x]?).getD ' ' := by
  have inside : ¬ ((x : Int) < 0 ∨ (y : Int) < 0) := by omega
  unfold Page.char
  rw [if_neg inside]
  simp only [Page.ofText, Int.toNat_natCast, List.getElem?_toArray, List.getElem?_map,
    Option.bind_map, Function.comp_def]
  rfl

private theorem rows_ofText_getElem? (source : String) (y : Nat) :
    (Sheet.ofText source).rows[y]? =
      ((Text.lines source)[y]?).map fun line => (Sheet.scan (scannedLine line)).toArray := by
  simp only [Sheet.ofText, normalLines_eq_map, List.getElem?_toArray, List.getElem?_map,
    Option.map_map, Function.comp_def]

private theorem glyph?_of_path {s : Sheet} {p : Position} {d : Digit} (here : s.cell p = .path d) :
    s.glyph? p.x.toInt p.y.toInt = some d.toChar := by
  rw [Sheet.cell_eq_tokenAt] at here
  unfold Sheet.tokenAt at here
  unfold Sheet.glyph?
  split_ifs at here ⊢ with inside
  cases found : s.rows[p.y.toInt.toNat]? with
  | none =>
    rw [found] at here
    cases here
  | some row =>
    rw [found, Option.bind_some] at here
    rw [Option.bind_some]
    cases cell : row[p.x.toInt.toNat]? with
    | none =>
      rw [cell] at here
      cases here
    | some token =>
      rw [cell, Option.getD_some] at here
      rw [here] at cell
      unfold Sheet.rowGlyph?
      rw [Array.getElem?_toList, cell]

private theorem glyph?_of_scannedLine (found : (Text.lines source)[y]? = some line)
    (scanned : (scannedLine line)[x]? = some c) (inked : c ≠ ' ') :
    (Sheet.ofText source).glyph? x y = some c := by
  have inside : 0 ≤ (x : Int) ∧ 0 ≤ (y : Int) := by omega
  unfold Sheet.glyph?
  rw [if_pos inside, Int.toNat_natCast, Int.toNat_natCast, rows_ofText_getElem?, found]
  exact Sheet.rowGlyph?_scan scanned inked

private theorem tokenAt_ofText (source : String) (x y : Nat) :
    (Sheet.ofText source).tokenAt x y =
      (((Text.lines source)[y]?).bind fun line => (Sheet.scan (scannedLine line))[x]?).getD
        .blank := by
  have inside : 0 ≤ (x : Int) ∧ 0 ≤ (y : Int) := by omega
  unfold Sheet.tokenAt
  rw [if_pos inside, Int.toNat_natCast, Int.toNat_natCast, rows_ofText_getElem?, Option.bind_map]
  simp only [Function.comp_def, List.getElem?_toArray]

private theorem exists_scannedLine_of_tokenAt
    (written : (Sheet.ofText source).tokenAt x y ≠ .blank) :
    ∃ line c, (Text.lines source)[y]? = some line ∧ (scannedLine line)[x]? = some c ∧ c ≠ ' ' := by
  rw [tokenAt_ofText] at written
  cases found : (Text.lines source)[y]? with
  | none =>
    rw [found] at written
    exact absurd rfl written
  | some line =>
    rw [found, Option.bind_some] at written
    cases scanned : (scannedLine line)[x]? with
    | none =>
      have beyond : (Sheet.scan (scannedLine line))[x]? = none := by
        rw [List.getElem?_eq_none_iff, Sheet.length_scan]
        exact List.getElem?_eq_none_iff.mp scanned
      rw [beyond] at written
      exact absurd rfl written
    | some c =>
      refine ⟨line, c, rfl, scanned, ?_⟩
      rintro rfl
      have blank : (Sheet.scan (scannedLine line))[x]? = some .blank :=
        Sheet.scanFrom_of_space none scanned
      rw [blank] at written
      exact absurd rfl written

private theorem tokenAt_ne_blank (found : (Text.lines source)[y]? = some line)
    (scanned : (scannedLine line)[x]? = some c) (inked : c ≠ ' ') :
    (Sheet.ofText source).tokenAt x y ≠ .blank := by
  intro blank
  rw [tokenAt_ofText, found, Option.bind_some] at blank
  have glyph := Sheet.rowGlyph?_scan scanned inked
  rw [Sheet.rowGlyph?_of_blank blank] at glyph
  cases glyph

theorem le_length_of_scannedLine (found : (Text.lines source)[y]? = some line)
    (scanned : (scannedLine line)[x]? = some c) : x < source.length ∧ y ≤ source.length := by
  have size : source.length = source.toList.length := String.length_toList.symm
  obtain ⟨few, short⟩ := Text.length_splitOn_le '\n' source.toList
  have fits := short line (List.mem_of_getElem? found)
  have kept : (line.filter (· ≠ '\r')).length ≤ line.length := List.length_filter_le _ line
  obtain ⟨column, _⟩ := List.getElem?_eq_some_iff.mp (Text.getElem?_of_rdropWhile _ scanned)
  obtain ⟨row, _⟩ := List.getElem?_eq_some_iff.mp found
  change y < (source.toList.splitOn '\n').length at row
  omega

theorem exists_scannedLine_of_cell {p : Position}
    (written : (Sheet.ofText source).cell p ≠ .blank) :
    ∃ (x y : Nat) (line : List Char) (c : Char), p.x.toInt = x ∧ p.y.toInt = y ∧
      (Text.lines source)[y]? = some line ∧ (scannedLine line)[x]? = some c ∧ c ≠ ' ' := by
  rw [Sheet.cell_eq_tokenAt] at written
  have inside : 0 ≤ p.x.toInt ∧ 0 ≤ p.y.toInt := by
    by_contra outside
    exact written (if_neg outside)
  obtain ⟨x, column⟩ := Int.eq_ofNat_of_zero_le inside.1
  obtain ⟨y, row⟩ := Int.eq_ofNat_of_zero_le inside.2
  rw [column, row] at written
  obtain ⟨line, c, found, scanned, inked⟩ := exists_scannedLine_of_tokenAt written
  exact ⟨x, y, line, c, column, row, found, scanned, inked⟩

private theorem char_eq_glyph_iff (short : source.length < Nat.pow 2 63) :
    (∀ p : Position, (Sheet.ofText source).cell p ≠ .blank →
        (Sheet.ofText source).glyph? p.x.toInt p.y.toInt =
          some ((Page.ofText source).char p.x.toInt p.y.toInt)) ↔
      ∀ line ∈ Text.lines source, ColumnsAgree line := by
  constructor
  · intro shows line member x c scanned inked
    obtain ⟨y, found⟩ := List.mem_iff_getElem?.mp member
    obtain ⟨wide, tall⟩ := le_length_of_scannedLine found scanned
    have column : (Int64.ofNat x).toInt = x :=
      Int64.toInt_ofNat_of_lt (Nat.lt_trans wide short)
    have row : (Int64.ofNat y).toInt = y := Int64.toInt_ofNat_of_lt (Nat.lt_of_le_of_lt tall short)
    have written := tokenAt_ne_blank found scanned inked
    have shown := shows ⟨Int64.ofNat x, Int64.ofNat y⟩
    rw [Sheet.cell_eq_tokenAt] at shown
    dsimp only at shown
    rw [column, row, glyph?_of_scannedLine found scanned inked, char_ofText, found,
      Option.bind_some] at shown
    cases here : (shownLine line)[x]? with
    | none =>
      rw [here] at shown
      exact absurd (Option.some.inj (shown written)) inked
    | some d =>
      rw [here] at shown
      exact (shown written).symm
  · intro agree p written
    obtain ⟨x, y, line, c, column, row, found, scanned, inked⟩ := exists_scannedLine_of_cell written
    have shown := agree line (List.mem_of_getElem? found) x c scanned inked
    rw [column, row, glyph?_of_scannedLine found scanned inked, char_ofText, found,
      Option.bind_some, shown]
    rfl

end Cells

/-! ### Windows -/

section Windows

variable {page : Page} {cursor : Position} {radius : Nat}

private theorem around_of_room {centre : Int64} {reach : Nat}
    (low : Int64.minValue.toInt ≤ centre.toInt - reach)
    (high : centre.toInt + reach ≤ Int64.maxValue.toInt) :
    around centre reach =
      .ok ((List.range (2 * reach + 1)).map fun (k : Nat) => centre.toInt - reach + k) := by
  obtain ⟨lo, first, least⟩ := Number.checked_of_fits low (by omega) .difference
  obtain ⟨hi, last, most⟩ := Number.checked_of_fits (by omega) high .sum
  have size : (hi.toInt - lo.toInt + 1).toNat = 2 * reach + 1 := by omega
  unfold around
  rw [first, last]
  show Except.ok (interval lo hi) = _
  rw [interval, size, least]

private theorem around_of_overflow {centre : Int64} {reach : Nat}
    (outside : ¬ (Int64.minValue.toInt ≤ centre.toInt - reach ∧
      centre.toInt + reach ≤ Int64.maxValue.toInt)) :
    ∃ cause, around centre reach = .error cause := by
  unfold around
  by_cases low : Int64.minValue.toInt ≤ centre.toInt - reach
  · have least := Int64.minValue_le_toInt centre
    have most := Int64.toInt_le centre
    obtain ⟨lo, first, _⟩ := Number.checked_of_fits low (by omega) .difference
    refine ⟨.sum, ?_⟩
    rw [first, Number.checked_of_outside (by omega)]
    rfl
  · refine ⟨.difference, ?_⟩
    rw [Number.checked_of_outside (by omega)]
    rfl

private theorem windowRow_of_room (page : Page) (room : HasRoom cursor radius) (row : Nat) :
    windowRow page cursor radius (cursor.y.toInt - radius + row) =
      .ok (layoutRow page cursor radius row) := by
  have wide : 2 * (2 * radius) + 1 = 4 * radius + 1 := by omega
  unfold windowRow layoutRow
  rw [around_of_room room.left room.right, wide]
  show Except.ok (List.flatMap _ _) = _
  rw [List.flatMap_map]
  congr 1
  apply List.flatMap_congr
  intro column _
  have place : cursor.x.toInt - (2 * radius : Nat) + column =
      cursor.x.toInt - 2 * radius + column := by omega
  have middle : (cursor.x.toInt - 2 * radius + column = cursor.x.toInt ∧
      cursor.y.toInt - radius + row = cursor.y.toInt) ↔ column = 2 * radius ∧ row = radius := by
    omega
  unfold windowCell
  simp only [place, middle]

private theorem reverse_endRow {written : List Char} (ended : written.head? ≠ some ' ')
    (row : List Char) :
    (endRow written row).reverse =
      written.reverse ++ (row.rdropWhile (· = ' ') ++ ['\n']) := by
  have whole : written.dropWhile (· = ' ') = written := by
    cases written with
    | nil => rfl
    | cons c rest =>
      have other : c ≠ ' ' := by simpa using ended
      simp [other]
  unfold endRow List.rdropWhile
  rw [List.dropWhile_append, whole]
  split_ifs with bare
  · rw [List.isEmpty_iff.mp bare]
    simp
  · simp

/-- Dropping the spaces at the end of all that is written drops those of the last row alone. -/
private theorem reverse_foldl_endRow (rows : List (List Char)) {written : List Char}
    (ended : written.head? ≠ some ' ') :
    (rows.foldl endRow written).reverse =
      written.reverse ++ rows.flatMap fun row => row.rdropWhile (· = ' ') ++ ['\n'] := by
  induction rows generalizing written with
  | nil => simp
  | cons row rows ih =>
    have feeds : (endRow written row).head? ≠ some ' ' := by simp [endRow]
    rw [List.foldl_cons, ih feeds, reverse_endRow ended, List.flatMap_cons, List.append_assoc]

private theorem foldlM_endRow {rows : List Int} {row : Int → Except Number.Overflow (List Char)}
    (cells : Int → List Char) (written : List Char) (ok : ∀ y ∈ rows, row y = .ok (cells y)) :
    rows.foldlM (fun written y => return endRow written (← row y)) written =
      .ok ((rows.map cells).foldl endRow written) := by
  induction rows generalizing written with
  | nil => rfl
  | cons y rows ih =>
    rw [List.foldlM_cons, ok y List.mem_cons_self]
    exact ih _ fun z later => ok z (List.mem_cons_of_mem y later)

theorem window_of_room (page : Page) (room : HasRoom cursor radius) :
    window page cursor radius = .ok (String.ofList
      ((trimmedRows page cursor radius).flatMap fun line => line ++ ['\n'])) := by
  have rows := around_of_room room.above room.below
  have laid (k : Nat) : (cursor.y.toInt - radius + k - (cursor.y.toInt - radius)).toNat = k := by
    omega
  have written := foldlM_endRow
    (fun y => layoutRow page cursor radius (y - (cursor.y.toInt - radius)).toNat) [] (by
      intro y (listed : y ∈ (List.range (2 * radius + 1)).map
        fun (k : Nat) => cursor.y.toInt - radius + k)
      obtain ⟨k, _, rfl⟩ := List.mem_map.mp listed
      rw [laid]
      exact windowRow_of_room page room k)
  unfold window
  rw [rows]
  show ((List.foldlM _ _ _ : Except Number.Overflow (List Char)) >>= _) = _
  rw [written]
  show Except.ok (String.ofList (List.foldl endRow [] _).reverse) = _
  rw [reverse_foldl_endRow _ (by simp), List.map_map, List.flatMap_map, trimmedRows,
    List.flatMap_map]
  simp only [Function.comp_apply, laid, List.reverse_nil, List.nil_append]

theorem window_of_overflow (page : Page) (outside : ¬ HasRoom cursor radius) :
    ∃ cause, window page cursor radius = .error cause := by
  unfold window
  by_cases rows : Int64.minValue.toInt ≤ cursor.y.toInt - radius ∧
      cursor.y.toInt + radius ≤ Int64.maxValue.toInt
  · have columns : ¬ (Int64.minValue.toInt ≤ cursor.x.toInt - (2 * radius : Nat) ∧
        cursor.x.toInt + (2 * radius : Nat) ≤ Int64.maxValue.toInt) := fun columns =>
      outside ⟨rows.1, rows.2, columns.1, columns.2⟩
    obtain ⟨cause, overflows⟩ := around_of_overflow columns
    refine ⟨cause, ?_⟩
    rw [around_of_room rows.1 rows.2, List.range_succ_eq_map, List.map_cons]
    show ((List.foldlM _ _ (_ :: _) : Except Number.Overflow (List Char)) >>= _) = _
    rw [List.foldlM_cons, windowRow, overflows]
    rfl
  · obtain ⟨cause, overflows⟩ := around_of_overflow rows
    refine ⟨cause, ?_⟩
    rw [overflows]
    rfl

theorem window_overflows_iff (page : Page) (cursor : Position) (radius : Nat) :
    (∃ cause, window page cursor radius = .error cause) ↔ ¬ HasRoom cursor radius := by
  refine ⟨?_, window_of_overflow page⟩
  rintro ⟨cause, overflows⟩ room
  rw [window_of_room page room] at overflows
  cases overflows

private theorem not_mem_layoutRow (unfed : ∀ x y, page.char x y ≠ '\n') (row : Nat) :
    '\n' ∉ layoutRow page cursor radius row := by
  intro feed
  obtain ⟨column, _, member⟩ := List.mem_flatMap.mp feed
  have other := unfed (cursor.x.toInt - 2 * radius + column) (cursor.y.toInt - radius + row)
  dsimp only at member
  split_ifs at member with here
  · simp [other.symm] at member
  · simp [other.symm] at member

private theorem layoutRow_middle (page : Page) (cursor : Position) (radius : Nat) :
    ∃ before after, layoutRow page cursor radius radius =
        before ++ '[' :: page.char cursor.x.toInt cursor.y.toInt :: ']' :: after ∧
      before.length = 6 * radius := by
  have size : 4 * radius + 1 = 2 * radius + (2 * radius + 1) := by omega
  have column : cursor.x.toInt - 2 * radius + (2 * radius + 0 : Nat) = cursor.x.toInt := by omega
  have row : cursor.y.toInt - radius + radius = cursor.y.toInt := by omega
  unfold layoutRow
  rw [size, List.range_add, List.flatMap_append, List.range_succ_eq_map, List.map_cons,
    List.flatMap_cons]
  dsimp only
  rw [if_pos ⟨Nat.add_zero _, rfl⟩, column, row]
  refine ⟨_, _, rfl, ?_⟩
  rw [List.length_flatMap, List.map_congr_left (g := fun _ => 3), List.map_const',
    List.sum_replicate_nat, List.length_range]
  · omega
  · intro k _
    split <;> rfl

private theorem take_trimmed_middle (page : Page) (cursor : Position) (radius : Nat) :
    (((layoutRow page cursor radius radius).rdropWhile (· = ' ')).drop (6 * radius)).take 3 =
      ['[', page.char cursor.x.toInt cursor.y.toInt, ']'] := by
  obtain ⟨before, after, cells, width⟩ := layoutRow_middle page cursor radius
  have kept : (layoutRow page cursor radius radius).rdropWhile (· = ' ') =
      before ++ '[' :: page.char cursor.x.toInt cursor.y.toInt :: ']' ::
        after.rdropWhile (· = ' ') := by
    have closes := Text.rdropWhile_append_cons (· = ' ') (c := ']') (by decide)
      (before ++ ['[', page.char cursor.x.toInt cursor.y.toInt]) after
    rw [List.append_assoc, List.append_assoc] at closes
    rw [cells]
    exact closes
  rw [kept, ← width, List.drop_left]
  rfl

theorem not_mem_trimmedRows (unfed : ∀ x y, page.char x y ≠ '\n') {line : List Char}
    (member : line ∈ trimmedRows page cursor radius) : '\n' ∉ line := by
  obtain ⟨row, _, rfl⟩ := List.mem_map.mp member
  exact fun feed => not_mem_layoutRow unfed row ((List.rdropWhile_prefix _ _).subset feed)

theorem getElem?_trimmedRows_middle (page : Page) (cursor : Position) (radius : Nat) :
    ((trimmedRows page cursor radius)[radius]?).map (fun line => (line.drop (6 * radius)).take 3) =
      some ['[', page.char cursor.x.toInt cursor.y.toInt, ']'] := by
  unfold trimmedRows
  rw [List.getElem?_map, List.getElem?_range (by omega), Option.map_some, Option.map_some,
    take_trimmed_middle]

theorem middle?_of_room (unfed : ∀ x y, page.char x y ≠ '\n') (room : HasRoom cursor radius) :
    ∃ text, window page cursor radius = .ok text ∧
      middle? radius text = some ['[', page.char cursor.x.toInt cursor.y.toInt, ']'] := by
  refine ⟨_, window_of_room page room, ?_⟩
  have cut : Text.lines (String.ofList
      ((trimmedRows page cursor radius).flatMap fun line => line ++ ['\n'])) =
      trimmedRows page cursor radius ++ [[]] := by
    rw [Text.lines, String.toList_ofList, ← Text.intercalate_concat_nil]
    refine List.splitOn_intercalate '\n' ?_ (by simp)
    intro line member
    rcases List.mem_append.mp member with laid | last
    · exact not_mem_trimmedRows unfed laid
    · rw [List.mem_singleton.mp last]
      exact List.not_mem_nil
  have inside : radius < (trimmedRows page cursor radius).length := by
    rw [trimmedRows, List.length_map, List.length_range]
    omega
  unfold middle?
  rw [cut, List.getElem?_append_left inside, getElem?_trimmedRows_middle]

end Windows

/-! ### Sources that are shown as they are walked on -/

theorem char_ofText_ne_feed (source : String) (x y : Int) :
    (Page.ofText source).char x y ≠ '\n' := by
  by_cases outside : x < 0 ∨ y < 0
  · rw [Page.char, if_pos outside]
    decide
  · obtain ⟨column, rfl⟩ := Int.eq_ofNat_of_zero_le (a := x) (by omega)
    obtain ⟨row, rfl⟩ := Int.eq_ofNat_of_zero_le (a := y) (by omega)
    rw [char_ofText]
    cases shown : ((Text.lines source)[row]?).bind fun line => (shownLine line)[column]? with
    | none => decide
    | some c =>
      obtain ⟨line, found, here⟩ := Option.bind_eq_some_iff.mp shown
      have free := Text.not_mem_of_mem_splitOn (List.mem_of_getElem? found)
      have member := List.mem_of_getElem? (Text.getElem?_of_rdropWhile _ here)
      exact ne_of_mem_of_not_mem member free

/-- A page shows the glyphs of its sheet, in all columns that are not blank, exactly if the
carriage returns of each line of the source end it. On such a source, whatever machine walks
there and however far the window reaches, a step that moves is followed by a window with the
digit that the step found between its brackets. -/
theorem page_shows_glyphs_iff_returns_end_lines {ε : Type} [Entropy ε] {source : String}
    {radius : Nat} (short : source.length + 2 * radius < Nat.pow 2 63) :
    ((∀ p : Position, (Sheet.ofText source).cell p ≠ .blank →
        (Sheet.ofText source).glyph? p.x.toInt p.y.toInt =
          some ((Page.ofText source).char p.x.toInt p.y.toInt)) ↔
      ∀ line ∈ Text.lines source, endsInReturns line = true) ∧
    ((∀ line ∈ Text.lines source, endsInReturns line = true) →
      ∀ (m : Machine ε) (dir : Plane.Direction) (d : Digit),
        m.sheet = .ofText source → m.tick.1 = .moved dir d →
        ∃ text, window (Page.ofText source) m.step.2.walker.cursor.position radius = .ok text ∧
          middle? radius text = some ['[', d.toChar, ']']) := by
  have columns : (∀ line ∈ Text.lines source, ColumnsAgree line) ↔
      ∀ line ∈ Text.lines source, endsInReturns line = true := by
    simp only [columnsAgree_iff]
  have counted : source.length < Nat.pow 2 63 := by omega
  have shows := char_eq_glyph_iff counted
  refine ⟨shows.trans columns, ?_⟩
  intro ends m dir d sheet moved
  have tick : m.tick = (.moved dir d, m.tick.2) := Prod.ext moved rfl
  have cell := Machine.cell_step_of_moved tick
  rw [sheet] at cell
  have written : (Sheet.ofText source).cell m.step.2.walker.cursor.position ≠ .blank := by
    rw [cell]
    exact nofun
  have shown := shows.mpr (columns.mpr ends) _ written
  rw [glyph?_of_path cell] at shown
  obtain ⟨x, y, line, c, column, row, found, scanned, _⟩ := exists_scannedLine_of_cell written
  obtain ⟨wide, tall⟩ := le_length_of_scannedLine found scanned
  have limit : Nat.pow 2 63 = 9223372036854775808 := rfl
  have least := Number.toInt_minValue
  have most := Number.toInt_maxValue
  rw [Option.some.inj shown]
  exact middle?_of_room (char_ofText_ne_feed source) ⟨by omega, by omega, by omega, by omega⟩

/-- Carriage returns, blanks and a tab end the lines, and another tab is inside of one. -/
theorem page_shows_glyphs_before_returns :
    let source := "3 1 \r\t\r\nv\t@\r"
    let m := Machine.load ⟨#[some 3, some 1]⟩ source (⟨[]⟩ : Entropy.Script) .closed true
    source.length + 2 * 1 < Nat.pow 2 63 ∧
    (∀ line ∈ Text.lines source, endsInReturns line = true) ∧
    (∀ p : Position, (Sheet.ofText source).cell p ≠ .blank →
      (Sheet.ofText source).glyph? p.x.toInt p.y.toInt =
        some ((Page.ofText source).char p.x.toInt p.y.toInt)) ∧
    m.tick.1 = .moved .e 1 ∧
    ∃ text, window (Page.ofText source) m.step.2.walker.cursor.position 1 = .ok text ∧
      middle? 1 text = some ['[', '1', ']'] := by
  intro source m
  have short : source.length + 2 * 1 < Nat.pow 2 63 := by decide
  have ends : ∀ line ∈ Text.lines source, endsInReturns line = true := by decide
  have moved : m.tick.1 = .moved .e 1 := by decide
  obtain ⟨shows, brackets⟩ := page_shows_glyphs_iff_returns_end_lines (ε := Entropy.Script) short
  have bracketed := brackets ends m .e 1 rfl moved
  have one : Digit.toChar 1 = '1' := by decide
  rw [one] at bracketed
  exact ⟨short, ends, shows.mpr ends, moved, bracketed⟩

/-- A carriage return inside of a line moves all that follows it on the page, and the window
brackets a space where the walk stands on a digit. -/
theorem return_inside_line_moves_page :
    let source := "3\r 1"
    let m := Machine.load ⟨#[some 3, some 1]⟩ source (⟨[]⟩ : Entropy.Script) .closed true
    (Sheet.ofText source).cell ⟨2, 0⟩ = .path 1 ∧
    (Sheet.ofText source).glyph? 2 0 = some '1' ∧ (Page.ofText source).char 2 0 = ' ' ∧
    m.tick.1 = .moved .e 1 ∧ m.step.2.walker.cursor.position = ⟨2, 0⟩ ∧
    window (Page.ofText source) m.step.2.walker.cursor.position 0 = .ok "[ ]\n" := by
  decide +kernel

end DigitTrail.Command
