import DigitTrail.Proofs.Program.Execution
import DigitTrail.Proofs.Program.Failure

/-!
Neutral modifiers. A bar does nothing, and a dot does nothing after another dot. So a column
comes to the same with them and without them, on every machine: only the rows of what stands
below move, and with them the place that a fault points at.
-/

set_option autoImplicit false
set_option relaxedAutoImplicit false

namespace DigitTrail.Program

open Sheet (Cell Operator)

/-- A run without its bars and without its dots, except the first dot unless what floats is
grounded already. -/
def condense : (grounded : Bool) → List Operator → List Operator
  | _, [] => []
  | grounded, .pass :: run => condense grounded run
  | true, .ground :: run => condense true run
  | false, .ground :: run => .ground :: condense true run
  | grounded, o :: run => o :: condense grounded run

example : condense false [.ground, .pass, .deref, .ground, .toggle, .pass, .ground] =
    [.ground, .deref, .toggle] := by decide

/-- How many rows are read of what stands below the modifiers: an action and its operands. -/
def extent (rest : Nat → Cell) : Nat :=
  match (rest 0).operator? with
  | some .store => 2
  | some .add => 2
  | some .subtract => 2
  | some .load => if ((rest 1).operator?.bind comparison?).isSome then 3 else 2
  | _ => 1

/-- The same result, except that a malformed column is found malformed so many rows further
down. -/
inductive Lowered (rows : Int) : Except Fault Step → Except Fault Step → Prop
  | same {result : Except Fault Step}
      (formed : ∀ expected found place, result ≠ .error (.malformed expected found place)) :
    Lowered rows result result
  | malformed {expected : Expected} {found : Cell} {place place' : Plane.Place}
      (column : place'.column = place.column) (row : place'.row.toInt = place.row.toInt + rows) :
    Lowered rows (.error (.malformed expected found place))
      (.error (.malformed expected found place'))

/-! ### Instructions further down -/

/-- The same instruction, read so many rows further down. -/
def Instruction.lowered (rows : Nat) : Instruction → Instruction
  | .malformed expected found row => .malformed expected found (row + rows)
  | instruction => instruction

private theorem Instruction.lowered_of_formed {instruction : Instruction}
    (formed : ∀ expected found row, instruction ≠ .malformed expected found row) (rows : Nat) :
    instruction.lowered rows = instruction := by
  cases instruction with
  | malformed expected found row => exact absurd rfl (formed expected found row)
  | _ => rfl

section Lowered

variable (tokens : Nat → Cell) (row k : Nat)

private theorem readForm_lowered (use : Use) :
    readForm tokens use (row + k) = (readForm (fun k => tokens (row + k)) use k).lowered row := by
  unfold readForm
  dsimp only
  rw [Nat.add_comm row k]
  cases tokens (k + row) <;> rfl

private theorem storeForm_lowered :
    storeForm tokens (row + k) = (storeForm (fun k => tokens (row + k)) k).lowered row := by
  unfold storeForm
  dsimp only
  rw [Nat.add_comm row k]
  cases tokens (k + row) <;> rfl

private theorem loadForm_lowered :
    loadForm tokens (row + k) = (loadForm (fun k => tokens (row + k)) k).lowered row := by
  have keeps := readForm_lowered tokens row k .keep
  unfold loadForm
  dsimp only
  cases found : tokens (row + k) with
  | blank => exact keeps
  | name name => exact keeps
  | path d => exact congrArg (Instruction.malformed _ _) (Nat.add_comm row k)
  | unknown c => exact congrArg (Instruction.malformed _ _) (Nat.add_comm row k)
  | operator o =>
    dsimp only
    cases comparison? o with
    | none => exact congrArg (Instruction.malformed _ _) (Nat.add_comm row k)
    | some test => exact readForm_lowered tokens row (k + 1) (.compare test)

private theorem instructionAt_eq_lowered :
    instructionAt tokens row = (instructionAt (fun k => tokens (row + k)) 0).lowered row := by
  unfold instructionAt
  dsimp only
  rw [Nat.add_zero]
  cases (tokens row).operator?.bind action? with
  | none => rfl
  | some action =>
    cases action with
    | store => exact storeForm_lowered tokens row 1
    | load => exact loadForm_lowered tokens row 1
    | add => exact readForm_lowered tokens row 1 .add
    | subtract => exact readForm_lowered tokens row 1 .subtract
    | _ => rfl

end Lowered

section Extent

variable {rest : Nat → Cell}

private theorem extent_bounds (rest : Nat → Cell) : 0 < extent rest ∧ extent rest ≤ 3 := by
  unfold extent
  split <;> (try split) <;> decide

private theorem two_le_extent {o : Operator} (action : rest 0 = .operator o)
    (takes : o ∈ [Operator.store, .add, .subtract, .load]) : 2 ≤ extent rest := by
  have compared (b : Bool) : 2 ≤ if b then 3 else 2 := by cases b <;> decide
  rw [extent, action]
  cases o with
  | store => exact Nat.le_refl 2
  | add => exact Nat.le_refl 2
  | subtract => exact Nat.le_refl 2
  | load => exact compared _
  | _ => exact absurd takes (by decide)

private theorem extent_of_compared (action : rest 0 = .operator .load) {o : Operator}
    {test : Comparison}
    (found : rest 1 = .operator o) (compares : comparison? o = some test) : extent rest = 3 := by
  simp [extent, action, found, compares, Cell.operator?]

private theorem readForm_congr {rest' : Nat → Cell} {k : Nat} (same : rest k = rest' k)
    (use : Use) : readForm rest use k = readForm rest' use k := by
  unfold readForm
  rw [same]

private theorem instructionAt_congr_of_extent {rest' : Nat → Cell}
    (same : ∀ k < extent rest, rest k = rest' k) :
    instructionAt rest 0 = instructionAt rest' 0 := by
  unfold instructionAt
  rw [← same 0 (extent_bounds rest).1]
  cases token : rest 0 with
  | operator o =>
    have second (takes : o ∈ [Operator.store, .add, .subtract, .load]) : rest 1 = rest' 1 :=
      same 1 (two_le_extent token takes)
    cases o with
    | store =>
      change storeForm rest 1 = storeForm rest' 1
      unfold storeForm
      rw [second (by decide)]
    | add => exact readForm_congr (second (by decide)) .add
    | subtract => exact readForm_congr (second (by decide)) .subtract
    | load =>
      change loadForm rest 1 = loadForm rest' 1
      have kept := readForm_congr (second (by decide)) .keep
      unfold loadForm
      rw [← second (by decide)]
      cases found : rest 1 with
      | operator o =>
        dsimp only
        cases compares : comparison? o with
        | none => rfl
        | some test =>
          have third := same 2 (by rw [extent_of_compared token found compares]; decide)
          exact readForm_congr third (.compare test)
      | blank => exact kept
      | name name => exact kept
      | _ => rfl
    | _ => rfl
  | _ => rfl

private theorem malformed_within_extent {expected : Expected} {found : Cell} {k : Nat}
    (h : instructionAt rest 0 = .malformed expected found k) :
    0 < k ∧ k < extent rest ∧ ∃ o, rest (k - 1) = .operator o := by
  cases offence_of_malformed h with
  | store action unnamed => exact ⟨by decide, two_le_extent action (by decide), _, action⟩
  | sum action full unnamed =>
    obtain action | action := action
    · exact ⟨by decide, two_le_extent action (by decide), _, action⟩
    · exact ⟨by decide, two_le_extent action (by decide), _, action⟩
  | load action full unnamed inactive =>
    exact ⟨by decide, two_le_extent action (by decide), _, action⟩
  | comparison action found other =>
    exact ⟨by decide, two_le_extent action (by decide), _, action⟩
  | compared action found compares full unnamed =>
    refine ⟨by decide, ?_, _, found⟩
    rw [extent_of_compared action found compares]
    decide

end Extent

private theorem eq_filterMap_of_forall₂ {run : List Operator} {modifiers : List Modifier}
    (reads : List.Forall₂ (fun o x => modifier? o = some x) run modifiers) :
    modifiers = run.filterMap modifier? := by
  induction reads with
  | nil => rfl
  | cons read _ ih => rw [List.filterMap_cons_some read, ← ih]

namespace Machine

section Ground

variable {ε : Type} {m : Machine ε}

private theorem column_of_longestRun (tall : m.sheet.height < Nat.pow 2 63) {run : List Operator}
    (longest : LongestRun m.token run) :
    m.column = ⟨run.filterMap modifier?, instructionAt m.token (run.length + 1)⟩ := by
  obtain ⟨run', longest', reads, agree⟩ := exists_longestRun tall
  obtain rfl := longest.unique longest'
  have instruction : m.column.instruction = instructionAt m.token (run.length + 1) := by
    have read : m.column.instruction = instructionAt m.below (m.column.modifiers.length + 1) := rfl
    rw [read, ← reads.length_eq]
    exact instructionAt_congr (agree _ (by omega)) (agree _ (by omega)) (agree _ (by omega))
  rw [← eq_filterMap_of_forall₂ reads, ← instruction]

private theorem faultPlace_of_inside {rows : Nat} (few : rows < Nat.pow 2 63)
    (inside : m.walker.cursor.box.Spans m.walker.cursor.position.x.toInt
      (m.walker.cursor.position.y.toInt + rows))
    (low : m.walker.cursor.position.y.toInt + rows < Int64.maxValue.toInt) :
    (m.faultPlace rows).column = Number.satAdd m.walker.cursor.position.x 1 ∧
      (m.faultPlace rows).row.toInt = m.walker.cursor.position.y.toInt + rows + 1 := by
  have count : (Int64.ofNat rows).toInt = rows := Int64.toInt_ofNat_of_lt few
  have least := Int64.minValue_le_toInt m.walker.cursor.position.y
  have row : (Number.satAdd m.walker.cursor.position.y (Int64.ofNat rows)).toInt =
      m.walker.cursor.position.y.toInt + rows := by
    rw [Number.toInt_satAdd, count]
    omega
  have still : m.walker.cursor.box.nearest
      (m.walker.cursor.position.shift ⟨0, Int64.ofNat rows⟩) =
        m.walker.cursor.position.shift ⟨0, Int64.ofNat rows⟩ := by
    rw [Plane.Box.nearest_eq_self_iff, Plane.Position.shift_down, Plane.Box.contains_iff_spans,
      row]
    exact inside
  have place : m.faultPlace rows = (m.walker.cursor.box.nearest
      (m.walker.cursor.position.shift ⟨0, Int64.ofNat rows⟩)).place := rfl
  rw [place, still, Plane.Position.shift_down]
  refine ⟨rfl, ?_⟩
  have one : (1 : Int64).toInt = 1 := rfl
  rw [Plane.Position.place, Number.toInt_satAdd, row, one]
  omega

def rest (m : Machine ε) (length : Nat) : Nat → Cell := fun k => m.token (length + 1 + k)

/-- The column under the cursor starts with these modifiers, and all its rows that are read lie
in the box. -/
structure Carries (m : Machine ε) (run : List Operator) : Prop where
  longest : LongestRun m.token run
  inside : ∀ rows, 0 < rows → rows ≤ run.length + extent (m.rest run.length) →
    m.walker.cursor.box.Spans m.walker.cursor.position.x.toInt
      (m.walker.cursor.position.y.toInt + rows)

private theorem Carries.faultPlace (tall : m.sheet.height < Int64.maxValue.toInt)
    {run : List Operator} (carries : m.Carries run) {expected : Expected} {found : Cell} {k : Nat}
    (malformed : instructionAt (m.rest run.length) 0 = .malformed expected found k) :
    (m.faultPlace (k + (run.length + 1))).column = Number.satAdd m.walker.cursor.position.x 1 ∧
      (m.faultPlace (k + (run.length + 1))).row.toInt =
        m.walker.cursor.position.y.toInt + (k + (run.length + 1) : Nat) + 1 := by
  obtain ⟨late, early, o, operator⟩ := malformed_within_extent malformed
  have few := (extent_bounds (m.rest run.length)).2
  have limit : Nat.pow 2 63 = 9223372036854775808 := rfl
  rw [Number.toInt_maxValue] at tall
  have above : m.token (k + run.length) ≠ .blank := by
    have row : run.length + 1 + (k - 1) = k + run.length := by omega
    rw [rest, row] at operator
    rw [operator]
    exact Cell.noConfusion
  have last := (bounds_of_token above).2
  apply faultPlace_of_inside
  · cases run with
    | nil =>
      rw [List.length_nil]
      omega
    | cons o run =>
      have first : m.token 1 ≠ .blank := by
        rw [carries.longest.stands 0 o rfl]
        exact Cell.noConfusion
      have home := (bounds_of_token first).1
      omega
  · exact carries.inside _ (by omega) (by omega)
  · rw [Number.toInt_maxValue]
    omega

end Ground

variable {ε : Type} [Entropy ε]

/-! ### Modifiers -/

private theorem foldl_modify_condense (m : Machine ε) (p : Prepared) (run : List Operator) :
    (run.filterMap modifier?).foldl (fun s x => s.2.modify s.1 x) (p, m) =
      ((condense p.grounded run).filterMap modifier?).foldl
        (fun s x => s.2.modify s.1 x) (p, m) := by
  -- The induction carries whether a dot came before, which is whether the value is grounded.
  induction run generalizing m p with
  | nil => cases grounded : p.grounded <;> rfl
  | cons o run ih =>
    cases o with
    | pass => exact ih m p
    | ground =>
      obtain ⟨value, grounded⟩ := p
      cases grounded with
      | false => exact ih m ⟨value, true⟩
      | true => exact ih m ⟨value, true⟩
    | deref => exact ih (m.modify p .deref).2 (m.modify p .deref).1
    | toggle => exact ih (m.modify p .toggle).2 p
    | less => exact ih (m.modify p .backIfEast).2 p
    | greater => exact ih (m.modify p .forwardIfWest).2 p
    | _ => exact ih m p

private theorem prepare_congr_of_condense (m : Machine ε) (d : Digit) {run run' : List Operator}
    (same : condense false run = condense false run') :
    m.prepare d (run.filterMap modifier?) = m.prepare d (run'.filterMap modifier?) := by
  unfold prepare
  rw [foldl_modify_condense, foldl_modify_condense m _ run', same]

/-! ### Columns -/

private theorem isOpen_id (input : Input) : (id input).isOpen = input.isOpen := rfl

def onSheet (s : Sheet) : Guise where
  sheet := fun _ => s
  listens := isOpen_id

omit [Entropy ε] in
private theorem inGuise_onSheet (m : Machine ε) (s : Sheet) :
    m.inGuise (onSheet s) = { m with sheet := s } := by
  unfold inGuise onSheet
  rw [Memory.preceded_empty]
  rfl

private theorem finish_onSheet (phase : Phase ε) (s : Sheet) :
    (phase.inGuise (onSheet s)).finish =
      (phase.finish.1, { phase.finish.2 with sheet := s }) := by
  rw [← inGuise_onSheet]
  cases phase with
  | done result m => rfl
  | asking q m =>
    exact answer_inGuise { m with input := m.input.next.2 } (onSheet s) q m.input.next.1

private theorem faultPlace_prepare (m : Machine ε) (d : Digit) (modifiers : List Modifier) :
    (m.prepare d modifiers).2.faultPlace = m.faultPlace := by
  obtain ⟨draws, _, swayed⟩ := prepare_eq m d modifiers
  funext row
  rw [swayed, faultPlace_swayed]
  rfl

private theorem finish_ne_malformed (m : Machine ε) (d : Digit) (p : Prepared)
    {instruction : Instruction}
    (formed : ∀ expected found row, instruction ≠ .malformed expected found row)
    (expected : Expected) (found : Cell) (place : Plane.Place) :
    (m.perform d p instruction).finish.1 ≠ .error (.malformed expected found place) := by
  obtain ⟨result, m', done⟩ | ⟨expected, found, row, malformed, _⟩ | ⟨use, t, _, read⟩ :=
    perform_cases m d p instruction
  · rw [done]
    intro failed
    cases failed
  · exact absurd malformed (formed expected found row)
  · rw [read]
    cases next : m.input.next.1 with
    | none =>
      rw [finish_of_silence m _ t _ next]
      intro failed
      cases failed
    | some reply =>
      rw [finish_of_reply m _ t _ next]
      intro failed
      cases failed

private theorem perform_onSheet (m : Machine ε) (s : Sheet) (d : Digit) (p : Prepared)
    (instruction : Instruction) :
    (m.inGuise (onSheet s)).perform d p instruction =
      (m.perform d p instruction).inGuise (onSheet s) := by
  apply perform_inGuise
  intro expected found row _
  rfl

/-- On another sheet and read in another row, an instruction comes to the same, except for the
row in which it is found malformed. -/
private theorem finish_lowered (m : Machine ε) (s : Sheet) (d : Digit) (p : Prepared)
    (instruction : Instruction) (row row' : Nat) :
    let first := (m.perform d p (instruction.lowered row)).finish
    let second := ((m.inGuise (onSheet s)).perform d p (instruction.lowered row')).finish
    second.2 = { first.2 with sheet := s } ∧
      ((∃ expected found k, instruction = .malformed expected found k ∧
          first.1 = .error (.malformed expected found (m.faultPlace (k + row))) ∧
          second.1 = .error (.malformed expected found (m.faultPlace (k + row')))) ∨
        second.1 = first.1 ∧
          ∀ expected found place, first.1 ≠ .error (.malformed expected found place)) := by
  intro first second
  by_cases malformed : ∃ expected found k, instruction = .malformed expected found k
  · obtain ⟨expected, found, k, rfl⟩ := malformed
    exact ⟨inGuise_onSheet m s, .inl ⟨expected, found, k, rfl, rfl, rfl⟩⟩
  · have formed : ∀ expected found k, instruction ≠ .malformed expected found k :=
      fun expected found k reads => malformed ⟨expected, found, k, reads⟩
    have same : second = (first.1, { first.2 with sheet := s }) := by
      unfold first second
      rw [Instruction.lowered_of_formed formed, Instruction.lowered_of_formed formed,
        perform_onSheet, finish_onSheet]
    rw [same]
    refine ⟨rfl, .inr ⟨rfl, fun expected found place => ?_⟩⟩
    unfold first
    rw [Instruction.lowered_of_formed formed]
    exact finish_ne_malformed m d p formed expected found place

private theorem Carries.execute_eq {m : Machine ε} (tall : m.sheet.height < Int64.maxValue.toInt)
    {run : List Operator} (carries : m.Carries run) (d : Digit) :
    m.execute d = (m.prepare d (run.filterMap modifier?)).2.perform d
      (m.prepare d (run.filterMap modifier?)).1
      ((instructionAt (m.rest run.length) 0).lowered (run.length + 1)) := by
  have limit : Nat.pow 2 63 = 9223372036854775808 := rfl
  rw [Number.toInt_maxValue] at tall
  unfold execute
  rw [column_of_longestRun (by omega) carries.longest]
  dsimp only
  rw [instructionAt_eq_lowered]
  rfl

/-- Bars do nothing, and dots do nothing after the first. Take two machines that differ in
nothing but their sheets, and columns under their cursors whose modifiers are the same but for
bars and for dots after the first, and whose actions and operands are the same, with all rows
that are read inside the box. Then the columns come to the same for every digit and leave the
machines alike, except that the row of a malformed column moves with its action. -/
theorem neutral_modifiers_do_nothing {m m' : Machine ε} (alike : m' = { m with sheet := m'.sheet })
    (tall : m.sheet.height < Int64.maxValue.toInt) (tall' : m'.sheet.height < Int64.maxValue.toInt)
    {run run' : List Operator} (carries : m.Carries run) (carries' : m'.Carries run')
    (essence : condense false run = condense false run')
    (below : ∀ k < extent (m.rest run.length), m.rest run.length k = m'.rest run'.length k)
    (d : Digit) :
    let outcome := (m.execute d).finish
    let outcome' := (m'.execute d).finish
    Lowered (run'.length - run.length) outcome.1 outcome'.1 ∧
      outcome'.2 = { outcome.2 with sheet := m'.sheet } := by
  have same := instructionAt_congr_of_extent below
  have disguised : m' = m.inGuise (onSheet m'.sheet) := by
    rw [inGuise_onSheet]
    exact alike
  have prepared : m'.prepare d (run'.filterMap modifier?) =
      ((m.prepare d (run.filterMap modifier?)).1,
        (m.prepare d (run.filterMap modifier?)).2.inGuise (onSheet m'.sheet)) := by
    rw [← prepare_congr_of_condense m' d essence, ← prepare_inGuise, ← disguised]
  have performed := carries.execute_eq tall d
  have performed' := carries'.execute_eq tall' d
  rw [prepared, ← same] at performed'
  intro outcome outcome'
  obtain ⟨left, result⟩ := finish_lowered (m.prepare d (run.filterMap modifier?)).2 m'.sheet d
    (m.prepare d (run.filterMap modifier?)).1 (instructionAt (m.rest run.length) 0)
    (run.length + 1) (run'.length + 1)
  rw [← performed, ← performed'] at left result
  refine ⟨?_, left⟩
  obtain ⟨expected, found, k, reads, failed, failed'⟩ | ⟨agree, formed⟩ := result
  · obtain ⟨column, row⟩ := carries.faultPlace tall reads
    obtain ⟨column', row'⟩ := carries'.faultPlace tall' (same ▸ reads)
    have place : m'.faultPlace = m.faultPlace := by rw [alike]; rfl
    have walker : m'.walker = m.walker := by rw [alike]
    rw [place, walker] at column' row'
    change Lowered _ (m.execute d).finish.1 (m'.execute d).finish.1
    rw [failed, failed', faultPlace_prepare]
    refine .malformed (column'.trans column.symm) ?_
    rw [row, row']
    omega
  · change Lowered _ (m.execute d).finish.1 (m'.execute d).finish.1
    rw [agree]
    exact .same formed

/-- A store that finds a digit in the place of a name, below a bar and a second dot and without
them: the fault points two rows higher, and all else is the same. -/
theorem fault_moves_up_without_bar_and_dot :
    let m := Machine.load ⟨#[some 1]⟩ "1\n|\n.\n@\n.\nv\n7" (⟨[4]⟩ : Entropy.Script) .closed true
    let m' := { m with sheet := Sheet.ofText "1\n.\n@\nv\n7" }
    (m.execute 1).finish.1 = .error (.malformed .name (.path 7) ⟨7, 1⟩) ∧
      Lowered (-2) (m.execute 1).finish.1 (m'.execute 1).finish.1 ∧
      (m'.execute 1).finish.2 = { (m.execute 1).finish.2 with sheet := m'.sheet } := by
  intro m m'
  have longest : LongestRun m.token [.pass, .ground, .deref, .ground] := by
    refine ⟨by decide, ?_, by decide⟩
    intro i o listed
    match i with
    | 0 => cases listed; decide
    | 1 => cases listed; decide
    | 2 => cases listed; decide
    | 3 => cases listed; decide
  have longest' : LongestRun m'.token [.ground, .deref] := by
    refine ⟨by decide, ?_, by decide⟩
    intro i o listed
    match i with
    | 0 => cases listed; decide
    | 1 => cases listed; decide
  have inside : ∀ rows < 7, m.walker.cursor.box.Spans m.walker.cursor.position.x.toInt
      (m.walker.cursor.position.y.toInt + (rows : Nat)) := by decide
  have extents : extent (m.rest 4) = 2 ∧ extent (m'.rest 2) = 2 := by decide
  have below : ∀ k < 2, m.rest 4 k = m'.rest 2 k := by decide
  have carries : m.Carries [.pass, .ground, .deref, .ground] := by
    refine ⟨longest, fun rows _ few => inside rows ?_⟩
    change rows ≤ 4 + extent (m.rest 4) at few
    rw [extents.1] at few
    omega
  have carries' : m'.Carries [.ground, .deref] := by
    refine ⟨longest', fun rows _ few => inside rows ?_⟩
    change rows ≤ 2 + extent (m'.rest 2) at few
    rw [extents.2] at few
    omega
  refine ⟨by decide +kernel, ?_⟩
  refine neutral_modifiers_do_nothing (m := m) (by rfl) (by decide) (by decide) carries
    carries' (by decide) (fun k few => below k ?_) 1
  change k < extent (m.rest 4) at few
  rw [extents.1] at few
  exact few

end Machine

end DigitTrail.Program
