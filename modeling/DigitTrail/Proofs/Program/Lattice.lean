import Mathlib.Algebra.Ring.Int.Defs
import DigitTrail.Entropy
import DigitTrail.Proofs.Program.Course
import DigitTrail.Proofs.Walk.Retrace

/-!
Moves on the lattice. A tick that moves ends on a cell of the sheet, so its sum of coordinates
was stopped neither by the box nor at a limit: the walk is the exact sum of its offsets. Each
offset is even in total, which leaves half of the cells out of reach, and two offsets cancel
only if one is the reverse of the other, which a tick refuses unless the walker was turned.
-/

set_option autoImplicit false
set_option relaxedAutoImplicit false

namespace DigitTrail

open Plane (Direction Offset Position)

namespace Plane.Direction

private theorem even_offset (dir : Direction) :
    (dir.offset.dx.toInt + dir.offset.dy.toInt) % 2 = 0 := by
  cases dir <;> decide

private theorem eq_reverse_of_cancel {dir dir' : Direction}
    (columns : dir.offset.dx.toInt + dir'.offset.dx.toInt = 0)
    (rows : dir.offset.dy.toInt + dir'.offset.dy.toInt = 0) : dir' = dir.reverse := by
  revert columns rows
  cases dir <;> cases dir' <;> decide

end Plane.Direction

private theorem Sheet.toInt_shift {s : Sheet} (counted : s.Indexable) {p : Position} {o : Offset}
    {d : Digit} (h : s.cell (p.shift o) = .path d) :
    (p.shift o).x.toInt = p.x.toInt + o.dx.toInt ∧
      (p.shift o).y.toInt = p.y.toInt + o.dy.toInt := by
  obtain ⟨⟨lowX, highX⟩, lowY, highY⟩ := Sheet.index_of_cell counted h
  have least : Int64.minValue.toInt < 0 := by decide
  exact ⟨Number.toInt_satAdd_of_between (Int.lt_of_lt_of_le least lowX) highX,
    Number.toInt_satAdd_of_between (Int.lt_of_lt_of_le least lowY) highY⟩

namespace Program.Machine

variable {ε : Type} [Entropy ε]

private theorem position_of_moved {m ticked : Machine ε} {dir : Direction} {d : Digit}
    (counted : m.sheet.Indexable) (tick : m.tick = (.moved dir d, ticked)) :
    ticked.walker.cursor.position.x.toInt =
        m.walker.cursor.position.x.toInt + dir.offset.dx.toInt ∧
      ticked.walker.cursor.position.y.toInt =
        m.walker.cursor.position.y.toInt + dir.offset.dy.toInt := by
  have on := onDigit_of_moved tick
  obtain ⟨_, offered, offers, e, rfl⟩ := of_tick_moved tick
  have arrived := Walk.Walker.position_strode offers offered
  have cell := on.cell
  rw [arrived] at cell
  rw [arrived]
  exact Sheet.toInt_shift counted cell

/-! ### Exact moves -/

def stride (m : Machine ε) (e : Event ε) : List Direction :=
  if e.walks then m.tick.1.direction?.toList else []

def directions : Machine ε → List (Event ε) → List Direction
  | _, [] => []
  | m, e :: rest => m.stride e ++ (m.undergo e).directions rest

private theorem ticks_effect {m m' : Machine ε} (h : Effect m m') : m'.ticks = m.ticks := by
  cases h with
  | turn r => rfl
  | prefer value preferred =>
    unfold prefer
    split <;> rfl
  | operate op => rfl
  | accept t reply => rfl
  | ask input asked => rfl

theorem ticks_of_walks {m : Machine ε} {e : Event ε} (walks : e.walks = true) :
    (m.undergo e).ticks = m.tick.2.ticks :=
  Effects.preserve (P := fun m' => m'.ticks = m.tick.2.ticks)
    (fun effect same => (ticks_effect effect).trans same) (Effects.of_walks m walks) rfl

theorem ticks_of_moved {m ticked : Machine ε} {dir : Direction} {d : Digit}
    (tick : m.tick = (.moved dir d, ticked)) : ticked.ticks = m.ticks + 1 := by
  obtain ⟨_, _, offers, e, walked⟩ := of_tick_moved tick
  rw [walked]

private theorem ticks_of_not_walks (m : Machine ε) {e : Event ε} (still : e.walks = false) :
    (m.undergo e).ticks = m.ticks := by
  cases e with
  | operate op => rfl
  | enclose a b => rfl
  | guide g => rfl
  | supply input => rfl
  | connect connected => rfl
  | _ => cases still

private theorem ticks_undergo (m : Machine ε) (e : Event ε) :
    (m.undergo e).ticks = m.ticks + (m.stride e).length := by
  unfold stride
  by_cases walks : e.walks = true
  · rw [if_pos walks, ticks_of_walks walks]
    rcases tick : m.tick with ⟨t, ticked⟩
    cases t with
    | moved dir d => exact ticks_of_moved tick
    | deadEnd stop =>
      rw [of_tick_deadEnd tick]
      rfl
  · rw [if_neg walks, ticks_of_not_walks m (Bool.eq_false_iff.mpr walks)]
    rfl

private theorem position_undergo {m : Machine ε} (counted : m.sheet.Indexable) {e : Event ε}
    (fixed : e.encloses = false) :
    (m.undergo e).walker.cursor.position.x.toInt = m.walker.cursor.position.x.toInt +
        ((m.stride e).map fun dir => dir.offset.dx.toInt).sum ∧
      (m.undergo e).walker.cursor.position.y.toInt = m.walker.cursor.position.y.toInt +
        ((m.stride e).map fun dir => dir.offset.dy.toInt).sum := by
  unfold stride
  by_cases walks : e.walks = true
  · have stands : (m.undergo e).walker.cursor.position = m.tick.2.walker.cursor.position :=
      congrArg Footing.position (footing_of_walks walks)
    rw [if_pos walks, stands]
    rcases tick : m.tick with ⟨t, ticked⟩
    cases t with
    | moved dir d =>
      obtain ⟨columns, rows⟩ := position_of_moved counted tick
      simp only [Walk.Tick.direction?, Option.toList_some, List.map_cons, List.map_nil,
        List.sum_cons, List.sum_nil, Int.add_zero]
      exact ⟨columns, rows⟩
    | deadEnd stop =>
      rw [of_tick_deadEnd tick]
      simp [Walk.Tick.direction?, Walk.Walker.stuck]
  · have stands : (m.undergo e).walker.cursor.position = m.walker.cursor.position :=
      congrArg Footing.position (footing_of_not_walks (Bool.eq_false_iff.mpr walks) fixed)
    rw [if_neg walks, stands]
    simp

private theorem ticks_after (m : Machine ε) (events : List (Event ε)) :
    (m.after events).ticks = m.ticks + (m.directions events).length := by
  induction events generalizing m with
  | nil => rfl
  | cons e events ih =>
    have rest := ih (m.undergo e)
    rw [ticks_undergo] at rest
    rw [directions, List.length_append, ← Nat.add_assoc]
    exact rest

private theorem position_after {m : Machine ε} (counted : m.sheet.Indexable)
    {events : List (Event ε)}
    (fixed : ∀ e ∈ events, e.encloses = false) :
    (m.after events).walker.cursor.position.x.toInt = m.walker.cursor.position.x.toInt +
        ((m.directions events).map fun dir => dir.offset.dx.toInt).sum ∧
      (m.after events).walker.cursor.position.y.toInt = m.walker.cursor.position.y.toInt +
        ((m.directions events).map fun dir => dir.offset.dy.toInt).sum := by
  induction events generalizing m with
  | nil => simp [after, directions]
  | cons e events ih =>
    have sheet : (m.undergo e).sheet = m.sheet := (sheet_reference_undergo m e).1
    obtain ⟨columns, rows⟩ := position_undergo counted (fixed e List.mem_cons_self)
    obtain ⟨columns', rows'⟩ := ih (m := m.undergo e) (sheet ▸ counted)
      fun x member => fixed x (List.mem_cons_of_mem e member)
    simp only [directions, List.map_append, List.sum_append]
    change ((m.undergo e).after events).walker.cursor.position.x.toInt = _ ∧
      ((m.undergo e).after events).walker.cursor.position.y.toInt = _
    omega

private theorem even_drift (dirs : List Direction) :
    ((dirs.map fun dir => dir.offset.dx.toInt).sum +
      (dirs.map fun dir => dir.offset.dy.toInt).sum) % 2 = 0 := by
  induction dirs with
  | nil => rfl
  | cons dir dirs ih =>
    have first := dir.even_offset
    simp only [List.map_cons, List.sum_cons]
    omega

private theorem parity_after {m : Machine ε}
    (short : m.walker.reading.reference.size < Nat.pow 2 63)
    {events : List (Event ε)} (unbroken : m.Unbroken events) :
    ((m.after events).walker.reading.index.toInt - (m.after events).ticks) % 2 =
      (m.walker.reading.index.toInt - m.ticks) % 2 := by
  induction events generalizing m with
  | nil => rfl
  | cons e events ih =>
    obtain ⟨moves, rest⟩ := unbroken
    have reference : (m.undergo e).walker.reading.reference = m.walker.reading.reference :=
      (sheet_reference_undergo m e).2
    refine (ih (reference ▸ short) rest).trans ?_
    by_cases walks : e.walks = true
    · obtain ⟨dir, d, moved⟩ := moves walks
      have tick := tick_eta moved
      have index : (m.undergo e).walker.reading.index = m.tick.2.walker.reading.index :=
        congrArg Footing.index (footing_of_walks walks)
      have one : m.walker.reading.heading.step.toInt = 1 ∨
          m.walker.reading.heading.step.toInt = -1 := by
        cases m.walker.reading.heading <;> decide
      obtain ⟨stepped, _⟩ := index_of_moved short tick
      rw [index, ticks_of_walks walks, ticks_of_moved tick, stepped]
      omega
    · have still := Bool.eq_false_iff.mpr walks
      rw [reading_of_not_walks m still, ticks_of_not_walks m still]

/-- Moves are exact and stay on one half of the lattice, for every source and reference that an
index can count, every box, source of chance, guide and input, and in every history in which
the box is chosen before the first tick. The walk has come from its start by the exact
sum of the offsets of its moves, so the parity of column and row together has not changed; the
counter is the number of moves, and until a tick meets a dead end the index of the reading has
the counter's parity. -/
theorem moves_are_exact (reference : Reference) (short : reference.size < Nat.pow 2 63)
    {source : String} (counted : (Sheet.ofText source).Indexable) (entropy : ε) (input : Input)
    (connected : Bool) (setup events : List (Event ε))
    (unstarted : ∀ e ∈ setup, e.walks = false) (fixed : ∀ e ∈ events, e.encloses = false) :
    let ready := (Machine.load reference source entropy input connected).after setup
    let m := ready.after events
    let start := ready.walker.cursor.position
    let here := m.walker.cursor.position
    let dirs := ready.directions events
    here.x.toInt = start.x.toInt + (dirs.map fun dir => dir.offset.dx.toInt).sum ∧
    here.y.toInt = start.y.toInt + (dirs.map fun dir => dir.offset.dy.toInt).sum ∧
    (here.x.toInt + here.y.toInt) % 2 = (start.x.toInt + start.y.toInt) % 2 ∧
    m.ticks = dirs.length ∧
    (ready.Unbroken events → m.walker.reading.index.toInt % 2 = (m.ticks : Int) % 2) := by
  intro ready m start here dirs
  have same := sheet_reference_after (.load reference source entropy input connected) setup
  have sheet : ready.sheet = .ofText source := same.1
  have reference' : ready.walker.reading.reference = reference := same.2
  have fresh : ready.ticks = 0 :=
    view_after Machine.ticks ticks_of_not_walks (.load reference source entropy input connected)
      unstarted
  have first : ready.walker.reading.index = 0 :=
    view_after (fun m => m.walker.reading.index)
      (fun m _ still => congrArg Reference.Reading.index (reading_of_not_walks m still))
      (.load reference source entropy input connected) unstarted
  obtain ⟨columns, rows⟩ := position_after (sheet ▸ counted) fixed
  have even := even_drift (ready.directions events)
  refine ⟨columns, rows, ?_, ?_, ?_⟩
  · change here.x.toInt = start.x.toInt + _ at columns
    change here.y.toInt = start.y.toInt + _ at rows
    rw [columns, rows]
    omega
  · have counter := ticks_after ready events
    rw [fresh, Nat.zero_add] at counter
    exact counter
  · intro unbroken
    have parity := parity_after (reference' ▸ short) unbroken
    rw [first, fresh] at parity
    have zero : (0 : Int64).toInt = 0 := rfl
    rw [zero] at parity
    change (m.walker.reading.index.toInt - m.ticks) % 2 = _ at parity
    omega

/-- Two moves and a dead end in a box that reaches the last column there is. -/
theorem two_moves_are_exact :
    let ready := (Machine.load ⟨#[some 3, some 1, some 4, some 1]⟩ "3 1\n   4"
      (⟨[]⟩ : Entropy.Script) .closed true).after [.enclose ⟨0, 0⟩ ⟨Int64.maxValue, 5⟩]
    ready.directions [.step, .step, .step] = [.e, .se] ∧
    (ready.after [.step, .step, .step]).walker.cursor.position.x.toInt = 0 + (2 + 1) ∧
    (ready.after [.step, .step, .step]).walker.cursor.position.y.toInt = 0 + (0 + 1) ∧
    (ready.after [.step, .step, .step]).ticks = 2 ∧
    (ready.after [.step, .step]).walker.reading.index.toInt % 2 = 0 := by
  intro ready
  have counted : (Sheet.ofText "3 1\n   4").Indexable := ⟨by decide, by decide⟩
  have exact_run (events : List (Event Entropy.Script))
      (fixed : ∀ e ∈ events, e.encloses = false) :=
    moves_are_exact ⟨#[some 3, some 1, some 4, some 1]⟩ (by decide) counted
      (⟨[]⟩ : Entropy.Script) .closed true [.enclose ⟨0, 0⟩ ⟨Int64.maxValue, 5⟩] events
      (by simp [Event.walks]) fixed
  obtain ⟨columns, rows, _, counter, _⟩ :=
    exact_run [.step, .step, .step] (by simp [Event.encloses])
  obtain ⟨_, _, _, counter', index⟩ := exact_run [.step, .step] (by simp [Event.encloses])
  have dirs : ready.directions [.step, .step, .step] = [.e, .se] := by decide
  have dirs' : ready.directions [.step, .step] = [.e, .se] := by decide
  have unbroken : ready.Unbroken [.step, .step] :=
    ⟨fun _ => ⟨.e, 1, by decide⟩, fun _ => ⟨.se, 4, by decide⟩, trivial⟩
  rw [dirs] at columns rows counter
  rw [dirs'] at counter'
  refine ⟨dirs, ?_, ?_, ?_, ?_⟩
  · rw [columns]
    decide
  · rw [rows]
    decide
  · rw [counter]
    rfl
  · rw [index unbroken, counter']
    rfl

/-! ### No immediate return -/

def Still : Machine ε → List (Event ε) → Prop
  | _, [] => True
  | m, e :: rest =>
    e.encloses = false ∧ (e.walks = true → ∃ stop, m.tick.1 = .deadEnd stop) ∧
      (m.undergo e).Still rest

private theorem cursor_of_still {m : Machine ε} {events : List (Event ε)} (still : m.Still events) :
    (m.after events).walker.cursor = m.walker.cursor := by
  induction events generalizing m with
  | nil => rfl
  | cons e events ih =>
    obtain ⟨fixed, stops, rest⟩ := still
    refine (ih rest).trans ?_
    by_cases walks : e.walks = true
    · obtain ⟨stop, ended⟩ := stops walks
      rw [undergo_of_deadEnd (tick_eta ended) walks]
      rfl
    · cases e with
      | enclose a b => cases fixed
      | operate op => rfl
      | guide g => rfl
      | supply input => rfl
      | connect connected => rfl
      | _ => exact absurd rfl walks

/-- No immediate return. Whatever the program, its guide, its registers and its preferred
digits, take a step whose tick moves and the next tick that moves, with any dead ends and
anything but a new box in between: if the second tick is back on the cell that the first one
left, then the column of the first fired a reversal, and the walker had forgotten its move. -/
theorem return_fires_a_reversal {m ticked back : Machine ε} {dir dir' : Direction} {d d' : Digit}
    (counted : m.sheet.Indexable) (out : m.tick = (.moved dir d, ticked))
    (between : List (Event ε)) (still : m.step.2.Still between)
    (home : (m.step.2.after between).tick = (.moved dir' d', back))
    (returned : back.walker.cursor.position = m.walker.cursor.position) :
    m.begin = ticked.execute d ∧ m.step.2.walker.cursor.lastMove = none ∧
    ∃ x ∈ ticked.column.modifiers, x = .toggle ∨
      (x = .backIfEast ∧ 0 < ticked.walker.cursor.velocity.dx) ∨
      (x = .forwardIfWest ∧ ticked.walker.cursor.velocity.dx < 0) := by
  have facing : ticked.walker.cursor.velocity = dir.offset ∧
      ticked.walker.cursor.lastMove = some dir := by
    obtain ⟨_, _, offers, e, rfl⟩ := of_tick_moved out
    exact ⟨rfl, rfl⟩
  have course := course_step out
  have cursor : m.step.2.walker.cursor =
      ((ticked.column.reversals dir.offset.dx).foldl Walk.Walker.turn ticked.walker).cursor :=
    congrArg Prod.fst course
  have straight : dir' = dir.reverse := by
    have sheet : (m.step.2.after between).sheet = m.sheet :=
      (sheet_reference_after m.step.2 between).1.trans (sheet_reference_undergo m .step).1
    have between_position : (m.step.2.after between).walker.cursor.position =
        ticked.walker.cursor.position := by
      rw [cursor_of_still still]
      have stands := congrArg Footing.position (footing_of_walks (m := m) (e := .step) rfl)
      rwa [out] at stands
    obtain ⟨columns, rows⟩ := position_of_moved counted out
    obtain ⟨columns', rows'⟩ := position_of_moved (sheet ▸ counted) home
    rw [between_position] at columns' rows'
    rw [returned] at columns' rows'
    exact Plane.Direction.eq_reverse_of_cancel (by omega) (by omega)
  have offered : ∀ last, m.step.2.walker.cursor.lastMove = some last → dir' ≠ last.reverse := by
    obtain ⟨_, onward, _⟩ := of_tick_moved home
    have free := ((Walk.Walker.mem_onward_iff _ _ _ _).mp onward).2
    rwa [cursor_of_still still] at free
  refine ⟨begin_of_moved out, ?_⟩
  cases fired : ticked.column.reversals dir.offset.dx with
  | nil =>
    rw [fired] at cursor
    have kept : m.step.2.walker.cursor.lastMove = some dir := by
      rw [cursor]
      exact facing.2
    exact absurd straight (offered dir kept)
  | cons r reversals =>
    have member : r ∈ ticked.column.reversals dir.offset.dx := by
      rw [fired]
      exact List.mem_cons_self
    obtain ⟨x, listed, fires⟩ := List.mem_filterMap.mp member
    rw [fired] at cursor
    rw [cursor, facing.1]
    exact ⟨Walk.Walker.lastMove_turns _ r reversals, x, listed, Modifier.reversal?_isSome fires⟩

/-- A colon under the cell to the east sends the walk back at once. -/
theorem colon_allows_the_return :
    let m := Machine.load ⟨#[some 3, some 1]⟩ "3 1\n  :" (⟨[]⟩ : Entropy.Script) .closed true
    m.step.2.step.2.walker.cursor.position = m.walker.cursor.position ∧
      m.step.2.walker.cursor.lastMove = none ∧
      ∃ x ∈ m.tick.2.column.modifiers, x = .toggle ∨
        (x = .backIfEast ∧ 0 < m.tick.2.walker.cursor.velocity.dx) ∨
        (x = .forwardIfWest ∧ m.tick.2.walker.cursor.velocity.dx < 0) := by
  intro m
  have counted : m.sheet.Indexable := ⟨by decide, by decide⟩
  have out : m.tick.1 = .moved .e 1 := by decide
  have home : (m.step.2.after []).tick.1 = .moved .w 3 := by decide
  have returned : (m.step.2.after []).tick.2.walker.cursor.position =
      m.walker.cursor.position := by
    decide
  have still : m.step.2.Still [] := by simp only [Still]
  have reversal := return_fires_a_reversal counted (tick_eta out) [] still (tick_eta home) returned
  exact ⟨by decide, reversal.2⟩

end Program.Machine

end DigitTrail
