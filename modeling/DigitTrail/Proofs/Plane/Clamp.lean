import DigitTrail.Data
import DigitTrail.Proofs.Walk.Cursor

/-!
What clamping asks of a box. A position can be brought into a box, to a cell of the box, exactly
if the corners of the box are in order. The standard box and all boxes that are spanned by two
corners are. A box that is read from data keeps its corners as they are written, so its
writer has to order them.
-/

set_option autoImplicit false
set_option relaxedAutoImplicit false

namespace DigitTrail.Plane.Box

/-- The value nearest to `v` between two limits, none if the limits are out of order. -/
def within? (lo hi v : Int64) : Option Int64 := if lo ≤ hi then some (within lo hi v) else none

/-- Bring a position into the box, with a check of the limits on each axis. -/
def clamp? (b : Box) (p : Position) : Option Clamped := do
  let x ← within? b.lo.x b.hi.x p.x
  let y ← within? b.lo.y b.hi.y p.y
  return ⟨⟨x, y⟩, decide ((⟨x, y⟩ : Position) ≠ p)⟩

/-- Every position can be clamped, and goes to a cell of the box; it is reported as moved exactly
if it was outside, and a second time nothing moves. -/
structure Lawful (b : Box) : Prop where
  defined : ∀ p, b.clamp? p = some (b.clamp p)
  inside : ∀ p, b.contains (b.clamp p).position = true
  flagged : ∀ p, (b.clamp p).moved = true ↔ b.contains p = false
  settled : ∀ p, b.clamp (b.clamp p).position = ⟨(b.clamp p).position, false⟩

section Clamping

variable {b : Box}

private theorem clamp?_of_ordered (ordered : b.Ordered) (p : Position) :
    b.clamp? p = some (b.clamp p) := by
  unfold clamp? within?
  rw [if_pos ordered.1, if_pos ordered.2]
  rfl

private theorem clamp?_of_not_ordered (inverted : ¬ b.Ordered) (p : Position) :
    b.clamp? p = none := by
  unfold clamp? within?
  by_cases columns : b.lo.x ≤ b.hi.x
  · have rows : ¬ b.lo.y ≤ b.hi.y := fun rows => inverted ⟨columns, rows⟩
    rw [if_pos columns, if_neg rows]
    rfl
  · rw [if_neg columns]
    rfl

private theorem clamp_of_contains {p : Position} (inside : b.contains p = true) :
    b.clamp p = ⟨p, false⟩ := by
  have stays : b.nearest p = p := (nearest_eq_self_iff b p).mpr inside
  unfold clamp
  rw [stays]
  simp

private theorem lawful_of_ordered (ordered : b.Ordered) : b.Lawful where
  defined := clamp?_of_ordered ordered
  inside := contains_nearest ordered
  flagged := by
    intro p
    rw [← Bool.not_eq_false, clamp_moved_eq_false_iff, Bool.not_eq_true]
  settled := fun p => clamp_of_contains (contains_nearest ordered p)

private theorem lawful_iff_ordered : b.Lawful ↔ b.Ordered := by
  constructor
  · intro lawful
    obtain ⟨columns, rows⟩ := contains_iff.mp (lawful.inside .origin)
    exact ⟨Int64.le_trans columns.1 columns.2, Int64.le_trans rows.1 rows.2⟩
  · exact lawful_of_ordered

end Clamping

end DigitTrail.Plane.Box

namespace DigitTrail.Data

open Plane (Box Position)

/-! ### Boxes as data -/

private theorem int64?_toInt (i : Int64) : (Value.integer i.toInt).int64? = some i :=
  Number.int64?_eq_some_iff.mpr rfl

private theorem position?_ofPosition (rule : ListRule) (p : Position) :
    position? rule (ofPosition p) = some p := by
  have parts : pairForm? rule "x" "y" (ofPosition p) =
      some (.integer p.x.toInt, .integer p.y.toInt) := rfl
  unfold position?
  rw [parts]
  change ((Value.integer p.x.toInt).int64?.bind fun x =>
    (Value.integer p.y.toInt).int64?.bind fun y => some (⟨x, y⟩ : Position)) = some p
  rw [int64?_toInt, int64?_toInt]
  rfl

private theorem box?_ofBox (rule : ListRule) (b : Box) : box? rule (ofBox b) = some b := by
  have parts : pairForm? rule "min" "max" (ofBox b) =
      some (ofPosition b.lo, ofPosition b.hi) := rfl
  unfold box?
  rw [parts]
  change ((position? rule (ofPosition b.lo)).bind fun lo =>
    (position? rule (ofPosition b.hi)).bind fun hi => some (⟨lo, hi⟩ : Box)) = some b
  rw [position?_ofPosition, position?_ofPosition]
  rfl

private theorem corners_of_box? {rule : ListRule} {v : Value} {b : Box}
    (reads : box? rule v = some b) :
    ∃ lo hi, pairForm? rule "min" "max" v = some (lo, hi) ∧
      position? rule lo = some b.lo ∧ position? rule hi = some b.hi := by
  obtain ⟨⟨lo, hi⟩, parts, rest⟩ := Option.bind_eq_some_iff.mp reads
  obtain ⟨first, low, rest⟩ := Option.bind_eq_some_iff.mp rest
  obtain ⟨second, high, rest⟩ := Option.bind_eq_some_iff.mp rest
  cases rest
  exact ⟨lo, hi, parts, low, high⟩

/-- The ways to come by a box. -/
inductive BoxOrigin
  | standard
  | corners (p q : Position)
  | data (rule : ListRule) (v : Value)

/-- The box that is had in a way, none if data is refused. -/
def BoxOrigin.box? : BoxOrigin → Option Box
  | .standard => some .standard
  | .corners p q => some (.spanning p q)
  | .data rule v => Data.box? rule v

/-- What data gives as the first corner is nowhere beyond what it gives as the second. -/
def BoxOrigin.Orderly : BoxOrigin → Prop
  | .standard => True
  | .corners _ _ => True
  | .data rule v => ∃ lo hi p q, pairForm? rule "min" "max" v = some (lo, hi) ∧
      position? rule lo = some p ∧ position? rule hi = some q ∧ p.x ≤ q.x ∧ p.y ≤ q.y

private theorem BoxOrigin.ordered_iff {o : BoxOrigin} {b : Box} (had : o.box? = some b) :
    b.Ordered ↔ o.Orderly := by
  cases o with
  | standard =>
    cases had
    exact iff_of_true (by decide) trivial
  | corners p q =>
    cases had
    exact iff_of_true (Box.ordered_spanning p q) trivial
  | data rule v =>
    obtain ⟨lo, hi, parts, low, high⟩ := corners_of_box? had
    constructor
    · intro ordered
      exact ⟨lo, hi, b.lo, b.hi, parts, low, high, ordered⟩
    · rintro ⟨lo', hi', p, q, parts', low', high', ordered⟩
      cases parts.symm.trans parts'
      cases low.symm.trans low'
      cases high.symm.trans high'
      exact ordered

/-- Whichever way a box is had, clamping is lawful in it exactly if its origin is orderly: always
for the standard box and for boxes that are spanned by two corners, and for data exactly if
it writes the corners in their order. From data that does not, a box is read all the same, since
every box can be written and read, but no position can be clamped into it. -/
theorem clamping_is_lawful_iff_origin_is_orderly (o : BoxOrigin) (b : Box)
    (had : o.box? = some b) :
    (b.Lawful ↔ o.Orderly) ∧ (¬ o.Orderly → ∀ p, b.clamp? p = none) ∧
      ∀ rule, (BoxOrigin.data rule (ofBox b)).box? = some b := by
  have ordered := BoxOrigin.ordered_iff had
  refine ⟨Plane.Box.lawful_iff_ordered.trans ordered, ?_, fun rule => box?_ofBox rule b⟩
  intro disorderly
  exact Plane.Box.clamp?_of_not_ordered (mt ordered.mp disorderly)

/-- A list of more than two corners, of which only the leading ones are read. -/
theorem clamping_is_lawful_in_a_listed_box :
    let corner (x y : Int) : Value := .list [.integer x, .integer y]
    let o := BoxOrigin.data .leading (.list [corner (-3) 4, corner 0 4, corner (-9) 9])
    o.box? = some ⟨⟨-3, 4⟩, ⟨0, 4⟩⟩ ∧ o.Orderly ∧ (⟨⟨-3, 4⟩, ⟨0, 4⟩⟩ : Box).Lawful := by
  intro corner o
  have had : o.box? = some ⟨⟨-3, 4⟩, ⟨0, 4⟩⟩ := by decide
  have orderly : o.Orderly := ⟨corner (-3) 4, corner 0 4, ⟨-3, 4⟩, ⟨0, 4⟩, rfl, by decide⟩
  exact ⟨had, orderly, (clamping_is_lawful_iff_origin_is_orderly o _ had).1.mpr orderly⟩

/-- A box is read whose first corner is beyond its second in both directions. It has no cells, and
no position can be clamped into it. -/
theorem inverted_box_is_read :
    let corner (x y : Int) : Value := .table [("x", .integer x), ("y", .integer y)]
    let b : Box := ⟨⟨5, 9⟩, ⟨1, 1⟩⟩
    (BoxOrigin.data .exact (.table [("min", corner 5 9), ("max", corner 1 1)])).box? = some b ∧
    ¬ b.Ordered ∧ ¬ b.Lawful ∧ b.clamp? ⟨2, 2⟩ = none ∧
    b.contains (b.clamp ⟨2, 2⟩).position = false := by
  refine ⟨by decide, by decide, ?_, by decide, by decide⟩
  intro lawful
  exact absurd (lawful.inside ⟨2, 2⟩) (by decide)

end DigitTrail.Data
