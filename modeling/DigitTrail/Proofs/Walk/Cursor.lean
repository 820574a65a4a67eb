import DigitTrail.Proofs.Walk.Ground
import DigitTrail.Walk.Cursor

/-!
What a cursor is after any history of calls. Its box is spanned by the corners it was given last,
in whichever order, so that its own corners are in order, and it holds the position. The cursor
faces where it was turned last and remembers the facing of its last move, unless it was made to
forget it since. A look leaves it as it is and points to the cell of the box that is nearest on
each axis to where the displacement leads. The displacement of a move is stored apart from the
facing, and every call keeps the two in step.
-/

set_option autoImplicit false
set_option relaxedAutoImplicit false

namespace DigitTrail.Plane

namespace Box

/-- The cell of a box that is nearer to a position on each axis than those of any other column
and of any other row. -/
structure IsNearest (b : Box) (target p : Position) : Prop where
  inside : b.contains p = true
  column : ∀ q, b.contains q = true → q.x ≠ p.x →
    (p.x.toInt - target.x.toInt).natAbs < (q.x.toInt - target.x.toInt).natAbs
  row : ∀ q, b.contains q = true → q.y ≠ p.y →
    (p.y.toInt - target.y.toInt).natAbs < (q.y.toInt - target.y.toInt).natAbs

/-- The first corner of a box has the lesser coordinates of two positions, and the second corner
the greater ones. -/
structure SpannedBy (b : Box) (p q : Position) : Prop where
  left : b.lo.x.toInt = min p.x.toInt q.x.toInt
  top : b.lo.y.toInt = min p.y.toInt q.y.toInt
  right : b.hi.x.toInt = max p.x.toInt q.x.toInt
  bottom : b.hi.y.toInt = max p.y.toInt q.y.toInt

private theorem toInt_lesser (a b : Int64) :
    (if a ≤ b then a else b).toInt = min a.toInt b.toInt := by
  split <;> rename_i order <;> rw [Int64.le_iff_toInt_le] at order <;> omega

private theorem toInt_greater (a b : Int64) :
    (if a ≤ b then b else a).toInt = max a.toInt b.toInt := by
  split <;> rename_i order <;> rw [Int64.le_iff_toInt_le] at order <;> omega

private theorem spannedBy_spanning (p q : Position) : (spanning p q).SpannedBy p q where
  left := toInt_lesser p.x q.x
  top := toInt_lesser p.y q.y
  right := toInt_greater p.x q.x
  bottom := toInt_greater p.y q.y

private theorem SpannedBy.ordered {b : Box} {p q : Position} (spans : b.SpannedBy p q) :
    b.Ordered := by
  have columns := spans.left
  have rows := spans.top
  constructor
  · rw [Int64.le_iff_toInt_le, spans.right]
    omega
  · rw [Int64.le_iff_toInt_le, spans.bottom]
    omega

theorem contains_iff {b : Box} {p : Position} :
    b.contains p = true ↔
      (b.lo.x ≤ p.x ∧ p.x ≤ b.hi.x) ∧ b.lo.y ≤ p.y ∧ p.y ≤ b.hi.y := by
  simp only [contains, Bool.and_eq_true, decide_eq_true_eq, and_assoc]

private theorem within_bounds {lo hi : Int64} (ordered : lo ≤ hi) (v : Int64) :
    lo ≤ within lo hi v ∧ within lo hi v ≤ hi := by
  unfold within
  split
  · exact ⟨Int64.le_refl lo, ordered⟩
  · rename_i notBelow
    split
    · exact ⟨ordered, Int64.le_refl hi⟩
    · rename_i notAbove
      exact ⟨Int64.not_lt.mp notBelow, Int64.not_lt.mp notAbove⟩

private theorem within_nearer {lo hi w : Int64} (low : lo ≤ w) (high : w ≤ hi) (v : Int64)
    (other : w ≠ within lo hi v) :
    ((within lo hi v).toInt - v.toInt).natAbs < (w.toInt - v.toInt).natAbs := by
  have apart : w.toInt ≠ (within lo hi v).toInt := fun same => other (Int64.toInt.inj same)
  rw [Int64.le_iff_toInt_le] at low high
  revert apart
  unfold within
  split
  · rename_i below
    rw [Int64.lt_iff_toInt_lt] at below
    omega
  · split
    · rename_i above
      rw [Int64.lt_iff_toInt_lt] at above
      omega
    · omega

theorem contains_nearest {b : Box} (ordered : b.Ordered) (p : Position) :
    b.contains (b.nearest p) = true :=
  contains_iff.mpr ⟨within_bounds ordered.1 p.x, within_bounds ordered.2 p.y⟩

private theorem isNearest_nearest {b : Box} (ordered : b.Ordered) (p : Position) :
    b.IsNearest p (b.nearest p) where
  inside := contains_nearest ordered p
  column := fun _ inside other =>
    within_nearer (contains_iff.mp inside).1.1 (contains_iff.mp inside).1.2 p.x other
  row := fun _ inside other =>
    within_nearer (contains_iff.mp inside).2.1 (contains_iff.mp inside).2.2 p.y other

end Box

end DigitTrail.Plane

namespace DigitTrail.Walk

open Plane (Box Clamped Direction Offset Position)

/-! ### Histories -/

def CursorAction.faced? : CursorAction → Option Direction
  | .face d => some d
  | _ => none

def CursorAction.corners? : CursorAction → Option (Position × Position)
  | .enclose p q => some (p, q)
  | _ => none

def latest {α : Type} (given? : CursorAction → Option α) (initial : α)
    (history : List CursorAction) : α :=
  (history.filterMap given?).getLast?.getD initial

/-- The direction that a history of actions faced last, and east if it faced none. -/
def facingAfter : List CursorAction → Direction := latest CursorAction.faced? .e

/-- The corners that a history of actions gave last, and those of the standard box if it gave
none. -/
def cornersAfter : List CursorAction → Position × Position :=
  latest CursorAction.corners? (⟨0, 0⟩, ⟨100, 100⟩)

/-- The last move of a history, which it did not forget, was made with this facing. -/
def LastMoved (history : List CursorAction) (d : Direction) : Prop :=
  ∃ before after, history = before ++ .advance :: after ∧
    .advance ∉ after ∧ .forget ∉ after ∧ facingAfter before = d

section History

variable (history : List CursorAction)

private theorem latest_concat {α : Type} (given? : CursorAction → Option α) (initial : α)
    (a : CursorAction) :
    latest given? initial (history ++ [a]) = (given? a).getD (latest given? initial history) := by
  cases given : given? a <;> simp [latest, given]

@[simp] theorem facingAfter_concat (a : CursorAction) :
    facingAfter (history ++ [a]) = a.faced?.getD (facingAfter history) :=
  latest_concat history _ _ a

@[simp] theorem cornersAfter_concat (a : CursorAction) :
    cornersAfter (history ++ [a]) = a.corners?.getD (cornersAfter history) :=
  latest_concat history _ _ a

private theorem lastMoved_concat {a : CursorAction} {d : Direction} :
    LastMoved (history ++ [a]) d ↔
      (a = .advance ∧ facingAfter history = d) ∨
        (a ≠ .advance ∧ a ≠ .forget ∧ LastMoved history d) := by
  constructor
  · rintro ⟨before, after, parts, unmoved, kept, faced⟩
    obtain rfl | ⟨between, last, rfl⟩ := List.eq_nil_or_concat after
    · obtain ⟨rfl, same⟩ := List.append_inj' parts rfl
      exact .inl ⟨List.singleton_inj.mp same, faced⟩
    · have regrouped : history ++ [a] = (before ++ .advance :: between) ++ [last] := by
        simpa using parts
      obtain ⟨earlier, same⟩ := List.append_inj' regrouped rfl
      rw [← List.singleton_inj.mp same] at unmoved kept
      simp only [List.concat_eq_append, List.mem_append, List.mem_singleton, not_or] at unmoved kept
      exact .inr ⟨Ne.symm unmoved.2, Ne.symm kept.2, before, between, earlier, unmoved.1, kept.1,
        faced⟩
  · rintro (⟨rfl, faced⟩ | ⟨unmoved, kept, before, after, rfl, unmoved', kept', faced⟩)
    · exact ⟨history, [], rfl, nofun, nofun, faced⟩
    · refine ⟨before, after ++ [a], by simp, ?_, ?_, faced⟩
      · simpa using ⟨unmoved', Ne.symm unmoved⟩
      · simpa using ⟨kept', Ne.symm kept⟩

end History

namespace Cursor

/-- What holds of a cursor after a history of actions. -/
structure Sound (history : List CursorAction) (c : Cursor) : Prop where
  spanned : c.box.SpannedBy (cornersAfter history).1 (cornersAfter history).2
  inside : c.box.contains c.position = true
  facing : c.facing = facingAfter history
  coupled : c.velocity = c.facing.offset
  tracked : ∀ d, c.lastMove = some d ↔ LastMoved history d

private theorem sound_start : Sound [] start where
  spanned := by constructor <;> decide
  inside := by decide
  facing := rfl
  coupled := rfl
  tracked := by
    intro d
    refine ⟨nofun, ?_⟩
    rintro ⟨before, after, parts, _⟩
    cases before <;> cases parts

private theorem Sound.apply {history : List CursorAction} {c : Cursor} (sound : Sound history c)
    (a : CursorAction) : Sound (history ++ [a]) (c.apply a) := by
  cases a with
  | face d =>
    refine ⟨?_, sound.inside, ?_, rfl, ?_⟩
    · rw [cornersAfter_concat]
      exact sound.spanned
    · rw [facingAfter_concat]
      rfl
    · intro last
      rw [lastMoved_concat, ← sound.tracked last]
      simp [Cursor.apply, face]
  | advance =>
    refine ⟨?_, Box.contains_nearest sound.spanned.ordered _, ?_, sound.coupled, ?_⟩
    · rw [cornersAfter_concat]
      exact sound.spanned
    · rw [facingAfter_concat]
      exact sound.facing
    · intro last
      rw [lastMoved_concat, ← sound.facing]
      simp [Cursor.apply, advance]
  | enclose p q =>
    refine ⟨?_, Box.contains_nearest (Box.ordered_spanning p q) _, ?_, sound.coupled, ?_⟩
    · rw [cornersAfter_concat]
      exact Plane.Box.spannedBy_spanning p q
    · rw [facingAfter_concat]
      exact sound.facing
    · intro last
      rw [lastMoved_concat, ← sound.tracked last]
      simp [Cursor.apply, enclose]
  | forget =>
    refine ⟨?_, sound.inside, ?_, sound.coupled, ?_⟩
    · rw [cornersAfter_concat]
      exact sound.spanned
    · rw [facingAfter_concat]
      exact sound.facing
    · intro last
      rw [lastMoved_concat]
      simp [Cursor.apply, forget]

private theorem Sound.foldl {history : List CursorAction} {c : Cursor} (sound : Sound history c)
    (more : List CursorAction) : Sound (history ++ more) (more.foldl Cursor.apply c) := by
  induction more generalizing history c with
  | nil =>
    rw [List.append_nil]
    exact sound
  | cons a more ih =>
    rw [List.append_cons]
    exact ih (sound.apply a)

end Cursor

/-! ### Calls -/

/-- A use of a cursor: an action, or a look at a displacement. -/
inductive CursorCall
  | act (action : CursorAction)
  | look (offset : Offset)
  deriving DecidableEq, Repr

def CursorCall.action? : CursorCall → Option CursorAction
  | .act a => some a
  | .look _ => none

namespace Cursor

def respond (c : Cursor) : CursorCall → Option Clamped × Cursor
  | .act a => (none, c.apply a)
  | .look o => (some (c.look o), c)

def after (calls : List CursorCall) : Cursor :=
  calls.foldl (fun c call => (c.respond call).2) start

private theorem after_eq (calls : List CursorCall) :
    after calls = (calls.filterMap CursorCall.action?).foldl apply start := by
  rw [after, List.foldl_filterMap]
  congr 1
  funext c call
  cases call <;> rfl

private theorem sound_after (calls : List CursorCall) :
    Sound (calls.filterMap CursorCall.action?) (after calls) := by
  rw [after_eq]
  exact sound_start.foldl _

/-- After any calls a cursor stands in the box of the corners given last, which is ordered, faces
where it was turned last, keeps the displacement of its facing, remembers its last move since it
last forgot one, and looks without changing. A look gives the exact displacement, stopped at the
limits of the coordinates, if it ends in the box, and the nearest cell of the box otherwise; a
move ends where a look at the velocity points. -/
theorem calls_keep_cursor_sound (calls : List CursorCall) (o : Offset) :
    let c := after calls
    let history := calls.filterMap CursorCall.action?
    let target := c.position.shift o
    c.box.SpannedBy (cornersAfter history).1 (cornersAfter history).2 ∧ c.box.Ordered ∧
    c.box.contains c.position = true ∧
    c.facing = facingAfter history ∧ c.velocity = c.facing.offset ∧
    (∀ d, c.lastMove = some d ↔ LastMoved history d) ∧
    (after (calls ++ [.act .advance])).position = (c.look c.velocity).position ∧
    after (calls ++ [.look o]) = c ∧
    target.x.toInt =
      max Int64.minValue.toInt (min (c.position.x.toInt + o.dx.toInt) Int64.maxValue.toInt) ∧
    target.y.toInt =
      max Int64.minValue.toInt (min (c.position.y.toInt + o.dy.toInt) Int64.maxValue.toInt) ∧
    ((c.look o).moved = false ↔ c.box.contains target = true) ∧
    ((c.look o).moved = false → (c.look o).position = target) ∧
    c.box.IsNearest target (c.look o).position := by
  intro c history target
  have sound : Sound history c := sound_after calls
  have stays : (c.look o).moved = false ↔ c.box.contains target = true :=
    Box.clamp_moved_eq_false_iff c.box target
  refine ⟨sound.spanned, sound.spanned.ordered, sound.inside, sound.facing, sound.coupled,
    sound.tracked, ?_, ?_, Number.toInt_satAdd _ _, Number.toInt_satAdd _ _, stays, ?_,
    Plane.Box.isNearest_nearest sound.spanned.ordered target⟩
  · rw [after, List.foldl_append]
    rfl
  · rw [after, List.foldl_append]
    rfl
  · intro unmoved
    exact (Box.nearest_eq_self_iff c.box target).mpr (stays.mp unmoved)

end Cursor

end DigitTrail.Walk
