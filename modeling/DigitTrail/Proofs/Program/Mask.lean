import DigitTrail.Proofs.Program.Guise
import DigitTrail.Proofs.Program.Synchrony

/-!
The box of a walk is only a mask. A program in a box goes the same way as one in any larger
box whose sheet is blank outside the first: the two run in lockstep, with the same walker
but for its box and with the same memory, and a step comes to the same, except that the
place which a fault points at is brought into the box of its own walk.
-/

set_option autoImplicit false
set_option relaxedAutoImplicit false

namespace DigitTrail

open Plane (Box Direction Offset Place Position)

instance : HasSubset Box := ⟨fun b b' => ∀ p, b.contains p = true → b'.contains p = true⟩

private theorem Plane.Box.subset_of_corners {b b' : Box} (lo : b'.contains b.lo = true)
    (hi : b'.contains b.hi = true) : b ⊆ b' := by
  intro p inside
  simp only [contains, Bool.and_eq_true, decide_eq_true_eq] at lo hi inside ⊢
  obtain ⟨⟨⟨west, _⟩, north⟩, _⟩ := lo
  obtain ⟨⟨⟨_, east⟩, _⟩, south⟩ := hi
  obtain ⟨⟨⟨left, right⟩, up⟩, down⟩ := inside
  exact ⟨⟨⟨Int64.le_trans west left, Int64.le_trans right east⟩, Int64.le_trans north up⟩,
    Int64.le_trans down south⟩

namespace Sheet

def masked (s : Sheet) (b : Box) : Sheet :=
  ⟨s.rows.mapIdx fun y row => row.mapIdx fun x cell =>
    if b.contains ⟨Int64.ofNat x, Int64.ofNat y⟩ then cell else .blank⟩

private theorem height_masked (s : Sheet) (b : Box) : (s.masked b).height = s.height := by
  simp [masked, height]

private theorem ofNat_of_index? {i : Int64} {n : Nat} (h : Number.index? i = some n) :
    Int64.ofNat n = i := by
  have value := Number.toInt_nonneg_of_index? h
  rw [← Int64.ofInt_toInt i, value]
  rfl

private theorem cell_masked (s : Sheet) (b : Box) (p : Position) :
    (s.masked b).cell p = if b.contains p then s.cell p else .blank := by
  unfold cell
  split
  · rename_i x y hx hy
    have here : (⟨Int64.ofNat x, Int64.ofNat y⟩ : Position) = p := by
      rw [ofNat_of_index? hx, ofNat_of_index? hy]
    cases row : s.rows[y]? with
    | none => simp [masked, row]
    | some cells =>
      cases found : cells[x]? with
      | none => simp [masked, row, found]
      | some c => simp [masked, row, found, here]
  · simp

end Sheet

namespace Walk.Walker

def inBox (w : Walker) (b : Box) : Walker := { w with cursor := { w.cursor with box := b } }

theorem look_eq (w : Walker) (s : Sheet) (o : Offset) :
    w.look s o = if w.cursor.box.contains (w.cursor.position.shift o) then
      s.cell (w.cursor.position.shift o) else .blank := by
  unfold look Cursor.look
  by_cases inside : w.cursor.box.contains (w.cursor.position.shift o) = true
  · have place := (Box.nearest_eq_self_iff _ _).mpr inside
    simp [inside, Box.clamp, place]
  · have moved := mt (Box.clamp_moved_eq_false_iff _ _).mp inside
    rw [if_pos (by simpa using moved), if_neg inside]

variable {w : Walker} {s : Sheet} {b : Box}

private theorem look_masked (inner : w.cursor.box ⊆ b) (o : Offset) :
    (w.inBox b).look (s.masked w.cursor.box) o = w.look s o := by
  rw [look_eq, look_eq, Sheet.cell_masked]
  by_cases inside : w.cursor.box.contains (w.cursor.position.shift o) = true
  · simp [inBox, inside, inner _ inside]
  · simp [inBox, inside]

private theorem onward_masked (inner : w.cursor.box ⊆ b) (d : Digit) :
    (w.inBox b).onward (s.masked w.cursor.box) d = w.onward s d := by
  have same : (w.inBox b).candidates (s.masked w.cursor.box) d = w.candidates s d := by
    simp only [candidates, look_masked inner]
  unfold onward
  rw [same]
  rfl

private theorem move_inBox (dir : Direction)
    (inside : w.cursor.box.contains (w.cursor.position.shift dir.offset) = true)
    (inside' : b.contains (w.cursor.position.shift dir.offset) = true) :
    (w.inBox b).move dir = (w.move dir).inBox b := by
  have here := (Box.nearest_eq_self_iff _ _).mpr inside
  have there := (Box.nearest_eq_self_iff _ _).mpr inside'
  simp only [move, inBox, Cursor.advance, Cursor.face, Cursor.look, Box.clamp, here,
    there]

end Walk.Walker

namespace Program

/-- The same fault at another place, if it points at one. -/
def Fault.relocate (place : Place) : Fault → Fault
  | .malformed expected found _ => .malformed expected found place
  | .inputUnavailable => .inputUnavailable
  | .readAbandoned key => .readAbandoned key

private theorem Fault.exists_relocate_eq (result : Except Fault Step) :
    ∃ place, result.mapError (Fault.relocate place) = result := by
  rcases result with (⟨expected, found, place⟩ | _ | key) | went
  · exact ⟨place, rfl⟩
  · exact ⟨Position.origin.place, rfl⟩
  · exact ⟨Position.origin.place, rfl⟩
  · exact ⟨Position.origin.place, rfl⟩

def placing (s : Sheet) (b : Box) : Guise where
  sheet := fun _ => s
  box := fun _ => b

namespace Machine

variable {ε : Type}

def placed (m : Machine ε) (s : Sheet) (b : Box) : Machine ε :=
  { m with sheet := s, walker := m.walker.inBox b }

private theorem placed_eq (m : Machine ε) (s : Sheet) (b : Box) :
    m.placed s b = m.inGuise (placing s b) := by
  unfold inGuise placing
  rw [Memory.preceded_empty]
  rfl

end Machine

/-- The same phase on another sheet and in another box, a fault in it at another place. -/
def Phase.placed {ε : Type} (s : Sheet) (b : Box) (place : Place) : Phase ε → Phase ε
  | .done result m => .done (result.mapError (Fault.relocate place)) (m.placed s b)
  | .asking q m => .asking q (m.placed s b)

private theorem Phase.machine_placed {ε : Type} (phase : Phase ε) (s : Sheet) (b : Box)
    (place : Place) :
    (phase.placed s b place).machine = phase.machine.placed s b := by
  cases phase <;> rfl

private theorem Phase.exists_placed_eq {ε : Type} (phase : Phase ε) (s : Sheet) (b : Box) :
    ∃ place, phase.placed s b place = phase.inGuise (placing s b) := by
  cases phase with
  | done result m =>
    obtain ⟨place, same⟩ := Fault.exists_relocate_eq result
    exact ⟨place, congrArg₂ Phase.done same (m.placed_eq s b)⟩
  | asking q m => exact ⟨Position.origin.place, congrArg (Phase.asking q) (m.placed_eq s b)⟩

namespace Machine

variable {ε : Type} (m : Machine ε) (s : Sheet) (b : Box)

/-! ### What a machine sees -/

/-- On this sheet and in this box a machine sees no more and no less than on its own. -/
structure Masks (m : Machine ε) (s : Sheet) (b : Box) : Prop where
  inner : m.walker.cursor.box ⊆ b
  sheet : s = m.sheet.masked m.walker.cursor.box

namespace Masks

variable {m s b}

private theorem of_footing {m' : Machine ε} (h : m.Masks s b) (sheet : m'.sheet = m.sheet)
    (box : m'.walker.cursor.box = m.walker.cursor.box) : m'.Masks s b :=
  ⟨box ▸ h.inner, by rw [sheet, box]; exact h.sheet⟩

private theorem column (h : m.Masks s b) : (m.placed s b).column = m.column := by
  have below : (m.placed s b).below = m.below := by
    rw [h.sheet]
    exact funext fun rows => Walk.Walker.look_masked h.inner _
  have height : (m.placed s b).sheet.height = m.sheet.height := by
    rw [h.sheet]
    exact Sheet.height_masked m.sheet _
  unfold Machine.column
  rw [below, height]

end Masks

private theorem Masks.sees {m : Machine ε} {s : Sheet} {b : Box} (h : m.Masks s b) :
    m.walker.Sees (placing s b) m.sheet where
  digit := rfl
  previous := fun _ _ => rfl
  onward := by
    intro d
    rw [h.sheet]
    exact Walk.Walker.onward_masked h.inner d
  move := by
    intro d dir offered
    have onward := (Walk.Walker.mem_onward_iff m.walker m.sheet d dir).mp offered
    have inside := ((Walk.Walker.look_digit_iff m.walker m.sheet _ d).mp onward.1).1
    exact congrArg Walk.Walker.cursor
      (Walk.Walker.move_inBox dir inside (h.inner _ inside))

variable [Entropy ε]

private theorem perform_placed (d : Digit) (p : Prepared) (instruction : Instruction) :
    ∃ place, (m.placed s b).perform d p instruction =
      (m.perform d p instruction).placed s b place := by
  by_cases malformed : ∃ expected found row, instruction = .malformed expected found row
  · obtain ⟨expected, found, row, rfl⟩ := malformed
    exact ⟨(m.placed s b).faultPlace row, rfl⟩
  · obtain ⟨place, same⟩ := (m.perform d p instruction).exists_placed_eq s b
    refine ⟨place, ?_⟩
    rw [same, placed_eq]
    apply perform_inGuise
    intro expected found row column
    exact absurd ⟨expected, found, row, column⟩ malformed

/-! ### Lockstep -/

namespace Masks

variable {m s b}

private theorem ticked (h : m.Masks s b) : m.tick.2.Masks s b :=
  have kept := footing_tick m
  h.of_footing kept.1 kept.2.1

private theorem undergone (h : m.Masks s b) {e : Event ε} (fixed : e.encloses = false) :
    (m.undergo e).Masks s b :=
  h.of_footing (sheet_reference_undergo m e).1 (box_undergo m fixed)

private theorem tick (h : m.Masks s b) : (m.placed s b).tick = (m.tick.1, m.tick.2.placed s b) := by
  rw [placed_eq, placed_eq]
  exact tick_inGuise m _ h.sees

private theorem execute (h : m.Masks s b) (d : Digit) :
    ∃ place, (m.placed s b).execute d = (m.execute d).placed s b place := by
  have column := h.column
  unfold Machine.execute
  rw [column, placed_eq, prepare_inGuise, ← placed_eq]
  exact perform_placed _ s b d _ _

private theorem begin (h : m.Masks s b) :
    ∃ place, (m.placed s b).begin = m.begin.placed s b place := by
  have lockstep := h.tick
  have masks := h.ticked
  rcases tick : m.tick with ⟨_ | _, ticked⟩
  · rw [tick] at lockstep masks
    rw [begin_of_moved lockstep, begin_of_moved tick]
    exact masks.execute _
  · rw [tick] at lockstep
    rw [begin_of_deadEnd lockstep, begin_of_deadEnd tick]
    exact ⟨ticked.faultPlace 0, rfl⟩

private theorem step (h : m.Masks s b) :
    ∃ place, (m.placed s b).step =
      (m.step.1.mapError (Fault.relocate place), m.step.2.placed s b) := by
  obtain ⟨place, begun⟩ := h.begin
  cases phase : m.begin with
  | done result m' =>
    rw [phase] at begun
    refine ⟨place, ?_⟩
    rw [step_of_done begun, step_of_done phase]
  | asking q m' =>
    rw [phase] at begun
    obtain ⟨place', same⟩ := Fault.exists_relocate_eq
      ({ m' with input := m'.input.next.2 }.answer q m'.input.next.1).1
    refine ⟨place', ?_⟩
    rw [step_of_asking begun, step_of_asking phase, same]
    change ({ m' with input := m'.input.next.2 }.placed s b).answer q m'.input.next.1 = _
    rw [placed_eq, placed_eq, answer_inGuise]

private theorem undergo (h : m.Masks s b) {e : Event ε} (fixed : e.encloses = false) :
    (m.placed s b).undergo e = (m.undergo e).placed s b := by
  cases e with
  | step =>
    obtain ⟨place, stepped⟩ := h.step
    change (m.placed s b).step.2 = m.step.2.placed s b
    rw [stepped]
  | tick =>
    change (m.placed s b).tick.2 = m.tick.2.placed s b
    rw [h.tick]
  | abandon =>
    obtain ⟨place, begun⟩ := h.begin
    exact (congrArg Phase.machine begun).trans (m.begin.machine_placed s b place)
  | enclose a b => cases fixed
  | _ => rfl

private theorem after (h : m.Masks s b) {events : List (Event ε)}
    (fixed : ∀ e ∈ events, e.encloses = false) :
    (m.placed s b).after events = (m.after events).placed s b ∧ (m.after events).Masks s b := by
  induction events generalizing m with
  | nil => exact ⟨rfl, h⟩
  | cons e events ih =>
    have first : e.encloses = false := fixed e List.mem_cons_self
    obtain ⟨same, masks⟩ := ih (h.undergone first) fun x member =>
      fixed x (List.mem_cons_of_mem e member)
    refine ⟨?_, masks⟩
    calc (m.placed s b).after (e :: events)
        = ((m.placed s b).undergo e).after events := rfl
      _ = ((m.undergo e).placed s b).after events := by rw [h.undergo first]
      _ = (m.after (e :: events)).placed s b := same

end Masks

/-- The box is only a mask. For every source, reference, source of chance and input, take a
box that holds the origin and a larger box: after every history of steps and of whatever a
driver does in between (guides included) that keeps the boxes, the program in the smaller box
and the program in the larger box on the sheet masked by the smaller one differ in nothing
but their sheets and their boxes, and the next step comes to the same in both, up to the
place in the fault of a malformed column. -/
theorem box_is_only_a_mask (reference : Reference) (source : String) (entropy : ε)
    (input : Input) (connected : Bool) {a b a' b' : Position}
    (inner : Box.spanning a b ⊆ Box.spanning a' b')
    (home : (Box.spanning a b).contains .origin = true) (events : List (Event ε))
    (fixed : ∀ e ∈ events, e.encloses = false) :
    let masked := (Sheet.ofText source).masked (.spanning a b)
    let small := (Machine.load reference source entropy input connected).enclosed a b
    let large := { (Machine.load reference source entropy input connected).enclosed a' b' with
      sheet := masked }
    large.after events = (small.after events).placed masked (.spanning a' b') ∧
      ∃ place, (large.after events).step.1 =
        (small.after events).step.1.mapError (Fault.relocate place) := by
  intro masked small large
  have start : large = small.placed masked (.spanning a' b') := by
    have here := (Box.nearest_eq_self_iff _ _).mpr home
    have there := (Box.nearest_eq_self_iff _ _).mpr (inner _ home)
    simp only [large, small, enclosed, load, Walk.Walker.start, Walk.Cursor.start,
      Walk.Cursor.enclose, placed, Walk.Walker.inBox, here, there]
  have masks : small.Masks masked (.spanning a' b') := ⟨inner, rfl⟩
  obtain ⟨same, masks'⟩ := masks.after fixed
  obtain ⟨place, stepped⟩ := masks'.step
  rw [start, same]
  exact ⟨rfl, place, congrArg Prod.fst stepped⟩

/-- The name that a store needs lies outside the smaller box: both programs miss it, each at
its own place. -/
theorem mask_hides_an_operand :
    let masked := (Sheet.ofText "3\n 1\n v\n A").masked (.spanning ⟨2, 2⟩ ⟨0, 0⟩)
    let loaded := Machine.load ⟨#[some 3, some 1]⟩ "3\n 1\n v\n A" (⟨[]⟩ : Entropy.Script)
      .closed true
    let small := loaded.enclosed ⟨2, 2⟩ ⟨0, 0⟩
    let large := { loaded.enclosed ⟨-1, 0⟩ ⟨9, 9⟩ with sheet := masked }
    small.step.1 = .error (.malformed .name .blank ⟨3, 2⟩) ∧
      large.step.1 = .error (.malformed .name .blank ⟨4, 2⟩) ∧
      large.after [.step] = (small.after [.step]).placed masked (.spanning ⟨-1, 0⟩ ⟨9, 9⟩) := by
  intro masked loaded small large
  have inner : Box.spanning ⟨2, 2⟩ ⟨0, 0⟩ ⊆ Box.spanning ⟨-1, 0⟩ ⟨9, 9⟩ :=
    Plane.Box.subset_of_corners (by decide) (by decide)
  have mask := box_is_only_a_mask ⟨#[some 3, some 1]⟩ "3\n 1\n v\n A" (⟨[]⟩ : Entropy.Script)
    .closed true inner (by decide) [.step] (by simp [Event.encloses])
  exact ⟨by decide +kernel, by decide +kernel, mask.1⟩

end Machine

end Program

end DigitTrail
