import DigitTrail.Entropy
import DigitTrail.Proofs.Program.History
import DigitTrail.Proofs.Reference.Legible

/-!
The walk keeps step with the reference. Whatever a program does, a tick that moves
ends inside the box on a cell that shows the digit the reading has reached, and the
instruction in its column neither moves the walker nor the reading. Until the walk has
met a dead end, the reading is on the reference or one step beyond one of its ends.
-/

set_option autoImplicit false
set_option relaxedAutoImplicit false

namespace DigitTrail.Program

def Footing.OnReference (f : Footing) : Prop :=
  0 ≤ f.index.toInt ∧ f.index.toInt < Int.ofNat f.reference.size

/-- The reading is on the reference or one step beyond one of its ends. -/
def Footing.NearReference (f : Footing) : Prop :=
  -1 ≤ f.index.toInt ∧ f.index.toInt ≤ Int.ofNat f.reference.size

private theorem Footing.OnReference.near {f : Footing} (on : f.OnReference) : f.NearReference := by
  obtain ⟨low, high⟩ := on
  constructor <;> omega

namespace Machine

variable {ε : Type} [Entropy ε]

def Unbroken : Machine ε → List (Event ε) → Prop
  | _, [] => True
  | m, e :: rest =>
    (e.walks = true → ∃ dir d, m.tick.1 = .moved dir d) ∧ (m.undergo e).Unbroken rest

theorem footing_tick (m : Machine ε) :
    m.tick.2.footing.sheet = m.footing.sheet ∧ m.tick.2.footing.box = m.footing.box ∧
      m.tick.2.footing.reference = m.footing.reference ∧
      m.tick.2.footing.index = m.walker.reading.advance.index := by
  rcases tick : m.tick with ⟨t, ticked⟩
  cases t with
  | moved dir d =>
    obtain ⟨_, _, offers, e, rfl⟩ := of_tick_moved tick
    exact ⟨rfl, rfl, rfl, rfl⟩
  | deadEnd stop =>
    rw [of_tick_deadEnd tick]
    exact ⟨rfl, rfl, rfl, rfl⟩

theorem sheet_reference_undergo (m : Machine ε) (e : Event ε) :
    (m.undergo e).footing.sheet = m.footing.sheet ∧
      (m.undergo e).footing.reference = m.footing.reference := by
  by_cases walks : e.walks = true
  · rw [footing_of_walks walks]
    exact ⟨(footing_tick m).1, (footing_tick m).2.2.1⟩
  · cases e with
    | operate op => exact ⟨rfl, rfl⟩
    | enclose a b => exact ⟨rfl, rfl⟩
    | guide g => exact ⟨rfl, rfl⟩
    | supply input => exact ⟨rfl, rfl⟩
    | connect connected => exact ⟨rfl, rfl⟩
    | _ => exact absurd rfl walks

theorem box_undergo (m : Machine ε) {e : Event ε} (fixed : e.encloses = false) :
    (m.undergo e).footing.box = m.footing.box := by
  by_cases walks : e.walks = true
  · rw [footing_of_walks walks]
    exact (footing_tick m).2.1
  · rw [footing_of_not_walks (Bool.eq_false_iff.mpr walks) fixed]

private theorem index_undergo (m : Machine ε) {e : Event ε} (still : e.walks = false) :
    (m.undergo e).footing.index = m.footing.index := by
  cases e with
  | operate op => rfl
  | enclose a b => rfl
  | guide g => rfl
  | supply input => rfl
  | connect connected => rfl
  | _ => cases still

theorem sheet_reference_after (m : Machine ε) (events : List (Event ε)) :
    (m.after events).footing.sheet = m.footing.sheet ∧
      (m.after events).footing.reference = m.footing.reference := by
  have all : ∀ e ∈ events, True := fun _ _ => trivial
  constructor
  · exact view_after (fun m => m.footing.sheet)
      (fun m e _ => (sheet_reference_undergo m e).1) m all
  · exact view_after (fun m => m.footing.reference)
      (fun m e _ => (sheet_reference_undergo m e).2) m all

theorem onDigit_of_moved {m ticked : Machine ε} {dir : Plane.Direction} {d : Digit}
    (h : m.tick = (.moved dir d, ticked)) : ticked.walker.OnDigit ticked.sheet d := by
  obtain ⟨next, offered, offers, e, rfl⟩ := of_tick_moved h
  exact Walk.Walker.onDigit_strode offers next offered

theorem cell_step_of_moved {m ticked : Machine ε} {dir : Plane.Direction} {d : Digit}
    (h : m.tick = (.moved dir d, ticked)) :
    m.sheet.cell m.step.2.walker.cursor.position = .path d := by
  have stands : m.step.2.footing = m.tick.2.footing := footing_of_walks (m := m) (e := .step) rfl
  have position : m.step.2.walker.cursor.position = m.tick.2.walker.cursor.position :=
    congrArg Footing.position stands
  have sheet : m.tick.2.sheet = m.sheet := (footing_tick m).1
  rw [position, ← sheet, h]
  exact (onDigit_of_moved h).cell

private theorem position_undergo_cases (m : Machine ε) {e : Event ε} (fixed : e.encloses = false) :
    (m.undergo e).footing.position = m.footing.position ∨
      m.footing.box.contains (m.undergo e).footing.position = true ∧
        ∃ d, m.footing.sheet.cell (m.undergo e).footing.position = .path d := by
  by_cases walks : e.walks = true
  · rw [footing_of_walks walks]
    obtain ⟨sheet, box, _⟩ := footing_tick m
    rcases tick : m.tick with ⟨t, ticked⟩
    rw [tick] at sheet box
    cases t with
    | moved dir d =>
      have on := onDigit_of_moved tick
      rw [← sheet, ← box]
      exact .inr ⟨on.inside, d, on.cell⟩
    | deadEnd stop =>
      rw [of_tick_deadEnd tick]
      exact .inl rfl
  · rw [footing_of_not_walks (Bool.eq_false_iff.mpr walks) fixed]
    exact .inl rfl

theorem position_after_cases (m : Machine ε) {events : List (Event ε)}
    (fixed : ∀ e ∈ events, e.encloses = false) :
    (m.after events).footing.position = m.footing.position ∨
      m.footing.box.contains (m.after events).footing.position = true ∧
        ∃ d, m.footing.sheet.cell (m.after events).footing.position = .path d := by
  induction events generalizing m with
  | nil => exact .inl rfl
  | cons e events ih =>
    have first := fixed e List.mem_cons_self
    rcases ih (m.undergo e) fun x member => fixed x (List.mem_cons_of_mem e member) with
      stays | moves
    · have here : (m.after (e :: events)).footing.position = (m.undergo e).footing.position := stays
      rw [here]
      exact position_undergo_cases m first
    · rw [box_undergo m first, (sheet_reference_undergo m e).1] at moves
      exact .inr moves

private theorem tick_eq_of_fst {m : Machine ε} {t : Walk.Tick} (h : m.tick.1 = t) :
    m.tick = (t, m.tick.2) :=
  Prod.ext h rfl

private theorem onReference_undergo {m : Machine ε} (on : m.footing.OnReference) {e : Event ε}
    (moves : e.walks = true → ∃ dir d, m.tick.1 = .moved dir d) :
    (m.undergo e).footing.OnReference := by
  unfold Footing.OnReference at on ⊢
  by_cases walks : e.walks = true
  · obtain ⟨dir, d, moved⟩ := moves walks
    rw [footing_of_walks walks]
    exact Reference.index_of_get? (onDigit_of_moved (tick_eq_of_fst moved)).digit
  · rw [index_undergo m (Bool.eq_false_iff.mpr walks), (sheet_reference_undergo m e).2]
    exact on

private theorem onReference_after {m : Machine ε} (on : m.footing.OnReference)
    {events : List (Event ε)} (unbroken : m.Unbroken events) :
    (m.after events).footing.OnReference := by
  induction events generalizing m with
  | nil => exact on
  | cons e events ih => exact ih (onReference_undergo on unbroken.1) unbroken.2

private theorem nearReference_undergo {m : Machine ε} (on : m.footing.OnReference)
    (short : m.footing.reference.size < Nat.pow 2 63) (e : Event ε) :
    (m.undergo e).footing.NearReference := by
  unfold Footing.OnReference at on
  unfold Footing.NearReference
  rw [(sheet_reference_undergo m e).2]
  by_cases walks : e.walks = true
  · rw [footing_of_walks walks, (footing_tick m).2.2.2]
    have limit : Nat.pow 2 63 = 9223372036854775808 := rfl
    have moved : m.walker.reading.advance.index.toInt = m.footing.index.toInt + 1 ∨
        m.walker.reading.advance.index.toInt = m.footing.index.toInt - 1 := by
      have sum := Number.toInt_satAdd m.walker.reading.index m.walker.reading.heading.step
      have index : m.footing.index = m.walker.reading.index := rfl
      have forward : Reference.Heading.forward.step.toInt = 1 := by decide
      have backward : Reference.Heading.backward.step.toInt = -1 := by decide
      rw [Number.toInt_minValue, Number.toInt_maxValue] at sum
      simp only [Reference.Reading.advance, index] at on ⊢
      simp only [Int.ofNat_eq_natCast] at on
      cases heading : m.walker.reading.heading with
      | forward => rw [heading, forward] at sum; omega
      | backward => rw [heading, backward] at sum; omega
    omega
  · rw [index_undergo m (Bool.eq_false_iff.mpr walks)]
    omega

/-- Walk and reference keep step, for every source, reference, box, source of chance,
guide and input, and in every history in which the box is chosen before the first tick:
a step whose tick moves carries out the instruction of the digit it found and, whatever
becomes of that, ends inside the box on a cell of the source that shows this digit, which
is the digit of the reference at the index of the reading; and as long as no tick but the
last met a dead end, the index is at most one step beyond the ends of the reference. -/
theorem walk_keeps_step_with_reference {reference : Reference} (legible : reference.Legible)
    (short : reference.size < Nat.pow 2 63) (source : String) (entropy : ε) (input : Input)
    (connected : Bool) (setup events : List (Event ε))
    (unstarted : ∀ e ∈ setup, e.walks = false) (fixed : ∀ e ∈ events, e.encloses = false) :
    let ready := (Machine.load reference source entropy input connected).after setup
    let m := ready.after events
    (∀ dir d ticked, m.tick = (.moved dir d, ticked) →
      m.begin = ticked.execute d ∧
      ready.walker.cursor.box.contains m.step.2.walker.cursor.position = true ∧
      (Sheet.ofText source).cell m.step.2.walker.cursor.position = .path d ∧
      reference.get? m.step.2.walker.reading.index = some d) ∧
    (ready.Unbroken events →
      m.footing.NearReference ∧ ∀ e, (m.undergo e).footing.NearReference) := by
  intro ready m
  have sheet : m.footing.sheet = .ofText source ∧ m.footing.reference = reference := by
    have prepared := sheet_reference_after (.load reference source entropy input connected) setup
    have run := sheet_reference_after ready events
    exact ⟨run.1.trans prepared.1, run.2.trans prepared.2⟩
  constructor
  · intro dir d ticked tick
    have stands : m.step.2.footing = ticked.footing := by
      have := footing_of_walks (m := m) (e := .step) rfl
      rwa [tick] at this
    have on := onDigit_of_moved tick
    have ticked_eq : m.tick.2 = ticked := by rw [tick]
    obtain ⟨sheet_tick, box_tick, reference_tick, _⟩ := ticked_eq ▸ footing_tick m
    have position : m.step.2.walker.cursor.position = ticked.walker.cursor.position :=
      congrArg Footing.position stands
    have index : m.step.2.walker.reading.index = ticked.walker.reading.index :=
      congrArg Footing.index stands
    have box : ticked.walker.cursor.box = ready.walker.cursor.box :=
      box_tick.trans (view_after (fun m => m.footing.box) box_undergo ready fixed)
    refine ⟨begin_of_moved tick, ?_, ?_, ?_⟩
    · rw [position, ← box]
      exact on.inside
    · rw [position, ← sheet.1, ← sheet_tick]
      exact on.cell
    · rw [index, ← sheet.2, ← reference_tick]
      exact on.digit
  · intro unbroken
    have start : ready.footing.OnReference := by
      have index := view_after (fun m => m.footing.index) index_undergo
        (.load reference source entropy input connected) unstarted
      have same := sheet_reference_after (.load reference source entropy input connected) setup
      have pos := legible.size_pos
      have zero : (0 : Int64).toInt = 0 := rfl
      unfold Footing.OnReference
      rw [index, same.2]
      simp only [footing, load, Walk.Walker.start, Reference.Reading.start, zero]
      simp only [Int.ofNat_eq_natCast]
      omega
    have on := onReference_after start unbroken
    have short' : m.footing.reference.size < Nat.pow 2 63 := sheet.2 ▸ short
    exact ⟨on.near, nearReference_undergo on short'⟩

/-- After a step that failed, in a box that reaches the last column there is. -/
theorem walk_keeps_step_after_a_fault :
    let reference : Reference := ⟨#[some 3, some 1, some 4]⟩
    let ready := (Machine.load reference "3 1 4\n  v" (⟨[]⟩ : Entropy.Script) .closed true).after
      [.enclose ⟨0, 0⟩ ⟨Int64.maxValue, 5⟩]
    let m := ready.after [.step]
    ready.step.1 = .error (.malformed .name .blank ⟨3, 3⟩) ∧
    ready.walker.cursor.box.contains m.step.2.walker.cursor.position = true ∧
    (Sheet.ofText "3 1 4\n  v").cell m.step.2.walker.cursor.position = .path 4 ∧
    reference.get? m.step.2.walker.reading.index = some 4 ∧
    (m.undergo .step).footing.NearReference := by
  intro reference
  have legible : reference.Legible := .inr ⟨"314", by decide +kernel⟩
  have keeps := walk_keeps_step_with_reference legible (by decide) "3 1 4\n  v"
    (⟨[]⟩ : Entropy.Script) .closed true [.enclose ⟨0, 0⟩ ⟨Int64.maxValue, 5⟩] [.step]
    (by simp [Event.walks]) (by simp [Event.encloses])
  obtain ⟨_, inside, cell, digit⟩ := keeps.1 .e 4 _ (tick_eq_of_fst (by decide))
  have near := keeps.2 ⟨fun _ => ⟨.e, 1, by decide⟩, trivial⟩
  exact ⟨by decide, inside, cell, digit, near.2 .step⟩

end Machine

end DigitTrail.Program
