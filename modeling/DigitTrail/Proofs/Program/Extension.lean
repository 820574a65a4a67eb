import DigitTrail.Proofs.Program.Guise
import DigitTrail.Proofs.Program.Termination

/-!
Longer references. A walk that follows a reference never looks ahead of the index that its tick
has reached, so as long as no tick runs past the end of a reference, a longer one with the same
beginning leads the program the same way, step for step.
-/

set_option autoImplicit false
set_option relaxedAutoImplicit false

namespace DigitTrail

open Reference (Heading Reading marksOf)

namespace Reference

def Begins (r longer : Reference) : Prop := r.marks.toList <+: longer.marks.toList

private theorem begins_of_bytes {text text' : String}
    (h : (Text.trimBlank text).toUTF8.toList <+: (Text.trimBlank text').toUTF8.toList) :
    Begins ⟨marksOf text⟩ ⟨marksOf text'⟩ := by
  unfold Begins marksOf
  exact h.map digitOfByte?

private theorem get?_of_begins {r longer : Reference} (begins : r.Begins longer) {i : Int64}
    (inside : i.toInt < r.size) : longer.get? i = r.get? i := by
  unfold get?
  cases counted : Number.index? i with
  | none => rfl
  | some n =>
    have value := Number.toInt_nonneg_of_index? counted
    have lt : n < r.marks.toList.length := by
      simp only [Int.ofNat_eq_natCast] at value
      simp only [size] at inside
      rw [Array.length_toList]
      omega
    obtain ⟨rest, split⟩ := begins
    have same : longer.marks[n]? = r.marks[n]? := by
      rw [← Array.getElem?_toList, ← Array.getElem?_toList, ← split,
        List.getElem?_append_left lt]
    change (longer.marks[n]?).join = (r.marks[n]?).join
    rw [same]

namespace Reading

/-- Neither the index that a step reaches nor the one that it comes from is ahead of where the
reading has been, so both are inside if the step does not run past the end. -/
private theorem inside_advance {r : Reading} {size : Nat} (inside : r.index.toInt < size)
    (lasts : r.advance.index.toInt ≠ size) :
    r.advance.index.toInt < size ∧
      (Number.satAdd r.advance.index (-r.advance.heading.step)).toInt < size := by
  have next : r.advance.index.toInt = _ := Number.toInt_satAdd r.index r.heading.step
  have back := Number.toInt_satAdd r.advance.index (-r.heading.step)
  have same : r.advance.heading = r.heading := rfl
  rw [Number.toInt_minValue, Number.toInt_maxValue] at next back
  rw [same]
  cases heading : r.heading with
  | forward =>
    have one : Heading.forward.step.toInt = 1 := by decide
    have opposite : (-Heading.forward.step).toInt = -1 := by decide
    rw [heading] at next back
    rw [one] at next
    rw [opposite] at back
    omega
  | backward =>
    have one : Heading.backward.step.toInt = -1 := by decide
    have opposite : (-Heading.backward.step).toInt = 1 := by decide
    rw [heading] at next back
    rw [one] at next
    rw [opposite] at back
    omega

end Reading

end Reference

namespace Program.Machine

variable {ε : Type}

/-- The same machine, following another reference from the same index. -/
def following (m : Machine ε) (r : Reference) : Machine ε :=
  { m with walker := { m.walker with reading := { m.walker.reading with reference := r } } }

private theorem following_eq (m : Machine ε) (r : Reference) :
    m.following r = m.inGuise { reference := fun _ => r } := by
  unfold inGuise
  rw [Memory.preceded_empty]
  rfl

variable [Entropy ε]

/-- The next tick finds a dead end because it takes the reading past the end of the reference. -/
def Overruns (m : Machine ε) : Prop :=
  (∃ stop, m.tick.1 = .deadEnd stop) ∧
    m.tick.2.walker.reading.index.toInt = m.walker.reading.reference.size

/-- No event of a history takes the reading past the end of the reference. -/
def Lasts : Machine ε → List (Event ε) → Prop
  | _, [] => True
  | m, e :: rest => (e.walks = true → ¬ m.Overruns) ∧ (m.undergo e).Lasts rest

/-- The index of the reading is not past the last digit of the reference. It may be before the
first one. -/
def Inside (m : Machine ε) : Prop :=
  m.walker.reading.index.toInt < m.walker.reading.reference.size

section Lockstep

variable {m : Machine ε} {longer : Reference}

private theorem advance_ne_size (lasts : ¬ m.Overruns) :
    m.walker.reading.advance.index.toInt ≠ m.walker.reading.reference.size := by
  intro reached
  have index : m.tick.2.walker.reading.index = m.walker.reading.advance.index :=
    (footing_tick m).2.2.2
  refine lasts ⟨?_, by rw [index]; exact reached⟩
  cases t : m.tick.1 with
  | deadEnd stop => exact ⟨stop, rfl⟩
  | moved dir d =>
    obtain ⟨next, _⟩ := of_tick_moved (tick_eta t)
    have inside := (Reference.index_of_get? next).2
    simp only [Int.ofNat_eq_natCast] at inside
    exact absurd reached (Int.ne_of_lt inside)

private theorem Inside.sees (inside : m.Inside) (lasts : ¬ m.Overruns)
    (begins : m.walker.reading.reference.Begins longer) :
    m.walker.Sees { reference := fun _ => longer } m.sheet := by
  obtain ⟨reached, left⟩ := Reference.Reading.inside_advance inside (advance_ne_size lasts)
  exact {
    digit := Reference.get?_of_begins begins reached
    previous := fun _ _ => Reference.get?_of_begins begins left
    onward := fun _ => rfl
    move := fun _ _ _ => rfl }

private theorem Inside.undergone (inside : m.Inside) {e : Event ε}
    (lasts : e.walks = true → ¬ m.Overruns) : (m.undergo e).Inside := by
  have reference : (m.undergo e).walker.reading.reference = m.walker.reading.reference :=
    (sheet_reference_undergo m e).2
  unfold Inside
  rw [reference]
  by_cases walks : e.walks = true
  · have index : (m.undergo e).walker.reading.index = m.walker.reading.advance.index :=
      (congrArg Footing.index (footing_of_walks walks)).trans (footing_tick m).2.2.2
    rw [index]
    exact (Reference.Reading.inside_advance inside (advance_ne_size (lasts walks))).1
  · rw [reading_of_not_walks m (Bool.eq_false_iff.mpr walks)]
    exact inside

private theorem Inside.step_following (inside : m.Inside) (lasts : ¬ m.Overruns)
    (begins : m.walker.reading.reference.Begins longer) :
    (m.following longer).step = (m.step.1, m.step.2.following longer) := by
  rw [following_eq, following_eq]
  exact step_inGuise m rfl rfl rfl (inside.sees lasts begins)

private theorem Inside.undergo_following (inside : m.Inside) {e : Event ε}
    (lasts : e.walks = true → ¬ m.Overruns)
    (begins : m.walker.reading.reference.Begins longer) :
    (m.following longer).undergo e = (m.undergo e).following longer := by
  cases e with
  | step =>
    change (m.following longer).step.2 = m.step.2.following longer
    rw [inside.step_following (lasts rfl) begins]
  | tick =>
    change (m.following longer).tick.2 = m.tick.2.following longer
    rw [following_eq, following_eq, tick_inGuise m _ (inside.sees (lasts rfl) begins)]
  | abandon =>
    change (m.following longer).begin.machine = m.begin.machine.following longer
    rw [following_eq, following_eq, begin_inGuise m rfl rfl (inside.sees (lasts rfl) begins),
      Phase.machine_inGuise]
  | _ => rfl

private theorem Inside.after_following (inside : m.Inside) {events : List (Event ε)}
    (lasts : m.Lasts events) (begins : m.walker.reading.reference.Begins longer) :
    (m.following longer).after events = (m.after events).following longer ∧
      (m.after events).Inside := by
  induction events generalizing m with
  | nil => exact ⟨rfl, inside⟩
  | cons e events ih =>
    obtain ⟨first, rest⟩ := lasts
    have begins' : (m.undergo e).walker.reading.reference.Begins longer := by
      have kept : (m.undergo e).walker.reading.reference = m.walker.reading.reference :=
        (sheet_reference_undergo m e).2
      rw [kept]
      exact begins
    obtain ⟨same, inside'⟩ := ih (inside.undergone first) rest begins'
    refine ⟨?_, inside'⟩
    calc (m.following longer).after (e :: events)
        = ((m.following longer).undergo e).after events := rfl
      _ = ((m.undergo e).following longer).after events := by
          rw [inside.undergo_following first begins]
      _ = (m.after (e :: events)).following longer := same

private theorem not_overruns_of_running (running : m.step.1 = .ok .running) : ¬ m.Overruns := by
  rintro ⟨⟨stop, ended⟩, _⟩
  obtain ⟨dir, d, moved⟩ := moved_of_running running
  rw [moved] at ended
  cases ended

private theorem not_overruns_of_ending {ending : Except Fault Ending}
    (ends : ending? m.step.1 = some ending)
    (short : ∀ stop, ending = .ok (.crashed stop) →
      m.step.2.walker.reading.index.toInt ≠ m.walker.reading.reference.size) :
    ¬ m.Overruns := by
  rintro ⟨⟨stop, dead⟩, reached⟩
  have stepped := step_of_done (begin_of_deadEnd (tick_eta dead))
  rw [stepped] at ends short
  exact short stop (Option.some.inj ends).symm reached

private theorem Inside.run_following (inside : m.Inside)
    (begins : m.walker.reading.reference.Begins longer) {fuel : Nat}
    {ending : Except Fault Ending} {last : Machine ε} (run : m.run fuel = (some ending, last))
    (short : ∀ stop, ending = .ok (.crashed stop) →
      last.walker.reading.index.toInt ≠ m.walker.reading.reference.size) :
    (m.following longer).run fuel = (some ending, last.following longer) := by
  induction fuel generalizing m with
  | zero => cases run
  | succ fuel ih =>
    rw [run_succ] at run ⊢
    cases ends : ending? m.step.1 with
    | some e =>
      rw [ends] at run
      obtain ⟨same, rfl⟩ := Prod.mk.inj run
      obtain rfl := Option.some.inj same
      rw [inside.step_following (not_overruns_of_ending ends short) begins]
      dsimp only
      rw [ends]
    | none =>
      rw [ends] at run
      have lasts := not_overruns_of_running (ending?_eq_none_iff.mp ends)
      have kept : (m.undergo .step).walker.reading.reference = m.walker.reading.reference :=
        (sheet_reference_undergo m .step).2
      change m.step.2.walker.reading.reference = _ at kept
      rw [inside.step_following lasts begins]
      dsimp only
      rw [ends]
      exact ih (inside.undergone (e := .step) fun _ => lasts) (kept ▸ begins) run (kept ▸ short)

end Lockstep

/-- Longer references are conservative. Take any source, source of chance and input, and two
references of which the trimmed bytes of one begin the trimmed bytes of the other. After every
history (steps, boxes, guides, and all that a driver does) in which no tick met its dead end at
the end of the shorter reference, the two programs differ in nothing but their references; the
next step comes to the same in both unless it meets that dead end; and a run that ends in any
other way, by an exit, a fault, a digit without a match, a gap or the front of the reference,
ends in the same way, after as many steps and on the same machine, with the longer one. -/
theorem longer_reference_is_conservative (text text' : String)
    (longer : (Text.trimBlank text).toUTF8.toList <+: (Text.trimBlank text').toUTF8.toList)
    (legible : Reference.Legible ⟨marksOf text⟩) (source : String) (entropy : ε)
    (input : Input) (connected : Bool) (events : List (Event ε)) :
    let reference : Reference := ⟨marksOf text⟩
    let reference' : Reference := ⟨marksOf text'⟩
    let short := Machine.load reference source entropy input connected
    let long := Machine.load reference' source entropy input connected
    let m := short.after events
    short.Lasts events →
      long.after events = m.following reference' ∧
      (¬ m.Overruns → (long.after events).step = (m.step.1, m.step.2.following reference')) ∧
      ∀ fuel ending last, m.run fuel = (some ending, last) →
        (∀ stop, ending = .ok (.crashed stop) →
          last.walker.reading.index.toInt ≠ reference.size) →
        (long.after events).run fuel = (some ending, last.following reference') := by
  intro reference reference' short long m lasts
  have begins : reference.Begins reference' := Reference.begins_of_bytes longer
  have inside : short.Inside := by
    have pos : 0 < reference.size := legible.size_pos
    have zero : (0 : Int64).toInt = 0 := rfl
    change (0 : Int64).toInt < reference.size
    omega
  have kept : m.walker.reading.reference = reference := (sheet_reference_after short events).2
  obtain ⟨same, inside'⟩ := inside.after_following lasts begins
  change long.after events = m.following reference' at same
  rw [same]
  refine ⟨rfl, fun lasting => inside'.step_following lasting (kept ▸ begins), ?_⟩
  intro fuel ending last run early
  exact inside'.run_following (kept ▸ begins) run (kept ▸ early)

/-- A walk that turns around at the end of a short reference ends before its front, and so it does
with a longer one. -/
theorem turned_walk_ends_before_the_front :
    let short := Machine.load ⟨marksOf " 31\n"⟩ "3 1\n  :" (⟨[]⟩ : Entropy.Script) .closed true
    let long := Machine.load ⟨marksOf "3141"⟩ "3 1\n  :" (⟨[]⟩ : Entropy.Script) .closed true
    (short.run 3).1 = some (.ok (.crashed ⟨.origin, none⟩)) ∧
      long.run 3 = ((short.run 3).1, (short.run 3).2.following ⟨marksOf "3141"⟩) := by
  intro short long
  have legible : Reference.Legible ⟨marksOf " 31\n"⟩ := .inr ⟨" 31\n", by decide +kernel⟩
  have conservative := longer_reference_is_conservative " 31\n" "3141" (by decide +kernel)
    legible "3 1\n  :" (⟨[]⟩ : Entropy.Script) .closed true [] trivial
  have ends : (short.run 3).1 = some (.ok (.crashed ⟨.origin, none⟩)) := by decide +kernel
  have early : (short.run 3).2.walker.reading.index.toInt ≠
      (⟨marksOf " 31\n"⟩ : Reference).size := by decide +kernel
  refine ⟨ends, ?_⟩
  rw [ends]
  exact conservative.2.2 3 _ _ (Prod.ext ends rfl) fun _ _ => early

end Program.Machine

end DigitTrail
