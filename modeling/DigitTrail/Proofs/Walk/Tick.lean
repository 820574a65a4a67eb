import DigitTrail.Proofs.Memory.Frame
import DigitTrail.Proofs.Walk.Ground
import DigitTrail.Walk.Walker

/-!
What one tick can do. Either the reading steps on and nothing else happens, or the
walker moves to a neighbour that shows the new digit; in both cases a draw is all
that the memory can have lost. Everything said of walks is derived from this.
-/

set_option autoImplicit false
set_option relaxedAutoImplicit false

namespace DigitTrail.Walk

open Plane (Direction)

namespace Walker

def strode (w : Walker) (dir : Direction) (offers : Array (List Direction)) : Walker :=
  { w with
    reading := w.reading.advance
    cursor := (w.cursor.face dir).advance
    offers := offers }

def stuck (w : Walker) : Walker := { w with reading := w.reading.advance }

/-- The walker stands in its box on a cell that shows the digit the reading is at. -/
structure OnDigit (s : Sheet) (w : Walker) (d : Digit) : Prop where
  inside : w.cursor.box.contains w.cursor.position = true
  cell : s.cell w.cursor.position = .path d
  digit : w.reading.digit = some d

theorem look_digit_iff (w : Walker) (s : Sheet) (o : Plane.Offset) (d : Digit) :
    (w.look s o).digit? = some d ↔
      w.cursor.box.contains (w.cursor.position.shift o) = true ∧
        s.cell (w.cursor.position.shift o) = .path d := by
  unfold look
  have shows (c : Sheet.Cell) : c.digit? = some d ↔ c = .path d := by
    cases c <;> simp [Sheet.Cell.digit?]
  by_cases moved : (w.cursor.look o).moved = true
  · have outside : ¬ w.cursor.box.contains (w.cursor.position.shift o) = true := by
      rw [← Plane.Box.clamp_moved_eq_false_iff, Bool.not_eq_false]
      exact moved
    simp [moved, outside, Sheet.Cell.digit?]
  · have still : (w.cursor.box.clamp (w.cursor.position.shift o)).moved = false :=
      Bool.eq_false_iff.mpr moved
    have inside := (Plane.Box.clamp_moved_eq_false_iff _ _).mp still
    have place : (w.cursor.look o).position = w.cursor.position.shift o :=
      (Plane.Box.nearest_eq_self_iff _ _).mpr inside
    rw [if_neg moved, shows, place]
    simp [inside]

theorem mem_onward_iff (w : Walker) (s : Sheet) (d : Digit) (dir : Direction) :
    dir ∈ w.onward s d ↔ (w.look s dir.offset).digit? = some d ∧
      ∀ last, w.cursor.lastMove = some last → dir ≠ last.reverse := by
  unfold onward candidates
  split <;> rename_i last <;> simp [last, and_comm]

variable {ε ω : Type} [Entropy ε] {w w' : Walker} {s : Sheet} {m m' : Memory ε ω}

private theorem point_mem (w : Walker) (m : Memory ε ω) (first : Direction)
    (others : List Direction) : (w.point m first (first :: others)).1 ∈ first :: others := by
  unfold point
  dsimp only
  generalize pointedIndex _ _ = i
  cases h : (first :: others)[i]? with
  | none => exact List.mem_cons_self
  | some d => exact List.mem_of_getElem? h

private theorem settle_spec (w : Walker) (m : Memory ε ω) (first : Direction)
    (others : List Direction) :
    (w.settle m first others).1 ∈ first :: others ∧
      ∃ e, (w.settle m first others).2 = m.reseed e := by
  unfold settle
  split
  · exact ⟨List.mem_cons_self, m.entropy, rfl⟩
  · exact ⟨point_mem w m first others, m.register_reseed _ _⟩

private theorem consult_spec (w : Walker) (offer : List Direction) :
    (∀ d, (w.consult offer).1 = some d → d ∈ offer) ∧
      ∃ offers, (w.consult offer).2 = { w with offers := offers } := by
  unfold consult
  split
  · exact ⟨by simp, w.offers, rfl⟩
  · rename_i g _
    refine ⟨?_, _, rfl⟩
    intro d answered
    exact List.contains_iff_mem.mp (Option.filter_eq_some_iff.mp answered).2

theorem choose_spec (w : Walker) (m : Memory ε ω) (first : Direction) (others : List Direction) :
    (w.choose m first others).1 ∈ first :: others ∧
      (∃ offers, (w.choose m first others).2.1 = { w with offers := offers }) ∧
      ∃ e, (w.choose m first others).2.2 = m.reseed e := by
  obtain ⟨offered, offers, asked⟩ := consult_spec w (first :: others)
  unfold choose
  split
  · rename_i d v consulted
    rw [consulted] at offered asked
    exact ⟨offered d rfl, ⟨offers, asked⟩, m.entropy, rfl⟩
  · rename_i v consulted
    rw [consulted] at asked
    have settled := settle_spec v m first others
    exact ⟨settled.1, ⟨offers, asked⟩, settled.2⟩

theorem of_tick_moved {dir : Direction} {d : Digit}
    (h : w.tick s m = (.moved dir d, w', m')) :
    w.reading.advance.digit = some d ∧ dir ∈ w.onward s d ∧
      (∃ offers, w' = w.strode dir offers) ∧ ∃ e, m' = m.reseed e := by
  unfold tick at h
  dsimp only at h
  cases hd : w.reading.advance.digit with
  | none => simp [hd] at h
  | some c =>
    simp only [hd, seek] at h
    have same : ({ w with reading := w.reading.advance } : Walker).onward s c = w.onward s c := rfl
    rw [same] at h
    cases offer : w.onward s c with
    | nil => simp [offer] at h
    | cons first others =>
      simp only [offer, Prod.mk.injEq, Tick.moved.injEq] at h
      obtain ⟨⟨rfl, rfl⟩, rfl, rfl⟩ := h
      have chosen := choose_spec { w with reading := w.reading.advance } m first others
      obtain ⟨member, ⟨offers, walker⟩, drawn⟩ := chosen
      refine ⟨rfl, offer ▸ member, ⟨offers, ?_⟩, drawn⟩
      rw [walker]
      rfl

theorem tick_of_named {g : Guide} {dir : Direction} {d : Digit} (guide : w.guide = some g)
    (next : w.reading.advance.digit = some d) (offered : dir ∈ w.onward s d)
    (named : g.answer w.offers (w.onward s d) = some dir) :
    w.tick s m = (.moved dir d, w.strode dir (w.offers.push (w.onward s d)), m) := by
  unfold tick
  dsimp only
  have same : ({ w with reading := w.reading.advance } : Walker).onward s d = w.onward s d := rfl
  simp only [next, seek]
  rw [same]
  cases offer : w.onward s d with
  | nil =>
    rw [offer] at offered
    cases offered
  | cons first others =>
    rw [offer] at offered named
    have asked : ({ w with reading := w.reading.advance } : Walker).consult (first :: others) =
        (some dir, { w with
          reading := w.reading.advance
          offers := w.offers.push (first :: others) }) := by
      have listed : (first :: others).contains dir = true := List.contains_iff_mem.mpr offered
      simp only [consult, guide, named, Option.filter_some, listed, if_true]
    simp only [choose, asked]
    rfl

theorem position_strode {dir : Direction} {d : Digit} (offers : Array (List Direction))
    (h : dir ∈ w.onward s d) :
    (w.strode dir offers).cursor.position = w.cursor.position.shift dir.offset := by
  obtain ⟨shown, _⟩ := (mem_onward_iff w s d dir).mp h
  obtain ⟨inside, _⟩ := (look_digit_iff w s dir.offset d).mp shown
  exact (Plane.Box.nearest_eq_self_iff _ _).mpr inside

theorem onDigit_strode {dir : Direction} {d : Digit} (offers : Array (List Direction))
    (next : w.reading.advance.digit = some d) (h : dir ∈ w.onward s d) :
    (w.strode dir offers).OnDigit s d := by
  obtain ⟨shown, _⟩ := (mem_onward_iff w s d dir).mp h
  obtain ⟨inside, cell⟩ := (look_digit_iff w s dir.offset d).mp shown
  have arrived := position_strode offers h
  exact ⟨by rw [arrived]; exact inside, by rw [arrived]; exact cell, next⟩

theorem of_tick_deadEnd {stop : DeadEnd} (h : w.tick s m = (.deadEnd stop, w', m')) :
    stop = ⟨w.cursor.position, w.reading.advance.digit⟩ ∧
      (∀ d, w.reading.advance.digit = some d → w.onward s d = []) ∧
      w' = w.stuck ∧ m' = m := by
  unfold tick at h
  dsimp only at h
  cases hd : w.reading.advance.digit with
  | none =>
    simp only [hd, Prod.mk.injEq, Tick.deadEnd.injEq] at h
    obtain ⟨rfl, rfl, rfl⟩ := h
    exact ⟨rfl, by simp, rfl, rfl⟩
  | some c =>
    simp only [hd, seek] at h
    have same : ({ w with reading := w.reading.advance } : Walker).onward s c = w.onward s c := rfl
    rw [same] at h
    cases offer : w.onward s c with
    | nil =>
      simp only [offer, Prod.mk.injEq, Tick.deadEnd.injEq] at h
      obtain ⟨rfl, rfl, rfl⟩ := h
      refine ⟨rfl, ?_, rfl, rfl⟩
      intro d hc
      cases hc
      exact offer
    | cons first others => simp [offer] at h

end Walker

end DigitTrail.Walk
