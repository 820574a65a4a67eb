import DigitTrail.Entropy
import DigitTrail.Proofs.Walk.Tick

/-!
Every walk can be retraced. A walker that has moved some number of times, is turned
round once and is then guided back along its own directions, finds each of them on
offer and ends where it began, on the same digit of the reference. What the memory
holds and which digits are preferred does not matter, on the way out or on the way back.
-/

set_option autoImplicit false
set_option relaxedAutoImplicit false

namespace DigitTrail

namespace Plane

private theorem Direction.toInt_offset_reverse (dir : Direction) :
    dir.reverse.offset.dx.toInt = -dir.offset.dx.toInt ∧
      dir.reverse.offset.dy.toInt = -dir.offset.dy.toInt := by
  cases dir <;> decide

private theorem Direction.ne_reverse_comm {a b : Direction} (h : a ≠ b.reverse) :
    b ≠ a.reverse := by
  rintro rfl
  exact h (Direction.reverse_reverse a).symm

end Plane

private theorem Reference.Heading.toInt_step_reverse (h : Reference.Heading) :
    h.reverse.step.toInt = -h.step.toInt := by
  cases h <;> decide

namespace Sheet

open Plane (Direction Position)

private theorem shift_back {s : Sheet} (counted : s.Indexable) {p : Position} {dir : Direction}
    {d : Digit} (h : s.cell (p.shift dir.offset) = .path d) :
    (p.shift dir.offset).shift dir.reverse.offset = p := by
  obtain ⟨⟨lowX, highX⟩, lowY, highY⟩ := index_of_cell counted h
  obtain ⟨oppositeX, oppositeY⟩ := dir.toInt_offset_reverse
  have least : Int64.minValue.toInt < 0 := by decide
  have x := Number.satAdd_satAdd_of_neg oppositeX (Int.lt_of_lt_of_le least lowX) highX
  have y := Number.satAdd_satAdd_of_neg oppositeY (Int.lt_of_lt_of_le least lowY) highY
  simp only [Position.shift, x, y]

end Sheet

private theorem Reference.Reading.advance_turn_advance {r : Reference.Reading}
    (short : r.reference.size < Nat.pow 2 63) {d : Digit} (h : r.advance.digit = some d) :
    r.advance.turn.advance = r.turn := by
  have limit : Nat.pow 2 63 = 9223372036854775808 := rfl
  obtain ⟨low, high⟩ := Reference.index_of_get? h
  have same : r.advance.reference = r.reference := rfl
  rw [same] at high
  simp only [Int.ofNat_eq_natCast] at high
  have back : Number.satAdd r.advance.index r.heading.reverse.step = r.index := by
    apply Number.satAdd_satAdd_of_neg r.heading.toInt_step_reverse
    · rw [Number.toInt_minValue]
      exact Int.lt_of_lt_of_le (by decide) low
    · rw [Number.toInt_maxValue]
      exact Int.lt_of_lt_of_le high (by omega)
  change (⟨r.reference, _, r.heading.reverse⟩ : Reference.Reading) = ⟨r.reference, r.index, _⟩
  rw [← back]
  rfl

namespace Walk

open Plane (Direction)

def Tick.direction? : Tick → Option Direction
  | .moved dir _ => some dir
  | .deadEnd _ => none

/-- After `count` offers the guide answers with these directions in turn, each as long
as it is on offer. -/
def Guide.Names (g : Guide) (count : Nat) (dirs : List Direction) : Prop :=
  ∀ (i : Nat) (dir : Direction) (past : Array (List Direction)) (offer : List Direction),
    dirs[i]? = some dir → past.size = count + i → dir ∈ offer → g.answer past offer = some dir

private theorem Guide.Names.tail {g : Guide} {count : Nat} {dir : Direction} {dirs : List Direction}
    (h : g.Names count (dir :: dirs)) : g.Names (count + 1) dirs := by
  intro i next past offer found size
  exact h (i + 1) next past offer (by simpa using found) (by omega)

private theorem Guide.names_ofAnswers (dirs : List Direction) :
    (Guide.ofAnswers (dirs.map Answer.toward).toArray).Names 0 dirs := by
  intro i dir past offer found size _
  have answer : (dirs.map Answer.toward)[past.size]? = some (.toward dir) := by
    rw [List.getElem?_map, size, Nat.zero_add, found]
    rfl
  simp only [ofAnswers, List.getElem?_toArray, answer]
  rfl

/-- What a tick finds: the memory, the preferred digits, and a change of guide. -/
structure Setting (ε ω : Type) where
  memory : Memory ε ω
  preferred : DigitSet
  guidance : Option (Option Guide)

namespace Walker

variable {ε ω : Type} [Entropy ε] {s : Sheet}

def meet (w : Walker) (c : Setting ε ω) : Walker :=
  let w := { w with preferred := c.preferred }
  match c.guidance with
  | none => w
  | some g => w.guided g

def led (w : Walker) (g : Guide) (past : Array (List Direction)) : Walker :=
  { w with guide := some g, offers := past }

/-- Tick once in each setting. Nobody turns the walker or changes its box. -/
def walk (s : Sheet) : Walker → List (Setting ε ω) → List Tick × Walker
  | w, [] => ([], w)
  | w, c :: rest =>
    let ticked := (w.meet c).tick s c.memory
    let later := walk s ticked.2.1 rest
    (ticked.1 :: later.1, later.2)

omit [Entropy ε] in
private theorem meet_eq (w : Walker) (c : Setting ε ω) :
    (w.meet c).cursor = w.cursor ∧ (w.meet c).reading = w.reading := by
  unfold meet
  split <;> exact ⟨rfl, rfl⟩

/-- One move, as far as the cursor and the reading go. -/
structure Stride (s : Sheet) (w : Walker) (dir : Direction) (v : Walker) : Prop where
  cursor : v.cursor = { w.cursor with
    position := w.cursor.position.shift dir.offset
    facing := dir
    velocity := dir.offset
    lastMove := some dir }
  reading : v.reading = w.reading.advance
  onDigit : ∃ d, v.OnDigit s d
  onward : ∀ last, w.cursor.lastMove = some last → dir ≠ last.reverse

/-- A way from one walker to another, made of moves. -/
inductive Trail (s : Sheet) (w : Walker) : List Direction → Walker → Prop
  | stay : Trail s w [] w
  | move {dirs : List Direction} {u v : Walker} {dir : Direction} :
    Trail s w dirs u → Stride s u dir v → Trail s w (dirs ++ [dir]) v

private theorem stride_of_moved {w v : Walker} {c : Setting ε ω} {m : Memory ε ω} {dir : Direction}
    {d : Digit} (h : (w.meet c).tick s c.memory = (.moved dir d, v, m)) :
    Stride s w dir v := by
  obtain ⟨cursor, reading⟩ := meet_eq w c
  obtain ⟨next, offered, ⟨offers, rfl⟩, _⟩ := of_tick_moved h
  have position := position_strode offers offered
  refine ⟨?_, congrArg Reference.Reading.advance reading,
    ⟨d, onDigit_strode offers next offered⟩, ?_⟩
  · rw [← cursor, ← position]
    rfl
  · rw [← cursor]
    exact ((mem_onward_iff _ s d dir).mp offered).2

private theorem trail_of_moved {w u : Walker} {dirs more : List Direction} {cs : List (Setting ε ω)}
    (trail : Trail s w dirs u)
    (moved : (u.walk s cs).1.map Tick.direction? = more.map some) :
    Trail s w (dirs ++ more) (u.walk s cs).2 := by
  induction cs generalizing u dirs more with
  | nil =>
    have none_left : more = [] := by simpa [walk] using moved.symm
    rw [none_left, List.append_nil]
    exact trail
  | cons c cs ih =>
    rcases tick : (u.meet c).tick s c.memory with ⟨t, v, m⟩
    simp only [walk, tick, List.map_cons] at moved ⊢
    cases more with
    | nil => cases moved
    | cons dir more =>
      obtain ⟨first, rest⟩ := List.cons.inj moved
      cases t with
      | deadEnd stop => cases first
      | moved dir' d =>
        cases first
        rw [List.append_cons]
        exact ih (trail.move (stride_of_moved tick)) rest

private theorem Trail.onDigit {w v : Walker} {dirs : List Direction} (trail : Trail s w dirs v)
    {d : Digit} (stands : w.OnDigit s d) : ∃ e, v.OnDigit s e := by
  cases trail with
  | stay => exact ⟨d, stands⟩
  | move _ stride => exact stride.onDigit

private theorem Trail.reference {w v : Walker} {dirs : List Direction} (trail : Trail s w dirs v) :
    v.reading.reference = w.reading.reference := by
  induction trail with
  | stay => rfl
  | move _ stride ih =>
    rw [stride.reading]
    exact ih

/-- A walker at the place of another one that reads the other way and is free to take
the other's last move back. -/
structure Opposed (v r : Walker) : Prop where
  position : r.cursor.position = v.cursor.position
  box : r.cursor.box = v.cursor.box
  reading : r.reading = v.reading.turn
  free : ∀ dir last, v.cursor.lastMove = some dir → r.cursor.lastMove = some last → last ≠ dir

private theorem opposed_turn (v : Walker) (g : Guide) (past : Array (List Direction)) :
    Opposed v ((v.turn .toggle).led g past) := by
  refine ⟨rfl, rfl, rfl, ?_⟩
  intro dir last _ forgotten
  cases forgotten

/-- One move back. The way back is on offer: it leads to the cell that the move came
from, and only a move straight back could have forbidden it. -/
private theorem opposed_step {u v r : Walker} {dir : Direction} {d : Digit} {g : Guide}
    (counted : s.Indexable) (short : u.reading.reference.size < Nat.pow 2 63)
    (stands : u.OnDigit s d) (stride : Stride s u dir v) (facing : Opposed v r)
    (guide : r.guide = some g)
    (named : ∀ offer, dir.reverse ∈ offer → g.answer r.offers offer = some dir.reverse)
    (m : Memory ε ω) :
    ∃ offers, r.tick s m = (.moved dir.reverse d, r.strode dir.reverse offers, m) ∧
      offers.size = r.offers.size + 1 ∧ Opposed u (r.strode dir.reverse offers) := by
  obtain ⟨e, arrived⟩ := stride.onDigit
  have moved : v.cursor.position = u.cursor.position.shift dir.offset := by rw [stride.cursor]
  have back : r.cursor.position.shift dir.reverse.offset = u.cursor.position := by
    rw [facing.position, moved]
    exact Sheet.shift_back counted (moved ▸ arrived.cell)
  have box : r.cursor.box = u.cursor.box := by rw [facing.box, stride.cursor]
  have reading : r.reading.advance = u.reading.turn := by
    rw [facing.reading, stride.reading]
    exact Reference.Reading.advance_turn_advance short (stride.reading ▸ arrived.digit)
  have next : r.reading.advance.digit = some d := by
    rw [reading]
    exact stands.digit
  have offered : dir.reverse ∈ r.onward s d := by
    rw [mem_onward_iff, look_digit_iff, back, box]
    refine ⟨⟨stands.inside, stands.cell⟩, ?_⟩
    intro last taken same
    -- `last` undid the move that followed `dir` on the way out; it would bar the way only
    -- if that move had gone straight back.
    have undone : dir = last := by
      rw [← Direction.reverse_reverse dir, same, Direction.reverse_reverse]
    exact facing.free dir last (by rw [stride.cursor]) taken undone.symm
  refine ⟨_, tick_of_named guide next offered (named _ offered), Array.size_push _, ?_⟩
  refine ⟨(position_strode _ offered).trans back, box, reading, ?_⟩
  intro before last was now
  cases now
  exact (Plane.Direction.ne_reverse_comm (stride.onward before was)).symm

private theorem opposed_walk {w v r : Walker} {dirs : List Direction} {d : Digit} {g : Guide}
    (counted : s.Indexable) (short : w.reading.reference.size < Nat.pow 2 63)
    (stands : w.OnDigit s d) (trail : Trail s w dirs v) (facing : Opposed v r)
    (guide : r.guide = some g)
    (names : g.Names r.offers.size (dirs.reverse.map Direction.reverse))
    {back : List (Setting ε ω)} (length : back.length = dirs.length)
    (kept : ∀ c ∈ back, c.guidance = none) :
    (r.walk s back).1.map Tick.direction? = (dirs.reverse.map Direction.reverse).map some ∧
      Opposed w (r.walk s back).2 := by
  induction trail generalizing r back with
  | stay =>
    cases List.eq_nil_of_length_eq_zero length
    exact ⟨rfl, facing⟩
  | @move dirs u v dir trail stride ih =>
    cases back with
    | nil => simp at length
    | cons c back =>
      rw [List.reverse_append, List.reverse_singleton, List.singleton_append, List.map_cons]
        at names ⊢
      have met : r.meet c = { r with preferred := c.preferred } := by
        unfold meet
        rw [kept c List.mem_cons_self]
      have facing' : Opposed v (r.meet c) := by
        rw [met]
        exact ⟨facing.position, facing.box, facing.reading, facing.free⟩
      have guide' : (r.meet c).guide = some g := by rw [met]; exact guide
      have offers' : (r.meet c).offers = r.offers := by rw [met]
      obtain ⟨e, stood⟩ := trail.onDigit stands
      obtain ⟨offers, tick, size, opposed⟩ := opposed_step counted (trail.reference ▸ short)
        stood stride facing' guide'
        (fun offer => names 0 _ _ offer rfl (by rw [offers']; rfl)) c.memory
      have names' : g.Names ((r.meet c).strode dir.reverse offers).offers.size
          (dirs.reverse.map Direction.reverse) := by
        have grown : ((r.meet c).strode dir.reverse offers).offers.size = r.offers.size + 1 :=
          offers' ▸ size
        rw [grown]
        exact names.tail
      have rest := ih opposed guide' names' (by simpa using length)
        (fun c' h => kept c' (List.mem_cons_of_mem c h))
      simp only [walk, tick, List.map_cons, Tick.direction?]
      exact ⟨congrArg _ rest.1, rest.2⟩

/-- Every walk can be retraced. After any number of ticks that all moved, with any
memory, preferred digits and guides on the way, one turn and a guide that names the
opposite directions in the opposite order, whatever it was offered before, lead back:
every tick moves, in exactly these directions, and the last ends at the position and the
index of the start. -/
theorem turned_walk_retraces {w : Walker} {d : Digit} {dirs : List Direction} {g : Guide}
    (out back : List (Setting ε ω)) (past : Array (List Direction)) (counted : s.Indexable)
    (short : w.reading.reference.size < Nat.pow 2 63) (stands : w.OnDigit s d)
    (moved : (w.walk s out).1.map Tick.direction? = dirs.map some)
    (names : g.Names past.size (dirs.reverse.map Direction.reverse))
    (length : back.length = dirs.length) (kept : ∀ c ∈ back, c.guidance = none) :
    let turned := ((w.walk s out).2.turn .toggle).led g past
    let returned := turned.walk s back
    returned.1.map Tick.direction? = (dirs.reverse.map Direction.reverse).map some ∧
      returned.2.cursor.position = w.cursor.position ∧
      returned.2.reading.index = w.reading.index := by
  intro turned returned
  have trail : Trail s w dirs (w.walk s out).2 := trail_of_moved .stay moved
  have facing := opposed_turn (w.walk s out).2 g past
  obtain ⟨directions, home⟩ :=
    opposed_walk counted short stands trail facing rfl names length kept
  have index : returned.2.reading.index = w.reading.turn.index :=
    congrArg Reference.Reading.index home.reading
  exact ⟨directions, home.position, index⟩

/-- Three moves over a fork at either end of the second one. On the way back, too, the
cells before and behind show the same digit. -/
theorem bent_walk_retraces :
    let sheet := Sheet.ofText "3 1 4\n 1 4 1"
    let w := Walker.start ⟨#[some 3, some 1, some 4, some 1]⟩
    let first : Setting Entropy.Script Unit := ⟨.fresh ⟨[]⟩ (), DigitSet.empty.insert 3, none⟩
    let later : Setting Entropy.Script Unit := ⟨.fresh ⟨[]⟩ (), DigitSet.empty.insert 4, none⟩
    let g := Guide.ofAnswers ([.se, .w, .nw].map Answer.toward).toArray
    let turned := ((w.walk sheet [first, first, later]).2.turn .toggle).led g #[]
    (w.walk sheet [first, first, later]).1.map Tick.direction? =
      [some .se, some .e, some .nw] ∧
    (turned.walk sheet [later, later, first]).1.map Tick.direction? =
      [some .se, some .w, some .nw] ∧
    (turned.walk sheet [later, later, first]).2.cursor.position = w.cursor.position ∧
    (turned.walk sheet [later, later, first]).2.reading.index = w.reading.index := by
  intro sheet w first later g
  have moved : (w.walk sheet [first, first, later]).1.map Tick.direction? =
      [Direction.se, .e, .nw].map some := by decide
  have counted : sheet.Indexable := ⟨by decide, by decide⟩
  have stands : w.OnDigit sheet 3 := ⟨by decide, by decide, by decide⟩
  have names : g.Names 0 [.se, .w, .nw] := Guide.names_ofAnswers [.se, .w, .nw]
  have back := turned_walk_retraces [first, first, later] [later, later, first] #[]
    counted (by decide) stands moved names rfl (by decide)
  exact ⟨moved, back.1, back.2.1, back.2.2⟩

end Walker

end Walk

end DigitTrail
