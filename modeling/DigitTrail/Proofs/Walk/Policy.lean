import DigitTrail.Entropy
import DigitTrail.Proofs.Reference.Reading
import DigitTrail.Proofs.Walk.Tick

/-!
The policy of a walk. A tick steps the reading, and what it then comes to is settled by the
directions that are open: none is a dead end, which leaves all but the reading alone; of
several, the guide has the first say, then the digit that the walker stands on, by being
preferred or by the register that it names.
-/

set_option autoImplicit false
set_option relaxedAutoImplicit false

namespace DigitTrail

open Plane (Direction)

namespace Walk

/-- The directions on offer are at most six, so the place that a value points to is its
remainder by their number, counted from the start also for negative values. -/
private theorem pointedIndex_eq (value : Int64) {count : Nat} (positive : 0 < count)
    (few : count ≤ 6) :
    pointedIndex value count = (value.toInt % count).toNat := by
  have limit : Int64.maxValue.toInt.natAbs = 9223372036854775807 := by decide
  have least : min (max count 1) Int64.maxValue.toInt.natAbs = count := by omega
  rw [pointedIndex, least]
  rfl

namespace Walker

/-- A direction is open to a walker that looks for a digit if the neighbour there is a cell of
the box and shows the digit, unless it leads straight back. -/
def Open (w : Walker) (s : Sheet) (d : Digit) (dir : Direction) : Prop :=
  w.cursor.box.contains (w.cursor.position.shift dir.offset) = true ∧
    s.cell (w.cursor.position.shift dir.offset) = .path d ∧
    ∀ last ∈ w.cursor.lastMove, dir ≠ last.reverse

instance (w : Walker) (s : Sheet) (d : Digit) (dir : Direction) : Decidable (w.Open s d dir) :=
  inferInstanceAs (Decidable (_ ∧ _ ∧ _))

def ways (w : Walker) (s : Sheet) (d : Digit) : List Direction :=
  [.nw, .ne, .sw, .se, .w, .e].filter fun dir => w.Open s d dir

/-- What the guide answers to an offer, if there is a guide. -/
def advice (w : Walker) (offer : List Direction) : Option Direction :=
  w.guide.bind fun g => g.answer w.offers offer

/-- The offers made so far after one more, which is made only to a guide that is there. -/
def offered (w : Walker) (offer : List Direction) : Array (List Direction) :=
  if w.guide.isSome then w.offers.push offer else w.offers

def heard (w : Walker) (offer : List Direction) : Walker :=
  { w with offers := w.offered offer }

@[simp] theorem heard_reading (w : Walker) (offer : List Direction) :
    (w.heard offer).reading = w.reading := rfl

@[simp] theorem heard_preferred (w : Walker) (offer : List Direction) :
    (w.heard offer).preferred = w.preferred := rfl

variable {ε ω : Type} [Entropy ε]

/-- Who settles where a walker goes of the directions that are open to it, which direction it
is, and the source of chance that is left. The digit that counts is the one that the walker
stands on. -/
inductive Ruling (w : Walker) (m : Memory ε ω) (offer : List Direction) : Direction → ε → Prop
  /-- The guide names one of them. -/
  | named {dir : Direction} (told : w.advice offer = some dir) (member : dir ∈ offer) :
    Ruling w m offer dir m.entropy
  /-- There is only one. -/
  | only {dir : Direction} (unnamed : ∀ d ∈ offer, w.advice offer ≠ some d)
      (single : offer = [dir]) : Ruling w m offer dir m.entropy
  /-- The digit is preferred, and the first direction is taken. -/
  | first {dir : Direction} {key : Digit} (unnamed : ∀ d ∈ offer, w.advice offer ≠ some d)
      (several : 2 ≤ offer.length) (stands : w.reading.digit = some key)
      (preferred : w.preferred.contains key = true) (head : offer.head? = some dir) :
    Ruling w m offer dir m.entropy
  /-- The register of the digit points to one of them. -/
  | pointed {dir : Direction} {value : Int64} (unnamed : ∀ d ∈ offer, w.advice offer ≠ some d)
      (several : 2 ≤ offer.length)
      (plain : ∀ key, w.reading.digit = some key → w.preferred.contains key = false)
      (held : w.reading.digit.bind m.registers.get = some value)
      (place : offer[(value.toInt % offer.length).toNat]? = some dir) :
    Ruling w m offer dir m.entropy
  /-- The register floats, or there is no digit, and a digit that is drawn points to one. -/
  | drawn {dir : Direction} (unnamed : ∀ d ∈ offer, w.advice offer ≠ some d)
      (several : 2 ≤ offer.length)
      (plain : ∀ key, w.reading.digit = some key → w.preferred.contains key = false)
      (floats : w.reading.digit.bind m.registers.get = none)
      (place : offer[((Entropy.digit m.entropy).1.toInt % offer.length).toNat]? = some dir) :
    Ruling w m offer dir (Entropy.digit m.entropy).2

omit [Entropy ε] in
private theorem open_iff (w : Walker) (s : Sheet) (d : Digit) (dir : Direction) :
    w.Open s d dir ↔ (w.look s dir.offset).digit? = some d ∧
      ∀ last ∈ w.cursor.lastMove, dir ≠ last.reverse := by
  rw [look_digit_iff, and_assoc]
  rfl

omit [Entropy ε] in
private theorem onward_eq_ways (w : Walker) (s : Sheet) (d : Digit) :
    w.onward s d = w.ways s d := by
  unfold onward ways candidates
  split
  · rename_i last
    refine List.filter_congr fun dir _ => ?_
    simp [open_iff, last]
  · rename_i back last
    rw [List.filter_filter]
    refine List.filter_congr fun dir _ => ?_
    simp [open_iff, last, Bool.and_comm]

omit [Entropy ε] in
private theorem length_ways_le (w : Walker) (s : Sheet) (d : Digit) : (w.ways s d).length ≤ 6 :=
  List.length_filter_le _ _

variable {w w' : Walker} {s : Sheet} {m m' : Memory ε ω} {d : Digit} {dir : Direction} {e : ε}

omit [Entropy ε] in
private theorem consult_eq (w : Walker) (offer : List Direction) :
    w.consult offer =
      ((w.advice offer).filter offer.contains, w.heard offer) := by
  obtain ⟨cursor, reading, preferred, guide, offers⟩ := w
  cases guide <;> rfl

omit [Entropy ε] in
private theorem consult_of_named {offer : List Direction} (told : w.advice offer = some dir)
    (member : dir ∈ offer) : (w.consult offer).1 = some dir := by
  rw [consult_eq, told]
  simp [member]

omit [Entropy ε] in
private theorem consult_of_unnamed {offer : List Direction}
    (unnamed : ∀ d ∈ offer, w.advice offer ≠ some d) : (w.consult offer).1 = none := by
  rw [consult_eq]
  cases told : w.advice offer with
  | none => rfl
  | some d =>
    have absent : d ∉ offer := fun member => unnamed d member told
    simp [absent]

omit [Entropy ε] in
private theorem value?_branch (r : Memory.Registers) (key : Option Digit) :
    r.value? ((key.map Digit.toInt).getD (-1)) = key.bind r.get := by
  cases key with
  | none => rfl
  | some k => simp [Memory.Registers.value?, Digit.ofInt?_toInt]

private theorem settle_heard (w : Walker) (m : Memory ε ω) (offer : List Direction)
    (first : Direction)
    (others : List Direction) :
    (w.heard offer).settle m first others = w.settle m first others := by
  unfold settle point
  rw [heard_reading, heard_preferred]

private theorem settle_of_several {first : Direction} {others : List Direction}
    (few : (first :: others).length ≤ 6) (several : 2 ≤ (first :: others).length)
    (plain : ∀ key, w.reading.previous = some key → w.preferred.contains key = false)
    {value : Int64} (read : m.register ((w.reading.previous.map Digit.toInt).getD (-1)) none =
      (value, m'))
    (place : (first :: others)[(value.toInt % (first :: others).length).toNat]? = some dir) :
    w.settle m first others = (dir, m') := by
  have unsettled : ¬ (others.isEmpty || w.reading.previous.any w.preferred.contains) = true := by
    rw [Bool.or_eq_true, Option.any_eq_true, List.isEmpty_iff]
    rintro (rfl | ⟨key, stands, preferred⟩)
    · simp at several
    · rw [plain key stands] at preferred
      cases preferred
  have pointed := pointedIndex_eq value (Nat.lt_of_lt_of_le Nat.two_pos several) few
  unfold settle point
  rw [if_neg unsettled, read]
  dsimp only
  rw [pointed, place]
  rfl

private theorem choose_of_ruling (low : Int64.minValue.toInt < w.reading.index.toInt)
    (high : w.reading.index.toInt < Int64.maxValue.toInt) {first : Direction}
    {others : List Direction} (few : (first :: others).length ≤ 6)
    (h : Ruling w m (first :: others) dir e) :
    w.stuck.choose m first others = (dir, w.stuck.heard (first :: others), m.reseed e) := by
  have behind : w.stuck.reading.previous = w.reading.digit := by
    have stepped : w.stuck.reading = w.reading.advance := rfl
    rw [stepped, Reference.Reading.previous_advance low high]
  have asked : w.stuck.consult (first :: others) =
      ((w.consult (first :: others)).1, w.stuck.heard (first :: others)) := by
    rw [consult_eq, consult_eq]
    rfl
  have declined {m' : Memory ε ω} (unnamed : ∀ d ∈ first :: others,
      w.advice (first :: others) ≠ some d) (settled : w.stuck.settle m first others = (dir, m')) :
      w.stuck.choose m first others = (dir, w.stuck.heard (first :: others), m') := by
    unfold choose
    rw [asked, consult_of_unnamed unnamed]
    dsimp only
    rw [settle_heard, settled]
  have held := value?_branch m.registers w.reading.digit
  cases h with
  | named told member =>
    unfold choose
    rw [asked, consult_of_named told member]
    rfl
  | only unnamed single =>
    obtain ⟨rfl, rfl⟩ := List.cons.inj single
    exact declined unnamed rfl
  | first unnamed several stands preferred head =>
    cases head
    apply declined unnamed
    have settled : w.stuck.reading.previous.any w.stuck.preferred.contains = true := by
      rw [behind, stands]
      exact preferred
    unfold settle
    rw [settled, Bool.or_true, if_pos rfl]
    rfl
  | pointed unnamed several plain found place =>
    apply declined unnamed
    apply settle_of_several few several (by rw [behind]; exact plain) _ place
    rw [behind, Memory.register, held, found]
    rfl
  | drawn unnamed several plain floats place =>
    apply declined unnamed
    apply settle_of_several few several (by rw [behind]; exact plain) _ place
    rw [behind, Memory.register, held, floats]
    rfl

private theorem exists_ruling (w : Walker) (m : Memory ε ω) {offer : List Direction}
    (nonempty : offer ≠ []) : ∃ dir e, Ruling w m offer dir e := by
  by_cases named : ∃ d ∈ offer, w.advice offer = some d
  · obtain ⟨d, member, told⟩ := named
    exact ⟨d, _, .named told member⟩
  have unnamed : ∀ d ∈ offer, w.advice offer ≠ some d := by
    intro d member told
    exact named ⟨d, member, told⟩
  obtain ⟨first, others, rfl⟩ := List.exists_cons_of_ne_nil nonempty
  cases others with
  | nil => exact ⟨first, _, .only unnamed rfl⟩
  | cons second rest =>
    have several : 2 ≤ (first :: second :: rest).length := by simp
    have place (v : Int64) :
        ∃ dir, (first :: second :: rest)[(v.toInt %
          (first :: second :: rest).length).toNat]? = some dir := by
      have positive : (0 : Int) < (first :: second :: rest).length := by simp; omega
      have low := Int.emod_nonneg v.toInt (Int.ne_of_gt positive)
      have high := Int.emod_lt_of_pos v.toInt positive
      exact ⟨_, List.getElem?_eq_getElem (by omega)⟩
    by_cases preferred : ∃ key, w.reading.digit = some key ∧ w.preferred.contains key = true
    · obtain ⟨key, stands, prefers⟩ := preferred
      exact ⟨first, _, .first unnamed several stands prefers rfl⟩
    have plain : ∀ key, w.reading.digit = some key → w.preferred.contains key = false := by
      intro key stands
      rw [← Bool.not_eq_true]
      exact fun prefers => preferred ⟨key, stands, prefers⟩
    cases held : w.reading.digit.bind m.registers.get with
    | some v =>
      obtain ⟨dir, found⟩ := place v
      exact ⟨dir, _, .pointed unnamed several plain held found⟩
    | none =>
      obtain ⟨dir, found⟩ := place (Entropy.digit m.entropy).1
      exact ⟨dir, _, .drawn unnamed several plain held found⟩

private theorem Ruling.mem {offer : List Direction} (h : Ruling w m offer dir e) : dir ∈ offer := by
  cases h with
  | named told member => exact member
  | only unnamed single => simp [single]
  | first unnamed several stands preferred head => exact List.mem_of_mem_head? head
  | pointed unnamed several plain held place => exact List.mem_of_getElem? place
  | drawn unnamed several plain floats place => exact List.mem_of_getElem? place

private theorem tick_of_ruling (low : Int64.minValue.toInt < w.reading.index.toInt)
    (high : w.reading.index.toInt < Int64.maxValue.toInt) (next : w.reading.advance.digit = some d)
    (h : Ruling w m (w.ways s d) dir e) :
    w.tick s m = (.moved dir d, w.strode dir (w.offered (w.ways s d)), m.reseed e) := by
  have same : w.stuck.onward s d = w.ways s d := onward_eq_ways w s d
  have few := length_ways_le w s d
  have looks : w.tick s m = w.stuck.seek s m d := by
    unfold tick
    dsimp only
    rw [next]
    rfl
  rw [looks, seek, same]
  cases offer : w.ways s d with
  | nil =>
    rw [offer] at h
    cases h.mem
  | cons first others =>
    rw [offer] at h few
    dsimp only
    rw [choose_of_ruling low high few h]
    rfl

private theorem tick_of_no_way (closed : ∀ d, w.reading.advance.digit = some d → w.ways s d = []) :
    w.tick s m = (.deadEnd ⟨w.cursor.position, w.reading.advance.digit⟩, w.stuck, m) := by
  unfold tick
  dsimp only
  cases next : w.reading.advance.digit with
  | none => rfl
  | some d =>
    have same : w.stuck.onward s d = w.ways s d := onward_eq_ways w s d
    change w.stuck.seek s m d = _
    rw [seek, same, closed d next]
    rfl

omit [Entropy ε] in
private theorem strode_of_open (opens : dir ∈ w.ways s d) (offers : Array (List Direction)) :
    w.strode dir offers =
      { w with
        reading := w.reading.advance
        cursor := { w.cursor with
          position := w.cursor.position.shift dir.offset
          facing := dir
          velocity := dir.offset
          lastMove := some dir }
        offers := offers } := by
  rw [← onward_eq_ways] at opens
  rw [← position_strode offers opens]
  rfl

/-- A tick keeps to the policy of the walk, on every sheet and for every walker whose reading is
not at a limit of the numbers. The reading takes one step along its heading. The tick is a dead
end exactly if there is no digit then, or no direction is open to it; it reports the position and
that digit, and the reading is all that has changed. Otherwise the walker moves along the
direction of the ruling, whose rungs are the guide, which is asked once and with exactly the open
directions; a single direction; the first one, if the digit that the reading has left is
preferred; and the one that the register of that digit points to, or a number drawn in its
place. Only such a draw changes the memory. -/
theorem tick_keeps_to_policy (w : Walker) (s : Sheet) (m : Memory ε ω)
    (low : Int64.minValue.toInt < w.reading.index.toInt)
    (high : w.reading.index.toInt < Int64.maxValue.toInt) :
    let reading := w.reading.advance
    (reading.reference = w.reading.reference ∧ reading.heading = w.reading.heading ∧
      reading.index.toInt = w.reading.index.toInt + w.reading.heading.step.toInt) ∧
    (∀ stop w' m', w.tick s m = (.deadEnd stop, w', m') ↔
      (reading.digit = none ∨ ∃ d, reading.digit = some d ∧ w.ways s d = []) ∧
      stop = ⟨w.cursor.position, reading.digit⟩ ∧ w' = { w with reading := reading } ∧ m' = m) ∧
    ∀ dir d w' m', w.tick s m = (.moved dir d, w', m') ↔
      reading.digit = some d ∧ ∃ e, w.Ruling m (w.ways s d) dir e ∧
      w' = { w with
        reading := reading
        cursor := { w.cursor with
          position := w.cursor.position.shift dir.offset
          facing := dir
          velocity := dir.offset
          lastMove := some dir }
        offers := w.offered (w.ways s d) } ∧
      m' = { m with entropy := e } := by
  intro reading
  refine ⟨⟨rfl, rfl, Reference.Reading.toInt_index_advance low high⟩, ?_⟩
  by_cases blocked : reading.digit = none ∨ ∃ d, reading.digit = some d ∧ w.ways s d = []
  · have closed : ∀ d, reading.digit = some d → w.ways s d = [] := by
      rintro d next
      rcases blocked with none | ⟨d', next', empty⟩
      · rw [none] at next
        cases next
      · cases next'.symm.trans next
        exact empty
    rw [tick_of_no_way closed]
    constructor
    · intro stop w' m'
      constructor
      · intro ticked
        simp only [Prod.mk.injEq, Tick.deadEnd.injEq] at ticked
        obtain ⟨rfl, rfl, rfl⟩ := ticked
        exact ⟨blocked, rfl, rfl, rfl⟩
      · rintro ⟨_, rfl, rfl, rfl⟩
        rfl
    · intro dir d w' m'
      simp only [Prod.mk.injEq, reduceCtorEq, false_and, false_iff, not_and]
      rintro next ⟨e, ruling, _⟩
      rw [closed d next] at ruling
      cases ruling.mem
  · obtain ⟨d, next⟩ : ∃ d, reading.digit = some d := by
      cases next : reading.digit with
      | none => exact absurd (.inl next) blocked
      | some d => exact ⟨d, rfl⟩
    have nonempty : w.ways s d ≠ [] := fun empty => blocked (.inr ⟨d, next, empty⟩)
    obtain ⟨dir, e, ruling⟩ := exists_ruling w m nonempty
    constructor
    · intro stop w' m'
      simp [tick_of_ruling low high next ruling, blocked]
    · intro dir' d' w' m'
      constructor
      · intro ticked
        rw [tick_of_ruling low high next ruling, strode_of_open ruling.mem] at ticked
        simp only [Prod.mk.injEq, Tick.moved.injEq] at ticked
        obtain ⟨⟨rfl, rfl⟩, rfl, rfl⟩ := ticked
        exact ⟨next, e, ruling, rfl, rfl⟩
      · rintro ⟨next', e', ruling', rfl, rfl⟩
        rw [tick_of_ruling low high next' ruling', strode_of_open ruling'.mem]
        rfl

/-- The guide names a direction that is not open, and the register of the digit that the walker
stands on is negative: of two open directions it points to the last. -/
theorem tick_goes_where_a_negative_register_points :
    let w := (Walker.start ⟨#[some 3, some 1]⟩).guided (some (.ofAnswers #[.toward .nw]))
    let m := (Memory.fresh (⟨[7]⟩ : Entropy.Script) ()).setRegister 3 (some (-1))
    let s := Sheet.ofText "3 1\n 1"
    w.ways s 1 = [.se, .e] ∧ w.advice (w.ways s 1) = some .nw ∧
      (w.tick s m).1 = .moved .e 1 ∧ (w.tick s m).2.2.entropy.numbers = [7] := by
  intro w m s
  have ways : w.ways s 1 = [.se, .e] := by decide
  have policy := (tick_keeps_to_policy w s m (by decide) (by decide)).2.2
  have ruling : w.Ruling m (w.ways s 1) .e m.entropy := by
    have held : w.reading.digit.bind m.registers.get = some (-1) := by decide
    rw [ways]
    exact .pointed (by decide) (by decide) (by decide) held (by decide)
  have moved := (policy .e 1 _ _).mpr ⟨by decide, m.entropy, ruling, rfl, rfl⟩
  have advice : w.advice (w.ways s 1) = some .nw := by
    rw [ways]
    rfl
  have result : (w.tick s m).1 = .moved .e 1 := by rw [moved]
  have source : (w.tick s m).2.2.entropy = m.entropy := by rw [moved]
  exact ⟨ways, advice, result, congrArg Entropy.Script.numbers source⟩

end Walker

end Walk

end DigitTrail
