import DigitTrail.Entropy
import DigitTrail.Proofs.Program.Order
import DigitTrail.Proofs.Program.Tokens

/-!
A machine carries out the column under its cursor as the column means. Each modifier does to the
machine what its operator does to the scene, and so do all of them together; then the action
comes to what the tokens of its rows say, and to nothing else.
-/

set_option autoImplicit false
set_option relaxedAutoImplicit false

namespace DigitTrail

namespace Digit

private theorem ofInt?_of_toInt {value : Int64} {k : Digit} (key : value.toInt = k.val) :
    ofInt? value = some k := by
  have exact_digit : ∀ d : Digit, (toInt d).toInt = d.val := by decide
  have same : value = toInt k := Int64.toInt.inj (key.trans (exact_digit k).symm)
  rw [same, ofInt?_toInt]

private theorem ofInt?_of_outside {value : Int64}
    (outside : ¬ (0 ≤ value.toInt ∧ value.toInt ≤ 9)) :
    ofInt? value = none := by
  have sign : 0 ≤ value ↔ 0 ≤ value.toInt := Int64.le_iff_toInt_le
  unfold ofInt? ofNat?
  split_ifs with low high
  · rw [sign] at low
    omega
  · rfl
  · rfl

end Digit

namespace Memory

private theorem Registers.get_set_eq (r : Registers) (d : Digit) (v : Option Int64) :
    (r.set d v).get = Function.update r.get d v := by
  funext e
  by_cases same : e = d
  · subst same
    simp
  · rw [Function.update_of_ne same, get_set_of_ne _ _ (Ne.symm same)]

end Memory

namespace Walk.DigitSet

private theorem contains_insert_eq (s : DigitSet) (k : Digit) :
    (s.insert k).contains = Function.update s.contains k true := by
  funext e
  by_cases same : e = k
  · simp [contains_insert, same]
  · simp [contains_insert, Function.update_of_ne same, Ne.symm same]

private theorem contains_erase_eq (s : DigitSet) (k : Digit) :
    (s.erase k).contains = Function.update s.contains k false := by
  funext e
  by_cases same : e = k
  · simp [contains_erase, same]
  · simp [contains_erase, Function.update_of_ne same, Ne.symm same]

end Walk.DigitSet

namespace Program

open Console (Terminal)
open Sheet (Cell Operator)
open Walk.DigitSet (contains_insert_eq contains_erase_eq)

/-! ### From tokens to instructions -/

def Action.form (tokens : Nat → Cell) (row : Nat) : Action → Instruction
  | .exit => .exit
  | .prefer => .prefer
  | .unprefer => .unprefer
  | .store => storeForm tokens (row + 1)
  | .load => loadForm tokens (row + 1)
  | .add => readForm tokens .add (row + 1)
  | .subtract => readForm tokens .subtract (row + 1)

private theorem mem_actionOperators_iff (o : Operator) :
    o ∈ actionOperators ↔ ∃ a, action? o = some a := by
  cases o <;> simp [actionOperators, action?]

section Tokens

variable {tokens : Nat → Cell} {row : Nat}

private theorem instructionAt_of_action {o : Operator} {a : Action}
    (token : tokens row = .operator o)
    (acts : action? o = some a) : instructionAt tokens row = a.form tokens row := by
  have found : (tokens row).operator?.bind action? = some a := by
    rw [token]
    exact acts
  rw [instructionAt, found]
  cases a <;> rfl

private theorem instructionAt_of_inert (inert : ∀ o ∈ actionOperators, tokens row ≠ .operator o) :
    instructionAt tokens row = .idle := by
  have nothing : (tokens row).operator?.bind action? = none := by
    cases token : tokens row with
    | operator o =>
      by_contra acts
      obtain ⟨a, acts⟩ := Option.ne_none_iff_exists'.mp acts
      exact inert o ((mem_actionOperators_iff o).mpr ⟨a, acts⟩) token
    | _ => rfl
  rw [instructionAt, nothing]

theorem instructionAt_congr {tokens' : Nat → Cell} (first : tokens row = tokens' row)
    (second : tokens (row + 1) = tokens' (row + 1)) (third : tokens (row + 2) = tokens' (row + 2)) :
    instructionAt tokens row = instructionAt tokens' row := by
  unfold instructionAt storeForm loadForm readForm
  rw [first, second, third]

private theorem readForm_of_offence {use : Use} (full : tokens row ≠ .blank)
    (unnamed : ∀ name, tokens row ≠ .name name) :
    readForm tokens use row = .malformed .nameOrBlank (tokens row) row := by
  unfold readForm
  split
  · rename_i blank
    exact absurd blank full
  · rename_i name named
    exact absurd named (unnamed name)
  · rfl

private theorem malformed_of_offence {expected : Expected} {found : Cell} {r : Nat}
    (offence : Offence tokens row expected found r) :
    instructionAt tokens row = .malformed expected found r := by
  cases offence with
  | store action unnamed =>
    rw [instructionAt_of_action action rfl, Action.form, storeForm]
    split
    · rename_i name named
      exact absurd named (unnamed name)
    · rfl
  | sum action full unnamed =>
    obtain action | action := action
    · exact (instructionAt_of_action action rfl).trans (readForm_of_offence full unnamed)
    · exact (instructionAt_of_action action rfl).trans (readForm_of_offence full unnamed)
  | load action full unnamed inactive =>
    rw [instructionAt_of_action action rfl, Action.form, loadForm]
    cases token : tokens (row + 1) with
    | blank => exact absurd token full
    | name name => exact absurd token (unnamed name)
    | operator o => exact absurd token (inactive o)
    | path d => rfl
    | unknown c => rfl
  | comparison action found other =>
    rw [instructionAt_of_action action rfl, Action.form]
    simp only [loadForm, found, other]
  | compared action found compares full unnamed =>
    rw [instructionAt_of_action action rfl, Action.form]
    simp only [loadForm, found, compares]
    exact readForm_of_offence full unnamed

private theorem Reads.instructionAt_eq {use : Use} {r : Nat} (reads : Reads tokens row use r)
    (operand : tokens r = .blank ∨ ∃ name, tokens r = .name name) :
    instructionAt tokens row = readForm tokens use r := by
  cases reads with
  | add action => exact instructionAt_of_action action rfl
  | subtract action => exact instructionAt_of_action action rfl
  | load action direct =>
    rw [instructionAt_of_action action rfl, Action.form]
    obtain blank | ⟨name, named⟩ := operand
    · rw [loadForm, blank]
    · rw [loadForm, named]
  | less action test =>
    rw [instructionAt_of_action action rfl, Action.form, loadForm, test]
    rfl
  | greater action test =>
    rw [instructionAt_of_action action rfl, Action.form, loadForm, test]
    rfl
  | equal action test =>
    rw [instructionAt_of_action action rfl, Action.form, loadForm, test]
    rfl

private theorem Reads.instructionAt_of_blank {use : Use} {r : Nat} (reads : Reads tokens row use r)
    (blank : tokens r = .blank) : instructionAt tokens row = .read use .own := by
  rw [reads.instructionAt_eq (.inl blank), readForm, blank]

private theorem Reads.instructionAt_of_name {use : Use} {r : Nat} (reads : Reads tokens row use r)
    {name : String} (named : tokens r = .name name) :
    instructionAt tokens row = .read use (.named name) := by
  rw [reads.instructionAt_eq (.inr ⟨name, named⟩), readForm, named]

end Tokens

namespace Machine

variable {ε : Type}

def scene (m : Machine ε) : Scene ε where
  registers := m.memory.registers.get
  values := m.memory.stored?
  preferred := m.walker.preferred.contains
  heading := m.walker.reading.heading
  lastMove := m.walker.cursor.lastMove
  entropy := m.memory.entropy
  console := m.memory.watcher
  input := m.input

def draft (m : Machine ε) (p : Prepared) : Draft ε := ⟨p.value, p.grounded, m.scene⟩

private theorem register_scene (m : Machine ε) (key : Int64) :
    m.scene.register key = m.memory.registers.value? key := by
  have sign : 0 ≤ key ↔ 0 ≤ key.toInt := Int64.le_iff_toInt_le
  unfold Scene.register Memory.Registers.value? Digit.ofInt? Digit.ofNat?
  by_cases low : 0 ≤ key.toInt
  · rw [if_pos (sign.mpr low)]
    by_cases high : key.toInt < 10
    · have small : key.toInt.toNat < 10 := by omega
      rw [dif_pos ⟨low, high⟩, dif_pos small]
      rfl
    · have large : ¬ key.toInt.toNat < 10 := by omega
      rw [dif_neg (fun digit => high digit.2), dif_neg large]
      rfl
  · rw [if_neg (mt sign.mp low), dif_neg (fun digit => low digit.1)]
    rfl

private theorem scene_setRegister (m : Machine ε) (d : Digit) (v : Option Int64) :
    (m.setRegister d v).scene =
      { m.scene with registers := Function.update m.scene.registers d v } := by
  unfold scene setRegister Memory.setRegister Memory.stored?
  rw [Memory.Registers.get_set_eq]

private theorem scene_prefer (m : Machine ε) {value : Int64} {k : Digit} (key : value.toInt = k.val)
    (preferred : Bool) :
    (m.prefer value preferred).scene =
      { m.scene with preferred := Function.update m.scene.preferred k preferred } := by
  unfold prefer
  rw [Digit.ofInt?_of_toInt key]
  cases preferred with
  | true => exact congrArg (fun f => { m.scene with preferred := f }) (contains_insert_eq _ k)
  | false => exact congrArg (fun f => { m.scene with preferred := f }) (contains_erase_eq _ k)

private theorem prefer_of_outside (m : Machine ε) {value : Int64}
    (outside : ¬ (0 ≤ value.toInt ∧ value.toInt ≤ 9)) (preferred : Bool) :
    m.prefer value preferred = m := by
  unfold prefer
  rw [Digit.ofInt?_of_outside outside]

variable [Entropy ε]

/-! ### Modifiers -/

private theorem draft_modify (m : Machine ε) (p : Prepared) {o : Operator} {x : Modifier}
    (modifies : modifier? o = some x) :
    (m.modify p x).2.draft (m.modify p x).1 =
      (m.draft p).modified m.walker.cursor.velocity.dx.toInt o := by
  have east : 0 < m.walker.cursor.velocity.dx ↔ m.walker.cursor.velocity.dx.toInt > 0 :=
    Int64.lt_iff_toInt_lt
  have west : m.walker.cursor.velocity.dx < 0 ↔ m.walker.cursor.velocity.dx.toInt < 0 :=
    Int64.lt_iff_toInt_lt
  cases o with
  | deref =>
    cases modifies
    obtain ⟨value, grounded⟩ := p
    have held := register_scene m value
    cases register : m.memory.registers.value? value with
    | some v =>
      rw [register] at held
      simp only [modify, Memory.register, register, Option.some_or]
      simp only [Draft.modified, draft, held]
    | none =>
      rw [register] at held
      cases grounded with
      | true =>
        simp only [modify, Memory.register, register, Prepared.fallback]
        simp only [Draft.modified, draft, held]
        rfl
      | false =>
        simp only [modify, Memory.register, register, Prepared.fallback]
        simp only [Draft.modified, draft, held]
        rfl
  | pass =>
    cases modifies
    rfl
  | ground =>
    cases modifies
    rfl
  | toggle =>
    cases modifies
    rfl
  | less =>
    cases modifies
    simp only [modify, Draft.modified, east]
    split <;> rfl
  | greater =>
    cases modifies
    simp only [modify, Draft.modified, west]
    split <;> rfl
  | _ => cases modifies

private theorem draft_prepare (m : Machine ε) (d : Digit) {run : List Operator}
    {modifiers : List Modifier}
    (reads : List.Forall₂ (fun o x => modifier? o = some x) run modifiers) :
    (m.prepare d modifiers).2.draft (m.prepare d modifiers).1 =
      run.foldl (fun w o => w.modified m.walker.cursor.velocity.dx.toInt o)
        ⟨Digit.toInt d, false, m.scene⟩ := by
  change _ = run.foldl _ (m.draft ⟨Digit.toInt d, false⟩)
  unfold prepare
  generalize (⟨Digit.toInt d, false⟩ : Prepared) = p
  induction reads generalizing m p with
  | nil => rfl
  | cons modifies reads ih =>
    rename_i o x run modifiers
    have facing : (m.modify p x).2.walker.cursor.velocity = m.walker.cursor.velocity := by
      obtain ⟨k, _, swayed⟩ := modify_eq m p x
      rw [swayed, velocity_swayed]
    rw [List.foldl_cons, List.foldl_cons, ← draft_modify m p modifies, ← facing]
    exact ih (m.modify p x).2 _

/-! ### Actions -/

theorem resolve_scene (m : Machine ε) (name : String) :
    m.scene.resolve name =
      ((m.memory.resolve name).1, { m with memory := (m.memory.resolve name).2 }.scene) := by
  unfold Scene.resolve Memory.resolve
  cases Memory.indirection? name with
  | none => rfl
  | some i =>
    unfold Memory.index
    cases numeral : i.key? with
    | none =>
      simp only [numeral, Option.bind_none]
      rfl
    | some key =>
      have held := register_scene m key
      cases register : m.memory.registers.value? key with
      | some v =>
        rw [register] at held
        simp only [numeral, Option.bind_some, held, Memory.register, register, Option.some_or]
      | none =>
        rw [register] at held
        simp only [numeral, Option.bind_some, held, Memory.register, register, Option.none_or]
        rfl

private theorem scene_write (m : Machine ε) (name : String) (value : Int64) :
    { m with memory := m.memory.set name value }.scene = m.scene.write name value := by
  obtain ⟨e, drawn⟩ := m.memory.resolve_reseed name
  have written := m.memory.stored?_insert (m.memory.resolve name).1 value
  unfold Scene.write
  rw [resolve_scene, drawn]
  unfold Memory.set
  rw [drawn]
  change Scene.mk _ _ _ _ _ _ _ _ = Scene.mk _ _ _ _ _ _ _ _
  congr 1

private theorem holds_iff_orders (test : Comparison) (a b : Int64) :
    test.holds a b = true ↔ test.Orders a.toInt b.toInt := by
  cases test with
  | less => simp [Comparison.holds, Comparison.Orders, Int64.lt_iff_toInt_lt]
  | greater => simp [Comparison.holds, Comparison.Orders, Int64.lt_iff_toInt_lt]
  | equal => simp [Comparison.holds, Comparison.Orders, Int64.toInt_inj]

private theorem scene_conclude_some (m : Machine ε) (d : Digit) {value v : Int64} {use : Use}
    {result : Option Int64} {s : Scene ε} (yields : Yields value use (some v) m.scene result s) :
    (m.conclude ⟨d, value, use⟩ (some v)).scene =
      { s with registers := Function.update s.registers d result } := by
  rw [conclude_some, scene_setRegister]
  dsimp only
  cases yields with
  | keep => rfl
  | met _ holds => rw [Use.result, if_pos ((holds_iff_orders _ _ _).mpr holds)]
  | unmet _ fails => rw [Use.result, if_neg (mt (holds_iff_orders _ _ _).mp fails)]
  | @sum _ r _ clamped =>
    have same : Number.satAdd value v = r := by
      apply Int64.toInt.inj
      rw [Number.toInt_satAdd, clamped]
    rw [Use.result, same]
  | @difference _ r _ clamped =>
    have same : Number.satSub value v = r := by
      apply Int64.toInt.inj
      rw [Number.toInt_satSub, clamped]
    rw [Use.result, same]

private theorem scene_conclude (m : Machine ε) (d : Digit) {value : Int64} {use : Use}
    {operand result : Option Int64} {s : Scene ε}
    (yields : Yields value use operand m.scene result s) :
    (m.conclude ⟨d, value, use⟩ operand).scene =
      { s with registers := Function.update s.registers d result } := by
  cases operand with
  | some v => exact scene_conclude_some m d yields
  | none =>
    cases yields with
    | keep => exact scene_setRegister m d none
    | guessed test => exact scene_setRegister { m with memory := m.memory.drawBit.2 } d _
    | drawn sums later =>
      have drawn := scene_conclude_some { m with memory := m.memory.drawDigit.2 } d later
      obtain rfl | rfl := sums
      · exact drawn
      · exact drawn

private theorem plain_of_ne {name : String} (plain : ∀ t : Terminal, name ≠ t.key) :
    Terminal.ofKey? name = none := by
  cases found : Terminal.ofKey? name with
  | none => rfl
  | some t => exact absurd (Console.Terminal.eq_of_ofKey? found) (plain t)

private theorem scene_get (m : Machine ε) (name : String) (fallback : Option Int64) :
    { m with memory := (m.memory.get name fallback).2.resume }.scene =
      (m.scene.resolve name).2 := by
  obtain ⟨e, drawn, ⟨awake, got⟩ | got⟩ := m.memory.get_cases name fallback
  · rw [resolve_scene, drawn, got]
    unfold Memory.resume
    have still : (m.memory.told e (m.memory.resolve name).1).halted = false := awake
    rw [if_neg (Bool.eq_false_iff.mp still)]
    rfl
  · rw [resolve_scene, drawn, got]
    rfl

/-- The machine that has resumed with a reply, before the register is given what the reply is
an operand for. -/
def replied (m : Machine ε) (t : Terminal) (fallback : Option Int64) (reply : String) :
    Machine ε :=
  { m with
    memory := ({ m.memory.queued t.key fallback with
      bindings := m.memory.bindings.insert t.key (t.decode reply)
      watcher := m.memory.watcher.setMuted false } : Memory ε Console).resume
    input := m.input.next.2
    asked := m.asked + m.input.isOpen.toNat }

private theorem answered_eq (m : Machine ε) (t : Terminal) (fallback : Option Int64) (i : Intent)
    (reply : String) :
    m.answered t fallback i reply =
      (m.replied t fallback reply).conclude i (some (t.decode reply)) := by
  rw [conclude_some]
  rfl

omit [Entropy ε] in
private theorem scene_replied (m : Machine ε) (t : Terminal) (fallback : Option Int64)
    (reply : String) :
    (m.replied t fallback reply).scene =
      { m.scene with
        values := Function.update m.scene.values t.key (some (t.decode reply))
        input := m.scene.input.next.2
        console := m.scene.console.setMuted false } := by
  have written := m.memory.stored?_insert t.key (t.decode reply)
  exact congrArg (fun f => { m.scene with
    values := f
    input := m.scene.input.next.2
    console := m.scene.console.setMuted false }) written

theorem perform_of_completes (m : Machine ε) (d : Digit) (p : Prepared) {tokens : Nat → Cell}
    {row : Nat} {result : Except Fault Step} {s : Scene ε}
    (h : Completes tokens m.faultPlace row d (m.draft p) result s) :
    (m.perform d p (instructionAt tokens row)).finish.1 = result ∧
      (m.perform d p (instructionAt tokens row)).finish.2.scene = s := by
  cases h with
  | idle inert =>
    rw [instructionAt_of_inert inert]
    exact ⟨rfl, rfl⟩
  | exit action =>
    rw [instructionAt_of_action action rfl]
    exact ⟨rfl, rfl⟩
  | prefer action key =>
    rw [instructionAt_of_action action rfl]
    exact ⟨rfl, scene_prefer m key true⟩
  | unprefer action key =>
    rw [instructionAt_of_action action rfl]
    exact ⟨rfl, scene_prefer m key false⟩
  | ignored action outside =>
    obtain action | action := action
    · rw [instructionAt_of_action action rfl]
      exact ⟨rfl, congrArg scene (prefer_of_outside m outside true)⟩
    · rw [instructionAt_of_action action rfl]
      exact ⟨rfl, congrArg scene (prefer_of_outside m outside false)⟩
  | store action named =>
    rw [instructionAt_of_action action rfl, Action.form, storeForm, named]
    exact ⟨rfl, scene_write m _ p.value⟩
  | read reads supplies yields =>
    cases supplies with
    | own blank =>
      rw [reads.instructionAt_of_blank blank]
      exact ⟨rfl, scene_conclude m d yields⟩
    | @named name named plain =>
      rw [reads.instructionAt_of_name named, perform, readVariable_of_plain m _ (plain_of_ne plain)]
      refine ⟨rfl, scene_conclude _ d ?_⟩
      have key := congrArg Prod.fst (resolve_scene m name)
      rw [scene_get, ← key]
      exact yields
    | replied named next =>
      rw [reads.instructionAt_of_name named, perform, finish_of_reply m _ _ _ next, answered_eq]
      refine ⟨rfl, scene_conclude _ d ?_⟩
      rw [scene_replied]
      exact yields
  | refused reads named silent =>
    rw [reads.instructionAt_of_name named, perform, finish_of_silence m _ _ _ silent]
    exact ⟨rfl, rfl⟩
  | malformed offence =>
    rw [malformed_of_offence offence]
    exact ⟨rfl, rfl⟩

theorem execute_of_inert (m : Machine ε) (d : Digit)
    (inert : ∀ o ∈ actionOperators, m.below (m.column.modifiers.length + 1) ≠ .operator o) :
    m.execute d = .done (.ok .running) (m.prepare d m.column.modifiers).2 := by
  have idle : m.column.instruction = .idle := instructionAt_of_inert inert
  unfold execute
  rw [idle]
  rfl

private theorem Effects.finish (phase : Phase ε) : Effects phase.machine phase.finish.2 := by
  cases phase with
  | done result m => exact .refl
  | asking q m =>
    have asked : Effects m { m with input := m.input.next.2 } :=
      .single (.ask m m.input.next.2 m.asked)
    exact asked.trans (Effects.answer _ q _)

private theorem footing_execute (m : Machine ε) (d : Digit) :
    (m.execute d).finish.2.footing = m.footing := by
  have effects : Effects m (m.execute d).finish.2 := (Effects.execute m d).trans (Effects.finish _)
  exact effects.preserve (P := fun m' => m'.footing = m.footing)
    (fun effect same => (footing_effect effect).trans same) rfl

/-- Carrying out the column under the cursor is what the column means, for every machine and
every digit: the operators of the longest run from the row below the cursor are taken one after
the other, and what the rows after them come to is the result and the scene that are left. The
cursor stays where it is. Without an action nothing remains but reversals and draws. -/
theorem column_is_carried_out_as_it_means (m : Machine ε) (tall : m.sheet.height < Nat.pow 2 63)
    (d : Digit) :
    ∃ run, LongestRun m.token run ∧ (∀ other, LongestRun m.token other → other = run) ∧
      let w := run.foldl (fun w o => w.modified m.walker.cursor.velocity.dx.toInt o)
        (⟨Digit.toInt d, false, m.scene⟩ : Draft ε)
      let outcome := (m.execute d).finish
      (∀ result s, Completes m.token m.faultPlace (run.length + 1) d w result s ↔
        outcome.1 = result ∧ outcome.2.scene = s) ∧
      outcome.2.footing = m.footing ∧
      ((∀ o ∈ actionOperators, m.token (run.length + 1) ≠ .operator o) →
        ∃ reversals draws, outcome.2 = m.swayed reversals draws) := by
  obtain ⟨run, longest, reads, agree⟩ := exists_longestRun tall
  obtain ⟨draws, _, swayed⟩ := prepare_eq m d m.column.modifiers
  have instruction : m.column.instruction = instructionAt m.token (run.length + 1) := by
    have read : m.column.instruction = instructionAt m.below (m.column.modifiers.length + 1) := rfl
    rw [read, ← reads.length_eq]
    exact instructionAt_congr (agree _ (by omega)) (agree _ (by omega)) (agree _ (by omega))
  have place : (m.prepare d m.column.modifiers).2.faultPlace = m.faultPlace := by
    funext row
    rw [swayed, faultPlace_swayed]
    rfl
  refine ⟨run, longest, fun other h => h.unique longest, ?_⟩
  intro w outcome
  have drafted : (m.prepare d m.column.modifiers).2.draft (m.prepare d m.column.modifiers).1 = w :=
    draft_prepare m d reads
  have carried {result : Except Fault Step} {s : Scene ε}
      (h : Completes m.token m.faultPlace (run.length + 1) d w result s) :
      outcome.1 = result ∧ outcome.2.scene = s := by
    rw [← drafted, ← place] at h
    have performed := perform_of_completes _ d _ h
    rw [← instruction] at performed
    exact performed
  refine ⟨fun result s => ⟨carried, ?_⟩, footing_execute m d, ?_⟩
  · rintro ⟨rfl, rfl⟩
    obtain ⟨result, s, means⟩ := exists_completes m.token m.faultPlace (run.length + 1) d w
    obtain ⟨same, left⟩ := carried means
    rw [same, left]
    exact means
  · intro inert
    have row : m.below (m.column.modifiers.length + 1) = m.token (run.length + 1) := by
      rw [← reads.length_eq, agree _ (by omega)]
    have done := execute_of_inert m d (row ▸ inert)
    refine ⟨_, draws, Eq.trans ?_ swayed⟩
    exact congrArg (fun phase => phase.finish.2) done

/-- A floating register is drawn before what floats is grounded, the reading turns, and the
number drawn is not equal to the zero of a variable that nobody wrote. -/
theorem drawn_value_is_compared_with_a_grounded_variable :
    let m := Machine.load ⟨#[some 1]⟩ "1\n@\n.\n:\n^\n=\nx" (⟨[7, 5]⟩ : Entropy.Script) .closed true
    let outcome := (m.execute 1).finish
    LongestRun m.token [.deref, .ground, .toggle] ∧ outcome.1 = .ok .running ∧
      outcome.2.scene.registers 1 = some 0 ∧ outcome.2.scene.heading = .backward ∧
      outcome.2.scene.entropy.numbers = [5, 7] := by
  intro m outcome
  have longest : LongestRun m.token [.deref, .ground, .toggle] := by
    refine ⟨by decide, ?_, by decide⟩
    intro i o listed
    match i with
    | 0 => cases listed; decide
    | 1 => cases listed; decide
    | 2 => cases listed; decide
  obtain ⟨run, _, unique, means, _⟩ := column_is_carried_out_as_it_means m (by decide) 1
  obtain rfl := unique _ longest
  let w : Draft Entropy.Script := [Operator.deref, .ground, .toggle].foldl
    (fun w o => w.modified m.walker.cursor.velocity.dx.toInt o) ⟨Digit.toInt 1, false, m.scene⟩
  have reads : Reads m.token 4 (.compare .equal) 6 := .equal (by decide) (by decide)
  have supplies : Supplies (m.token 6) 1 w (some 0) w.scene := by
    have named : m.token 6 = .name "x" := by decide
    have plain : ∀ t : Terminal, "x" ≠ t.key := by
      intro t
      cases t <;> decide
    exact .named named plain
  have yields : Yields w.value (.compare .equal) (some 0) w.scene (some 0) w.scene :=
    .unmet _ (show ¬ w.value.toInt = 0 by decide)
  obtain ⟨result, left⟩ := (means _ _).mp (.read reads supplies yields)
  refine ⟨longest, result, ?_, ?_, ?_⟩
  · rw [left]
    rfl
  · rw [left]
    rfl
  · rw [left]
    rfl

end Machine

end Program

end DigitTrail
