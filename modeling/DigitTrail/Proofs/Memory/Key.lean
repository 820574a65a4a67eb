import DigitTrail.Console
import DigitTrail.Entropy
import DigitTrail.Proofs.Memory.Frame
import DigitTrail.Proofs.Number.Numeral
import DigitTrail.Proofs.Text.Line

/-!
Keys of variables. A key with an at sign is indirect and stands for a cell, whose own key is a
name and an index in brackets. That key has no at sign left, tells one cell from all others, and
is no terminal. So the cells of a name are an array, in whichever way they are written, and no
indirection reaches a terminal.
-/

set_option autoImplicit false
set_option relaxedAutoImplicit false

namespace DigitTrail

open Console (Terminal)

namespace Console

theorem Terminal.eq_of_ofKey? {key : String} {t : Terminal} (h : Terminal.ofKey? key = some t) :
    key = t.key := by
  unfold ofKey? at h
  split at h
  · rename_i decimal
    cases h
    exact decimal
  · split at h
    · rename_i ascii
      cases h
      exact ascii
    · cases h

end Console

namespace Memory

/-! ### Cells -/

private theorem toList_indexed (name : String) (i : Int64) :
    (indexed name i).toList = name.toList ++ '[' :: ((Number.decimal i).toList ++ [']']) := by
  simp [indexed]

private theorem not_mem_index (i : Int64) {c : Char} (sign : c ≠ '-') (close : c ≠ ']')
    (undigited : c.isDigit = false) : c ∉ (Number.decimal i).toList ++ [']'] := by
  intro member
  rcases List.mem_append.mp member with inside | last
  · rcases Number.eq_or_isDigit_of_mem_decimal inside with minus | digit
    · exact sign minus
    · rw [undigited] at digit
      cases digit
  · exact close (List.mem_singleton.mp last)

private theorem indexed_inj {name name' : String} {i i' : Int64} :
    indexed name i = indexed name' i' ↔ name = name' ∧ i = i' := by
  refine ⟨fun same => ?_, fun ⟨names, indices⟩ => by rw [names, indices]⟩
  have unopened (j : Int64) : '[' ∉ ((Number.decimal j).toList ++ [']']).reverse := by
    rw [List.mem_reverse]
    exact not_mem_index j (by decide) (by decide) (by decide)
  have backward := congrArg List.reverse (congrArg String.toList same)
  rw [toList_indexed, toList_indexed, List.reverse_append, List.reverse_append, List.reverse_cons,
    List.reverse_cons, List.append_assoc, List.append_assoc] at backward
  obtain ⟨indices, names⟩ := Text.append_mark_inj (unopened i) (unopened i') backward
  constructor
  · exact String.toList_inj.mp (List.reverse_injective names)
  · have digits := List.append_cancel_right (List.reverse_injective indices)
    exact Number.decimal_inj.mp (String.toList_inj.mp digits)

private theorem not_mem_indexed {name : String} (free : '@' ∉ name.toList) (i : Int64) :
    '@' ∉ (indexed name i).toList := by
  have index := not_mem_index i (c := '@') (by decide) (by decide) (by decide)
  rw [toList_indexed]
  simp only [List.mem_append, List.mem_cons] at index ⊢
  rintro (inside | bracket | after)
  · exact free inside
  · cases bracket
  · exact index after

private theorem ofKey?_indexed (name : String) (i : Int64) :
    Terminal.ofKey? (indexed name i) = none := by
  cases h : Terminal.ofKey? (indexed name i) with
  | none => rfl
  | some t =>
    have last : (indexed name i).toList.getLast? = some ']' := by
      rw [indexed, String.toList_append]
      exact List.getLast?_concat
    rw [Console.Terminal.eq_of_ofKey? h] at last
    cases t <;> exact absurd last (by decide)

/-! ### Indirections -/

private theorem indirection?_cases (key : String) :
    (indirection? key = none ∧ '@' ∉ key.toList) ∨
      ∃ i, indirection? key = some i ∧ '@' ∈ key.toList ∧ '@' ∉ i.name.toList := by
  unfold indirection?
  cases after : key.toList.dropWhile (· ≠ '@') with
  | nil =>
    refine .inl ⟨rfl, fun member => ?_⟩
    simpa using List.dropWhile_eq_nil_iff.mp after '@' member
  | cons c register =>
    refine .inr ⟨_, rfl, ?_, ?_⟩
    · have found : c = '@' := by
        have stops := List.head?_dropWhile_not (· ≠ '@') key.toList
        rw [after] at stops
        simpa using stops
      rw [← found]
      exact (List.dropWhile_suffix _).subset (after ▸ List.mem_cons_self)
    · rw [String.toList_ofList]
      intro member
      simpa using List.mem_takeWhile_imp member

private theorem indirection?_append {name : String} (free : '@' ∉ name.toList) (register : String) :
    indirection? (name ++ "@" ++ register) = some ⟨name, register⟩ := by
  have spelt : (name ++ "@" ++ register).toList = name.toList ++ '@' :: register.toList := by simp
  unfold indirection?
  rw [spelt, Text.takeWhile_ne_append free, Text.dropWhile_ne_append free]
  simp

section Resolve

variable {ε ω : Type} [Entropy ε]

private theorem resolve_of_direct (m : Memory ε ω) {key : String} (direct : '@' ∉ key.toList) :
    m.resolve key = (key, m) := by
  obtain ⟨none, _⟩ | ⟨_, _, indirect, _⟩ := indirection?_cases key
  · rw [resolve, none]
  · exact absurd indirect direct

private theorem exists_resolve_eq (m : Memory ε ω) {key : String} (indirect : '@' ∈ key.toList) :
    ∃ name i, '@' ∉ name.toList ∧ (m.resolve key).1 = indexed name i := by
  obtain ⟨_, direct⟩ | ⟨i, some, _, free⟩ := indirection?_cases key
  · exact absurd indirect direct
  · refine ⟨i.name, (m.index i).1, free, ?_⟩
    rw [resolve, some]

private theorem not_mem_resolve (m : Memory ε ω) (key : String) :
    '@' ∉ (m.resolve key).1.toList := by
  by_cases indirect : '@' ∈ key.toList
  · obtain ⟨name, i, free, cell⟩ := m.exists_resolve_eq indirect
    rw [cell]
    exact not_mem_indexed free i
  · rw [m.resolve_of_direct indirect]
    exact indirect

theorem resolve_key (m : Memory ε ω) (t : Terminal) : m.resolve t.key = (t.key, m) :=
  m.resolve_of_direct (by cases t <;> decide)

theorem ofKey?_resolve (m : Memory ε ω) (name : String) :
    Terminal.ofKey? (m.resolve name).1 = Terminal.ofKey? name := by
  cases named : Terminal.ofKey? name with
  | some t =>
    have own := Console.Terminal.eq_of_ofKey? named
    rw [own, resolve_key, Console.Terminal.ofKey?_key]
  | none =>
    by_cases indirect : '@' ∈ name.toList
    · obtain ⟨_, i, _, cell⟩ := m.exists_resolve_eq indirect
      rw [cell, ofKey?_indexed]
    · rw [m.resolve_of_direct indirect, named]

/-- The keys of the cell of a name at an index: the cell's own key, and those that go by way of
a register which holds the index. -/
inductive Addresses (m : Memory ε ω) (name : String) (i : Int64) : String → Prop
  | direct : Addresses m name i (name ++ "[" ++ Number.decimal i ++ "]")
  | register {r : Digit} {numeral : String}
      (names : Number.readSigned numeral.toList = .ok (Digit.toInt r))
      (holds : m.registers.get r = some i) : Addresses m name i (name ++ "@" ++ numeral)

private theorem Addresses.resolve_eq {m : Memory ε ω} {name key : String} {i : Int64}
    (cell : m.Addresses name i key) (free : '@' ∉ name.toList) :
    m.resolve key = (indexed name i, m) := by
  cases cell with
  | direct => exact m.resolve_of_direct (not_mem_indexed free i)
  | @register r numeral names holds =>
    have key : (⟨name, numeral⟩ : Indirection).key? = some (Digit.toInt r) := by
      rw [Indirection.key?, names]
      rfl
    have value : m.registers.value? (Digit.toInt r) = some i := by
      rw [Registers.value?, Digit.ofInt?_toInt]
      exact holds
    rw [resolve, indirection?_append free]
    simp only [index, key, Memory.register, value, Option.some_or]

end Resolve

/-! ### Reads and writes -/

section Watched

variable {ε ω : Type} [Entropy ε] [Watcher ω]

private theorem halted_get (m : Memory ε ω) (key : String) (fallback : Option Int64) :
    (m.get key fallback).2.halted =
      (m.halted || (Watcher.asked m.watcher (m.resolve key).1).1) := by
  obtain ⟨e, drawn⟩ := m.resolve_reseed key
  unfold get fetch
  rw [drawn]
  split
  · rfl
  · rfl

private theorem get_of_awake {m : Memory ε ω} (awake : m.halted = false) {key : String}
    (calm : (Watcher.asked m.watcher (m.resolve key).1).1 = false) (fallback : Option Int64) :
    (m.get key fallback).1 = .ready ((m.stored? (m.resolve key).1).or fallback) := by
  obtain ⟨e, drawn, ⟨_, got⟩ | got⟩ := m.get_cases key fallback
  · rw [got]
  · have stays := m.halted_get key fallback
    rw [got, awake, calm] at stays
    cases stays

private theorem stored?_set (m : Memory ε ω) (key : String) (value : Int64) :
    (m.set key value).stored? = Function.update m.stored? (m.resolve key).1 (some value) := by
  obtain ⟨e, set⟩ := m.set_eq key value
  rw [set, ← stored?_insert]
  rfl

private theorem Addresses.set {m : Memory ε ω} {name key : String} {i : Int64}
    (cell : m.Addresses name i key) (written : String) (value : Int64) :
    (m.set written value).Addresses name i key := by
  obtain ⟨e, set⟩ := m.set_eq written value
  cases cell with
  | direct => exact .direct
  | register names holds =>
    refine .register names ?_
    rw [set]
    exact holds

/-- Indirect variables are arrays. In a memory that is not halted, and whose watcher halts neither
read, before or after the write, two keys of cells resolve to one key exactly if they are of one
name and one index; and a value that is written under the one is what is read under the other if
they are of one cell, and changes nothing of what is read there if they are not. -/
theorem indirect_variables_are_arrays {m : Memory ε ω} (awake : m.halted = false)
    {name name' key key' : String} {i i' : Int64} (free : '@' ∉ name.toList)
    (free' : '@' ∉ name'.toList) (cell : m.Addresses name i key)
    (cell' : m.Addresses name' i' key') (value : Int64) (fallback : Option Int64)
    (calm : (Watcher.asked m.watcher (m.resolve key').1).1 = false)
    (calm' : (Watcher.asked (m.set key value).watcher (m.resolve key').1).1 = false) :
    ((m.resolve key).1 = (m.resolve key').1 ↔ name = name' ∧ i = i') ∧
      ((m.set key value).get key' fallback).1 =
        if name = name' ∧ i = i' then .ready (some value) else (m.get key' fallback).1 := by
  have here := cell.resolve_eq free
  have there := cell'.resolve_eq free'
  have later := (cell'.set key value).resolve_eq free'
  refine ⟨by rw [here, there, indexed_inj], ?_⟩
  have still : (m.set key value).halted = false := by
    obtain ⟨e, set⟩ := m.set_eq key value
    rw [set]
    exact awake
  rw [there] at calm'
  rw [get_of_awake still (by rw [later]; exact calm'), get_of_awake awake calm, there, later,
    stored?_set, here]
  split_ifs with same
  · rw [same.1, same.2, Function.update_self, Option.some_or]
  · have other : indexed name' i' ≠ indexed name i := fun keys =>
      same ((indexed_inj.mp keys).imp Eq.symm Eq.symm)
    rw [Function.update_of_ne other]

/-- Two registers that hold one negative index lead to one cell of a name with brackets of its
own, which is not the cell of the name before the brackets. The watcher keeps a record of all this
and halts only reads of another key. -/
theorem cell_is_shared_by_two_registers :
    let m := (fresh (⟨[]⟩ : Entropy.Script) (⟨["SYS_T"], #[]⟩ : Recorder)).setRegister 3 (some (-5))
      |>.setRegister 7 (some (-5))
    (m.resolve "a[1]@3").1 = (m.resolve "a[1]@+07").1 ∧
      ((m.set "a[1]@3" 9).get "a[1]@+07" none).1 = .ready (some 9) ∧
      (m.resolve "a[1]@3").1 ≠ (m.resolve "a[-5]").1 ∧
      ((m.set "a[1]@3" 9).get "a[-5]" (some 2)).1 = (m.get "a[-5]" (some 2)).1 := by
  intro m
  have third : m.Addresses "a[1]" (-5) ("a[1]" ++ "@" ++ "3") :=
    .register (r := 3) (by decide) (by decide)
  have seventh : m.Addresses "a[1]" (-5) ("a[1]" ++ "@" ++ "+07") :=
    .register (r := 7) (by decide) (by decide)
  have plain : m.Addresses "a" (-5) "a[-5]" := .direct
  have shared := indirect_variables_are_arrays (m := m) rfl (by decide) (by decide) third seventh
    9 none (by decide) (by decide)
  have apart := indirect_variables_are_arrays (m := m) rfl (by decide) (by decide) third plain
    9 (some 2) (by decide) (by decide)
  exact ⟨shared.1.mpr ⟨rfl, rfl⟩, shared.2, mt apart.1.mp (by decide), apart.2⟩

end Watched

section Console

variable {ε ω : Type} [Entropy ε]

/-- A key is resolved once and for all, whatever the registers hold and whatever is drawn: what
it resolves to has no at sign, so it resolves to itself and draws nothing. A key without an at
sign is resolved already. One with an at sign is never a terminal's: on a console, reading it
halts nothing and writing it prints nothing. -/
theorem indirection_resolves_once (m : Memory ε ω) (key : String) :
    '@' ∉ (m.resolve key).1.toList ∧
      (∀ later : Memory ε ω, later.resolve (m.resolve key).1 = ((m.resolve key).1, later)) ∧
      ('@' ∉ key.toList → m.resolve key = (key, m)) ∧
      ('@' ∈ key.toList → (∀ t : Terminal, (m.resolve key).1 ≠ t.key) ∧
        ∀ (console : Memory ε Console) (value : Int64) (fallback : Option Int64),
          (console.get key fallback).2.halted = console.halted ∧
          (console.set key value).watcher = console.watcher) := by
  have final := m.not_mem_resolve key
  refine ⟨final, fun later => later.resolve_of_direct final, m.resolve_of_direct, ?_⟩
  intro indirect
  constructor
  · rintro t same
    obtain ⟨name, i, _, cell⟩ := m.exists_resolve_eq indirect
    have terminal := Terminal.ofKey?_key t
    rw [← same, cell, ofKey?_indexed] at terminal
    cases terminal
  · intro console value fallback
    obtain ⟨name, i, _, cell⟩ := console.exists_resolve_eq indirect
    have plain := ofKey?_indexed name i
    rw [← cell] at plain
    constructor
    · rw [halted_get]
      simp [Watcher.asked, Console.asked, plain]
    · obtain ⟨e, set⟩ := console.set_eq key value
      rw [set]
      simp [Watcher.wrote, Console.wrote, plain]

/-- The register is named by the text after the first at sign, and this one names none: the
index is drawn, and the key of the cell looks like a terminal's but is not. -/
theorem indirect_terminal_is_a_plain_variable :
    let m := fresh (⟨[7]⟩ : Entropy.Script) (Console.fresh true)
    (m.resolve "SYS_T@3@").1 = "SYS_T[7]" ∧
      (∀ later : Memory Entropy.Script Console,
        later.resolve "SYS_T[7]" = ("SYS_T[7]", later)) ∧
      (m.get "SYS_T@3@" none).2.halted = false ∧ (m.set "SYS_T@3@" 65).watcher.printed = #[] ∧
      m.resolve "SYS_T" = ("SYS_T", m) := by
  intro m
  have key : (m.resolve "SYS_T@3@").1 = "SYS_T[7]" := by decide
  have direct : '@' ∉ "SYS_T".toList := by decide
  obtain ⟨_, final, _, indirect⟩ := indirection_resolves_once m "SYS_T@3@"
  obtain ⟨awake, silent⟩ := (indirect (by decide)).2 m 65 none
  rw [key] at final
  refine ⟨key, final, awake, ?_, (indirection_resolves_once m "SYS_T").2.2.1 direct⟩
  rw [silent]
  rfl

end Console

end Memory

end DigitTrail
