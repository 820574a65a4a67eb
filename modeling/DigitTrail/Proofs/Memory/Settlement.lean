import Mathlib.Data.List.Nodup
import DigitTrail.Entropy
import DigitTrail.Proofs.Memory.Session

/-!
Every parked read is settled once. The invariant is about the queue: reads wait only
in a halted memory, and the reads that were settled followed by those that wait are
all the reads that were ever parked, in the order in which they were issued. Tickets
are therefore never lost or given out twice, and what a reader finds is decided by
the first resume after its read, or by the end of the memory before that.
-/

set_option autoImplicit false
set_option relaxedAutoImplicit false

namespace DigitTrail.Memory

variable {ε ω : Type}

/-- The queue of a memory is in order. -/
structure Sound (m : Memory ε ω) : Prop where
  quiet : m.parked ≠ [] → m.halted = true
  order : m.settled.reverse.map Settlement.ticket ++ m.parked.map ParkedRead.ticket =
    List.range m.issued

theorem sound_fresh (entropy : ε) (watcher : ω) : (fresh entropy watcher).Sound :=
  ⟨fun h => absurd rfl h, rfl⟩

/-- What becomes of the queue while the memory does not resume: it stays as it is, or
one more read joins it. -/
inductive Undisturbed (m m' : Memory ε ω) : Prop
  | kept (parked : m'.parked = m.parked) (settled : m'.settled = m.settled)
      (issued : m'.issued = m.issued) (halted : m.halted = true → m'.halted = true)
  | joined (key : String) (fallback : Option Int64)
      (parked : m'.parked = m.parked ++ [⟨m.issued, key, fallback⟩])
      (settled : m'.settled = m.settled) (issued : m'.issued = m.issued + 1)
      (halted : m'.halted = true)

private theorem Sound.undisturbed {m m' : Memory ε ω} (sound : m.Sound)
    (h : Undisturbed m m') : m'.Sound := by
  cases h with
  | kept parked settled issued halted =>
    constructor
    · intro waiting
      rw [parked] at waiting
      exact halted (sound.quiet waiting)
    · rw [parked, settled, issued]
      exact sound.order
  | joined key fallback parked settled issued halted =>
    constructor
    · intro _
      exact halted
    · rw [parked, settled, issued, List.map_append, List.range_succ, ← List.append_assoc,
        sound.order]
      rfl

private theorem Sound.resume {m : Memory ε ω} (sound : m.Sound) : m.resume.Sound := by
  unfold Memory.resume
  split
  · constructor
    · intro waiting
      exact absurd rfl waiting
    · have tickets : (m.parked.map m.settle).map Settlement.ticket =
          m.parked.map ParkedRead.ticket := by
        rw [List.map_map]
        rfl
      simp only [List.reverse_append, List.reverse_reverse, List.map_append, tickets,
        List.map_nil, List.append_nil]
      exact sound.order
  · exact sound

section Tickets

variable {m : Memory ε ω} {r : ParkedRead}

private theorem Sound.ticket_nodup (sound : m.Sound) :
    (m.settled.reverse.map Settlement.ticket ++ m.parked.map ParkedRead.ticket).Nodup := by
  rw [sound.order]
  exact List.nodup_range

private theorem find_settlement {l : List Settlement} (once : (l.map Settlement.ticket).Nodup)
    {x : Settlement} (member : x ∈ l) : l.find? (fun s => s.ticket = x.ticket) = some x := by
  induction l with
  | nil => cases member
  | cons y l ih =>
    rw [List.map_cons, List.nodup_cons] at once
    rcases List.mem_cons.mp member with rfl | later
    · simp
    · have other : y.ticket ≠ x.ticket := by
        intro same
        exact once.1 (same ▸ List.mem_map_of_mem later)
      simp [other, ih once.2 later]

private theorem Sound.settlement?_of_mem (sound : m.Sound) {x : Settlement}
    (member : x ∈ m.settled) :
    m.settlement? x.ticket = some x.value := by
  have once : (m.settled.map Settlement.ticket).Nodup := by
    have all := (List.nodup_append.mp sound.ticket_nodup).1
    rw [List.map_reverse] at all
    exact List.nodup_reverse.mp all
  rw [settlement?, find_settlement once member]
  rfl

private theorem Sound.settlement?_of_parked (sound : m.Sound) (waiting : r ∈ m.parked) :
    m.settlement? r.ticket = none := by
  have apart := (List.nodup_append.mp sound.ticket_nodup).2.2
  rw [settlement?, Option.map_eq_none_iff, List.find?_eq_none]
  intro x member same
  have settled : x.ticket ∈ m.settled.reverse.map Settlement.ticket :=
    List.mem_map_of_mem (List.mem_reverse.mpr member)
  have parked : r.ticket ∈ m.parked.map ParkedRead.ticket := List.mem_map_of_mem waiting
  exact apart _ settled _ parked (of_decide_eq_true same)

private theorem Sound.settle_mem_resume (sound : m.Sound) (waiting : r ∈ m.parked) :
    m.settle r ∈ m.resume.settled := by
  have halted := sound.quiet (List.ne_nil_of_mem waiting)
  simp only [Memory.resume, halted, if_true, List.mem_append, List.mem_reverse]
  exact Or.inl (List.mem_map_of_mem waiting)

end Tickets

section Operations

variable [Entropy ε] [Watcher ω] {m : Memory ε ω}

private theorem undisturbed_apply (m : Memory ε ω) {op : Operation ε} (other : op ≠ .resume) :
    Undisturbed m (m.apply op) := by
  cases op with
  | setRegister d v => exact .kept rfl rfl rfl id
  | set key value =>
    obtain ⟨e, written⟩ := m.set_eq key value
    simp only [Memory.apply, written]
    exact .kept rfl rfl rfl id
  | get key fallback =>
    obtain ⟨e, _, ⟨_, answered⟩ | parked⟩ := m.get_cases key fallback
    · simp only [Memory.apply, answered]
      exact .kept rfl rfl rfl id
    · simp only [Memory.apply, parked]
      exact .joined _ _ rfl rfl rfl rfl
  | contains key =>
    obtain ⟨e, drawn⟩ := m.resolve_reseed key
    simp only [Memory.apply, Memory.contains, drawn]
    exact .kept rfl rfl rfl id
  | resolve key =>
    obtain ⟨e, drawn⟩ := m.resolve_reseed key
    simp only [Memory.apply, drawn]
    exact .kept rfl rfl rfl id
  | halt => exact .kept rfl rfl rfl fun _ => rfl
  | resume => exact absurd rfl other
  | reseed source => exact .kept rfl rfl rfl id

theorem Sound.apply (sound : m.Sound) (op : Operation ε) : (m.apply op).Sound := by
  by_cases h : op = .resume
  · subst h
    exact sound.resume
  · exact sound.undisturbed (undisturbed_apply m h)

private theorem parked_apply {r : ParkedRead} (waiting : r ∈ m.parked) {op : Operation ε}
    (other : op ≠ .resume) : r ∈ (m.apply op).parked := by
  cases undisturbed_apply m other with
  | kept parked => exact parked ▸ waiting
  | joined key fallback parked => exact parked ▸ List.mem_append_left _ waiting

private theorem settled_apply {x : Settlement} (member : x ∈ m.settled) (op : Operation ε) :
    x ∈ (m.apply op).settled := by
  by_cases h : op = .resume
  · subst h
    simp only [Memory.apply, Memory.resume]
    split
    · exact List.mem_append_right _ member
    · exact member
  · cases undisturbed_apply m h with
    | kept _ settled => exact settled ▸ member
    | joined _ _ _ settled => exact settled ▸ member

theorem watcher_apply (m : Memory ε ω) (op : Operation ε) :
    (m.apply op).watcher = (m.notices op).foldl Notice.tell m.watcher := by
  cases op with
  | setRegister d v => rfl
  | set key value =>
    obtain ⟨e, written⟩ := m.set_eq key value
    simp only [Memory.apply, written]
    rfl
  | get key fallback =>
    obtain ⟨e, _, ⟨_, answered⟩ | parked⟩ := m.get_cases key fallback
    · simp only [Memory.apply, answered]
      rfl
    · simp only [Memory.apply, parked]
      rfl
  | contains key =>
    obtain ⟨e, drawn⟩ := m.resolve_reseed key
    simp only [Memory.apply, Memory.contains, drawn]
    rfl
  | resolve key =>
    obtain ⟨e, drawn⟩ := m.resolve_reseed key
    simp only [Memory.apply, drawn]
    rfl
  | halt => rfl
  | resume =>
    simp only [Memory.apply, Memory.resume]
    split <;> rfl
  | reseed source => rfl

end Operations

namespace Readers

private theorem find?_hold (rs : Readers) (r : Reader) (id : Nat) :
    (rs.hold r).find? id = if id = rs.next then some r else rs.find? id := by
  simp only [find?, hold, next, Array.getElem?_push]
  by_cases last : id = rs.held.size
  · simp [last]
  · simp [last]

private theorem find?_release (rs : Readers) {id other : Nat} (h : other ≠ id) :
    (rs.release other).find? id = rs.find? id := by
  simp only [find?, release, Array.getElem?_setIfInBounds_ne h]

@[simp] private theorem next_hold (rs : Readers) (r : Reader) : (rs.hold r).next = rs.next + 1 := by
  simp [next, hold]

@[simp] private theorem next_release (rs : Readers) (id : Nat) :
    (rs.release id).next = rs.next := by
  simp [next, release]

end Readers

namespace Session

private theorem finds_eq (s : Session ε ω) (id : Nat) :
    s.finds id = (s.readers.find? id).map (delivery s.memory s.gone) := by
  unfold finds Readers.wait
  cases s.readers.find? id with
  | none => rfl
  | some r =>
    dsimp only [Option.map_some]
    split
    · rename_i waiting
      rw [waiting]
    · rfl

variable [Entropy ε] [Watcher ω] {s t : Session ε ω}

private theorem run_cons (s : Session ε ω) (a : Act ε) (acts : List (Act ε)) :
    s.run (a :: acts) = (s.act a).run acts := rfl

private theorem run_append (s : Session ε ω) (before after : List (Act ε)) :
    s.run (before ++ after) = (s.run before).run after := List.foldl_append

private theorem act_operate (alive : s.gone = false) (op : Operation ε) :
    s.act (.operate op) =
      { s with memory := s.memory.apply op, readers := s.memory.readersAfter s.readers op } := by
  simp [act, alive]

private theorem sound_act (sound : s.memory.Sound) (a : Act ε) : (s.act a).memory.Sound := by
  cases a with
  | operate op =>
    unfold act
    dsimp only
    split
    · exact sound
    · exact sound.apply op
  | release id => exact sound
  | drop => exact sound

private theorem sound_run (sound : s.memory.Sound) (acts : List (Act ε)) :
    (s.run acts).memory.Sound := by
  induction acts generalizing s with
  | nil => exact sound
  | cons a acts ih => exact ih (sound_act sound a)

private theorem settled_run {x : Settlement} (member : x ∈ s.memory.settled)
    (acts : List (Act ε)) : x ∈ (s.run acts).memory.settled := by
  induction acts generalizing s with
  | nil => exact member
  | cons a acts ih =>
    apply ih
    cases a with
    | operate op =>
      unfold act
      dsimp only
      split
      · exact member
      · exact settled_apply member op
    | release id => exact member
    | drop => exact member

private theorem run_gone (gone : s.gone = true) (acts : List (Act ε)) :
    (s.run acts).memory = s.memory ∧ (s.run acts).gone = true := by
  induction acts generalizing s with
  | nil => exact ⟨rfl, gone⟩
  | cons a acts ih =>
    have kept : (s.act a).memory = s.memory ∧ (s.act a).gone = true := by
      cases a with
      | operate op => simp [act, gone]
      | release id => exact ⟨rfl, gone⟩
      | drop => exact ⟨rfl, rfl⟩
    rw [run_cons, ← kept.1]
    exact ih kept.2

private theorem fate_cons {a : Act ε} (undecided : ¬ a.Decides) (key : String)
    (fallback : Option Int64) (s : Session ε ω) (rest : List (Act ε)) :
    fate key fallback s (a :: rest) = fate key fallback (s.act a) rest := by
  cases a with
  | operate op =>
    cases op with
    | resume => exact absurd (Or.inl rfl) undecided
    | _ => rfl
  | release id => rfl
  | drop => exact absurd (Or.inr rfl) undecided

private theorem waiting_act {r : ParkedRead} (alive : s.gone = false)
    (waiting : r ∈ s.memory.parked) {a : Act ε} (undecided : ¬ a.Decides) :
    r ∈ (s.act a).memory.parked ∧ (s.act a).gone = false := by
  cases a with
  | operate op =>
    rw [act_operate alive]
    refine ⟨parked_apply waiting ?_, alive⟩
    rintro rfl
    exact undecided (Or.inl rfl)
  | release id => exact ⟨waiting, alive⟩
  | drop => exact absurd (Or.inr rfl) undecided

private theorem waiting_run {r : ParkedRead} (alive : s.gone = false)
    (waiting : r ∈ s.memory.parked)
    {acts : List (Act ε)} (undecided : ∀ a ∈ acts, ¬ a.Decides) :
    r ∈ (s.run acts).memory.parked := by
  induction acts generalizing s with
  | nil => exact waiting
  | cons a acts ih =>
    have next := waiting_act alive waiting (undecided a List.mem_cons_self)
    exact ih next.2 next.1 fun b hb => undecided b (List.mem_cons_of_mem a hb)

private theorem delivery_run {r : ParkedRead} (sound : s.memory.Sound) (alive : s.gone = false)
    (waiting : r ∈ s.memory.parked) (acts : List (Act ε)) :
    delivery (s.run acts).memory (s.run acts).gone ⟨r.ticket, r.key⟩ =
      s.fate r.key r.fallback acts := by
  induction acts generalizing s with
  | nil =>
    have unsettled := sound.settlement?_of_parked waiting
    simp [run, delivery, fate, unsettled, alive]
  | cons a acts ih =>
    rw [run_cons]
    by_cases decides : a.Decides
    -- The first act that decides settles the read or ends the memory; what follows can
    -- change neither the settlement nor the end.
    · rcases decides with rfl | rfl
      · have member : s.memory.settle r ∈ (s.act (.operate .resume)).memory.settled := by
          rw [act_operate alive]
          exact sound.settle_mem_resume waiting
        have kept := settled_run member acts
        have found := (sound_run (sound_act sound (.operate .resume)) acts).settlement?_of_mem kept
        simp only [settle] at found
        simp only [delivery, found, fate]
      · have kept := run_gone (s := s.act .drop) rfl acts
        have unsettled := sound.settlement?_of_parked waiting
        rw [kept.1, kept.2]
        simp only [act, delivery, unsettled, fate, if_true]
    · have next := waiting_act alive waiting decides
      rw [fate_cons decides]
      exact ih (sound_act sound a) next.2 next.1

private theorem held_act {id : Nat} {r : Reader} (held : s.readers.find? id = some r)
    {a : Act ε} (kept : a ≠ .release id) : (s.act a).readers.find? id = some r := by
  have holds (x : Reader) : (s.readers.hold x).find? id = some r := by
    rw [Readers.find?_hold, if_neg, held]
    rintro rfl
    simp [Readers.find?, Readers.next] at held
  cases a with
  | operate op =>
    unfold act
    dsimp only
    split
    · exact held
    · cases op with
      | get key fallback =>
        dsimp only [readersAfter]
        split
        · exact holds _
        · exact held
      | _ => exact held
  | release other =>
    have different : other ≠ id := by
      rintro rfl
      exact kept rfl
    exact (Readers.find?_release s.readers different).trans held
  | drop => exact held

private theorem held_run {id : Nat} {r : Reader} (held : s.readers.find? id = some r)
    {acts : List (Act ε)} (kept : .release id ∉ acts) :
    (s.run acts).readers.find? id = some r := by
  induction acts generalizing s with
  | nil => exact held
  | cons a acts ih =>
    rw [List.mem_cons, not_or] at kept
    exact ih (held_act held (Ne.symm kept.1)) kept.2

/-- Two sessions differ at most in readers other than one. -/
private structure AgreeAt (id : Nat) (s t : Session ε ω) : Prop where
  memory : s.memory = t.memory
  gone : s.gone = t.gone
  next : s.readers.next = t.readers.next
  held : s.readers.find? id = t.readers.find? id

private theorem AgreeAt.operate {id : Nat} (agree : AgreeAt id s t) (op : Operation ε) :
    AgreeAt id (s.act (.operate op)) (t.act (.operate op)) := by
  obtain ⟨sm, sr, sg⟩ := s
  obtain ⟨tm, tr, tg⟩ := t
  obtain ⟨rfl, rfl, next, held⟩ := agree
  dsimp only at next held
  unfold Session.act
  dsimp only
  split
  · exact ⟨rfl, rfl, next, held⟩
  · cases op with
    | get key fallback =>
      dsimp only [readersAfter]
      split
      · exact ⟨rfl, rfl, by simp [next], by simp only [Readers.find?_hold, next, held]⟩
      · exact ⟨rfl, rfl, next, held⟩
    | _ => exact ⟨rfl, rfl, next, held⟩

private theorem AgreeAt.release {id other : Nat} (agree : AgreeAt id s t) (h : other ≠ id) :
    AgreeAt id (s.act (.release other)) t where
  memory := agree.memory
  gone := agree.gone
  next := (Readers.next_release s.readers other).trans agree.next
  held := (Readers.find?_release s.readers h).trans agree.held

private theorem agree_run {id : Nat} (agree : AgreeAt id s t) {acts : List (Act ε)}
    (kept : .release id ∉ acts) :
    AgreeAt id (s.run acts) (t.run (acts.filter fun a => !a.isRelease)) := by
  induction acts generalizing s t with
  | nil => exact agree
  | cons a acts ih =>
    rw [List.mem_cons, not_or] at kept
    cases a with
    | release other =>
      have different : other ≠ id := by
        rintro rfl
        exact kept.1 rfl
      exact ih (agree.release different) kept.2
    | operate op => exact ih (agree.operate op) kept.2
    | drop => exact ih ⟨agree.memory, rfl, agree.next, agree.held⟩ kept.2

private theorem finds_run_without_releases (s : Session ε ω) {id : Nat} {acts : List (Act ε)}
    (kept : .release id ∉ acts) :
    (s.run acts).finds id = (s.run (acts.filter fun a => !a.isRelease)).finds id := by
  have agree := agree_run (s := s) (t := s) ⟨rfl, rfl, rfl, rfl⟩ kept
  rw [finds_eq, finds_eq, agree.held, agree.memory, agree.gone]

private theorem watcher_run (s : Session ε ω) (acts : List (Act ε)) :
    (s.run acts).memory.watcher = (s.notices acts).foldl Notice.tell s.memory.watcher := by
  induction acts generalizing s with
  | nil => rfl
  | cons a acts ih =>
    rw [run_cons, ih]
    cases a with
    | operate op =>
      rw [notices, List.foldl_append]
      congr 1
      unfold act
      dsimp only
      split
      · rfl
      · exact watcher_apply s.memory op
    | release id => rfl
    | drop => rfl

private theorem act_get_of_parked {key k : String} {fallback : Option Int64} {ticket : Nat}
    (alive : s.gone = false) (parked : (s.memory.get key fallback).1 = .parked ticket k) :
    k = (s.memory.resolve key).1 ∧ ticket = s.memory.issued ∧
      ⟨ticket, k, fallback⟩ ∈ (s.act (.operate (.get key fallback))).memory.parked ∧
      (s.act (.operate (.get key fallback))).gone = false ∧
      (s.act (.operate (.get key fallback))).readers.find? s.readers.next = some ⟨ticket, k⟩ := by
  rw [act_operate alive]
  obtain ⟨e, _, ⟨_, answered⟩ | queued⟩ := s.memory.get_cases key fallback
  · rw [answered] at parked
    cases parked
  · have same := parked
    rw [queued] at same
    cases same
    refine ⟨rfl, rfl, ?_, alive, ?_⟩
    · simp only [Memory.apply, queued]
      exact List.mem_append_right _ List.mem_cons_self
    · simp only [readersAfter, queued, Readers.find?_hold, if_true]

/-- The protocol of suspended reads, for every watcher, every source of chance and every
order of acts: reads wait only while the memory is halted; a read that was parked waits
until the first resume or the end of the memory after it, and what is then decided for
the key as it was resolved when it was read stands for good, for whoever still holds its
ticket; tickets are settled in the order of issue, none is lost and none settled again;
readers that let go change nothing for the others; and the watcher is told of each read
and each write once, by resolved key. -/
theorem parked_reads_settle_once_in_order (entropy : ε) (watcher : ω) (acts : List (Act ε)) :
    let first := Session.start entropy watcher
    let final := first.run acts
    (final.memory.parked ≠ [] → final.memory.halted = true) ∧
    (∀ (before after : List (Act ε)) (key k : String) (fallback : Option Int64) (ticket : Nat),
      acts = before ++ .operate (.get key fallback) :: after →
      (first.run before).gone = false →
      ((first.run before).memory.get key fallback).1 = .parked ticket k →
      let asked := first.run before
      let parked := asked.act (.operate (.get key fallback))
      k = (asked.memory.resolve key).1 ∧ ticket = asked.memory.issued ∧
      ((∀ a ∈ after, ¬ a.Decides) → ⟨ticket, k, fallback⟩ ∈ final.memory.parked) ∧
      delivery final.memory final.gone ⟨ticket, k⟩ = parked.fate k fallback after ∧
      (.release asked.readers.next ∉ after →
        final.finds asked.readers.next = some (parked.fate k fallback after))) ∧
    final.memory.settled.reverse.map Settlement.ticket ++
      final.memory.parked.map ParkedRead.ticket = List.range final.memory.issued ∧
    (∀ id, .release id ∉ acts →
      final.finds id = (first.run (acts.filter fun a => !a.isRelease)).finds id) ∧
    final.memory.watcher = (first.notices acts).foldl Notice.tell watcher := by
  intro first final
  have sound : final.memory.Sound := sound_run (sound_fresh entropy watcher) acts
  refine ⟨sound.quiet, ?_, sound.order, fun id kept => finds_run_without_releases first kept,
    watcher_run first acts⟩
  intro before after key k fallback ticket split alive answer asked parked
  obtain ⟨resolved, issued, waiting, alive', held⟩ := act_get_of_parked alive answer
  have finally_eq : final = parked.run after := by
    change first.run acts = _
    rw [split, run_append]
    rfl
  have sound' : parked.memory.Sound :=
    sound_act (sound_run (sound_fresh entropy watcher) before) _
  have delivered := delivery_run sound' alive' waiting after
  rw [finally_eq]
  refine ⟨resolved, issued, fun undecided => waiting_run alive' waiting undecided, delivered, ?_⟩
  intro kept
  rw [finds_eq, held_run held kept]
  exact congrArg some delivered

/-- The second of two readers lets go, and the first gets what was written before the
first of two resumes. -/
theorem first_of_two_parked_reads_settles :
    ((Session.start (⟨[]⟩ : Entropy.Script) (⟨["SYS_T"], #[]⟩ : Recorder)).run
      [.operate (.get "SYS_T" none), .operate (.get "other" (some 3)), .release 1,
        .operate (.set "SYS_T" 7), .operate .resume, .operate (.set "SYS_T" 8),
        .operate .resume, .drop]).finds 0 = some (.delivered (some 7)) := by
  have protocol := (parked_reads_settle_once_in_order (⟨[]⟩ : Entropy.Script)
    (⟨["SYS_T"], #[]⟩ : Recorder)
    [.operate (.get "SYS_T" none), .operate (.get "other" (some 3)), .release 1,
      .operate (.set "SYS_T" 7), .operate .resume, .operate (.set "SYS_T" 8),
      .operate .resume, .drop]).2.1
  have settled := (protocol [] _ "SYS_T" "SYS_T" none 0 rfl rfl (by decide)).2.2.2.2
  exact (settled (by simp [start, run, Readers.next, Readers.empty])).trans (by decide)

end Session

end DigitTrail.Memory
