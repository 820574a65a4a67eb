import DigitTrail.Proofs.Command.Batch

/-!
The requests of a batch. Files begin and end while lines are read, one at a time and only when a
character of them is needed. All the same, the machines that ask, counted over all the files in the
order in which they get to it, are answered with the characters of one stream, each with the one
that its place in this order gives it.
-/

set_option autoImplicit false
set_option relaxedAutoImplicit false

namespace DigitTrail.Command

open Program (Ending Fault Machine)

variable {ε σ : Type} [Entropy ε]

/-- A file that was run: the machine that runs it alone, and how many of its steps were taken. -/
structure Sitting (ε : Type) where
  path : String
  machine : Machine ε
  steps : Nat

namespace Sitting

def requests (t : Sitting ε) : List (Machine ε) := t.machine.requests t.steps

def fragments (t : Sitting ε) : List String :=
  (t.machine.trail t.steps).map fun m => m.prints.getD ""

end Sitting

/-- The sittings of some files. Each is held by a machine of its own, which has for its replies the
characters that are left, and takes over the source of chance. Only a run that comes to an end
without a fault is followed by another. -/
inductive Sits (fuel : Nat) (s : Settings) (r : Reference)
    (read : String → Except ReadFault String) :
    List String → ε → List Char → List (Sitting ε) → Prop
  | nil (entropy : ε) (left : List Char) : Sits fuel s r read [] entropy left []
  | unread {path : String} {cause : ReadFault} (files : List String) (entropy : ε)
      (left : List Char) (unread : read path = .error cause) :
      Sits fuel s r read (path :: files) entropy left []
  | stop {path source : String} {entropy : ε} {left : List Char} {n : Nat} {finish : Option Finish}
      (files : List String) (found : read path = .ok source)
      (reaches : Reaches s fuel (alone s r source entropy (.listening (replies left))) n finish)
      (short : ∀ ending, finish ≠ some (.ended (.ok ending))) :
      Sits fuel s r read (path :: files) entropy left
        [⟨path, alone s r source entropy (.listening (replies left)), n⟩]
  | next {path source : String} {files : List String} {entropy : ε} {left : List Char} {n : Nat}
      {ending : Ending} {later : List (Sitting ε)} (found : read path = .ok source)
      (reaches : Reaches s fuel (alone s r source entropy (.listening (replies left))) n
        (some (.ended (.ok ending))))
      (rest : Sits fuel s r read files
        ((alone s r source entropy (.listening (replies left))).stepped n).memory.entropy
        (left.drop ((alone s r source entropy (.listening (replies left))).questions n)) later) :
      Sits fuel s r read (path :: files) entropy left
        (⟨path, alone s r source entropy (.listening (replies left)), n⟩ :: later)

/-- A machine that asks is answered with a character, or refused if there is none. -/
def Hears (m : Machine ε) (answer : Option Char) : Prop :=
  ∃ q left, m.begin = .asking q left ∧
    m.step = { left with input := left.input.next.2 }.answer q (answer.map String.singleton)

private theorem Hears.refused {m : Machine ε} (hears : Hears m none) :
    m.step.1 = .error .inputUnavailable := by
  obtain ⟨q, left, _, step⟩ := hears
  rw [step]
  rfl

/-! ### Sittings -/

section Reach

variable {fuel n : Nat} {s : Settings} {m : Machine ε} {cs : List Char} {finish : Option Finish}
  (fresh : m.contact = ⟨.fresh true, .listening (replies cs), 0⟩)
  (reaches : Reaches s fuel m n finish)

include fresh reaches

private theorem hears_of_request {k : Nat} {asking : Machine ε}
    (found : (m.requests n)[k]? = some asking) : Hears asking cs[k]? := by
  obtain ⟨j, lt, rfl, asks, rfl⟩ := Machine.exists_of_getElem?_requests found
  have running : ∀ i < j, (m.stepped i).step.1 = .ok .running := fun i early =>
    reaches.running i (by omega)
  obtain ⟨q, left, begun, step⟩ :=
    Machine.step_of_asks fresh (Machine.questions_le_of_running fresh running) asks
  rw [join_getElem?_replies] at step
  exact ⟨q, left, begun, step⟩

private theorem questions_le_of_reaches :
    m.questions n ≤ cs.length + 1 ∧
      (cs.length < m.questions n → finish = some (.ended (.error .inputUnavailable))) := by
  have size : (replies cs).length = cs.length := List.length_map _
  cases reaches with
  | unfinished running =>
    have few := Machine.questions_le_of_running fresh running
    refine ⟨by omega, fun past => ?_⟩
    omega
  | ended within running ends =>
    obtain ⟨few, refused⟩ := Machine.questions_succ_le_of_running fresh running
    rw [size] at few refused
    refine ⟨few, fun past => ?_⟩
    rw [refused past] at ends
    cases ends
    rfl
  | overflowed within running goes viewed outside =>
    obtain ⟨few, refused⟩ := Machine.questions_succ_le_of_running fresh running
    rw [size] at few refused
    refine ⟨few, fun past => ?_⟩
    rw [refused past] at goes
    cases goes

end Reach

private theorem Sits.hears {fuel : Nat} {s : Settings} {r : Reference}
    {read : String → Except ReadFault String} {files : List String} {entropy : ε}
    {left : List Char} {sittings : List (Sitting ε)}
    (sits : Sits fuel s r read files entropy left sittings) {k : Nat} {m : Machine ε}
    (found : (sittings.flatMap Sitting.requests)[k]? = some m) : Hears m left[k]? := by
  induction sits generalizing k with
  | nil => cases found
  | unread => cases found
  | stop files readable reaches short =>
    rw [List.flatMap_singleton] at found
    exact hears_of_request (contact_alone ..) reaches found
  | @next path source files entropy left n ending later readable reaches rest ih =>
    rw [List.flatMap_cons] at found
    unfold Sitting.requests at found
    by_cases early : k < ((alone s r source entropy (.listening (replies left))).requests n).length
    · rw [List.getElem?_append_left early] at found
      exact hears_of_request (contact_alone ..) reaches found
    · have late := Nat.le_of_not_lt early
      rw [List.getElem?_append_right late] at found
      have heard := ih found
      rw [List.getElem?_drop, ← Machine.length_requests, Nat.add_sub_cancel' late] at heard
      exact heard

/-! ### Sittings of a batch -/

/-- What a batch has done: the sittings of its files, with a question to the supplier for each
request, and what they printed. A request past the last character has stopped it, and is reported
last. -/
structure Serves (fuel : Nat) (s : Settings) (r : Reference)
    (read : String → Except ReadFault String) (files : List String) (entropy : ε)
    (left : List Char) [Supplier σ] (desk : Desk σ) (after : Batch ε × Desk σ)
    (sittings : List (Sitting ε)) : Prop where
  sits : Sits fuel s r read files entropy left sittings
  out : after.2.out.toList = desk.out.toList ++ sittings.flatMap Sitting.fragments
  supply : after.2.supply =
    Supplier.after desk.supply (sittings.flatMap Sitting.requests).length
  once : (sittings.flatMap Sitting.requests).length ≤ left.length + 1
  refused : left.length < (sittings.flatMap Sitting.requests).length →
    after.1.stopped = true ∧ after.1.status = 1 ∧ ∃ path ∈ files, ∃ before,
      String.join after.2.err.toList =
        before ++ "\n" ++ (FileFault.faulted path .inputUnavailable).message ++ "\n"

section Serve

variable [Supplier σ] {rest : σ → List Char} {fuel : Nat} {s : Settings} {r : Reference}
  {read : String → Except ReadFault String} {files : List String} {entropy : ε}
  {desk desk' : Desk σ} {after : Batch ε × Desk σ} {path source : String} {n : Nat} {m : Machine ε}

private theorem Serves.of_stop {finish : Option Finish} (found : read path = .ok source)
    (same : Matches rest s fuel
      (alone s r source entropy (.listening (replies (rest desk.supply)))) desk
      ((finish, m), desk') n)
    (short : ∀ ending, finish ≠ some (.ended (.ok ending)))
    (out : after.2.out = desk'.out) (supply : after.2.supply = desk'.supply)
    (refused : finish = some (.ended (.error .inputUnavailable)) →
      after.1.stopped = true ∧ after.1.status = 1 ∧ ∃ before, String.join after.2.err.toList =
        before ++ "\n" ++ (FileFault.faulted path .inputUnavailable).message ++ "\n") :
    Serves fuel s r read (path :: files) entropy (rest desk.supply) desk after
      [⟨path, alone s r source entropy (.listening (replies (rest desk.supply))), n⟩] := by
  obtain ⟨few, last⟩ := questions_le_of_reaches (contact_alone ..) same.reaches
  have count := Machine.length_requests
    (alone s r source entropy (.listening (replies (rest desk.supply)))) n
  refine ⟨.stop files found same.reaches short, ?_, ?_, ?_, ?_⟩
  · rw [out, same.out, List.flatMap_singleton]
    rfl
  · rw [supply, same.supply, List.flatMap_singleton, Sitting.requests, count]
  · rw [List.flatMap_singleton, Sitting.requests, count]
    exact few
  · rw [List.flatMap_singleton, Sitting.requests, count]
    intro past
    obtain ⟨stopped, status, reported⟩ := refused (last past)
    exact ⟨stopped, status, path, List.mem_cons_self, reported⟩

private theorem Serves.of_next (streams : Streams rest) {ending : Ending} {told : Array String}
    {later : List (Sitting ε)} (found : read path = .ok source)
    (same : Matches rest s fuel
      (alone s r source entropy (.listening (replies (rest desk.supply)))) desk
      ((some (.ended (.ok ending)), m), desk') n)
    (serves : Serves fuel s r read files m.memory.entropy (rest desk'.supply)
      { desk' with err := told } after later) :
    Serves fuel s r read (path :: files) entropy (rest desk.supply) desk after
      (⟨path, alone s r source entropy (.listening (replies (rest desk.supply))), n⟩ :: later) := by
  obtain ⟨sits, out, supply, once, refused⟩ := serves
  obtain ⟨_, last⟩ := questions_le_of_reaches (contact_alone ..) same.reaches
  have few : (alone s r source entropy (.listening (replies (rest desk.supply)))).questions n ≤
      (rest desk.supply).length := by
    by_contra more
    cases last (Nat.lt_of_not_le more)
  have count := Machine.length_requests
    (alone s r source entropy (.listening (replies (rest desk.supply)))) n
  have left : rest desk'.supply = (rest desk.supply).drop
      ((alone s r source entropy (.listening (replies (rest desk.supply)))).questions n) := by
    rw [← streams.rest_after]
    exact congrArg rest same.supply
  rw [left, List.length_drop] at once refused
  refine ⟨.next found same.reaches ?_, ?_, ?_, ?_, ?_⟩
  · rw [← same.entropy, ← left]
    exact sits
  · rw [out, same.out, List.flatMap_cons, List.append_assoc]
    rfl
  · rw [supply, List.flatMap_cons, List.length_append, Sitting.requests, count,
      Supplier.after_add, ← same.supply]
  · rw [List.flatMap_cons, List.length_append, Sitting.requests, count]
    omega
  · rw [List.flatMap_cons, List.length_append, Sitting.requests, count]
    intro past
    obtain ⟨stopped, status, late, listed, reported⟩ := refused (by omega)
    exact ⟨stopped, status, late, List.mem_cons_of_mem path listed, reported⟩

private theorem serves_runFiles (streams : Streams rest) (fuel : Nat) (s : Settings) (r : Reference)
    (read : String → Except ReadFault String) (files : List String) {b : Batch ε}
    (going : b.stopped = false) (desk : Desk σ) :
    ∃ sittings, Serves fuel s r read files b.entropy (rest desk.supply) desk
      ((Batch.runFiles fuel s r (fun path => pure (read path)) files b :
        StateM (Desk σ) _).run desk) sittings := by
  induction files generalizing b desk with
  | nil =>
    refine ⟨[], .nil _ _, (List.append_nil _).symm, rfl, Nat.zero_le _, ?_⟩
    intro past
    exact absurd past (Nat.not_lt_zero _)
  | cons path files ih =>
    cases found : read path with
    | error cause =>
      rw [Batch.run_runFiles_cons fuel s r path files
        (Batch.run_runFile_of_error fuel s r found b desk)]
      refine ⟨[], .unread files _ _ found, (List.append_nil _).symm, rfl, Nat.zero_le _, ?_⟩
      intro past
      exact absurd past (Nat.not_lt_zero _)
    | ok source =>
      obtain ⟨n, same⟩ := driveSource_matches streams fuel s r source b.entropy desk
      have one := Batch.run_runFile_of_ok fuel s r found b desk
      generalize (driveSource fuel s r source b.entropy : StateM (Desk σ) _).run desk = driven
        at same one
      obtain ⟨⟨finish, m⟩, left⟩ := driven
      dsimp only at one
      rcases finish with _ | ⟨f | _ | stop⟩ | cause
      · rw [Batch.run_runFiles_cons fuel s r path files one]
        exact ⟨_, .of_stop found same (by simp) rfl rfl (by simp)⟩
      · rw [Batch.run_runFiles_cons fuel s r path files one]
        refine ⟨_, .of_stop found same (by simp) rfl rfl ?_⟩
        intro unanswered
        cases unanswered
        exact ⟨rfl, rfl, String.join left.err.toList, by simp [Batch.stop, String.append_assoc]⟩
      · rw [Batch.run_runFiles_cons fuel s r path files one, if_neg (Bool.eq_false_iff.mp going)]
        obtain ⟨later, serves⟩ := ih (b := { b with entropy := m.memory.entropy }) going left
        exact ⟨_, .of_next streams found same serves⟩
      · rw [Batch.run_runFiles_cons fuel s r path files one, if_neg (Bool.eq_false_iff.mp going)]
        obtain ⟨later, serves⟩ := ih
          (b := { b with entropy := m.memory.entropy, status := 1 }) going
          { left with err := left.err.push ("\n" ++ stop.message ++ "\n") }
        exact ⟨_, .of_next streams found same serves⟩
      · rw [Batch.run_runFiles_cons fuel s r path files one]
        exact ⟨_, .of_stop found same (by simp) rfl rfl (by simp)⟩

end Serve

/-! ### Recorded answers -/

def Desk.unrecorded (desk : Desk (Recorded σ)) : Desk σ :=
  ⟨desk.supply.supplier, desk.out, desk.err⟩

section Unrecorded

variable [Supplier σ]

private theorem stepFrom_supplier (supply : Recorded σ) (m : Machine ε) :
    stepFrom supply.supplier m = ((stepFrom supply m).1, (stepFrom supply m).2.supplier) := by
  cases begun : m.begin with
  | done result m' => rw [stepFrom_of_done begun, stepFrom_of_done begun]
  | asking q m' =>
    rw [stepFrom_of_asking begun, stepFrom_of_asking begun]
    rfl

private theorem run_drive_unrecorded (s : Settings) (page : Page) (fuel : Nat) (m : Machine ε)
    (desk : Desk (Recorded σ)) :
    let recorded := (drive s page fuel m : StateM (Desk (Recorded σ)) _).run desk
    (drive s page fuel m : StateM (Desk σ) _).run desk.unrecorded =
      (recorded.1, recorded.2.unrecorded) := by
  induction fuel generalizing m desk with
  | zero => rfl
  | succ fuel ih =>
    dsimp only at ih ⊢
    rw [run_drive_succ, run_drive_succ]
    rw [show desk.unrecorded.supply = desk.supply.supplier from rfl, stepFrom_supplier]
    dsimp only
    cases (Round.ofStep (shown s page) (stepFrom desk.supply m).1.1
      (stepFrom desk.supply m).1.2).finish with
    | some f => rfl
    | none =>
      dsimp only
      rw [← ih]
      rfl

private theorem run_runFile_unrecorded (fuel : Nat) (s : Settings) (r : Reference)
    (read : String → Except ReadFault String) (path : String) (b : Batch ε)
    (desk : Desk (Recorded σ)) :
    let recorded := (b.runFile fuel s r (fun path => pure (read path)) path :
      StateM (Desk (Recorded σ)) _).run desk
    (b.runFile fuel s r (fun path => pure (read path)) path :
      StateM (Desk σ) _).run desk.unrecorded = (recorded.1, recorded.2.unrecorded) := by
  have concluded (b : Batch ε) (ticks : Nat) (finish : Option Finish)
      (desk : Desk (Recorded σ)) :
      let recorded := (b.conclude path ticks finish : StateM (Desk (Recorded σ)) _).run desk
      (b.conclude path ticks finish : StateM (Desk σ) _).run desk.unrecorded =
        (recorded.1, recorded.2.unrecorded) := by
    rcases finish with _ | ⟨f | _ | stop⟩ | cause <;> rfl
  dsimp only
  cases found : read path with
  | error cause =>
    rw [Batch.run_runFile_of_error fuel s r found, Batch.run_runFile_of_error fuel s r found]
    rfl
  | ok source =>
    have driven := run_drive_unrecorded s (Page.ofText source) fuel
      (machineFor s r source b.entropy (.listening [])) desk
    rw [Batch.run_runFile_of_ok fuel s r found, Batch.run_runFile_of_ok fuel s r found]
    unfold driveSource
    rw [driven]
    exact concluded _ _ _ _

private theorem run_runFiles_unrecorded (fuel : Nat) (s : Settings) (r : Reference)
    (read : String → Except ReadFault String) (files : List String) (b : Batch ε)
    (desk : Desk (Recorded σ)) :
    let recorded := (Batch.runFiles fuel s r (fun path => pure (read path)) files b :
      StateM (Desk (Recorded σ)) _).run desk
    (Batch.runFiles fuel s r (fun path => pure (read path)) files b :
      StateM (Desk σ) _).run desk.unrecorded = (recorded.1, recorded.2.unrecorded) := by
  induction files generalizing b desk with
  | nil => rfl
  | cons path files ih =>
    have plain := run_runFile_unrecorded fuel s r read path b desk
    cases one : (b.runFile fuel s r (fun path => pure (read path)) path :
        StateM (Desk (Recorded σ)) _).run desk with
    | mk b' desk' =>
      dsimp only at ih plain ⊢
      rw [one] at plain
      rw [Batch.run_runFiles_cons fuel s r path files plain,
        Batch.run_runFiles_cons fuel s r path files one]
      split
      · rfl
      · exact ih b' desk'

end Unrecorded

/-- The input of a batch is one stream. For every input and every batch of files, however many
steps its runs are allowed, let the machines that ask for a character be counted over all the files,
in the order in which they do. Each machine has for its replies what the machines before have left
of the stream, and each is answered with the character of the stream that has its number. There are
as many answers as requests, and what is left over is the rest of the stream. A request past the end
of the stream is refused, fails the file that makes it for want of input, and so ends the batch. -/
theorem batch_is_answered_from_one_stream (fuel : Nat) (s : Settings) (r : Reference)
    (files : List String) (read : String → Except ReadFault String) (entropy : ε)
    (bytes : ByteArray) :
    let batch := runFiles fuel s r files read entropy (Supply.ofBytes bytes)
    let watched := runFiles fuel s r files read entropy (⟨.ofBytes bytes, []⟩ : Recorded Supply)
    let answers := watched.2.supply.answers
    ∃ sittings : List (Sitting ε),
      let requests := sittings.flatMap Sitting.requests
      Sits fuel s r read files entropy (stream bytes) sittings ∧
      batch.2.out.toList = sittings.flatMap Sitting.fragments ∧
      (∀ (k : Nat) (m : Machine ε), requests[k]? = some m → Hears m (stream bytes)[k]? ∧
        ((stream bytes).length ≤ k → m.step.1 = .error .inputUnavailable)) ∧
      (watched.1, watched.2.unrecorded) = batch ∧
      answers.length = requests.length ∧
      answers = (List.range answers.length).map (fun k => (stream bytes)[k]?) ∧
      answers.length ≤ (stream bytes).length + 1 ∧
      batch.2.supply.rest = (stream bytes).drop answers.length ∧
      ((stream bytes).length < answers.length →
        batch.1.stopped = true ∧ batch.1.status = 1 ∧ ∃ path ∈ files, ∃ before,
          String.join batch.2.err.toList =
            before ++ "\n" ++ (FileFault.faulted path .inputUnavailable).message ++ "\n") := by
  intro batch watched answers
  have same : (watched.1, watched.2.unrecorded) = batch :=
    (run_runFiles_unrecorded fuel s r read files (.start entropy) (.fresh _)).symm
  obtain ⟨sittings, sits, out, supply, once, refused⟩ := serves_runFiles Supply.streams.recorded
    fuel s r read files (b := .start entropy) rfl
    (.fresh (⟨.ofBytes bytes, []⟩ : Recorded Supply))
  have given : answers =
      (List.range (sittings.flatMap Sitting.requests).length).map fun k => (stream bytes)[k]? :=
    (congrArg Recorded.answers supply).trans (Recorded.answers_after Supply.streams _ _)
  have count : answers.length = (sittings.flatMap Sitting.requests).length := by
    rw [given, List.length_map, List.length_range]
  have left : watched.2.supply.supplier.rest = (stream bytes).drop answers.length := by
    rw [count]
    have supplier := (congrArg Recorded.supplier supply).trans (Recorded.supplier_after _ _)
    exact (congrArg Supply.rest supplier).trans (Supply.streams.rest_after _ _)
  rw [← same]
  refine ⟨sittings, sits, out, ?_, rfl, count, ?_, ?_, left, ?_⟩
  · intro k m found
    have heard : Hears m (stream bytes)[k]? := sits.hears found
    refine ⟨heard, fun past => ?_⟩
    rw [List.getElem?_eq_none past] at heard
    exact heard.refused
  · rw [count]
    exact given
  · rw [count]
    exact once
  · rw [count]
    exact refused

attribute [local irreducible] runFiles

/-- Three files ask for a character each, and two can be had: the second is the space that an
empty line stands for. -/
theorem third_question_is_past_the_end :
    let s : Settings := ⟨none, none, false, none, none⟩
    let r : Reference := ⟨#[some 3, some 1, some 4]⟩
    let read : String → Except ReadFault String := fun _ => .ok "3 1 4\n  ^ E\n  SYS_AT"
    let bytes := "x\n\n".toUTF8
    let batch := runFiles 9 s r ["a", "b", "c"] read (⟨[]⟩ : Entropy.Script) (Supply.ofBytes bytes)
    let watched := runFiles 9 s r ["a", "b", "c"] read (⟨[]⟩ : Entropy.Script)
      (⟨.ofBytes bytes, []⟩ : Recorded Supply)
    stream bytes = ['x', ' '] ∧ watched.2.supply.answers = [some 'x', some ' ', none] ∧
      (∃ requests : List (Machine Entropy.Script), requests.length = 3 ∧
        (∀ m, requests[1]? = some m → Hears m (some ' ')) ∧
        ∀ m, requests[2]? = some m → m.step.1 = .error .inputUnavailable) ∧
      batch.2.supply.rest = [] ∧ ∃ path ∈ ["a", "b", "c"], ∃ before,
        String.join batch.2.err.toList =
          before ++ "\n" ++ (FileFault.faulted path .inputUnavailable).message ++ "\n" := by
  intro s r read bytes batch watched
  have characters : stream bytes = ['x', ' '] := by decide +kernel
  have given : watched.2.supply.answers = [some 'x', some ' ', none] := by decide +kernel
  obtain ⟨sittings, _, _, hears, _, count, _, _, rest, past⟩ :=
    batch_is_answered_from_one_stream 9 s r ["a", "b", "c"] read (⟨[]⟩ : Entropy.Script) bytes
  rw [characters] at hears
  refine ⟨characters, given, ⟨sittings.flatMap Sitting.requests, ?_, ?_, ?_⟩,
    rest.trans (by decide +kernel), (past (by decide +kernel)).2.2⟩
  · exact count.symm.trans (congrArg List.length given)
  · intro m found
    exact (hears 1 m found).1
  · intro m found
    exact (hears 2 m found).2 (by decide)

end DigitTrail.Command
