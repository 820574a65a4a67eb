import DigitTrail.Command.Batch
import DigitTrail.Proofs.Command.Driver

/-!
The outcome of a batch. Every file of a batch is tried by a run of its own, on a fresh machine
that takes over nothing but the source of chance and what the file before has left of the input.
What a batch puts out and reports is put together from these trials alone.
-/

set_option autoImplicit false
set_option relaxedAutoImplicit false

namespace DigitTrail.Command

open Program (Ending Fault Input Machine)

/-- A file that was tried: how it ended, if it has come to an end, and what it printed. -/
structure Trial where
  path : String
  ending : Option (Except FileFault Ending)
  out : String
  deriving DecidableEq

/-- The report of a trial; there is none of an exit. -/
def Trial.report (t : Trial) : String :=
  match t.ending with
  | some (.ok (.crashed stop)) => "\n" ++ stop.message ++ "\n"
  | some (.error fault) => "\n" ++ fault.message ++ "\n"
  | _ => ""

/-- The faults at which a batch stops at a file. -/
inductive Stops (path : String) : FileFault → Prop
  | unreadable (cause : ReadFault) : Stops path (.unreadable path cause)
  | malformed (expected : Program.Expected) (found : Sheet.Cell) (place : Plane.Place) :
    Stops path (.faulted path (.malformed expected found place))
  | inputUnavailable : Stops path (.faulted path .inputUnavailable)

variable {ε : Type} [Entropy ε]

/-- Try files one after the other, up to the first that fails, or that does not end within the
steps allowed. -/
def trials (fuel : Nat) (s : Settings) (r : Reference) (read : String → Except ReadFault String) :
    List String → ε → Input → List Trial
  | [], _, _ => []
  | path :: files, entropy, input =>
    match read path with
    | .error cause => [⟨path, some (.error (.unreadable path cause)), ""⟩]
    | .ok source =>
      let ran := (alone s r source entropy input).run fuel
      match ran.1 with
      | none => [⟨path, none, printedText ran.2⟩]
      | some (.error f) => [⟨path, some (.error (.faulted path f)), printedText ran.2⟩]
      | some (.ok ending) =>
        ⟨path, some (.ok ending), printedText ran.2⟩ ::
          trials fuel s r read files ran.2.memory.entropy ran.2.input

/-- Files were tried in order, each as often as it is listed. All but the last went on, and if not
all were tried, the last did not: it failed, or it has not ended. -/
structure Tried (files : List String) (ts : List Trial) : Prop where
  paths : ts.map Trial.path = files.take ts.length
  goesOn : ∀ t ∈ ts.dropLast, ∃ ending, t.ending = some (.ok ending)
  whole : ts.length = files.length ∨
    ∃ t, ts.getLast? = some t ∧ ∀ ending, t.ending ≠ some (.ok ending)
  stops : ∀ t ∈ ts, ∀ fault, t.ending = some (.error fault) → Stops t.path fault

namespace Tried

private theorem stop {t : Trial} (files : List String)
    (short : ∀ ending, t.ending ≠ some (.ok ending))
    (stops : ∀ fault, t.ending = some (.error fault) → Stops t.path fault) :
    Tried (t.path :: files) [t] where
  paths := rfl
  goesOn := fun _ member => absurd member List.not_mem_nil
  whole := .inr ⟨t, rfl, short⟩
  stops := by
    intro t' member fault failed
    obtain rfl := List.mem_singleton.mp member
    exact stops fault failed

private theorem next {t : Trial} {files : List String} {ts : List Trial} {ending : Ending}
    (goes : t.ending = some (.ok ending)) (rest : Tried files ts) :
    Tried (t.path :: files) (t :: ts) where
  paths := congrArg (t.path :: ·) rest.paths
  goesOn := by
    intro t' member
    cases ts with
    | nil => exact absurd member List.not_mem_nil
    | cons t₂ ts =>
      rcases List.mem_cons.mp member with rfl | later
      · exact ⟨ending, goes⟩
      · exact rest.goesOn t' later
  whole := by
    rcases rest.whole with all | ⟨last, isLast, short⟩
    · exact .inl (congrArg Nat.succ all)
    · refine .inr ⟨last, ?_, short⟩
      rw [List.getLast?_cons, isLast]
      rfl
  stops := by
    intro t' member fault failed
    rcases List.mem_cons.mp member with rfl | later
    · rw [goes] at failed
      cases failed
    · exact rest.stops t' later fault failed

end Tried

section Trials

variable {s : Settings} {r : Reference} {read : String → Except ReadFault String}

private theorem tried_trials (fuel : Nat) (files : List String) (entropy : ε) (input : Input) :
    Tried files (trials fuel s r read files entropy input) := by
  induction files generalizing entropy input with
  | nil => exact ⟨rfl, fun _ member => absurd member List.not_mem_nil, .inl rfl,
      fun _ member => absurd member List.not_mem_nil⟩
  | cons path files ih =>
    unfold trials
    cases read path with
    | error cause =>
      refine Tried.stop (t := ⟨path, some (.error (.unreadable path cause)), ""⟩) files (by simp) ?_
      intro fault failed
      cases failed
      exact .unreadable cause
    | ok source =>
      dsimp only
      cases ended : ((alone s r source entropy input).run fuel).1 with
      | none => exact Tried.stop (t := ⟨path, none, _⟩) files (by simp) (by simp)
      | some ending =>
        cases ending with
        | ok ending => exact Tried.next (t := ⟨path, some (.ok ending), _⟩) rfl (ih _ _)
        | error f =>
          refine Tried.stop (t := ⟨path, some (.error (.faulted path f)), _⟩) files (by simp) ?_
          intro fault failed
          cases failed
          obtain ⟨expected, found, place, rfl⟩ | rfl := Machine.run_fault ended
          · exact .malformed expected found place
          · exact .inputUnavailable

private theorem trials_of_le {fuel more : Nat} (enough : fuel ≤ more) {files : List String}
    {entropy : ε}
    {input : Input} (ended : ∀ t ∈ trials fuel s r read files entropy input, t.ending ≠ none) :
    trials more s r read files entropy input = trials fuel s r read files entropy input := by
  induction files generalizing entropy input with
  | nil => rfl
  | cons path files ih =>
    unfold trials at ended ⊢
    cases found : read path with
    | error cause => rfl
    | ok source =>
      rw [found] at ended
      dsimp only at ended ⊢
      cases ends : ((alone s r source entropy input).run fuel).1 with
      | none =>
        rw [ends] at ended
        exact absurd rfl (ended _ List.mem_cons_self)
      | some ending =>
        rw [Machine.run_of_le enough ends, ends]
        rw [ends] at ended
        cases ending with
        | error f => rfl
        | ok ending =>
          dsimp only at ended ⊢
          rw [ih fun t member => ended t (List.mem_cons_of_mem _ member)]

end Trials

/-! ### Files on a desk -/

namespace Batch

section Files

variable {σ : Type} [Supplier σ] (fuel : Nat) (s : Settings) (r : Reference)
  {read : String → Except ReadFault String}

theorem run_runFile_of_error {path : String} {cause : ReadFault} (unread : read path = .error cause)
    (b : Batch ε) (desk : Desk σ) :
    (b.runFile fuel s r (fun path => pure (read path)) path : StateM (Desk σ) _).run desk =
      (b.stop 1, { desk with
        err := desk.err.push ("\n" ++ (FileFault.unreadable path cause).message ++ "\n") }) := by
  rw [runFile, StateT.run_bind]
  change StateT.run (match read path with | .error _ => _ | .ok _ => _) desk = _
  rw [unread]
  rfl

theorem run_runFile_of_ok {path source : String} (found : read path = .ok source) (b : Batch ε)
    (desk : Desk σ) :
    (b.runFile fuel s r (fun path => pure (read path)) path : StateM (Desk σ) _).run desk =
      let driven : (Option Finish × Machine ε) × Desk σ :=
        (driveSource fuel s r source b.entropy : StateM (Desk σ) _).run desk
      ({ b with entropy := driven.1.2.memory.entropy }.conclude path driven.1.2.ticks
        driven.1.1 : StateM (Desk σ) _).run driven.2 := by
  rw [runFile, StateT.run_bind]
  change StateT.run (match read path with | .error _ => _ | .ok _ => _) desk = _
  rw [found]
  rfl

theorem run_runFiles_cons (path : String) (files : List String) {b b' : Batch ε}
    {desk desk' : Desk σ}
    (one : (b.runFile fuel s r (fun path => pure (read path)) path : StateM (Desk σ) _).run desk =
      (b', desk')) :
    (Batch.runFiles fuel s r (fun path => pure (read path)) (path :: files) b :
      StateM (Desk σ) _).run desk =
      if b'.stopped then (b', desk')
      else (Batch.runFiles fuel s r (fun path => pure (read path)) files b' :
        StateM (Desk σ) _).run desk' := by
  rw [runFiles, StateT.run_bind, one]
  change StateT.run (if b'.stopped = true then _ else _) desk' = _
  split <;> rfl

end Files

end Batch

/-! ### What the trials come to -/

/-- What one trial adds to a batch and its desk. -/
structure Adds (b : Batch ε) (desk : Desk Supply) (after : Batch ε × Desk Supply) (t : Trial) :
    Prop where
  out : String.join after.2.out.toList = String.join desk.out.toList ++ t.out
  err : String.join after.2.err.toList = String.join desk.err.toList ++ t.report
  status : after.1.status = 0 ↔ b.status = 0 ∧ t.ending = some (.ok .exited)

/-- What the trials of some files add to a batch and its desk: the status stays zero if all were
tried and exited. -/
structure Yields (b : Batch ε) (desk : Desk Supply) (after : Batch ε × Desk Supply)
    (files : List String) (ts : List Trial) : Prop where
  out : String.join after.2.out.toList =
    String.join desk.out.toList ++ String.join (ts.map Trial.out)
  err : String.join after.2.err.toList =
    String.join desk.err.toList ++ String.join (ts.map Trial.report)
  status : after.1.status = 0 ↔ b.status = 0 ∧ ts.length = files.length ∧
    ∀ t ∈ ts, t.ending = some (.ok .exited)

section Add

omit [Entropy ε]

variable {b b' : Batch ε} {desk desk' : Desk Supply} {after : Batch ε × Desk Supply} {t : Trial}
  {files : List String} {ts : List Trial}

private theorem Yields.nil (b : Batch ε) (desk : Desk Supply) : Yields b desk (b, desk) [] [] := by
  refine ⟨?_, ?_, ?_⟩
  · simp
  · simp
  · simp

private theorem Adds.stop (adds : Adds b desk after t) (path : String) (files : List String)
    (short : ∀ ending, t.ending ≠ some (.ok ending)) :
    Yields b desk after (path :: files) [t] := by
  refine ⟨?_, ?_, ?_⟩
  · simp [adds.out]
  · simp [adds.err]
  · simp [adds.status, short]

private theorem Adds.next (adds : Adds b desk (b', desk') t) (path : String)
    (rest : Yields b' desk' after files ts) : Yields b desk after (path :: files) (t :: ts) := by
  refine ⟨?_, ?_, ?_⟩
  · simp [rest.out, adds.out, String.append_assoc]
  · simp [rest.err, adds.err, String.append_assoc]
  · rw [rest.status, adds.status]
    simp only [List.length_cons, Nat.add_right_cancel_iff, List.forall_mem_cons]
    tauto

end Add

section Plain

variable {s : Settings} (unviewed : s.radius = none) (undumped : s.dump = false)

include unviewed undumped

private theorem join_err_drive (page : Page) (fuel : Nat) (m : Machine ε) (desk : Desk Supply) :
    String.join ((drive s page fuel m : StateM (Desk Supply) _).run desk).2.err.toList =
      String.join desk.err.toList := by
  have plain (m : Machine ε) : shown s page m = .ok "" := by
    unfold shown view
    rw [unviewed, undumped]
    rfl
  have silent (result : Except Fault Program.Step) (m : Machine ε) :
      (Round.ofStep (shown s page) result m).shown = "" := by
    unfold Round.ofStep
    cases result with
    | error f => rfl
    | ok went =>
      dsimp only
      rw [plain]
  induction fuel generalizing m desk with
  | zero => rfl
  | succ fuel ih =>
    rw [run_drive_succ]
    dsimp only
    rw [silent]
    split
    · simp
    · rw [ih]
      simp

private theorem run_driveSource (fuel : Nat) (r : Reference) (source : String) (entropy : ε)
    (desk : Desk Supply) :
    let ran := (alone s r source entropy (.listening (replies desk.supply.rest))).run fuel
    ∃ (m : Machine ε) (left : Desk Supply),
      (driveSource fuel s r source entropy : StateM (Desk Supply) _).run desk =
        ((ran.1.map .ended, m), left) ∧
      m.memory.entropy = ran.2.memory.entropy ∧
      String.join left.out.toList = String.join desk.out.toList ++ printedText ran.2 ∧
      String.join left.err.toList = String.join desk.err.toList ∧
      ∀ ending, ran.1 = some (.ok ending) →
        ran.2.input = .listening (replies left.supply.rest) := by
  intro ran
  obtain ⟨n, same⟩ := driveSource_matches Supply.streams fuel s r source entropy desk
  have fit : WindowsFit s.radius (alone s r source entropy
      (.listening (replies desk.supply.rest))) fuel := by
    rw [unviewed]
    rintro reach ⟨⟩
  obtain ⟨finish, last⟩ := same.reaches.run_eq fit
  have fresh := contact_alone s r source entropy (.listening (replies desk.supply.rest))
  refine ⟨_, _, Prod.ext (Prod.ext finish rfl) rfl, ?_, ?_, ?_, ?_⟩
  · exact same.entropy.trans (congrArg (·.memory.entropy) last.symm)
  · rw [same.out, String.join_append, join_prints fresh, ← last]
  · exact join_err_drive unviewed undumped _ _ _ _
  · intro ending ends
    rw [last]
    exact same.input ending (finish.trans (congrArg (Option.map Finish.ended) ends))

private theorem yields_trials (fuel : Nat) (r : Reference) (read : String → Except ReadFault String)
    (files : List String) {b : Batch ε} (going : b.stopped = false) (desk : Desk Supply) :
    Yields b desk
      ((Batch.runFiles fuel s r (fun path => pure (read path)) files b :
        StateM (Desk Supply) _).run desk)
      files (trials fuel s r read files b.entropy (.listening (replies desk.supply.rest))) := by
  induction files generalizing b desk with
  | nil => exact .nil b desk
  | cons path files ih =>
    rw [trials]
    cases found : read path with
    | error cause =>
      rw [Batch.run_runFiles_cons fuel s r path files
        (Batch.run_runFile_of_error fuel s r found b desk)]
      refine Adds.stop ⟨String.append_empty.symm, ?_, ?_⟩ path files (by simp)
      · simp [Batch.stop, Trial.report]
      · simp [Batch.stop]
    | ok source =>
      obtain ⟨m, left, driven, entropy, out, err, input⟩ :=
        run_driveSource unviewed undumped fuel r source b.entropy desk
      have one := Batch.run_runFile_of_ok fuel s r found b desk
      rw [driven] at one
      dsimp only at one ⊢
      rw [entropy] at one
      generalize (alone s r source b.entropy (.listening (replies desk.supply.rest))).run fuel =
        ran at out input one ⊢
      obtain ⟨ending, last⟩ := ran
      dsimp only at out input one ⊢
      rcases ending with _ | f | _ | stop
      · rw [Batch.run_runFiles_cons fuel s r path files one]
        exact Adds.stop ⟨out, err.trans String.append_empty.symm, by simp [Batch.stop]⟩ path files
          (by simp)
      · rw [Batch.run_runFiles_cons fuel s r path files one]
        refine Adds.stop ⟨out, ?_, by simp [Batch.stop]⟩ path files (by simp)
        simp [Batch.stop, Trial.report, err]
      · rw [Batch.run_runFiles_cons fuel s r path files one, if_neg (Bool.eq_false_iff.mp going)]
        dsimp only
        rw [input _ rfl]
        have rest := ih (b := { b with entropy := last.memory.entropy }) going left
        exact Adds.next ⟨out, err.trans String.append_empty.symm, by simp⟩ path rest
      · rw [Batch.run_runFiles_cons fuel s r path files one, if_neg (Bool.eq_false_iff.mp going)]
        dsimp only
        rw [input _ rfl]
        have rest := ih (b := { b with entropy := last.memory.entropy, status := 1 }) going
          { left with err := left.err.push ("\n" ++ stop.message ++ "\n") }
        refine Adds.next ⟨out, ?_, by simp⟩ path rest
        simp [Trial.report, err]

end Plain

/-- The outcome of a batch. For all settings without a view or a dump, every reference, all files
and what reading them gives, and every input: let the files be tried one after the other by runs of
fresh machines, which take over only the source of chance and what is left of the input, and let
every trial have come to its end. The files tried are the first ones listed, in order, up to the
first that fails (it cannot be read, a column of it is malformed, or it asks for more than the input
has), or all of them if none does; a crash is no failure. However many more steps are allowed, the
batch puts out what the trials have printed, one after the other, and reports every crash and then
the failure, if there is one; its status is zero if all the files listed were tried and exited, and
only then. -/
theorem batch_reports_its_trials (s : Settings) (r : Reference) (files : List String)
    (read : String → Except ReadFault String) (entropy : ε) (bytes : ByteArray)
    (unviewed : s.radius = none) (undumped : s.dump = false) (fuel : Nat) :
    let ts := trials fuel s r read files entropy (.listening (replies (stream bytes)))
    (∀ t ∈ ts, t.ending ≠ none) →
      ts.map Trial.path = files.take ts.length ∧
      (∀ t ∈ ts.dropLast, ∃ ending, t.ending = some (.ok ending)) ∧
      (ts.length = files.length ∨
        ∃ t fault, ts.getLast? = some t ∧ t.ending = some (.error fault)) ∧
      (∀ t ∈ ts, ∀ fault, t.ending = some (.error fault) → Stops t.path fault) ∧
      ∀ more, fuel ≤ more →
        let ran := runFiles more s r files read entropy (Supply.ofBytes bytes)
        String.join ran.2.out.toList = String.join (ts.map Trial.out) ∧
        String.join ran.2.err.toList = String.join (ts.map Trial.report) ∧
        (ran.1.status = 0 ↔
          ts.length = files.length ∧ ∀ t ∈ ts, t.ending = some (.ok .exited)) := by
  intro ts ended
  have tried : Tried files ts := tried_trials fuel files entropy _
  refine ⟨tried.paths, tried.goesOn, ?_, tried.stops, ?_⟩
  · rcases tried.whole with all | ⟨t, last, short⟩
    · exact .inl all
    · refine .inr ?_
      cases ending : t.ending with
      | none => exact absurd ending (ended t (List.mem_of_getLast? last))
      | some ending' =>
        cases ending' with
        | ok e => exact absurd ending (short e)
        | error fault => exact ⟨t, fault, last, ending⟩
  · intro more enough ran
    have yields := yields_trials unviewed undumped more r read files (b := .start entropy) rfl
      (.fresh (.ofBytes bytes))
    have same : trials more s r read files entropy
        (.listening (replies (Supply.ofBytes bytes).rest)) = ts := by
      rw [Supply.rest_ofBytes]
      exact trials_of_le enough ended
    dsimp only [Batch.start, Desk.fresh] at yields
    rw [same] at yields
    refine ⟨yields.out.trans String.empty_append, yields.err.trans String.empty_append, ?_⟩
    exact yields.status.trans (and_iff_right rfl)

attribute [local irreducible] runFiles

/-- The first file prints and crashes, the second takes the only character and exits, the third
cannot be read, and the fourth is not tried. -/
theorem batch_stops_at_an_unreadable_file :
    let s : Settings := ⟨none, none, false, none, none⟩
    let read : String → Except ReadFault String
      | "a" => .ok "3 1\n  v\n  SYS_T"
      | "b" => .ok "3 1 4\n  ^ E\n  SYS_AT"
      | "d" => .ok "3"
      | _ => .error .notFound
    let ran := runFiles 9 s ⟨#[some 3, some 1, some 4]⟩ ["a", "b", "c", "d"] read
      (⟨[]⟩ : Entropy.Script) (Supply.ofBytes "x".toUTF8)
    s.radius = none ∧ s.dump = false ∧ String.join ran.2.out.toList = "1" ∧ ran.1.status ≠ 0 ∧
      String.join ran.2.err.toList = "\nCrashed at (3,1); could not find 4\n" ++
        "\nfailed to read c: No such file or directory (os error 2)\n" := by
  intro s read ran
  obtain ⟨_, _, _, _, reports⟩ := batch_reports_its_trials s ⟨#[some 3, some 1, some 4]⟩
    ["a", "b", "c", "d"] read (⟨[]⟩ : Entropy.Script) "x".toUTF8 rfl rfl 9 (by decide +kernel)
  obtain ⟨out, err, status⟩ := reports 9 (Nat.le_refl 9)
  refine ⟨rfl, rfl, out.trans (by decide +kernel), fun zero => ?_, err.trans (by decide +kernel)⟩
  exact absurd (status.mp zero).1 (by decide +kernel)

end DigitTrail.Command
