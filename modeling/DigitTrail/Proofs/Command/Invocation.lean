import Mathlib.Data.List.Forall2
import DigitTrail.Command.Invocation
import DigitTrail.Proofs.Number.Numeral

/-!
The grammar of a command's words. A word is a file or begins with the lead of a flag, and what it
means or what is wrong with it can be told without reading it character by character. The words
of a command are read exactly if each of them has a meaning and one is a file. The files are then
taken in their order, each flag as it was given last, and nothing hangs on how files and flags
are mixed. Otherwise the first word without a meaning decides the fault.
-/

set_option autoImplicit false
set_option relaxedAutoImplicit false

namespace DigitTrail.Command

open Number (NumeralFault Refuses Unsigned)

/-! ### Words -/

def Begins (lead word : String) : Prop := lead.toList <+: word.toList

instance (lead word : String) : Decidable (Begins lead word) :=
  inferInstanceAs (Decidable (_ <+: _))

/-- The number that a payload stands for: zero if there is none. -/
def Carries (limit : Nat) (payload : String) (n : Nat) : Prop :=
  (payload = "" ∧ n = 0) ∨ (Unsigned payload.toList n ∧ n ≤ limit)

/-- What a word means. -/
inductive Means : String → Word → Prop
  | file {path : String} : ¬Begins "-" path → Means path (.file path)
  | reference {path : String} : path ≠ "" → Means ("-pi" ++ path) (.reference path)
  | delay {payload : String} {ms : Nat} :
    Carries (UInt64.size - 1) payload ms → Means ("-d" ++ payload) (.delay ms)
  | radius {payload : String} {cells : Nat} :
    Carries (UInt32.size - 1) payload cells → Means ("-v" ++ payload) (.radius cells)
  | dump : Means "-r" .dump

/-- What is wrong with a word. -/
inductive Offends : String → UsageFault → Prop
  | reference : Offends "-pi" .missingPath
  | delay {payload : String} {cause : NumeralFault} : payload ≠ "" →
    Refuses (UInt64.size - 1) payload.toList cause →
    Offends ("-d" ++ payload) (.badNumber 'd' payload cause)
  | radius {payload : String} {cause : NumeralFault} : payload ≠ "" →
    Refuses (UInt32.size - 1) payload.toList cause →
    Offends ("-v" ++ payload) (.badNumber 'v' payload cause)
  | unknown {word : String} : Begins "-" word →
    (∀ lead ∈ ["-pi", "-d", "-v"], ¬Begins lead word) → word ≠ "-r" →
    Offends word (.unknownFlag word)

private theorem begins_iff {lead word : String} :
    Begins lead word ↔ ∃ rest, word = lead ++ rest := by
  constructor
  · rintro ⟨rest, joined⟩
    refine ⟨String.ofList rest, ?_⟩
    rw [← String.toList_inj, String.toList_append, String.toList_ofList, joined]
  · rintro ⟨rest, rfl⟩
    refine ⟨rest.toList, ?_⟩
    rw [String.toList_append]

private theorem readNumber_of_ne {payload : String} (written : payload ≠ "") (limit : Nat)
    (flag : Char) :
    readNumber limit flag payload.toList =
      (Number.readUnsigned limit payload.toList).mapError (.badNumber flag payload) := by
  have spelt : payload.toList ≠ [] := fun bare => written (String.toList_inj.mp bare)
  rw [readNumber, String.ofList_toList]
  exact spelt

private theorem readNumber_eq_ok_iff {limit n : Nat} {flag : Char} {payload : String} :
    readNumber limit flag payload.toList = .ok n ↔ Carries limit payload n := by
  by_cases bare : payload = ""
  · have blank : ¬Unsigned "".toList n := fun numeral => (Number.unsigned_iff.mp numeral).1 rfl
    rw [bare]
    constructor
    · intro read
      cases read
      exact .inl ⟨rfl, rfl⟩
    · rintro (⟨_, rfl⟩ | ⟨numeral, _⟩)
      · rfl
      · exact absurd numeral blank
  · have counted : Carries limit payload n ↔ Unsigned payload.toList n ∧ n ≤ limit := by
      simp [Carries, bare]
    rw [readNumber_of_ne bare, counted, ← Number.readUnsigned_eq_ok_iff]
    cases Number.readUnsigned limit payload.toList <;> simp [Except.mapError]

private theorem readNumber_eq_error_iff {limit : Nat} {flag : Char} {payload : String}
    {fault : UsageFault} :
    readNumber limit flag payload.toList = .error fault ↔
      payload ≠ "" ∧ ∃ cause, Refuses limit payload.toList cause ∧
        fault = .badNumber flag payload cause := by
  by_cases bare : payload = ""
  · rw [bare]
    exact ⟨nofun, fun refused => absurd rfl refused.1⟩
  · rw [readNumber_of_ne bare]
    simp only [← Number.readUnsigned_eq_error_iff, ne_eq, bare, not_false_eq_true, true_and]
    cases Number.readUnsigned limit payload.toList with
    | ok n => simp [Except.mapError]
    | error cause => simp [Except.mapError, eq_comm]

/-! ### Reading one word -/

private theorem readWord_of_file {word : String} (plain : ¬Begins "-" word) :
    readWord word = .ok (.file word) := by
  unfold readWord
  split
  · rename_i flag spelt
    exact absurd ⟨flag, spelt.symm⟩ plain
  · rfl

private theorem readWord_reference {path : String} (written : path ≠ "") :
    readWord ("-pi" ++ path) = .ok (.reference path) := by
  cases spelt : path.toList with
  | nil => exact absurd (String.toList_inj.mp spelt) written
  | cons c cs =>
    have flag : ("-pi" ++ path).toList = '-' :: 'p' :: 'i' :: c :: cs := by
      rw [String.toList_append, spelt]
      rfl
    rw [readWord, flag]
    simp only [readFlag]
    rw [← spelt, String.ofList_toList]

private theorem readWord_delay (payload : String) :
    readWord ("-d" ++ payload) =
      (readNumber (UInt64.size - 1) 'd' payload.toList).map .delay := by
  rw [readWord, String.toList_append]
  rfl

private theorem readWord_radius (payload : String) :
    readWord ("-v" ++ payload) =
      (readNumber (UInt32.size - 1) 'v' payload.toList).map .radius := by
  rw [readWord, String.toList_append]
  rfl

private theorem readWord_of_unknown {word : String} (dashed : Begins "-" word)
    (unled : ∀ lead ∈ ["-pi", "-d", "-v"], ¬Begins lead word) (other : word ≠ "-r") :
    readWord word = .error (.unknownFlag word) := by
  obtain ⟨flag, spelt⟩ := dashed
  have led (lead : String) (known : lead ∈ ["-pi", "-d", "-v"]) (rest : List Char) :
      word.toList ≠ lead.toList ++ rest := fun joined => unled lead known ⟨rest, joined.symm⟩
  rw [readWord, ← spelt]
  show readFlag word flag = _
  unfold readFlag
  split
  · exact absurd spelt.symm (led "-pi" (by simp) [])
  · exact absurd spelt.symm (led "-pi" (by simp) _)
  · exact absurd spelt.symm (led "-d" (by simp) _)
  · exact absurd spelt.symm (led "-v" (by simp) _)
  · exact absurd (String.toList_inj.mp spelt.symm) other
  · rfl

private theorem word_cases (word : String) :
    ¬Begins "-" word ∨ (∃ path, word = "-pi" ++ path) ∨ (∃ payload, word = "-d" ++ payload) ∨
      (∃ payload, word = "-v" ++ payload) ∨ word = "-r" ∨
      (Begins "-" word ∧ (∀ lead ∈ ["-pi", "-d", "-v"], ¬Begins lead word) ∧ word ≠ "-r") := by
  simp only [← begins_iff, List.forall_mem_cons, List.not_mem_nil, false_imp_iff, implies_true,
    and_true]
  grind

private theorem Means.readWord_eq {word : String} {meaning : Word} (means : Means word meaning) :
    readWord word = .ok meaning := by
  cases means with
  | file plain => exact readWord_of_file plain
  | reference written => exact readWord_reference written
  | delay carried =>
    rw [readWord_delay, readNumber_eq_ok_iff.mpr carried]
    rfl
  | radius carried =>
    rw [readWord_radius, readNumber_eq_ok_iff.mpr carried]
    rfl
  | dump => rfl

private theorem Offends.readWord_eq {word : String} {fault : UsageFault}
    (offends : Offends word fault) :
    readWord word = .error fault := by
  cases offends with
  | reference => rfl
  | delay written refused =>
    rw [readWord_delay, readNumber_eq_error_iff.mpr ⟨written, _, refused, rfl⟩]
    rfl
  | radius written refused =>
    rw [readWord_radius, readNumber_eq_error_iff.mpr ⟨written, _, refused, rfl⟩]
    rfl
  | unknown dashed unled other => exact readWord_of_unknown dashed unled other

private theorem means_or_offends (word : String) :
    (∃ meaning, Means word meaning) ∨ ∃ fault, Offends word fault := by
  obtain plain | ⟨path, rfl⟩ | ⟨payload, rfl⟩ | ⟨payload, rfl⟩ | rfl | ⟨dashed, unled, other⟩ :=
    word_cases word
  · exact .inl ⟨_, .file plain⟩
  · by_cases bare : path = ""
    · rw [bare]
      exact .inr ⟨_, .reference⟩
    · exact .inl ⟨_, .reference bare⟩
  · cases number : readNumber (UInt64.size - 1) 'd' payload.toList with
    | ok n => exact .inl ⟨_, .delay (readNumber_eq_ok_iff.mp number)⟩
    | error fault =>
      obtain ⟨written, cause, refused, _⟩ := readNumber_eq_error_iff.mp number
      exact .inr ⟨_, .delay written refused⟩
  · cases number : readNumber (UInt32.size - 1) 'v' payload.toList with
    | ok n => exact .inl ⟨_, .radius (readNumber_eq_ok_iff.mp number)⟩
    | error fault =>
      obtain ⟨written, cause, refused, _⟩ := readNumber_eq_error_iff.mp number
      exact .inr ⟨_, .radius written refused⟩
  · exact .inl ⟨_, .dump⟩
  · exact .inr ⟨_, .unknown dashed unled other⟩

private theorem Means.unique {word : String} {meaning meaning' : Word} (means : Means word meaning)
    (means' : Means word meaning') : meaning = meaning' := by
  have read := means.readWord_eq
  rw [means'.readWord_eq] at read
  exact (Except.ok.inj read).symm

private theorem Means.not_offends {word : String} {meaning : Word} (means : Means word meaning)
    (fault : UsageFault) : ¬Offends word fault := by
  intro offends
  have read := offends.readWord_eq
  rw [means.readWord_eq] at read
  cases read

private theorem exists_offends_iff (word : String) :
    (∃ fault, Offends word fault) ↔ Begins "-" word ∧ ∀ meaning, ¬Means word meaning := by
  constructor
  · rintro ⟨fault, offends⟩
    refine ⟨?_, fun meaning means => means.not_offends fault offends⟩
    by_contra plain
    exact (Means.file plain).not_offends fault offends
  · rintro ⟨_, meaningless⟩
    obtain ⟨meaning, means⟩ | offends := means_or_offends word
    · exact absurd means (meaningless meaning)
    · exact offends

/-! ### Flags by their leads -/

def Word.lead? : Word → Option String
  | .file _ => none
  | .reference _ => some "-pi"
  | .delay _ => some "-d"
  | .radius _ => some "-v"
  | .dump => some "-r"

def flagLeads : List String := ["-pi", "-d", "-v", "-r"]

private theorem begins_dash {lead word : String} (known : lead ∈ flagLeads)
    (begins : Begins lead word) :
    Begins "-" word := by
  have dashed : ∀ lead ∈ flagLeads, "-".toList <+: lead.toList := by decide
  exact (dashed lead known).trans begins

private theorem Means.begins_iff {word : String} {meaning : Word} (means : Means word meaning)
    {lead : String} (known : lead ∈ flagLeads) :
    Begins lead word ↔ meaning.lead? = some lead := by
  cases means with
  | file plain => exact ⟨fun begins => absurd (begins_dash known begins) plain, nofun⟩
  | reference | delay | radius | dump =>
    simp only [flagLeads, List.mem_cons, List.not_mem_nil, or_false] at known
    rcases known with rfl | rfl | rfl | rfl <;>
      simp [Begins, Word.lead?, List.cons_prefix_cons]

private theorem Means.begins_dash_iff {word : String} {meaning : Word}
    (means : Means word meaning) :
    Begins "-" word ↔ meaning.lead?.isSome = true := by
  cases means with
  | file plain => simp [Word.lead?, plain]
  | reference | delay | radius | dump => simp [Begins, Word.lead?]

/-- What the last of the words with a lead stands for, if there is one. -/
def Latest {α : Type} (lead : String) (stands : α → Word) (words : List String) (o : Option α) :
    Prop :=
  Option.Rel (fun word a => Means word (stands a)) (words.filter (Begins lead ·)).getLast? o

section Latest

variable {α : Type} {lead : String} {stands : α → Word} {words : List String} {o : Option α}

private theorem Latest.congr {mixed : List String} (latest : Latest lead stands words o)
    (same : words.filter (Begins lead ·) = mixed.filter (Begins lead ·)) :
    Latest lead stands mixed o := by
  unfold Latest
  rw [← same]
  exact latest

private theorem Latest.skip (latest : Latest lead stands words o) {word : String}
    (other : ¬Begins lead word) : Latest lead stands (words ++ [word]) o := by
  unfold Latest
  rw [List.filter_append, List.filter_cons_of_neg (by simpa using other), List.filter_nil,
    List.append_nil]
  exact latest

private theorem latest_concat {word : String} {a : α} (begins : Begins lead word)
    (means : Means word (stands a)) : Latest lead stands (words ++ [word]) (some a) := by
  unfold Latest
  rw [List.filter_append, List.filter_cons_of_pos (by simpa using begins), List.filter_nil,
    List.getLast?_concat]
  exact .some means

private theorem Latest.add (latest : Latest lead stands words o) (known : lead ∈ flagLeads)
    {word : String} {meaning : Word} (means : Means word meaning) {o' : Option α}
    (effect : (∃ a, meaning = stands a ∧ meaning.lead? = some lead ∧ o' = some a) ∨
      meaning.lead? ≠ some lead ∧ o' = o) :
    Latest lead stands (words ++ [word]) o' := by
  rcases effect with ⟨a, rfl, led, rfl⟩ | ⟨other, rfl⟩
  · exact latest_concat ((means.begins_iff known).mpr led) means
  · exact latest.skip fun begins => other ((means.begins_iff known).mp begins)

private theorem Latest.unique (injective : Function.Injective stands) {o' : Option α}
    (latest : Latest lead stands words o) (latest' : Latest lead stands words o') : o = o' := by
  unfold Latest at latest latest'
  cases last : (words.filter (Begins lead ·)).getLast? with
  | none =>
    rw [last] at latest latest'
    cases latest
    cases latest'
    rfl
  | some word =>
    rw [last] at latest latest'
    cases latest with
    | some means =>
      cases latest' with
      | some means' => rw [injective (means.unique means')]

end Latest

/-! ### Reading all words -/

def FirstOffence (words : List String) (fault : UsageFault) : Prop :=
  ∃ before word after, words = before ++ word :: after ∧
    (∀ earlier ∈ before, ∀ other, ¬Offends earlier other) ∧ Offends word fault

private theorem mapM_of_means {words : List String} {meanings : List Word}
    (means : List.Forall₂ Means words meanings) : words.mapM readWord = .ok meanings := by
  induction means with
  | nil => rfl
  | cons first _ ih =>
    rw [List.mapM_cons, first.readWord_eq, ih]
    rfl

private theorem FirstOffence.mapM_eq {words : List String} {fault : UsageFault}
    (offence : FirstOffence words fault) : words.mapM readWord = .error fault := by
  obtain ⟨before, word, after, rfl, innocent, offends⟩ := offence
  induction before with
  | nil =>
    rw [List.nil_append, List.mapM_cons, offends.readWord_eq]
    rfl
  | cons earlier before ih =>
    obtain ⟨meaning, means⟩ | ⟨other, guilty⟩ := means_or_offends earlier
    · have rest := ih fun v member => innocent v (List.mem_cons_of_mem _ member)
      rw [List.cons_append, List.mapM_cons, means.readWord_eq, rest]
      rfl
    · exact absurd guilty (innocent earlier List.mem_cons_self other)

private theorem means_or_firstOffence (words : List String) :
    (∃ meanings, List.Forall₂ Means words meanings) ∨ ∃ fault, FirstOffence words fault := by
  induction words with
  | nil => exact .inl ⟨[], .nil⟩
  | cons word words ih =>
    obtain ⟨meaning, means⟩ | ⟨fault, offends⟩ := means_or_offends word
    · obtain ⟨meanings, rest⟩ | ⟨fault, before, culprit, after, rfl, innocent, offends⟩ := ih
      · exact .inl ⟨meaning :: meanings, .cons means rest⟩
      · refine .inr ⟨fault, word :: before, culprit, after, rfl, ?_, offends⟩
        intro earlier member other guilty
        rcases List.mem_cons.mp member with rfl | later
        · exact means.not_offends other guilty
        · exact innocent earlier later other guilty
    · exact .inr ⟨fault, [], word, words, rfl, nofun, offends⟩

private theorem FirstOffence.not_means {words : List String} {fault : UsageFault}
    (offence : FirstOffence words fault) :
    ¬∀ word ∈ words, ∃ meaning, Means word meaning := by
  obtain ⟨before, word, after, rfl, _, offends⟩ := offence
  intro meant
  obtain ⟨meaning, means⟩ := meant word (by simp)
  exact means.not_offends fault offends

private theorem exists_means_iff {words : List String} :
    (∃ meanings, List.Forall₂ Means words meanings) ↔
      ∀ word ∈ words, ∃ meaning, Means word meaning := by
  induction words with
  | nil => exact ⟨fun _ => nofun, fun _ => ⟨[], .nil⟩⟩
  | cons word words ih =>
    rw [List.forall_mem_cons, ← ih]
    constructor
    · rintro ⟨meanings, means⟩
      cases means with
      | cons first rest => exact ⟨⟨_, first⟩, _, rest⟩
    · rintro ⟨⟨meaning, first⟩, meanings, rest⟩
      exact ⟨meaning :: meanings, .cons first rest⟩

namespace Invocation

/-- What the words of a command ask for together. -/
structure Gathers (words : List String) (i : Invocation) : Prop where
  files : i.files = words.filter (¬Begins "-" ·)
  delay : Latest "-d" .delay words i.delay
  radius : Latest "-v" .radius words i.radius
  reference : Latest "-pi" .reference words i.reference
  dump : i.dump = true ↔ "-r" ∈ words

private theorem gathers_empty : Gathers [] empty := ⟨rfl, .none, .none, .none, by decide⟩

variable {words : List String} {i : Invocation}

private theorem files_add {word : String} {meaning : Word} (means : Means word meaning) :
    (i.add meaning).files = i.files ++ [word].filter (¬Begins "-" ·) := by
  by_cases dashed : Begins "-" word
  · have led := means.begins_dash_iff.mp dashed
    cases meaning with
    | file path => cases led
    | reference | delay | radius | dump => simp [add, dashed]
  · have plain := means.unique (.file dashed)
    rw [plain]
    simp [add, dashed]

private theorem dump_add {word : String} {meaning : Word} (means : Means word meaning) :
    (i.add meaning).dump = true ↔ i.dump = true ∨ "-r" = word := by
  by_cases dump : "-r" = word
  · have plain := means.unique (dump ▸ Means.dump)
    rw [plain]
    simp [add, dump]
  · cases meaning with
    | dump =>
      cases means
      exact absurd rfl dump
    | file | reference | delay | radius => simp [add, dump]

private theorem Gathers.add (gathers : Gathers words i) {word : String} {meaning : Word}
    (means : Means word meaning) : Gathers (words ++ [word]) (i.add meaning) where
  files := by rw [files_add means, List.filter_append, gathers.files]
  delay := gathers.delay.add (by decide) means
    (by cases meaning <;> simp [Invocation.add, Word.lead?])
  radius := gathers.radius.add (by decide) means
    (by cases meaning <;> simp [Invocation.add, Word.lead?])
  reference := gathers.reference.add (by decide) means
    (by cases meaning <;> simp [Invocation.add, Word.lead?])
  dump := by rw [dump_add means, gathers.dump, List.mem_append, List.mem_singleton]

private theorem Gathers.foldl (gathers : Gathers words i) {more : List String}
    {meanings : List Word}
    (means : List.Forall₂ Means more meanings) :
    Gathers (words ++ more) (meanings.foldl Invocation.add i) := by
  induction means generalizing words i with
  | nil =>
    rw [List.append_nil]
    exact gathers
  | cons first _ ih =>
    rw [List.append_cons]
    exact ih (gathers.add first)

private theorem Gathers.unique {j : Invocation} (gathers : Gathers words i)
    (gathers' : Gathers words j) :
    i = j := by
  have files := gathers.files.trans gathers'.files.symm
  have delay := gathers.delay.unique (fun _ _ => Word.delay.inj) gathers'.delay
  have radius := gathers.radius.unique (fun _ _ => Word.radius.inj) gathers'.radius
  have reference := gathers.reference.unique (fun _ _ => Word.reference.inj) gathers'.reference
  have dump : i.dump = j.dump := Bool.eq_iff_iff.mpr (gathers.dump.trans gathers'.dump.symm)
  cases i
  cases j
  simp_all

private theorem ofWords_cases (words : List String) :
    ((∀ word ∈ words, ∃ meaning, Means word meaning) ∧
      (((∃ word ∈ words, ¬Begins "-" word) ∧ ∃ i, ofWords words = .ok i ∧ Gathers words i) ∨
        (∀ word ∈ words, Begins "-" word) ∧ ofWords words = .error .noFile)) ∨
    ∃ fault, FirstOffence words fault ∧ ofWords words = .error fault := by
  obtain ⟨meanings, means⟩ | ⟨fault, offence⟩ := means_or_firstOffence words
  · have gathers : Gathers words (meanings.foldl add empty) := gathers_empty.foldl means
    refine .inl ⟨exists_means_iff.mp ⟨meanings, means⟩, ?_⟩
    by_cases plain : ∃ word ∈ words, ¬Begins "-" word
    · have supplied : (meanings.foldl add empty).files ≠ [] := by
        rw [gathers.files]
        obtain ⟨word, member, undashed⟩ := plain
        exact List.ne_nil_of_mem (List.mem_filter.mpr ⟨member, by simpa using undashed⟩)
      refine .inl ⟨plain, meanings.foldl add empty, ?_, gathers⟩
      simp [ofWords, mapM_of_means means, supplied]
    · have dashed : ∀ word ∈ words, Begins "-" word := by
        intro word member
        by_contra undashed
        exact plain ⟨word, member, undashed⟩
      have lacking : (meanings.foldl add empty).files = [] := by
        rw [gathers.files]
        simpa using dashed
      refine .inr ⟨dashed, ?_⟩
      simp [ofWords, mapM_of_means means, lacking]
  · refine .inr ⟨fault, offence, ?_⟩
    simp [ofWords, offence.mapM_eq]

/-- The same words, mixed in another way: the files keep their order, and so do the words of each
flag. -/
structure Interleaved (words mixed : List String) : Prop where
  perm : words.Perm mixed
  files : words.filter (¬Begins "-" ·) = mixed.filter (¬Begins "-" ·)
  flags : ∀ lead ∈ flagLeads, words.filter (Begins lead ·) = mixed.filter (Begins lead ·)

private theorem Gathers.mixed {mixed : List String} (gathers : Gathers words i)
    (same : Interleaved words mixed) : Gathers mixed i where
  files := gathers.files.trans same.files
  delay := gathers.delay.congr (same.flags "-d" (by decide))
  radius := gathers.radius.congr (same.flags "-v" (by decide))
  reference := gathers.reference.congr (same.flags "-pi" (by decide))
  dump := gathers.dump.trans same.perm.mem_iff

private theorem ofWords_eq_ok_iff :
    ofWords words = .ok i ↔
      ((∃ word ∈ words, ¬Begins "-" word) ∧ ∀ word ∈ words, ∃ meaning, Means word meaning) ∧
        Gathers words i := by
  obtain ⟨meant, ⟨plain, j, read, gathers⟩ | ⟨dashed, read⟩⟩ | ⟨fault, offence, read⟩ :=
    ofWords_cases words
  · rw [read]
    constructor
    · intro same
      cases same
      exact ⟨⟨plain, meant⟩, gathers⟩
    · rintro ⟨_, gathers'⟩
      rw [gathers.unique gathers']
  · rw [read]
    refine ⟨nofun, ?_⟩
    rintro ⟨⟨⟨word, member, plain⟩, _⟩, _⟩
    exact absurd (dashed word member) plain
  · rw [read]
    refine ⟨nofun, ?_⟩
    rintro ⟨⟨_, meant⟩, _⟩
    exact absurd meant offence.not_means

private theorem ofWords_eq_error_iff {fault : UsageFault} :
    ofWords words = .error fault ↔
      FirstOffence words fault ∨
        fault = .noFile ∧ (∀ word ∈ words, ∀ other, ¬Offends word other) ∧
          ∀ word ∈ words, Begins "-" word := by
  have innocent (meant : ∀ word ∈ words, ∃ meaning, Means word meaning) :
      ∀ word ∈ words, ∀ other, ¬Offends word other := by
    intro word member other
    obtain ⟨meaning, means⟩ := meant word member
    exact means.not_offends other
  obtain ⟨meant, ⟨⟨word, member, plain⟩, j, read, _⟩ | ⟨dashed, read⟩⟩ | ⟨first, offence, read⟩ :=
    ofWords_cases words
  · rw [read]
    refine ⟨nofun, ?_⟩
    rintro (offence | ⟨_, _, dashed⟩)
    · exact absurd meant offence.not_means
    · exact absurd (dashed word member) plain
  · rw [read]
    constructor
    · intro same
      cases same
      exact .inr ⟨rfl, innocent meant, dashed⟩
    · rintro (offence | ⟨rfl, _⟩)
      · exact absurd meant offence.not_means
      · rfl
  · rw [read]
    constructor
    · intro same
      cases same
      exact .inl offence
    · rintro (offence' | ⟨_, sound, _⟩)
      · have both := offence.mapM_eq
        rw [offence'.mapM_eq] at both
        cases both
        rfl
      · obtain ⟨before, word, after, rfl, _, offends⟩ := offence
        exact absurd offends (sound word (by simp) first)

/-- Words are read exactly if one is a file and every word with a dash is one of the flags. Then
they are gathered as they mean, each flag as it was given last, and mixing files and flags in
another way gives the same. Otherwise the first word that offends gives the fault, and the file
is missed only if none does. -/
theorem words_are_read_by_their_grammar (words : List String) :
    ((∃ i, ofWords words = .ok i) ↔
      (∃ word ∈ words, ¬Begins "-" word) ∧
        ∀ word ∈ words, Begins "-" word → ∃ meaning, Means word meaning) ∧
    (∀ i, ofWords words = .ok i →
      Gathers words i ∧ ∀ mixed, Interleaved words mixed → ofWords mixed = .ok i) ∧
    (∀ fault, ofWords words = .error fault ↔
      FirstOffence words fault ∨
        fault = .noFile ∧ (∀ word ∈ words, ∀ other, ¬Offends word other) ∧
          ∀ word ∈ words, Begins "-" word) ∧
    ∀ word, (∃ fault, Offends word fault) ↔ Begins "-" word ∧ ∀ meaning, ¬Means word meaning := by
  refine ⟨⟨?_, ?_⟩, ?_, fun fault => ofWords_eq_error_iff, exists_offends_iff⟩
  · rintro ⟨i, read⟩
    obtain ⟨⟨plain, meant⟩, _⟩ := ofWords_eq_ok_iff.mp read
    exact ⟨plain, fun word member _ => meant word member⟩
  · rintro ⟨⟨file, member, plain⟩, flags⟩
    obtain ⟨_, ⟨_, i, read, _⟩ | ⟨dashed, _⟩⟩ | ⟨fault, offence, _⟩ := ofWords_cases words
    · exact ⟨i, read⟩
    · exact absurd (dashed file member) plain
    · obtain ⟨before, word, after, rfl, _, offends⟩ := offence
      obtain ⟨dashed, _⟩ := (exists_offends_iff word).mp ⟨fault, offends⟩
      obtain ⟨meaning, means⟩ := flags word (by simp) dashed
      exact absurd offends (means.not_offends fault)
  · intro i read
    obtain ⟨⟨⟨file, member, plain⟩, meant⟩, gathers⟩ := ofWords_eq_ok_iff.mp read
    refine ⟨gathers, fun mixed same => ofWords_eq_ok_iff.mpr ⟨⟨?_, ?_⟩, gathers.mixed same⟩⟩
    · exact ⟨file, same.perm.mem_iff.mp member, plain⟩
    · exact fun word kept => meant word (same.perm.mem_iff.mpr kept)

end Invocation

end DigitTrail.Command
