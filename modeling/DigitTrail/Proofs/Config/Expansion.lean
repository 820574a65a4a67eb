import Mathlib.Data.List.Infix
import DigitTrail.Config.Profile
import DigitTrail.Proofs.Text.Line

/-!
Expansion as one substitution. A text is in exactly one way a row of references, each with the
literal text before it, and a rest that opens no further reference or never closes the first it
opens. Expanding puts the text of its variable in the place of each reference and copies all
else, so that nothing which has been put in is looked at again.
-/

set_option autoImplicit false
set_option relaxedAutoImplicit false

namespace DigitTrail.Config

def opener : List Char := ['$', '\x7b']

def Plain (l : List Char) : Prop := ¬opener <:+: l

/-- A reference and the literal text before it. -/
structure Mention where
  lead : List Char
  name : List Char
  deriving DecidableEq, Repr

/-- The references of a text in their order, and what is left after the last of them. -/
structure Layout where
  mentions : List Mention
  rest : List Char
  deriving DecidableEq, Repr

def Mention.text (m : Mention) : List Char := m.lead ++ opener ++ m.name ++ ['\x7d']

namespace Layout

def text (l : Layout) : List Char := l.mentions.flatMap Mention.text ++ l.rest

def filled (env : Environment) (l : Layout) : List Char :=
  l.mentions.flatMap (fun m => m.lead ++ env.text m.name) ++ l.rest

/-- Each reference is the first that is opened, ends where it is first closed, and the rest has
no further one. -/
structure Proper (l : Layout) : Prop where
  plain : ∀ m ∈ l.mentions, Plain m.lead
  named : ∀ m ∈ l.mentions, '\x7d' ∉ m.name
  ended : Plain l.rest ∨
    ∃ lead tail, l.rest = lead ++ opener ++ tail ∧ Plain lead ∧ '\x7d' ∉ tail

end Layout

/-! ### The first reference -/

private theorem plain_nil : Plain [] := by
  rintro ⟨before, after, joined⟩
  simp [opener] at joined

private theorem plain_cons {c : Char} {l : List Char} :
    Plain (c :: l) ↔ ¬opener <+: c :: l ∧ Plain l := by
  unfold Plain
  rw [List.infix_cons_iff, not_or]

private theorem not_plain_append (lead after : List Char) : ¬Plain (lead ++ opener ++ after) :=
  fun plain => plain ⟨lead, after, rfl⟩

/-- An opener does not overlap with the next one, so a character that stands before an opener
does not open anything by it. -/
private theorem opener_prefix_append {c : Char} {l rest : List Char} :
    opener <+: c :: (l ++ opener ++ rest) ↔ opener <+: c :: l := by
  cases l with
  | nil => simp [opener, List.cons_prefix_cons]
  | cons d l => simp [opener, List.cons_prefix_cons]

private theorem plain_or_opens (s : List Char) :
    Plain s ∨ ∃ lead after, s = lead ++ opener ++ after ∧ Plain lead := by
  induction s with
  | nil => exact .inl plain_nil
  | cons c s ih =>
    by_cases opened : opener <+: c :: s
    · obtain ⟨after, joined⟩ := opened
      exact .inr ⟨[], after, joined.symm, plain_nil⟩
    · obtain plain | ⟨lead, after, rfl, plain⟩ := ih
      · exact .inl (plain_cons.mpr ⟨opened, plain⟩)
      · rw [opener_prefix_append] at opened
        exact .inr ⟨c :: lead, after, rfl, plain_cons.mpr ⟨opened, plain⟩⟩

private theorem append_opener_inj {lead lead' after after' : List Char} (plain : Plain lead)
    (plain' : Plain lead') (same : lead ++ opener ++ after = lead' ++ opener ++ after') :
    lead = lead' ∧ after = after' := by
  induction lead generalizing lead' with
  | nil =>
    cases lead' with
    | nil => exact ⟨rfl, List.append_cancel_left same⟩
    | cons c lead' =>
      have opened : opener <+: c :: (lead' ++ opener ++ after') := ⟨after, same⟩
      exact absurd (opener_prefix_append.mp opened) (plain_cons.mp plain').1
  | cons c lead ih =>
    cases lead' with
    | nil =>
      have opened : opener <+: c :: (lead ++ opener ++ after) := ⟨after', same.symm⟩
      exact absurd (opener_prefix_append.mp opened) (plain_cons.mp plain).1
    | cons d lead' =>
      obtain ⟨rfl, tails⟩ := List.cons.inj same
      obtain ⟨rfl, rfl⟩ := ih (plain_cons.mp plain).2 (plain_cons.mp plain').2 tails
      exact ⟨rfl, rfl⟩

/-! ### One layout for each text -/

namespace Layout

private theorem text_cons (m : Mention) (ms : List Mention) (rest : List Char) :
    text ⟨m :: ms, rest⟩ = m.lead ++ opener ++ (m.name ++ '\x7d' :: text ⟨ms, rest⟩) := by
  simp [text, Mention.text]

private theorem Proper.tail {m : Mention} {ms : List Mention} {rest : List Char}
    (proper : Proper ⟨m :: ms, rest⟩) : Proper ⟨ms, rest⟩ where
  plain := fun n member => proper.plain n (List.mem_cons_of_mem m member)
  named := fun n member => proper.named n (List.mem_cons_of_mem m member)
  ended := proper.ended

private theorem proper_cons {m : Mention} {ms : List Mention} {rest : List Char}
    (plain : Plain m.lead)
    (named : '\x7d' ∉ m.name) (proper : Proper ⟨ms, rest⟩) : Proper ⟨m :: ms, rest⟩ where
  plain := List.forall_mem_cons.mpr ⟨plain, proper.plain⟩
  named := List.forall_mem_cons.mpr ⟨named, proper.named⟩
  ended := proper.ended

private theorem exists_proper (s : List Char) : ∃ l : Layout, l.Proper ∧ l.text = s := by
  induction size : s.length using Nat.strong_induction_on generalizing s with
  | _ n ih =>
    obtain plain | ⟨lead, after, rfl, plain⟩ := plain_or_opens s
    · exact ⟨⟨[], s⟩, ⟨nofun, nofun, .inl plain⟩, rfl⟩
    · by_cases closed : '\x7d' ∈ after
      · obtain ⟨name, more, rfl, named⟩ := List.eq_append_cons_of_mem closed
        have shorter : more.length < n := by
          simp only [List.length_append, List.length_cons] at size
          omega
        obtain ⟨⟨ms, rest⟩, proper, spelt⟩ := ih more.length shorter more rfl
        refine ⟨⟨⟨lead, name⟩ :: ms, rest⟩, proper_cons plain named proper, ?_⟩
        rw [text_cons, spelt]
      · refine ⟨⟨[], lead ++ opener ++ after⟩, ⟨nofun, nofun, .inr ?_⟩, rfl⟩
        exact ⟨lead, after, rfl, plain, closed⟩

private theorem Proper.rest_ne {rest : List Char} {ms : List Mention} (proper : Proper ⟨ms, rest⟩)
    {lead name more : List Char} (plain : Plain lead) :
    rest ≠ lead ++ opener ++ (name ++ '\x7d' :: more) := by
  intro same
  rcases proper.ended with unopened | ⟨lead', tail, opened, plain', unclosed⟩
  · rw [same] at unopened
    exact not_plain_append _ _ unopened
  · obtain ⟨_, rfl⟩ := append_opener_inj plain plain' (same.symm.trans opened)
    exact unclosed (by simp)

private theorem Proper.unique {l l' : Layout} (proper : l.Proper) (proper' : l'.Proper)
    (same : l.text = l'.text) : l = l' := by
  obtain ⟨ms, rest⟩ := l
  obtain ⟨ms', rest'⟩ := l'
  induction ms generalizing ms' with
  | nil =>
    cases ms' with
    | nil =>
      have rests : rest = rest' := same
      rw [rests]
    | cons m' ms' =>
      rw [text_cons] at same
      exact absurd same (proper.rest_ne (proper'.plain m' List.mem_cons_self))
  | cons m ms ih =>
    cases ms' with
    | nil =>
      rw [text_cons] at same
      exact absurd same.symm (proper'.rest_ne (proper.plain m List.mem_cons_self))
    | cons m' ms' =>
      rw [text_cons, text_cons] at same
      obtain ⟨leads, after⟩ := append_opener_inj (proper.plain m List.mem_cons_self)
        (proper'.plain m' List.mem_cons_self) same
      obtain ⟨names, texts⟩ := Text.append_mark_inj (proper.named m List.mem_cons_self)
        (proper'.named m' List.mem_cons_self) after
      obtain ⟨rfl, rfl⟩ := Layout.mk.inj (ih proper.tail ms' proper'.tail texts)
      cases m
      cases m'
      cases leads
      cases names
      rfl

private theorem length_mentions_le (l : Layout) : 3 * l.mentions.length ≤ l.text.length := by
  obtain ⟨ms, rest⟩ := l
  induction ms with
  | nil => exact Nat.zero_le _
  | cons m ms ih =>
    rw [text_cons]
    simp only [List.length_append, List.length_cons, opener, List.length_nil] at ih ⊢
    omega

end Layout

/-! ### Expanding -/

section Expand

variable (env : Environment)

private theorem expandFrom_cons {c : Char} {s : List Char} (unopened : ¬opener <+: c :: s) :
    expandFrom env none (c :: s) = c :: expandFrom env none s := by
  rw [expandFrom]
  rintro rest rfl rfl
  exact unopened ⟨rest, rfl⟩

private theorem expandFrom_of_plain {s : List Char} (plain : Plain s) :
    expandFrom env none s = s := by
  induction s with
  | nil => rfl
  | cons c s ih =>
    obtain ⟨unopened, later⟩ := plain_cons.mp plain
    rw [expandFrom_cons env unopened, ih later]

private theorem expandFrom_append_opener {lead : List Char} (plain : Plain lead)
    (after : List Char) :
    expandFrom env none (lead ++ opener ++ after) = lead ++ expandFrom env (some []) after := by
  induction lead with
  | nil => rfl
  | cons c lead ih =>
    obtain ⟨unopened, later⟩ := plain_cons.mp plain
    have apart : ¬opener <+: c :: (lead ++ opener ++ after) :=
      fun opened => unopened (opener_prefix_append.mp opened)
    rw [List.cons_append, List.cons_append, expandFrom_cons env apart, ih later,
      List.cons_append]

private theorem expandFrom_append_close {name : List Char} (named : '\x7d' ∉ name)
    (before more : List Char) :
    expandFrom env (some before) (name ++ '\x7d' :: more) =
      env.text (before.reverse ++ name) ++ expandFrom env none more := by
  induction name generalizing before with
  | nil => simp [expandFrom]
  | cons c name ih =>
    obtain ⟨other, later⟩ := List.ne_and_not_mem_of_not_mem_cons named
    rw [List.cons_append, expandFrom, if_neg (Ne.symm other), ih later, List.reverse_cons,
      List.append_assoc, List.singleton_append]

private theorem expandFrom_of_unclosed {tail : List Char} (unclosed : '\x7d' ∉ tail)
    (before : List Char) :
    expandFrom env (some before) tail = opener ++ (before.reverse ++ tail) := by
  induction tail generalizing before with
  | nil => simp [expandFrom, opener]
  | cons c tail ih =>
    obtain ⟨other, later⟩ := List.ne_and_not_mem_of_not_mem_cons unclosed
    rw [expandFrom, if_neg (Ne.symm other), ih later, List.reverse_cons, List.append_assoc,
      List.singleton_append]

private theorem expandFrom_text {l : Layout} (proper : l.Proper) :
    expandFrom env none l.text = l.filled env := by
  obtain ⟨ms, rest⟩ := l
  induction ms with
  | nil =>
    show expandFrom env none rest = rest
    rcases proper.ended with plain | ⟨lead, tail, rfl, plain, unclosed⟩
    · exact expandFrom_of_plain env plain
    · rw [expandFrom_append_opener env plain, expandFrom_of_unclosed env unclosed]
      simp
  | cons m ms ih =>
    rw [Layout.text_cons, expandFrom_append_opener env (proper.plain m List.mem_cons_self),
      expandFrom_append_close env (proper.named m List.mem_cons_self), ih proper.tail]
    simp [Layout.filled]

end Expand

/-- A text has one proper layout, and expanding it gives that layout with the text of its variable
in place of each reference: nothing if the name is empty, if the variable is not set, and if what it
is set to is no text. -/
theorem expansion_substitutes_once (env : Environment) (s : String) :
    ∃ l : Layout, l.Proper ∧ l.text = s.toList ∧
      (∀ other : Layout, other.Proper → other.text = s.toList → other = l) ∧
      expand env s = String.ofList (l.filled env) ∧
      3 * l.mentions.length ≤ s.length ∧
      ∀ name : List Char,
        ((name = [] ∨ env (String.ofList name) = none) → env.text name = []) ∧
        ∀ value, name ≠ [] → env (String.ofList name) = some value →
          env.text name = value.toList := by
  obtain ⟨l, proper, spelt⟩ := Layout.exists_proper s.toList
  refine ⟨l, proper, spelt, ?_, ?_, ?_, ?_⟩
  · intro other proper' spelt'
    exact proper'.unique proper (spelt'.trans spelt.symm)
  · rw [expand, ← spelt, expandFrom_text env proper]
  · have bound := l.length_mentions_le
    rw [spelt, String.length_toList] at bound
    exact bound
  · intro name
    constructor
    · rintro (rfl | unset)
      · rfl
      · simp [Environment.text, unset]
    · intro value named set
      simp [Environment.text, named, set]

end DigitTrail.Config
