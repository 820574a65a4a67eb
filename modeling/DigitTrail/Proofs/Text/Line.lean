import Mathlib.Data.List.DropRight
import DigitTrail.Text

/-!
Lines and their ends: what the parts of a text that is cut at a separator hold, how a list that is
cut at its end relates to the whole, and that what comes before a mark can be told from the mark if
the mark does not occur before.
-/

set_option autoImplicit false
set_option relaxedAutoImplicit false

namespace DigitTrail.Text

section Cut

variable {α : Type} [DecidableEq α] {sep : α}

theorem splitOn_cons_self (cs : List α) : (sep :: cs).splitOn sep = [] :: cs.splitOn sep := by
  rw [List.splitOn_cons_eq_if_modifyHead, if_pos (beq_self_eq_true sep)]

theorem splitOn_cons_of_ne {c : α} {cs l : List α} {ls : List (List α)} (h : c ≠ sep)
    (cut : cs.splitOn sep = l :: ls) : (c :: cs).splitOn sep = (c :: l) :: ls := by
  rw [List.splitOn_cons_eq_if_modifyHead, if_neg (by simpa using h), cut]
  rfl

theorem splitOn_cases (sep : α) (cs : List α) : ∃ l ls, cs.splitOn sep = l :: ls :=
  List.exists_cons_of_ne_nil (List.splitOn_ne_nil sep cs)

theorem not_mem_of_mem_splitOn {cs part : List α} (h : part ∈ cs.splitOn sep) : sep ∉ part := by
  induction cs generalizing part with
  | nil => simp_all [List.splitOn_nil]
  | cons c cs ih =>
    obtain ⟨l, ls, cut⟩ := splitOn_cases sep cs
    by_cases hc : c = sep
    · rw [hc, splitOn_cons_self] at h
      rcases List.mem_cons.mp h with rfl | h
      · simp
      · exact ih h
    · rw [splitOn_cons_of_ne hc cut] at h
      rw [cut] at ih
      rcases List.mem_cons.mp h with rfl | h
      · simpa [Ne.symm hc] using ih List.mem_cons_self
      · exact ih (List.mem_cons_of_mem l h)

theorem splitOn_filter {p : α → Bool} (keeps : p sep = true) (cs : List α) :
    (cs.filter p).splitOn sep = (cs.splitOn sep).map (List.filter p) := by
  induction cs with
  | nil => rfl
  | cons c cs ih =>
    obtain ⟨l, ls, cut⟩ := splitOn_cases sep cs
    rw [cut, List.map_cons] at ih
    by_cases hc : c = sep
    · rw [hc, List.filter_cons_of_pos keeps, splitOn_cons_self, splitOn_cons_self, ih, cut]
      rfl
    · rw [splitOn_cons_of_ne hc cut, List.map_cons]
      by_cases kept : p c = true
      · rw [List.filter_cons_of_pos kept, List.filter_cons_of_pos kept, splitOn_cons_of_ne hc ih]
      · rw [List.filter_cons_of_neg kept, List.filter_cons_of_neg kept, ih]

theorem length_splitOn_le (sep : α) (cs : List α) :
    (cs.splitOn sep).length ≤ cs.length + 1 ∧
      ∀ part ∈ cs.splitOn sep, part.length ≤ cs.length := by
  induction cs with
  | nil => simp [List.splitOn_nil]
  | cons c cs ih =>
    obtain ⟨l, ls, cut⟩ := splitOn_cases sep cs
    rw [cut] at ih
    obtain ⟨few, short⟩ := ih
    have first := short l List.mem_cons_self
    rw [List.length_cons] at few ⊢
    by_cases hc : c = sep
    · rw [hc, splitOn_cons_self, cut]
      refine ⟨by simpa using few, ?_⟩
      intro part member
      rcases List.mem_cons.mp member with rfl | later
      · exact Nat.zero_le _
      · exact Nat.le_succ_of_le (short part later)
    · rw [splitOn_cons_of_ne hc cut]
      refine ⟨by simp only [List.length_cons]; omega, ?_⟩
      intro part member
      rcases List.mem_cons.mp member with rfl | later
      · exact Nat.succ_le_succ first
      · exact Nat.le_succ_of_le (short part (List.mem_cons_of_mem l later))

end Cut

section Join

variable {α : Type} (sep : α)

theorem mem_intercalate {c : α} {parts : List (List α)} {part : List α}
    (h : part ∈ parts) (member : c ∈ part) : c ∈ [sep].intercalate parts := by
  induction parts with
  | nil => cases h
  | cons l ls ih =>
    rcases List.mem_cons.mp h with rfl | later
    · cases ls with
      | nil => rwa [List.intercalate_singleton]
      | cons l' ls => simp [List.intercalate_cons_cons, member]
    · rw [List.intercalate_cons_of_ne_nil (List.ne_nil_of_mem later)]
      exact List.mem_append_right _ (ih later)

theorem intercalate_concat_nil (parts : List (List α)) :
    [sep].intercalate (parts ++ [[]]) = parts.flatMap fun part => part ++ [sep] := by
  induction parts with
  | nil => rfl
  | cons part parts ih =>
    rw [List.cons_append, List.intercalate_cons_of_ne_nil (by simp), ih, List.flatMap_cons]

end Join

section Ends

variable {α : Type} (p : α → Bool)

theorem rdropWhile_cons (c : α) (l : List α) :
    (c :: l).rdropWhile p =
      if (l.rdropWhile p).isEmpty && p c then [] else c :: l.rdropWhile p := by
  unfold List.rdropWhile
  rw [List.reverse_cons, List.dropWhile_append]
  cases h : p c <;> cases k : (List.dropWhile p l.reverse) <;> simp [h]

theorem getElem?_of_rdropWhile {c : α} {l : List α} {x : Nat}
    (h : (l.rdropWhile p)[x]? = some c) : l[x]? = some c := by
  obtain ⟨rest, joined⟩ := List.rdropWhile_prefix p l
  obtain ⟨inside, _⟩ := List.getElem?_eq_some_iff.mp h
  rw [← joined]
  exact (List.getElem?_append_left inside).trans h

theorem rdropWhile_append_of_forall (l : List α) {rest : List α}
    (dropped : ∀ c ∈ rest, p c = true) : (l ++ rest).rdropWhile p = l.rdropWhile p := by
  unfold List.rdropWhile
  rw [List.reverse_append, List.dropWhile_append_of_pos (by simpa using dropped)]

theorem rdropWhile_append_cons {c : α} (kept : p c = false) (l rest : List α) :
    (l ++ c :: rest).rdropWhile p = l ++ c :: rest.rdropWhile p := by
  induction l with
  | nil => simp [rdropWhile_cons, kept]
  | cons d l ih => simp [rdropWhile_cons, ih]

theorem getElem?_rdropWhile {c : α} (kept : p c = false) {l : List α} {x : Nat}
    (h : l[x]? = some c) : (l.rdropWhile p)[x]? = some c := by
  obtain ⟨inside, found⟩ := List.getElem?_eq_some_iff.mp h
  have parts : l.take x ++ c :: l.drop (x + 1) = l := by
    rw [← found, ← List.drop_eq_getElem_cons inside, List.take_append_drop]
  have place : (l.take x).length = x := List.length_take_of_le (Nat.le_of_lt inside)
  rw [← parts, rdropWhile_append_cons p kept, List.getElem?_append_right (Nat.le_of_eq place),
    place, Nat.sub_self]
  rfl

theorem exists_le_getElem?_filter {c : α} {l : List α} {x : Nat} (kept : p c = true)
    (h : l[x]? = some c) : ∃ k ≤ x, (l.filter p)[k]? = some c := by
  induction l generalizing x with
  | nil => cases h
  | cons d l ih =>
    cases x with
    | zero =>
      have same : d = c := by simpa using h
      refine ⟨0, Nat.le_refl 0, ?_⟩
      rw [same, List.filter_cons_of_pos kept]
      rfl
    | succ x =>
      obtain ⟨k, early, found⟩ := ih h
      by_cases first : p d = true
      · refine ⟨k + 1, Nat.succ_le_succ early, ?_⟩
        rw [List.filter_cons_of_pos first]
        exact found
      · refine ⟨k, Nat.le_succ_of_le early, ?_⟩
        rw [List.filter_cons_of_neg first]
        exact found

end Ends

section Marks

variable {α : Type} [DecidableEq α] {mark : α} {l : List α}

theorem takeWhile_ne_append (free : mark ∉ l) (rest : List α) :
    (l ++ mark :: rest).takeWhile (· ≠ mark) = l := by
  rw [List.takeWhile_append_of_pos]
  · simp
  · intro c member
    simpa using ne_of_mem_of_not_mem member free

theorem dropWhile_ne_append (free : mark ∉ l) (rest : List α) :
    (l ++ mark :: rest).dropWhile (· ≠ mark) = mark :: rest := by
  rw [List.dropWhile_append_of_pos]
  · simp
  · intro c member
    simpa using ne_of_mem_of_not_mem member free

theorem append_mark_inj {l' rest rest' : List α} (free : mark ∉ l) (free' : mark ∉ l')
    (same : l ++ mark :: rest = l' ++ mark :: rest') : l = l' ∧ rest = rest' := by
  have before : l = l' := by
    rw [← takeWhile_ne_append free rest, same, takeWhile_ne_append free']
  rw [before] at same
  exact ⟨before, List.tail_eq_of_cons_eq (List.append_cancel_left same)⟩

end Marks

end DigitTrail.Text
