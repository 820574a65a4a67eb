import DigitTrail.Command.Driver

/-!
The characters that an input answers with. Lines are read one at a time and only when they are
needed; the answers are still those of one stream, which is settled before the first of them. A
record of the answers shows it.
-/

set_option autoImplicit false
set_option relaxedAutoImplicit false

namespace DigitTrail.Command

/-! ### The stream of an input -/

/-- The texts of lines, up to the first line that is not text. -/
def textLines : List (List UInt8 × Bool) → List (List Char)
  | [] => []
  | line :: rest =>
    match lineText? line with
    | none => []
    | some text => text :: textLines rest

/-- The characters of a line; an empty line counts as a space. -/
def lineAnswers (text : List Char) : List Char := if text.isEmpty then [' '] else text

def stream (bytes : ByteArray) : List Char :=
  (textLines (byteLines (bytes.toList.splitOn 10))).flatMap lineAnswers

def Supply.rest (s : Supply) : List Char := s.pending ++ (textLines s.unread).flatMap lineAnswers

theorem Supply.rest_ofBytes (bytes : ByteArray) : (ofBytes bytes).rest = stream bytes := rfl

/-! ### Suppliers -/

/-- A supplier answers with the characters of a list, one after the other. -/
structure Streams {σ : Type} [Supplier σ] (rest : σ → List Char) : Prop where
  first : ∀ s, (Supplier.next s).1 = (rest s).head?
  later : ∀ s, rest (Supplier.next s).2 = (rest s).tail

def Supplier.after {σ : Type} [Supplier σ] (s : σ) : Nat → σ
  | 0 => s
  | n + 1 => Supplier.after (Supplier.next s).2 n

/-- A supplier with all the answers that it has given. -/
structure Recorded (σ : Type) where
  supplier : σ
  answers : List (Option Char)

instance {σ : Type} [Supplier σ] : Supplier (Recorded σ) :=
  ⟨fun s => ((Supplier.next s.supplier).1,
    ⟨(Supplier.next s.supplier).2, s.answers ++ [(Supplier.next s.supplier).1]⟩)⟩

theorem Supply.streams : Streams Supply.rest := by
  have answers (s : Supply) : s.next.1 = s.rest.head? ∧ s.next.2.rest = s.rest.tail := by
    obtain ⟨pending, unread⟩ := s
    cases pending with
    | cons c pending => exact ⟨rfl, rfl⟩
    | nil =>
      cases unread with
      | nil => exact ⟨rfl, rfl⟩
      | cons line unread =>
        unfold next rest
        dsimp only
        rw [textLines]
        cases lineText? line with
        | none => exact ⟨rfl, rfl⟩
        | some text =>
          cases text with
          | nil => exact ⟨rfl, rfl⟩
          | cons c text => exact ⟨rfl, rfl⟩
  exact ⟨fun s => (answers s).1, fun s => (answers s).2⟩

section Answers

variable {σ : Type} [Supplier σ] {rest : σ → List Char}

theorem Supplier.after_add (s : σ) (n k : Nat) : after s (n + k) = after (after s n) k := by
  induction n generalizing s with
  | zero => rw [Nat.zero_add, after]
  | succ n ih =>
    rw [Nat.succ_add]
    exact ih _

theorem Streams.rest_after (streams : Streams rest) (s : σ) (n : Nat) :
    rest (Supplier.after s n) = (rest s).drop n := by
  induction n generalizing s with
  | zero => rfl
  | succ n ih =>
    change rest (Supplier.after (Supplier.next s).2 n) = _
    rw [ih, streams.later, ← List.drop_one, List.drop_drop, Nat.add_comm]

theorem Streams.recorded (streams : Streams rest) :
    Streams fun s : Recorded σ => rest s.supplier where
  first s := streams.first s.supplier
  later s := streams.later s.supplier

theorem Recorded.supplier_after (s : Recorded σ) (n : Nat) :
    (Supplier.after s n).supplier = Supplier.after s.supplier n := by
  induction n generalizing s with
  | zero => rfl
  | succ n ih => exact ih _

theorem Recorded.answers_after (streams : Streams rest) (s : Recorded σ) (n : Nat) :
    (Supplier.after s n).answers =
      s.answers ++ (List.range n).map fun k => (rest s.supplier)[k]? := by
  induction n generalizing s with
  | zero => simp [Supplier.after]
  | succ n ih =>
    change (Supplier.after (Supplier.next s).2 n).answers = _
    have later (k : Nat) : (rest (Supplier.next s).2.supplier)[k]? = (rest s.supplier)[k + 1]? := by
      change (rest (Supplier.next s.supplier).2)[k]? = _
      rw [streams.later, List.getElem?_tail]
    have now : (Supplier.next s).2.answers = s.answers ++ [(rest s.supplier)[0]?] := by
      change s.answers ++ [(Supplier.next s.supplier).1] = _
      rw [streams.first, List.head?_eq_getElem?]
    rw [ih, now, List.range_succ_eq_map, List.map_cons, List.map_map, List.append_assoc]
    simp only [later]
    rfl

end Answers

end DigitTrail.Command
