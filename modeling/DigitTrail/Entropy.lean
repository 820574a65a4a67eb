/-!
Sources of chance. A source yields a number below a bound and the source that the next draw takes;
everything that draws is stated for every source. A script is a fixed list of numbers replayed in a
cycle, each reduced modulo the bound asked for, and an empty script yields zero.
-/

set_option autoImplicit false
set_option relaxedAutoImplicit false

namespace DigitTrail

/-- A source of numbers below a requested bound. -/
class Entropy (ε : Type) where
  below : ε → UInt32 → UInt32 × ε

namespace Entropy

variable {ε : Type} [Entropy ε]

/-- A draw below ten, which is what a floating register reads as. -/
def digit (source : ε) : Int64 × ε :=
  let (n, rest) := below source 10
  (Int64.ofNat n.toNat, rest)

def bit (source : ε) : Int64 × ε :=
  let (n, rest) := below source 2
  (Int64.ofNat n.toNat, rest)

end Entropy

end DigitTrail

namespace DigitTrail.Entropy

structure Script where
  numbers : List UInt32
  deriving DecidableEq, Repr, Inhabited

namespace Script

/-- The least bound that a draw is reduced by is one. -/
def modulus (bound : UInt32) : UInt32 := if bound = 0 then 1 else bound

/-- Take the next number, which then moves to the end. -/
def below : Script → UInt32 → UInt32 × Script
  | ⟨[]⟩, _ => (0, ⟨[]⟩)
  | ⟨n :: rest⟩, bound => (n % modulus bound, ⟨rest ++ [n]⟩)

instance : Entropy Script := ⟨below⟩

def describe (s : Script) : String :=
  "ScriptedEntropy \x7b remaining: " ++ toString s.numbers.length ++ " \x7d"

@[simp] theorem length_below (s : Script) (bound : UInt32) :
    (s.below bound).2.numbers.length = s.numbers.length := by
  rcases s with ⟨_ | ⟨n, rest⟩⟩ <;> simp [below]

end Script

structure Generator where
  state : StdGen

namespace Generator

def ofSeed (seed : Nat) : Generator := ⟨mkStdGen seed⟩

/-- A number below the bound; a bound of zero or one leaves only zero and draws nothing. -/
def below (g : Generator) (bound : UInt32) : UInt32 × Generator :=
  if bound ≤ 1 then (0, g)
  else
    let (n, rest) := randNat g.state 0 (bound.toNat - 1)
    (UInt32.ofNat n, ⟨rest⟩)

instance : Entropy Generator := ⟨below⟩

end Generator

inductive Source
  | scripted (script : Script)
  | generated (generator : Generator)

namespace Source

def below : Source → UInt32 → UInt32 × Source
  | .scripted s, bound => ((s.below bound).1, .scripted (s.below bound).2)
  | .generated g, bound => ((g.below bound).1, .generated (g.below bound).2)

instance : Entropy Source := ⟨below⟩

end Source

end DigitTrail.Entropy
