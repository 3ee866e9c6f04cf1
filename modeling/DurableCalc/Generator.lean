/-!
# The generator

A multiplicative congruential generator: every state is multiplied by 16807 modulo the prime
2147483647. A state outside of the residues is reduced first, so that the product stays within 64
bits.
-/

namespace DurableCalc.Generator

def multiplier : Int64 := 16807

/-- The Mersenne prime 2 ^ 31 - 1. -/
def modulus : Int64 := 2147483647

def residue (state : Int64) : Int64 :=
  let r := state % modulus
  if r < 0 then r + modulus else r

def next (state : Int64) : Int64 :=
  residue state * multiplier % modulus

/-- The `n` states after the given one. -/
def stream : Nat → Int64 → List Int64
  | 0, _ => []
  | n + 1, state => next state :: stream n (next state)

end DurableCalc.Generator
