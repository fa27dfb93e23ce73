/-!
# Modular arithmetic

Powers, inverses and differences of residues, which are numbers below the modulus.
-/

namespace TrustedKeyring.Modular

def powFrom (modulus base accumulator exponent : Nat) : Nat :=
  if h : exponent = 0 then accumulator
  else
    powFrom modulus (base * base % modulus)
      (if exponent % 2 = 1 then accumulator * base % modulus else accumulator) (exponent / 2)
termination_by exponent
decreasing_by exact Nat.div_lt_self (Nat.pos_of_ne_zero h) (by decide)

def pow (modulus base exponent : Nat) : Nat :=
  powFrom modulus (base % modulus) (1 % modulus) exponent

def inverse (modulus a : Nat) : Nat :=
  pow modulus a (modulus - 2)

def sub (modulus a b : Nat) : Nat :=
  (a + modulus - b) % modulus

end TrustedKeyring.Modular
