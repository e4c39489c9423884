/-
# RSA keys

An RSA public key is a modulus and an exponent.  Both come from messages, so
their sizes are bounded before anything else is looked at.

| condition, in this order | fault |
| --- | --- |
| the modulus has at most 4096 bits | `modulusTooLarge` |
| the exponent has at most 64 bits | `exponentTooLarge` |
| the modulus is odd and greater than the exponent | `invalidModulus` |
| the exponent is odd | `invalidExponent` |
| the exponent is at least 2 | `exponentTooSmall` |
| the exponent has at most 33 bits | `exponentTooLarge` |
-/

import SecurityTokens.Error

namespace SecurityTokens

/-- An RSA public key. -/
structure RsaKey where
  modulus : Nat
  exponent : Nat
deriving DecidableEq, Repr

namespace RsaKey

/-- Moduli are below this bound. -/
def modulusBound : Nat := 1 <<< 4096

/-- Exponents of keys are below this bound. -/
def exponentBound : Nat := 1 <<< 33

/-- Exponents that are looked at together with their modulus are below this bound. -/
def exponentSizeBound : Nat := 1 <<< 64

/-- The number of bits of a number. -/
def bitLength (n : Nat) : Nat := if n = 0 then 0 else n.log2 + 1

/-- The first condition on modulus and exponent that does not hold, if any. -/
def fault? (modulus exponent : Nat) : Option RsaFault :=
  if modulus ≥ modulusBound then some .modulusTooLarge
  else if exponent ≥ exponentSizeBound then some .exponentTooLarge
  else if exponent ≥ modulus ∨ modulus % 2 = 0 then some .invalidModulus
  else if exponent % 2 = 0 then some .invalidExponent
  else if exponent < 2 then some .exponentTooSmall
  else if exponent ≥ exponentBound then some .exponentTooLarge
  else none

/-- The key of a modulus and an exponent. -/
def ofParts (modulus exponent : Nat) : Except RsaFault RsaKey :=
  match fault? modulus exponent with
  | some fault => .error fault
  | none => .ok ⟨modulus, exponent⟩

/-- The description of a key, which tells its size. -/
def describe (k : RsaKey) : String :=
  "RSA public key (" ++ toString (bitLength k.modulus) ++ " bits)"

/-- Exactly an odd modulus within the bound and a smaller odd exponent within its
own bound, other than one, make a key. -/
theorem fault?_eq_none {modulus exponent : Nat} :
    fault? modulus exponent = none ↔
      modulus < modulusBound ∧ modulus % 2 = 1 ∧ exponent < modulus ∧ exponent % 2 = 1
        ∧ 2 ≤ exponent ∧ exponent < exponentBound := by
  unfold fault?
  have : exponentBound ≤ exponentSizeBound := by decide
  repeat' split
  all_goals simp
  all_goals omega

end RsaKey
end SecurityTokens
