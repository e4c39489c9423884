/-
# How long keys are

Some tokens do not tell how long their key is.  Then the algorithm tells for
which the key is used, unless a length is set for secrets.
-/

import SecurityTokens.Error

namespace SecurityTokens

/-- What tells the length of a key. -/
structure KeySizing where
  algorithm : Option String
  secretLength : Option Nat
deriving DecidableEq, Repr

namespace KeySizing

/-- The length of a key of the algorithm. -/
def algorithmKeyLength (s : KeySizing) : Except Error Nat :=
  match s.algorithm with
  | none => .error (.derivation .noAlgorithm)
  | some uri =>
    match Algorithm.keyLength? uri with
    | some length => .ok length
    | none => .error (.derivation (.unknownKeyLength uri))

/-- The length that is set, or else the one of the algorithm. -/
def secretKeyLength (s : KeySizing) : Except Error Nat :=
  match s.secretLength with
  | some 0 => .error (.derivation .zeroKeyLength)
  | some length => .ok length
  | none => s.algorithmKeyLength

/-- A length that is found is positive. -/
theorem algorithmKeyLength_pos {s : KeySizing} {n : Nat} (h : s.algorithmKeyLength = .ok n) :
    0 < n := by
  unfold algorithmKeyLength at h
  split at h
  · simp at h
  · split at h
    · rename_i hl
      simp only [Except.ok.injEq] at h
      exact h ▸ Algorithm.keyLength?_pos hl
    · simp at h

end KeySizing
end SecurityTokens
