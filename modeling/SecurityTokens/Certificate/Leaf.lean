/-
# The leaf among certificates

Certificates that come together are a chain in no particular order.  The leaf,
the certificate that the others lead to, is chosen by names:

| choice, in this order | condition |
| --- | --- |
| the first that is no authority | its subject is the issuer of no other |
| the first | its subject is the issuer of no other |
| the last | none |
-/

import SecurityTokens.Certificate.Basic

namespace SecurityTokens
namespace Certificate

/-- Whether the subject of the certificate at a position is the issuer of a
certificate at another position. -/
def issuesAnother (cs : List Certificate) (i : Nat) : Bool :=
  match cs[i]? with
  | some c => (cs.eraseIdx i).any (·.issuer == c.subject)
  | none => false

/-- Whether the certificate at a position is one of an authority. -/
def isAuthorityAt (cs : List Certificate) (i : Nat) : Bool := cs[i]?.any isAuthority

/-- The positions of the certificates that issue no other. -/
def endPositions (cs : List Certificate) : List Nat :=
  (List.range cs.length).filter fun i => !issuesAnother cs i

/-- The position of the leaf. -/
def leafPosition (cs : List Certificate) : Nat :=
  let ends := endPositions cs
  ((ends.find? fun i => !isAuthorityAt cs i).or ends.head?).getD (cs.length - 1)

/-- The certificates with the leaf moved to the front. -/
def leafFirst (cs : List Certificate) : List Certificate :=
  let i := leafPosition cs
  cs[i]?.toList ++ cs.eraseIdx i

end Certificate
end SecurityTokens
