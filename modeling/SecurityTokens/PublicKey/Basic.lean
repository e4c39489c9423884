/-
# Public keys

A public key is an RSA key or a point of an elliptic curve.  Certificates hold
it with its algorithm, under which it is read:

| algorithm | parameters | bits |
| --- | --- | --- |
| 1.2.840.113549.1.1.1 | NULL | a sequence of modulus and exponent |
| 1.2.840.10045.2.1 | the curve | the point |
-/

import SecurityTokens.PublicKey.Curve
import SecurityTokens.PublicKey.Rsa
import SecurityTokens.X509.Record

namespace SecurityTokens

open Der (Tlv ObjectId)

/-- A public key. -/
inductive PublicKey where
  | rsa (key : RsaKey)
  | elliptic (point : CurvePoint)
deriving DecidableEq

/-- The object identifier of RSA keys. -/
def RsaKey.objectId : ObjectId := ⟨[0x2A, 0x86, 0x48, 0x86, 0xF7, 0x0D, 0x01, 0x01, 0x01]⟩

/-- The modulus and the exponent of an encoded key. -/
def RsaKey.parts? (bs : Bytes) : Option (Nat × Nat) :=
  match (Tlv.ofBytes? bs).bind Tlv.sequence? with
  | some [modulus, exponent] => do return (← Der.natural? modulus, ← Der.natural? exponent)
  | _ => none

/-- The RSA key that key bits stand for. -/
def RsaKey.ofBytes? (bs : Bytes) : Option RsaKey := do
  let (modulus, exponent) ← parts? bs
  (ofParts modulus exponent).toOption

/-- The object identifier of keys on elliptic curves. -/
def CurvePoint.objectId : ObjectId := ⟨[0x2A, 0x86, 0x48, 0xCE, 0x3D, 0x02, 0x01]⟩

/-- The curve that the parameters of an algorithm name. -/
def Curve.ofParameters? (parameters : Tlv) : Option Curve :=
  (ObjectId.ofTlv? parameters).bind fun id => [p256, p384].find? (·.objectId == id.content)

namespace PublicKey

/-- The key that bits stand for under an algorithm. -/
def ofBits? (algorithm : X509.AlgorithmIdentifier) (bits : Bytes) : Option PublicKey :=
  if algorithm.id = RsaKey.objectId then
    if algorithm.parameters = some ⟨0x05, []⟩ then (RsaKey.ofBytes? bits).map rsa else none
  else if algorithm.id = CurvePoint.objectId then do
    let curve ← algorithm.parameters.bind Curve.ofParameters?
    (CurvePoint.ofBytes? curve bits).map elliptic
  else none

/-- The key of a certificate. -/
def ofSubjectKey (key : X509.SubjectKey) : Except Error PublicKey :=
  match key.bits.wholeBytes?.bind (ofBits? key.algorithm) with
  | some k => .ok k
  | none => .error (.key .unsupportedKeyInfo)

/-- The key that an encoded `SubjectPublicKeyInfo` holds. -/
def ofDer (bs : Bytes) : Except Error PublicKey :=
  match (Tlv.ofBytes? bs).bind X509.SubjectKey.ofTlv? with
  | some key => ofSubjectKey key
  | none => .error (.key .unsupportedKeyInfo)

/-- The name of the key's algorithm. -/
def algorithmName : PublicKey → String
  | rsa _ => "RSA"
  | elliptic point => "EC " ++ point.curve.name

/-- The description of a key. -/
def describe : PublicKey → String
  | rsa key => key.describe
  | elliptic point => "EC " ++ point.curve.name ++ " public key"

end PublicKey
end SecurityTokens
