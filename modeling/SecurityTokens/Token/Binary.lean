/-
# Binary tokens

A `wsse:BinarySecurityToken` holds bytes as base64 text.  Its value type tells
how they hold certificates.

| value type | the bytes are |
| --- | --- |
| X509v3 | one certificate |
| X509PKIPathv1 | a path of certificates |
-/

import SecurityTokens.Certificate.Store
import SecurityTokens.Xml.Document

namespace SecurityTokens

/-- A binary token. -/
structure BinaryToken where
  id : Option String
  valueType : String
  data : Bytes
deriving DecidableEq, Repr

namespace BinaryToken

/-- The token a `wsse:BinarySecurityToken` stands for. -/
def ofElement (e : Xml.Element) : Except Error BinaryToken := do
  if !e.isNamed Namespace.security "BinarySecurityToken" then
    throw (.xmlStructure (.expected "wsse:BinarySecurityToken"))
  let some valueType := e.attribute? "ValueType"
    | throw (.xmlStructure (.without "BinarySecurityToken" "ValueType"))
  match (e.attribute? "EncodingType").filter (· ≠ Encoding.base64Binary) with
  | some encoding => throw (.unsupportedToken (.encoding encoding))
  | none => pure ()
  let data ← decodeBase64Text "BinarySecurityToken" e.text
  return { id := e.id?, valueType, data }

/-- How the bytes hold certificates. -/
def encoding (t : BinaryToken) : Except Error CertificateEncoding :=
  if t.valueType = ValueType.x509v3 then .ok .single
  else if t.valueType = ValueType.x509PkiPath then .ok .path
  else .error (.unsupportedToken (.valueType t.valueType))

/-- The certificates of the token, read by a source. -/
def certificates (t : BinaryToken) (source : CertificateSource) :
    Except Error (List Certificate) := do
  source.ofToken (← t.encoding) t.data

end BinaryToken
end SecurityTokens
