/-
# Errors

An error is a fault of one of the groups, and ends the resolution of the
reference it arises in.  Its text begins with the heading of the group.
-/

import SecurityTokens.Base64
import SecurityTokens.Fault

namespace SecurityTokens

/-- Why a token, a reference or a message is refused. -/
inductive Error where
  | malformedReference (fault : ReferenceFault)
  | unsupportedToken (fault : UnsupportedToken)
  | violation (violation : Violation)
  | notFound (missing : Missing)
  | callbackFailed (id reason : String)
  | derivation (fault : DerivationFault)
  | configuration (fault : Misconfiguration)
  | xmlSyntax
  | xmlStructure (fault : StructureFault)
  | base64 (what : String) (fault : Base64.Fault)
  | certificate (fault : CertificateFault)
  | key (fault : KeyFault)
  | file (fault : FileFault)
deriving DecidableEq, Repr

namespace Error

/-- The text of an error. -/
def message : Error → String
  | malformedReference fault => "malformed SecurityTokenReference: " ++ fault.message
  | unsupportedToken fault => "unsupported security token: " ++ fault.message
  | violation v => "Basic Security Profile violation: " ++ v.message
  | notFound missing => "not found: " ++ missing.message
  | callbackFailed id _ => "secret callback failed for " ++ id
  | derivation fault => "key derivation failed: " ++ fault.message
  | configuration fault => "configuration error: " ++ fault.message
  | xmlSyntax => "XML parsing error"
  | xmlStructure fault => "invalid XML structure: " ++ fault.message
  | base64 what fault => "base64 decode error: " ++ what ++ ": " ++ fault.message
  | certificate fault => "certificate error: " ++ fault.message
  | key fault => "key error: " ++ fault.message
  | file fault => "I/O error: " ++ fault.message

/-- Whether the error reports a breach of the Basic Security Profile. -/
def isViolation : Error → Bool
  | violation _ => true
  | _ => false

end Error

/-- The bytes of an element's base64 text; `what` names the element in the
error. -/
def decodeBase64Text (what text : String) : Except Error Bytes :=
  (Base64.decodeText text).mapError (Error.base64 what)

end SecurityTokens
