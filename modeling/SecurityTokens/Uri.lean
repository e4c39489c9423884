/-
# The names of the vocabulary

Messages name their elements, value types, token types, encodings and
algorithms by URI.  All of them are matched exactly, character by character.

| group | what it names |
| --- | --- |
| `Namespace` | the vocabulary an element or attribute belongs to |
| `ValueType` | what a key identifier or a binary token holds |
| `TokenType` | what kind of token a reference points at |
| `Encoding` | how the text of an element stands for bytes |
| `PasswordType` | whether a password is given in the clear |
| `Confirmation` | how an assertion's subject is confirmed |
| `Algorithm` | what a key is used for, and how it is derived |
-/

namespace SecurityTokens
namespace Namespace

/-- WS-Security 1.0 extensions (`wsse`). -/
def security : String :=
  "http://docs.oasis-open.org/wss/2004/01/oasis-200401-wss-wssecurity-secext-1.0.xsd"

/-- WS-Security 1.1 extensions (`wsse11`). -/
def security11 : String :=
  "http://docs.oasis-open.org/wss/oasis-wss-wssecurity-secext-1.1.xsd"

/-- WS-Security utility vocabulary (`wsu`), home of the `Id` attribute. -/
def utility : String :=
  "http://docs.oasis-open.org/wss/2004/01/oasis-200401-wss-wssecurity-utility-1.0.xsd"

/-- XML Signature (`ds`). -/
def signature : String := "http://www.w3.org/2000/09/xmldsig#"

/-- XML Signature 1.1 (`dsig11`). -/
def signature11 : String := "http://www.w3.org/2009/xmldsig11#"

/-- XML Encryption (`xenc`). -/
def encryption : String := "http://www.w3.org/2001/04/xmlenc#"

/-- SAML 1.x assertions. -/
def saml1 : String := "urn:oasis:names:tc:SAML:1.0:assertion"

/-- SAML 2.0 assertions. -/
def saml2 : String := "urn:oasis:names:tc:SAML:2.0:assertion"

/-- WS-SecureConversation of February 2005 (`wsc`). -/
def conversation0502 : String := "http://schemas.xmlsoap.org/ws/2005/02/sc"

/-- WS-SecureConversation of December 2005 (`wsc`). -/
def conversation0512 : String :=
  "http://docs.oasis-open.org/ws-sx/ws-secureconversation/200512"

/-- The two conversation vocabularies, the older one first. -/
def conversations : List String := [conversation0502, conversation0512]

end Namespace

namespace ValueType

/-- One DER certificate. -/
def x509v3 : String :=
  "http://docs.oasis-open.org/wss/2004/01/oasis-200401-wss-x509-token-profile-1.0#X509v3"

/-- A DER sequence of certificates, trust anchor first. -/
def x509PkiPath : String :=
  "http://docs.oasis-open.org/wss/2004/01/oasis-200401-wss-x509-token-profile-1.0#X509PKIPathv1"

/-- A subject key identifier. -/
def subjectKeyIdentifier : String :=
  "http://docs.oasis-open.org/wss/2004/01/oasis-200401-wss-x509-token-profile-1.0#X509SubjectKeyIdentifier"

/-- The SHA-1 of a certificate. -/
def thumbprintSha1 : String :=
  "http://docs.oasis-open.org/wss/oasis-wss-soap-message-security-1.1#ThumbprintSHA1"

/-- The SHA-1 of an encrypted key. -/
def encryptedKeySha1 : String :=
  "http://docs.oasis-open.org/wss/oasis-wss-soap-message-security-1.1#EncryptedKeySHA1"

/-- The identifier of a SAML 1.1 assertion. -/
def samlAssertionId : String :=
  "http://docs.oasis-open.org/wss/oasis-wss-saml-token-profile-1.0#SAMLAssertionID"

/-- The identifier of a SAML 2.0 assertion. -/
def saml2Id : String :=
  "http://docs.oasis-open.org/wss/oasis-wss-saml-token-profile-1.1#SAMLID"

/-- A user name token. -/
def usernameToken : String :=
  "http://docs.oasis-open.org/wss/2004/01/oasis-200401-wss-username-token-profile-1.0#UsernameToken"

end ValueType

namespace TokenType

/-- An `xenc:EncryptedKey`. -/
def encryptedKey : String :=
  "http://docs.oasis-open.org/wss/oasis-wss-soap-message-security-1.1#EncryptedKey"

/-- A SAML 1.1 assertion. -/
def saml11 : String :=
  "http://docs.oasis-open.org/wss/oasis-wss-saml-token-profile-1.1#SAMLV1.1"

/-- A SAML 2.0 assertion. -/
def saml20 : String :=
  "http://docs.oasis-open.org/wss/oasis-wss-saml-token-profile-1.1#SAMLV2.0"

end TokenType

namespace Encoding

/-- Base64 text. -/
def base64Binary : String :=
  "http://docs.oasis-open.org/wss/2004/01/oasis-200401-wss-soap-message-security-1.0#Base64Binary"

end Encoding

namespace PasswordType

/-- The password itself. -/
def text : String :=
  "http://docs.oasis-open.org/wss/2004/01/oasis-200401-wss-username-token-profile-1.0#PasswordText"

/-- A digest of nonce, creation time and password. -/
def digest : String :=
  "http://docs.oasis-open.org/wss/2004/01/oasis-200401-wss-username-token-profile-1.0#PasswordDigest"

end PasswordType

namespace Confirmation

/-- SAML 1.1: the subject proves that it holds the key. -/
def saml1HolderOfKey : String := "urn:oasis:names:tc:SAML:1.0:cm:holder-of-key"

/-- SAML 2.0: the subject proves that it holds the key. -/
def saml2HolderOfKey : String := "urn:oasis:names:tc:SAML:2.0:cm:holder-of-key"

end Confirmation

/-- A list of pairs gives for a key only what is paired with it. -/
theorem mem_of_lookup {α β : Type} [BEq α] [LawfulBEq α] {entries : List (α × β)} {key : α}
    {value : β} (found : entries.lookup key = some value) : (key, value) ∈ entries := by
  obtain ⟨before, after, split, -⟩ := List.lookup_eq_some_iff.1 found
  rw [split]
  exact List.mem_append_right before List.mem_cons_self

namespace Algorithm

/-- HMAC-SHA1 signatures. -/
def hmacSha1 : String := "http://www.w3.org/2000/09/xmldsig#hmac-sha1"

/-- P_SHA1 as WS-SecureConversation of February 2005 names it. -/
def pSha1Of0502 : String := "http://schemas.xmlsoap.org/ws/2005/02/sc/dk/p_sha1"

/-- P_SHA1 as WS-SecureConversation of December 2005 names it. -/
def pSha1Of0512 : String :=
  "http://docs.oasis-open.org/ws-sx/ws-secureconversation/200512/dk/p_sha1"

/-- The symmetric algorithms of XML Signature and XML Encryption, each with
the length of its key in bytes. -/
def keyLengths : List (String × Nat) :=
  [("http://www.w3.org/2001/04/xmlenc#tripledes-cbc", 24),
   ("http://www.w3.org/2001/04/xmlenc#kw-tripledes", 24),
   ("http://www.w3.org/2001/04/xmlenc#aes128-cbc", 16),
   ("http://www.w3.org/2009/xmlenc11#aes128-gcm", 16),
   ("http://www.w3.org/2001/04/xmlenc#kw-aes128", 16),
   ("http://www.w3.org/2001/04/xmlenc#aes192-cbc", 24),
   ("http://www.w3.org/2009/xmlenc11#aes192-gcm", 24),
   ("http://www.w3.org/2001/04/xmlenc#kw-aes192", 24),
   ("http://www.w3.org/2001/04/xmlenc#aes256-cbc", 32),
   ("http://www.w3.org/2009/xmlenc11#aes256-gcm", 32),
   ("http://www.w3.org/2001/04/xmlenc#kw-aes256", 32),
   (hmacSha1, 20),
   ("http://www.w3.org/2001/04/xmldsig-more#hmac-sha224", 28),
   ("http://www.w3.org/2001/04/xmldsig-more#hmac-sha256", 32),
   ("http://www.w3.org/2001/04/xmldsig-more#hmac-sha384", 48),
   ("http://www.w3.org/2001/04/xmldsig-more#hmac-sha512", 64),
   ("http://www.w3.org/2001/04/xmldsig-more#hmac-md5", 16)]

/-- The key length of a symmetric algorithm, if it is a known one. -/
def keyLength? (uri : String) : Option Nat := keyLengths.lookup uri

/-- Every known key length is positive. -/
theorem keyLength?_pos {uri : String} {n : Nat} (h : keyLength? uri = some n) : 0 < n := by
  have hall : ∀ e ∈ keyLengths, 0 < e.2 := by simp [keyLengths]
  exact hall (uri, n) (mem_of_lookup h)

end Algorithm
end SecurityTokens
