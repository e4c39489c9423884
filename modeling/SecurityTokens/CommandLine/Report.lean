/-
# Reports

What the program prints about credentials, and about itself.
-/

import SecurityTokens.Credential
import SecurityTokens.Header.References

namespace SecurityTokens
namespace CommandLine

/-- Lines, each with its end. -/
def lines (ls : List String) : String := String.join (ls.map (· ++ "\n"))

/-- The line on the token an identity was taken from. -/
def principalTokenLine : PrincipalToken → String
  | .username _ => "  principal token: UsernameToken"
  | .derivedKey p =>
    "  principal token: DerivedKeyToken (offset " ++ toString p.offset ++ ", length "
      ++ toString p.length ++ ")"
  | .assertion a => "  principal token: SAML " ++ a.version.label ++ " assertion"

/-- The lines on a certificate. -/
def certificateLines (c : Certificate) : List String :=
  ["  certificate: " ++ c.subject, "    issuer: " ++ c.issuer, "    serial: " ++ c.serialNumber]

/-- The lines on a credential. -/
def credentialLines (c : Credential) : List String :=
  ["  principal: " ++ c.principal.name] ++ (c.principal.token.map principalTokenLine).toList
    ++ c.certificates.flatMap certificateLines
    ++ (c.publicKey.map fun key => "  public key: " ++ key.algorithmName).toList
    ++ (c.secretKey.map fun secret => "  secret key: " ++ Hex.encode secret).toList
    ++ ["  trusted: " ++ Text.describeBool c.trusted]

/-- The line a reference is announced by. -/
def referenceLine (site : ReferenceSite) (r : TokenReference) : String :=
  site.label ++ " -> " ++ r.lookupId?.getD "X509IssuerSerial"

/-- The name of the program with its version. -/
def versionLines : List String := ["wssec 0.1.0"]

/-- What the program can do. -/
def infoLines : List String :=
  ["wssec: WS-Security SecurityTokenReference resolution",
   "",
   "Reference forms:",
   "  Direct Reference (local #id and external URI)",
   "  KeyIdentifier",
   "  X509Data / X509IssuerSerial",
   "",
   "KeyIdentifier types:",
   "  X509v3, X509SubjectKeyIdentifier, ThumbprintSHA1",
   "  EncryptedKeySHA1",
   "  SAMLAssertionID (SAML 1.1), SAMLID (SAML 2.0)",
   "",
   "Tokens:",
   "  BinarySecurityToken (X509v3, X509PKIPathv1)",
   "  UsernameToken (Profile 1.1 derived key, WSE secret)",
   "  DerivedKeyToken (WS-SC 2005/02 and 2005/12, P_SHA1)",
   "  SecurityContextToken, EncryptedKey",
   "  SAML 1.1 / 2.0 assertions (holder-of-key)",
   "",
   "Compliance:",
   "  Basic Security Profile 1.1 checks (disable with --permissive)"]

/-- How the program is used. -/
def helpLines : List String :=
  ["wssec: WS-Security SecurityTokenReference resolution",
   "",
   "Usage: wssec [-v] [-h] [-V] COMMAND",
   "",
   "Commands:",
   "  resolve [--cert FILE] [--secret ID=HEX] [--password USER=PASSWORD] [--algorithm URI]",
   "          [--secret-key-length BYTES] [--permissive] [--id-attr NAME] FILE",
   "  derive  --secret HEX --nonce BASE64 [--label TEXT] [--offset BYTES] [--length BYTES]",
   "  info",
   "  help    [COMMAND]"]

end CommandLine
end SecurityTokens
