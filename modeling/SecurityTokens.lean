import SecurityTokens.Assertion.Basic
import SecurityTokens.Assertion.Confirmation
import SecurityTokens.Assertion.Version
import SecurityTokens.Base64
import SecurityTokens.Bytes
import SecurityTokens.Bytes.Decimal
import SecurityTokens.Certificate.Basic
import SecurityTokens.Certificate.Leaf
import SecurityTokens.Certificate.Store
import SecurityTokens.CommandLine.Arguments
import SecurityTokens.CommandLine.Basic
import SecurityTokens.CommandLine.Command
import SecurityTokens.CommandLine.Directory
import SecurityTokens.CommandLine.Report
import SecurityTokens.Credential
import SecurityTokens.Der.ObjectId
import SecurityTokens.Der.RegisteredName
import SecurityTokens.Der.Tlv
import SecurityTokens.Error
import SecurityTokens.Fault
import SecurityTokens.Header.Pass
import SecurityTokens.Header.Processing
import SecurityTokens.Header.References
import SecurityTokens.Hex
import SecurityTokens.Hmac
import SecurityTokens.KeyDerivation
import SecurityTokens.KeyInfo
import SecurityTokens.Main
import SecurityTokens.Pem
import SecurityTokens.Profile
import SecurityTokens.Proofs.Armour
import SecurityTokens.Proofs.Base64
import SecurityTokens.Proofs.Canonical
import SecurityTokens.Proofs.CanonicalText
import SecurityTokens.Proofs.CertificateNames
import SecurityTokens.Proofs.Chains
import SecurityTokens.Proofs.CheckOrder
import SecurityTokens.Proofs.Comments
import SecurityTokens.Proofs.Conformance
import SecurityTokens.Proofs.Contexts
import SecurityTokens.Proofs.Der
import SecurityTokens.Proofs.Disclosure
import SecurityTokens.Proofs.Entries
import SecurityTokens.Proofs.Fitting
import SecurityTokens.Proofs.GivenSecrets
import SecurityTokens.Proofs.Identifiers
import SecurityTokens.Proofs.Interruption
import SecurityTokens.Proofs.IssuerMatch
import SecurityTokens.Proofs.KeyLengths
import SecurityTokens.Proofs.KeyReferences
import SecurityTokens.Proofs.KeyWindows
import SecurityTokens.Proofs.Layout
import SecurityTokens.Proofs.LeadingCertificate
import SecurityTokens.Proofs.LeafChoice
import SecurityTokens.Proofs.Loaded
import SecurityTokens.Proofs.Loading
import SecurityTokens.Proofs.MoveToFront
import SecurityTokens.Proofs.NamedMaterial
import SecurityTokens.Proofs.Origin
import SecurityTokens.Proofs.PasswordKeys
import SecurityTokens.Proofs.Paths
import SecurityTokens.Proofs.Places
import SecurityTokens.Proofs.Precedence
import SecurityTokens.Proofs.PrintedNames
import SecurityTokens.Proofs.ReadAgain
import SecurityTokens.Proofs.ReadText
import SecurityTokens.Proofs.Record
import SecurityTokens.Proofs.Recorded
import SecurityTokens.Proofs.Rederivation
import SecurityTokens.Proofs.ReferenceForms
import SecurityTokens.Proofs.ReferenceOrder
import SecurityTokens.Proofs.Rewritten
import SecurityTokens.Proofs.Rules
import SecurityTokens.Proofs.SerialNumbers
import SecurityTokens.Proofs.Settled
import SecurityTokens.Proofs.Shapes
import SecurityTokens.Proofs.Spacing
import SecurityTokens.Proofs.Spellings
import SecurityTokens.Proofs.StoreOrder
import SecurityTokens.Proofs.Stream
import SecurityTokens.Proofs.Strictness
import SecurityTokens.Proofs.SubjectKey
import SecurityTokens.Proofs.TokenFields
import SecurityTokens.Proofs.Trust
import SecurityTokens.Proofs.Unverified
import SecurityTokens.Proofs.Usages
import SecurityTokens.PublicKey.Basic
import SecurityTokens.PublicKey.Curve
import SecurityTokens.PublicKey.Rsa
import SecurityTokens.Reference.Basic
import SecurityTokens.Reference.KeyIdentifierType
import SecurityTokens.Resolution.Basic
import SecurityTokens.Resolution.Context
import SecurityTokens.Resolution.KeySizing
import SecurityTokens.Resolution.Lookup
import SecurityTokens.Secret.Asking
import SecurityTokens.Secret.Table
import SecurityTokens.Sha1
import SecurityTokens.Text.Blank
import SecurityTokens.Text.CharacterRange
import SecurityTokens.Text.Decimal
import SecurityTokens.Text.Description
import SecurityTokens.Text.Letter
import SecurityTokens.Text.Lowercase
import SecurityTokens.Text.Quoted
import SecurityTokens.Text.Unprintable
import SecurityTokens.Text.Utf8
import SecurityTokens.Token.Binary
import SecurityTokens.Token.DerivedKey
import SecurityTokens.Token.Field
import SecurityTokens.Token.Processed
import SecurityTokens.Token.Username
import SecurityTokens.Uri
import SecurityTokens.X509.Name
import SecurityTokens.X509.NameComparison
import SecurityTokens.X509.Record
import SecurityTokens.X509.Time
import SecurityTokens.Xml.Character
import SecurityTokens.Xml.CharacterData
import SecurityTokens.Xml.Document
import SecurityTokens.Xml.Element
import SecurityTokens.Xml.Token
import SecurityTokens.Xml.Tree
