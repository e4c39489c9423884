/-
# Tables of secrets

A table answers requests from secrets and passwords entered before.  The two
are kept apart: a request for a secret key is answered from the secrets and one
for a password from the passwords, a password being the bytes of its text.  Of
two entries for one identifier the later counts.
-/

import SecurityTokens.Secret.Asking
import SecurityTokens.Text.Description

namespace SecurityTokens

/-- A table of secrets and passwords; of several entries for one identifier the
first in the list counts. -/
structure SecretTable where
  secrets : List (String × Bytes)
  passwords : List (String × String)
deriving DecidableEq, Repr

namespace SecretTable

/-- A table without entries. -/
def empty : SecretTable := ⟨[], []⟩

/-- Enters a secret. -/
def insertSecret (t : SecretTable) (id : String) (secret : Bytes) : SecretTable :=
  { t with secrets := (id, secret) :: t.secrets.filter (·.1 ≠ id) }

/-- Enters the password of a user. -/
def insertPassword (t : SecretTable) (username password : String) : SecretTable :=
  { t with passwords := (username, password) :: t.passwords.filter (·.1 ≠ username) }

/-- The answer to a request. -/
def answer? (t : SecretTable) (request : SecretRequest) : Option Bytes :=
  match request.usage with
  | .secretKey => t.secrets.lookup request.id
  | .password => (t.passwords.lookup request.id).map Bytes.ofText

/-- The table as a callback, which never fails. -/
def callback (t : SecretTable) : SecretCallback := fun request => .ok (t.answer? request)

/-- The description of a table, which shows identifiers alone. -/
def describe (t : SecretTable) : String :=
  Text.describeRecord "SecretMap"
    [("secrets", Text.describeList (t.secrets.map (Text.quoted ·.1))),
     ("passwords", Text.describeList (t.passwords.map (Text.quoted ·.1)))]

/-- What was entered last for an identifier is the answer. -/
theorem answer?_insertSecret (t : SecretTable) (id : String) (secret : Bytes)
    (hint : Option String) :
    (t.insertSecret id secret).answer? ⟨id, hint, .secretKey⟩ = some secret := by
  simp [insertSecret, answer?]

end SecretTable
end SecurityTokens
