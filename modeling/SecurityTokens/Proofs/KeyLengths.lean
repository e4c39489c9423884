/-
# Keys are never empty

Whatever derives or hands over a key gives at least one byte, whatever secret,
password or answer it starts from.

| key | length |
| --- | --- |
| a window of the stream of a secret | as asked for, which zero is refused for |
| the iterated digest of a password | twenty bytes |
| an answer of the callback | not zero, since an empty answer counts as none |

The certificates of a binary token are one or more as well, when a store reads
them: an encoding stands for one, and an empty path is refused.
-/

import SecurityTokens.Proofs.Success

namespace SecurityTokens
namespace KeyDerivation

variable {secret seed key : Bytes} {offset length : Nat}

/-- A window of the stream: it is given just if the secret is not empty and the window
is neither empty nor beyond the limits. -/
theorem pSha1_eq_ok_iff : pSha1 secret seed offset length = .ok key ↔
    secret ≠ [] ∧ 0 < length ∧ length ≤ maxLength ∧ offset + length ≤ maxPosition ∧
      key = ((blocksAfter secret seed ((offset + length + 19) / 20) seed).drop offset).take
        length := by
  constructor
  · intro h
    simp only [pSha1] at h
    split at h
    next => cases h
    next filled =>
      split at h
      next => cases h
      next positive =>
        obtain ⟨_, within, h⟩ := Except.bind_eq_ok_iff.1 h
        obtain ⟨short, reached⟩ := checkWindow_eq_ok.1 within
        exact ⟨fun empty => filled (List.isEmpty_iff.2 empty), Nat.pos_of_ne_zero positive, short,
          reached, (Except.ok.inj h).symm⟩
  · rintro ⟨filled, positive, short, reached, rfl⟩
    have notEmpty : secret.isEmpty = false := List.isEmpty_eq_false_iff.2 filled
    simp only [pSha1, notEmpty, Bool.false_eq_true, if_false, Nat.ne_of_gt positive]
    exact Except.bind_eq_ok_iff.2 ⟨(), checkWindow_eq_ok.2 ⟨short, reached⟩, rfl⟩

/-- A window of the stream is as long as asked for. -/
theorem length_of_pSha1 (h : pSha1 secret seed offset length = .ok key) : key.length = length := by
  obtain ⟨-, -, -, -, rfl⟩ := pSha1_eq_ok_iff.1 h
  rw [List.length_take, List.length_drop, length_blocksAfter]
  omega

/-- So it is not empty. -/
theorem ne_nil_of_pSha1 (h : pSha1 secret seed offset length = .ok key) : key ≠ [] := by
  have positive := (pSha1_eq_ok_iff.1 h).2.1
  rw [← length_of_pSha1 h] at positive
  exact List.ne_nil_of_length_pos positive

theorem ne_nil_of_derive {spec : Spec} (h : derive spec = .ok key) : key ≠ [] := by
  unfold derive at h
  split at h
  exact ne_nil_of_pSha1 h

/-- A digest is left after any positive number of iterations. -/
theorem length_iterateDigest {count : Nat} (positive : 0 < count) (bs : Bytes) :
    (iterateDigest count bs).length = 20 := by
  induction count generalizing bs with
  | zero => cases positive
  | succ count ih =>
    rw [iterateDigest]
    cases count with
    | zero => exact Sha1.length_digest bs
    | succ count => exact ih (Nat.succ_pos count) _

/-- The key of a password: it is given just if the password is not empty and the number of
iterations is within the limits. -/
theorem passwordKey_eq_ok_iff {password salt : Bytes} {iterations : Nat} :
    passwordKey password salt iterations = .ok key ↔
      password ≠ [] ∧ (0 < iterations ∧ iterations ≤ maxIterations) ∧
        key = iterateDigest iterations (password ++ salt) := by
  constructor
  · intro h
    simp only [passwordKey] at h
    split at h
    next => cases h
    next filled =>
      obtain ⟨_, counted, h⟩ := Except.bind_eq_ok_iff.1 h
      exact ⟨fun empty => filled (List.isEmpty_iff.2 empty), checkIterations_eq_ok.1 counted,
        (Except.ok.inj h).symm⟩
  · rintro ⟨filled, counted, rfl⟩
    have notEmpty : password.isEmpty = false := List.isEmpty_eq_false_iff.2 filled
    simp only [passwordKey, notEmpty, Bool.false_eq_true, if_false]
    exact Except.bind_eq_ok_iff.2 ⟨(), checkIterations_eq_ok.2 counted, rfl⟩

theorem ne_nil_of_passwordKey {password salt : Bytes} {iterations : Nat}
    (h : passwordKey password salt iterations = .ok key) : key ≠ [] := by
  obtain ⟨-, ⟨positive, -⟩, rfl⟩ := passwordKey_eq_ok_iff.1 h
  exact List.ne_nil_of_length_eq_add_one (length_iterateDigest positive (password ++ salt))

end KeyDerivation
namespace UsernameToken

variable {t : UsernameToken} {password key : Bytes}

theorem ne_nil_of_derivedKey (h : t.derivedKey password = .ok key) : key ≠ [] := by
  unfold derivedKey at h
  split at h
  next => exact KeyDerivation.ne_nil_of_passwordKey h
  next => cases h

theorem ne_nil_of_secretKey {length : Nat} (h : t.secretKey password length = .ok key) :
    key ≠ [] := by
  unfold secretKey at h
  split at h
  next => exact KeyDerivation.ne_nil_of_pSha1 h
  next => cases h
  next => cases h

/-- A user name token gives no empty key, in neither of its two ways. -/
theorem ne_nil_of_keyFor {sizing : KeySizing} (h : t.keyFor sizing password = .ok key) :
    key ≠ [] := by
  unfold keyFor at h
  split at h
  next => exact ne_nil_of_derivedKey h
  next =>
    obtain ⟨length, -, h⟩ := Except.bind_eq_ok_iff.1 h
    exact ne_nil_of_secretKey h

end UsernameToken

/-- A derived key token gives no empty key. -/
theorem DerivedKeyToken.ne_nil_of_deriveKey {t : DerivedKeyToken} {length : Nat}
    {secret key : Bytes} (h : t.deriveKey length secret = .ok key) : key ≠ [] := by
  obtain ⟨offset, -, h⟩ := Except.bind_eq_ok_iff.1 h
  exact KeyDerivation.ne_nil_of_derive h

/-- An answer is not empty. -/
theorem Asking.ne_nil_of_ask {callback : SecretCallback} {request : SecretRequest}
    {secret : Bytes} (h : (ask callback request).result = .ok (some secret)) : secret ≠ [] := by
  unfold ask at h
  split at h
  next answer _ =>
    have kept : answer.filter (· ≠ []) = some secret := Except.ok.inj h
    simpa using (Option.filter_eq_some_iff.1 kept).2
  next => cases h

/-- Neither is one that is asked for in a context. -/
theorem Context.ne_nil_of_request {ctx : Context} {request : SecretRequest} {secret : Bytes}
    (h : (ctx.request request).result = .ok (some secret)) : secret ≠ [] := by
  unfold Context.request at h
  split at h
  next => exact Asking.ne_nil_of_ask h
  next => cases h

/-- An encoding that is read stands for at least one certificate. -/
theorem CertificateEncoding.ne_nil_of_read {encoding : CertificateEncoding} {bs : Bytes}
    {certificates : List Certificate} (h : encoding.read bs = .ok certificates) :
    certificates ≠ [] := by
  cases encoding with
  | single =>
    simp only [read] at h
    cases held : Certificate.ofDer bs with
    | error e =>
      rw [held] at h
      cases h
    | ok c =>
      rw [held] at h
      cases h
      exact List.cons_ne_nil c []
  | path =>
    simp only [read, Certificate.ofPkiPath] at h
    split at h
    next => cases h
    next => cases h
    next records filled _ =>
      obtain rfl := Except.ok.inj h
      exact fun none => filled (List.reverse_eq_nil_iff.1 (List.map_eq_nil_iff.1 none))

/-- Neither is what a binary token holds, read by a store. -/
theorem BinaryToken.ne_nil_of_certificates {t : BinaryToken} {store : CertificateStore}
    {certificates : List Certificate} (h : t.certificates store.source = .ok certificates) :
    certificates ≠ [] := by
  obtain ⟨encoding, -, h⟩ := Except.bind_eq_ok_iff.1 h
  exact CertificateEncoding.ne_nil_of_read h

end SecurityTokens
