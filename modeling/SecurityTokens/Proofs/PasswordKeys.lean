/-
# Keys from passwords

A reference to a recorded user name token leads to a key that is made from a password.

| the element of the token | the password |
| --- | --- |
| has a password that is not a digest | that password |
| has none, or a digest of it | what is answered for the user, unless that is empty |

| the token has | the key |
| --- | --- |
| salt and iteration count `n` | the digest, taken `n` times, of password and salt |
| else nonce and creation time | the beginning of the stream of the password |
| neither | none |

A digest of the password is never made use of: tokens with different ones lead to the same
(`UsernameToken.resolve_eq_of_digest`).
-/

import Mathlib.Logic.Function.Iterate
import SecurityTokens.Proofs.Recorded
import SecurityTokens.Proofs.Stream
import SecurityTokens.Proofs.TokenFields

namespace SecurityTokens

open KeyDerivation (window)
open Xml (Element)

/-! ## The two ways to a key -/

namespace KeyDerivation

theorem iterateDigest_eq_iterate (count : Nat) (bs : Bytes) :
    iterateDigest count bs = Sha1.digest^[count] bs := by
  induction count generalizing bs with
  | zero => rfl
  | succ count ih => exact ih (Sha1.digest bs)

end KeyDerivation

namespace UsernameToken

variable {t t' : UsernameToken} {e e' : Element} {ctx : Context} {sizing : KeySizing}
  {password key : Bytes}

theorem not_isDerivedKey_iff :
    ¬ t.isDerivedKey = true ↔ t.salt = none ∨ t.iterations = none := by
  unfold isDerivedKey
  cases t.salt <;> cases t.iterations <;> simp

/-- The key that a token gives with a password. -/
inductive Key (t : UsernameToken) (sizing : KeySizing) (password : Bytes) : Bytes → Prop
  | iterated {salt count} (salted : t.salt = some salt) (counted : t.iterations = some count) :
      Key t sizing password (Sha1.digest^[count] (password ++ salt))
  | expanded {nonce created length} (notIterated : t.salt = none ∨ t.iterations = none)
      (fresh : t.nonce = some nonce) (dated : t.created = some created)
      (sized : sizing.SecretLength length) (short : length ≤ 1024) :
      Key t sizing password (window password
        (Bytes.ofText KeyDerivation.conversationLabel ++ nonce ++ Bytes.ofText created) 0 length)

theorem derivedKey_eq_ok_iff : t.derivedKey password = .ok key ↔ ∃ salt count,
    t.salt = some salt ∧ t.iterations = some count ∧
      KeyDerivation.passwordKey password salt count = .ok key := by
  unfold derivedKey
  cases t.salt <;> cases t.iterations <;> simp

theorem secretKey_eq_ok_iff {length : Nat} : t.secretKey password length = .ok key ↔
    ∃ nonce created, t.nonce = some nonce ∧ t.created = some created ∧
      KeyDerivation.passwordSecret password nonce (Bytes.ofText created) length = .ok key := by
  unfold secretKey
  cases t.nonce <;> cases t.created <;> simp

/-- A token that was read gives a key just if the password is not empty and the token has
what one of the two ways needs. -/
theorem keyFor_eq_ok_iff
    (counted : ∀ n, t.iterations = some n → 0 < n ∧ n ≤ KeyDerivation.maxIterations) :
    t.keyFor sizing password = .ok key ↔ password ≠ [] ∧ t.Key sizing password key := by
  constructor
  · intro h
    unfold keyFor at h
    split at h
    next =>
      obtain ⟨salt, count, salted, given, h⟩ := derivedKey_eq_ok_iff.1 h
      obtain ⟨filled, -, rfl⟩ := KeyDerivation.passwordKey_eq_ok_iff.1 h
      rw [KeyDerivation.iterateDigest_eq_iterate]
      exact ⟨filled, .iterated salted given⟩
    next notDerived =>
      obtain ⟨length, sized, h⟩ := Except.bind_eq_ok_iff.1 h
      obtain ⟨nonce, created, fresh, dated, h⟩ := secretKey_eq_ok_iff.1 h
      obtain ⟨admits, rfl⟩ := KeyDerivation.pSha1_eq_window_iff.1 h
      exact ⟨admits.filled, .expanded (not_isDerivedKey_iff.1 notDerived) fresh dated
        (KeySizing.secretKeyLength_eq_ok_iff.1 sized) admits.short⟩
  · rintro ⟨filled, gives⟩
    unfold keyFor
    cases gives with
    | @iterated salt count salted given =>
      have derived : t.isDerivedKey = true := by
        rw [isDerivedKey, salted, given]
        rfl
      rw [if_pos derived, ← KeyDerivation.iterateDigest_eq_iterate]
      exact derivedKey_eq_ok_iff.2 ⟨salt, count, salted, given,
        KeyDerivation.passwordKey_eq_ok_iff.2 ⟨filled, counted count given, rfl⟩⟩
    | @expanded nonce created length notIterated fresh dated sized short =>
      rw [if_neg (not_isDerivedKey_iff.2 notIterated)]
      refine Except.bind_eq_ok_iff.2 ⟨length, KeySizing.secretKeyLength_eq_ok_iff.2 sized, ?_⟩
      exact secretKey_eq_ok_iff.2 ⟨nonce, created, fresh, dated,
        KeyDerivation.pSha1_eq_window_iff.2 ⟨⟨filled, sized.pos, short, by omega⟩, rfl⟩⟩

end UsernameToken

/-! ## The password -/

/-- A password element that holds a digest of the password. -/
def Password.IsDigest (child : Element) : Prop :=
  child.attribute? "Type" = some PasswordType.digest

/-- What is read from a password element is the password, unless it is a digest. -/
theorem Password.cleartext?_ofElement_eq_some_iff {child : Element} {text : String} :
    (Password.ofElement child).cleartext? = some text ↔ ¬ IsDigest child ∧ text = child.text := by
  have clear : PasswordType.text ≠ PasswordType.digest := by decide
  unfold ofElement cleartext? IsDigest
  cases child.attribute? "Type" with
  | none => simp [clear, eq_comm]
  | some type => simp [eq_comm]

/-- A secret is known just if there is a callback and it answers with one that is not
empty. -/
theorem Context.result_request_eq_ok_some_iff {ctx : Context} {request : SecretRequest}
    {secret : Bytes} : (ctx.request request).result = .ok (some secret) ↔
      ∃ callback, ctx.callback = some callback ∧ callback request = .ok (some secret) ∧
        secret ≠ [] := by
  unfold Context.request
  cases ctx.callback with
  | none => simp
  | some callback =>
    unfold Asking.ask
    cases answered : callback request with
    | error reason => simp [answered]
    | ok answer => simp [answered, Option.filter_eq_some_iff]

namespace UsernameToken

variable {t t' : UsernameToken} {e e' : Element} {ctx : Context} {password : Bytes}

/-- The password that the key of a token is made from: what its element holds, unless that is
a digest, and otherwise what is answered for the user. -/
inductive PasswordFor (ctx : Context) (e : Element) (t : UsernameToken) : Bytes → Prop
  | clear {child} (held : e.child? Namespace.security "Password" = some child)
      (inClear : ¬ Password.IsDigest child) : PasswordFor ctx e t (Bytes.ofText child.text)
  | answered {callback password}
      (notClear : ∀ child, e.child? Namespace.security "Password" = some child →
        Password.IsDigest child)
      (configured : ctx.callback = some callback)
      (answer : callback ⟨t.username, t.password.map (·.type), .password⟩ = .ok (some password))
      (filled : password ≠ []) : PasswordFor ctx e t password

/-- The token with another password, or with none. -/
def withPassword (t : UsernameToken) (password : Option Password) : UsernameToken :=
  { t with password }

namespace Reads

theorem cleartextPassword?_eq_some_iff (read : t.Reads e) {text : String} :
    t.cleartextPassword? = some text ↔ ∃ child,
      e.child? Namespace.security "Password" = some child ∧ ¬ Password.IsDigest child ∧
        text = child.text := by
  rw [cleartextPassword?, read.password]
  cases e.child? Namespace.security "Password" with
  | none => simp
  | some child => simp [Password.cleartext?_ofElement_eq_some_iff]

/-- A token that was read gets the password that its element and the callback tell. -/
theorem result_passwordOf_eq_ok_iff (read : t.Reads e) :
    (ctx.passwordOf t).result = .ok password ↔ PasswordFor ctx e t password := by
  unfold Context.passwordOf
  cases clear : t.cleartextPassword? with
  | some text =>
    obtain ⟨child, held, inClear, rfl⟩ := read.cleartextPassword?_eq_some_iff.1 clear
    rw [Asking.result_pure_eq_ok_iff]
    constructor
    · rintro rfl
      exact .clear held inClear
    · intro h
      cases h with
      | clear held' _ =>
        obtain rfl := Option.some.inj (held.symm.trans held')
        rfl
      | answered notClear => exact absurd (notClear child held) inClear
  | none =>
    have notClear : ∀ child, e.child? Namespace.security "Password" = some child →
        Password.IsDigest child := by
      intro child held
      by_cases digest : Password.IsDigest child
      · exact digest
      · have inClear := read.cleartextPassword?_eq_some_iff.2 ⟨child, held, digest, rfl⟩
        cases clear.symm.trans inClear
    simp only [Asking.result_bind_eq_ok_iff, Asking.result_require_eq_ok_iff]
    constructor
    · rintro ⟨_, answered, rfl⟩
      obtain ⟨callback, configured, answer, filled⟩ :=
        Context.result_request_eq_ok_some_iff.1 answered
      exact .answered notClear configured answer filled
    · intro h
      cases h with
      | clear held inClear => exact absurd (notClear _ held) inClear
      | answered _ configured answer filled =>
        exact ⟨_, Context.result_request_eq_ok_some_iff.2 ⟨_, configured, answer, filled⟩, rfl⟩

/-- Another password may stand in an element that is the same in all else. -/
theorem withPassword (read : t.Reads e)
    (same : Element.SameBut [(Namespace.security, "Password")] e e') :
    (t.withPassword ((e'.child? Namespace.security "Password").map Password.ofElement)).Reads
      e' where
  named := (same.isNamed _ _).trans read.named
  id := read.id.trans same.id?.symm
  username := by
    rw [same.child? Namespace.security "Username" (by decide)]
    exact read.username
  filled := read.filled
  password := rfl
  nonce := by
    rw [same.child? Namespace.security "Nonce" (by decide)]
    exact read.nonce
  created := by
    rw [same.child? Namespace.utility "Created" (by decide)]
    exact read.created
  salt := by
    rw [same.child? Namespace.security11 "Salt" (by decide)]
    exact read.salt
  iterations := by
    rw [same.child? Namespace.security11 "Iteration" (by decide)]
    exact read.iterations
  counted := read.counted

end Reads
end UsernameToken

/-! ## Resolving -/

/-- The key of a user with what goes with the identity. -/
def UsernameToken.keyed (t : UsernameToken) (key : Bytes) : Credential where
  secretKey := some key
  principal := ⟨t.username, some (.username (.ofToken t))⟩

namespace Resolution

variable {ctx : Context} {r : TokenReference} {t : UsernameToken} {e : Element} {c : Credential}

/-- What a reference to a recorded user name token leads to. -/
theorem result_resolve_username_eq_ok_iff (read : t.Reads e)
    (known : processed? ctx r = some (.username t)) :
    (resolve ctx r).result = .ok c ↔ ctx.Passes r ∧
      (ctx.compliance = .strict → ∃ uri, r.kind = .direct uri (some ValueType.usernameToken)) ∧
      ∃ password key, UsernameToken.PasswordFor ctx e t password ∧ password ≠ [] ∧
        t.Key ctx.sizing password key ∧ c = t.keyed key := by
  rw [result_resolve_eq_ok_iff_of_processed known]
  refine and_congr Iff.rfl ?_
  simp only [ofProcessed, Asking.result_bind_eq_ok_iff, Context.result_enforce_eq_ok_iff,
    exists_const, Asking.result_liftM_eq_ok_iff, Asking.result_pure_eq_ok_iff,
    read.result_passwordOf_eq_ok_iff, UsernameToken.keyFor_eq_ok_iff read.counted,
    Profile.checkUsernameToken_eq_ok_iff]
  constructor
  · rintro ⟨m, ⟨fits, password, tells, key, ⟨filled, gives⟩, rfl⟩, completed⟩
    exact ⟨fits, password, key, tells, filled, gives, (complete_eq_ok_iff rfl rfl).1 completed⟩
  · rintro ⟨fits, password, key, tells, filled, gives, rfl⟩
    exact ⟨t.keyed key, ⟨fits, password, tells, key, ⟨filled, gives⟩, rfl⟩,
      (complete_eq_ok_iff rfl rfl).2 rfl⟩

/-- Nothing depends on which digest of the password a token holds. -/
theorem ofProcessed_withPassword {p p' : Password} (held : t.password = some p)
    (digest : p.type = PasswordType.digest) (digest' : p'.type = PasswordType.digest) :
    ofProcessed ctx r (.username (t.withPassword (some p'))) = ofProcessed ctx r (.username t) := by
  have hidden : t.cleartextPassword? = none := by
    rw [UsernameToken.cleartextPassword?, held, Option.bind_some, Password.cleartext?,
      if_pos digest]
  have hidden' : (t.withPassword (some p')).cleartextPassword? = none := by
    rw [UsernameToken.cleartextPassword?, UsernameToken.withPassword, Option.bind_some,
      Password.cleartext?, if_pos digest']
  have alike : (t.withPassword (some p')).password.map (·.type) = t.password.map (·.type) := by
    rw [held, UsernameToken.withPassword, Option.map_some, Option.map_some, digest, digest']
  have password : ctx.passwordOf (t.withPassword (some p')) = ctx.passwordOf t := by
    simp only [Context.passwordOf, hidden, hidden', alike]
    rfl
  have identity : UsernamePrincipal.ofToken (t.withPassword (some p')) = .ofToken t := by
    rw [UsernamePrincipal.ofToken, alike]
    rfl
  simp only [ofProcessed, password, identity]
  rfl

end Resolution

namespace UsernameToken

open Resolution

/-- A key can be made just if the token has what one of the two ways needs. -/
theorem exists_key_iff {t : UsernameToken} {sizing : KeySizing} {password : Bytes} :
    (∃ key, t.Key sizing password key) ↔
      t.salt.isSome = true ∧ t.iterations.isSome = true ∨
        t.nonce.isSome = true ∧ t.created.isSome = true ∧
          ∃ length, sizing.SecretLength length ∧ 1 ≤ length ∧ length ≤ 1024 := by
  simp only [Option.isSome_iff_exists]
  constructor
  · rintro ⟨key, gives⟩
    cases gives with
    | iterated salted counted => exact .inl ⟨⟨_, salted⟩, ⟨_, counted⟩⟩
    | expanded _ fresh dated sized short =>
      exact .inr ⟨⟨_, fresh⟩, ⟨_, dated⟩, _, sized, sized.pos, short⟩
  · rintro (⟨⟨salt, salted⟩, count, counted⟩ |
      ⟨⟨nonce, fresh⟩, ⟨created, dated⟩, length, sized, -, short⟩)
    · exact ⟨_, .iterated salted counted⟩
    · -- With both salt and iteration count the other way is taken, which needs no more.
      by_cases notIterated : t.salt = none ∨ t.iterations = none
      · exact ⟨_, .expanded notIterated fresh dated sized short⟩
      · obtain ⟨notSalt, notCount⟩ := not_or.1 notIterated
        obtain ⟨salt, salted⟩ := Option.ne_none_iff_exists'.1 notSalt
        obtain ⟨count, counted⟩ := Option.ne_none_iff_exists'.1 notCount
        exact ⟨_, .iterated salted counted⟩

/-- A reference leads to the same, whichever digest of the password its token holds. -/
theorem resolve_eq_of_digest {ctx : Context} {r : TokenReference} {id : String} {e e' : Element}
    {t : UsernameToken} {child child' : Element} (read : t.Reads e)
    (looksUp : r.lookupId? = some id) (known : ctx.tokens.get? id = some (.username t))
    (same : Element.SameBut [(Namespace.security, "Password")] e e')
    (held : e.child? Namespace.security "Password" = some child)
    (digest : Password.IsDigest child)
    (held' : e'.child? Namespace.security "Password" = some child')
    (digest' : Password.IsDigest child') :
    ∃ t', ofElement e' = .ok t' ∧ ∀ tokens : TokenIndex,
      tokens.get? id = some (.username t') → resolve { ctx with tokens } r = resolve ctx r := by
  have type {child : Element} (digest : Password.IsDigest child) :
      (Password.ofElement child).type = PasswordType.digest := by
    rw [Password.ofElement, digest]
    rfl
  have there : t.password = some (Password.ofElement child) := by
    rw [read.password, held]
    rfl
  refine ⟨_, ofElement_eq_ok_iff.2 (read.withPassword same), fun tokens known' => ?_⟩
  rw [held', Option.map_some] at known'
  have indexed : processed? ctx r = some (.username t) :=
    (processed?_of_lookupId? looksUp).trans known
  have indexed' : processed? { ctx with tokens } r = some (.username (t.withPassword _)) :=
    (processed?_of_lookupId? looksUp).trans known'
  have alike : ofProcessed ctx r (.username (t.withPassword (some (Password.ofElement child'))))
      = ofProcessed ctx r (.username t) :=
    ofProcessed_withPassword there (type digest) (type digest')
  rw [resolve_eq, resolve_eq]
  simp only [material, indexed, indexed', ← alike]
  rfl

/-- **Keys of users, from the element to the key.**  A reference to a recorded user name token
that was read from an element is resolved just if it passes its checks, there is a password
that is not empty, and the token has salt and iteration count, or nonce and creation time and
a length of secrets that is within the limit.  The key is made from the password in the way
that the token tells.  And it does not depend on a digest that stands for the password. -/
theorem keyed_of_resolve {ctx : Context} {r : TokenReference} {id : String} {e : Element}
    {t : UsernameToken} (accepted : ofElement e = .ok t) (looksUp : r.lookupId? = some id)
    (known : ctx.tokens.get? id = some (.username t)) :
    t.Reads e ∧
    ((∃ c, (resolve ctx r).result = .ok c) ↔
      ctx.Passes r ∧
      (ctx.compliance = .strict → ∃ uri, r.kind = .direct uri (some ValueType.usernameToken)) ∧
      ∃ password, PasswordFor ctx e t password ∧ password ≠ [] ∧
        (t.salt.isSome = true ∧ t.iterations.isSome = true ∨
          t.nonce.isSome = true ∧ t.created.isSome = true ∧
            ∃ length, ctx.sizing.SecretLength length ∧ 1 ≤ length ∧ length ≤ 1024)) ∧
    (∀ c, (resolve ctx r).result = .ok c → ∃ password key, PasswordFor ctx e t password ∧
      t.Key ctx.sizing password key ∧ c.secretKey = some key) ∧
    ∀ e' child child', Element.SameBut [(Namespace.security, "Password")] e e' →
      e.child? Namespace.security "Password" = some child → Password.IsDigest child →
      e'.child? Namespace.security "Password" = some child' → Password.IsDigest child' →
      ∃ t', ofElement e' = .ok t' ∧ ∀ tokens : TokenIndex,
        tokens.get? id = some (.username t') → resolve { ctx with tokens } r = resolve ctx r := by
  have read : t.Reads e := ofElement_eq_ok_iff.1 accepted
  have leads {c : Credential} := result_resolve_username_eq_ok_iff (c := c) read
    ((processed?_of_lookupId? looksUp).trans known)
  refine ⟨read, ⟨?_, ?_⟩, ?_, ?_⟩
  · rintro ⟨c, resolved⟩
    obtain ⟨passes, fits, password, key, tells, filled, gives, -⟩ := leads.1 resolved
    exact ⟨passes, fits, password, tells, filled, exists_key_iff.1 ⟨key, gives⟩⟩
  · rintro ⟨passes, fits, password, tells, filled, enough⟩
    obtain ⟨key, gives⟩ := exists_key_iff.2 enough
    exact ⟨_, leads.2 ⟨passes, fits, password, key, tells, filled, gives, rfl⟩⟩
  · intro c resolved
    obtain ⟨-, -, password, key, tells, -, gives, rfl⟩ := leads.1 resolved
    exact ⟨password, key, tells, gives, rfl⟩
  · intro e' child child' same held digest held' digest'
    exact resolve_eq_of_digest read looksUp known same held digest held' digest'

/-- A password element with a digest. -/
def digestElement (digest : String) : Element :=
  ⟨⟨some Namespace.security, "Password"⟩, [⟨⟨none, "Type"⟩, PasswordType.digest⟩],
    [.text digest]⟩

/-- A user name token with salt, iteration count and one more child. -/
def saltedElement (password : Element) : Element :=
  ⟨⟨some Namespace.security, "UsernameToken"⟩, [],
    [.element ⟨some Namespace.security, "Username"⟩ [] [.text "alice"],
      password.toNode,
      .element ⟨some Namespace.security11, "Salt"⟩ [] [.text "AAAA"],
      .element ⟨some Namespace.security11, "Iteration"⟩ [] [.text "2"]]⟩

/-- The token it is read as with a digest. -/
def saltedToken (digest : String) : UsernameToken :=
  ⟨none, "alice", some ⟨digest, PasswordType.digest⟩, none, none, some [0, 0, 0], some 2⟩

/-- A reference to the token. -/
def saltedReference : TokenReference :=
  ⟨none, none, 1, .direct "#UT-1" (some ValueType.usernameToken)⟩

/-- A strict context that has the token on record and knows the password. -/
def saltedContext (digest : String) : Context :=
  { recordingContext "UT-1" (.username (saltedToken digest)) with
    callback := some fun _ => .ok (some [7]) }

/-- The key is made from the password that is known, and it is the same with another digest. -/
theorem keyed_saltedElement :
    ofElement (saltedElement (digestElement "AAAA")) = .ok (saltedToken "AAAA") ∧
    (∃ c, (resolve (saltedContext "AAAA") saltedReference).result = .ok c ∧
      c.secretKey = some (Sha1.digest (Sha1.digest [7, 0, 0, 0]))) ∧
    resolve (saltedContext "BBBB") saltedReference
      = resolve (saltedContext "AAAA") saltedReference := by
  have accepted : ofElement (saltedElement (digestElement "AAAA")) = .ok (saltedToken "AAAA") := by
    decide +kernel
  have accepted' : ofElement (saltedElement (digestElement "BBBB")) = .ok (saltedToken "BBBB") := by
    decide +kernel
  have looksUp : saltedReference.lookupId? = some "UT-1" := by decide
  have known : (saltedContext "AAAA").tokens.get? "UT-1"
      = some (.username (saltedToken "AAAA")) := rfl
  obtain ⟨-, leads, gives, digests⟩ := keyed_of_resolve accepted looksUp known
  have held (digest : String) : (saltedElement (digestElement digest)).child? Namespace.security
      "Password" = some (digestElement digest) := rfl
  have isDigest (digest : String) : Password.IsDigest (digestElement digest) := rfl
  have notClear : ∀ child, (saltedElement (digestElement "AAAA")).child? Namespace.security
      "Password" = some child → Password.IsDigest child := by
    intro child there
    obtain rfl := Option.some.inj ((held "AAAA").symm.trans there)
    exact isDigest "AAAA"
  have wellFormed : saltedReference.IsWellFormed := Profile.checkStructure_eq_ok_iff.1 rfl
  refine ⟨accepted, ?_, ?_⟩
  · obtain ⟨c, resolved⟩ := leads.2 ⟨⟨fun _ => wellFormed, fun _ named => by cases named⟩,
      fun _ => ⟨_, rfl⟩, [7], .answered notClear rfl rfl (List.cons_ne_nil 7 []),
      List.cons_ne_nil 7 [], .inl ⟨rfl, rfl⟩⟩
    obtain ⟨password, key, tells, made, keyed⟩ := gives c resolved
    refine ⟨c, resolved, keyed.trans (congrArg some ?_)⟩
    have seven : password = [7] := by
      cases tells with
      | clear there inClear => exact absurd (notClear _ there) inClear
      | answered _ configured answer _ =>
        obtain rfl := Option.some.inj configured
        exact (Option.some.inj (Except.ok.inj answer)).symm
    subst seven
    cases made with
    | iterated salted counted =>
      obtain rfl := Option.some.inj salted
      obtain rfl := Option.some.inj counted
      rfl
    | expanded notIterated =>
      obtain missing | missing := notIterated
      · cases missing
      · cases missing
  · obtain ⟨t', read, same⟩ := digests (saltedElement (digestElement "BBBB")) _ _
      (.ofReplaced (by decide) (by decide) _ _ [.element _ [] [.text "alice"]] _) (held "AAAA")
      (isDigest "AAAA") (held "BBBB") (isDigest "BBBB")
    obtain rfl := Except.ok.inj (accepted'.symm.trans read)
    exact same _ rfl

end UsernameToken
end SecurityTokens
