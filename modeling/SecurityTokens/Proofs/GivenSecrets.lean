/-
# Secrets on the command line

A secret is given as `ID=HEX` and a password as `USER=PASSWORD`, and the first equals sign
parts such an argument.

| argument | parted into | entered |
| --- | --- | --- |
| `key-1=0a0B` | `key-1`, `0a0B` | two bytes for `key-1` |
| `alice=a=b` | `alice`, `a=b` | the password `a=b` of `alice` |
| `AAE==00` | `AAE`, `=00` | nothing, since `=00` is not hexadecimal |

A password may have equals signs in it and a user name may not.  An identifier may not have
any either, and there is one kind of identifiers that always have: the base64 text of a SHA-1
digest ends in a pad (`Base64.pad_mem_encode_digest`).  So the arguments are accepted just if
no identifier has an equals sign; then each request is answered by the last argument that
answers it (`secretTable_answers_iff`).
-/

import SecurityTokens.CommandLine.Basic
import SecurityTokens.Proofs.Base64
import SecurityTokens.Proofs.PrintedNames

namespace SecurityTokens

/-! ## Hexadecimal text -/

namespace Hex

/-- The text stands for the bytes, with digits in either case. -/
def Spells (s : String) (bs : Bytes) : Prop := s.toList.map Char.toLower = encodeChars bs

instance (s : String) (bs : Bytes) : Decidable (Spells s bs) := inferInstanceAs (Decidable (_ = _))

/-- The half bytes, of each byte the high one first. -/
def halves (bs : Bytes) : List Nat := bs.flatMap fun b => [b.toNat / 16, b.toNat % 16]

variable {bs out : Bytes} {s : String} {c : Char} {n : Nat}

theorem encodeChars_eq_map (bs : Bytes) : encodeChars bs = (halves bs).map digit := by
  rw [encodeChars, halves, List.map_flatMap]
  rfl

theorem lt_of_mem_halves (mem : n ∈ halves bs) : n < 16 := by
  obtain ⟨b, -, mem⟩ := List.mem_flatMap.1 mem
  have range := b.toNat_lt
  rcases List.mem_pair.1 mem with rfl | rfl
  · omega
  · omega

/-- A digit has the code of a digit or of a letter, and stands for a half byte. -/
theorem lt_of_nibble? {b : UInt8} (digit : nibble? b = some n) :
    n < 16 ∧ X509.isKeyCode b.toNat = true := by
  have bytes : ∀ m : Fin 256, ∀ n ∈ nibble? (UInt8.ofNat m), n < 16 ∧ X509.isKeyCode m = true := by
    decide +kernel
  refine bytes ⟨b.toNat, b.toNat_lt⟩ n ?_
  rw [UInt8.ofNat_toNat, digit]
  rfl

/-- Of ASCII, the digits of a number are those that are its digit in lower case. -/
theorem nibble?_eq_some_iff (ascii : c.toNat < 128) (small : n < 16) :
    nibble? (UInt8.ofNat c.toNat) = some n ↔ c.toLower = digit n := by
  have table : ∀ m : Fin 128, ∀ n : Fin 16,
      nibble? (UInt8.ofNat m) = some n.val ↔ (Char.ofNat m).toLower = digit n := by
    decide +kernel
  have entry := table ⟨c.toNat, ascii⟩ ⟨n, small⟩
  rwa [Char.ofNat_toNat] at entry

/-- Digits are ASCII. -/
theorem lt_of_toLower_eq_digit (small : n < 16) (lower : c.toLower = digit n) : c.toNat < 128 := by
  have digits : ∀ n : Fin 16, (digit n).toNat < 128 := by decide
  have code := digits ⟨n, small⟩
  rw [← lower] at code
  unfold Char.toLower at code
  split at code
  next upper =>
    have range : 65 ≤ c.toNat ∧ c.toNat ≤ 90 := upper
    omega
  next => exact code

theorem halves_cons (b : UInt8) (bs : Bytes) :
    halves (b :: bs) = b.toNat / 16 :: b.toNat % 16 :: halves bs := rfl

theorem length_halves (bs : Bytes) : (halves bs).length = 2 * bs.length := by
  induction bs with
  | nil => rfl
  | cons b bs ih =>
    rw [halves_cons, List.length_cons, List.length_cons, List.length_cons, ih]
    omega

theorem nibbleAt_eq_ok_iff {position : Nat} {b : UInt8} :
    nibbleAt position b = .ok n ↔ nibble? b = some n := by
  unfold nibbleAt
  cases nibble? b <;> simp

/-- Digits are read in pairs. -/
theorem decodeFrom_eq_ok_iff {position : Nat} (even : bs.length % 2 = 0) :
    decodeFrom position bs = .ok out ↔ bs.map nibble? = (halves out).map some := by
  fun_induction decodeFrom position bs generalizing out with
  | case1 position high low rest ih =>
    have even' : rest.length % 2 = 0 := by
      rw [List.length_cons, List.length_cons] at even
      omega
    simp only [Except.bind_eq_ok_iff, nibbleAt_eq_ok_iff, ih even']
    constructor
    · rintro ⟨h, first, l, second, out', others, done⟩
      obtain rfl := Except.ok.inj done
      have range : h < 16 ∧ l < 16 := ⟨(lt_of_nibble? first).1, (lt_of_nibble? second).1⟩
      have value : (UInt8.ofNat (h * 16 + l)).toNat = h * 16 + l :=
        UInt8.toNat_ofNat_of_lt' (show _ < 256 by omega)
      have high : (h * 16 + l) / 16 = h := by omega
      have low : (h * 16 + l) % 16 = l := by omega
      rw [List.map_cons, List.map_cons, first, second, others, halves_cons, value, high, low]
      rfl
    · intro digits
      cases out with
      | nil => cases digits
      | cons b out' =>
        rw [halves_cons] at digits
        obtain ⟨first, digits⟩ := List.cons.inj digits
        obtain ⟨second, others⟩ := List.cons.inj digits
        refine ⟨_, first, _, second, out', others, ?_⟩
        rw [Nat.div_add_mod' b.toNat 16, UInt8.ofNat_toNat]
        rfl
  | case2 bs position single =>
    cases bs with
    | nil =>
      cases out with
      | nil => exact ⟨fun _ => rfl, fun _ => rfl⟩
      | cons b out =>
        constructor
        · intro read
          cases read
        · intro digits
          cases digits
    | cons b bs =>
      cases bs with
      | nil => cases even
      | cons b' bs => exact absurd rfl (single b b' bs)

/-- A text whose bytes are digits is ASCII. -/
theorem ascii_of_map_nibble? {ns : List Nat} (digits : (Bytes.ofText s).map nibble? = ns.map some) :
    ∀ c ∈ s.toList, c.toNat < 128 := by
  intro c mem
  refine (X509.lt_of_isKeyCode (X509.isKeyCode_of_bytes fun b byte => ?_)).2
  have inside : b ∈ Bytes.ofText s := by
    rw [Bytes.ofText_eq_flatMap]
    exact List.mem_flatMap.2 ⟨c, mem, byte⟩
  have digit : nibble? b ∈ ns.map some := by
    rw [← digits]
    exact List.mem_map_of_mem inside
  obtain ⟨n, -, same⟩ := List.mem_map.1 digit
  exact (lt_of_nibble? same.symm).2

/-- Of an ASCII text, the digits of some numbers are those that are their digits in lower
case. -/
theorem map_nibble?_eq_iff {ns : List Nat} {cs : List Char} (ascii : ∀ c ∈ cs, c.toNat < 128)
    (small : ∀ n ∈ ns, n < 16) :
    (cs.map fun c => nibble? (UInt8.ofNat c.toNat)) = ns.map some ↔
      cs.map Char.toLower = ns.map digit := by
  induction cs generalizing ns with
  | nil => cases ns <;> simp
  | cons c cs ih =>
    cases ns with
    | nil => simp
    | cons n ns =>
      obtain ⟨first, others⟩ := List.forall_mem_cons.1 ascii
      obtain ⟨first', others'⟩ := List.forall_mem_cons.1 small
      simp only [List.map_cons, List.cons.injEq]
      rw [nibble?_eq_some_iff first first', ih others others']

/-- **Decoding is exact.**  Hexadecimal text stands for bytes just if it is what these are
written as, but for the case of its letters. -/
theorem decode_eq_ok_iff : decode s = .ok bs ↔ Spells s bs := by
  have small : ∀ n ∈ halves bs, n < 16 := fun n => lt_of_mem_halves
  rw [Spells, encodeChars_eq_map]
  constructor
  · intro read
    unfold decode at read
    dsimp only at read
    split at read
    next => cases read
    next even =>
      have digits := (decodeFrom_eq_ok_iff (by omega)).1 read
      have ascii := ascii_of_map_nibble? digits
      rw [Bytes.ofText_eq_map ascii, List.map_map] at digits
      exact (map_nibble?_eq_iff ascii small).1 digits
  · intro lower
    have ascii : ∀ c ∈ s.toList, c.toNat < 128 := by
      intro c mem
      have digit : c.toLower ∈ (halves bs).map digit := by
        rw [← lower]
        exact List.mem_map_of_mem mem
      obtain ⟨n, inside, same⟩ := List.mem_map.1 digit
      exact lt_of_toLower_eq_digit (small n inside) same.symm
    have digits : (Bytes.ofText s).map nibble? = (halves bs).map some := by
      rw [Bytes.ofText_eq_map ascii, List.map_map]
      exact (map_nibble?_eq_iff ascii small).2 lower
    have even : (Bytes.ofText s).length % 2 = 0 := by
      have length := congrArg List.length digits
      rw [List.length_map, List.length_map, length_halves] at length
      omega
    unfold decode
    dsimp only
    rw [if_neg (by omega), (decodeFrom_eq_ok_iff even).2 digits]

/-- There is no equals sign in hexadecimal text. -/
theorem Spells.not_mem (spells : Spells s bs) : '=' ∉ s.toList := by
  intro mem
  have plain : ∀ n : Fin 16, digit n ≠ '=' := by decide
  have inside : '='.toLower ∈ (halves bs).map digit := by
    rw [← encodeChars_eq_map, ← spells]
    exact List.mem_map_of_mem mem
  obtain ⟨n, small, same⟩ := List.mem_map.1 inside
  exact plain ⟨n, lt_of_mem_halves small⟩ same

end Hex

namespace Base64

/-- The text of bytes that do not come in threes ends in a pad. -/
theorem pad_mem_encodeBytes {bs : Bytes} (rest : bs.length % 3 ≠ 0) : pad ∈ encodeBytes bs := by
  induction bs using encodeBytes.induct with
  | case1 a b c bs ih =>
    rw [encodeBytes_three]
    refine List.mem_append_right _ (ih ?_)
    simp only [List.length_cons] at rest
    omega
  | case2 a b =>
    rw [encodeBytes_two]
    exact List.mem_append_right _ (List.mem_singleton_self pad)
  | case3 a =>
    rw [encodeBytes_one]
    exact List.mem_append_right _ List.mem_cons_self
  | case4 => exact absurd rfl rest

/-- A SHA-1 digest has twenty bytes. -/
theorem pad_mem_encode_digest (bs : Bytes) : '=' ∈ (encode (Sha1.digest bs)).toList := by
  have rest : (Sha1.digest bs).length % 3 ≠ 0 := by
    rw [Sha1.length_digest]
    decide
  rw [encode, String.toList_ofList]
  exact List.mem_map_of_mem (f := fun b => Char.ofNat b.toNat) (pad_mem_encodeBytes rest)

end Base64

/-! ## Arguments -/

namespace CommandLine

/-- The first equals sign parts an argument. -/
theorem splitAtEquals?_of_not_mem {key value : String} (plain : '=' ∉ key.toList) :
    splitAtEquals? (key ++ "=" ++ value) = some (key, value) := by
  have chars : (key ++ "=" ++ value).toList = key.toList ++ '=' :: value.toList := by
    rw [String.toList_append, String.toList_append, List.append_assoc]
    rfl
  rw [splitAtEquals?, chars, Text.dropWhile_append_cons plain]
  dsimp only
  rw [Text.takeWhile_append_cons plain, String.ofList_toList, String.ofList_toList]

/-- If there is one in front of the equals sign that should part it, that one stays. -/
theorem splitAtEquals?_of_mem {key : String} (parted : '=' ∈ key.toList) (value : String) :
    ∃ first rest, splitAtEquals? (key ++ "=" ++ value) = some (first, rest) ∧
      '=' ∈ rest.toList := by
  obtain ⟨first, rest, chars, plain⟩ := List.eq_append_cons_of_mem parted
  have regrouped : key ++ "=" ++ value
      = String.ofList first ++ "=" ++ (String.ofList rest ++ "=" ++ value) := by
    have mark : "=".toList = ['='] := rfl
    have whole : key = String.ofList first ++ "=" ++ String.ofList rest := by
      rw [← String.toList_inj, chars, String.toList_append, String.toList_append,
        String.toList_ofList, mark, String.toList_ofList, List.append_assoc]
      rfl
    rw [whole]
    simp only [String.append_assoc]
  refine ⟨String.ofList first, String.ofList rest ++ "=" ++ value, ?_, ?_⟩
  · rw [regrouped]
    refine splitAtEquals?_of_not_mem ?_
    rwa [String.toList_ofList]
  · rw [String.toList_append, String.toList_append]
    exact List.mem_append_left _ (List.mem_append_right _ (List.mem_singleton_self _))

/-- A secret as it is given: an identifier, and bytes in hexadecimal. -/
structure GivenSecret where
  id : String
  bytes : Bytes
  text : String
  spells : Hex.Spells text bytes

/-- A password as it is given. -/
structure GivenPassword where
  username : String
  password : String
  plain : '=' ∉ username.toList

namespace GivenSecret

/-- The argument of a secret. -/
def argument (s : GivenSecret) : String := s.id ++ "=" ++ s.text

/-- What a secret answers. -/
def answer? (s : GivenSecret) (request : SecretRequest) : Option Bytes :=
  if request.usage = .secretKey ∧ request.id = s.id then some s.bytes else none

theorem answer?_self (s : GivenSecret) (hint : Option String) :
    s.answer? ⟨s.id, hint, .secretKey⟩ = some s.bytes := if_pos ⟨rfl, rfl⟩

theorem isSome_answer?_iff {s : GivenSecret} {request : SecretRequest} :
    (s.answer? request).isSome = true ↔ request.usage = .secretKey ∧ request.id = s.id := by
  unfold answer?
  split <;> simp [*]

/-- The table with a secret in it. -/
def enter (t : SecretTable) (s : GivenSecret) : SecretTable := t.insertSecret s.id s.bytes

/-- It is entered if there is no equals sign in the identifier, and else refused. -/
theorem enterSecret_argument_eq_ok_iff {t t' : SecretTable} {s : GivenSecret} :
    enterSecret t s.argument = .ok t' ↔ '=' ∉ s.id.toList ∧ enter t s = t' := by
  by_cases plain : '=' ∈ s.id.toList
  · obtain ⟨first, rest, split, parted⟩ := splitAtEquals?_of_mem plain s.text
    have refused : ∀ bs, Hex.decode rest ≠ .ok bs := by
      intro bs read
      exact (Hex.decode_eq_ok_iff.1 read).not_mem parted
    rw [enterSecret, argument, split]
    cases read : Hex.decode rest with
    | ok bs => exact absurd read (refused bs)
    | error fault => simp [plain, read]
  · rw [enterSecret, argument, splitAtEquals?_of_not_mem plain]
    simp [Hex.decode_eq_ok_iff.2 s.spells, plain, enter]

end GivenSecret

namespace GivenPassword

/-- The argument of a password. -/
def argument (p : GivenPassword) : String := p.username ++ "=" ++ p.password

/-- What a password answers. -/
def answer? (p : GivenPassword) (request : SecretRequest) : Option Bytes :=
  if request.usage = .password ∧ request.id = p.username then some (Bytes.ofText p.password)
  else none

theorem answer?_self (p : GivenPassword) (hint : Option String) :
    p.answer? ⟨p.username, hint, .password⟩ = some (Bytes.ofText p.password) := if_pos ⟨rfl, rfl⟩

theorem isSome_answer?_iff {p : GivenPassword} {request : SecretRequest} :
    (p.answer? request).isSome = true ↔ request.usage = .password ∧ request.id = p.username := by
  unfold answer?
  split <;> simp [*]

/-- The table with a password in it. -/
def enter (t : SecretTable) (p : GivenPassword) : SecretTable :=
  t.insertPassword p.username p.password

theorem enterPassword_argument (t : SecretTable) (p : GivenPassword) :
    enterPassword t p.argument = .ok (enter t p) := by
  rw [enterPassword, argument, splitAtEquals?_of_not_mem p.plain]
  rfl

end GivenPassword

/-! ## Tables of what is given -/

variable {secrets : List GivenSecret} {passwords : List GivenPassword}

/-- Secrets are entered one after the other, up to the first with an equals sign in its
identifier. -/
theorem foldlM_enterSecret_eq_ok_iff {t t' : SecretTable} :
    (secrets.map (·.argument)).foldlM enterSecret t = .ok t' ↔
      (∀ s ∈ secrets, '=' ∉ s.id.toList) ∧ secrets.foldl GivenSecret.enter t = t' := by
  induction secrets generalizing t with
  | nil => simp [pure, Except.pure]
  | cons s secrets ih =>
    rw [List.map_cons, List.foldlM_cons, Except.bind_eq_ok_iff, List.forall_mem_cons,
      List.foldl_cons]
    constructor
    · rintro ⟨entered, first, others⟩
      obtain ⟨plain, rfl⟩ := GivenSecret.enterSecret_argument_eq_ok_iff.1 first
      obtain ⟨plain', done⟩ := ih.1 others
      exact ⟨⟨plain, plain'⟩, done⟩
    · rintro ⟨⟨plain, plain'⟩, done⟩
      exact ⟨_, GivenSecret.enterSecret_argument_eq_ok_iff.2 ⟨plain, rfl⟩, ih.2 ⟨plain', done⟩⟩

/-- Passwords are all entered. -/
theorem foldlM_enterPassword (t : SecretTable) :
    (passwords.map (·.argument)).foldlM enterPassword t
      = .ok (passwords.foldl GivenPassword.enter t) := by
  induction passwords generalizing t with
  | nil => rfl
  | cons p passwords ih =>
    rw [List.map_cons, List.foldlM_cons, GivenPassword.enterPassword_argument, List.foldl_cons,
      ← ih]
    rfl

/-- The table of what is given. -/
theorem secretTable_eq_ok_iff {t : SecretTable} :
    secretTable (secrets.map (·.argument)) (passwords.map (·.argument)) = .ok t ↔
      (∀ s ∈ secrets, '=' ∉ s.id.toList) ∧
        passwords.foldl GivenPassword.enter (secrets.foldl GivenSecret.enter .empty) = t := by
  rw [secretTable, Except.bind_eq_ok_iff]
  constructor
  · rintro ⟨entered, first, second⟩
    obtain ⟨plain, rfl⟩ := foldlM_enterSecret_eq_ok_iff.1 first
    rw [foldlM_enterPassword] at second
    exact ⟨plain, Except.ok.inj second⟩
  · rintro ⟨plain, rfl⟩
    exact ⟨_, foldlM_enterSecret_eq_ok_iff.2 ⟨plain, rfl⟩, foldlM_enterPassword _⟩

/-! ## Answers of what is given -/

/-- Of entries for one identifier the first counts, so the others may be left out. -/
theorem lookup_cons_filter {α : Type} (entries : List (String × α)) (id key : String) (value : α) :
    ((id, value) :: entries.filter (·.1 ≠ id)).lookup key
      = if key = id then some value else entries.lookup key := by
  by_cases same : key = id
  · rw [if_pos same, List.lookup_cons, beq_iff_eq.2 same]
  · rw [if_neg same, List.lookup_cons, beq_eq_false_iff_ne.2 same]
    dsimp only
    induction entries with
    | nil => rfl
    | cons entry entries ih =>
      by_cases left : entry.1 = id
      · have other : (key == entry.1) = false := by
          rw [left]
          exact beq_eq_false_iff_ne.2 same
        rw [List.filter_cons_of_neg (by simpa using left), ih, List.lookup_cons, other]
      · rw [List.filter_cons_of_pos (by simpa using left), List.lookup_cons, ih, List.lookup_cons]

/-- A secret that is entered answers before the table. -/
theorem GivenSecret.answer?_enter (t : SecretTable) (s : GivenSecret) (request : SecretRequest) :
    (enter t s).answer? request = (s.answer? request).or (t.answer? request) := by
  obtain ⟨id, hint, usage⟩ := request
  cases usage with
  | secretKey =>
    show ((s.id, s.bytes) :: t.secrets.filter (·.1 ≠ s.id)).lookup id
      = (s.answer? ⟨id, hint, .secretKey⟩).or (t.secrets.lookup id)
    rw [lookup_cons_filter]
    by_cases same : id = s.id <;> simp [answer?, same]
  | password => simp [enter, SecretTable.insertSecret, SecretTable.answer?, answer?]

/-- So does a password. -/
theorem GivenPassword.answer?_enter (t : SecretTable) (p : GivenPassword)
    (request : SecretRequest) :
    (enter t p).answer? request = (p.answer? request).or (t.answer? request) := by
  obtain ⟨id, hint, usage⟩ := request
  cases usage with
  | secretKey => simp [enter, SecretTable.insertPassword, SecretTable.answer?, answer?]
  | password =>
    show (((p.username, p.password) :: t.passwords.filter (·.1 ≠ p.username)).lookup id).map
      Bytes.ofText = (p.answer? ⟨id, hint, .password⟩).or ((t.passwords.lookup id).map Bytes.ofText)
    rw [lookup_cons_filter]
    by_cases same : id = p.username <;> simp [answer?, same]

/-- If what is entered answers before the table, the last of several entries that answers
does. -/
theorem answer?_foldl {γ : Type} {enter : SecretTable → γ → SecretTable}
    {answer? : γ → SecretRequest → Option Bytes}
    (step : ∀ t g request, (enter t g).answer? request
      = (answer? g request).or (t.answer? request))
    (given : List γ) (t : SecretTable) (request : SecretRequest) :
    (given.foldl enter t).answer? request
      = (given.reverse.findSome? (answer? · request)).or (t.answer? request) := by
  induction given generalizing t with
  | nil => rfl
  | cons g given ih =>
    rw [List.foldl_cons, ih, step, List.reverse_cons, List.findSome?_append, Option.or_assoc,
      List.findSome?_singleton]

/-- The only entry that answers gives what is answered. -/
theorem findSome?_eq_some_of_unique {α β : Type} {f : α → Option β} {xs : List α} {x : α} {b : β}
    (mem : x ∈ xs) (answers : f x = some b) (unique : ∀ y ∈ xs, (f y).isSome = true → y = x) :
    xs.findSome? f = some b := by
  cases found : xs.findSome? f with
  | none =>
    rw [List.findSome?_eq_none_iff.1 found x mem] at answers
    cases answers
  | some b' =>
    obtain ⟨y, there, answers'⟩ := List.exists_of_findSome?_eq_some found
    obtain rfl := unique y there (Option.isSome_iff_exists.2 ⟨b', answers'⟩)
    rw [← answers', answers]

/-- Of secrets with distinct identifiers, each is the answer for its own. -/
theorem GivenSecret.findSome?_answer? {s : GivenSecret} (distinct : (secrets.map (·.id)).Nodup)
    (mem : s ∈ secrets) (hint : Option String) :
    secrets.reverse.findSome? (·.answer? ⟨s.id, hint, .secretKey⟩) = some s.bytes := by
  refine findSome?_eq_some_of_unique (List.mem_reverse.2 mem) (s.answer?_self hint) ?_
  intro other mem' answered
  have same : s.id = other.id := (isSome_answer?_iff.1 answered).2
  exact (List.inj_on_of_nodup_map distinct mem (List.mem_reverse.1 mem') same).symm

/-- Of passwords of distinct users, each is the answer for its own. -/
theorem GivenPassword.findSome?_answer? {p : GivenPassword}
    (distinct : (passwords.map (·.username)).Nodup) (mem : p ∈ passwords) (hint : Option String) :
    passwords.reverse.findSome? (·.answer? ⟨p.username, hint, .password⟩)
      = some (Bytes.ofText p.password) := by
  refine findSome?_eq_some_of_unique (List.mem_reverse.2 mem) (p.answer?_self hint) ?_
  intro other mem' answered
  have same : p.username = other.username := (isSome_answer?_iff.1 answered).2
  exact (List.inj_on_of_nodup_map distinct mem (List.mem_reverse.1 mem') same).symm

/-- A request is answered by the last argument for it. -/
theorem answer?_of_secretTable {t : SecretTable}
    (accepted : secretTable (secrets.map (·.argument)) (passwords.map (·.argument)) = .ok t)
    (request : SecretRequest) : t.answer? request
      = (passwords.reverse.findSome? (·.answer? request)).or
        (secrets.reverse.findSome? (·.answer? request)) := by
  obtain ⟨-, rfl⟩ := secretTable_eq_ok_iff.1 accepted
  have empty : SecretTable.empty.answer? request = none := by
    cases usage : request.usage <;> simp [SecretTable.answer?, SecretTable.empty, usage]
  rw [answer?_foldl GivenPassword.answer?_enter, answer?_foldl GivenSecret.answer?_enter, empty,
    Option.or_none]

/-- **What is given is answered if it can be told apart.**  The arguments are accepted if and
only if no identifier of a secret has an equals sign, which the text of a SHA-1 digest always
has.  If they are accepted, a request is answered by the last argument for it, so that each
identifier has its secret if they are distinct, and each user the password, whatever it is. -/
theorem secretTable_answers_iff (secrets : List GivenSecret) (passwords : List GivenPassword) :
    ((∃ t, secretTable (secrets.map (·.argument)) (passwords.map (·.argument)) = .ok t) ↔
      ∀ s ∈ secrets, '=' ∉ s.id.toList) ∧
    (∀ bs, '=' ∈ (Base64.encode (Sha1.digest bs)).toList) ∧
    ∀ t, secretTable (secrets.map (·.argument)) (passwords.map (·.argument)) = .ok t →
      (∀ request, t.answer? request = (passwords.reverse.findSome? (·.answer? request)).or
        (secrets.reverse.findSome? (·.answer? request))) ∧
      ((secrets.map (·.id)).Nodup → ∀ s ∈ secrets, ∀ hint,
        t.answer? ⟨s.id, hint, .secretKey⟩ = some s.bytes) ∧
      ((passwords.map (·.username)).Nodup → ∀ p ∈ passwords, ∀ hint,
        t.answer? ⟨p.username, hint, .password⟩ = some (Bytes.ofText p.password)) := by
  refine ⟨?_, Base64.pad_mem_encode_digest, fun t accepted =>
    ⟨answer?_of_secretTable accepted, ?_, ?_⟩⟩
  · simp only [secretTable_eq_ok_iff]
    constructor
    · rintro ⟨_, plain, -⟩
      exact plain
    · intro plain
      exact ⟨_, plain, rfl⟩
  · intro distinct s mem hint
    -- a request for a key is none for a password
    have none : passwords.reverse.findSome? (·.answer? ⟨s.id, hint, .secretKey⟩) = none :=
      List.findSome?_eq_none_iff.2 fun _ _ => rfl
    rw [answer?_of_secretTable accepted, none, GivenSecret.findSome?_answer? distinct mem]
    rfl
  · intro distinct p mem hint
    rw [answer?_of_secretTable accepted, GivenPassword.findSome?_answer? distinct mem]
    rfl

/-- Digits are read in either case, and a password may have an equals sign. -/
example : (secretTable ["key-1=0a0B"] ["alice=a=b"]).toOption
    = some ⟨[("key-1", [10, 11])], [("alice", "a=b")]⟩ := by
  decide +kernel

/-- A secret whose identifier is the text of a SHA-1 digest. -/
def digestSecret : GivenSecret where
  id := "AAAAAAAAAAAAAAAAAAAAAAAAAAA="
  bytes := [7]
  text := "07"
  spells := by decide

/-- It cannot be given. -/
theorem not_secretTable_digestSecret :
    digestSecret.argument = "AAAAAAAAAAAAAAAAAAAAAAAAAAA==07" ∧
      ¬∃ t, secretTable [digestSecret.argument] [] = .ok t := by
  refine ⟨by decide, ?_⟩
  rintro ⟨t, accepted⟩
  have given : secretTable ([digestSecret].map (·.argument))
      (([] : List GivenPassword).map (·.argument)) = .ok t := accepted
  exact (secretTable_eq_ok_iff.1 given).1 digestSecret (List.mem_singleton_self _) (by decide)

end CommandLine
end SecurityTokens
