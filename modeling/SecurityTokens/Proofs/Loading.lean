/-
# One certificate, however it is loaded

A certificate is loaded from its plain encoding, from armour around it, or out of a path.
Plain bytes are kept; in the other two ways the record is encoded again.

| loaded from | bytes after it | fields out of place | bytes of the certificate |
| --- | --- | --- | --- |
| plain encoding | refused | passed over | as they were |
| armour | left | refused | of the record |
| path | the next certificate | passed over | of the record |

So all three agree on certificates in canonical layout, and on no others: encodings that the
plain reader takes give other bytes, and with them other thumbprints, or are refused, and armour
may hold more than a certificate (`loadedAlike_iff`).
-/

import SecurityTokens.Proofs.Armour
import SecurityTokens.Proofs.CertificateNames
import SecurityTokens.Proofs.Layout

namespace SecurityTokens

open Der (Tlv)
open X509 (Record Layout)
open Resolution (smallRecord smallCertificate)

namespace X509

variable {bs : Bytes} {r : Record}

theorem Record.ofBytes?_eq_some_iff : Record.ofBytes? bs = some r ↔
    ∃ t l, Tlv.ofBytes? bs = some t ∧ Layout.ofTlv? t = some l ∧ l.Reads .passedOver r := by
  rw [Record.ofBytes?, Option.bind_eq_some_iff]
  simp only [Record.ofTlv?_eq_some_iff, exists_and_left]

/-- The encoding of the record is that it was read from just if the layout is canonical. -/
theorem Record.encode_eq_iff (read : Record.ofBytes? bs = some r) :
    r.encode = bs ↔ ∃ l ∈ Layout.ofBytes? bs, l.IsCanonical := by
  obtain ⟨t, l, whole, cut, reads⟩ := ofBytes?_eq_some_iff.1 read
  obtain ⟨readable, rfl, short⟩ := Tlv.ofBytes?_eq_some_iff.1 whole
  have layout : Layout.ofBytes? t.encode = some l := by
    rw [Layout.ofBytes?, whole, Option.bind_some, cut]
  rw [layout, Record.encode, eq_comm, Tlv.encode_inj readable.known short, eq_comm,
    Record.toTlv_eq_iff readable cut reads]
  simp only [Option.mem_some_iff, exists_eq_left']

end X509

namespace Certificate

variable {bs front rest : Bytes} {c : Certificate}

/-- The bytes are a certificate in canonical layout. -/
def IsCanonical (bs : Bytes) : Prop := ∃ l ∈ Layout.ofBytes? bs, l.IsCanonical

/-- The bytes are a certificate without fields out of place. -/
def IsAscending (bs : Bytes) : Prop := ∃ l ∈ Layout.ofBytes? bs, Der.Ascends 0 l.tail

instance : DecidablePred IsCanonical := fun bs =>
  inferInstanceAs (Decidable (∃ l ∈ Layout.ofBytes? bs, l.IsCanonical))

instance : DecidablePred IsAscending := fun bs =>
  inferInstanceAs (Decidable (∃ l ∈ Layout.ofBytes? bs, Der.Ascends 0 l.tail))

/-- The bytes begin with a certificate and go on after it. -/
def GoesOn (bs : Bytes) : Prop :=
  bs.length < Der.lengthBound ∧ ∃ front rest c, bs = front ++ rest ∧ rest ≠ [] ∧
    ofDer front = .ok c ∧ IsAscending front

theorem IsCanonical.isAscending (h : IsCanonical bs) : IsAscending bs := by
  obtain ⟨l, layout, canonical⟩ := h
  exact ⟨l, layout, canonical.ascends⟩

/-! ## The plain encoding -/

theorem ofDer_eq_ok_iff : ofDer bs = .ok c ↔ Record.ofBytes? bs = some c.record ∧ c.der = bs := by
  obtain ⟨record, der⟩ := c
  rw [ofDer]
  split
  next r read =>
    rw [read, Except.ok.injEq, mk.injEq, Option.some.injEq, eq_comm (a := bs)]
  next unread => simp only [unread, reduceCtorEq, false_and]

/-- A certificate is the certificate of its record just if its bytes are canonical. -/
theorem ofRecord_eq_iff (read : ofDer bs = .ok c) : ofRecord c.record = c ↔ IsCanonical bs := by
  obtain ⟨record, rfl⟩ := ofDer_eq_ok_iff.1 read
  rw [IsCanonical, ← Record.encode_eq_iff record]
  obtain ⟨r, der⟩ := c
  rw [ofRecord, mk.injEq, eq_self, true_and]

/-- Bytes are a certificate and nothing after it in one way at most. -/
theorem eq_nil_of_ofDer_append {c' : Certificate} (whole : ofDer (front ++ rest) = .ok c)
    (part : ofDer front = .ok c') : rest = [] := by
  obtain ⟨t, _, bytes, -, -⟩ := Record.ofBytes?_eq_some_iff.1 (ofDer_eq_ok_iff.1 whole).1
  obtain ⟨t', _, bytes', -, -⟩ := Record.ofBytes?_eq_some_iff.1 (ofDer_eq_ok_iff.1 part).1
  obtain ⟨readable, written, -⟩ := Tlv.ofBytes?_eq_some_iff.1 bytes
  obtain ⟨readable', rfl, -⟩ := Tlv.ofBytes?_eq_some_iff.1 bytes'
  have first := Tlv.read?_eq_some_iff.2 ⟨readable, written.trans (List.append_nil _).symm⟩
  have first' := Tlv.read?_encode readable' rest
  rw [first'] at first
  exact (Prod.mk.inj (Option.some.inj first)).2

theorem not_goesOn_of_ofDer (read : ofDer bs = .ok c) : ¬ GoesOn bs := by
  rintro ⟨-, front, rest, c', rfl, more, part, -⟩
  exact more (eq_nil_of_ofDer_append read part)

/-! ## Armour -/

variable {e : Pem.LineEnd} {closed : Bool}

/-- What is read from armour is the record of the value that its content begins with. -/
theorem armouredRecord?_armour : armouredRecord? (Pem.armour e closed bs)
    = (Tlv.read? bs).bind fun first =>
        if bs.length < Der.lengthBound then Record.ofTlv? .refused first.1 else none := by
  by_cases filled : bs = []
  · subst filled
    rw [armouredRecord?, Pem.content?_armour_nil]
    rfl
  · rw [armouredRecord?, Pem.content?_armour closed filled]
    simp only [Option.bind_eq_bind, Option.bind_some, Pem.Content.serves_of_readable, and_true]

/-- **Armour gives the certificate that its content begins with**, encoded again. -/
theorem ofPemOrDer_armour_eq_ok_iff : ofPemOrDer (Pem.armour e closed bs) = .ok c ↔
    bs.length < Der.lengthBound ∧ ∃ front rest c', bs = front ++ rest ∧ ofDer front = .ok c' ∧
      IsAscending front ∧ ofRecord c'.record = c := by
  have opened : ofPemOrDer (Pem.armour e closed bs) = .ok c ↔
      ∃ r, armouredRecord? (Pem.armour e closed bs) = some r ∧ ofRecord r = c := by
    rw [ofPemOrDer, if_pos (Pem.isPrefixOf_opening_armour closed bs), ofPem]
    split
    next r read => simp only [read, Except.ok.injEq, Option.some.injEq, exists_eq_left']
    next unread => simp only [unread, reduceCtorEq, false_and, exists_false]
  rw [opened, armouredRecord?_armour]
  constructor
  · rintro ⟨r, read, rfl⟩
    obtain ⟨⟨t, rest⟩, first, read⟩ := Option.bind_eq_some_iff.1 read
    obtain ⟨readable, rfl⟩ := Tlv.read?_eq_some_iff.1 first
    split at read
    next short =>
      obtain ⟨l, cut, reads⟩ := Record.ofTlv?_eq_some_iff.1 read
      obtain ⟨reads, ascends⟩ := Layout.reads_refused_iff.1 reads
      have shorter : t.encode.length < Der.lengthBound := by
        rw [List.length_append] at short
        omega
      have whole := Tlv.ofBytes?_eq_some_iff.2 ⟨readable, rfl, shorter⟩
      refine ⟨short, t.encode, rest, ⟨r, t.encode⟩, rfl, ?_, ⟨l, ?_, ascends⟩, rfl⟩
      · exact ofDer_eq_ok_iff.2 ⟨Record.ofBytes?_eq_some_iff.2 ⟨t, l, whole, cut, reads⟩, rfl⟩
      · exact Option.bind_eq_some_iff.2 ⟨t, whole, cut⟩
    next => cases read
  · rintro ⟨short, front, rest, c', rfl, read, ⟨l, layout, ascends⟩, rfl⟩
    obtain ⟨record, -⟩ := ofDer_eq_ok_iff.1 read
    obtain ⟨t, l', whole, cut, reads⟩ := Record.ofBytes?_eq_some_iff.1 record
    obtain ⟨readable, rfl, -⟩ := Tlv.ofBytes?_eq_some_iff.1 whole
    obtain rfl : l' = l := by
      rw [Layout.ofBytes?, whole, Option.bind_some, cut] at layout
      exact Option.some.inj layout
    refine ⟨c'.record, ?_, rfl⟩
    rw [Tlv.read?_encode readable rest, Option.bind_some, if_pos short]
    exact Record.ofTlv?_eq_some_iff.2 ⟨l', cut, Layout.reads_refused_iff.2 ⟨reads, ascends⟩⟩

/-- Armour gives what the plain encoding gives just if that is canonical, or refused for
another reason than that it goes on after a certificate. -/
theorem toOption_armour_eq_iff :
    (ofPemOrDer (Pem.armour e closed bs)).toOption = (ofDer bs).toOption ↔
      (∀ c, ofDer bs = .ok c → IsCanonical bs) ∧ ¬ GoesOn bs := by
  have toOption (x : Except Error Certificate) (c : Certificate) :
      x.toOption = some c ↔ x = .ok c := by
    cases x <;> simp [Except.toOption]
  have same : (ofPemOrDer (Pem.armour e closed bs)).toOption = (ofDer bs).toOption ↔
      ∀ c, ofPemOrDer (Pem.armour e closed bs) = .ok c ↔ ofDer bs = .ok c := by
    rw [Option.ext_iff]
    exact forall_congr' fun c => iff_congr (toOption _ c) (toOption _ c)
  rw [same]
  constructor
  · intro alike
    constructor
    · intro c plain
      obtain ⟨-, front, rest, c', rfl, part, -, rewritten⟩ :=
        ofPemOrDer_armour_eq_ok_iff.1 ((alike c).2 plain)
      obtain rfl := eq_nil_of_ofDer_append plain part
      rw [List.append_nil] at plain ⊢
      obtain rfl := Except.ok.inj (plain.symm.trans part)
      exact (ofRecord_eq_iff plain).1 rewritten
    · rintro ⟨short, front, rest, c, rfl, more, part, ascends⟩
      have armoured : ofPemOrDer (Pem.armour e closed (front ++ rest)) = .ok (ofRecord c.record) :=
        ofPemOrDer_armour_eq_ok_iff.2 ⟨short, front, rest, c, rfl, part, ascends, rfl⟩
      exact more (eq_nil_of_ofDer_append ((alike _).1 armoured) part)
  · rintro ⟨canonical, ends⟩ c
    constructor
    · intro armoured
      obtain ⟨short, front, rest, c', rfl, part, ascends, rewritten⟩ :=
        ofPemOrDer_armour_eq_ok_iff.1 armoured
      by_cases done : rest = []
      · subst done
        rw [List.append_nil] at canonical ⊢
        rwa [← rewritten, (ofRecord_eq_iff part).2 (canonical c' part)]
      · exact absurd ⟨short, front, rest, c', rfl, done, part, ascends⟩ ends
    · intro plain
      have written := canonical c plain
      obtain ⟨_, _, whole, -⟩ := Record.ofBytes?_eq_some_iff.1 (ofDer_eq_ok_iff.1 plain).1
      obtain ⟨-, -, short⟩ := Tlv.ofBytes?_eq_some_iff.1 whole
      exact ofPemOrDer_armour_eq_ok_iff.2 ⟨short, bs, [], c, (List.append_nil bs).symm, plain,
        written.isAscending, (ofRecord_eq_iff plain).2 written⟩

/-! ## Paths -/

/-- The certificates of a path are values in a row. -/
theorem exists_items_of_mapM {parts : List Bytes} {cs : List Certificate}
    (read : parts.mapM ofDer = .ok cs) :
    ∃ items : List Tlv, (∀ t ∈ items, t.Readable) ∧ parts.flatten = Der.encodeAll items ∧
      items.mapM (Record.ofTlv? .passedOver) = some (cs.map record) := by
  induction parts generalizing cs with
  | nil =>
    cases read
    exact ⟨[], fun _ mem => (List.not_mem_nil mem).elim, rfl, rfl⟩
  | cons bs parts ih =>
    rw [List.mapM_cons] at read
    obtain ⟨c, first, read⟩ := Except.bind_eq_ok_iff.1 read
    obtain ⟨cs, others, read⟩ := Except.bind_eq_ok_iff.1 read
    cases read
    obtain ⟨items, readable, written, records⟩ := ih others
    obtain ⟨t, whole, record⟩ := Option.bind_eq_some_iff.1 (ofDer_eq_ok_iff.1 first).1
    obtain ⟨readable', rfl, -⟩ := Tlv.ofBytes?_eq_some_iff.1 whole
    refine ⟨t :: items, List.forall_mem_cons.2 ⟨readable', readable⟩, ?_, ?_⟩
    · rw [List.flatten_cons, written, Der.encodeAll_cons]
    · rw [List.mapM_cons, record, records]
      rfl

/-- The path of certificates, each in its plain encoding. -/
def pathOf (parts : List Bytes) : Bytes := Tlv.encode ⟨0x30, parts.flatten⟩

/-- A path gives its certificates the other way round, all of them encoded again. -/
theorem ofPkiPath_pathOf {parts : List Bytes} {cs : List Certificate} (filled : parts ≠ [])
    (read : parts.mapM ofDer = .ok cs) : ofPkiPath (pathOf parts)
      = if (pathOf parts).length < Der.lengthBound then
          .ok (cs.reverse.map fun c => ofRecord c.record)
        else .error (.certificate .notPkiPath) := by
  obtain ⟨items, readable, written, records⟩ := exists_items_of_mapM read
  split
  next short =>
    have content := Nat.lt_trans (Tlv.length_content_lt ⟨0x30, parts.flatten⟩) short
    have whole : Tlv.ofBytes? (pathOf parts) = some ⟨0x30, parts.flatten⟩ :=
      Tlv.ofBytes?_eq_some_iff.2 ⟨⟨rfl, content⟩, rfl, short⟩
    have inner : Tlv.sequence? ⟨0x30, parts.flatten⟩ = some items :=
      Tlv.sequence?_eq_some_iff.2 ⟨readable, congrArg (Tlv.mk 0x30) written⟩
    have path : Record.path? (pathOf parts) = some (cs.map record) := by
      rw [Record.path?, whole]
      simp only [Option.bind_eq_bind, Option.bind_some, inner, records]
    rw [ofPkiPath, path]
    cases cs with
    | nil =>
      obtain ⟨bs, parts, rfl⟩ := List.exists_cons_of_ne_nil filled
      rw [List.mapM_cons] at read
      obtain ⟨_, -, read⟩ := Except.bind_eq_ok_iff.1 read
      obtain ⟨_, -, read⟩ := Except.bind_eq_ok_iff.1 read
      cases read
    | cons c cs =>
      show Except.ok ((List.map record (c :: cs)).reverse.map ofRecord) = _
      rw [← List.map_reverse, List.map_map]
      rfl
  next long =>
    have unread : Record.path? (pathOf parts) = none := by
      rw [Record.path?, Tlv.ofBytes?, if_neg long]
      rfl
    rw [ofPkiPath, unread]

/-- Certificates are those of their records just if their encodings are canonical. -/
theorem forall_ofRecord_eq_iff {parts : List Bytes} {cs : List Certificate}
    (read : parts.mapM ofDer = .ok cs) :
    (∀ c ∈ cs, ofRecord c.record = c) ↔ ∀ bs ∈ parts, IsCanonical bs := by
  induction parts generalizing cs with
  | nil =>
    obtain rfl : [] = cs := Except.ok.inj read
    simp only [List.not_mem_nil, false_implies, implies_true]
  | cons bs parts ih =>
    rw [List.mapM_cons] at read
    obtain ⟨c, first, read⟩ := Except.bind_eq_ok_iff.1 read
    obtain ⟨cs, others, read⟩ := Except.bind_eq_ok_iff.1 read
    cases read
    rw [List.forall_mem_cons, List.forall_mem_cons, ofRecord_eq_iff first, ih others]

/-- A path gives what the plain encodings give just if all of them are canonical and there
are not too many bytes. -/
theorem ofPkiPath_pathOf_eq_iff {parts : List Bytes} {cs : List Certificate} (filled : parts ≠ [])
    (read : parts.mapM ofDer = .ok cs) : ofPkiPath (pathOf parts) = .ok cs.reverse ↔
      (pathOf parts).length < Der.lengthBound ∧ ∀ bs ∈ parts, IsCanonical bs := by
  rw [ofPkiPath_pathOf filled read]
  split
  next short =>
    have fixed := List.map_inj_left (l := cs) (f := fun c => ofRecord c.record) (g := id)
    rw [List.map_id] at fixed
    rw [Except.ok.injEq, List.map_reverse, List.reverse_inj, fixed]
    exact (forall_ofRecord_eq_iff read).trans ⟨fun all => ⟨short, all⟩, fun h => h.2⟩
  next long => exact iff_of_false (fun h => nomatch h) fun h => long h.1

end Certificate

/-- **A certificate is the same certificate however it is loaded just if it is canonical.**
Armour around bytes, with any line ends, gives what the bytes give just if they are no
certificate, or one in canonical layout; but where they go on after a certificate the armour alone
gives one.  And a path of certificates gives those certificates just if each is in
canonical layout and the path is within the bound on what is read. -/
theorem loadedAlike_iff (e : Pem.LineEnd) (closed : Bool) (bs : Bytes) (parts : List Bytes)
    (cs : List Certificate) :
    ((Certificate.ofPemOrDer (Pem.armour e closed bs)).toOption = (Certificate.ofDer bs).toOption ↔
      (∀ c, Certificate.ofDer bs = .ok c → Certificate.IsCanonical bs) ∧
        ¬ Certificate.GoesOn bs) ∧
    (parts ≠ [] → parts.mapM Certificate.ofDer = .ok cs →
      (Certificate.ofPkiPath (Certificate.pathOf parts) = .ok cs.reverse ↔
        (Certificate.pathOf parts).length < Der.lengthBound ∧
          ∀ bs ∈ parts, Certificate.IsCanonical bs)) :=
  ⟨Certificate.toOption_armour_eq_iff, Certificate.ofPkiPath_pathOf_eq_iff⟩

theorem ofDer_smallRecord : Certificate.ofDer smallRecord.encode = .ok smallCertificate := by
  have record : Record.ofBytes? smallRecord.encode = some smallRecord := by decide +kernel
  exact Certificate.ofDer_eq_ok_iff.2 ⟨record, rfl⟩

/-- The small certificate is the same in armour, plain, and twice in a path. -/
theorem loadedAlike_smallRecord :
    (Certificate.ofPemOrDer (Pem.armour .both false smallRecord.encode)).toOption
        = (Certificate.ofDer smallRecord.encode).toOption ∧
      Certificate.ofPkiPath (Certificate.pathOf [smallRecord.encode, smallRecord.encode])
        = .ok [smallCertificate, smallCertificate] := by
  have canonical : Certificate.IsCanonical smallRecord.encode := by decide +kernel
  have read : [smallRecord.encode, smallRecord.encode].mapM Certificate.ofDer
      = .ok [smallCertificate, smallCertificate] := by
    rw [List.mapM_cons, List.mapM_cons, ofDer_smallRecord]
    rfl
  have each : ∀ bs ∈ [smallRecord.encode, smallRecord.encode], Certificate.IsCanonical bs := by
    simp only [List.forall_mem_cons, canonical, List.not_mem_nil, false_implies, implies_true,
      and_self]
  obtain ⟨armour, path⟩ := loadedAlike_iff .both false smallRecord.encode
    [smallRecord.encode, smallRecord.encode] [smallCertificate, smallCertificate]
  refine ⟨armour.2 ⟨fun _ _ => canonical, Certificate.not_goesOn_of_ofDer ofDer_smallRecord⟩, ?_⟩
  exact (path (List.cons_ne_nil _ _) read).2 ⟨by decide +kernel, each⟩

/-- The small certificate with its version stated, which is the default. -/
def statedVersion : Bytes :=
  Tlv.encode <| .sequence
    [.sequence (.wrapped 0 ⟨0x02, [0x00]⟩ :: (smallRecord.signedPart.sequence?.getD [])),
      smallRecord.outerAlgorithm.toTlv, smallRecord.signature.toTlv]

/-- With the version stated, armour and path give other bytes than the plain encoding does; and
with a byte after it, the small certificate is in the armour and no plain encoding. -/
theorem not_loadedAlike_statedVersion :
    Certificate.ofDer statedVersion = .ok ⟨smallRecord, statedVersion⟩ ∧
      Certificate.ofPemOrDer (Pem.encode statedVersion) = .ok smallCertificate ∧
      Certificate.ofPkiPath (Certificate.pathOf [statedVersion]) = .ok [smallCertificate] ∧
      smallCertificate.der ≠ statedVersion ∧
      (∀ c, Certificate.ofDer (smallRecord.encode ++ [0x00]) ≠ .ok c) ∧
      Certificate.ofPemOrDer (Pem.encode (smallRecord.encode ++ [0x00]))
        = .ok smallCertificate := by
  have record : Record.ofBytes? statedVersion = some smallRecord := by decide +kernel
  have plain : Certificate.ofDer statedVersion = .ok ⟨smallRecord, statedVersion⟩ :=
    Certificate.ofDer_eq_ok_iff.2 ⟨record, rfl⟩
  have read : [statedVersion].mapM Certificate.ofDer = .ok [⟨smallRecord, statedVersion⟩] := by
    rw [List.mapM_cons, plain]
    rfl
  have armoured : Certificate.ofPemOrDer (Pem.encode statedVersion) = .ok smallCertificate := by
    rw [Pem.encode_eq_armour]
    exact Certificate.ofPemOrDer_armour_eq_ok_iff.2 ⟨by decide +kernel, statedVersion, [], _,
      (List.append_nil _).symm, plain, by decide +kernel, rfl⟩
  have path : Certificate.ofPkiPath (Certificate.pathOf [statedVersion])
      = .ok [smallCertificate] := by
    rw [Certificate.ofPkiPath_pathOf (List.cons_ne_nil _ _) read, if_pos (by decide +kernel)]
    rfl
  have followed : Certificate.ofPemOrDer (Pem.encode (smallRecord.encode ++ [0x00]))
      = .ok smallCertificate := by
    rw [Pem.encode_eq_armour]
    exact Certificate.ofPemOrDer_armour_eq_ok_iff.2 ⟨by decide +kernel, smallRecord.encode, [0x00],
      _, rfl, ofDer_smallRecord, by decide +kernel, rfl⟩
  refine ⟨plain, armoured, path, by decide +kernel, fun c whole => ?_, followed⟩
  exact List.cons_ne_nil _ _ (Certificate.eq_nil_of_ofDer_append whole ofDer_smallRecord)

end SecurityTokens
