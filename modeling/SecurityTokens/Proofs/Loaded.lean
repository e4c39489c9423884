/-
# What is loaded reads back

A certificate is loaded from its plain encoding, from armour, or out of a path.  In the last
two cases it has bytes that nobody has read: those of its record, written again.  They read back
as the certificate all the same (`IsLoaded.ofDer_der`), since a record reads back, and in no
more bytes than the bound allows:

| loaded from | the record was read from | which is short, since |
| --- | --- | --- |
| plain encoding | all of the bytes | that is checked |
| armour | the bytes that its content begins with | the size of the content is checked |
| path | a value inside the bytes | their length is checked |

So certificates that were loaded are known by their bytes (`IsLoaded.eq_of_der_eq`): what else
a certificate says about itself is the same if the bytes are.
-/

import SecurityTokens.Proofs.Loading
import SecurityTokens.Proofs.Rewritten

namespace SecurityTokens
namespace Certificate

open Der (Tlv Stray)
open X509 (Record Layout)

variable {c c' : Certificate} {t : Tlv} {r : Record} {stray : Stray}

/-- The certificate of a record that was read is read from its bytes. -/
theorem ofDer_encode (readable : t.Readable) (short : t.encode.length < Der.lengthBound)
    (read : Record.ofTlv? stray t = some r) : ofDer r.encode = .ok (ofRecord r) := by
  have passed : Record.ofTlv? .passedOver t = some r := by
    cases stray with
    | passedOver => exact read
    | refused =>
      obtain ⟨l, cut, reads⟩ := Record.ofTlv?_eq_some_iff.1 read
      exact Record.ofTlv?_eq_some_iff.2 ⟨l, cut, (Layout.reads_refused_iff.1 reads).1⟩
  obtain ⟨fits, again⟩ := Record.rewrites t r readable passed
  have whole : Tlv.ofBytes? r.encode = some r.toTlv :=
    Tlv.ofBytes?_eq_some_iff.2 ⟨fits.readable, rfl, Nat.lt_of_le_of_lt fits.length_le short⟩
  refine ofDer_eq_ok_iff.2 ⟨?_, rfl⟩
  rw [Record.ofBytes?, whole]
  exact again

/-- There is no more to read in armour than it holds. -/
theorem length_decodeQuads_le (bs : Bytes) : (Base64.decodeQuads bs).length ≤ bs.length / 4 * 3 := by
  fun_induction Base64.decodeQuads bs with
  | case1 a b c d rest p q r s known n ih =>
    simp only [List.length_cons]
    omega
  | case2 => exact Nat.zero_le _
  | case3 => exact Nat.zero_le _

theorem length_readable_le {text : Bytes} {content : Pem.Content}
    (held : Pem.content? text = some content) : content.readable.length ≤ content.size := by
  obtain ⟨body, -, held⟩ := Option.bind_eq_some_iff.1 held
  obtain ⟨lines, -, held⟩ := Option.bind_eq_some_iff.1 held
  dsimp only at held
  split at held
  next quads =>
    obtain ⟨last, -, held⟩ := Option.bind_eq_some_iff.1 held
    split at held
    next whole =>
      cases held
      rw [List.length_append]
      exact Nat.le_of_eq whole.1
    next =>
      cases held
      have leading := length_decodeQuads_le (lines.flatten.take (lines.flatten.length - 4))
      rw [List.length_take_of_le (Nat.sub_le _ _)] at leading
      exact Nat.le_trans leading (Nat.le_add_right _ _)
  next => cases held

/-- A certificate that was loaded, in one of the ways there are. -/
inductive IsLoaded (c : Certificate) : Prop
  | plain {bs : Bytes} (read : ofDer bs = .ok c)
  | either {bs : Bytes} (read : ofPemOrDer bs = .ok c)
  | path {bs : Bytes} {cs : List Certificate} (read : ofPkiPath bs = .ok cs) (mem : c ∈ cs)

theorem ofDer_der_of_ofDer {bs : Bytes} (read : ofDer bs = .ok c) : ofDer c.der = .ok c := by
  obtain ⟨-, same⟩ := ofDer_eq_ok_iff.1 read
  rwa [same]

theorem ofDer_der_of_ofPem {text : Bytes} (read : ofPem text = .ok c) : ofDer c.der = .ok c := by
  unfold ofPem at read
  split at read
  next r armoured =>
    obtain rfl := Except.ok.inj read
    obtain ⟨content, held, armoured⟩ := Option.bind_eq_some_iff.1 armoured
    obtain ⟨⟨t, rest⟩, first, armoured⟩ := Option.bind_eq_some_iff.1 armoured
    obtain ⟨readable, written⟩ := Tlv.read?_eq_some_iff.1 first
    dsimp only at armoured
    split at armoured
    next fits =>
      have within := length_readable_le held
      rw [written, List.length_append] at within
      exact ofDer_encode readable (by omega) armoured
    next => cases armoured
  next => cases read

theorem ofDer_der_of_ofPkiPath {bs : Bytes} {cs : List Certificate} (read : ofPkiPath bs = .ok cs)
    (mem : c ∈ cs) : ofDer c.der = .ok c := by
  unfold ofPkiPath at read
  split at read
  next => cases read
  next => cases read
  next records _ path =>
    obtain rfl := Except.ok.inj read
    obtain ⟨r, held, rfl⟩ := List.mem_map.1 mem
    obtain ⟨t, whole, path⟩ := Option.bind_eq_some_iff.1 path
    obtain ⟨items, parts, all⟩ := Option.bind_eq_some_iff.1 path
    obtain ⟨-, rfl, short⟩ := Tlv.ofBytes?_eq_some_iff.1 whole
    obtain ⟨each, rfl⟩ := Tlv.sequence?_eq_some_iff.1 parts
    obtain ⟨fits, again⟩ := Record.rewrites.mapM each all
    have inside : r ∈ records := List.mem_reverse.1 held
    have part : r.toTlv ∈ records.map Record.toTlv := List.mem_map_of_mem inside
    have content := Tlv.length_content_lt (.sequence items)
    have less : r.toTlv.encode.length < Der.lengthBound :=
      calc r.toTlv.encode.length
        _ ≤ (Der.encodeAll (records.map Record.toTlv)).length := Der.length_encode_le_of_mem part
        _ ≤ (Der.encodeAll items).length := fits.length_le
        _ < Der.lengthBound := Nat.lt_trans content short
    exact ofDer_encode (fits.readable _ part) less (X509.mapM_map_eq_some_iff.1 again r inside)

/-- **What is loaded reads back from its bytes.** -/
theorem IsLoaded.ofDer_der (loaded : c.IsLoaded) : ofDer c.der = .ok c := by
  cases loaded with
  | plain read => exact ofDer_der_of_ofDer read
  | either read =>
    unfold ofPemOrDer at read
    split at read
    next => exact ofDer_der_of_ofPem read
    next => exact ofDer_der_of_ofDer read
  | path read mem => exact ofDer_der_of_ofPkiPath read mem

/-- Certificates that were loaded are known by their bytes. -/
theorem IsLoaded.eq_of_der_eq (loaded : c.IsLoaded) (loaded' : c'.IsLoaded)
    (same : c.der = c'.der) : c = c' := by
  have read := loaded.ofDer_der
  rw [same, loaded'.ofDer_der] at read
  exact (Except.ok.inj read).symm

end Certificate
end SecurityTokens
