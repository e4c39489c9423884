/-
# Who is found first

What a store holds is settled by what was added to it and in which order: every certificate
once, where it was first added (`HoldsInOrder`).  One more certificate keeps that up, and so do
any number of them.

The three questions that a store answers by searching are of different kinds, and none of them
names one certificate only: two may have the same key, or issuers that are spelled differently.
The answers follow one rule all the same:

| question | answer |
| --- | --- |
| that names a certificate that was added | the one that was added first |
| that names no certificate that was added | none |
| that was answered once | the same, whatever is added afterwards |

The second row needs more than the order.  A certificate is not added if one with its bytes is
there, so that one has to be named if the other one is: certificates that were loaded are known
by their bytes.
-/

import Mathlib.Data.List.Basic
import SecurityTokens.Certificate.Store
import SecurityTokens.Proofs.LeadingCertificate
import SecurityTokens.Proofs.Loaded

namespace SecurityTokens
namespace CertificateStore

variable {s : CertificateStore} {c : Certificate} {cs added : List Certificate}

/-! ## What is held -/

/-- A store holds the certificates that were added, each once, in the order in which they were
added first. -/
structure HoldsInOrder (s : CertificateStore) (added : List Certificate) : Prop where
  distinct : (s.certificates.map (·.der)).Nodup
  mem_iff : ∀ c, c ∈ s.certificates ↔ c ∈ added
  ordered : s.certificates.Pairwise fun c d => added.idxOf c < added.idxOf d

theorem contains_iff : s.contains c = true ↔ c.der ∈ s.certificates.map (·.der) := by
  simp only [contains, List.any_eq_true, beq_iff_eq, List.mem_map]

theorem holdsInOrder_empty : empty.HoldsInOrder [] where
  distinct := List.nodup_nil
  mem_iff := fun _ => Iff.rfl
  ordered := List.Pairwise.nil

namespace HoldsInOrder

/-- Only one store holds the certificates in their order. -/
theorem eq {s' : CertificateStore} (holds : s.HoldsInOrder added) (holds' : s'.HoldsInOrder added) :
    s = s' := by
  have same : s.certificates.Perm s'.certificates := by
    refine (List.perm_ext_iff_of_nodup holds.distinct.of_map holds'.distinct.of_map).2 fun c => ?_
    rw [holds.mem_iff, holds'.mem_iff]
  have listed : s.certificates = s'.certificates :=
    same.eq_of_pairwise (fun _ _ _ _ before after => absurd after (Nat.lt_asymm before))
      holds.ordered holds'.ordered
  exact congrArg CertificateStore.mk listed

/-- The order of what is held does not change by what is added behind it. -/
theorem ordered_append (holds : s.HoldsInOrder added) (cs : List Certificate) :
    s.certificates.Pairwise fun c d => (added ++ cs).idxOf c < (added ++ cs).idxOf d := by
  refine holds.ordered.imp_of_mem fun first second before => ?_
  rwa [List.idxOf_append_of_mem ((holds.mem_iff _).1 first),
    List.idxOf_append_of_mem ((holds.mem_iff _).1 second)]

/-- One more certificate that was loaded. -/
theorem add (holds : s.HoldsInOrder added) (loaded : ∀ d ∈ added ++ [c], d.IsLoaded) :
    (s.add c).HoldsInOrder (added ++ [c]) := by
  rw [CertificateStore.add]
  split
  next known =>
    obtain ⟨d, held, same⟩ := List.mem_map.1 (contains_iff.1 known)
    have earlier : d ∈ added := (holds.mem_iff d).1 held
    obtain rfl : d = c := Certificate.IsLoaded.eq_of_der_eq
      (loaded d (List.mem_append_left _ earlier)) (loaded c List.mem_concat_self) same
    refine ⟨holds.distinct, fun e => ?_, holds.ordered_append [d]⟩
    rw [holds.mem_iff, List.mem_append, List.mem_singleton]
    exact ⟨.inl, fun mem => mem.elim id fun same => same ▸ earlier⟩
  next new =>
    rw [contains_iff] at new
    have fresh : c ∉ added := fun mem =>
      new (List.mem_map_of_mem ((holds.mem_iff c).2 mem))
    refine ⟨?_, fun e => ?_, ?_⟩
    · rw [List.map_append, List.map_singleton]
      exact List.concat_eq_append ▸ holds.distinct.concat new
    · rw [List.mem_append, List.mem_append, holds.mem_iff]
    · refine List.pairwise_append.2 ⟨holds.ordered_append [c], List.pairwise_singleton _ c, ?_⟩
      intro d held e last
      obtain rfl := List.mem_singleton.1 last
      have earlier : d ∈ added := (holds.mem_iff d).1 held
      rw [List.idxOf_append_of_mem earlier, List.idxOf_append_of_notMem fresh]
      exact Nat.lt_add_right _ (List.idxOf_lt_length_of_mem earlier)

/-- Who stands behind another one was added after it. -/
theorem idxOf_lt_of_behind {d : Certificate} {front back : List Certificate}
    (holds : s.HoldsInOrder added) (held : s.certificates = front ++ c :: back) (behind : d ∈ back) :
    added.idxOf c < added.idxOf d := by
  have ordered := holds.ordered
  rw [held, List.pairwise_append] at ordered
  exact List.rel_of_pairwise_cons ordered.2.1 behind

/-- What is found first in the store was added first. -/
theorem find?_eq (holds : s.HoldsInOrder added) (p : Certificate → Bool) :
    s.certificates.find? p = added.find? p := by
  cases found : s.certificates.find? p with
  | none =>
    refine (List.find?_eq_none.2 fun d mem => ?_).symm
    exact List.find?_eq_none.1 found d ((holds.mem_iff d).2 mem)
  | some c =>
    obtain ⟨named, front, back, held, missed⟩ := List.find?_eq_some_iff_append.1 found
    have mem : c ∈ added := (holds.mem_iff c).1 (List.mem_of_find?_eq_some found)
    obtain ⟨before, after, listed, fresh⟩ := List.eq_append_cons_of_mem mem
    refine (List.find?_eq_some_iff_append.2
      ⟨named, before, after, listed, fun d early => ?_⟩).symm
    -- The store has `d` in front of `c`, where none is named, or behind it, where all are later.
    have inside : d ∈ s.certificates :=
      (holds.mem_iff d).2 (listed ▸ List.mem_append_left _ early)
    rw [held, List.mem_append, List.mem_cons] at inside
    rcases inside with ahead | rfl | behind
    · exact missed d ahead
    · exact absurd early fresh
    · have later : added.idxOf c < added.idxOf d := holds.idxOf_lt_of_behind held behind
      rw [listed, List.idxOf_append_of_notMem fresh, List.idxOf_append_of_mem early] at later
      have within := List.idxOf_lt_length_of_mem early
      omega

end HoldsInOrder

theorem ofList_concat : ofList (cs ++ [c]) = (ofList cs).add c := List.foldl_concat ..

/-- A store holds in order what was added to it. -/
theorem holdsInOrder_ofList (cs : List Certificate) (loaded : ∀ c ∈ cs, c.IsLoaded) :
    (ofList cs).HoldsInOrder cs := by
  induction cs using List.reverseRecOn with
  | nil => exact holdsInOrder_empty
  | append_singleton cs c ih =>
    rw [ofList_concat]
    exact (ih fun d mem => loaded d (List.mem_append_left _ mem)).add loaded

/-! ## What is added afterwards -/

theorem prefix_add (s : CertificateStore) (c : Certificate) :
    s.certificates <+: (s.add c).certificates := by
  rw [add]
  split
  · exact List.prefix_refl _
  · exact List.prefix_append _ _

/-- What is held stays where it is. -/
theorem prefix_foldl_add (s : CertificateStore) (later : List Certificate) :
    s.certificates <+: (later.foldl add s).certificates := by
  induction later generalizing s with
  | nil => exact List.prefix_refl _
  | cons c later ih => exact (prefix_add s c).trans (ih (s.add c))

/-! ## What is answered -/

/-- A question that is answered by searching. -/
inductive Query where
  | issuerSerial (issuer serial : String)
  | subjectKeyIdentifier (value : Bytes)
  | thumbprint (value : Bytes)

namespace Query

/-- Whether a question names a certificate. -/
def names : Query → Certificate → Bool
  | issuerSerial issuer serial, c => c.matchesIssuerSerial issuer serial
  | subjectKeyIdentifier value, c => c.subjectKeyIdentifier == value
  | thumbprint value, c => c.thumbprint == value

/-- Puts a question to a source. -/
def ask (source : CertificateSource) : Query → Except Error (Option Certificate)
  | issuerSerial issuer serial => source.byIssuerSerial issuer serial
  | subjectKeyIdentifier value => source.byIdentifier .subjectKeyIdentifier value
  | thumbprint value => source.byIdentifier .thumbprintSha1 value

theorem ask_source (q : Query) (s : CertificateStore) :
    q.ask s.source = .ok (s.certificates.find? q.names) := by
  cases q <;> rfl

/-- An answer stays the same when more is added. -/
theorem ask_of_ask {q : Query} (later : List Certificate) (answered : q.ask s.source = .ok (some c)) :
    q.ask (later.foldl add s).source = .ok (some c) := by
  rw [ask_source, Except.ok.injEq] at answered ⊢
  exact (prefix_foldl_add s later).find?_eq_some answered

end Query

/-- **The certificate that was added first is found, for good.**  The answer to a question is
the first of the certificates it names, in the order in which they were added; there is none
just if it names none of them; and whatever is added later, the answer stays. -/
theorem answers_first_added (cs : List Certificate) (loaded : ∀ c ∈ cs, c.IsLoaded) :
    (ofList cs).HoldsInOrder cs ∧
      ∀ q : Query,
        (∀ c, q.ask (ofList cs).source = .ok (some c) ↔
          ∃ before after, cs = before ++ c :: after ∧ q.names c = true ∧
            ∀ d ∈ before, q.names d = false) ∧
        (q.ask (ofList cs).source = .ok none ↔ ∀ c ∈ cs, q.names c = false) ∧
        ∀ c, q.ask (ofList cs).source = .ok (some c) →
          ∀ later : List Certificate,
            q.ask (later.foldl add (ofList cs)).source = .ok (some c) := by
  have holds := holdsInOrder_ofList cs loaded
  refine ⟨holds, fun q => ⟨fun c => ?_, ?_, fun c answered later => q.ask_of_ask later answered⟩⟩
  · rw [Query.ask_source, Except.ok.injEq, holds.find?_eq, List.find?_eq_some_iff_append]
    simp only [Bool.not_eq_true']
    constructor
    · rintro ⟨named, before, after, listed, missed⟩
      exact ⟨before, after, listed, named, missed⟩
    · rintro ⟨before, after, listed, named, missed⟩
      exact ⟨named, before, after, listed, missed⟩
  · rw [Query.ask_source, Except.ok.injEq, holds.find?_eq, List.find?_eq_none]
    simp only [Bool.not_eq_true]

/-- The certificate of `c`, who has the key of `a` and the same issuer. -/
def twinCertificate : Certificate := .ofRecord (KeyInfo.letterRecord 0x63 0x62 15 [])

theorem ofDer_twinCertificate : Certificate.ofDer twinCertificate.der = .ok twinCertificate :=
  Certificate.ofDer_eq_ok_iff.2 ⟨by decide +kernel, rfl⟩

/-- The key that two certificates share leads to the one that was added first. -/
theorem leaf_found_for_twin :
    (∀ c ∈ [KeyInfo.leafCertificate, twinCertificate, KeyInfo.leafCertificate], c.IsLoaded) ∧
      twinCertificate ≠ KeyInfo.leafCertificate ∧
      (ofList [KeyInfo.leafCertificate, twinCertificate, KeyInfo.leafCertificate]).size = 2 ∧
      ∀ later : List Certificate,
        (Query.subjectKeyIdentifier twinCertificate.subjectKeyIdentifier).ask
            (later.foldl add (ofList
              [KeyInfo.leafCertificate, twinCertificate, KeyInfo.leafCertificate])).source
          = .ok (some KeyInfo.leafCertificate) := by
  have loaded : ∀ c ∈ [KeyInfo.leafCertificate, twinCertificate, KeyInfo.leafCertificate],
      c.IsLoaded := by
    intro c mem
    simp only [List.mem_cons, List.not_mem_nil, or_false] at mem
    rcases mem with rfl | rfl | rfl
    · exact .plain KeyInfo.ofDer_leafCertificate
    · exact .plain ofDer_twinCertificate
    · exact .plain KeyInfo.ofDer_leafCertificate
  have shared : twinCertificate.subjectKeyIdentifier
      = KeyInfo.leafCertificate.subjectKeyIdentifier := rfl
  obtain ⟨first, -, stable⟩ := (answers_first_added _ loaded).2
    (.subjectKeyIdentifier twinCertificate.subjectKeyIdentifier)
  refine ⟨loaded, by decide +kernel, by decide +kernel, stable _ ((first _).2 ?_)⟩
  refine ⟨[], _, rfl, ?_, fun d mem => absurd mem List.not_mem_nil⟩
  exact beq_iff_eq.2 shared.symm

end CertificateStore
end SecurityTokens
