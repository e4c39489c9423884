/-
# What a pass records

A pass takes the elements of a header one after the other, and each is processed
in the context of what was recorded of those before it.  `Processes` says so of a
whole list: every element has an outcome, an entry or nothing, in the context of
the outcomes before its own.

| the pass | exactly if |
| --- | --- |
| gives an index | all elements are processed, and no identifier is entered twice |
| fails | the elements before some element give an index and that element fails |

The index consists of the entries of all outcomes in their order, so an element
neither takes the place of another nor leaves anything else behind
(`indexTokens_exact`), and what has been recorded stays until the end
(`exists_kept_of_record`).  An element fails with the error of its processing, or
because its identifier was entered before.
-/

import Mathlib.Data.List.Induction
import Mathlib.Data.List.Nodup
import Mathlib.Data.List.ReduceOption
import SecurityTokens.Proofs.Entries

namespace SecurityTokens

/-- The items of a list with one more are those of the list and, at its end, that one. -/
theorem getElem?_concat_eq_some_iff {α : Type} {xs : List α} {x y : α} {i : Nat} :
    (xs ++ [x])[i]? = some y ↔ xs[i]? = some y ∨ i = xs.length ∧ x = y := by
  rcases Nat.lt_trichotomy i xs.length with earlier | rfl | later
  · rw [List.getElem?_append_left earlier]
    exact (or_iff_left fun h => Nat.ne_of_lt earlier h.1).symm
  · simp
  · have absent : xs[i]? = none := List.getElem?_eq_none (Nat.le_of_lt later)
    have beyond : (xs ++ [x])[i]? = none := by
      apply List.getElem?_eq_none
      rw [List.length_append]
      exact later
    rw [absent, beyond]
    simp [Nat.ne_of_gt later]

/-- What an element of a header is processed to: an entry, or nothing. -/
abbrev HeaderPass.Outcome := Option (String × ProcessedToken)

namespace TokenIndex

/-- The index of the entries that elements are processed to. -/
def ofOutcomes (outcomes : List HeaderPass.Outcome) : TokenIndex := ⟨outcomes.reduceOption⟩

/-- No identifier is entered twice. -/
def Distinct (index : TokenIndex) : Prop := (index.entries.map Prod.fst).Nodup

variable {index index' : TokenIndex} {id : String} {token : ProcessedToken}

theorem insert_eq_ok_iff : index.insert id token = .ok index' ↔
    index.get? id = none ∧ index' = ⟨index.entries ++ [(id, token)]⟩ := by
  unfold insert contains
  cases index.get? id <;> simp [eq_comm]

theorem insert_eq_error_iff {error : Error} : index.insert id token = .error error ↔
    (∃ token', index.get? id = some token') ∧ error = .xmlStructure (.processedTwice id) := by
  unfold insert contains
  cases index.get? id <;> simp [eq_comm]

theorem get?_eq_none_iff : index.get? id = none ↔ id ∉ index.entries.map Prod.fst := by
  rw [get?, List.lookup_eq_none_iff, List.mem_map]
  constructor
  · rintro absent ⟨p, entered, rfl⟩
    exact bne_iff_ne.1 (absent p entered) rfl
  · intro absent p entered
    exact bne_iff_ne.2 fun same => absent ⟨p, entered, same.symm⟩

/-- What an identifier leads to is entered under it. -/
theorem mem_entries_of_get? (known : index.get? id = some token) : (id, token) ∈ index.entries :=
  mem_of_lookup known

/-- If no identifier is entered twice, an identifier leads to every result that is
entered under it. -/
theorem Distinct.get?_eq_some_iff (distinct : index.Distinct) :
    index.get? id = some token ↔ (id, token) ∈ index.entries := by
  refine ⟨mem_entries_of_get?, fun entered => ?_⟩
  obtain ⟨before, after, split⟩ := List.append_of_mem entered
  refine List.lookup_eq_some_iff.2 ⟨before, after, split, fun p earlier => bne_iff_ne.2 ?_⟩
  unfold Distinct at distinct
  rw [split, List.map_append, List.map_cons, List.nodup_append] at distinct
  exact (distinct.2.2 p.1 (List.mem_map_of_mem earlier) id List.mem_cons_self).symm

variable {outcomes : List HeaderPass.Outcome} {outcome : HeaderPass.Outcome}

theorem mem_entries_ofOutcomes_iff :
    (id, token) ∈ (ofOutcomes outcomes).entries ↔ some (id, token) ∈ outcomes :=
  List.reduceOption_mem_iff

theorem ofOutcomes_concat : ofOutcomes (outcomes ++ [outcome])
    = ⟨(ofOutcomes outcomes).entries ++ outcome.toList⟩ := by
  rw [ofOutcomes, List.reduceOption_append, List.reduceOption_singleton]
  rfl

/-- One more outcome keeps the identifiers apart just if its own leads nowhere yet. -/
theorem distinct_concat_iff : (⟨index.entries ++ outcome.toList⟩ : TokenIndex).Distinct ↔
    index.Distinct ∧ ∀ id token, outcome = some (id, token) → index.get? id = none := by
  cases outcome with
  | none => simp [Distinct]
  | some entered =>
    obtain ⟨key, token⟩ := entered
    rw [Distinct, Option.toList_some, List.map_append, List.map_singleton, List.nodup_append]
    refine and_congr_right fun _ => ?_
    simp only [get?_eq_none_iff, Option.some.injEq, Prod.mk.injEq, List.mem_singleton, forall_eq]
    constructor
    · rintro ⟨-, apart⟩ id token' ⟨rfl, -⟩ earlier
      exact apart _ earlier rfl
    · intro fresh
      refine ⟨List.nodup_singleton _, ?_⟩
      rintro id earlier rfl
      exact fresh id token ⟨rfl, rfl⟩ earlier

end TokenIndex

namespace HeaderPass

open TokenIndex (ofOutcomes)

variable {pass : HeaderPass} {document : Xml.Document} {tokens tokens' : TokenIndex}
  {e : Xml.Element} {es : List Xml.Element} {outcome : Outcome} {outcomes : List Outcome}
  {error : Error}

/-- The index of some elements, taken in order. -/
def record (pass : HeaderPass) (document : Xml.Document) (es : List Xml.Element) :
    Asking TokenIndex :=
  es.foldlM (pass.step document) .empty

/-- The ways in which an element ends the pass, given what was recorded before. -/
inductive FailsWith (pass : HeaderPass) (document : Xml.Document) (tokens : TokenIndex)
    (e : Xml.Element) : Error → Prop
  | processing {error : Error}
      (failed : (pass.process (pass.context document tokens) e).result = .error error) :
      FailsWith pass document tokens e error
  | insertion {id : String} {token : ProcessedToken}
      (processed : (pass.process (pass.context document tokens) e).result
        = .ok (some (id, token)))
      (entered : ∃ token', tokens.get? id = some token') :
      FailsWith pass document tokens e (.xmlStructure (.processedTwice id))

/-- Each of the elements is processed to its outcome, in the context of the outcomes
before. -/
structure Processes (pass : HeaderPass) (document : Xml.Document) (es : List Xml.Element)
    (outcomes : List Outcome) : Prop where
  length_eq : outcomes.length = es.length
  result_eq : ∀ i e outcome, es[i]? = some e → outcomes[i]? = some outcome →
    (pass.process (pass.context document (ofOutcomes (outcomes.take i))) e).result = .ok outcome

/-- One element further: its entry, if it has one, is fresh and comes last. -/
theorem result_step_eq_ok_iff : (pass.step document tokens e).result = .ok tokens' ↔
    ∃ outcome : Outcome, (pass.process (pass.context document tokens) e).result = .ok outcome ∧
      (∀ id token, outcome = some (id, token) → tokens.get? id = none) ∧
      tokens' = ⟨tokens.entries ++ outcome.toList⟩ := by
  rw [step, Asking.result_bind_eq_ok_iff]
  refine exists_congr fun outcome => and_congr_right fun _ => ?_
  cases outcome with
  | none =>
    rw [Asking.result_pure_eq_ok_iff, Option.toList_none, List.append_nil]
    simp
  | some entered =>
    obtain ⟨id, token⟩ := entered
    rw [Asking.result_liftM_eq_ok_iff, TokenIndex.insert_eq_ok_iff]
    simp

/-- One element further fails with the error of that element. -/
theorem result_step_eq_error_iff : (pass.step document tokens e).result = .error error ↔
    FailsWith pass document tokens e error := by
  rw [step, Asking.result_bind]
  constructor
  · intro h
    cases processed : (pass.process (pass.context document tokens) e).result with
    | error e' =>
      rw [processed] at h
      cases h
      exact .processing processed
    | ok outcome =>
      rw [processed] at h
      cases outcome with
      | none => cases h
      | some entered =>
        obtain ⟨id, token⟩ := entered
        obtain ⟨earlier, rfl⟩ := TokenIndex.insert_eq_error_iff.1 h
        exact .insertion processed earlier
  · rintro (failed | ⟨processed, entered⟩)
    · rw [failed]
      rfl
    · rw [processed]
      exact TokenIndex.insert_eq_error_iff.2 ⟨entered, rfl⟩

theorem processes_nil_iff : Processes pass document [] outcomes ↔ outcomes = [] := by
  constructor
  · intro processes
    exact List.eq_nil_of_length_eq_zero processes.length_eq
  · rintro rfl
    exact ⟨rfl, fun i e outcome h => by cases h⟩

/-- One element further is processed in the context of all outcomes before. -/
theorem processes_concat_iff : Processes pass document (es ++ [e]) (outcomes ++ [outcome]) ↔
    Processes pass document es outcomes ∧
      (pass.process (pass.context document (ofOutcomes outcomes)) e).result = .ok outcome := by
  constructor
  · rintro ⟨length_eq, result_eq⟩
    have same : outcomes.length = es.length := by
      simpa only [List.length_append, List.length_singleton, Nat.add_right_cancel_iff]
        using length_eq
    refine ⟨⟨same, fun i e' outcome' element processed => ?_⟩, ?_⟩
    · have earlier : i < outcomes.length := (List.getElem?_eq_some_iff.1 processed).1
      have h := result_eq i e' outcome'
      rw [List.getElem?_append_left (same ▸ earlier), List.getElem?_append_left earlier,
        List.take_append_of_le_length (Nat.le_of_lt earlier)] at h
      exact h element processed
    · have h := result_eq outcomes.length e outcome
      rw [List.take_left, List.getElem?_concat_length, same, List.getElem?_concat_length] at h
      exact h rfl rfl
  · rintro ⟨⟨same, result_eq⟩, last⟩
    refine ⟨by rw [List.length_append, List.length_append, same]; rfl, ?_⟩
    intro i e' outcome' element processed
    rcases getElem?_concat_eq_some_iff.1 processed with processed | ⟨rfl, rfl⟩
    · have earlier : i < outcomes.length := (List.getElem?_eq_some_iff.1 processed).1
      rw [List.getElem?_append_left (same ▸ earlier)] at element
      rw [List.take_append_of_le_length (Nat.le_of_lt earlier)]
      exact result_eq i e' outcome' element processed
    · rw [same, List.getElem?_concat_length] at element
      obtain rfl := Option.some.inj element
      rw [List.take_left]
      exact last

/-- The outcomes of some elements and one more are those of the former and one more. -/
theorem Processes.exists_concat (processes : Processes pass document (es ++ [e]) outcomes) :
    ∃ before outcome, outcomes = before ++ [outcome] := by
  rcases List.eq_nil_or_concat outcomes with rfl | ⟨before, outcome, split⟩
  · have length_eq := processes.length_eq
    rw [List.length_append] at length_eq
    cases length_eq
  · rw [List.concat_eq_append] at split
    exact ⟨before, outcome, split⟩

theorem record_concat (es : List Xml.Element) (e : Xml.Element) :
    pass.record document (es ++ [e])
      = pass.record document es >>= fun tokens => pass.step document tokens e := by
  simp only [record, List.foldlM_append, List.foldlM_cons, List.foldlM_nil, bind_pure]

variable {before : TokenIndex} {id : String} {token : ProcessedToken} {i : Nat}

/-- One more element leaves what was recorded. -/
theorem get?_of_step (stepped : (pass.step document before e).result = .ok tokens)
    (known : before.get? id = some token) : tokens.get? id = some token := by
  obtain ⟨outcome, -, -, rfl⟩ := result_step_eq_ok_iff.1 stepped
  show (before.entries ++ outcome.toList).lookup id = some token
  rw [List.lookup_append, show before.entries.lookup id = some token from known, Option.some_or]

/-- So do any number of elements. -/
theorem get?_of_foldlM (ran : (es.foldlM (pass.step document) before).result = .ok tokens)
    (known : before.get? id = some token) : tokens.get? id = some token := by
  induction es generalizing before with
  | nil =>
    rw [Asking.result_pure_eq_ok_iff.1 ran]
    exact known
  | cons e es ih =>
    rw [List.foldlM_cons] at ran
    obtain ⟨after, stepped, ran⟩ := Asking.result_bind_eq_ok_iff.1 ran
    exact ih ran (get?_of_step stepped known)

/-- **What has been recorded stays.**  The first elements of a list are recorded if the
whole list is, and it keeps what was recorded of them. -/
theorem exists_kept_of_record (i : Nat)
    (recorded : (pass.record document es).result = .ok tokens) : ∃ before,
      (pass.record document (es.take i)).result = .ok before ∧
        ∀ id token, before.get? id = some token → tokens.get? id = some token := by
  rw [record, ← List.take_append_drop i es, List.foldlM_append] at recorded
  obtain ⟨before, earlier, ran⟩ := Asking.result_bind_eq_ok_iff.1 recorded
  exact ⟨before, earlier, fun id token known => get?_of_foldlM ran known⟩

/-- Recording goes through the elements before each element, and that element then. -/
theorem exists_record_take (element : es[i]? = some e)
    (recorded : (pass.record document es).result = .ok tokens) : ∃ before outcome,
      (pass.record document (es.take i)).result = .ok before ∧
        (pass.process (pass.context document before) e).result = .ok outcome := by
  obtain ⟨after, through, -⟩ := exists_kept_of_record (i + 1) recorded
  rw [List.take_add_one, element, Option.toList_some, record_concat] at through
  obtain ⟨before, earlier, stepped⟩ := Asking.result_bind_eq_ok_iff.1 through
  obtain ⟨outcome, processed, -⟩ := result_step_eq_ok_iff.1 stepped
  exact ⟨before, outcome, earlier, processed⟩

/-- An element is recorded as what it is processed to. -/
theorem get?_of_process (element : es[i]? = some e)
    (recorded : (pass.record document es).result = .ok tokens)
    (earlier : (pass.record document (es.take i)).result = .ok before)
    (processed : (pass.process (pass.context document before) e).result = .ok (some (id, token))) :
    tokens.get? id = some token := by
  obtain ⟨after, through, kept⟩ := exists_kept_of_record (i + 1) recorded
  rw [List.take_add_one, element, Option.toList_some, record_concat] at through
  obtain ⟨before', earlier', stepped⟩ := Asking.result_bind_eq_ok_iff.1 through
  obtain rfl : before = before' := Except.ok.inj (earlier.symm.trans earlier')
  obtain ⟨outcome, processed', fresh, rfl⟩ := result_step_eq_ok_iff.1 stepped
  obtain rfl := Except.ok.inj (processed.symm.trans processed')
  have inserted : before.insert id token = .ok ⟨before.entries ++ [(id, token)]⟩ :=
    TokenIndex.insert_eq_ok_iff.2 ⟨fresh id token rfl, rfl⟩
  exact kept id token ((TokenIndex.get?_insert inserted id).trans (if_pos rfl))

/-- Elements are recorded just if all of them are processed and no identifier is entered
twice.  What is recorded is the entries of the outcomes. -/
theorem result_record_eq_ok_iff : (pass.record document es).result = .ok tokens ↔
    ∃ outcomes, Processes pass document es outcomes ∧ (ofOutcomes outcomes).Distinct ∧
      tokens = ofOutcomes outcomes := by
  induction es using List.reverseRecOn generalizing tokens with
  | nil =>
    simp only [processes_nil_iff, exists_eq_left]
    exact Asking.result_pure_eq_ok_iff.trans ⟨fun h => ⟨List.nodup_nil, h⟩, fun h => h.2⟩
  | append_singleton es e ih =>
    rw [record_concat, Asking.result_bind_eq_ok_iff]
    constructor
    · rintro ⟨before, recorded, h⟩
      obtain ⟨outcomes, processes, distinct, rfl⟩ := ih.1 recorded
      obtain ⟨outcome, processed, fresh, rfl⟩ := result_step_eq_ok_iff.1 h
      refine ⟨outcomes ++ [outcome], processes_concat_iff.2 ⟨processes, processed⟩, ?_, ?_⟩
      · rw [TokenIndex.ofOutcomes_concat]
        exact TokenIndex.distinct_concat_iff.2 ⟨distinct, fresh⟩
      · rw [TokenIndex.ofOutcomes_concat]
    · rintro ⟨outcomes, processes, distinct, rfl⟩
      obtain ⟨before, outcome, rfl⟩ := processes.exists_concat
      obtain ⟨processes, processed⟩ := processes_concat_iff.1 processes
      rw [TokenIndex.ofOutcomes_concat] at distinct ⊢
      obtain ⟨distinct, fresh⟩ := TokenIndex.distinct_concat_iff.1 distinct
      exact ⟨ofOutcomes before, ih.2 ⟨before, processes, distinct, rfl⟩,
        result_step_eq_ok_iff.2 ⟨outcome, processed, fresh, rfl⟩⟩

/-- What holds of everything an element offers, if it holds of the entries before, holds
of every entry. -/
theorem record_induction {P : String → ProcessedToken → Prop}
    (enter : ∀ before e id token, (∀ id token, (id, token) ∈ before.entries → P id token) →
      e ∈ es → Offers pass (pass.context document before) e (some id) token → P id token)
    (recorded : (pass.record document es).result = .ok tokens) :
    ∀ id token, (id, token) ∈ tokens.entries → P id token := by
  induction es using List.reverseRecOn generalizing tokens with
  | nil =>
    rw [Asking.result_pure_eq_ok_iff.1 recorded]
    intro id token entered
    cases entered
  | append_singleton es e ih =>
    rw [record_concat, Asking.result_bind_eq_ok_iff] at recorded
    obtain ⟨before, recorded, h⟩ := recorded
    have earlier : ∀ id token, (id, token) ∈ before.entries → P id token := by
      refine ih (fun before e' id token holds mem => ?_) recorded
      exact enter before e' id token holds (List.mem_append_left _ mem)
    obtain ⟨outcome, processed, -, rfl⟩ := result_step_eq_ok_iff.1 h
    intro id token entered
    rcases List.mem_append.1 entered with entered | entered
    · exact earlier id token entered
    · rcases process_eq_ok_iff.1 processed with ⟨id', token', offers, rfl⟩ | ⟨-, rfl⟩
      · obtain ⟨rfl, -, rfl⟩ := entry_eq_some_iff.1 (Option.mem_toList.1 entered)
        exact enter before e id token' earlier (List.mem_append_right _ List.mem_cons_self) offers
      · cases entered

/-- Everything recorded was offered by an element. -/
theorem exists_offers_of_get? {id : String} {token : ProcessedToken}
    (recorded : (pass.record document es).result = .ok tokens)
    (known : tokens.get? id = some token) : ∃ before, ∃ e ∈ es,
      Offers pass (pass.context document before) e (some id) token := by
  have all := record_induction
    (P := fun id token => ∃ before, ∃ e ∈ es,
      Offers pass (pass.context document before) e (some id) token)
    (fun before e id token _ element offers => ⟨before, e, element, offers⟩) recorded
  exact all id token (TokenIndex.mem_entries_of_get? known)

/-- Elements are not recorded just if one of them fails after those before it were. -/
theorem result_record_eq_error_iff : (pass.record document es).result = .error error ↔
    ∃ i e tokens, es[i]? = some e ∧ (pass.record document (es.take i)).result = .ok tokens ∧
      FailsWith pass document tokens e error := by
  induction es using List.reverseRecOn with
  | nil =>
    constructor
    · intro h
      cases h
    · rintro ⟨i, e, tokens, element, -⟩
      cases element
  | append_singleton es e ih =>
    rw [record_concat, Asking.result_bind]
    constructor
    · intro h
      cases recorded : (pass.record document es).result with
      | error e' =>
        rw [recorded] at h
        cases h
        obtain ⟨i, e', tokens, element, before, fails⟩ := ih.1 recorded
        have earlier : i < es.length := (List.getElem?_eq_some_iff.1 element).1
        refine ⟨i, e', tokens, getElem?_concat_eq_some_iff.2 (.inl element), ?_, fails⟩
        rw [List.take_append_of_le_length (Nat.le_of_lt earlier), before]
      | ok tokens =>
        rw [recorded] at h
        refine ⟨es.length, e, tokens, List.getElem?_concat_length, ?_,
          result_step_eq_error_iff.1 h⟩
        rw [List.take_left, recorded]
    · rintro ⟨i, e', tokens, element, before, fails⟩
      rcases getElem?_concat_eq_some_iff.1 element with element | ⟨rfl, rfl⟩
      · have earlier : i < es.length := (List.getElem?_eq_some_iff.1 element).1
        rw [List.take_append_of_le_length (Nat.le_of_lt earlier)] at before
        rw [ih.2 ⟨i, e', tokens, element, before, fails⟩]
        rfl
      · rw [List.take_left] at before
        rw [before]
        exact result_step_eq_error_iff.2 fails

/-- **A pass loses, merges and misplaces nothing.**  It gives an index if and only if
every element of the header is processed, in the context of the outcomes before its
own, and the identifiers of the outcomes are distinct; the index is that of the
outcomes, in which the identifier of every entry leads to that entry's own result.
An element is processed if it offers a result, entered under its identifier unless
that is empty, or if it is passed over.  The pass fails if and only if an element
fails after those before it gave an index, and with the error of that element.  With
the parsing processor, the identifier of an entry leads back to its element in the
document or is ambiguous there, unless it is that of a context. -/
theorem indexTokens_exact (pass : HeaderPass) (document : Xml.Document) (header : Xml.Element) :
    (∀ tokens, (pass.indexTokens document header).result = .ok tokens ↔
      ∃ outcomes, Processes pass document header.elements outcomes ∧
        (ofOutcomes outcomes).Distinct ∧ tokens = ofOutcomes outcomes) ∧
    (∀ outcomes, (ofOutcomes outcomes).Distinct → ∀ id token,
      ((ofOutcomes outcomes).get? id = some token ↔ some (id, token) ∈ outcomes)) ∧
    (∀ ctx e outcome, (pass.process ctx e).result = .ok outcome ↔
      (∃ id token, Offers pass ctx e id token ∧ outcome = entry id token) ∨
        PassesOver pass e ∧ outcome = none) ∧
    (∀ error, (pass.indexTokens document header).result = .error error ↔
      ∃ i e outcomes, header.elements[i]? = some e ∧
        Processes pass document (header.elements.take i) outcomes ∧
        (ofOutcomes outcomes).Distinct ∧ FailsWith pass document (ofOutcomes outcomes) e error) ∧
    ∀ root extra path secrets outcomes i e id token,
      document = .ofRoot root extra → root.at? path = some header →
      pass.processor = .parsing secrets →
      Processes pass document header.elements outcomes →
      header.elements[i]? = some e → outcomes[i]? = some (some (id, token)) →
      (e.Carries extra id ∧
        (document.elementById id = .ok (some ⟨path ++ [i], e⟩) ∨
          document.elementById id = .error (.xmlStructure (.duplicateId id)))) ∨
      e.id? = none ∧ ∃ context, token = .securityContext context ∧ context.identifier = id := by
  refine ⟨fun tokens => result_record_eq_ok_iff, fun outcomes distinct id token => ?_,
    fun ctx e outcome => process_eq_ok_iff, fun error => ?_, ?_⟩
  · rw [distinct.get?_eq_some_iff, TokenIndex.mem_entries_ofOutcomes_iff]
  · refine result_record_eq_error_iff.trans (exists_congr fun i => exists_congr fun e => ?_)
    constructor
    · rintro ⟨tokens, element, recorded, fails⟩
      obtain ⟨outcomes, processes, distinct, rfl⟩ := result_record_eq_ok_iff.1 recorded
      exact ⟨outcomes, element, processes, distinct, fails⟩
    · rintro ⟨outcomes, element, processes, distinct, fails⟩
      exact ⟨_, element, result_record_eq_ok_iff.2 ⟨_, processes, distinct, rfl⟩, fails⟩
  · rintro root extra path secrets outcomes i e id token rfl place parsing processes element known
    have processed := processes.result_eq i e _ element known
    rcases process_eq_ok_iff.1 processed with ⟨id', token', offers, entry⟩ | ⟨-, entry⟩
    · obtain ⟨rfl, -, rfl⟩ := entry_eq_some_iff.1 entry.symm
      refine (offers.carries parsing extra).imp_left fun carries => ⟨carries, ?_⟩
      exact Xml.Document.elementById_of_carries (Xml.Element.at?_concat place element) carries
    · cases entry

/-- The secrets of an encrypted key and of a context. -/
def knownSecrets : SecretCallback := fun request =>
  .ok (([("EK-1", [7]), ("urn:context", [8])] : List (String × Bytes)).lookup request.id)

/-- A pass that parses, in strict mode and with an empty store. -/
def parsingPass : HeaderPass where
  source := CertificateStore.empty.source
  callback := knownSecrets
  processor := .parsing knownSecrets
  compliance := .strict
  sizing := ⟨none, none⟩

/-- An element that is no token. -/
def timestampElement : Xml.Element :=
  ⟨⟨some Namespace.utility, "Timestamp"⟩, [⟨⟨none, "Id"⟩, "TS-1"⟩], []⟩

/-- An encrypted key. -/
def namedKeyElement : Xml.Element :=
  ⟨⟨some Namespace.encryption, "EncryptedKey"⟩, [⟨⟨none, "Id"⟩, "EK-1"⟩], []⟩

/-- A security context token without an identifier of its own. -/
def unnamedContextElement : Xml.Element :=
  ⟨⟨some Namespace.conversation0502, "SecurityContextToken"⟩, [],
    [.element ⟨some Namespace.conversation0502, "Identifier"⟩ [] [.text "urn:context"]]⟩

/-- A header of the three. -/
def headerOfThree : Xml.Element :=
  ⟨⟨some Namespace.security, "Security"⟩, [],
    [timestampElement.toNode, namedKeyElement.toNode, unnamedContextElement.toNode]⟩

/-- What the three are processed to. -/
def outcomesOfThree : List Outcome :=
  [none, some ("EK-1", .encryptedKey ⟨"EK-1", [7]⟩),
    some ("urn:context", .securityContext ⟨"urn:context", "urn:context", [8]⟩)]

/-- The header of three is recorded, and the identifier of its key leads back. -/
theorem indexTokens_headerOfThree :
    (parsingPass.indexTokens (.ofRoot headerOfThree []) headerOfThree).result
        = .ok (ofOutcomes outcomesOfThree) ∧
      (ofOutcomes outcomesOfThree).get? "EK-1" = some (.encryptedKey ⟨"EK-1", [7]⟩) ∧
      namedKeyElement.Carries [] "EK-1" := by
  obtain ⟨recorded, leads, -, -, carries⟩ :=
    indexTokens_exact parsingPass (.ofRoot headerOfThree []) headerOfThree
  have processes : Processes parsingPass (.ofRoot headerOfThree []) headerOfThree.elements
      outcomesOfThree := by
    show Processes parsingPass (.ofRoot headerOfThree [])
      ([] ++ [timestampElement] ++ [namedKeyElement] ++ [unnamedContextElement])
      ([] ++ [none] ++ [some ("EK-1", .encryptedKey ⟨"EK-1", [7]⟩)]
        ++ [some ("urn:context", .securityContext ⟨"urn:context", "urn:context", [8]⟩)])
    refine processes_concat_iff.2 ⟨processes_concat_iff.2 ⟨processes_concat_iff.2 ⟨?_, rfl⟩,
      rfl⟩, rfl⟩
    exact processes_nil_iff.2 rfl
  have distinct : (ofOutcomes outcomesOfThree).Distinct := by
    show ["EK-1", "urn:context"].Nodup
    decide
  have place : headerOfThree.at? [] = some headerOfThree := rfl
  refine ⟨(recorded _).2 ⟨_, processes, distinct, rfl⟩, (leads _ distinct _ _).2 ?_, ?_⟩
  · exact List.mem_of_getElem? (i := 1) rfl
  · rcases carries headerOfThree [] [] knownSecrets outcomesOfThree 1 namedKeyElement "EK-1"
      (.encryptedKey ⟨"EK-1", [7]⟩) rfl place rfl processes rfl rfl with ⟨carried, -⟩ | ⟨none, -⟩
    · exact carried
    · cases none

end HeaderPass
end SecurityTokens
