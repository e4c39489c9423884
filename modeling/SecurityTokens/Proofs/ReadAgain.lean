/-
# What was recorded reads the same again

A direct reference to a token of a header is resolved from the record of the pass.
Without a record it is resolved from the element that it leads to.  For three kinds
of tokens both ways end in the same credential or the same error:

| token | recorded | read again |
| --- | --- | --- |
| binary token | certificates, not validated | the source reads the same bytes |
| assertion | as it was parsed | the processor parses it again |
| encrypted key | its identifier and secret | the secret is asked for under that identifier |

What strict mode asks of the reference comes between the steps of the second way,
but all steps have succeeded once, when the pass took them.  So only the check is
left, and it looks at what both ways have (`Offers.result_ofProcessed`).  The
element is the same because its identifier is one that no other element carries.
-/

import SecurityTokens.Proofs.Origin
import SecurityTokens.Proofs.Record

namespace SecurityTokens
namespace Asking

variable {α β : Type}

/-- After a step that succeeds, the result is that of the next. -/
theorem result_bind_of_ok {x : Asking α} {a : α} (h : x.result = .ok a) (next : α → Asking β) :
    (x >>= next).result = (next a).result := by
  rw [result_bind, h]
  rfl

/-- Two steps have the results of two others if they have them one by one. -/
theorem result_bind_congr {x y : Asking α} {f g : α → Asking β} (first : x.result = y.result)
    (next : ∀ a, y.result = .ok a → (f a).result = (g a).result) :
    (x >>= f).result = (y >>= g).result := by
  rw [result_bind, result_bind, first]
  cases h : y.result with
  | error e => rfl
  | ok a => exact next a h

end Asking

/-- The kinds of results that a reference can also take from the element itself. -/
def ProcessedToken.isReadAgain : ProcessedToken → Bool
  | binary _ | assertion _ | encryptedKey _ => true
  | username _ | securityContext _ | derivedKey _ => false

/-- A local reference looks up the identifier after the number sign. -/
theorem Resolution.processed?_of_fragment {ctx : Context} {r : TokenReference} {uri id : String}
    {valueType : Option String} (direct : r.kind = .direct uri valueType)
    (isLocal : fragment? uri = some id) : processed? ctx r = ctx.tokens.get? id := by
  simp only [processed?, TokenReference.lookupId?, direct, isLocal, Option.getD_some,
    Option.bind_some]

/-- A resolution depends on its context by the mode and the material alone. -/
theorem Resolution.result_resolve_congr {ctx ctx' : Context} {r : TokenReference}
    (mode : ctx.compliance = ctx'.compliance)
    (same : ∀ lookup, r.lookup = .ok lookup →
      (material ctx r lookup).result = (material ctx' r lookup).result) :
    (resolve ctx r).result = (resolve ctx' r).result := by
  have check : (ctx.enforce (Profile.checkStructure r)).result
      = (ctx'.enforce (Profile.checkStructure r)).result := by
    rw [Context.enforce, Context.enforce, mode]
  rw [resolve_eq, resolve_eq]
  refine Asking.result_bind_congr check fun _ _ => ?_
  refine Asking.result_bind_congr rfl fun lookup asked => ?_
  exact Asking.result_bind_congr (same lookup asked) fun c _ => rfl

namespace HeaderPass

open Resolution

variable {pass : HeaderPass} {document : Xml.Document} {tokens tokens' : TokenIndex}
  {ctx : Context} {e : Xml.Element} {id : String} {token : ProcessedToken} {r : TokenReference}
  {valueType : Option String} {secrets : SecretCallback}

/-- **Both ways agree on an element.**  What an element offers gives what the element
gives, whatever was recorded and however it was found. -/
theorem Offers.result_ofProcessed (parsing : pass.processor = .parsing secrets)
    (readAgain : token.isReadAgain = true) (offers : Offers pass ctx e (some id) token) :
    (ofProcessed (pass.context document tokens) r token).result
      = (ofElement (pass.context document tokens') r id valueType e).result := by
  have configured : (pass.context document tokens').requireProcessor.result = .ok pass.processor :=
    rfl
  generalize known : some id = id' at offers
  cases offers with
  | binary named read processed =>
    obtain ⟨certificates, held, rfl⟩ := BinaryToken.process_eq_ok_iff.1 processed
    obtain ⟨encoding, encoded, -⟩ := Except.bind_eq_ok_iff.1 held
    rw [ofElement, if_pos named, ofBinaryToken]
    have source : (pass.context document tokens').requireSource.result = .ok pass.source := rfl
    rw [Asking.result_bind_of_ok source, Asking.result_bind_of_ok read,
      Asking.result_bind_of_ok encoded]
    refine Asking.result_bind_congr rfl fun _ _ => ?_
    rw [Asking.result_bind_of_ok (Asking.result_liftM_eq_ok_iff.2 held)]
  | username named read => cases readAgain
  | derivedKey named resolved => cases readAgain
  | securityContext named established => cases readAgain
  | assertion named answered =>
    rw [ofElement_eq_ofAssertionElement named, ofAssertionElement,
      Asking.result_bind_of_ok configured, Asking.result_bind_of_ok answered]
    rfl
  | @encryptedKey key named answered =>
    rw [ofElement_eq_ofEncryptedKeyElement named, ofEncryptedKeyElement]
    refine Asking.result_bind_congr rfl fun _ _ => ?_
    rw [Asking.result_bind_of_ok configured, Asking.result_bind_of_ok answered]
    rw [parsing] at answered
    rw [(TokenProcessor.result_askForKey_eq_ok_iff.1 answered).1]
    rfl

/-- **What was recorded reads the same again.**  If a pass with the parsing processor
has recorded a binary token, an assertion or an encrypted key under an identifier that
one element of the document alone carries, then a local reference to it is resolved
from the record to what it is resolved to without any record. -/
theorem result_resolve_eq_of_recorded {root : Xml.Element} {extra : List String}
    {path : List Nat} {header : Xml.Element} {uri : String}
    (place : root.at? path = some header) (parsing : pass.processor = .parsing secrets)
    (recorded : (pass.indexTokens (.ofRoot root extra) header).result = .ok tokens)
    (known : tokens.get? id = some token) (readAgain : token.isReadAgain = true)
    (alone : (Xml.carriers extra id (Xml.Document.placesOf root)).length = 1)
    (direct : r.kind = .direct uri valueType) (isLocal : fragment? uri = some id) :
    (resolve (pass.context (.ofRoot root extra) tokens) r).result
      = (resolve (pass.context (.ofRoot root extra) .empty) r).result := by
  obtain ⟨before, e, element, offers⟩ := exists_offers_of_get? recorded known
  obtain ⟨i, element⟩ := List.mem_iff_getElem?.1 element
  have there := Xml.Element.at?_concat place element
  -- The kinds that are read again are not entered under the identifier of a context.
  have carries : e.Carries extra id := by
    rcases offers.carries parsing extra with carries | ⟨-, context, rfl, -⟩
    · exact carries
    · cases readAgain
  have found : (Xml.Document.ofRoot root extra).elementById id = .ok (some ⟨path ++ [i], e⟩) := by
    rcases Xml.Document.elementById_of_carries (p := ⟨path ++ [i], e⟩) there carries with
      found | ambiguous
    · exact found
    · have several := Xml.Document.elementById_eq_error_iff.1 ambiguous
      omega
  have leads : LeadsToElement (pass.context (.ofRoot root extra) .empty) r id valueType e :=
    ⟨processed?_of_fragment direct isLocal, ⟨uri, direct, isLocal⟩, ⟨_, found, rfl⟩⟩
  have indexed : processed? (pass.context (.ofRoot root extra) tokens) r = some token :=
    (processed?_of_fragment direct isLocal).trans known
  refine result_resolve_congr rfl fun lookup asked => ?_
  rw [leads.result_material asked, material, indexed]
  exact offers.result_ofProcessed parsing readAgain

/-- A local reference to the encrypted key. -/
def localKeyReference : TokenReference :=
  ⟨none, some TokenType.encryptedKey, 1, .direct "#EK-1" none⟩

/-- The key that was recorded is the one that is asked for without a record. -/
theorem result_resolve_eq_of_headerOfThree :
    (parsingPass.indexTokens (.ofRoot headerOfThree []) headerOfThree).result
        = .ok (.ofOutcomes outcomesOfThree) ∧
      (resolve (parsingPass.context (.ofRoot headerOfThree []) (.ofOutcomes outcomesOfThree))
          localKeyReference).result = .ok (.ofSecret "EK-1" [7]) ∧
      (resolve (parsingPass.context (.ofRoot headerOfThree []) (.ofOutcomes outcomesOfThree))
          localKeyReference).result
        = (resolve (parsingPass.context (.ofRoot headerOfThree []) .empty)
          localKeyReference).result := by
  have place : headerOfThree.at? [] = some headerOfThree := rfl
  have recorded : (parsingPass.indexTokens (.ofRoot headerOfThree []) headerOfThree).result
      = .ok (.ofOutcomes outcomesOfThree) := rfl
  have known : (TokenIndex.ofOutcomes outcomesOfThree).get? "EK-1"
      = some (.encryptedKey ⟨"EK-1", [7]⟩) := rfl
  have alone : (Xml.carriers [] "EK-1" (Xml.Document.placesOf headerOfThree)).length = 1 := rfl
  have isLocal : fragment? "#EK-1" = some "EK-1" := by decide
  exact ⟨recorded, rfl,
    result_resolve_eq_of_recorded place rfl recorded known rfl alone rfl isLocal⟩

end HeaderPass
end SecurityTokens
