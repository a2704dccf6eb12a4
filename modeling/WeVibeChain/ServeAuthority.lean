import WeVibeChain.ServeTallies

/-!
# x/serve: who adds to an org's receipts, denials and events

A batch writes entries of the org it is for, and it is admitted only from the
serving address in the org's record.
-/

set_option autoImplicit false

namespace WeVibeChain.Serve

open Bytes

/-- The two stores hold the same receipts, denials and events of one org. -/
structure SameEntries (orgID : Bytes) (s s' : Store) : Prop where
  receipt : ∀ epoch fp, s'.receipt.get (receiptKey orgID epoch fp) =
    s.receipt.get (receiptKey orgID epoch fp)
  denial : ∀ epoch fp, s'.denial.get (denialReceiptKey orgID epoch fp) =
    s.denial.get (denialReceiptKey orgID epoch fp)
  event : ∀ epoch fp, s'.event.get (eventKey orgID epoch fp) = s.event.get (eventKey orgID epoch fp)

section Entries
variable {orgID other : Bytes} {s s' s'' : Store}

theorem SameEntries.refl (orgID : Bytes) (s : Store) : SameEntries orgID s s :=
  ⟨fun _ _ => rfl, fun _ _ => rfl, fun _ _ => rfl⟩

theorem SameEntries.trans (h : SameEntries orgID s s') (h' : SameEntries orgID s' s'') :
    SameEntries orgID s s'' :=
  ⟨fun n fp => (h'.receipt n fp).trans (h.receipt n fp),
    fun n fp => (h'.denial n fp).trans (h.denial n fp),
    fun n fp => (h'.event n fp).trans (h.event n fp)⟩

theorem sameEntries_accept {r : ServeReceipt} (h : r.orgID ≠ orgID) :
    SameEntries orgID s (acceptedStore s r) := by
  obtain ⟨stats, hframe⟩ := acceptedStore_frame s r
  rw [hframe]
  refine ⟨?_, fun _ _ => rfl, fun _ _ => rfl⟩
  intro epoch fp
  apply OrderedMap.get_set_of_ne
  intro heq
  exact h (receiptKey_inj.mp heq).1.symm

theorem sameEntries_deny (h : other ≠ orgID) (epoch : UInt64) (fp : Bytes)
    (receipt : StoredServeReceipt) (entry : DenialEntry) :
    SameEntries orgID s (deniedStore s other epoch fp receipt entry) := by
  refine ⟨fun _ _ => rfl, ?_, fun _ _ => rfl⟩
  intro epoch' fp'
  apply OrderedMap.get_set_of_ne
  intro heq
  exact h (denialReceiptKey_inj.mp heq).1.symm

theorem sameEntries_event (crypto : Crypto) (memory : Memory.Store) (h : other ≠ orgID)
    (epoch : UInt64) (entry : EventEntry) :
    SameEntries orgID s (processEvent crypto memory other epoch s entry).1 := by
  unfold processEvent
  split
  · exact .refl orgID s
  dsimp only
  split
  · exact .refl orgID s
  split
  · exact .refl orgID s
  split
  · exact .refl orgID s
  refine ⟨fun _ _ => rfl, fun _ _ => rfl, ?_⟩
  intro epoch' fp'
  apply OrderedMap.get_set_of_ne
  intro heq
  exact h (eventKey_inj.mp heq).1.symm

theorem sameEntries_eventBatch (crypto : Crypto) (memory : Memory.Store) (h : other ≠ orgID)
    (epoch : UInt64) (result : BatchResult) (entries : List EventEntry) :
    SameEntries orgID s (processEventBatch crypto memory other epoch s result entries).1 := by
  induction entries generalizing s result with
  | nil => exact .refl orgID s
  | cons entry entries ih => exact (sameEntries_event crypto memory h epoch entry).trans (ih _)

end Entries

section Batches
variable {crypto : Crypto} {scopeTagsOf : Bytes → Option (OrderedMap Bytes Bytes)}
  {authority orgID : Bytes} {st st' : State} {msg : Msg} {response : Response}

def Msg.signer : Msg → Bytes
  | .submitServeBatch m => m.signer
  | .submitDenialBatch m => m.signer
  | .submitEventBatch m => m.signer
  | .anchorPolicyVersion _ m => m.authority
  | .updateParams m => m.authority

/-- The org that a batch is for, and what its own check says. -/
def Msg.batch : Msg → Option (Bytes × Except Error Unit)
  | .submitServeBatch m => some (m.orgId, m.validateBasic)
  | .submitDenialBatch m => some (m.orgId, m.validateBasic)
  | .submitEventBatch m => some (m.orgId, m.validateBasic)
  | .anchorPolicyVersion _ _ | .updateParams _ => none

theorem requireServingKeySigner_ok {org : Orgs.Store} {signer : Bytes}
    (h : requireServingKeySigner org orgID signer = .ok ()) :
    ∃ stored, org.org.get (Orgs.orgKey orgID) = some stored ∧ signer ≠ [] ∧
      signer = stored.hubServingAddress := by
  unfold requireServingKeySigner at h
  split at h
  · cases h
  rename_i address haddress
  obtain ⟨stored, hget, rfl⟩ := Orgs.getOrg_map_ok haddress
  split at h
  · cases h
  rename_i hsigner
  rw [not_or, not_not] at hsigner
  exact ⟨stored, hget, hsigner.2 ▸ hsigner.1, hsigner.2⟩

theorem admitted_of_ok {α : Type} {admitted : Except Error Unit} {rest : Except Error α} {r : α}
    (h : (match admitted with
      | .error e => (.error e : Except Error α)
      | .ok () => rest) = .ok r) : admitted = .ok () := by
  cases admitted with
  | error e => cases h
  | ok _ => rfl

/-- An accepted batch passes its own check and comes from the serving address of its org. -/
theorem handle_batch {validated : Except Error Unit}
    (h : handle crypto scopeTagsOf authority st msg = .ok (st', response))
    (hbatch : msg.batch = some (orgID, validated)) :
    validated = .ok () ∧ requireServingKeySigner st.org orgID msg.signer = .ok () := by
  cases msg with
  | submitServeBatch m | submitDenialBatch m | submitEventBatch m =>
    cases hbatch
    obtain ⟨r, hok, -⟩ := Except.map_eq_ok h
    obtain ⟨hbasic, -, hsigner⟩ := admitBatch_ok (admitted_of_ok hok)
    exact ⟨hbasic, hsigner⟩
  | anchorPolicyVersion height m => cases hbatch
  | updateParams m => cases hbatch

/-- A message that is not a batch for the org leaves the org's entries alone. -/
theorem handle_sameEntries
    (h : handle crypto scopeTagsOf authority st msg = .ok (st', response))
    (hother : ∀ o validated, msg.batch = some (o, validated) → o ≠ orgID) :
    SameEntries orgID st.store st'.store := by
  cases msg with
  | submitServeBatch m =>
    obtain ⟨result, hok⟩ := Except.eq_ok_of_map_snd h
    obtain ⟨-, -, bandwidth, -, hserves⟩ := submitServeBatch_ok hok
    refine processServes_invariant (I := fun t _ => SameEntries orgID st.store t.store) ?_ ?_ hserves
    · intro t result serve _ t' outcome ht hstep
      rcases processServe_cases hstep with ⟨rfl, -⟩ | ⟨-, rfl, -⟩
      · exact ht
      · exact ht.trans (sameEntries_accept (hother _ _ rfl))
    · exact .refl orgID st.store
  | submitDenialBatch m =>
    obtain ⟨result, hok⟩ := Except.eq_ok_of_map_snd h
    obtain ⟨-, rfl⟩ := submitDenialBatch_ok hok
    refine processDenials_invariant (I := fun t => SameEntries orgID st.store t) ?_
      (.refl orgID st.store) {}
    intro t entry _ ht
    rcases processDenial_cases crypto st.memory m.orgId m.epoch t entry with
      ⟨hsame, -⟩ | ⟨receipt, -, heq⟩
    · rwa [hsame]
    · rw [heq]
      exact ht.trans (sameEntries_deny (hother _ _ rfl) _ _ _ _)
  | submitEventBatch m =>
    obtain ⟨result, hok⟩ := Except.eq_ok_of_map_snd h
    obtain ⟨-, -, rfl⟩ := submitEventBatch_ok hok
    exact sameEntries_eventBatch crypto st.memory (hother _ _ rfl) m.epoch {} m.events
  | anchorPolicyVersion height m =>
    have hok := Except.eq_ok_of_map h
    obtain ⟨anchor, latest, rfl⟩ := anchorPolicyVersion_frame hok
    exact ⟨fun _ _ => rfl, fun _ _ => rfl, fun _ _ => rfl⟩
  | updateParams m =>
    have hok := Except.eq_ok_of_map h
    obtain rfl := updateParams_ok hok
    exact ⟨fun _ _ => rfl, fun _ _ => rfl, fun _ _ => rfl⟩

end Batches

end WeVibeChain.Serve
