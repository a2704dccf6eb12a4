import WeVibeChain.MemoryMsgServer

/-!
# x/memory: who changes an org's memories

Every message for an org is signed by the leader wallet in the org's record, and
writes entries of that org and counters of its record only.
-/

set_option autoImplicit false

namespace WeVibeChain.Memory

open Bytes

/-- The two stores hold the same pending commitments, approved memories and reports of one org. -/
structure SameEntries (orgID : Bytes) (s s' : Store) : Prop where
  pending : ∀ hash, s'.pending.get (pendingKey orgID hash) = s.pending.get (pendingKey orgID hash)
  approved : ∀ hash, s'.approved.get (approvedKey orgID hash) =
    s.approved.get (approvedKey orgID hash)
  report : ∀ hash reporter, s'.report.get (reportKey orgID hash reporter) =
    s.report.get (reportKey orgID hash reporter)

theorem SameEntries.refl (orgID : Bytes) (s : Store) : SameEntries orgID s s :=
  ⟨fun _ => rfl, fun _ => rfl, fun _ _ => rfl⟩

theorem eq_of_reportKey {o o' h h' r r' : Bytes} (ho : slash ∉ o) (ho' : slash ∉ o')
    (heq : reportKey o h r = reportKey o' h' r') : o = o' := by
  unfold reportKey at heq
  rw [List.append_assoc, List.append_assoc, List.append_cancel_left_eq,
    append_cons_inj_of_notMem_left ho ho'] at heq
  exact heq.1

def Msg.signer : Msg → Bytes
  | .submitCommitment m => m.signer
  | .approveMemory m => m.signer
  | .reportMemory m => m.signer
  | .updateParams m => m.authority

/-- The org that a message is for, and what its own check says. -/
def Msg.request : Msg → Option (Bytes × Except Error Unit)
  | .submitCommitment m => some (m.orgId, m.validateBasic)
  | .approveMemory m => some (m.orgId, m.validateBasic)
  | .reportMemory m => some (m.orgId, m.validateBasic)
  | .updateParams _ => none

section Messages
variable {crypto : Crypto} {authority orgID : Bytes} {st st' : State} {msg : Msg}

theorem handle_request {validated : Except Error Unit}
    (h : handle crypto authority st msg = .ok st')
    (hrequest : msg.request = some (orgID, validated)) :
    validated = .ok () ∧ requireLeaderWallet st.org orgID msg.signer = .ok () ∧
      (st'.org = st.org ∨ Orgs.CountersChanged orgID st.org st'.org) := by
  cases msg with
  | submitCommitment m =>
    cases hrequest
    obtain ⟨hbasic, hwallet, hsubmit⟩ := submitCommitmentMsg_ok h
    obtain ⟨-, -, rfl⟩ := submitCommitment_ok hsubmit
    exact ⟨hbasic, hwallet, Or.inl rfl⟩
  | approveMemory m =>
    cases hrequest
    obtain ⟨hbasic, hwallet, -, happrove⟩ := approveMemoryMsg_ok h
    obtain ⟨-, -, -, -, -, -, horg⟩ := approveMemory_ok happrove
    exact ⟨hbasic, hwallet, Or.inr horg⟩
  | reportMemory m =>
    cases hrequest
    obtain ⟨hbasic, hwallet, hreport⟩ := reportMemoryMsg_ok h
    exact ⟨hbasic, hwallet, Or.inr (reportMemory_ok hreport).2.2⟩
  | updateParams m => cases hrequest

theorem handle_org (h : handle crypto authority st msg = .ok st') (hrequest : msg.request = none) :
    st'.org = st.org := by
  cases msg with
  | updateParams m =>
    obtain rfl := updateParamsMsg_ok h
    rfl
  | submitCommitment | approveMemory | reportMemory => cases hrequest

/-- A message that is not for the org leaves the org's entries alone. -/
theorem handle_sameEntries (h : handle crypto authority st msg = .ok st') (horg : slash ∉ orgID)
    (hother : ∀ o validated, msg.request = some (o, validated) → o ≠ orgID ∧ slash ∉ o) :
    SameEntries orgID st.store st'.store := by
  have hstored := handle_stored h
  generalize st'.store = s' at hstored
  cases hstored with
  | submit m =>
    obtain ⟨hne, -⟩ := hother _ _ rfl
    refine ⟨?_, fun _ => rfl, fun _ _ => rfl⟩
    intro hash
    apply OrderedMap.get_set_of_ne
    intro heq
    exact hne (pendingKey_inj.mp heq).1.symm
  | approve m pending =>
    obtain ⟨hne, -⟩ := hother _ _ rfl
    refine ⟨?_, ?_, fun _ _ => rfl⟩
    · intro hash
      refine (OrderedMap.get_delete _ _ _).trans (if_neg ?_)
      intro heq
      exact hne (pendingKey_inj.mp heq).1.symm
    · intro hash
      apply OrderedMap.get_set_of_ne
      intro heq
      exact hne (approvedKey_inj.mp heq).1.symm
  | report m =>
    obtain ⟨hne, hslash⟩ := hother _ _ rfl
    refine ⟨fun _ => rfl, fun _ => rfl, ?_⟩
    intro hash reporter
    apply OrderedMap.get_set_of_ne
    intro heq
    exact hne (eq_of_reportKey horg hslash heq).symm
  | params m => exact ⟨fun _ => rfl, fun _ => rfl, fun _ _ => rfl⟩

end Messages

end WeVibeChain.Memory
