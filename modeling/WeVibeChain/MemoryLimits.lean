import WeVibeChain.MemoryRuns
import WeVibeChain.Shared.Words

/-!
# x/memory: the limits of the parameters

The size of a blob is compared with its limit when a memory is approved, as signed
numbers: a limit of 2^63 or more is negative there and refuses every blob. The
number of keywords is not compared with its limit, neither at the submission nor
at the approval.
-/

set_option autoImplicit false

namespace WeVibeChain.Memory

open Bytes

section Refusals
variable {st st' : State} {crypto : Crypto}

theorem approveMemory_blob {a : Approval} (h : approveMemory st a = .ok st') :
    (a.encryptedBlob.length : Int) ≤ (getParams st.store).maxBlobSizeBytes.toInt64.toInt := by
  unfold approveMemory at h
  split at h
  · cases h
  split at h
  · cases h
  split at h
  · cases h
  split at h
  · cases h
  rename_i hsize
  exact not_lt.mp hsize

theorem validateBasic_ne_blobTooLarge (m : MsgApproveMemory) :
    m.validateBasic ≠ .error .blobTooLarge := by
  unfold MsgApproveMemory.validateBasic
  intro h
  split at h
  · cases h
  split at h
  · cases h
  split at h
  · cases h
  split at h <;> cases h

theorem requireLeaderWallet_ne_blobTooLarge (org : Orgs.Store) (orgID signer : Bytes) :
    requireLeaderWallet org orgID signer ≠ .error .blobTooLarge := by
  unfold requireLeaderWallet
  intro h
  split at h
  · cases h
  split at h <;> cases h

theorem getPendingCommitment_ne_blobTooLarge (s : Store) (orgID contentHash : Bytes) :
    getPendingCommitment s orgID contentHash ≠ .error .blobTooLarge := by
  unfold getPendingCommitment
  intro h
  split at h <;> cases h

theorem verifyApproval_ne_blobTooLarge (m : MsgApproveMemory) (pending : PendingCommitment) :
    verifyApproval crypto m pending ≠ .error .blobTooLarge := by
  unfold verifyApproval
  intro h
  dsimp only at h
  split at h
  · cases h
  split at h
  · cases h
  split at h
  · cases h
  split at h <;> cases h

/-- Only the comparison of the sizes refuses a blob as too large. -/
theorem approveMemory_blobTooLarge {a : Approval}
    (h : approveMemory st a = .error .blobTooLarge) :
    (getParams st.store).maxBlobSizeBytes.toInt64.toInt < a.encryptedBlob.length := by
  unfold approveMemory at h
  split at h
  · cases h
  split at h
  · rename_i e hpending
    rw [Except.error.inj h] at hpending
    exact absurd hpending (getPendingCommitment_ne_blobTooLarge _ _ _)
  split at h
  · cases h
  split at h
  · rename_i hsize
    exact hsize
  split at h
  · cases h
  split at h
  · cases h
  split at h <;> cases h

theorem approveMemoryMsg_blobTooLarge {m : MsgApproveMemory}
    (h : approveMemoryMsg crypto st m = .error .blobTooLarge) :
    (getParams st.store).maxBlobSizeBytes.toInt64.toInt < m.encryptedBlob.length := by
  unfold approveMemoryMsg at h
  split at h
  · rename_i e hbasic
    rw [Except.error.inj h] at hbasic
    exact absurd hbasic (validateBasic_ne_blobTooLarge m)
  split at h
  · rename_i e hwallet
    rw [Except.error.inj h] at hwallet
    exact absurd hwallet (requireLeaderWallet_ne_blobTooLarge _ _ _)
  split at h
  · cases h
  split at h
  · rename_i e hpending
    rw [Except.error.inj h] at hpending
    exact absurd hpending (getPendingCommitment_ne_blobTooLarge _ _ _)
  split at h
  · rename_i e hverified
    rw [Except.error.inj h] at hverified
    exact absurd hverified (verifyApproval_ne_blobTooLarge m _)
  · exact approveMemory_blobTooLarge h

end Refusals

section Limits
variable {params : Params} {s : Store} {crypto : Crypto} {authority : Bytes}
  {foreign : Entry → Option StoredMemoryCommitment}

/-- Every record is within the limits of the parameters. -/
structure WithinLimits (params : Params) (s : Store) : Prop where
  pending : s.pending.Forall fun _ record =>
    record.keywords.length ≤ params.maxKeywordsPerMemory.toNat
  approved : s.approved.Forall fun _ record =>
    record.keywords.length ≤ params.maxKeywordsPerMemory.toNat ∧
      record.encryptedBlob.length ≤ params.maxBlobSizeBytes.toNat

variable (crypto) in
/-- The message keeps to the limits: a submission that is accepted to the number of keywords; and
where an approval is refused for its size, the limit is one that sizes can be compared with. -/
def KeepsLimits (st : State) : Input → Prop
  | .msg (.submitCommitment m) => (submitCommitmentMsg st m).isOk = true →
    m.keywords.length ≤ (getParams st.store).maxKeywordsPerMemory.toNat
  | .msg (.approveMemory m) => approveMemoryMsg crypto st m = .error .blobTooLarge →
    (getParams st.store).maxBlobSizeBytes.toNat < 2 ^ 63
  | _ => True

variable (crypto authority foreign) in
def ParamsConstant (st : State) (input : Input) : Prop :=
  getParams ((chain crypto authority foreign).next st input).store = getParams st.store

variable (crypto) in
/-- An approval that is refused for its size has a blob over the limit. -/
def RefusedForSize (st : State) : Input → Prop
  | .msg (.approveMemory m) =>
    approveMemoryMsg crypto st m = .error .blobTooLarge →
      (getParams st.store).maxBlobSizeBytes.toNat < m.encryptedBlob.length
  | _ => True

theorem WithinLimits.submit (hs : WithinLimits params s) {m : MsgSubmitCommitment}
    (hm : m.keywords.length ≤ params.maxKeywordsPerMemory.toNat) :
    WithinLimits params { s with
      pending := s.pending.set (pendingKey m.orgId m.contentHash)
        (pendingToStored m.commitment) } :=
  ⟨hs.pending.set hm, hs.approved⟩

/-- An approved memory takes its keywords from the pending commitment. -/
theorem WithinLimits.approve (hs : WithinLimits params s) {a : Approval}
    {pending : PendingCommitment} (hfound : getPendingCommitment s a.orgID a.contentHash = .ok pending)
    (hblob : a.encryptedBlob.length ≤ params.maxBlobSizeBytes.toNat) :
    WithinLimits params (approvedStore s a pending) := by
  have hkeywords := hs.pending _ _ (getPendingCommitment_ok hfound)
  exact ⟨hs.pending.delete _, hs.approved.set ⟨hkeywords, hblob⟩⟩

theorem WithinLimits.next {st : State} {input : Input} (hs : WithinLimits params st.store)
    (hparams : getParams st.store = params) (hinput : KeepsLimits crypto st input) :
    WithinLimits params ((chain crypto authority foreign).next st input).store := by
  cases input with
  | otherModules org reputation => exact hs
  | epochEnd n =>
    refine ⟨?_, approved_afterEpochEnd (fun _ _ h => h) hs.approved n⟩
    have hpending := pending_afterEpochEnd crypto.sha256 foreign st.store n
    intro k record hget
    change (afterEpochEnd crypto.sha256 foreign st.store _ n).1.pending.get k = _ at hget
    rw [hpending] at hget
    exact hs.pending k record hget
  | msg msg =>
    change WithinLimits params (deliver crypto authority st msg).store
    rcases deliver_eq crypto authority st msg with ⟨-, hsame⟩ | hok
    · rwa [hsame]
    generalize deliver crypto authority st msg = st' at hok ⊢
    have hstored := handle_stored hok
    generalize hstore : st'.store = s' at hstored ⊢
    cases hstored with
    | submit m hbasic hfresh =>
      have haccepted : submitCommitmentMsg st m = .ok st' := hok
      rw [← hparams] at hs ⊢
      exact hs.submit (hinput (by rw [haccepted]; rfl))
    | approve m pending hbasic hfound hverified hfresh =>
      obtain ⟨-, -, -, happrove⟩ := approveMemoryMsg_ok hok
      have hsize := approveMemory_blob happrove
      have hsigned := Words.toInt_toInt64_le (getParams st.store).maxBlobSizeBytes
      have hblob : (m.approval crypto).encryptedBlob.length ≤ params.maxBlobSizeBytes.toNat := by
        rw [← hparams]
        omega
      exact hs.approve hfound hblob
    | report m hbasic hfresh => exact ⟨hs.pending, hs.approved⟩
    | params m => exact ⟨hs.pending, hs.approved⟩

theorem KeepsLimits.refusedForSize {st : State} {input : Input} (h : KeepsLimits crypto st input) :
    RefusedForSize crypto st input := by
  cases input with
  | otherModules org reputation => trivial
  | epochEnd n => trivial
  | msg msg =>
    cases msg with
    | submitCommitment m => trivial
    | reportMemory m => trivial
    | updateParams m => trivial
    | approveMemory m =>
      intro hrefused
      have hsize := approveMemoryMsg_blobTooLarge hrefused
      rw [Words.toInt_toInt64_of_lt (h hrefused)] at hsize
      omega

/-- As long as the parameters stay and the messages keep to their limits, every record is within
the limits and only blobs over the limit are refused for their size. -/
theorem withinLimits_run (crypto : Crypto) (authority : Bytes)
    (foreign : Entry → Option StoredMemoryCommitment) (params : Option Params) (org : Orgs.Store)
    (reputation : Reputation.Store) (inputs : List Input)
    (hparams : (chain crypto authority foreign).Along (ParamsConstant crypto authority foreign)
      ⟨{ params := params }, org, reputation⟩ inputs)
    (hinputs : (chain crypto authority foreign).Along (KeepsLimits crypto)
      ⟨{ params := params }, org, reputation⟩ inputs) :
    WithinLimits (params.getD defaultParams)
        ((chain crypto authority foreign).run ⟨{ params := params }, org, reputation⟩ inputs).store ∧
      (chain crypto authority foreign).Along (RefusedForSize crypto)
        ⟨{ params := params }, org, reputation⟩ inputs := by
  have hboth := (chain crypto authority foreign).along_and hparams hinputs
  have hstep : ∀ st input,
      (WithinLimits (params.getD defaultParams) st.store ∧
        getParams st.store = params.getD defaultParams) →
      (ParamsConstant crypto authority foreign st input ∧ KeepsLimits crypto st input) →
      WithinLimits (params.getD defaultParams)
          ((chain crypto authority foreign).next st input).store ∧
        getParams ((chain crypto authority foreign).next st input).store =
          params.getD defaultParams := by
    rintro st input ⟨hs, hsame⟩ ⟨hconstant, hinput⟩
    exact ⟨hs.next hsame hinput, hconstant.trans hsame⟩
  have hstart : WithinLimits (params.getD defaultParams) { params := params } ∧
      getParams { params := params } = params.getD defaultParams :=
    ⟨⟨OrderedMap.forall_empty, OrderedMap.forall_empty⟩, rfl⟩
  refine ⟨((chain crypto authority foreign).run_invariant hstep hstart hboth).1, ?_⟩
  exact (chain crypto authority foreign).along_of_invariant hstep
    (fun _ _ _ h => h.2.refusedForSize) hstart hboth

end Limits

section Sample

open EpochHooks (sampleApprove sampleCrypto sampleHash sampleOrgs sampleSubmit)

def limitsStart (params : Option Params) : State := ⟨{ params := params }, sampleOrgs, {}⟩

def limitsChain : Machine State Input (Except Error Unit) := chain sampleCrypto [] decodeForeign

theorem sample_withinLimits :
    WithinLimits defaultParams (limitsChain.run (limitsStart none)
      [.msg (.submitCommitment sampleSubmit), .msg (.approveMemory sampleApprove)]).store := by
  refine (withinLimits_run sampleCrypto [] decodeForeign none sampleOrgs {}
    [.msg (.submitCommitment sampleSubmit), .msg (.approveMemory sampleApprove)]
    ⟨?_, ?_, trivial⟩ ⟨?_, ?_, trivial⟩).1
  · unfold ParamsConstant
    decide +kernel
  · unfold ParamsConstant
    decide +kernel
  · intro _
    decide +kernel
  · intro _
    decide +kernel

/-- A submission with 21 keywords, one more than the limit, and its approval. -/
def sampleWordy : MsgSubmitCommitment :=
  { sampleSubmit with keywords := List.replicate 21 (ascii "k") }

/-- The limits that are in force but for the size of blobs, which is 2^63. -/
def sampleWide : Params := { defaultParams with maxBlobSizeBytes := 2 ^ 63 }

def wordyStore : Store :=
  (limitsChain.run (limitsStart none) [.msg (.submitCommitment sampleWordy),
    .msg (.approveMemory sampleApprove)]).store

/-- The approved memory exceeds the limit for keywords, and a small blob is refused as too
large. -/
theorem sample_limits_broken :
    ¬ WithinLimits defaultParams wordyStore ∧
      limitsChain.output (limitsChain.run (limitsStart (some sampleWide))
        [.msg (.submitCommitment sampleSubmit)]) (.msg (.approveMemory sampleApprove)) =
          .error .blobTooLarge ∧
      sampleApprove.encryptedBlob.length ≤ sampleWide.maxBlobSizeBytes.toNat := by
  have hwordy : (wordyStore.approved.get (approvedKey (ascii "o") sampleHash)).map
      (fun record => record.keywords.length) = some 21 := by
    decide +kernel
  refine ⟨?_, by decide +kernel, by decide +kernel⟩
  intro h
  obtain ⟨record, hget, hlength⟩ := Option.map_eq_some_iff.mp hwordy
  have hbound : record.keywords.length ≤ 20 := (h.approved _ record hget).1
  omega

end Sample

end WeVibeChain.Memory
