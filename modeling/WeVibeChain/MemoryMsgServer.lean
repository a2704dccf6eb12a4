import WeVibeChain.MemoryKeeper

/-!
# x/memory: messages

The handlers of `x/memory/keeper/msg_server.go`. A handler that fails has its
writes discarded, so each returns the new state or an error. Org decisions are
accepted from the org's leader wallet only.
-/

set_option autoImplicit false

namespace WeVibeChain.Memory

open Bytes

section Messages

structure MsgSubmitCommitment where
  signer : Bytes
  orgId : Bytes
  contentHash : Bytes
  contributorId : Bytes
  contributorWallet : Bytes := []
  memoryType : MemoryType := .memory
  keywords : List Bytes := []
  producerModelId : Bytes := []
  attestationSessionHash : Bytes := []
  mcVersion : UInt32 := 0
  deriving DecidableEq

def maxProducerModelIdLen : Nat := 128

/-- The ASCII white space of `strings.TrimSpace`, and the two-byte and three-byte white space
that UTF-8 text can hold. -/
def whitespaceRunes : List Bytes :=
  [[9], [10], [11], [12], [13], [32], [0xC2, 0x85], [0xC2, 0xA0], [0xE1, 0x9A, 0x80],
    [0xE2, 0x80, 0x80], [0xE2, 0x80, 0x81], [0xE2, 0x80, 0x82], [0xE2, 0x80, 0x83],
    [0xE2, 0x80, 0x84], [0xE2, 0x80, 0x85], [0xE2, 0x80, 0x86], [0xE2, 0x80, 0x87],
    [0xE2, 0x80, 0x88], [0xE2, 0x80, 0x89], [0xE2, 0x80, 0x8A], [0xE2, 0x80, 0xA8],
    [0xE2, 0x80, 0xA9], [0xE2, 0x80, 0xAF], [0xE2, 0x81, 0x9F], [0xE3, 0x80, 0x80]]

/-- Whether nothing is left of a text when white space is stripped from its front. -/
def isBlank : Nat → Bytes → Bool
  | _, [] => true
  | 0, _ :: _ => false
  | fuel + 1, text =>
    match whitespaceRunes.find? fun w => w.isPrefixOf text with
    | none => false
    | some w => isBlank fuel (text.drop w.length)

def MsgSubmitCommitment.validateBasic (m : MsgSubmitCommitment) : Except Error Unit :=
  if m.signer = [] then .error .signerEmpty
  else if m.orgId = [] then .error .invalidOrgID
  else if m.contentHash.length ≠ contentHashLen then .error .invalidContentHash
  else if m.contributorId = [] then .error .invalidContributor
  else if m.producerModelId ≠ [] ∧ m.producerModelId.length > maxProducerModelIdLen then
    .error .producerModelIdTooLong
  else if m.producerModelId ≠ [] ∧ isBlank m.producerModelId.length m.producerModelId then
    .error .producerModelIdBlank
  else if m.attestationSessionHash ≠ [] ∧ m.attestationSessionHash.length ≠ 32 then
    .error .attestationSessionHashLength
  else if m.attestationSessionHash ≠ [] ∧ m.producerModelId = [] then
    .error .producerModelIdRequired
  else .ok ()

structure MsgApproveMemory where
  signer : Bytes
  orgId : Bytes
  contentHash : Bytes
  encryptedBlob : Bytes
  committingLeader : Bytes
  wrappedDekEnc : Bytes := []
  memoryType : MemoryType := .memory
  plaintextHash : Bytes := []
  salt : Bytes := []
  ciphertextHash : Bytes := []
  contributorSig : Bytes := []
  mcVersion : UInt32 := 0
  deriving DecidableEq

def MsgApproveMemory.validateBasic (m : MsgApproveMemory) : Except Error Unit :=
  if m.signer = [] then .error .signerEmpty
  else if m.orgId = [] then .error .invalidOrgID
  else if m.contentHash.length ≠ contentHashLen then .error .invalidContentHash
  else if m.encryptedBlob = [] then .error .invalidBlob
  else .ok ()

structure MsgReportMemory where
  signer : Bytes
  orgId : Bytes
  contentHash : Bytes
  contributorPubkey : Bytes
  approvingModerators : List Bytes := []
  upholdingModerators : List Bytes := []
  reporterPubkey : Bytes
  reason : Bytes
  plaintext : Bytes := []
  ciphertext : Bytes := []
  capsule : Bytes := []
  plaintextHash : Bytes := []
  plaintextOversized : Bool := false
  deriving DecidableEq

def MsgReportMemory.validateBasic (m : MsgReportMemory) : Except Error Unit :=
  if m.signer = [] then .error .signerEmpty
  else if m.orgId = [] then .error .invalidOrgID
  else if m.contentHash.length ≠ contentHashLen then .error .invalidContentHash
  else if m.reporterPubkey = [] then .error .invalidReporter
  else if m.reason = [] then .error .invalidReportReason
  else .ok ()

structure MsgUpdateParams where
  authority : Bytes
  params : Params
  deriving DecidableEq

theorem validateBasic_orgId {m : MsgApproveMemory} (h : m.validateBasic = .ok ()) :
    m.orgId ≠ [] := by
  unfold MsgApproveMemory.validateBasic at h
  split at h
  · cases h
  split at h
  · cases h
  rename_i horg
  exact horg

theorem validateBasic_contentHash {m : MsgApproveMemory} (h : m.validateBasic = .ok ()) :
    m.contentHash.length = contentHashLen := by
  unfold MsgApproveMemory.validateBasic at h
  split at h
  · cases h
  split at h
  · cases h
  split at h
  · cases h
  rename_i hlength
  exact not_not.mp hlength

theorem validateBasic_reporter {m : MsgReportMemory} (h : m.validateBasic = .ok ()) :
    m.reporterPubkey ≠ [] := by
  unfold MsgReportMemory.validateBasic at h
  split at h
  · cases h
  split at h
  · cases h
  split at h
  · cases h
  split at h
  · cases h
  rename_i hreporter
  exact hreporter

end Messages

section Handlers

def requireLeaderWallet (org : Orgs.Store) (orgID signer : Bytes) : Except Error Unit :=
  match Orgs.getLeaderWallet org orgID with
  | .error _ => .error .orgNotFound
  | .ok wallet => if wallet = [] ∨ signer ≠ wallet then .error .unauthorized else .ok ()

/-- The commitment is created with epoch and height zero. -/
def submitCommitmentMsg (st : State) (msg : MsgSubmitCommitment) : Except Error State :=
  match msg.validateBasic with
  | .error e => .error e
  | .ok () =>
    match requireLeaderWallet st.org msg.orgId msg.signer with
    | .error e => .error e
    | .ok () =>
      match Orgs.getMember st.org msg.orgId msg.contributorId with
      | .error _ => .error .notContributor
      | .ok member =>
        if member.role ≠ ascii "leader" ∧ member.canContribute = false then .error .notContributor
        else if validMemoryType msg.memoryType = false then .error .invalidMemoryType
        else submitCommitment st
          { orgID := msg.orgId
            contentHash := msg.contentHash
            keywords := msg.keywords
            contributor := msg.contributorId
            contributorAddress := msg.contributorWallet
            producerModelId := msg.producerModelId
            attestationSessionHash := msg.attestationSessionHash
            epoch := 0
            submittedAt := 0
            memoryType := msg.memoryType
            mcVersion := msg.mcVersion }

def buildSubmitMemoryCanonicalBody (ciphertextHash contributorPubkey : Bytes) (epochID : UInt64)
    (memoryType : MemoryType) (orgID plaintextHash salt submissionHash wrappedDekHash : Bytes) :
    Bytes :=
  join newline
    [ascii "wevibe.submit_memory.v1", ascii "ciphertext_hash:" ++ hexEncode ciphertextHash,
      ascii "contributor_pubkey:" ++ contributorPubkey,
      ascii "epoch_id:" ++ formatUint epochID,
      ascii "memory_type:" ++ canonicalMemoryType memoryType, ascii "org_id:" ++ orgID,
      ascii "plaintext_hash:" ++ hexEncode plaintextHash, ascii "salt:" ++ hexEncode salt,
      ascii "submission_hash:" ++ hexEncode submissionHash,
      ascii "wrapped_dek_hash:" ++ hexEncode wrappedDekHash]

/-- The signature and hash checks of an approval against its pending commitment. -/
def verifyApproval (crypto : Crypto) (msg : MsgApproveMemory) (pending : PendingCommitment) :
    Except Error Unit :=
  let submissionHash := crypto.sha256 (msg.encryptedBlob ++ msg.wrappedDekEnc)
  let body := buildSubmitMemoryCanonicalBody msg.ciphertextHash pending.contributor pending.epoch
    msg.memoryType msg.orgId msg.plaintextHash msg.salt submissionHash
    (crypto.sha256 msg.wrappedDekEnc)
  match (hexDecode pending.contributor).filter fun key => key.length = 32 with
  | none => .error .invalidContributor
  | some key =>
    if crypto.ed25519Verify key body msg.contributorSig = false then
      .error .invalidContributorSignature
    else if msg.ciphertextHash ≠ crypto.sha256 msg.encryptedBlob then .error .invalidBlob
    else if msg.contentHash ≠ submissionHash then .error .invalidContentHash
    else .ok ()

def MsgApproveMemory.approval (crypto : Crypto) (msg : MsgApproveMemory) : Approval where
  orgID := msg.orgId
  contentHash := msg.contentHash
  encryptedBlob := msg.encryptedBlob
  committingLeader := msg.committingLeader
  wrappedDekEnc := msg.wrappedDekEnc
  plaintextHash := msg.plaintextHash
  salt := msg.salt
  ciphertextHash := msg.ciphertextHash
  wrappedDekHash := crypto.sha256 msg.wrappedDekEnc
  contributorSig := msg.contributorSig
  memoryType := msg.memoryType

def approveMemoryMsg (crypto : Crypto) (st : State) (msg : MsgApproveMemory) :
    Except Error State :=
  match msg.validateBasic with
  | .error e => .error e
  | .ok () =>
    match requireLeaderWallet st.org msg.orgId msg.signer with
    | .error e => .error e
    | .ok () =>
      if validMemoryType msg.memoryType = false then .error .invalidMemoryType
      else
        match getPendingCommitment st.store msg.orgId msg.contentHash with
        | .error e => .error e
        | .ok pending =>
          match verifyApproval crypto msg pending with
          | .error e => .error e
          | .ok () => approveMemory st (msg.approval crypto)

/-- Oversized plaintext must come without any content; otherwise the content is bounded and the
capsule is required. -/
def checkReportSizes (msg : MsgReportMemory) : Except Error Unit :=
  if msg.plaintextHash = [] then .error .invalidContentHash
  else if msg.plaintextOversized then
    if msg.plaintext.length > 0 ∨ msg.ciphertext.length > 0 ∨ msg.capsule.length > 0 then
      .error .blobTooLarge
    else .ok ()
  else if msg.plaintext.length > 4096 ∨ msg.ciphertext.length > 8192 ∨ msg.capsule.length = 0 then
    .error .blobTooLarge
  else .ok ()

/-- The signer is recorded as the committing leader. -/
def MsgReportMemory.report (msg : MsgReportMemory) (epoch : UInt64) : StoredMemoryReport where
  orgId := msg.orgId
  contentHash := msg.contentHash
  contributorPubkey := msg.contributorPubkey
  approvingModerators := msg.approvingModerators
  upholdingModerators := msg.upholdingModerators
  reporterPubkey := msg.reporterPubkey
  committingLeaderPubkey := msg.signer
  reason := msg.reason
  plaintext := msg.plaintext
  ciphertext := msg.ciphertext
  capsule := msg.capsule
  plaintextHash := msg.plaintextHash
  plaintextOversized := msg.plaintextOversized
  upheldAtEpoch := epoch
  upheldAtTimestamp := 0

def reportMemory (st : State) (msg : MsgReportMemory) (epoch : UInt64) : Except Error State :=
  let key := reportKey msg.orgId msg.contentHash msg.reporterPubkey
  match checkReportSizes msg with
  | .error e => .error e
  | .ok () =>
    if st.store.approved.has (approvedKey msg.orgId msg.contentHash) = false then
      .error .memoryNotFound
    else if st.store.report.has key then .error .reportExists
    else
      match Orgs.incrementOrgUpheldReports st.org msg.orgId with
      | .error _ => .error .orgNotFound
      | .ok org =>
        let contributed :=
          Reputation.incrementContribution st.reputation msg.contributorPubkey msg.orgId
        let moderated := msg.approvingModerators.foldl
          (fun r modPubkey => Reputation.incrementModeratorUpheld r modPubkey msg.orgId) contributed
        .ok
          { store := { st.store with report := st.store.report.set key (msg.report epoch) }
            org := org
            reputation := Reputation.incrementLeaderUpheldReport moderated msg.signer msg.orgId }

/-- The epoch that is recorded is zero. -/
def reportMemoryMsg (st : State) (msg : MsgReportMemory) : Except Error State :=
  match msg.validateBasic with
  | .error e => .error e
  | .ok () =>
    match requireLeaderWallet st.org msg.orgId msg.signer with
    | .error e => .error e
    | .ok () => reportMemory st msg 0

def updateParamsMsg (authority : Bytes) (st : State) (msg : MsgUpdateParams) :
    Except Error State :=
  if msg.authority ≠ authority then .error .unauthorized
  else if msg.authority = [] then .error .authorityEmpty
  else .ok { st with store := setParams st.store msg.params }

end Handlers

section Delivery

/-- The messages of the module. -/
inductive Msg where
  | submitCommitment (msg : MsgSubmitCommitment)
  | approveMemory (msg : MsgApproveMemory)
  | reportMemory (msg : MsgReportMemory)
  | updateParams (msg : MsgUpdateParams)

def handle (crypto : Crypto) (authority : Bytes) (st : State) : Msg → Except Error State
  | .submitCommitment msg => submitCommitmentMsg st msg
  | .approveMemory msg => approveMemoryMsg crypto st msg
  | .reportMemory msg => reportMemoryMsg st msg
  | .updateParams msg => updateParamsMsg authority st msg

/-- A failed message leaves the state as it was. -/
def deliver (crypto : Crypto) (authority : Bytes) (st : State) (msg : Msg) : State :=
  match handle crypto authority st msg with
  | .error _ => st
  | .ok st' => st'

end Delivery

section Effects
variable {st st' : State}

theorem requireLeaderWallet_ok {org : Orgs.Store} {orgID signer : Bytes}
    (h : requireLeaderWallet org orgID signer = .ok ()) :
    ∃ stored, org.org.get (Orgs.orgKey orgID) = some stored ∧ signer ≠ [] ∧
      signer = stored.leaderWalletAddress := by
  unfold requireLeaderWallet at h
  split at h
  · cases h
  rename_i wallet hwallet
  obtain ⟨stored, hget, rfl⟩ := Orgs.getOrg_map_ok hwallet
  split at h
  · cases h
  rename_i hsigner
  rw [not_or, not_not] at hsigner
  exact ⟨stored, hget, hsigner.2 ▸ hsigner.1, hsigner.2⟩

/-- The commitment that the message asks for. -/
def MsgSubmitCommitment.commitment (msg : MsgSubmitCommitment) : PendingCommitment where
  orgID := msg.orgId
  contentHash := msg.contentHash
  keywords := msg.keywords
  contributor := msg.contributorId
  contributorAddress := msg.contributorWallet
  producerModelId := msg.producerModelId
  attestationSessionHash := msg.attestationSessionHash
  memoryType := msg.memoryType
  mcVersion := msg.mcVersion

theorem submitCommitmentMsg_ok {msg : MsgSubmitCommitment}
    (h : submitCommitmentMsg st msg = .ok st') :
    msg.validateBasic = .ok () ∧ requireLeaderWallet st.org msg.orgId msg.signer = .ok () ∧
      submitCommitment st msg.commitment = .ok st' := by
  unfold submitCommitmentMsg at h
  split at h
  · cases h
  rename_i hbasic
  split at h
  · cases h
  rename_i hwallet
  split at h
  · cases h
  split at h
  · cases h
  split at h
  · cases h
  exact ⟨hbasic, hwallet, h⟩

theorem approveMemoryMsg_ok {crypto : Crypto} {msg : MsgApproveMemory}
    (h : approveMemoryMsg crypto st msg = .ok st') :
    msg.validateBasic = .ok () ∧ requireLeaderWallet st.org msg.orgId msg.signer = .ok () ∧
      (∃ pending, getPendingCommitment st.store msg.orgId msg.contentHash = .ok pending ∧
        verifyApproval crypto msg pending = .ok ()) ∧
      approveMemory st (msg.approval crypto) = .ok st' := by
  unfold approveMemoryMsg at h
  split at h
  · cases h
  rename_i hbasic
  split at h
  · cases h
  rename_i hwallet
  split at h
  · cases h
  split at h
  · cases h
  rename_i pending hpending
  split at h
  · cases h
  rename_i hverified
  exact ⟨hbasic, hwallet, ⟨pending, hpending, hverified⟩, h⟩

/-- The text that the contributor's signature is checked against. -/
def approvalBody (crypto : Crypto) (msg : MsgApproveMemory) (pending : PendingCommitment) : Bytes :=
  buildSubmitMemoryCanonicalBody msg.ciphertextHash pending.contributor pending.epoch
    msg.memoryType msg.orgId msg.plaintextHash msg.salt
    (crypto.sha256 (msg.encryptedBlob ++ msg.wrappedDekEnc)) (crypto.sha256 msg.wrappedDekEnc)

theorem verifyApproval_ok {crypto : Crypto} {msg : MsgApproveMemory} {pending : PendingCommitment}
    (h : verifyApproval crypto msg pending = .ok ()) :
    ∃ key, hexDecode pending.contributor = some key ∧ key.length = 32 ∧
      crypto.ed25519Verify key (approvalBody crypto msg pending) msg.contributorSig = true ∧
      msg.ciphertextHash = crypto.sha256 msg.encryptedBlob ∧
      msg.contentHash = crypto.sha256 (msg.encryptedBlob ++ msg.wrappedDekEnc) := by
  unfold verifyApproval at h
  dsimp only at h
  split at h
  · cases h
  rename_i key hkey
  obtain ⟨hdecode, hlength⟩ := Option.filter_eq_some_iff.mp hkey
  split at h
  · cases h
  rename_i hsignature
  split at h
  · cases h
  rename_i hcipher
  split at h
  · cases h
  rename_i hcontent
  exact ⟨key, hdecode, of_decide_eq_true hlength, Bool.not_eq_false _ ▸ hsignature,
    not_not.mp hcipher, not_not.mp hcontent⟩

/-- What a report requires, and the state it leads to. -/
theorem reportMemory_eq {msg : MsgReportMemory} {epoch : UInt64}
    (h : reportMemory st msg epoch = .ok st') :
    ∃ record, st.store.approved.has (approvedKey msg.orgId msg.contentHash) = true ∧
      st.store.report.get (reportKey msg.orgId msg.contentHash msg.reporterPubkey) = none ∧
      st.org.org.get (Orgs.orgKey msg.orgId) = some record ∧
      st' =
        { store := { st.store with
            report := st.store.report.set
              (reportKey msg.orgId msg.contentHash msg.reporterPubkey) (msg.report epoch) }
          org := { st.org with
            org := st.org.org.set (Orgs.orgKey msg.orgId)
              { record with
                totalUpheldReports := record.totalUpheldReports + 1
                lastActivityEpoch := Orgs.getCurrentEpoch st.org } }
          reputation := Reputation.incrementLeaderUpheldReport
            (msg.approvingModerators.foldl
              (fun r modPubkey => Reputation.incrementModeratorUpheld r modPubkey msg.orgId)
              (Reputation.incrementContribution st.reputation msg.contributorPubkey msg.orgId))
            msg.signer msg.orgId } := by
  unfold reportMemory at h
  dsimp only at h
  split at h
  · cases h
  split at h
  · cases h
  rename_i hknown
  split at h
  · cases h
  rename_i hfresh
  split at h
  · cases h
  rename_i org horg
  obtain ⟨record, hrecord, rfl⟩ := Orgs.modifyOrgAggregate_ok horg
  exact ⟨record, Bool.not_eq_false _ ▸ hknown,
    OrderedMap.has_eq_false_iff.mp (Bool.eq_false_iff.mpr hfresh), hrecord,
    (Except.ok.inj h).symm⟩

theorem reportMemory_ok {msg : MsgReportMemory} {epoch : UInt64}
    (h : reportMemory st msg epoch = .ok st') :
    st.store.report.get (reportKey msg.orgId msg.contentHash msg.reporterPubkey) = none ∧
      st'.store = { st.store with
        report := st.store.report.set
          (reportKey msg.orgId msg.contentHash msg.reporterPubkey) (msg.report epoch) } ∧
      Orgs.CountersChanged msg.orgId st.org st'.org := by
  obtain ⟨record, -, hfresh, hrecord, rfl⟩ := reportMemory_eq h
  exact ⟨hfresh, rfl, record, _, _, _, hrecord, rfl⟩

theorem reportMemoryMsg_ok {msg : MsgReportMemory} (h : reportMemoryMsg st msg = .ok st') :
    msg.validateBasic = .ok () ∧ requireLeaderWallet st.org msg.orgId msg.signer = .ok () ∧
      reportMemory st msg 0 = .ok st' := by
  unfold reportMemoryMsg at h
  split at h
  · cases h
  rename_i hbasic
  split at h
  · cases h
  rename_i hwallet
  exact ⟨hbasic, hwallet, h⟩

theorem updateParamsMsg_ok {authority : Bytes} {msg : MsgUpdateParams}
    (h : updateParamsMsg authority st msg = .ok st') :
    st' = { st with store := { st.store with params := some msg.params } } := by
  unfold updateParamsMsg at h
  split at h
  · cases h
  split at h
  · cases h
  exact (Except.ok.inj h).symm

/-- Everything an accepted message can do to the memory store. -/
inductive Stored (crypto : Crypto) (s : Store) : Msg → Store → Prop where
  | submit (msg : MsgSubmitCommitment) (basic : msg.validateBasic = .ok ())
      (fresh : s.pending.get (pendingKey msg.orgId msg.contentHash) = none) :
      Stored crypto s (.submitCommitment msg)
        { s with
          pending := s.pending.set (pendingKey msg.orgId msg.contentHash)
            (pendingToStored msg.commitment) }
  | approve (msg : MsgApproveMemory) (pending : PendingCommitment)
      (basic : msg.validateBasic = .ok ())
      (found : getPendingCommitment s msg.orgId msg.contentHash = .ok pending)
      (verified : verifyApproval crypto msg pending = .ok ())
      (fresh : s.approved.get (approvedKey msg.orgId msg.contentHash) = none) :
      Stored crypto s (.approveMemory msg) (approvedStore s (msg.approval crypto) pending)
  | report (msg : MsgReportMemory) (basic : msg.validateBasic = .ok ())
      (fresh : s.report.get (reportKey msg.orgId msg.contentHash msg.reporterPubkey) = none) :
      Stored crypto s (.reportMemory msg)
        { s with
          report := s.report.set (reportKey msg.orgId msg.contentHash msg.reporterPubkey)
            (msg.report 0) }
  | params (msg : MsgUpdateParams) :
      Stored crypto s (.updateParams msg) { s with params := some msg.params }

theorem handle_stored {crypto : Crypto} {authority : Bytes} {msg : Msg}
    (h : handle crypto authority st msg = .ok st') : Stored crypto st.store msg st'.store := by
  cases msg with
  | submitCommitment m =>
    obtain ⟨hbasic, -, hsubmit⟩ := submitCommitmentMsg_ok h
    obtain ⟨-, hfresh, rfl⟩ := submitCommitment_ok hsubmit
    exact .submit m hbasic hfresh
  | approveMemory m =>
    obtain ⟨hbasic, -, ⟨pending, hpending, hverified⟩, happrove⟩ := approveMemoryMsg_ok h
    obtain ⟨pending', hpending', -, -, hfresh, hstore, -⟩ := approveMemory_ok happrove
    obtain rfl : pending = pending' := Except.ok.inj (hpending.symm.trans hpending')
    rw [hstore]
    exact .approve m pending hbasic hpending hverified hfresh
  | reportMemory m =>
    obtain ⟨hbasic, -, hreport⟩ := reportMemoryMsg_ok h
    obtain ⟨hfresh, hstore, -⟩ := reportMemory_ok hreport
    rw [hstore]
    exact .report m hbasic hfresh
  | updateParams m =>
    obtain rfl := updateParamsMsg_ok h
    exact .params m

theorem approveMemoryMsg_store {crypto : Crypto} {msg : MsgApproveMemory}
    {pending : PendingCommitment} (h : approveMemoryMsg crypto st msg = .ok st')
    (hpending : getPendingCommitment st.store msg.orgId msg.contentHash = .ok pending) :
    msg.validateBasic = .ok () ∧ verifyApproval crypto msg pending = .ok () ∧
      st'.store = approvedStore st.store (msg.approval crypto) pending := by
  generalize hstore : st'.store = s'
  have hstored := @handle_stored st st' crypto [] (.approveMemory msg) h
  rw [hstore] at hstored
  cases hstored with
  | approve _ pending' hbasic hfound hverified hfresh =>
    obtain rfl : pending' = pending := Except.ok.inj (hfound.symm.trans hpending)
    exact ⟨hbasic, hverified, rfl⟩

/-- A message is refused and does nothing, or it is accepted. -/
theorem deliver_eq (crypto : Crypto) (authority : Bytes) (st : State) (msg : Msg) :
    ((∃ e, handle crypto authority st msg = .error e) ∧ deliver crypto authority st msg = st) ∨
      handle crypto authority st msg = .ok (deliver crypto authority st msg) := by
  unfold deliver
  cases handle crypto authority st msg with
  | error e => exact Or.inl ⟨⟨e, rfl⟩, rfl⟩
  | ok st' => exact Or.inr rfl

theorem deliver_merkle {crypto : Crypto} {authority : Bytes} (st : State) (msg : Msg) :
    (deliver crypto authority st msg).store.merkle = st.store.merkle := by
  rcases deliver_eq crypto authority st msg with ⟨-, hsame⟩ | hok
  · rw [hsame]
  · generalize hstore : (deliver crypto authority st msg).store = s'
    have hstored := handle_stored hok
    rw [hstore] at hstored
    cases hstored <;> rfl

/-- Only an accepted approval touches the approved memories, and no message touches the validity
metadata or the current epoch. -/
theorem deliver_cases (crypto : Crypto) (authority : Bytes) (st : State) (msg : Msg) :
    ((deliver crypto authority st msg).store.approved = st.store.approved ∧
      (deliver crypto authority st msg).store.validity = st.store.validity ∧
      (deliver crypto authority st msg).store.currentEpoch = st.store.currentEpoch) ∨
    ∃ approve pending, msg = .approveMemory approve ∧
      approveMemoryMsg crypto st approve = .ok (deliver crypto authority st msg) ∧
      getPendingCommitment st.store approve.orgId approve.contentHash = .ok pending ∧
      st.store.approved.get (approvedKey approve.orgId approve.contentHash) = none ∧
      (deliver crypto authority st msg).store =
        approvedStore st.store (approve.approval crypto) pending := by
  rcases deliver_eq crypto authority st msg with ⟨-, hsame⟩ | hok
  · rw [hsame]
    exact Or.inl ⟨rfl, rfl, rfl⟩
  · generalize hstore : (deliver crypto authority st msg).store = s'
    have hstored := handle_stored hok
    rw [hstore] at hstored
    cases hstored with
    | submit m hbasic hfresh => exact Or.inl ⟨rfl, rfl, rfl⟩
    | approve m pending hbasic hfound hverified hfresh =>
      exact Or.inr ⟨m, pending, rfl, hok, hfound, hfresh, rfl⟩
    | report m hbasic hfresh => exact Or.inl ⟨rfl, rfl, rfl⟩
    | params m => exact Or.inl ⟨rfl, rfl, rfl⟩

end Effects

end WeVibeChain.Memory
