import WeVibeChain.MemoryRuns

/-!
# x/reputation: the evidence behind an approved memory

`VerifyUpheldReport` hands out what an external verifier needs to check a
contributor's signature, with the signed text rebuilt by a copy of the encoder
that x/memory checks the signature with. It refuses a memory that lacks one of
the fields it returns. Approval does not ask for all of them.
-/

set_option autoImplicit false

namespace WeVibeChain.Reputation

open Bytes
open Memory (MemoryType MsgApproveMemory PendingCommitment StoredMemoryCommitment StoredMemoryReport)

section Query

/-- The failures of the query, with their gRPC status. -/
inductive QueryError where
  | orgIdRequired
  | contentHashRequired
  | approvedMemoryNotFound
  | missingVerificationFields
  | wrappedDekHashMismatch
  | contentHashMismatch
  deriving DecidableEq, Repr

inductive StatusCode where
  | invalidArgument
  | notFound
  | internal
  deriving DecidableEq, Repr

def QueryError.code : QueryError → StatusCode
  | orgIdRequired => .invalidArgument
  | contentHashRequired => .invalidArgument
  | approvedMemoryNotFound => .notFound
  | missingVerificationFields => .internal
  | wrappedDekHashMismatch => .internal
  | contentHashMismatch => .internal

def QueryError.text : QueryError → String
  | orgIdRequired => "org_id required"
  | contentHashRequired => "content_hash required"
  | approvedMemoryNotFound => "approved memory not found"
  | missingVerificationFields => "approved memory missing verification fields"
  | wrappedDekHashMismatch => "stored wrapped_dek_hash mismatch"
  | contentHashMismatch => "stored content_hash mismatch"

structure QueryVerifyUpheldReportResponse where
  plaintext : Bytes
  ciphertext : Bytes
  capsule : Bytes
  plaintextHash : Bytes
  plaintextOversized : Bool
  approvingModerators : List Bytes
  upholdingModerators : List Bytes
  upheldAtEpoch : UInt64
  salt : Bytes
  ciphertextHash : Bytes
  wrappedDekHash : Bytes
  contributorSig : Bytes
  contributorPubkey : Bytes
  encryptedBlob : Bytes
  wrappedDekEnc : Bytes
  contentHash : Bytes
  orgId : Bytes
  epoch : UInt64
  memoryType : Bytes
  canonicalBody : Bytes
  deriving DecidableEq

/-- The first report of the memory in key order. -/
def getUpheldReport (s : Memory.Store) (orgID memoryHash : Bytes) : Option StoredMemoryReport :=
  s.report.values.find? fun report =>
    report.orgId = orgID ∧ hexEncode report.contentHash = hexEncode memoryHash

/-- This module's copy of the encoder. -/
def buildSubmitMemoryCanonicalBody (ciphertextHash contributorPubkey : Bytes) (epochID : UInt64)
    (memoryType : MemoryType) (orgID plaintextHash salt submissionHash wrappedDekHash : Bytes) :
    Bytes :=
  join newline
    [ascii "wevibe.submit_memory.v1", ascii "ciphertext_hash:" ++ hexEncode ciphertextHash,
      ascii "contributor_pubkey:" ++ contributorPubkey,
      ascii "epoch_id:" ++ formatUint epochID,
      ascii "memory_type:" ++ Memory.canonicalMemoryType memoryType, ascii "org_id:" ++ orgID,
      ascii "plaintext_hash:" ++ hexEncode plaintextHash, ascii "salt:" ++ hexEncode salt,
      ascii "submission_hash:" ++ hexEncode submissionHash,
      ascii "wrapped_dek_hash:" ++ hexEncode wrappedDekHash]

/-- A memory that was never reported comes with the report's fields empty. -/
def verifyUpheldReport (sha256 : Bytes → Bytes) (s : Memory.Store) (orgId contentHash : Bytes) :
    Except QueryError QueryVerifyUpheldReportResponse :=
  if orgId = [] then .error .orgIdRequired
  else if contentHash = [] then .error .contentHashRequired
  else
    match Memory.getApprovedMemory s orgId contentHash with
    | .error _ => .error .approvedMemoryNotFound
    | .ok memory =>
      let report := getUpheldReport s orgId contentHash
      let wrappedDekHash := sha256 memory.wrappedDekEnc
      let submissionHash := sha256 (memory.encryptedBlob ++ memory.wrappedDekEnc)
      if memory.plaintextHash = [] ∨ memory.salt = [] ∨ memory.ciphertextHash = [] ∨
          memory.contributorSig = [] then
        .error .missingVerificationFields
      else if memory.wrappedDekHash ≠ [] ∧ memory.wrappedDekHash ≠ wrappedDekHash then
        .error .wrappedDekHashMismatch
      else if memory.contentHash ≠ submissionHash then .error .contentHashMismatch
      else
        .ok
          { plaintext := (report.map StoredMemoryReport.plaintext).getD []
            ciphertext := (report.map StoredMemoryReport.ciphertext).getD []
            capsule := (report.map StoredMemoryReport.capsule).getD []
            plaintextHash := memory.plaintextHash
            plaintextOversized := (report.map StoredMemoryReport.plaintextOversized).getD false
            approvingModerators := (report.map StoredMemoryReport.approvingModerators).getD []
            upholdingModerators := (report.map StoredMemoryReport.upholdingModerators).getD []
            upheldAtEpoch := (report.map StoredMemoryReport.upheldAtEpoch).getD 0
            salt := memory.salt
            ciphertextHash := memory.ciphertextHash
            wrappedDekHash := wrappedDekHash
            contributorSig := memory.contributorSig
            contributorPubkey := memory.contributor
            encryptedBlob := memory.encryptedBlob
            wrappedDekEnc := memory.wrappedDekEnc
            contentHash := memory.contentHash
            orgId := memory.orgID
            epoch := memory.epoch
            memoryType := Memory.canonicalMemoryType memory.memoryType
            canonicalBody := buildSubmitMemoryCanonicalBody memory.ciphertextHash
              memory.contributor memory.epoch memory.memoryType memory.orgID memory.plaintextHash
              memory.salt submissionHash wrappedDekHash }

/-- The two copies of the encoder agree. -/
theorem buildSubmitMemoryCanonicalBody_eq :
    buildSubmitMemoryCanonicalBody = Memory.buildSubmitMemoryCanonicalBody := rfl

end Query

section Evidence
variable {crypto : Crypto} {s : Memory.Store}

/-- Every field that the query refuses to be without is there. -/
def Complete (record : StoredMemoryCommitment) : Prop :=
  record.plaintextHash ≠ [] ∧ record.salt ≠ [] ∧ record.ciphertextHash ≠ [] ∧
    record.contributorSig ≠ []

/-- For a stored record whose hashes fit, the query succeeds exactly if the record is complete, and
it returns the record's own signed text. -/
theorem verifyUpheldReport_genuine {orgId contentHash : Bytes} {record : StoredMemoryCommitment}
    (horg : orgId ≠ []) (hhash : contentHash ≠ [])
    (hget : s.approved.get (Memory.approvedKey orgId contentHash) = some record)
    (hrecord : Memory.Genuine crypto record) :
    (∃ response, verifyUpheldReport crypto.sha256 s orgId contentHash = .ok response ∧
      response.canonicalBody = Memory.recordBody record) ↔ Complete record := by
  have hmemory : Memory.getApprovedMemory s orgId contentHash =
      .ok (Memory.storedToMemory record) := by
    simp [Memory.getApprovedMemory, hget]
  unfold verifyUpheldReport
  simp only [horg, hhash, if_false, hmemory]
  constructor
  · rintro ⟨response, hok, -⟩
    split at hok
    · cases hok
    rename_i hmissing
    simp only [not_or] at hmissing
    exact hmissing
  · rintro ⟨hplain, hsalt, hcipher, hsig⟩
    have hdek : record.wrappedDekHash = crypto.sha256 record.wrappedDekEnc :=
      hrecord.wrappedDekHash
    have hcontent : record.contentHash =
        crypto.sha256 (record.encryptedBlob ++ record.wrappedDekEnc) := hrecord.contentHash
    simp [Memory.storedToMemory, hplain, hsalt, hcipher, hsig, ← hdek, ← hcontent,
      buildSubmitMemoryCanonicalBody_eq, Memory.recordBody]

/-- Once an approval is accepted, the record that it creates is there for good, genuine, with the
fields of the message and with the text that the signature was checked against. -/
theorem approved_record_later {authority : Bytes}
    {foreign : Memory.Entry → Option StoredMemoryCommitment} {st st' : Memory.State}
    {msg : MsgApproveMemory} {pending : PendingCommitment}
    (hkeyed : st.store.approved.Forall Memory.WellKeyed)
    (hpending : Memory.getPendingCommitment st.store msg.orgId msg.contentHash = .ok pending)
    (hok : Memory.approveMemoryMsg crypto st msg = .ok st') (later : List Memory.Input) :
    ∃ record, ((Memory.chain crypto authority foreign).run st' later).store.approved.get
        (Memory.approvedKey msg.orgId msg.contentHash) = some record ∧
      Memory.Genuine crypto record ∧
      Memory.recordBody record = Memory.approvalBody crypto msg pending ∧
      (Complete record ↔ msg.plaintextHash ≠ [] ∧ msg.salt ≠ [] ∧ msg.ciphertextHash ≠ [] ∧
        msg.contributorSig ≠ []) := by
  obtain ⟨-, hverified, hstore⟩ := Memory.approveMemoryMsg_store hok hpending
  have hsound := Memory.soundRecord_approved hverified (Memory.getCurrentEpoch st.store)
  obtain ⟨key, -, -, -, -, hcontent⟩ := Memory.verifyApproval_ok hverified
  have hkeyed' : st'.store.approved.Forall Memory.WellKeyed := by
    rw [hstore]
    exact hkeyed.set hsound.wellKeyed
  have hget : st'.store.approved.get (Memory.approvedKey msg.orgId msg.contentHash) =
      some (Memory.memoryToStored (Memory.approvedRecord (msg.approval crypto) pending
        (Memory.getCurrentEpoch st.store))) := by
    rw [hstore]
    exact OrderedMap.get_set_self _ _ _
  rw [Memory.approvalBody, ← hcontent]
  rcases Memory.keeps_run later hkeyed' _ _ hget with hsame | harchived
  · exact ⟨_, hsame, hsound.genuine, rfl, Iff.rfl⟩
  · exact ⟨_, harchived, (Memory.soundRecord_archiving _ _ hsound).genuine, rfl, Iff.rfl⟩

/-- The store a run begins with: empty, or set up by a genesis. -/
def startStore (genesis : Option Memory.GenesisState) : Memory.Store :=
  genesis.elim {} (Memory.initGenesis {})

theorem wellKeyed_startStore (genesis : Option Memory.GenesisState) :
    (startStore genesis).approved.Forall Memory.WellKeyed := by
  cases genesis with
  | none => exact OrderedMap.forall_empty
  | some g => exact Memory.wellKeyed_initGenesis OrderedMap.forall_empty g

/-- However a run goes on after an approval is accepted, `VerifyUpheldReport` answers for the memory
with the text that was signed if and only if the approval came with a plaintext hash, a salt, a
ciphertext hash and a signature that are not empty. -/
theorem verifyUpheldReport_after_approval (crypto : Crypto) (authority : Bytes)
    (foreign : Memory.Entry → Option StoredMemoryCommitment) (genesis : Option Memory.GenesisState)
    (org : Orgs.Store) (reputation : Store) (before after : List Memory.Input)
    (msg : MsgApproveMemory) (pending : PendingCommitment) (accepted : Memory.State)
    (hpending : Memory.getPendingCommitment ((Memory.chain crypto authority foreign).run
      ⟨startStore genesis, org, reputation⟩ before).store msg.orgId msg.contentHash = .ok pending)
    (haccepted : Memory.handle crypto authority ((Memory.chain crypto authority foreign).run
      ⟨startStore genesis, org, reputation⟩ before) (.approveMemory msg) = .ok accepted) :
    (∃ response, verifyUpheldReport crypto.sha256
        ((Memory.chain crypto authority foreign).run ⟨startStore genesis, org, reputation⟩
          (before ++ .msg (.approveMemory msg) :: after)).store msg.orgId msg.contentHash =
            .ok response ∧
        response.canonicalBody = Memory.approvalBody crypto msg pending) ↔
      msg.plaintextHash ≠ [] ∧ msg.salt ≠ [] ∧ msg.ciphertextHash ≠ [] ∧
        msg.contributorSig ≠ [] := by
  rw [Machine.run_append, Machine.run_cons]
  have hkeyed : ((Memory.chain crypto authority foreign).run ⟨startStore genesis, org, reputation⟩
      before).store.approved.Forall Memory.WellKeyed :=
    (Memory.chain crypto authority foreign).run_always Memory.wellKeyed_next
      (wellKeyed_startStore genesis) before
  rw [Memory.next_msg haccepted]
  obtain ⟨hbasic, -, -⟩ := Memory.approveMemoryMsg_ok haccepted
  have hhash : msg.contentHash ≠ [] := by
    intro hnil
    have hlength := Memory.validateBasic_contentHash hbasic
    rw [hnil] at hlength
    cases hlength
  obtain ⟨record, hget, hgenuine, hbody, hcomplete⟩ :=
    approved_record_later hkeyed hpending haccepted after
  rw [← hbody, ← hcomplete]
  exact verifyUpheldReport_genuine (Memory.validateBasic_orgId hbasic) hhash hget hgenuine

open EpochHooks (emptyHash sampleApprove sampleContributor sampleCrypto sampleHash sampleOrgs
  sampleSubmit)

/-- An approval with a plaintext hash and a salt, and a signature check that accepts it. -/
def completeApprove : MsgApproveMemory :=
  { sampleApprove with plaintextHash := emptyHash, salt := ascii "s" }

def acceptingCrypto : Crypto := { sampleCrypto with ed25519Verify := fun _ _ _ => true }

def beforeApproval : List Memory.Input :=
  [.otherModules sampleOrgs {}, .msg (.submitCommitment sampleSubmit)]

theorem complete_memory_verifiable :
    ∃ response, verifyUpheldReport acceptingCrypto.sha256
        ((Memory.chain acceptingCrypto [] Memory.decodeForeign).run ⟨startStore none, {}, {}⟩
          (beforeApproval ++ .msg (.approveMemory completeApprove) :: [])).store (ascii "o")
          sampleHash = .ok response ∧
      response.canonicalBody =
        Memory.approvalBody acceptingCrypto completeApprove sampleSubmit.commitment :=
  (verifyUpheldReport_after_approval acceptingCrypto [] Memory.decodeForeign none {} {}
    beforeApproval [] completeApprove sampleSubmit.commitment
    (Memory.deliver acceptingCrypto []
      ((Memory.chain acceptingCrypto [] Memory.decodeForeign).run ⟨startStore none, {}, {}⟩
        beforeApproval) (.approveMemory completeApprove))
    (by decide +kernel) (by decide +kernel)).mpr (by decide +kernel)

/-- The query finds the approved memory and refuses it: it was approved without a salt and without
a plaintext hash. -/
theorem approved_memory_not_verifiable :
    verifyUpheldReport sampleCrypto.sha256
      ((Memory.chain sampleCrypto [] Memory.decodeForeign).run ⟨startStore none, {}, {}⟩
        (beforeApproval ++ [.msg (.approveMemory sampleApprove)])).store (ascii "o") sampleHash =
      .error .missingVerificationFields := by
  decide +kernel

end Evidence

end WeVibeChain.Reputation
