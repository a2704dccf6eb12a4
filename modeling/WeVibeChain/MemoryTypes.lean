import WeVibeChain.Shared.Bytes
import WeVibeChain.Shared.OrderedMap

/-!
# x/memory: records and the module store

Commitments wait under `pending/` and move to `approved/` when the org's leader
approves them. Each record has an in-memory and a stored form with different
field names, and the two conversions copy every field.

Some iterators of this module have no upper end and run into the key families
that follow, so the store can also be listed as a whole, in key order.
-/

set_option autoImplicit false

namespace WeVibeChain.Memory

open Bytes

inductive Error where
  | invalidContentHash
  | invalidOrgID
  | invalidContributor
  | invalidContributorSignature
  | notContributor
  | invalidBlob
  | blobTooLarge
  | invalidKeyword
  | commitmentExists
  | commitmentNotFound
  | memoryExists
  | memoryNotFound
  | merkleRootNotFound
  | maxPendingExceeded
  | unauthorized
  | orgNotFound
  | invalidMemoryType
  | invalidReporter
  | invalidReportReason
  | reportExists
  | signerEmpty
  | authorityEmpty
  | producerModelIdTooLong
  | producerModelIdBlank
  | attestationSessionHashLength
  | producerModelIdRequired
  | decodeCid
  | scopeTags
  deriving DecidableEq, Repr

def Error.text : Error → String
  | invalidContentHash => "content hash must be 32 bytes"
  | invalidOrgID => "invalid org ID"
  | invalidContributor => "invalid contributor ID"
  | invalidContributorSignature => "invalid contributor signature"
  | notContributor => "can_contribute capability or leader role required to submit memory"
  | invalidBlob => "invalid encrypted blob"
  | blobTooLarge => "encrypted blob exceeds max size"
  | invalidKeyword => "invalid keyword"
  | commitmentExists => "pending commitment already exists"
  | commitmentNotFound => "pending commitment not found"
  | memoryExists => "memory already exists"
  | memoryNotFound => "memory not found"
  | merkleRootNotFound => "merkle root not found for epoch"
  | maxPendingExceeded => "max pending commitments per org exceeded"
  | unauthorized => "unauthorized"
  | orgNotFound => "org not found"
  | invalidMemoryType => "invalid memory type"
  | invalidReporter => "invalid reporter ID"
  | invalidReportReason => "invalid report reason"
  | reportExists => "report already exists for this memory by this reporter"
  | signerEmpty => "signer cannot be empty"
  | authorityEmpty => "authority cannot be empty"
  | producerModelIdTooLong => "producer_model_id must be <= 128 characters"
  | producerModelIdBlank => "producer_model_id cannot be whitespace"
  | attestationSessionHashLength => "attestation_session_hash must be exactly 32 bytes when set"
  | producerModelIdRequired =>
    "producer_model_id is required when attestation_session_hash is set"
  | decodeCid => "decode cid"
  | scopeTags => "unmarshal scope tags"

inductive MemoryType where
  | unspecified
  | memory
  | other (code : Int32)
  deriving DecidableEq, Repr

def validMemoryType (t : MemoryType) : Bool := t = .memory

def canonicalMemoryType : MemoryType → Bytes
  | .memory => ascii "memory"
  | _ => []

inductive MemoryState where
  | unspecified
  | pending
  | pendingKeyword
  | pendingChain
  | committed
  | denied
  | archived
  | reportedDeleted
  | other (code : Int32)
  deriving DecidableEq, Repr

def contentHashLen : Nat := 32

section Commitments

structure PendingCommitment where
  orgID : Bytes
  contentHash : Bytes
  keywords : List Bytes := []
  contributor : Bytes
  contributorAddress : Bytes := []
  producerModelId : Bytes := []
  attestationSessionHash : Bytes := []
  epoch : UInt64 := 0
  submittedAt : UInt64 := 0
  memoryType : MemoryType
  mcVersion : UInt32 := 0
  deriving DecidableEq

def PendingCommitment.validate (pc : PendingCommitment) : Except Error Unit :=
  if pc.orgID = [] then .error .invalidOrgID
  else if pc.contentHash.length ≠ contentHashLen then .error .invalidContentHash
  else if pc.contributor = [] then .error .invalidContributor
  else if validMemoryType pc.memoryType = false then .error .invalidMemoryType
  else if [] ∈ pc.keywords then .error .invalidKeyword
  else .ok ()

structure StoredPendingCommitment where
  orgId : Bytes
  contentHash : Bytes
  contributorId : Bytes
  epoch : UInt64
  submittedAtHeight : UInt64
  memoryType : MemoryType
  contributorAddress : Bytes
  keywords : List Bytes
  producerModelId : Bytes
  attestationSessionHash : Bytes
  mcVersion : UInt32
  deriving DecidableEq

def pendingToStored (pc : PendingCommitment) : StoredPendingCommitment where
  orgId := pc.orgID
  contentHash := pc.contentHash
  contributorId := pc.contributor
  epoch := pc.epoch
  submittedAtHeight := pc.submittedAt
  memoryType := pc.memoryType
  contributorAddress := pc.contributorAddress
  keywords := pc.keywords
  producerModelId := pc.producerModelId
  attestationSessionHash := pc.attestationSessionHash
  mcVersion := pc.mcVersion

def storedToPending (stored : StoredPendingCommitment) : PendingCommitment where
  orgID := stored.orgId
  contentHash := stored.contentHash
  keywords := stored.keywords
  contributor := stored.contributorId
  contributorAddress := stored.contributorAddress
  producerModelId := stored.producerModelId
  attestationSessionHash := stored.attestationSessionHash
  epoch := stored.epoch
  submittedAt := stored.submittedAtHeight
  memoryType := stored.memoryType
  mcVersion := stored.mcVersion

structure MemoryCommitment where
  orgID : Bytes
  contentHash : Bytes
  encryptedBlob : Bytes := []
  keywords : List Bytes := []
  contributor : Bytes
  contributorAddress : Bytes := []
  producerModelId : Bytes := []
  attestationSessionHash : Bytes := []
  epoch : UInt64 := 0
  committedAtHeight : UInt64 := 0
  committingLeader : Bytes := []
  state : MemoryState
  lastActiveEpoch : UInt64 := 0
  wrappedDekEnc : Bytes := []
  plaintextHash : Bytes := []
  salt : Bytes := []
  ciphertextHash : Bytes := []
  wrappedDekHash : Bytes := []
  contributorSig : Bytes := []
  memoryType : MemoryType := .memory
  approvedAtEpoch : UInt64 := 0
  mcVersion : UInt32 := 0
  deriving DecidableEq

structure StoredMemoryCommitment where
  orgId : Bytes
  contentHash : Bytes
  encryptedBlob : Bytes
  contributorPubkey : Bytes
  epoch : UInt64
  committedAtHeight : UInt64
  committingLeaderPubkey : Bytes
  state : MemoryState
  lastActiveEpoch : UInt64
  wrappedDekEnc : Bytes
  memoryType : MemoryType
  approvedAtEpoch : UInt64
  plaintextHash : Bytes
  salt : Bytes
  ciphertextHash : Bytes
  wrappedDekHash : Bytes
  contributorSig : Bytes
  contributorAddress : Bytes
  producerModelId : Bytes
  attestationSessionHash : Bytes
  mcVersion : UInt32
  keywords : List Bytes
  deriving DecidableEq

def memoryToStored (con : MemoryCommitment) : StoredMemoryCommitment where
  orgId := con.orgID
  contentHash := con.contentHash
  encryptedBlob := con.encryptedBlob
  contributorPubkey := con.contributor
  epoch := con.epoch
  committedAtHeight := con.committedAtHeight
  committingLeaderPubkey := con.committingLeader
  state := con.state
  lastActiveEpoch := con.lastActiveEpoch
  wrappedDekEnc := con.wrappedDekEnc
  memoryType := con.memoryType
  approvedAtEpoch := con.approvedAtEpoch
  plaintextHash := con.plaintextHash
  salt := con.salt
  ciphertextHash := con.ciphertextHash
  wrappedDekHash := con.wrappedDekHash
  contributorSig := con.contributorSig
  contributorAddress := con.contributorAddress
  producerModelId := con.producerModelId
  attestationSessionHash := con.attestationSessionHash
  mcVersion := con.mcVersion
  keywords := con.keywords

def storedToMemory (stored : StoredMemoryCommitment) : MemoryCommitment where
  orgID := stored.orgId
  contentHash := stored.contentHash
  encryptedBlob := stored.encryptedBlob
  keywords := stored.keywords
  contributor := stored.contributorPubkey
  contributorAddress := stored.contributorAddress
  producerModelId := stored.producerModelId
  attestationSessionHash := stored.attestationSessionHash
  epoch := stored.epoch
  committedAtHeight := stored.committedAtHeight
  committingLeader := stored.committingLeaderPubkey
  state := stored.state
  lastActiveEpoch := stored.lastActiveEpoch
  wrappedDekEnc := stored.wrappedDekEnc
  plaintextHash := stored.plaintextHash
  salt := stored.salt
  ciphertextHash := stored.ciphertextHash
  wrappedDekHash := stored.wrappedDekHash
  contributorSig := stored.contributorSig
  memoryType := stored.memoryType
  approvedAtEpoch := stored.approvedAtEpoch
  mcVersion := stored.mcVersion

@[simp] theorem storedToPending_toStored (pc : PendingCommitment) :
    storedToPending (pendingToStored pc) = pc := rfl

@[simp] theorem storedToMemory_toStored (con : MemoryCommitment) :
    storedToMemory (memoryToStored con) = con := rfl

@[simp] theorem memoryToStored_ofStored (stored : StoredMemoryCommitment) :
    memoryToStored (storedToMemory stored) = stored := rfl

end Commitments

section Other

inductive RelationType where
  | unspecified
  | contradicts
  | replaces
  | deprecates
  | supersedes
  | other (code : Int32)
  deriving DecidableEq, Repr

structure StoredMemoryRelationship where
  orgId : Bytes
  sourceCid : Bytes
  targetCid : Bytes
  relationType : RelationType
  proposer : Bytes
  approved : Bool
  epoch : UInt64
  deriving DecidableEq

structure StoredValidityMetadata where
  orgId : Bytes
  memoryCid : Bytes
  validAfterEpoch : UInt64 := 0
  validUntilEpoch : UInt64 := 0
  scopeTagsBz : Bytes := []
  deriving DecidableEq

structure ValidityMetadata where
  validAfterEpoch : UInt64
  validUntilEpoch : UInt64
  scopeTags : OrderedMap Bytes Bytes
  deriving DecidableEq

structure StoredEpochMerkleRoot where
  orgId : Bytes
  epoch : UInt64
  merkleRoot : Bytes
  memoryCount : UInt64
  deriving DecidableEq

structure StoredMemoryReport where
  orgId : Bytes
  contentHash : Bytes
  contributorPubkey : Bytes
  approvingModerators : List Bytes
  upholdingModerators : List Bytes
  reporterPubkey : Bytes
  committingLeaderPubkey : Bytes
  reason : Bytes
  plaintext : Bytes
  ciphertext : Bytes
  capsule : Bytes
  plaintextHash : Bytes
  plaintextOversized : Bool
  upheldAtEpoch : UInt64
  upheldAtTimestamp : Int64
  deriving DecidableEq

structure Params where
  maxPendingPerOrg : UInt64
  pendingRetentionEpochs : UInt64
  maxBlobSizeBytes : UInt64
  maxKeywordsPerMemory : UInt32
  contestWindowEpochs : UInt64
  deriving DecidableEq, Repr

def zeroParams : Params := ⟨0, 0, 0, 0, 0⟩

def defaultParams : Params where
  maxPendingPerOrg := 1000
  pendingRetentionEpochs := 7
  maxBlobSizeBytes := 1048576
  maxKeywordsPerMemory := 20
  contestWindowEpochs := 10

end Other

section Store

def pendingPrefix (orgID : Bytes) : Bytes := ascii "pending/" ++ orgID ++ [slash]

def pendingKey (orgID contentHash : Bytes) : Bytes :=
  ascii "pending/" ++ orgID ++ slash :: hexEncode contentHash

def approvedPrefix (orgID : Bytes) : Bytes := ascii "approved/" ++ orgID ++ [slash]

def approvedKey (orgID contentHash : Bytes) : Bytes :=
  ascii "approved/" ++ orgID ++ slash :: hexEncode contentHash

def merkleKey (orgID : Bytes) (epoch : UInt64) : Bytes :=
  ascii "merkle/" ++ orgID ++ slash :: formatUint epoch

def reportKey (orgID contentHash reporterID : Bytes) : Bytes :=
  ascii "report/" ++ orgID ++ slash :: (hexEncode contentHash ++ slash :: reporterID)

def countKey (orgID : Bytes) : Bytes := ascii "count/" ++ orgID

def colon : UInt8 := 58

def relationshipKey (orgID sourceCID targetCID : Bytes) : Bytes :=
  0x10 :: (orgID ++ colon :: (sourceCID ++ colon :: targetCID))

def validityKey (orgID cid : Bytes) : Bytes := 0x12 :: (orgID ++ colon :: cid)

theorem approvedKey_inj {o o' h h' : Bytes} : approvedKey o h = approvedKey o' h' ↔ o = o' ∧ h = h' := by
  unfold approvedKey
  rw [append_cons_inj_of_notMem (slash_notMem_hexEncode h) (slash_notMem_hexEncode h')]
  simp

theorem pendingKey_inj {o o' h h' : Bytes} : pendingKey o h = pendingKey o' h' ↔ o = o' ∧ h = h' := by
  unfold pendingKey
  rw [append_cons_inj_of_notMem (slash_notMem_hexEncode h) (slash_notMem_hexEncode h')]
  simp

/-- The store of x/memory, one field for each key or key prefix, in key order. -/
structure Store where
  relationship : OrderedMap Bytes StoredMemoryRelationship := ∅
  validity : OrderedMap Bytes StoredValidityMetadata := ∅
  approved : OrderedMap Bytes StoredMemoryCommitment := ∅
  count : OrderedMap Bytes UInt64 := ∅
  currentEpoch : Option UInt64 := none
  merkle : OrderedMap Bytes StoredEpochMerkleRoot := ∅
  params : Option Params := none
  pending : OrderedMap Bytes StoredPendingCommitment := ∅
  report : OrderedMap Bytes StoredMemoryReport := ∅
  deriving DecidableEq

/-- A value of any key family. -/
inductive Entry where
  | relationship (value : StoredMemoryRelationship)
  | validity (value : StoredValidityMetadata)
  | approved (value : StoredMemoryCommitment)
  | count (value : UInt64)
  | currentEpoch (value : UInt64)
  | merkle (value : StoredEpochMerkleRoot)
  | params (value : Params)
  | pending (value : StoredPendingCommitment)
  | report (value : StoredMemoryReport)
  deriving DecidableEq

def Store.entries (s : Store) : List (Bytes × Entry) :=
  s.relationship.entries.map (fun e => (e.1, .relationship e.2)) ++
    s.validity.entries.map (fun e => (e.1, .validity e.2)) ++
    s.approved.entries.map (fun e => (e.1, .approved e.2)) ++
    s.count.entries.map (fun e => (e.1, .count e.2)) ++
    s.currentEpoch.toList.map (fun v => (ascii "current_epoch", .currentEpoch v)) ++
    s.merkle.entries.map (fun e => (e.1, .merkle e.2)) ++
    s.params.toList.map (fun v => (ascii "params", .params v)) ++
    s.pending.entries.map (fun e => (e.1, .pending e.2)) ++
    s.report.entries.map (fun e => (e.1, .report e.2))

/-- An iterator that starts at `lo` and has no end. -/
def Store.iteratorFrom (s : Store) (lo : Bytes) : List (Bytes × Entry) :=
  s.entries.filter fun e => lo ≤ e.1

end Store

end WeVibeChain.Memory
