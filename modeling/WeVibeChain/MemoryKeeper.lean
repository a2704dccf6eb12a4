import WeVibeChain.MemoryTypes
import WeVibeChain.OrgKeeper
import WeVibeChain.ReputationKeeper

/-!
# x/memory: commitments, approvals, validity and the epoch hook

An approval is stamped with the current epoch of this module, which only its own
epoch hook moves. The hook answers `ok` whatever fails in it: the expiry loop
stops at the first entry it cannot archive and keeps what it did before.

Decoding a record of another family as a memory commitment, which an iterator
without an end does, is the parameter `foreign`. Decoding scope tags is
`scopeTagsOf`.
-/

set_option autoImplicit false

namespace WeVibeChain.Memory

open Bytes

/-- The store of this module with the stores its keeper writes through. -/
structure State where
  store : Store
  org : Orgs.Store
  reputation : Reputation.Store
  deriving DecidableEq

section Accessors

def setParams (s : Store) (params : Params) : Store := { s with params := some params }

def getParams (s : Store) : Params := s.params.getD defaultParams

def getCurrentEpoch (s : Store) : UInt64 := s.currentEpoch.getD 0

def setCurrentEpoch (s : Store) (epoch : UInt64) : Store := { s with currentEpoch := some epoch }

def getApprovedMemory (s : Store) (orgID contentHash : Bytes) : Except Error MemoryCommitment :=
  match s.approved.get (approvedKey orgID contentHash) with
  | none => .error .memoryNotFound
  | some stored => .ok (storedToMemory stored)

def getPendingCommitment (s : Store) (orgID contentHash : Bytes) :
    Except Error PendingCommitment :=
  match s.pending.get (pendingKey orgID contentHash) with
  | none => .error .commitmentNotFound
  | some stored => .ok (storedToPending stored)

def saveMemoryCommitment (s : Store) (memory : MemoryCommitment) : Store :=
  { s with
    approved := s.approved.set (approvedKey memory.orgID memory.contentHash)
      (memoryToStored memory) }

def decodeCID (cid : Bytes) : Except Error Bytes :=
  match hexDecode cid with
  | none => .error .decodeCid
  | some contentHash =>
    if contentHash.length ≠ contentHashLen then .error .invalidContentHash else .ok contentHash

def getApprovedCount (s : Store) (orgID : Bytes) : UInt64 := (s.count.get (countKey orgID)).getD 0

def loadMemoryByCID (s : Store) (orgID cid : Bytes) : Except Error MemoryCommitment :=
  match decodeCID cid with
  | .error e => .error e
  | .ok contentHash => getApprovedMemory s orgID contentHash

def deleteRelationship (s : Store) (orgID sourceCID targetCID : Bytes) : Store :=
  { s with relationship := s.relationship.delete (relationshipKey orgID sourceCID targetCID) }

end Accessors

section Commitments

/-- Counts every key from the org's first pending key to the end of the store. -/
def pendingCount (s : Store) (orgID : Bytes) : Nat := (s.iteratorFrom (pendingPrefix orgID)).length

def submitCommitment (st : State) (commitment : PendingCommitment) : Except Error State :=
  match commitment.validate with
  | .error e => .error e
  | .ok () =>
    if Orgs.hasOrg st.org commitment.orgID = false then .error .orgNotFound
    else if st.store.pending.has (pendingKey commitment.orgID commitment.contentHash) then
      .error .commitmentExists
    else if pendingCount st.store commitment.orgID ≥ (getParams st.store).maxPendingPerOrg.toNat then
      .error .maxPendingExceeded
    else
      .ok { st with
        store := { st.store with
          pending := st.store.pending.set
            (pendingKey commitment.orgID commitment.contentHash) (pendingToStored commitment) } }

/-- What the leader hands over with an approval. -/
structure Approval where
  orgID : Bytes
  contentHash : Bytes
  encryptedBlob : Bytes
  committingLeader : Bytes
  wrappedDekEnc : Bytes := []
  plaintextHash : Bytes := []
  salt : Bytes := []
  ciphertextHash : Bytes := []
  wrappedDekHash : Bytes := []
  contributorSig : Bytes := []
  memoryType : MemoryType := .memory
  deriving DecidableEq

/-- The record an approval creates. It is stamped with the epoch of the pending commitment and,
apart from that, with the module's current epoch. -/
def approvedRecord (a : Approval) (pending : PendingCommitment) (currentEpoch : UInt64) :
    MemoryCommitment where
  orgID := a.orgID
  contentHash := a.contentHash
  encryptedBlob := a.encryptedBlob
  keywords := pending.keywords
  contributor := pending.contributor
  contributorAddress := pending.contributorAddress
  producerModelId := pending.producerModelId
  attestationSessionHash := pending.attestationSessionHash
  epoch := pending.epoch
  committedAtHeight := pending.submittedAt
  committingLeader := a.committingLeader
  state := .committed
  lastActiveEpoch := pending.epoch
  approvedAtEpoch := currentEpoch
  wrappedDekEnc := a.wrappedDekEnc
  plaintextHash := a.plaintextHash
  salt := a.salt
  ciphertextHash := a.ciphertextHash
  wrappedDekHash := a.wrappedDekHash
  contributorSig := a.contributorSig
  memoryType := a.memoryType
  mcVersion := pending.mcVersion

/-- The store after an approval: the record, the pending entry gone, the org's count. -/
def approvedStore (s : Store) (a : Approval) (pending : PendingCommitment) : Store :=
  { s with
    approved := s.approved.set (approvedKey a.orgID a.contentHash)
      (memoryToStored (approvedRecord a pending (getCurrentEpoch s)))
    pending := s.pending.delete (pendingKey a.orgID a.contentHash)
    count := s.count.set (countKey a.orgID) ((s.count.get (countKey a.orgID)).getD 0 + 1) }

/-- The size limit is converted to a signed integer before the comparison. -/
def approveMemory (st : State) (a : Approval) : Except Error State :=
  if validMemoryType a.memoryType = false then .error .invalidMemoryType
  else
    match getPendingCommitment st.store a.orgID a.contentHash with
    | .error e => .error e
    | .ok pending =>
      if Orgs.isLeader st.org a.orgID a.committingLeader = false then .error .unauthorized
      else if (a.encryptedBlob.length : Int) >
          (getParams st.store).maxBlobSizeBytes.toInt64.toInt then .error .blobTooLarge
      else if st.store.approved.has (approvedKey a.orgID a.contentHash) then .error .memoryExists
      else
        match Orgs.incrementOrgCommittedMemories st.org a.orgID with
        | .error _ => .error .orgNotFound
        | .ok counted =>
          match Orgs.setOrgLastActivityEpoch counted a.orgID pending.epoch with
          | .error _ => .error .orgNotFound
          | .ok org =>
            .ok
              { store := approvedStore st.store a pending
                org := org
                reputation := Reputation.incrementLeaderChainCommit
                  (Reputation.incrementContribution st.reputation pending.contributor a.orgID)
                  a.committingLeader a.orgID }

variable {st st' : State}

theorem getPendingCommitment_ok {s : Store} {orgID contentHash : Bytes}
    {pending : PendingCommitment} (h : getPendingCommitment s orgID contentHash = .ok pending) :
    s.pending.get (pendingKey orgID contentHash) = some (pendingToStored pending) := by
  unfold getPendingCommitment at h
  split at h
  · cases h
  · rename_i stored hget
    obtain rfl := Except.ok.inj h
    exact hget

/-- What a submission requires, and the state it leads to. -/
theorem submitCommitment_eq {commitment : PendingCommitment}
    (h : submitCommitment st commitment = .ok st') :
    commitment.validate = .ok () ∧
      st.store.pending.get (pendingKey commitment.orgID commitment.contentHash) = none ∧
      pendingCount st.store commitment.orgID < (getParams st.store).maxPendingPerOrg.toNat ∧
      st' = { st with
        store := { st.store with
          pending := st.store.pending.set
            (pendingKey commitment.orgID commitment.contentHash) (pendingToStored commitment) } } := by
  unfold submitCommitment at h
  split at h
  · cases h
  rename_i hvalid
  split at h
  · cases h
  split at h
  · cases h
  rename_i hfresh
  split at h
  · cases h
  rename_i hroom
  exact ⟨hvalid, OrderedMap.has_eq_false_iff.mp (Bool.eq_false_iff.mpr hfresh),
    Nat.lt_of_not_ge hroom, (Except.ok.inj h).symm⟩

theorem submitCommitment_ok {commitment : PendingCommitment}
    (h : submitCommitment st commitment = .ok st') :
    commitment.validate = .ok () ∧
      st.store.pending.get (pendingKey commitment.orgID commitment.contentHash) = none ∧
      st' = { st with
        store := { st.store with
          pending := st.store.pending.set
            (pendingKey commitment.orgID commitment.contentHash) (pendingToStored commitment) } } := by
  obtain ⟨hvalid, hfresh, -, hstate⟩ := submitCommitment_eq h
  exact ⟨hvalid, hfresh, hstate⟩

/-- What an approval requires, and the state it leads to. -/
theorem approveMemory_eq {a : Approval} (h : approveMemory st a = .ok st') :
    ∃ pending record, getPendingCommitment st.store a.orgID a.contentHash = .ok pending ∧
      validMemoryType a.memoryType = true ∧
      Orgs.isLeader st.org a.orgID a.committingLeader = true ∧
      st.store.approved.get (approvedKey a.orgID a.contentHash) = none ∧
      st.org.org.get (Orgs.orgKey a.orgID) = some record ∧
      st' =
        { store := approvedStore st.store a pending
          org := { st.org with
            org := st.org.org.set (Orgs.orgKey a.orgID)
              { record with
                totalCommittedMemories := record.totalCommittedMemories + 1
                lastActivityEpoch := pending.epoch } }
          reputation := Reputation.incrementLeaderChainCommit
            (Reputation.incrementContribution st.reputation pending.contributor a.orgID)
            a.committingLeader a.orgID } := by
  unfold approveMemory at h
  split at h
  · cases h
  rename_i htype
  split at h
  · cases h
  rename_i pending hpending
  split at h
  · cases h
  rename_i hleader
  split at h
  · cases h
  split at h
  · cases h
  rename_i hfresh
  split at h
  · cases h
  rename_i counted hcounted
  split at h
  · cases h
  rename_i org horg
  obtain ⟨record, hrecord, rfl⟩ := Orgs.modifyOrgAggregate_ok hcounted
  obtain ⟨record', hrecord', rfl⟩ := Orgs.modifyOrgAggregate_ok horg
  rw [OrderedMap.get_set_self] at hrecord'
  obtain rfl := Option.some.inj hrecord'
  rw [OrderedMap.set_set] at h
  exact ⟨pending, record, hpending, Bool.not_eq_false _ ▸ htype, Bool.not_eq_false _ ▸ hleader,
    OrderedMap.has_eq_false_iff.mp (Bool.eq_false_iff.mpr hfresh), hrecord,
    (Except.ok.inj h).symm⟩

/-- What an approval requires, and what it does to the memory and org stores. -/
theorem approveMemory_ok {a : Approval} (h : approveMemory st a = .ok st') :
    ∃ pending, getPendingCommitment st.store a.orgID a.contentHash = .ok pending ∧
      validMemoryType a.memoryType = true ∧
      Orgs.isLeader st.org a.orgID a.committingLeader = true ∧
      st.store.approved.get (approvedKey a.orgID a.contentHash) = none ∧
      st'.store = approvedStore st.store a pending ∧
      Orgs.CountersChanged a.orgID st.org st'.org := by
  obtain ⟨pending, record, hpending, htype, hleader, hfresh, hrecord, rfl⟩ := approveMemory_eq h
  exact ⟨pending, hpending, htype, hleader, hfresh, rfl, record, _, _, _, hrecord, rfl⟩

end Commitments

section Approvals

/-- Whether a stored memory counts as approved in the epoch. -/
def countsIn (epoch : UInt64) (stored : StoredMemoryCommitment) : Bool :=
  stored.approvedAtEpoch = epoch ∧ stored.state = .committed ∧ stored.contributorPubkey ≠ []

def countContributor (counts : OrderedMap Bytes UInt64) (contributor : Bytes) :
    OrderedMap Bytes UInt64 :=
  counts.set contributor ((counts.get contributor).getD 0 + 1)

def getContributorsWithApprovalsInEpoch (s : Store) (epoch : UInt64) : OrderedMap Bytes UInt64 :=
  ((s.approved.values.filter (countsIn epoch)).map
    StoredMemoryCommitment.contributorPubkey).foldl countContributor ∅

end Approvals

section Validity
variable (scopeTagsOf : Bytes → Option (OrderedMap Bytes Bytes))

def decodeValidityMetadata (stored : StoredValidityMetadata) : Except Error ValidityMetadata :=
  if stored.scopeTagsBz = [] then .ok ⟨stored.validAfterEpoch, stored.validUntilEpoch, ∅⟩
  else
    match scopeTagsOf stored.scopeTagsBz with
    | none => .error .scopeTags
    | some scope => .ok ⟨stored.validAfterEpoch, stored.validUntilEpoch, scope⟩

def getValidityMetadata (s : Store) (orgID cid : Bytes) : Except Error (Option ValidityMetadata) :=
  match s.validity.get (validityKey orgID cid) with
  | none => .ok none
  | some stored => (decodeValidityMetadata scopeTagsOf stored).map some

def isValidInEpoch (s : Store) (orgID cid : Bytes) (epoch : UInt64) : Except Error Bool :=
  match getValidityMetadata scopeTagsOf s orgID cid with
  | .error e => .error e
  | .ok none => .ok true
  | .ok (some metadata) =>
    if metadata.validAfterEpoch ≠ 0 ∧ epoch < metadata.validAfterEpoch then .ok false
    else if metadata.validUntilEpoch ≠ 0 ∧ epoch > metadata.validUntilEpoch then .ok false
    else .ok true

def isExpired (epoch : UInt64) (stored : StoredValidityMetadata) : Bool :=
  ¬ (stored.validUntilEpoch = 0 ∨ epoch ≤ stored.validUntilEpoch)

/-- Archive the memory of one expired entry and drop the entry. -/
def expireEntry (s : Store) (e : Bytes × StoredValidityMetadata) : Except Error Store :=
  match loadMemoryByCID s e.2.orgId e.2.memoryCid with
  | .error err => .error err
  | .ok memory =>
    let archived :=
      if memory.state ≠ .archived ∧ memory.state ≠ .denied then
        saveMemoryCommitment s { memory with state := .archived }
      else s
    .ok { archived with validity := archived.validity.delete e.1 }

/-- The loop over the collected entries; it stops at the first failure. -/
def expireEntries : Store → List (Bytes × StoredValidityMetadata) → Store × Except Error Unit
  | s, [] => (s, .ok ())
  | s, e :: es =>
    match expireEntry s e with
    | .error err => (s, .error err)
    | .ok s' => expireEntries s' es

def checkEpochExpiry (s : Store) (epoch : UInt64) : Store × Except Error Unit :=
  expireEntries s (s.validity.entries.filter fun e => isExpired epoch e.2)

end Validity

section Merkle
variable (sha256 : Bytes → Bytes) (foreign : Entry → Option StoredMemoryCommitment)

def computeMerkleRoot (contentHashes : List Bytes) : Bytes :=
  if contentHashes = [] then []
  else sha256 (contentHashes.mergeSort fun a b => a ≤ b).flatten

def decodeMemory : Entry → Option StoredMemoryCommitment
  | .approved stored => some stored
  | entry => foreign entry

/-- The content hashes of the epoch in everything from the org's first approved key on. -/
def epochContentHashes (s : Store) (orgID : Bytes) (epoch : UInt64) : List Bytes :=
  (((s.iteratorFrom (approvedPrefix orgID)).filterMap fun e => decodeMemory foreign e.2).filter
    fun stored => stored.epoch = epoch).map StoredMemoryCommitment.contentHash

def computeAndStoreEpochMerkleRoot (s : Store) (orgID : Bytes) (epoch : UInt64) : Store :=
  let contentHashes := epochContentHashes foreign s orgID epoch
  { s with
    merkle := s.merkle.set (merkleKey orgID epoch)
      ⟨orgID, epoch, computeMerkleRoot sha256 contentHashes, UInt64.ofNat contentHashes.length⟩ }

/-- The org part of every approved key up to its next slash, without duplicates and in order. -/
def getAllOrgsWithMemories (s : Store) : List Bytes :=
  let orgs := s.approved.keys.map fun key =>
    (key.drop (ascii "approved/").length).takeWhile fun b => b ≠ slash
  ((orgs.filter fun org => org ≠ []).foldl (fun m org => m.set org ())
    (∅ : OrderedMap Bytes Unit)).keys

def computeMerkleRoots (s : Store) (epoch : UInt64) : Store :=
  (getAllOrgsWithMemories s).foldl
    (fun s orgID => computeAndStoreEpochMerkleRoot sha256 foreign s orgID epoch) s

def weVibeEpochIdentifier : Bytes := ascii "wevibe_epoch"

def afterEpochEnd (s : Store) (epochIdentifier : Bytes) (epochNumber : Int64) :
    Store × Except Error Unit :=
  if epochIdentifier ≠ weVibeEpochIdentifier then (s, .ok ())
  else
    let epoch := epochNumber.toUInt64
    let expired := (checkEpochExpiry (setCurrentEpoch s epoch) epoch).1
    (computeMerkleRoots sha256 foreign expired epoch, .ok ())

end Merkle

section Genesis

structure MemoryRelationship where
  sourceCID : Bytes
  targetCID : Bytes
  relationType : RelationType
  orgID : Bytes
  proposer : Bytes
  approved : Bool
  epoch : UInt64
  deriving DecidableEq

def relationshipToStored (rel : MemoryRelationship) : StoredMemoryRelationship where
  orgId := rel.orgID
  sourceCid := rel.sourceCID
  targetCid := rel.targetCID
  relationType := rel.relationType
  proposer := rel.proposer
  approved := rel.approved
  epoch := rel.epoch

structure GenesisState where
  pendingCommitments : List PendingCommitment := []
  memoryCommitments : List MemoryCommitment := []
  relationships : List MemoryRelationship := []
  validityMetadata : List StoredValidityMetadata := []
  merkleRoots : List StoredEpochMerkleRoot := []
  params : Params := zeroParams

def initGenesis (s : Store) (g : GenesisState) : Store :=
  { s with
    pending := g.pendingCommitments.foldl
      (fun m pc => m.set (pendingKey pc.orgID pc.contentHash) (pendingToStored pc)) s.pending
    approved := g.memoryCommitments.foldl
      (fun m am => m.set (approvedKey am.orgID am.contentHash) (memoryToStored am)) s.approved
    relationship := g.relationships.foldl
      (fun m rel => m.set (relationshipKey rel.orgID rel.sourceCID rel.targetCID)
        (relationshipToStored rel)) s.relationship
    validity := g.validityMetadata.foldl
      (fun m vm => m.set (validityKey vm.orgId vm.memoryCid) vm) s.validity
    merkle := g.merkleRoots.foldl (fun m mr => m.set (merkleKey mr.orgId mr.epoch) mr) s.merkle
    params := some (if g.params = zeroParams then defaultParams else g.params) }

end Genesis

end WeVibeChain.Memory
