import WeVibeChain.MemoryKeeper
import WeVibeChain.Shared.Wire

/-!
# x/memory: records of other families read as memories

The scan that collects an epoch's content hashes has no upper end and decodes
whatever it meets as a `StoredMemoryCommitment`, skipping what does not decode.
Field numbers of the record types overlap, so some of it does: a pending
commitment of epoch zero is read as a memory whose epoch is the height it was
submitted at.
-/

set_option autoImplicit false

namespace WeVibeChain.Memory

open Bytes Wire

section Fields

def MemoryType.code : MemoryType → Int32
  | .unspecified => 0
  | .memory => 1
  | .other code => code

def MemoryType.ofCode (code : Int32) : MemoryType :=
  if code = 0 then .unspecified else if code = 1 then .memory else .other code

def MemoryState.ofCode (code : Int32) : MemoryState :=
  if code = 0 then .unspecified
  else if code = 1 then .pending
  else if code = 2 then .pendingKeyword
  else if code = 3 then .pendingChain
  else if code = 4 then .committed
  else if code = 5 then .denied
  else if code = 6 then .archived
  else if code = 7 then .reportedDeleted
  else .other code

def RelationType.code : RelationType → Int32
  | .unspecified => 0
  | .contradicts => 1
  | .replaces => 2
  | .deprecates => 3
  | .supersedes => 4
  | .other code => code

/-- A code is written as a 64-bit number with its sign, and its low 32 bits are read. -/
def enumWord (code : Int32) : UInt64 := code.toInt64.toUInt64

def enumOfWord (n : UInt64) : Int32 := n.toUInt32.toInt32

def boolWord (b : Bool) : UInt64 := if b then 1 else 0

def pendingFields (p : StoredPendingCommitment) : List Field :=
  bytesField 1 p.orgId ++ (bytesField 2 p.contentHash ++ (bytesField 4 p.contributorId ++
    (varintField 5 p.epoch ++ (varintField 6 p.submittedAtHeight ++
    (varintField 7 (enumWord p.memoryType.code) ++ (bytesField 8 p.contributorAddress ++
    (repeatedField 9 p.keywords ++ (varintField 11 p.mcVersion.toUInt64 ++
    (bytesField 24 p.producerModelId ++ (bytesField 25 p.attestationSessionHash ++ []))))))))))

def relationshipFields (r : StoredMemoryRelationship) : List Field :=
  bytesField 1 r.orgId ++ (bytesField 2 r.sourceCid ++ (bytesField 3 r.targetCid ++
    (varintField 4 (enumWord r.relationType.code) ++ (bytesField 5 r.proposer ++
    (varintField 6 (boolWord r.approved) ++ (varintField 7 r.epoch ++ []))))))

def validityFields (v : StoredValidityMetadata) : List Field :=
  bytesField 1 v.orgId ++ (bytesField 2 v.memoryCid ++ (varintField 3 v.validAfterEpoch ++
    (varintField 4 v.validUntilEpoch ++ (bytesField 5 v.scopeTagsBz ++ []))))

def merkleFields (m : StoredEpochMerkleRoot) : List Field :=
  bytesField 1 m.orgId ++ (varintField 2 m.epoch ++ (bytesField 3 m.merkleRoot ++
    (varintField 4 m.memoryCount ++ [])))

def reportFields (r : StoredMemoryReport) : List Field :=
  bytesField 1 r.orgId ++ (bytesField 2 r.contentHash ++ (bytesField 3 r.contributorPubkey ++
    (repeatedField 4 r.approvingModerators ++ (repeatedField 5 r.upholdingModerators ++
    (bytesField 6 r.reporterPubkey ++ (bytesField 7 r.committingLeaderPubkey ++
    (bytesField 8 r.reason ++ (bytesField 9 r.plaintext ++ (bytesField 10 r.ciphertext ++
    (bytesField 11 r.capsule ++ (bytesField 12 r.plaintextHash ++
    (varintField 13 (boolWord r.plaintextOversized) ++ (varintField 14 r.upheldAtEpoch ++
    (varintField 15 r.upheldAtTimestamp.toUInt64 ++ []))))))))))))))

def paramsFields (p : Params) : List Field :=
  varintField 1 p.maxPendingPerOrg ++ (varintField 2 p.pendingRetentionEpochs ++
    (varintField 3 p.maxBlobSizeBytes ++ (varintField 4 p.maxKeywordsPerMemory.toUInt64 ++
    (varintField 10 p.contestWindowEpochs ++ []))))

end Fields

section Reading

def zeroMemory : StoredMemoryCommitment where
  orgId := []
  contentHash := []
  encryptedBlob := []
  contributorPubkey := []
  epoch := 0
  committedAtHeight := 0
  committingLeaderPubkey := []
  state := .unspecified
  lastActiveEpoch := 0
  wrappedDekEnc := []
  memoryType := .unspecified
  approvedAtEpoch := 0
  plaintextHash := []
  salt := []
  ciphertextHash := []
  wrappedDekHash := []
  contributorSig := []
  contributorAddress := []
  producerModelId := []
  attestationSessionHash := []
  mcVersion := 0
  keywords := []

def memoryFieldNumbers : List Nat :=
  [1, 2, 3, 5, 6, 7, 9, 10, 11, 12, 13, 14, 15, 16, 17, 18, 19, 23, 24, 25, 26, 27]

/-- A field of the record's type must have the right form, and any other field is skipped. -/
def readMemoryField (m : StoredMemoryCommitment) : Field → Option StoredMemoryCommitment
  | ⟨1, .bytes b⟩ => some { m with orgId := b }
  | ⟨2, .bytes b⟩ => some { m with contentHash := b }
  | ⟨3, .bytes b⟩ => some { m with encryptedBlob := b }
  | ⟨5, .bytes b⟩ => some { m with contributorPubkey := b }
  | ⟨6, .varint n⟩ => some { m with epoch := n }
  | ⟨7, .varint n⟩ => some { m with committedAtHeight := n }
  | ⟨9, .bytes b⟩ => some { m with committingLeaderPubkey := b }
  | ⟨10, .varint n⟩ => some { m with state := .ofCode (enumOfWord n) }
  | ⟨11, .varint n⟩ => some { m with lastActiveEpoch := n }
  | ⟨12, .bytes b⟩ => some { m with wrappedDekEnc := b }
  | ⟨13, .varint n⟩ => some { m with memoryType := .ofCode (enumOfWord n) }
  | ⟨14, .varint n⟩ => some { m with approvedAtEpoch := n }
  | ⟨15, .bytes b⟩ => some { m with plaintextHash := b }
  | ⟨16, .bytes b⟩ => some { m with salt := b }
  | ⟨17, .bytes b⟩ => some { m with ciphertextHash := b }
  | ⟨18, .bytes b⟩ => some { m with wrappedDekHash := b }
  | ⟨19, .bytes b⟩ => some { m with contributorSig := b }
  | ⟨23, .bytes b⟩ => some { m with contributorAddress := b }
  | ⟨24, .bytes b⟩ => some { m with producerModelId := b }
  | ⟨25, .bytes b⟩ => some { m with attestationSessionHash := b }
  | ⟨26, .varint n⟩ => some { m with mcVersion := n.toUInt32 }
  | ⟨27, .bytes b⟩ => some { m with keywords := m.keywords ++ [b] }
  | ⟨number, _⟩ => if number ∈ memoryFieldNumbers then none else some m

def memoryOfFields (fields : List Field) : Option StoredMemoryCommitment :=
  readInto readMemoryField zeroMemory fields

/-- A number that is stored as eight raw bytes, read as a memory. -/
def memoryOfWord (n : UInt64) : Option StoredMemoryCommitment :=
  (parse (bigEndian64 n)).bind memoryOfFields

/-- What the decoder of memories makes of a value of any family. -/
def decodeForeign : Entry → Option StoredMemoryCommitment
  | .relationship r => memoryOfFields (relationshipFields r)
  | .validity v => memoryOfFields (validityFields v)
  | .approved stored => some stored
  | .count n => memoryOfWord n
  | .currentEpoch n => memoryOfWord n
  | .merkle m => memoryOfFields (merkleFields m)
  | .params p => memoryOfFields (paramsFields p)
  | .pending p => memoryOfFields (pendingFields p)
  | .report r => memoryOfFields (reportFields r)

end Reading

section Decoded

/-- A pending commitment is read as a memory when its epoch is zero, which is what the message
handler writes. The height of the submission stands where a memory has its epoch. -/
theorem decodeForeign_pending (p : StoredPendingCommitment) :
    decodeForeign (.pending p) =
      if p.epoch = 0 then
        some { zeroMemory with
          orgId := p.orgId
          contentHash := p.contentHash
          epoch := p.submittedAtHeight
          committedAtHeight := enumWord p.memoryType.code
          committingLeaderPubkey := p.keywords.getLast?.getD []
          lastActiveEpoch := p.mcVersion.toUInt64
          producerModelId := p.producerModelId
          attestationSessionHash := p.attestationSessionHash }
      else none := by
  change readInto readMemoryField zeroMemory (pendingFields p) = _
  unfold pendingFields
  refine readInto_bytesField ?_
  refine readInto_bytesField ?_
  -- the contributor's field number is not one of a memory
  refine readInto_bytesField ?_
  refine readInto_varintField_refused ?_
  refine readInto_varintField ?_
  refine readInto_varintField ?_
  refine readInto_bytesField ?_
  refine readInto_repeatedField ?_
  refine readInto_varintField ?_
  refine readInto_bytesField ?_
  refine readInto_bytesField ?_
  rfl

theorem decodeForeign_merkle (m : StoredEpochMerkleRoot) :
    decodeForeign (.merkle m) =
      if m.epoch = 0 then
        some { zeroMemory with orgId := m.orgId, encryptedBlob := m.merkleRoot }
      else none := by
  change readInto readMemoryField zeroMemory (merkleFields m) = _
  unfold merkleFields
  refine readInto_bytesField ?_
  refine readInto_varintField_refused ?_
  refine readInto_bytesField ?_
  refine readInto_varintField ?_
  rfl

/-- Params are read as a memory when the first three limits are zero. -/
theorem decodeForeign_params (p : Params) :
    decodeForeign (.params p) =
      if p.maxPendingPerOrg = 0 ∧ p.pendingRetentionEpochs = 0 ∧ p.maxBlobSizeBytes = 0 then
        some { zeroMemory with state := .ofCode (enumOfWord p.contestWindowEpochs) }
      else none := by
  simp only [ite_and]
  change readInto readMemoryField zeroMemory (paramsFields p) = _
  unfold paramsFields
  refine readInto_varintField_refused ?_
  refine readInto_varintField_refused ?_
  refine readInto_varintField_refused ?_
  refine readInto_varintField ?_
  refine readInto_varintField ?_
  rfl

/-- A report is read as a memory of epoch zero when it has neither a reporter nor a committing
leader, carries no ciphertext and no capsule, and has timestamp zero. -/
theorem decodeForeign_report (r : StoredMemoryReport) :
    decodeForeign (.report r) =
      if r.reporterPubkey = [] ∧ r.committingLeaderPubkey = [] ∧ r.ciphertext = [] ∧
          r.capsule = [] ∧ r.upheldAtTimestamp.toUInt64 = 0 then
        some { zeroMemory with
          orgId := r.orgId
          contentHash := r.contentHash
          encryptedBlob := r.contributorPubkey
          contributorPubkey := r.upholdingModerators.getLast?.getD []
          committingLeaderPubkey := r.plaintext
          wrappedDekEnc := r.plaintextHash
          memoryType := .ofCode (enumOfWord (boolWord r.plaintextOversized))
          approvedAtEpoch := r.upheldAtEpoch }
      else none := by
  simp only [ite_and]
  change readInto readMemoryField zeroMemory (reportFields r) = _
  unfold reportFields
  refine readInto_bytesField ?_
  refine readInto_bytesField ?_
  refine readInto_bytesField ?_
  refine readInto_repeatedField ?_
  refine readInto_repeatedField ?_
  refine readInto_bytesField_refused ?_
  refine readInto_bytesField_refused ?_
  refine readInto_bytesField ?_
  refine readInto_bytesField ?_
  refine readInto_bytesField_refused ?_
  refine readInto_bytesField_refused ?_
  refine readInto_bytesField ?_
  refine readInto_varintField ?_
  refine readInto_varintField ?_
  exact readInto_varintField_refused rfl

end Decoded

section ContentHash
variable {m m' : StoredMemoryCommitment} {fields : List Field} {bound : Nat}

theorem readMemoryField_contentHash {f : Field} (h : readMemoryField m f = some m') :
    m'.contentHash = m.contentHash ∨ f = ⟨2, .bytes m'.contentHash⟩ := by
  unfold readMemoryField at h
  split at h
  case h_2 =>
    right
    rw [← Option.some.inj h]
  case h_23 =>
    split at h
    · cases h
    · left
      rw [Option.some.inj h]
  all_goals
    left
    rw [← Option.some.inj h]

theorem memoryOfFields_contentHash (h : memoryOfFields fields = some m)
    (hbound : ∀ b, ⟨2, .bytes b⟩ ∈ fields → b.length ≤ bound) : m.contentHash.length ≤ bound := by
  refine readInto_invariant (I := fun m => m.contentHash.length ≤ bound) ?_ (Nat.zero_le bound) h
  intro f hf m₁ m₂ hm hread
  rcases readMemoryField_contentHash hread with hsame | rfl
  · rwa [hsame]
  · exact hbound _ hf

/-- Eight bytes do not hold a content hash. -/
theorem memoryOfWord_contentHash {n : UInt64} (h : memoryOfWord n = some m) :
    m.contentHash.length ≤ 8 := by
  obtain ⟨fields, hparse, hfields⟩ := Option.bind_eq_some_iff.mp h
  exact memoryOfFields_contentHash hfields fun b hb => parse_bytes_length hparse hb

theorem decodeForeign_params_contentHash {p : Params} (h : decodeForeign (.params p) = some m) :
    m.contentHash.length ≤ 8 := by
  refine memoryOfFields_contentHash h ?_
  intro b hb
  simp [paramsFields, bytes_notMem_varintField] at hb

end ContentHash

section Marker

/-- The key that the application writes to every store at genesis, behind all others. -/
def genesisInitMarkerKey : Bytes := [0xFF, 0xFF, 0xFF, 0xFF]

def genesisInitMarkerValue : Bytes := [0x01]

/-- The marker is not a record. -/
theorem parse_genesisInitMarkerValue : parse genesisInitMarkerValue = none := by
  decide +kernel

end Marker

section Scans

@[simp] theorem decodeMemory_decodeForeign (e : Entry) :
    decodeMemory decodeForeign e = decodeForeign e := by
  cases e <;> rfl

end Scans

end WeVibeChain.Memory
