import WeVibeChain.BandwidthKeeper
import WeVibeChain.MemoryKeeper

/-!
# x/serve: receipts, denials, events and the module store

A serve is identified by a fingerprint over the memory, the serving key and the
epoch number of the message. The fingerprint index is shared by all orgs. A
denial is identified by a fingerprint over its signed body without the nonce, so
over the org and the epoch number too.
-/

set_option autoImplicit false

namespace WeVibeChain.Serve

open Bytes

inductive Error where
  | invalidOrgID
  | invalidContentHash
  | invalidServeKeyPubkey
  | invalidServeSignature
  | invalidServeFingerprint
  | invalidContributor
  | batchTooLarge
  | batchEmpty
  | orgNotFound
  | unauthorized
  | eventParked
  | invalidEventType
  | negAnchorInert
  | invalidServeEpisodeRef
  | serveEpisodeRefTooLong
  | signerEmpty
  | authorityEmpty
  | eventRecordedByReceipts
  | eventNonceEmpty
  | eventNonceTooLong
  | outcomeBodyRequired
  | validityPredicateBodyRequired
  | costToDiscoverBodyRequired
  | convergenceBodyRequired
  | outcomeServeRefLength
  | outcomeResolution
  | outcomeSource
  | predicateResult
  | eventRefTooLong
  | policyVersionEmpty
  | policyVersionTooLong
  | policyHashLength
  | policyAnchorConflict
  | bandwidth (error : Bandwidth.Error)
  | memory (error : Memory.Error)
  deriving DecidableEq, Repr

def Error.text : Error → String
  | invalidOrgID => "invalid org ID"
  | invalidContentHash => "content hash must be 32 bytes"
  | invalidServeKeyPubkey => "serve key pubkey must be 32 bytes"
  | invalidServeSignature => "serve signature must be 64 bytes"
  | invalidServeFingerprint => "serve fingerprint must be 32 bytes"
  | invalidContributor => "invalid contributor ID"
  | batchTooLarge => "serve batch exceeds max size"
  | batchEmpty => "serve batch is empty"
  | orgNotFound => "org not found"
  | unauthorized => "unauthorized"
  | eventParked => "event type parked — activation deferred (RECALL-PIVOT-SPEC §3.1)"
  | invalidEventType => "invalid event type"
  | negAnchorInert =>
    "neg_anchor must be empty — INERT pending Walter's READ-disclosure ruling (RECALL-PIVOT-SPEC §4)"
  | invalidServeEpisodeRef =>
    "serve episode_ref cannot be empty — it is part of the signed serve preimage"
  | serveEpisodeRefTooLong =>
    "serve episode_ref must be at most 64 bytes — fingerprints/refs only (RECALL-PIVOT-SPEC §3.2 boundary)"
  | signerEmpty => "signer cannot be empty"
  | authorityEmpty => "authority cannot be empty"
  | eventRecordedByReceipts => "event type recorded via serve/denial receipts"
  | eventNonceEmpty => "event nonce cannot be empty"
  | eventNonceTooLong => "event nonce must be at most 64 bytes"
  | outcomeBodyRequired => "outcome event body is required"
  | validityPredicateBodyRequired => "validity_predicate event body is required"
  | costToDiscoverBodyRequired => "cost_to_discover event body is required"
  | convergenceBodyRequired => "convergence event body is required"
  | outcomeServeRefLength => "outcome serve_ref must be exactly 32 bytes"
  | outcomeResolution => "outcome resolution must be worked, didnt_work, or unobserved"
  | outcomeSource => "outcome source must be harvested or user"
  | predicateResult => "predicate result must be pass, fail, or absent"
  | eventRefTooLong =>
    "event refs must be at most 64 bytes — fingerprints/refs only (RECALL-PIVOT-SPEC §3.2 boundary)"
  | policyVersionEmpty => "policy_version cannot be empty"
  | policyVersionTooLong => "policy_version must be at most 128 chars"
  | policyHashLength => "policy_hash must be 32 bytes"
  | policyAnchorConflict => "policy anchor already exists with different hash"
  | bandwidth error => error.text
  | memory error => error.text

def contentHashLen : Nat := 32

def fingerprintLen : Nat := 32

def servePubKeyLen : Nat := 32

def serveSigLen : Nat := 64

structure Params where
  maxServesPerBatch : UInt32
  selfServeDiscountPercent : UInt32
  maxServesPerMemoryPerEpoch : UInt32
  minOrgAgeEpochs : UInt64
  diminishingReturnsThreshold : UInt64
  deriving DecidableEq

def defaultParams : Params := ⟨500, 50, 100, 1, 10⟩

section Receipts

structure ServeEntry where
  memoryContentHash : Bytes
  contributorId : Bytes
  modelId : Bytes := []
  turnCount : UInt32 := 0
  serveKeyPubkey : Bytes
  serveSig : Bytes
  nonce : Bytes := []
  episodeRef : Bytes := []
  deriving DecidableEq

structure ServeReceipt where
  orgID : Bytes
  contentHash : Bytes
  serveKey : Bytes
  serveKeyPubkey : Bytes
  contributorID : Bytes
  epoch : UInt64
  fingerprint : Bytes
  isSelfServe : Bool
  modelID : Bytes
  turnCount : UInt32
  episodeRef : Bytes
  deriving DecidableEq

structure StoredServeReceipt where
  orgId : Bytes
  memoryContentHash : Bytes
  contributorId : Bytes
  epoch : UInt64
  isSelfServe : Bool
  modelId : Bytes
  turnCount : UInt32
  serveKeyPubkey : Bytes
  fingerprint : Bytes
  episodeRef : Bytes
  deriving DecidableEq

def serveReceiptToStored (sr : ServeReceipt) : StoredServeReceipt where
  orgId := sr.orgID
  memoryContentHash := sr.contentHash
  contributorId := sr.contributorID
  epoch := sr.epoch
  isSelfServe := sr.isSelfServe
  modelId := sr.modelID
  turnCount := sr.turnCount
  serveKeyPubkey := sr.serveKeyPubkey
  fingerprint := sr.fingerprint
  episodeRef := sr.episodeRef

def storedToServeReceipt (stored : StoredServeReceipt) : ServeReceipt where
  orgID := stored.orgId
  contentHash := stored.memoryContentHash
  serveKey := hexEncode stored.serveKeyPubkey
  serveKeyPubkey := stored.serveKeyPubkey
  contributorID := stored.contributorId
  epoch := stored.epoch
  fingerprint := stored.fingerprint
  isSelfServe := stored.isSelfServe
  modelID := stored.modelId
  turnCount := stored.turnCount
  episodeRef := stored.episodeRef

structure DenialEntry where
  memoryHash : Bytes
  reason : Bytes := []
  serveKeyPubkey : Bytes
  serveSig : Bytes
  serveFingerprint : Bytes
  nonce : Bytes := []
  negAnchor : Bytes := []
  deriving DecidableEq

structure StoredDenialReceipt where
  orgId : Bytes
  memoryHash : Bytes
  denyKey : Bytes
  reason : Bytes
  epoch : UInt64
  serveFingerprint : Bytes
  serveKeyPubkey : Bytes
  negAnchor : Bytes := []
  deriving DecidableEq

end Receipts

section Statistics

structure EpochServeStats where
  orgID : Bytes
  epoch : UInt64
  totalServes : UInt64
  totalDenials : UInt64
  uniqueMemoriesServed : UInt64
  uniqueServeKeys : UInt64
  selfServes : UInt64
  modelBreakdown : OrderedMap Bytes UInt64
  deriving DecidableEq

def newEpochServeStats (orgID : Bytes) (epoch : UInt64) : EpochServeStats :=
  ⟨orgID, epoch, 0, 0, 0, 0, 0, ∅⟩

structure StoredEpochServeStats where
  orgId : Bytes
  epoch : UInt64
  totalServes : UInt64
  uniqueMemoriesServed : UInt64
  uniqueServeKeys : UInt64
  selfServes : UInt64
  modelBreakdown : OrderedMap Bytes UInt64
  totalDenials : UInt64
  deriving DecidableEq

def epochServeStatsToStored (es : EpochServeStats) : StoredEpochServeStats where
  orgId := es.orgID
  epoch := es.epoch
  totalServes := es.totalServes
  totalDenials := es.totalDenials
  uniqueMemoriesServed := es.uniqueMemoriesServed
  uniqueServeKeys := es.uniqueServeKeys
  selfServes := es.selfServes
  modelBreakdown := es.modelBreakdown

def storedToEpochServeStats (stored : StoredEpochServeStats) : EpochServeStats where
  orgID := stored.orgId
  epoch := stored.epoch
  totalServes := stored.totalServes
  totalDenials := stored.totalDenials
  uniqueMemoriesServed := stored.uniqueMemoriesServed
  uniqueServeKeys := stored.uniqueServeKeys
  selfServes := stored.selfServes
  modelBreakdown := stored.modelBreakdown

@[simp] theorem storedToEpochServeStats_toStored (es : EpochServeStats) :
    storedToEpochServeStats (epochServeStatsToStored es) = es := rfl

structure ContributorEpochServes where
  contributorID : Bytes
  epoch : UInt64
  serveCount : UInt64
  selfServeCount : UInt64
  orgIDs : List Bytes
  totalTurns : UInt64
  deriving DecidableEq

def newContributorEpochServes (contributorID : Bytes) (epoch : UInt64) : ContributorEpochServes :=
  ⟨contributorID, epoch, 0, 0, [], 0⟩

def ContributorEpochServes.addOrgID (cs : ContributorEpochServes) (orgID : Bytes) :
    ContributorEpochServes :=
  if orgID ∈ cs.orgIDs then cs else { cs with orgIDs := cs.orgIDs ++ [orgID] }

structure StoredContributorEpochServes where
  contributorId : Bytes
  epoch : UInt64
  serveCount : UInt64
  selfServeCount : UInt64
  orgIds : List Bytes
  totalTurns : UInt64
  deriving DecidableEq

def contributorEpochServesToStored (cs : ContributorEpochServes) : StoredContributorEpochServes where
  contributorId := cs.contributorID
  epoch := cs.epoch
  serveCount := cs.serveCount
  selfServeCount := cs.selfServeCount
  orgIds := cs.orgIDs
  totalTurns := cs.totalTurns

def storedToContributorEpochServes (stored : StoredContributorEpochServes) :
    ContributorEpochServes where
  contributorID := stored.contributorId
  epoch := stored.epoch
  serveCount := stored.serveCount
  selfServeCount := stored.selfServeCount
  orgIDs := stored.orgIds
  totalTurns := stored.totalTurns

@[simp] theorem storedToContributorEpochServes_toStored (cs : ContributorEpochServes) :
    storedToContributorEpochServes (contributorEpochServesToStored cs) = cs := rfl

end Statistics

section Events

inductive EventType where
  | unspecified
  | serve
  | block
  | outcome
  | contest
  | sponsorship
  | validityPredicate
  | costToDiscover
  | convergence
  | other (code : Int32)
  deriving DecidableEq, Repr

inductive PredicateResult where
  | unspecified
  | pass
  | fail
  | absent
  | other (code : Int32)
  deriving DecidableEq, Repr

inductive OutcomeResolution where
  | unspecified
  | worked
  | didntWork
  | unobserved
  | other (code : Int32)
  deriving DecidableEq, Repr

inductive OutcomeSource where
  | unspecified
  | harvested
  | user
  | other (code : Int32)
  deriving DecidableEq, Repr

structure OutcomeEventBody where
  episodeRef : Bytes
  evidenceRef : Bytes
  serveRef : Bytes
  resolution : OutcomeResolution
  source : OutcomeSource
  deriving DecidableEq

structure ValidityPredicateEventBody where
  predicateId : Bytes
  result : PredicateResult
  evidenceRef : Bytes
  deriving DecidableEq

structure CostToDiscoverEventBody where
  cycles : UInt64
  toolCalls : UInt64
  attemptsToGreen : UInt32
  evidenceRef : Bytes
  deriving DecidableEq

structure ConvergenceEventBody where
  convergenceRef : Bytes
  deriving DecidableEq

inductive EventBody where
  | outcome (body : OutcomeEventBody)
  | validityPredicate (body : ValidityPredicateEventBody)
  | costToDiscover (body : CostToDiscoverEventBody)
  | convergence (body : ConvergenceEventBody)
  deriving DecidableEq

structure EventEntry where
  eventType : EventType
  memoryContentHash : Bytes
  signerPubkey : Bytes
  nonce : Bytes
  signature : Bytes
  body : Option EventBody
  deriving DecidableEq

structure StoredEvent where
  orgId : Bytes
  epoch : UInt64
  eventType : EventType
  memoryContentHash : Bytes
  signerPubkey : Bytes
  nonce : Bytes
  signature : Bytes
  fingerprint : Bytes
  body : Option EventBody
  deriving DecidableEq

structure StoredPolicyAnchor where
  policyVersion : Bytes
  policyHash : Bytes
  anchoredAtEpoch : UInt64
  anchoredAtHeight : Int64
  deriving DecidableEq

end Events

section Canonical

def canonicalServeBody (orgID memoryHash : Bytes) (epoch : UInt64)
    (serveKeyPubkey nonce episodeRef : Bytes) : Bytes :=
  join newline
    [ascii "wevibe-serve-v3", orgID, hexEncode memoryHash, formatUint epoch,
      hexEncode serveKeyPubkey, hexEncode nonce, hexEncode episodeRef]

def canonicalDenialBody (orgID memoryHash : Bytes) (epoch : UInt64)
    (serveKeyPubkey serveFingerprint nonce : Bytes) : Bytes :=
  join newline
    [ascii "wevibe-denial-v1", orgID, hexEncode memoryHash, formatUint epoch,
      hexEncode serveKeyPubkey, hexEncode serveFingerprint, hexEncode nonce]

def predicateResultToken : PredicateResult → Except Error Bytes
  | .pass => .ok (ascii "pass")
  | .fail => .ok (ascii "fail")
  | .absent => .ok (ascii "absent")
  | _ => .error .predicateResult

def outcomeResolutionToken : OutcomeResolution → Except Error Bytes
  | .worked => .ok (ascii "worked")
  | .didntWork => .ok (ascii "didnt_work")
  | .unobserved => .ok (ascii "unobserved")
  | _ => .error .outcomeResolution

def outcomeSourceToken : OutcomeSource → Except Error Bytes
  | .harvested => .ok (ascii "harvested")
  | .user => .ok (ascii "user")
  | _ => .error .outcomeSource

/-- The token of an event type and the lines its body adds to the signed text. -/
def canonicalEventSpecificLines (eventType : EventType) (entry : EventEntry) :
    Except Error (Bytes × List Bytes) :=
  match eventType with
  | .outcome =>
    match entry.body with
    | some (.outcome body) => do
      let resolution ← outcomeResolutionToken body.resolution
      let source ← outcomeSourceToken body.source
      pure (ascii "outcome",
        [hexEncode body.episodeRef, hexEncode body.evidenceRef, hexEncode body.serveRef,
          ascii "resolution=" ++ resolution, ascii "source=" ++ source])
    | _ => .error .outcomeBodyRequired
  | .validityPredicate =>
    match entry.body with
    | some (.validityPredicate body) => do
      let result ← predicateResultToken body.result
      pure (ascii "validity_predicate",
        [hexEncode body.predicateId, ascii "result=" ++ result, hexEncode body.evidenceRef])
    | _ => .error .validityPredicateBodyRequired
  | .costToDiscover =>
    match entry.body with
    | some (.costToDiscover body) =>
      .ok (ascii "cost_to_discover",
        [ascii "cycles=" ++ formatUint body.cycles,
          ascii "tool_calls=" ++ formatUint body.toolCalls,
          ascii "attempts_to_green=" ++ formatUint body.attemptsToGreen.toUInt64,
          hexEncode body.evidenceRef])
    | _ => .error .costToDiscoverBodyRequired
  | .convergence =>
    match entry.body with
    | some (.convergence body) => .ok (ascii "convergence", [hexEncode body.convergenceRef])
    | _ => .error .convergenceBodyRequired
  | _ => .error .invalidEventType

def canonicalEventBody (orgID : Bytes) (epoch : UInt64) (entry : EventEntry) :
    Except Error Bytes := do
  let (token, specific) ← canonicalEventSpecificLines entry.eventType entry
  pure (join newline
    ([ascii "wevibe-event-v1", token, orgID, hexEncode entry.memoryContentHash, formatUint epoch,
      hexEncode entry.signerPubkey] ++ specific ++ [hexEncode entry.nonce]))

section Fingerprints
variable (sha256 : Bytes → Bytes)

def computeServeFingerprint (memoryHash servePubkey : Bytes) (epoch : UInt64) : Bytes :=
  sha256 (memoryHash ++ servePubkey ++ bigEndian64 epoch)

def computeDenialFingerprint (orgID memoryHash : Bytes) (epoch : UInt64)
    (servePubkey serveFingerprint : Bytes) : Bytes :=
  sha256 (canonicalDenialBody orgID memoryHash epoch servePubkey serveFingerprint [])

def computeEventFingerprint (body : Bytes) : Bytes := sha256 body

end Fingerprints

end Canonical

section Keys

/-- A key made of a name that may hold slashes and two parts that do not. -/
def pathKey (head : String) (name first second : Bytes) : Bytes :=
  ascii head ++ name ++ slash :: (first ++ slash :: second)

theorem pathKey_inj {head : String} {n n' a a' b b' : Bytes} (ha : slash ∉ a) (ha' : slash ∉ a')
    (hb : slash ∉ b) (hb' : slash ∉ b') :
    pathKey head n a b = pathKey head n' a' b' ↔ n = n' ∧ a = a' ∧ b = b' := by
  have hsplit : ∀ n a b : Bytes,
      pathKey head n a b = (ascii head ++ n ++ slash :: a) ++ slash :: b := by
    intro n a b
    simp [pathKey]
  rw [hsplit, hsplit, append_cons_inj_of_notMem hb hb', append_cons_inj_of_notMem ha ha']
  simp [and_assoc]

def serveFingerprintKey (fingerprint : Bytes) : Bytes :=
  ascii "fingerprint/" ++ hexEncode fingerprint

def denialFingerprintKey (fingerprint : Bytes) : Bytes :=
  ascii "denyfingerprint/" ++ hexEncode fingerprint

def receiptKey (orgID : Bytes) (epoch : UInt64) (fingerprint : Bytes) : Bytes :=
  pathKey "receipt/" orgID (formatUint epoch) (hexEncode fingerprint)

def denialReceiptKey (orgID : Bytes) (epoch : UInt64) (fingerprint : Bytes) : Bytes :=
  pathKey "denial/" orgID (formatUint epoch) (hexEncode fingerprint)

def eventKey (orgID : Bytes) (epoch : UInt64) (fingerprint : Bytes) : Bytes :=
  pathKey "event/" orgID (formatUint epoch) (hexEncode fingerprint)

def eventPrefix (orgID : Bytes) (epoch : UInt64) : Bytes :=
  ascii "event/" ++ orgID ++ slash :: (formatUint epoch ++ [slash])

def eventFingerprintKey (fingerprint : Bytes) : Bytes := ascii "eventfp/" ++ hexEncode fingerprint

def policyAnchorKey (policyVersion : Bytes) : Bytes := ascii "policy_anchor/" ++ policyVersion

def statsKey (orgID : Bytes) (epoch : UInt64) : Bytes :=
  ascii "stats/" ++ orgID ++ slash :: formatUint epoch

def contributorKey (contributorID : Bytes) (epoch : UInt64) : Bytes :=
  ascii "contributor/" ++ contributorID ++ slash :: formatUint epoch

def memCountKey (orgID contentHash : Bytes) (epoch : UInt64) : Bytes :=
  pathKey "memcount/" orgID (hexEncode contentHash) (formatUint epoch)

def denialCountKey (orgID contentHash : Bytes) (epoch : UInt64) : Bytes :=
  pathKey "denycount/" orgID (hexEncode contentHash) (formatUint epoch)

def memFirstKey (orgID contentHash : Bytes) (epoch : UInt64) : Bytes :=
  pathKey "memfirst/" orgID (hexEncode contentHash) (formatUint epoch)

def keyFirstKey (orgID serveKey : Bytes) (epoch : UInt64) : Bytes :=
  pathKey "keyfirst/" orgID serveKey (formatUint epoch)

@[simp] theorem serveFingerprintKey_inj {f f' : Bytes} :
    serveFingerprintKey f = serveFingerprintKey f' ↔ f = f' := by
  simp [serveFingerprintKey]

@[simp] theorem denialFingerprintKey_inj {f f' : Bytes} :
    denialFingerprintKey f = denialFingerprintKey f' ↔ f = f' := by
  simp [denialFingerprintKey]

@[simp] theorem statsKey_inj {o o' : Bytes} {n n' : UInt64} :
    statsKey o n = statsKey o' n' ↔ o = o' ∧ n = n' := by
  unfold statsKey
  rw [append_cons_inj_of_notMem (slash_notMem_formatUint n) (slash_notMem_formatUint n')]
  simp

@[simp] theorem contributorKey_inj {c c' : Bytes} {n n' : UInt64} :
    contributorKey c n = contributorKey c' n' ↔ c = c' ∧ n = n' := by
  unfold contributorKey
  rw [append_cons_inj_of_notMem (slash_notMem_formatUint n) (slash_notMem_formatUint n')]
  simp

section
variable {o o' a a' : Bytes} {n n' : UInt64}

/-- The keys that end in an epoch and a fingerprint. -/
theorem epochHashKey_inj {head : String} :
    pathKey head o (formatUint n) (hexEncode a) = pathKey head o' (formatUint n') (hexEncode a') ↔
      o = o' ∧ n = n' ∧ a = a' := by
  rw [pathKey_inj (slash_notMem_formatUint n) (slash_notMem_formatUint n')
    (slash_notMem_hexEncode a) (slash_notMem_hexEncode a')]
  simp

@[simp] theorem receiptKey_inj :
    receiptKey o n a = receiptKey o' n' a' ↔ o = o' ∧ n = n' ∧ a = a' := epochHashKey_inj

@[simp] theorem denialReceiptKey_inj :
    denialReceiptKey o n a = denialReceiptKey o' n' a' ↔ o = o' ∧ n = n' ∧ a = a' :=
  epochHashKey_inj

@[simp] theorem eventKey_inj :
    eventKey o n a = eventKey o' n' a' ↔ o = o' ∧ n = n' ∧ a = a' := epochHashKey_inj

/-- The keys that end in the hash of a memory, or another hexadecimal text, and an epoch. -/
theorem hashEpochKey_inj {head : String} :
    pathKey head o (hexEncode a) (formatUint n) = pathKey head o' (hexEncode a') (formatUint n') ↔
      o = o' ∧ a = a' ∧ n = n' := by
  rw [pathKey_inj (slash_notMem_hexEncode a) (slash_notMem_hexEncode a')
    (slash_notMem_formatUint n) (slash_notMem_formatUint n')]
  simp

@[simp] theorem memCountKey_inj :
    memCountKey o a n = memCountKey o' a' n' ↔ o = o' ∧ a = a' ∧ n = n' := hashEpochKey_inj

@[simp] theorem denialCountKey_inj :
    denialCountKey o a n = denialCountKey o' a' n' ↔ o = o' ∧ a = a' ∧ n = n' := hashEpochKey_inj

@[simp] theorem memFirstKey_inj :
    memFirstKey o a n = memFirstKey o' a' n' ↔ o = o' ∧ a = a' ∧ n = n' := hashEpochKey_inj

@[simp] theorem keyFirstKey_inj :
    keyFirstKey o (hexEncode a) n = keyFirstKey o' (hexEncode a') n' ↔
      o = o' ∧ a = a' ∧ n = n' := hashEpochKey_inj

end

end Keys

/-- The store of x/serve, one field for each key or key prefix. -/
structure Store where
  fingerprint : OrderedMap Bytes Bytes := ∅
  denyFingerprint : OrderedMap Bytes Unit := ∅
  receipt : OrderedMap Bytes StoredServeReceipt := ∅
  denial : OrderedMap Bytes StoredDenialReceipt := ∅
  event : OrderedMap Bytes StoredEvent := ∅
  eventFingerprint : OrderedMap Bytes Unit := ∅
  policyAnchor : OrderedMap Bytes StoredPolicyAnchor := ∅
  policyAnchorLatest : Option Bytes := none
  stats : OrderedMap Bytes StoredEpochServeStats := ∅
  contributor : OrderedMap Bytes StoredContributorEpochServes := ∅
  memCount : OrderedMap Bytes UInt64 := ∅
  denialCount : OrderedMap Bytes UInt64 := ∅
  memFirst : OrderedMap Bytes Unit := ∅
  keyFirst : OrderedMap Bytes Unit := ∅
  params : Option Params := none
  deriving DecidableEq

end WeVibeChain.Serve
