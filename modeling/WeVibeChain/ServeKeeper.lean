import WeVibeChain.ServeTypes
import WeVibeChain.Shared.Counter

/-!
# x/serve: the keeper

An accepted serve writes its receipt, the fingerprint pointer to the receipt and
four tallies: the count of the memory, the statistics of the org, those of the
contributor the entry names, and the reputation of the contributor the memory
names. The tallies are separate records, each read, changed and written back.
-/

set_option autoImplicit false

namespace WeVibeChain.Serve

open Bytes

/-- The store of this module with the stores its keeper reads and writes through. -/
structure State where
  store : Store
  org : Orgs.Store
  memory : Memory.Store
  bandwidth : Bandwidth.Store
  reputation : Reputation.Store
  deriving DecidableEq

section Lookups
variable (s : Store)

def setParams (params : Params) : Store := { s with params := some params }

def getParams : Params := s.params.getD defaultParams

def hasServeFingerprint (fingerprint : Bytes) : Bool :=
  s.fingerprint.has (serveFingerprintKey fingerprint)

def hasDenialFingerprint (fingerprint : Bytes) : Bool :=
  s.denyFingerprint.has (denialFingerprintKey fingerprint)

def getServeReceiptByFingerprint (fingerprint : Bytes) : Option StoredServeReceipt :=
  match s.fingerprint.get (serveFingerprintKey fingerprint) with
  | none => none
  | some receiptStoreKey =>
    if receiptStoreKey.length = 0 then none else s.receipt.get receiptStoreKey

def getEpochServeStats (orgID : Bytes) (epoch : UInt64) : Option EpochServeStats :=
  (s.stats.get (statsKey orgID epoch)).map storedToEpochServeStats

def getContributorEpochServes (contributorID : Bytes) (epoch : UInt64) :
    Option ContributorEpochServes :=
  (s.contributor.get (contributorKey contributorID epoch)).map storedToContributorEpochServes

def getMemoryServeCount (orgID contentHash : Bytes) (epoch : UInt64) : UInt64 :=
  s.memCount.count (memCountKey orgID contentHash epoch)

def getMemoryDenialCount (orgID contentHash : Bytes) (epoch : UInt64) : UInt64 :=
  s.denialCount.count (denialCountKey orgID contentHash epoch)

end Lookups

section Tallies
variable (s : Store) (orgID : Bytes) (epoch : UInt64)

def incrementMemoryServeCount (contentHash : Bytes) : Store :=
  { s with memCount := s.memCount.bump (memCountKey orgID contentHash epoch) }

def incrementDenialCount (contentHash : Bytes) : Store :=
  { s with denialCount := s.denialCount.bump (denialCountKey orgID contentHash epoch) }

/-- Read the statistics, or start them, change them and write them back. -/
def modifyEpochStats (fn : EpochServeStats → EpochServeStats) : Store :=
  { s with
    stats := s.stats.set (statsKey orgID epoch)
      (epochServeStatsToStored
        (fn ((getEpochServeStats s orgID epoch).getD (newEpochServeStats orgID epoch)))) }

def countUniqueMemory (contentHash : Bytes) : Store :=
  if s.memFirst.has (memFirstKey orgID contentHash epoch) then s
  else
    modifyEpochStats { s with memFirst := s.memFirst.set (memFirstKey orgID contentHash epoch) () }
      orgID epoch fun stats => { stats with uniqueMemoriesServed := stats.uniqueMemoriesServed + 1 }

def countUniqueServeKey (serveKey : Bytes) : Store :=
  if s.keyFirst.has (keyFirstKey orgID serveKey epoch) then s
  else
    modifyEpochStats { s with keyFirst := s.keyFirst.set (keyFirstKey orgID serveKey epoch) () }
      orgID epoch fun stats => { stats with uniqueServeKeys := stats.uniqueServeKeys + 1 }

def countModel (breakdown : OrderedMap Bytes UInt64) (modelID : Bytes) : OrderedMap Bytes UInt64 :=
  if modelID = [] then breakdown else breakdown.bump modelID

def countServe (isSelfServe : Bool) (modelID : Bytes) (stats : EpochServeStats) :
    EpochServeStats :=
  { stats with
    totalServes := stats.totalServes + 1
    selfServes := if isSelfServe then stats.selfServes + 1 else stats.selfServes
    modelBreakdown := countModel stats.modelBreakdown modelID }

def updateEpochStats (contentHash serveKey : Bytes) (isSelfServe : Bool) (modelID : Bytes) :
    Store :=
  modifyEpochStats
    (countUniqueServeKey (countUniqueMemory s orgID epoch contentHash) orgID epoch serveKey)
    orgID epoch (countServe isSelfServe modelID)

def updateEpochDenialStats : Store :=
  modifyEpochStats s orgID epoch fun stats =>
    { stats with totalDenials := stats.totalDenials + 1 }

def countContributorServe (isSelfServe : Bool) (turnCount : UInt32)
    (cs : ContributorEpochServes) : ContributorEpochServes :=
  let counted : ContributorEpochServes :=
    { cs with
      serveCount := cs.serveCount + 1
      selfServeCount := if isSelfServe then cs.selfServeCount + 1 else cs.selfServeCount }
  let listed := counted.addOrgID orgID
  { listed with totalTurns := listed.totalTurns + turnCount.toUInt64 }

def updateContributorServes (contributorID : Bytes) (isSelfServe : Bool) (turnCount : UInt32) :
    Store :=
  let cs := (getContributorEpochServes s contributorID epoch).getD
    (newContributorEpochServes contributorID epoch)
  { s with
    contributor := s.contributor.set (contributorKey contributorID epoch)
      (contributorEpochServesToStored (countContributorServe orgID isSelfServe turnCount cs)) }

end Tallies

section Serves
variable (crypto : Crypto) (scopeTagsOf : Bytes → Option (OrderedMap Bytes Bytes))

/-- What one entry of a batch comes to. -/
inductive ServeOutcome where
  | accepted
  | duplicate
  | invalid
  deriving DecidableEq, Repr

structure BatchResult where
  accepted : UInt64 := 0
  rejectedDuplicate : UInt64 := 0
  rejectedInvalid : UInt64 := 0
  deriving DecidableEq

def BatchResult.tally (result : BatchResult) : ServeOutcome → BatchResult
  | .accepted => { result with accepted := result.accepted + 1 }
  | .duplicate => { result with rejectedDuplicate := result.rejectedDuplicate + 1 }
  | .invalid => { result with rejectedInvalid := result.rejectedInvalid + 1 }

/-- The receipt of an accepted entry. The contributor and the self-serve flag come from the
entry. -/
def serveReceipt (orgID : Bytes) (epoch : UInt64) (serve : ServeEntry) : ServeReceipt where
  orgID := orgID
  contentHash := serve.memoryContentHash
  serveKey := hexEncode serve.serveKeyPubkey
  serveKeyPubkey := serve.serveKeyPubkey
  contributorID := serve.contributorId
  epoch := epoch
  fingerprint :=
    computeServeFingerprint crypto.sha256 serve.memoryContentHash serve.serveKeyPubkey epoch
  isSelfServe := hexEncode serve.serveKeyPubkey = serve.contributorId
  modelID := serve.modelId
  turnCount := serve.turnCount
  episodeRef := serve.episodeRef

def recordReceipt (s : Store) (receipt : ServeReceipt) : Store :=
  let receiptStoreKey := receiptKey receipt.orgID receipt.epoch receipt.fingerprint
  { s with
    receipt := s.receipt.set receiptStoreKey (serveReceiptToStored receipt)
    fingerprint := s.fingerprint.set (serveFingerprintKey receipt.fingerprint) receiptStoreKey }

/-- Everything an accepted serve writes in this module. -/
def acceptedStore (s : Store) (r : ServeReceipt) : Store :=
  updateContributorServes
    (updateEpochStats
      (incrementMemoryServeCount (recordReceipt s r) r.orgID r.epoch r.contentHash)
      r.orgID r.epoch r.contentHash r.serveKey r.isSelfServe r.modelID)
    r.orgID r.epoch r.contributorID r.isSelfServe r.turnCount

/-- The reputation goes to the contributor of the memory record; without one, and when it cannot
be recorded, nothing is written. -/
def recordServeReputation (memory : Memory.Store) (reputation : Reputation.Store)
    (r : ServeReceipt) : Reputation.Store :=
  match Memory.getApprovedMemory memory r.orgID r.contentHash with
  | .error _ => reputation
  | .ok mem =>
    if mem.contributor = [] then reputation
    else
      match Reputation.recordServe reputation mem.contributor r.orgID r.epoch r.isSelfServe with
      | .error _ => reputation
      | .ok recorded => recorded

def acceptedState (st : State) (r : ServeReceipt) : State :=
  { st with
    store := acceptedStore st.store r
    reputation := recordServeReputation st.memory st.reputation r }

def signatureValid (orgID : Bytes) (epoch : UInt64) (serve : ServeEntry) : Bool :=
  crypto.ed25519Verify serve.serveKeyPubkey
    (canonicalServeBody orgID serve.memoryContentHash epoch serve.serveKeyPubkey serve.nonce
      serve.episodeRef)
    serve.serveSig

/-- One turn of the loop over a batch. -/
def processServe (params : Params) (orgID : Bytes) (epoch : UInt64) (st : State)
    (serve : ServeEntry) : Except Error (State × ServeOutcome) :=
  let receipt := serveReceipt crypto orgID epoch serve
  if serve.serveKeyPubkey.length ≠ 32 ∨ serve.serveSig.length ≠ 64 then .ok (st, .invalid)
  else if signatureValid crypto orgID epoch serve = false then .ok (st, .invalid)
  else if hasServeFingerprint st.store receipt.fingerprint then .ok (st, .duplicate)
  else
    match Memory.getApprovedMemory st.memory orgID serve.memoryContentHash with
    | .error _ => .ok (st, .invalid)
    | .ok _ =>
      match Memory.isValidInEpoch scopeTagsOf st.memory orgID (hexEncode serve.memoryContentHash)
          epoch with
      | .error e => .error (.memory e)
      | .ok false => .ok (st, .invalid)
      | .ok true =>
        if getMemoryServeCount st.store orgID serve.memoryContentHash epoch ≥
            params.maxServesPerMemoryPerEpoch.toUInt64 then .ok (st, .invalid)
        else .ok (acceptedState st receipt, .accepted)

def processServes (params : Params) (orgID : Bytes) (epoch : UInt64) :
    State → BatchResult → List ServeEntry → Except Error (State × BatchResult)
  | st, result, [] => .ok (st, result)
  | st, result, serve :: serves =>
    match processServe crypto scopeTagsOf params orgID epoch st serve with
    | .error e => .error e
    | .ok (st', outcome) => processServes params orgID epoch st' (result.tally outcome) serves

/-- The parameters are read once, before the loop. -/
def processServeBatch (st : State) (orgID : Bytes) (epoch : UInt64) (serves : List ServeEntry) :
    Except Error (State × BatchResult) :=
  let params := getParams st.store
  if serves.length > params.maxServesPerBatch.toNat then .error .batchTooLarge
  else
    match Bandwidth.consumeServeBandwidth st.bandwidth orgID epoch
        (UInt64.ofNat serves.length) with
    | .error e => .error (.bandwidth e)
    | .ok bandwidth =>
      processServes crypto scopeTagsOf params orgID epoch { st with bandwidth := bandwidth } {} serves

end Serves

section Denials

def denialReceipt (orgID : Bytes) (epoch : UInt64) (entry : DenialEntry) : StoredDenialReceipt where
  orgId := orgID
  memoryHash := entry.memoryHash
  denyKey := hexEncode entry.serveKeyPubkey
  reason := entry.reason
  epoch := epoch
  serveFingerprint := entry.serveFingerprint
  serveKeyPubkey := entry.serveKeyPubkey

def storeDenialReceipt (s : Store) (orgID : Bytes) (epoch : UInt64) (denialFingerprint : Bytes)
    (entry : DenialEntry) : Store :=
  { s with
    denial := s.denial.set (denialReceiptKey orgID epoch denialFingerprint)
      (denialReceipt orgID epoch entry) }

/-- Everything an accepted denial writes. -/
def deniedStore (s : Store) (orgID : Bytes) (epoch : UInt64) (denialFingerprint : Bytes)
    (receipt : StoredServeReceipt) (entry : DenialEntry) : Store :=
  let marked := { s with
    denyFingerprint := s.denyFingerprint.set (denialFingerprintKey denialFingerprint) () }
  storeDenialReceipt
    (updateEpochDenialStats (incrementDenialCount marked orgID epoch receipt.memoryContentHash)
      orgID epoch)
    orgID epoch denialFingerprint entry

end Denials

section EventsAndPolicies
variable (crypto : Crypto)

def storedEventFromEntry (orgID : Bytes) (epoch : UInt64) (entry : EventEntry)
    (fingerprint : Bytes) : StoredEvent where
  orgId := orgID
  epoch := epoch
  eventType := entry.eventType
  memoryContentHash := entry.memoryContentHash
  signerPubkey := entry.signerPubkey
  nonce := entry.nonce
  signature := entry.signature
  fingerprint := fingerprint
  body := entry.body

/-- One turn of the loop over an event batch. -/
def processEvent (memory : Memory.Store) (orgID : Bytes) (epoch : UInt64) (s : Store)
    (entry : EventEntry) : Store × ServeOutcome :=
  match canonicalEventBody orgID epoch entry with
  | .error _ => (s, .invalid)
  | .ok body =>
    let fingerprint := computeEventFingerprint crypto.sha256 body
    if crypto.ed25519Verify entry.signerPubkey body entry.signature = false then (s, .invalid)
    else if s.eventFingerprint.has (eventFingerprintKey fingerprint) then (s, .duplicate)
    else
      match Memory.getApprovedMemory memory orgID entry.memoryContentHash with
      | .error _ => (s, .invalid)
      | .ok _ =>
        ({ s with
            event := s.event.set (eventKey orgID epoch fingerprint)
              (storedEventFromEntry orgID epoch entry fingerprint)
            eventFingerprint := s.eventFingerprint.set (eventFingerprintKey fingerprint) () },
          .accepted)

def processEventBatch (memory : Memory.Store) (orgID : Bytes) (epoch : UInt64) :
    Store → BatchResult → List EventEntry → Store × BatchResult
  | s, result, [] => (s, result)
  | s, result, entry :: entries =>
    let (s', outcome) := processEvent crypto memory orgID epoch s entry
    processEventBatch memory orgID epoch s' (result.tally outcome) entries

/-- The events under the prefix of the org and the epoch, in key order. -/
def getEventsForEpoch (s : Store) (orgID : Bytes) (epoch : UInt64) : List StoredEvent :=
  (s.event.under (eventPrefix orgID epoch)).values

/-- Anchoring the same hash again changes nothing. -/
def setPolicyAnchor (s : Store) (blockHeight : Int64) (policyVersion policyHash : Bytes) :
    Except Error Store :=
  match s.policyAnchor.get (policyAnchorKey policyVersion) with
  | some existing =>
    if existing.policyHash ≠ policyHash then .error .policyAnchorConflict else .ok s
  | none =>
    .ok { s with
      policyAnchor := s.policyAnchor.set (policyAnchorKey policyVersion)
        ⟨policyVersion, policyHash, 0, blockHeight⟩
      policyAnchorLatest := some policyVersion }

def getPolicyAnchor (s : Store) (policyVersion : Bytes) : Option StoredPolicyAnchor :=
  s.policyAnchor.get (policyAnchorKey policyVersion)

def getLatestPolicyAnchor (s : Store) : Option StoredPolicyAnchor :=
  match s.policyAnchorLatest with
  | none => none
  | some version => if version.length = 0 then none else getPolicyAnchor s version

end EventsAndPolicies

end WeVibeChain.Serve
