import WeVibeChain.ServeKeeper

/-!
# x/serve: messages

Serve, denial and event batches are accepted only from the org's registered
serving address. A batch whose handler fails leaves no trace; within a batch that
goes through, each entry is accepted or rejected on its own.
-/

set_option autoImplicit false

namespace WeVibeChain.Serve

open Bytes

section Messages

structure MsgSubmitServeBatch where
  signer : Bytes
  orgId : Bytes
  epoch : UInt64
  serves : List ServeEntry
  deriving DecidableEq

def ServeEntry.validate (serve : ServeEntry) : Except Error Unit :=
  if serve.memoryContentHash.length ≠ contentHashLen then .error .invalidContentHash
  else if serve.serveKeyPubkey.length ≠ servePubKeyLen then .error .invalidServeKeyPubkey
  else if serve.serveSig.length ≠ serveSigLen then .error .invalidServeSignature
  else if serve.contributorId = [] then .error .invalidContributor
  else if serve.episodeRef.length = 0 then .error .invalidServeEpisodeRef
  else if serve.episodeRef.length > 64 then .error .serveEpisodeRefTooLong
  else .ok ()

/-- The checks all batches share: a signer, an org, entries, and each entry in turn. -/
def validateBatch {α : Type} (validate : α → Except Error Unit) (signer orgId : Bytes)
    (entries : List α) : Except Error Unit :=
  if signer = [] then .error .signerEmpty
  else if orgId = [] then .error .invalidOrgID
  else if entries.length = 0 then .error .batchEmpty
  else entries.forM validate

def MsgSubmitServeBatch.validateBasic (m : MsgSubmitServeBatch) : Except Error Unit :=
  validateBatch ServeEntry.validate m.signer m.orgId m.serves

structure MsgSubmitDenialBatch where
  signer : Bytes
  orgId : Bytes
  epoch : UInt64
  entries : List DenialEntry
  deriving DecidableEq

def DenialEntry.validate (entry : DenialEntry) : Except Error Unit :=
  if entry.memoryHash.length ≠ contentHashLen then .error .invalidContentHash
  else if entry.serveKeyPubkey.length ≠ servePubKeyLen then .error .invalidServeKeyPubkey
  else if entry.serveSig.length ≠ serveSigLen then .error .invalidServeSignature
  else if entry.serveFingerprint.length ≠ fingerprintLen then .error .invalidServeFingerprint
  else if entry.negAnchor.length ≠ 0 then .error .negAnchorInert
  else .ok ()

def MsgSubmitDenialBatch.validateBasic (m : MsgSubmitDenialBatch) : Except Error Unit :=
  validateBatch DenialEntry.validate m.signer m.orgId m.entries

structure MsgSubmitEventBatch where
  signer : Bytes
  orgId : Bytes
  epoch : UInt64
  events : List EventEntry
  deriving DecidableEq

def validateEventType : EventType → Except Error Unit
  | .outcome | .validityPredicate | .costToDiscover | .convergence => .ok ()
  | .contest | .sponsorship => .error .eventParked
  | .serve | .block => .error .eventRecordedByReceipts
  | _ => .error .invalidEventType

def validateRefCaps (refs : List Bytes) : Except Error Unit :=
  if refs.any fun ref => ref.length > 64 then .error .eventRefTooLong else .ok ()

def validateEventBody (entry : EventEntry) : Except Error Unit :=
  match entry.eventType with
  | .outcome =>
    match entry.body with
    | some (.outcome body) =>
      if body.serveRef.length ≠ 32 then .error .outcomeServeRefLength
      else do
        let _ ← outcomeResolutionToken body.resolution
        let _ ← outcomeSourceToken body.source
        validateRefCaps [body.episodeRef, body.evidenceRef]
    | _ => .error .outcomeBodyRequired
  | .validityPredicate =>
    match entry.body with
    | some (.validityPredicate body) => do
      let _ ← predicateResultToken body.result
      validateRefCaps [body.predicateId, body.evidenceRef]
    | _ => .error .validityPredicateBodyRequired
  | .costToDiscover =>
    match entry.body with
    | some (.costToDiscover body) => validateRefCaps [body.evidenceRef]
    | _ => .error .costToDiscoverBodyRequired
  | .convergence =>
    match entry.body with
    | some (.convergence body) => validateRefCaps [body.convergenceRef]
    | _ => .error .convergenceBodyRequired
  | _ => .error .invalidEventType

def validateEventEntry (entry : EventEntry) : Except Error Unit :=
  match validateEventType entry.eventType with
  | .error e => .error e
  | .ok () =>
    if entry.memoryContentHash.length ≠ contentHashLen then .error .invalidContentHash
    else if entry.signerPubkey.length ≠ servePubKeyLen then .error .invalidServeKeyPubkey
    else if entry.signature.length ≠ serveSigLen then .error .invalidServeSignature
    else if entry.nonce.length = 0 then .error .eventNonceEmpty
    else if entry.nonce.length > 64 then .error .eventNonceTooLong
    else validateEventBody entry

def MsgSubmitEventBatch.validateBasic (m : MsgSubmitEventBatch) : Except Error Unit :=
  validateBatch validateEventEntry m.signer m.orgId m.events

structure MsgAnchorPolicyVersion where
  authority : Bytes
  policyVersion : Bytes
  policyHash : Bytes
  deriving DecidableEq

def MsgAnchorPolicyVersion.validateBasic (m : MsgAnchorPolicyVersion) : Except Error Unit :=
  if m.authority = [] then .error .authorityEmpty
  else if m.policyVersion = [] then .error .policyVersionEmpty
  else if m.policyVersion.length > 128 then .error .policyVersionTooLong
  else if m.policyHash.length ≠ 32 then .error .policyHashLength
  else .ok ()

structure MsgUpdateParams where
  authority : Bytes
  params : Params
  deriving DecidableEq

def MsgUpdateParams.validateBasic (m : MsgUpdateParams) : Except Error Unit :=
  if m.authority = [] then .error .authorityEmpty else .ok ()

end Messages

section Handlers
variable (crypto : Crypto) (scopeTagsOf : Bytes → Option (OrderedMap Bytes Bytes))
  (authority : Bytes)

def requireServingKeySigner (org : Orgs.Store) (orgID signer : Bytes) : Except Error Unit :=
  match Orgs.getServingAddress org orgID with
  | .error _ => .error .orgNotFound
  | .ok servingAddr =>
    if servingAddr = [] ∨ signer ≠ servingAddr then .error .unauthorized else .ok ()

/-- What every batch handler checks before it looks at the entries. -/
def admitBatch (org : Orgs.Store) (validated : Except Error Unit) (orgID signer : Bytes) :
    Except Error Unit :=
  match validated with
  | .error e => .error e
  | .ok () =>
    if Orgs.hasOrg org orgID = false then .error .orgNotFound
    else requireServingKeySigner org orgID signer

def submitServeBatch (st : State) (msg : MsgSubmitServeBatch) :
    Except Error (State × BatchResult) :=
  match admitBatch st.org msg.validateBasic msg.orgId msg.signer with
  | .error e => .error e
  | .ok () => processServeBatch crypto scopeTagsOf st msg.orgId msg.epoch msg.serves

/-- What one entry of a denial batch comes to. -/
inductive DenialOutcome where
  | accepted
  | duplicateFingerprint
  | invalidSignature
  | noReceipt
  | hashMismatch
  | serveKeyMismatch
  | noMemory
  deriving DecidableEq, Repr

structure DenialResult where
  accepted : UInt64 := 0
  rejected : UInt64 := 0
  deriving DecidableEq

def DenialResult.tally (result : DenialResult) : DenialOutcome → DenialResult
  | .accepted => { result with accepted := result.accepted + 1 }
  | _ => { result with rejected := result.rejected + 1 }

def denialSignatureValid (orgID : Bytes) (epoch : UInt64) (entry : DenialEntry) : Bool :=
  crypto.ed25519Verify entry.serveKeyPubkey
    (canonicalDenialBody orgID entry.memoryHash epoch entry.serveKeyPubkey entry.serveFingerprint
      entry.nonce)
    entry.serveSig

/-- One turn of the loop over a denial batch. The receipt is looked up by its fingerprint alone;
its org and epoch are not compared with those of the batch. -/
def processDenial (memory : Memory.Store) (orgID : Bytes) (epoch : UInt64) (s : Store)
    (entry : DenialEntry) : Store × DenialOutcome :=
  let denialFingerprint := computeDenialFingerprint crypto.sha256 orgID entry.memoryHash epoch
    entry.serveKeyPubkey entry.serveFingerprint
  if entry.serveKeyPubkey.length ≠ 32 ∨ entry.serveSig.length ≠ 64 then (s, .invalidSignature)
  else if denialSignatureValid crypto orgID epoch entry = false then (s, .invalidSignature)
  else if hasDenialFingerprint s denialFingerprint then (s, .duplicateFingerprint)
  else
    match getServeReceiptByFingerprint s entry.serveFingerprint with
    | none => (s, .noReceipt)
    | some receipt =>
      if entry.memoryHash ≠ receipt.memoryContentHash then (s, .hashMismatch)
      else if entry.serveKeyPubkey ≠ receipt.serveKeyPubkey then (s, .serveKeyMismatch)
      else
        match Memory.getApprovedMemory memory orgID entry.memoryHash with
        | .error _ => (s, .noMemory)
        | .ok _ => (deniedStore s orgID epoch denialFingerprint receipt entry, .accepted)

def processDenials (memory : Memory.Store) (orgID : Bytes) (epoch : UInt64) :
    Store → DenialResult → List DenialEntry → Store × DenialResult
  | s, result, [] => (s, result)
  | s, result, entry :: entries =>
    let (s', outcome) := processDenial crypto memory orgID epoch s entry
    processDenials memory orgID epoch s' (result.tally outcome) entries

def submitDenialBatch (st : State) (msg : MsgSubmitDenialBatch) :
    Except Error (State × DenialResult) :=
  match admitBatch st.org msg.validateBasic msg.orgId msg.signer with
  | .error e => .error e
  | .ok () =>
    if msg.entries.length > (getParams st.store).maxServesPerBatch.toNat then .error .batchTooLarge
    else
      let (store, result) :=
        processDenials crypto st.memory msg.orgId msg.epoch st.store {} msg.entries
      .ok ({ st with store := store }, result)

def submitEventBatch (st : State) (msg : MsgSubmitEventBatch) :
    Except Error (State × BatchResult) :=
  match admitBatch st.org msg.validateBasic msg.orgId msg.signer with
  | .error e => .error e
  | .ok () =>
    if msg.events.length > (getParams st.store).maxServesPerBatch.toNat then .error .batchTooLarge
    else
      let (store, result) :=
        processEventBatch crypto st.memory msg.orgId msg.epoch st.store {} msg.events
      .ok ({ st with store := store }, result)

def anchorPolicyVersion (st : State) (blockHeight : Int64) (msg : MsgAnchorPolicyVersion) :
    Except Error State :=
  match msg.validateBasic with
  | .error e => .error e
  | .ok () =>
    if msg.authority ≠ authority then .error .unauthorized
    else
      match setPolicyAnchor st.store blockHeight msg.policyVersion msg.policyHash with
      | .error e => .error e
      | .ok store => .ok { st with store := store }

def updateParams (st : State) (msg : MsgUpdateParams) : Except Error State :=
  match msg.validateBasic with
  | .error e => .error e
  | .ok () =>
    if msg.authority ≠ authority then .error .unauthorized
    else .ok { st with store := setParams st.store msg.params }

end Handlers

section Delivery
variable (crypto : Crypto) (scopeTagsOf : Bytes → Option (OrderedMap Bytes Bytes))
  (authority : Bytes)

/-- The messages of the module. The height is that of the block the message is in. -/
inductive Msg where
  | submitServeBatch (msg : MsgSubmitServeBatch)
  | submitDenialBatch (msg : MsgSubmitDenialBatch)
  | submitEventBatch (msg : MsgSubmitEventBatch)
  | anchorPolicyVersion (blockHeight : Int64) (msg : MsgAnchorPolicyVersion)
  | updateParams (msg : MsgUpdateParams)
  deriving DecidableEq

inductive Response where
  | serveBatch (result : BatchResult)
  | denialBatch (result : DenialResult)
  | eventBatch (result : BatchResult)
  | empty
  deriving DecidableEq

def handle (st : State) : Msg → Except Error (State × Response)
  | .submitServeBatch msg =>
    (submitServeBatch crypto scopeTagsOf st msg).map fun r => (r.1, .serveBatch r.2)
  | .submitDenialBatch msg =>
    (submitDenialBatch crypto st msg).map fun r => (r.1, .denialBatch r.2)
  | .submitEventBatch msg =>
    (submitEventBatch crypto st msg).map fun r => (r.1, .eventBatch r.2)
  | .anchorPolicyVersion height msg =>
    (anchorPolicyVersion authority st height msg).map fun st' => (st', .empty)
  | .updateParams msg => (updateParams authority st msg).map fun st' => (st', .empty)

/-- A failed message leaves the state as it was. -/
def deliver (st : State) (msg : Msg) : State × Except Error Response :=
  match handle crypto scopeTagsOf authority st msg with
  | .error e => (st, .error e)
  | .ok (st', response) => (st', .ok response)

end Delivery

end WeVibeChain.Serve
