import WeVibeChain.Shared.Bytes
import WeVibeChain.Shared.Machine
import WeVibeChain.Shared.PrefixRange

/-!
# x/attestation: session attestations

A session attestation is written under two keys, one that names the session and
one that names its epoch as well. Both kinds of key are in one store, and a scan
runs over a range of its keys. Submitting is switched off, so attestations come
from the genesis file only.
-/

set_option autoImplicit false

namespace WeVibeChain.Attestation

open Bytes

inductive Error where
  | invalidOrgID
  | invalidSessionHash
  | invalidContributor
  | invalidModelID
  | invalidProviderType
  | attestationNotFound
  | attestationDisabled
  | unauthorized
  | signerEmpty
  | authorityEmpty
  deriving DecidableEq, Repr

def Error.text : Error → String
  | invalidOrgID => "invalid org ID"
  | invalidSessionHash => "session hash must be 32 bytes"
  | invalidContributor => "invalid contributor ID"
  | invalidModelID => "invalid model ID"
  | invalidProviderType => "invalid provider type"
  | attestationNotFound => "session attestation not found"
  | attestationDisabled =>
    "session attestation is disabled pending verification infrastructure (D-ATTEST-ROADMAP)"
  | unauthorized => "unauthorized"
  | signerEmpty => "signer cannot be empty"
  | authorityEmpty => "authority cannot be empty"

inductive ProviderType where
  | unspecified
  | localProvider
  | cloudProvider
  | other (code : Int32)
  deriving DecidableEq, Repr

structure StoredSessionAttestation where
  orgId : Bytes
  sessionHash : Bytes
  modelId : Bytes
  turnCount : UInt32
  tokenCount : UInt32
  providerType : ProviderType
  commitllmReceiptHash : Bytes
  providerSignatureHash : Bytes
  contributorId : Bytes
  epoch : UInt64
  submittedAtHeight : UInt64
  deriving DecidableEq, Repr

structure Params where
  maxAttestationsPerEpoch : UInt64
  requireAttestationForServe : Bool
  deriving DecidableEq, Repr

def defaultParams : Params := ⟨10000, false⟩

section Keys

def sessionHashLen : Nat := 32

def contentHashToHex (hash : Bytes) : Bytes := hexEncode hash

def attestationKey (orgID sessionHash : Bytes) : Bytes :=
  ascii "attestation/" ++ orgID ++ slash :: contentHashToHex sessionHash

def attestationByEpochKey (orgID : Bytes) (epoch : UInt64) (sessionHash : Bytes) : Bytes :=
  ascii "session_epoch/" ++ orgID ++ slash :: formatUint epoch ++
    slash :: contentHashToHex sessionHash

def attestationByEpochPrefix (orgID : Bytes) (epoch : UInt64) : Bytes :=
  ascii "session_epoch/" ++ orgID ++ slash :: formatUint epoch ++ [slash]

/-- The loop of `prefixEndBytes` at the index `i`, when `i + 1` bytes are left to go. -/
def prefixEndLoop : Nat → Bytes → Option Bytes
  | 0, _ => none
  | i + 1, stop =>
    let raised := stop.modify i fun b => b + 1
    if raised[i]? ≠ some 0 then some raised else prefixEndLoop i raised

def prefixEndBytes (start : Bytes) : Option Bytes :=
  if start.length = 0 then none else prefixEndLoop start.length start

end Keys

section Keeper

/-- The attestations under both kinds of key, and the parameters once they are set. -/
structure Store where
  records : OrderedMap Bytes StoredSessionAttestation := ∅
  params : Option Params := none
  deriving DecidableEq

def setSessionAttestation (s : Store) (att : StoredSessionAttestation) : Store :=
  { s with
    records := (s.records.set (attestationKey att.orgId att.sessionHash) att).set
      (attestationByEpochKey att.orgId att.epoch att.sessionHash) att }

def getSessionAttestation (s : Store) (orgID sessionHash : Bytes) :
    Except Error StoredSessionAttestation :=
  match s.records.get (attestationKey orgID sessionHash) with
  | none => .error .attestationNotFound
  | some att => .ok att

def listSessionAttestations (s : Store) (orgID : Bytes) (epoch : UInt64) :
    List StoredSessionAttestation :=
  let start := attestationByEpochPrefix orgID epoch
  (s.records.between start (prefixEndBytes start)).map Prod.snd

def setParams (s : Store) (params : Params) : Store := { s with params := some params }

def getParams (s : Store) : Params := s.params.getD defaultParams

structure GenesisState where
  attestations : List StoredSessionAttestation
  deriving DecidableEq

def initGenesis (s : Store) (state : GenesisState) : Store :=
  state.attestations.foldl setSessionAttestation s

def exportGenesis (s : Store) : GenesisState :=
  let start := ascii "attestation/"
  ⟨(s.records.between start (prefixEndBytes start)).map Prod.snd⟩

end Keeper

section Messages

structure MsgSubmitSessionAttestation where
  signer : Bytes
  orgId : Bytes
  sessionHash : Bytes
  modelId : Bytes
  contributorId : Bytes
  providerType : ProviderType
  deriving DecidableEq, Repr

def MsgSubmitSessionAttestation.validateBasic (m : MsgSubmitSessionAttestation) :
    Except Error Unit :=
  if m.signer = [] then .error .signerEmpty
  else if m.orgId = [] then .error .invalidOrgID
  else if m.sessionHash.length ≠ sessionHashLen then .error .invalidSessionHash
  else if m.modelId = [] then .error .invalidModelID
  else if m.contributorId = [] then .error .invalidContributor
  else if m.providerType = .unspecified then .error .invalidProviderType
  else .ok ()

structure MsgUpdateParams where
  authority : Bytes
  params : Params
  deriving DecidableEq, Repr

def MsgUpdateParams.validateBasic (m : MsgUpdateParams) : Except Error Unit :=
  if m.authority = [] then .error .authorityEmpty else .ok ()

/-- Nothing is stored until the verification exists. -/
def submitSessionAttestation (_ : Store) (msg : MsgSubmitSessionAttestation) :
    Except Error Store :=
  match msg.validateBasic with
  | .error e => .error e
  | .ok () => .error .attestationDisabled

def updateParams (authority : Bytes) (s : Store) (msg : MsgUpdateParams) : Except Error Store :=
  match msg.validateBasic with
  | .error e => .error e
  | .ok () =>
    if msg.authority ≠ authority then .error .unauthorized
    else .ok (setParams s msg.params)

inductive Msg where
  | submitSessionAttestation (msg : MsgSubmitSessionAttestation)
  | updateParams (msg : MsgUpdateParams)

def Msg.apply (authority : Bytes) (s : Store) : Msg → Except Error Store
  | .submitSessionAttestation msg => Attestation.submitSessionAttestation s msg
  | .updateParams msg => Attestation.updateParams authority s msg

/-- A failed message leaves the store as it was. -/
def step (authority : Bytes) (s : Store) (msg : Msg) : Store × Except Error Unit :=
  match msg.apply authority s with
  | .error e => (s, .error e)
  | .ok s' => (s', .ok ())

def chain (authority : Bytes) : Machine Store Msg (Except Error Unit) := ⟨step authority⟩

theorem updateParams_ok {authority : Bytes} {s s' : Store} {msg : MsgUpdateParams}
    (h : updateParams authority s msg = .ok s') : s' = setParams s msg.params := by
  unfold updateParams at h
  split at h
  · cases h
  split at h
  · cases h
  · exact (Except.ok.inj h).symm

theorem submitSessionAttestation_ne_ok (s s' : Store) (msg : MsgSubmitSessionAttestation) :
    submitSessionAttestation s msg ≠ .ok s' := by
  unfold submitSessionAttestation
  split <;> exact nofun

theorem records_next (authority : Bytes) (s : Store) (msg : Msg) :
    ((chain authority).next s msg).records = s.records := by
  change (step authority s msg).1.records = s.records
  unfold step
  split
  · rfl
  · rename_i s' hok
    cases msg with
    | submitSessionAttestation msg => exact absurd hok (submitSessionAttestation_ne_ok s s' msg)
    | updateParams msg =>
      rw [updateParams_ok hok]
      rfl

/-- No message stores an attestation or takes one away. -/
theorem records_run (authority : Bytes) (s : Store) (msgs : List Msg) :
    ((chain authority).run s msgs).records = s.records :=
  (chain authority).run_always (I := fun t => t.records = s.records)
    (fun t msg ht => (records_next authority t msg).trans ht) rfl msgs

end Messages

end WeVibeChain.Attestation
