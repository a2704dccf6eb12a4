import WeVibeChain.Shared.Bytes
import WeVibeChain.Shared.OrderedMap

/-!
# x/org: organisations, members and the lookups other modules make

The stored org record carries aggregate counters that the in-memory `Org` does
not have; `modifyOrgAggregate` works on the stored form and keeps the rest.
-/

set_option autoImplicit false

namespace WeVibeChain.Orgs

open Bytes

inductive Error where
  | invalidOrgID
  | invalidLeader
  | invalidDomain
  | invalidName
  | invalidDescription
  | invalidTechStack
  | invalidFocusAreas
  | orgAlreadyExists
  | leaderAlreadyOwnsOrg
  | orgNotFound
  | memberNotFound
  | memberExists
  | cannotRemoveLeader
  | notLeader
  | invalidRole
  | hubEndpointsCount
  | hubEndpointParse (index : Nat)
  | hubEndpointScheme (index : Nat)
  | hubResponsePubkeyCase
  | hubResponsePubkeyHex
  | hubResponsePubkeyLength
  | orgNotActive
  | insufficientFund
  | slotCapReached
  | unauthorized
  | feegrantUnavailable
  | signerEmpty
  | pubkeyEmpty
  | x25519PubkeyEmpty
  | newServingKeyEmpty
  | newLeaderEmpty
  | newLeaderWalletEmpty
  | newLeaderWalletInvalid
  | newLeaderIsSigner
  | newLeaderNotMember
  | granteeEmpty
  | dailySubmissionsZero
  | trialDaysZero
  | minContributionsTooHigh
  | vocabHashFormat
  | embeddingModelIdTooLong
  | slotCapZero
  | signerAddressInvalid
  | granteeAddressInvalid
  | burnCoins
  | parseServingAddress
  | grantServingFeegrant
  | parseLeaderWallet
  | grantLeaderFeegrant
  | grantAllowance
  deriving DecidableEq, Repr

/-- The text of an error, up to the text of an error of the SDK that it wraps. -/
def Error.text : Error → String
  | invalidOrgID => "invalid org ID"
  | invalidLeader => "invalid leader pubkey"
  | invalidDomain => "invalid domain"
  | invalidName => "invalid name"
  | invalidDescription => "invalid description"
  | invalidTechStack => "invalid tech stack"
  | invalidFocusAreas => "invalid focus areas"
  | orgAlreadyExists => "org already exists"
  | leaderAlreadyOwnsOrg => "leader already owns an org"
  | orgNotFound => "org not found"
  | memberNotFound => "member not found"
  | memberExists => "member already exists"
  | cannotRemoveLeader => "cannot remove org leader"
  | notLeader => "caller is not the org leader"
  | invalidRole => "invalid role"
  | hubEndpointsCount =>
    "invalid hub endpoints: hub_endpoints must contain between 1 and 3 endpoints"
  | hubEndpointParse index =>
    "invalid hub endpoints: hub_endpoints[" ++ toString index ++ "] parse error: "
  | hubEndpointScheme index =>
    "invalid hub endpoints: hub_endpoints[" ++ toString index ++
      "] must be an http(s) URL with host"
  | hubResponsePubkeyCase =>
    "invalid hub response pubkey: hub_response_pubkey must be lowercase hex"
  | hubResponsePubkeyHex => "invalid hub response pubkey: hub_response_pubkey must be valid hex: "
  | hubResponsePubkeyLength =>
    "invalid hub response pubkey: hub_response_pubkey must decode to exactly 32 bytes"
  | orgNotActive => "org is not active"
  | insufficientFund => "insufficient funds for registration"
  | slotCapReached => "org slot cap reached"
  | unauthorized => "unauthorized"
  | feegrantUnavailable => "feegrant module is not configured"
  | signerEmpty => "signer cannot be empty"
  | pubkeyEmpty => "pubkey cannot be empty"
  | x25519PubkeyEmpty => "x25519_pubkey cannot be empty"
  | newServingKeyEmpty => "new_serving_key cannot be empty"
  | newLeaderEmpty => "new_leader cannot be empty"
  | newLeaderWalletEmpty => "new_leader_wallet cannot be empty"
  | newLeaderWalletInvalid => "invalid new_leader_wallet: "
  | newLeaderIsSigner => "signer cannot transfer leadership to self"
  | newLeaderNotMember => "new_leader must be a member of the org"
  | granteeEmpty => "grantee cannot be empty"
  | dailySubmissionsZero => "daily_submissions must be positive"
  | trialDaysZero => "trial_days must be positive"
  | minContributionsTooHigh => "min_contributions_per_epoch must be <= 100"
  | vocabHashFormat => "vocab_hash must be 64 lowercase hex chars"
  | embeddingModelIdTooLong => "embedding_model_id must be <= 128 chars"
  | slotCapZero => "slot_cap must be greater than 0"
  | signerAddressInvalid => "invalid signer address: "
  | granteeAddressInvalid => "invalid grantee address: "
  | burnCoins => "burn coins: "
  | parseServingAddress => "parse serving address: "
  | grantServingFeegrant => "grant serving feegrant: "
  | parseLeaderWallet => "parse leader wallet address: "
  | grantLeaderFeegrant => "grant leader feegrant: "
  | grantAllowance => "grant allowance: "

/-- A 32-bit status; values outside the four named ones are carried along. -/
inductive OrgStatus where
  | active
  | dormant
  | suspended
  | closed
  | other (code : Int32)
  deriving DecidableEq, Repr

def OrgStatus.ofCode (code : Int32) : OrgStatus :=
  if code = 0 then .active
  else if code = 1 then .dormant
  else if code = 2 then .suspended
  else if code = 3 then .closed
  else .other code

def OrgStatus.code : OrgStatus → Int32
  | active => 0
  | dormant => 1
  | suspended => 2
  | closed => 3
  | other code => code

structure StoredOrg where
  orgId : Bytes
  leader : Bytes
  createdAt : UInt64 := 0
  renewalHeight : UInt64 := 0
  storageQuota : UInt64 := 0
  retrievalBudget : UInt64 := 0
  status : Int32 := 0
  domain : Bytes := []
  totalCommittedMemories : UInt64 := 0
  totalActiveMembers : UInt64 := 0
  totalUpheldReports : UInt64 := 0
  lastActivityEpoch : UInt64 := 0
  hubServingAddress : Bytes := []
  leaderWalletAddress : Bytes := []
  slot : UInt64 := 0
  accountAddress : Bytes := []
  hubEndpoints : List Bytes := []
  hubResponsePubkey : Bytes := []
  description : Bytes := []
  techStack : Bytes := []
  focusAreas : Bytes := []
  name : Bytes := []
  deriving DecidableEq

structure Org where
  orgID : Bytes
  slot : UInt64
  leader : Bytes
  domain : Bytes
  name : Bytes
  description : Bytes
  techStack : Bytes
  focusAreas : Bytes
  createdAt : UInt64
  renewalHeight : UInt64
  storageQuota : UInt64
  retrievalBudget : UInt64
  status : OrgStatus
  hubServingAddress : Bytes
  hubEndpoints : List Bytes
  hubResponsePubkey : Bytes
  leaderWalletAddress : Bytes
  accountAddress : Bytes
  deriving DecidableEq

def storedToOrg (stored : StoredOrg) : Org where
  orgID := stored.orgId
  slot := stored.slot
  leader := stored.leader
  domain := stored.domain
  name := stored.name
  description := stored.description
  techStack := stored.techStack
  focusAreas := stored.focusAreas
  createdAt := stored.createdAt
  renewalHeight := stored.renewalHeight
  storageQuota := stored.storageQuota
  retrievalBudget := stored.retrievalBudget
  status := .ofCode stored.status
  hubServingAddress := stored.hubServingAddress
  hubEndpoints := stored.hubEndpoints
  hubResponsePubkey := stored.hubResponsePubkey
  leaderWalletAddress := stored.leaderWalletAddress
  accountAddress := stored.accountAddress

structure MemberRecord where
  orgID : Bytes
  pubkey : Bytes
  role : Bytes
  x25519Pubkey : Bytes := []
  canContribute : Bool := false
  canModerate : Bool := false
  deriving DecidableEq

structure OrgConfig where
  orgID : Bytes
  serveReceiptRequired : Bool := false
  contestStakeVibe : UInt64 := 0
  vocabHash : Bytes := []
  embeddingModelID : Bytes := []
  minContributionsPerEpoch : UInt64 := 0
  deriving DecidableEq

structure Params where
  minRegistrationFee : UInt64
  annualRenewalFee : UInt64
  defaultStorageQuota : UInt64
  defaultRetrievalBudget : UInt64
  gracePeriodEpochs : UInt64
  burnPriceDecayEpochs : UInt64
  baseBurnPrice : UInt64
  burnPriceIncreasePercent : UInt64
  slotCap : UInt64
  deriving DecidableEq

def defaultParams : Params where
  minRegistrationFee := 10000000
  annualRenewalFee := 5000000
  defaultStorageQuota := 1073741824
  defaultRetrievalBudget := 10000
  gracePeriodEpochs := 30
  burnPriceDecayEpochs := 10
  baseBurnPrice := 10000000
  burnPriceIncreasePercent := 20
  slotCap := 32

def Params.validate (params : Params) : Except Error Unit :=
  if params.slotCap = 0 then .error .slotCapZero else .ok ()

def orgKey (orgID : Bytes) : Bytes := ascii "org/" ++ orgID

def memberPrefix (orgID : Bytes) : Bytes := ascii "member/" ++ orgID ++ [slash]

def memberKey (orgID memberPubkey : Bytes) : Bytes :=
  ascii "member/" ++ orgID ++ slash :: memberPubkey

def orgConfigKey (orgID : Bytes) : Bytes := ascii "orgconfig/" ++ orgID

/-- The store by key family. The slot registry and the parameters are single entries. -/
structure Store where
  org : OrderedMap Bytes StoredOrg := ∅
  member : OrderedMap Bytes MemberRecord := ∅
  epochCurrent : Option UInt64 := none
  orgConfig : OrderedMap Bytes OrgConfig := ∅
  slotRegistry : Option UInt64 := none
  params : Option Params := none
  deriving DecidableEq

section Lookups
variable (s : Store) (orgID memberPubkey : Bytes)

def getParams : Params := s.params.getD defaultParams

def getNextSlot : UInt64 := s.slotRegistry.getD 0

def getOrg : Except Error Org :=
  match s.org.get (orgKey orgID) with
  | none => .error .orgNotFound
  | some stored => .ok (storedToOrg stored)

def hasOrg : Bool := s.org.has (orgKey orgID)

def getMember : Except Error MemberRecord :=
  match s.member.get (memberKey orgID memberPubkey) with
  | none => .error .memberNotFound
  | some member => .ok member

/-- The entries with the prefix, in key order. -/
def getAllMembers : List MemberRecord :=
  (s.member.entries.filter fun e => (memberPrefix orgID).isPrefixOf e.1).map Prod.snd

def getAllOrgs : List Org := s.org.values.map storedToOrg

def isLeader : Bool :=
  match getMember s orgID memberPubkey with
  | .error _ => false
  | .ok member => member.role = ascii "leader"

def getServingAddress : Except Error Bytes := (getOrg s orgID).map Org.hubServingAddress

def getLeaderWallet : Except Error Bytes := (getOrg s orgID).map Org.leaderWalletAddress

end Lookups

theorem getOrg_map_ok {s : Store} {orgID text : Bytes} {f : Org → Bytes}
    (h : (getOrg s orgID).map f = .ok text) :
    ∃ stored, s.org.get (orgKey orgID) = some stored ∧ f (storedToOrg stored) = text := by
  unfold getOrg at h
  split at h
  · cases h
  · rename_i stored hget
    exact ⟨stored, hget, Except.ok.inj h⟩

section Aggregates

def getCurrentEpoch (s : Store) : UInt64 := s.epochCurrent.getD 0

def modifyOrgAggregate (s : Store) (orgID : Bytes) (fn : StoredOrg → UInt64 → StoredOrg) :
    Except Error Store :=
  match s.org.get (orgKey orgID) with
  | none => .error .orgNotFound
  | some stored => .ok { s with org := s.org.set (orgKey orgID) (fn stored (getCurrentEpoch s)) }

def incrementOrgCommittedMemories (s : Store) (orgID : Bytes) : Except Error Store :=
  modifyOrgAggregate s orgID fun stored currentEpoch =>
    { stored with
      totalCommittedMemories := stored.totalCommittedMemories + 1
      lastActivityEpoch := currentEpoch }

def incrementOrgUpheldReports (s : Store) (orgID : Bytes) : Except Error Store :=
  modifyOrgAggregate s orgID fun stored currentEpoch =>
    { stored with
      totalUpheldReports := stored.totalUpheldReports + 1
      lastActivityEpoch := currentEpoch }

def setOrgLastActivityEpoch (s : Store) (orgID : Bytes) (epoch : UInt64) : Except Error Store :=
  modifyOrgAggregate s orgID fun stored _ => { stored with lastActivityEpoch := epoch }

def recomputeOrgActiveMembers (s : Store) (orgID : Bytes) : Except Error Store :=
  let count := (getAllMembers s orgID).foldl
    (fun count member => if member.role ≠ ascii "inactive" then count + 1 else count) 0
  modifyOrgAggregate s orgID fun stored currentEpoch =>
    { stored with totalActiveMembers := count, lastActivityEpoch := currentEpoch }

variable {s s' : Store} {orgID : Bytes}

/-- Counters of one org's record have changed and nothing else has. -/
def CountersChanged (orgID : Bytes) (s s' : Store) : Prop :=
  ∃ stored committed upheld activity, s.org.get (orgKey orgID) = some stored ∧
    s' = { s with
      org := s.org.set (orgKey orgID)
        { stored with
          totalCommittedMemories := committed
          totalUpheldReports := upheld
          lastActivityEpoch := activity } }

theorem modifyOrgAggregate_ok {fn : StoredOrg → UInt64 → StoredOrg}
    (h : modifyOrgAggregate s orgID fn = .ok s') :
    ∃ stored, s.org.get (orgKey orgID) = some stored ∧
      s' = { s with org := s.org.set (orgKey orgID) (fn stored (getCurrentEpoch s)) } := by
  unfold modifyOrgAggregate at h
  split at h
  · cases h
  · rename_i stored hget
    exact ⟨stored, hget, (Except.ok.inj h).symm⟩

theorem incrementOrgCommittedMemories_ok (h : incrementOrgCommittedMemories s orgID = .ok s') :
    CountersChanged orgID s s' := by
  obtain ⟨stored, hget, rfl⟩ := modifyOrgAggregate_ok h
  exact ⟨stored, _, _, _, hget, rfl⟩

theorem incrementOrgUpheldReports_ok (h : incrementOrgUpheldReports s orgID = .ok s') :
    CountersChanged orgID s s' := by
  obtain ⟨stored, hget, rfl⟩ := modifyOrgAggregate_ok h
  exact ⟨stored, _, _, _, hget, rfl⟩

theorem setOrgLastActivityEpoch_ok {epoch : UInt64}
    (h : setOrgLastActivityEpoch s orgID epoch = .ok s') : CountersChanged orgID s s' := by
  obtain ⟨stored, hget, rfl⟩ := modifyOrgAggregate_ok h
  exact ⟨stored, _, _, _, hget, rfl⟩

end Aggregates

end WeVibeChain.Orgs
