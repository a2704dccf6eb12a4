import WeVibeChain.OrgOperations

/-!
# x/org: messages

Every message but a registration and a change of the parameters is for one org
and is checked against the leader wallet that the org's record names.
-/

set_option autoImplicit false

namespace WeVibeChain.Orgs

open Bytes

section Messages

structure MsgRegisterOrg where
  signer : Bytes
  leader : Bytes
  storageQuota : UInt64 := 0
  retrievalBudget : UInt64 := 0
  domain : Bytes := []
  hubServingKey : Bytes := []
  leaderWallet : Bytes := []
  description : Bytes := []
  techStack : Bytes := []
  focusAreas : Bytes := []
  name : Bytes := []
  deriving DecidableEq

def MsgRegisterOrg.validateBasic (m : MsgRegisterOrg) : Except Error Unit :=
  if m.signer = [] then .error .signerEmpty
  else if m.leader = [] then .error .invalidLeader
  else .ok ()

/-- The org that the message asks for, before it has a slot. -/
def MsgRegisterOrg.org (m : MsgRegisterOrg) : Org where
  orgID := []
  slot := 0
  leader := m.leader
  domain := m.domain
  name := m.name
  description := m.description
  techStack := m.techStack
  focusAreas := m.focusAreas
  createdAt := 0
  renewalHeight := 0
  storageQuota := m.storageQuota
  retrievalBudget := m.retrievalBudget
  status := .active
  hubServingAddress := m.hubServingKey
  hubEndpoints := []
  hubResponsePubkey := []
  leaderWalletAddress := m.leaderWallet
  accountAddress := []

structure MsgSetServingKey where
  signer : Bytes
  orgId : Bytes
  newServingKey : Bytes
  deriving DecidableEq

/-- The checks that all messages for one org start with. -/
def validateAddressed (signer orgId : Bytes) : Except Error Unit :=
  if signer = [] then .error .signerEmpty
  else if orgId = [] then .error .invalidOrgID
  else .ok ()

def MsgSetServingKey.validateBasic (m : MsgSetServingKey) : Except Error Unit :=
  match validateAddressed m.signer m.orgId with
  | .error e => .error e
  | .ok () => if m.newServingKey = [] then .error .newServingKeyEmpty else .ok ()

structure MsgSetServingInfo where
  signer : Bytes
  orgId : Bytes
  hubEndpoints : List Bytes
  hubResponsePubkey : Bytes
  deriving DecidableEq

structure MsgAddMember where
  signer : Bytes
  orgId : Bytes
  pubkey : Bytes
  role : Bytes
  x25519Pubkey : Bytes
  canContribute : Bool := false
  canModerate : Bool := false
  deriving DecidableEq

def MsgAddMember.validateBasic (m : MsgAddMember) : Except Error Unit :=
  match validateAddressed m.signer m.orgId with
  | .error e => .error e
  | .ok () =>
    if m.pubkey = [] then .error .pubkeyEmpty
    else if m.x25519Pubkey = [] then .error .x25519PubkeyEmpty
    else if m.role ≠ ascii "member" then .error .invalidRole
    else .ok ()

def MsgAddMember.member (m : MsgAddMember) : MemberRecord where
  orgID := m.orgId
  pubkey := m.pubkey
  role := m.role
  x25519Pubkey := m.x25519Pubkey
  canContribute := m.canContribute
  canModerate := m.canModerate

structure MsgRemoveMember where
  signer : Bytes
  orgId : Bytes
  pubkey : Bytes
  deriving DecidableEq

def MsgRemoveMember.validateBasic (m : MsgRemoveMember) : Except Error Unit :=
  match validateAddressed m.signer m.orgId with
  | .error e => .error e
  | .ok () => if m.pubkey = [] then .error .pubkeyEmpty else .ok ()

structure MsgUpdateParams where
  authority : Bytes
  params : Params
  deriving DecidableEq

structure MsgSetOrgConfig where
  signer : Bytes
  orgId : Bytes
  serveReceiptRequired : Bool := false
  minContributionsPerEpoch : UInt64 := 0
  contestStakeVibe : UInt64 := 0
  vocabHash : Bytes := []
  embeddingModelId : Bytes := []
  deriving DecidableEq

def MsgSetOrgConfig.config (m : MsgSetOrgConfig) : OrgConfig where
  orgID := m.orgId
  serveReceiptRequired := m.serveReceiptRequired
  contestStakeVibe := m.contestStakeVibe
  vocabHash := m.vocabHash
  embeddingModelID := m.embeddingModelId
  minContributionsPerEpoch := m.minContributionsPerEpoch

structure MsgGrantTrialAllowance where
  signer : Bytes
  orgId : Bytes
  grantee : Bytes
  dailySubmissions : UInt64
  trialDays : UInt64
  deriving DecidableEq

def MsgGrantTrialAllowance.validateBasic (m : MsgGrantTrialAllowance) : Except Error Unit :=
  match validateAddressed m.signer m.orgId with
  | .error e => .error e
  | .ok () =>
    if m.grantee = [] then .error .granteeEmpty
    else if m.dailySubmissions = 0 then .error .dailySubmissionsZero
    else if m.trialDays = 0 then .error .trialDaysZero
    else .ok ()

structure MsgSetMemberCapabilities where
  signer : Bytes
  orgId : Bytes
  pubkey : Bytes
  canContribute : Bool
  canModerate : Bool
  deriving DecidableEq

def MsgSetMemberCapabilities.validateBasic (m : MsgSetMemberCapabilities) : Except Error Unit :=
  match validateAddressed m.signer m.orgId with
  | .error e => .error e
  | .ok () => if m.pubkey = [] then .error .pubkeyEmpty else .ok ()

structure MsgTransferLeadership where
  signer : Bytes
  orgId : Bytes
  newLeader : Bytes
  newLeaderWallet : Bytes
  deriving DecidableEq

structure MsgCloseOrg where
  signer : Bytes
  orgId : Bytes
  deriving DecidableEq

def MsgCloseOrg.validateBasic (m : MsgCloseOrg) : Except Error Unit :=
  validateAddressed m.signer m.orgId

variable {β γ : Type} (ext : Externals β γ)

def MsgSetServingInfo.validateBasic (m : MsgSetServingInfo) : Except Error Unit :=
  match validateAddressed m.signer m.orgId with
  | .error e => .error e
  | .ok () =>
    match validateHubEndpoints ext m.hubEndpoints with
    | .error e => .error e
    | .ok () => validateHubResponsePubkey ext m.hubResponsePubkey

/-- The length is counted in bytes. -/
def MsgSetOrgConfig.validateBasic (m : MsgSetOrgConfig) : Except Error Unit :=
  match validateAddressed m.signer m.orgId with
  | .error e => .error e
  | .ok () =>
    if m.minContributionsPerEpoch > 100 then .error .minContributionsTooHigh
    else if m.vocabHash ≠ [] ∧
        (m.vocabHash.length ≠ 64 ∨ m.vocabHash ≠ ext.toLower m.vocabHash ∨
          hexDecode m.vocabHash = none) then
      .error .vocabHashFormat
    else if m.embeddingModelId.length > 128 then .error .embeddingModelIdTooLong
    else .ok ()

/-- The signer is a wallet and the new leader a key of the roster, so the last check compares two
different kinds of names. -/
def MsgTransferLeadership.validateBasic (m : MsgTransferLeadership) : Except Error Unit :=
  match validateAddressed m.signer m.orgId with
  | .error e => .error e
  | .ok () =>
    if m.newLeader = [] then .error .newLeaderEmpty
    else if m.newLeaderWallet = [] then .error .newLeaderWalletEmpty
    else if ext.accAddressFromBech32 m.newLeaderWallet = none then .error .newLeaderWalletInvalid
    else if m.signer = m.newLeader then .error .newLeaderIsSigner
    else .ok ()

end Messages

section Handlers
variable {β γ : Type} (ext : Externals β γ) (authority : Bytes)

def registerOrgMsg (st : State β γ) (msg : MsgRegisterOrg) : Except Error (State β γ × Bytes) :=
  match msg.validateBasic with
  | .error e => .error e
  | .ok () =>
    match ext.accAddressFromBech32 msg.signer with
    | none => .error .signerAddressInvalid
    | some creator =>
      match registerOrg ext st msg.org creator with
      | .error e => .error e
      | .ok (st', org) => .ok (st', org.orgID)

def addMemberMsg (st : State β γ) (msg : MsgAddMember) : Except Error (State β γ) :=
  match msg.validateBasic with
  | .error e => .error e
  | .ok () =>
    match requireLeaderWallet st.store msg.orgId msg.signer with
    | .error e => .error e
    | .ok stored =>
      if OrgStatus.ofCode stored.status ≠ .active then .error .orgNotActive
      else if msg.role = ascii "leader" then .error .invalidRole
      else
        match addMember st.store msg.member with
        | .error e => .error e
        | .ok store => .ok { st with store := store }

/-- The two checks that most handlers make before they call the keeper. -/
def checkOrg (s : Store) (validated : Except Error Unit) (orgID : Bytes) : Except Error Unit :=
  match validated with
  | .error e => .error e
  | .ok () => if hasOrg s orgID = false then .error .orgNotFound else .ok ()

def setServingKeyMsg (st : State β γ) (msg : MsgSetServingKey) : Except Error (State β γ) :=
  match checkOrg st.store msg.validateBasic msg.orgId with
  | .error e => .error e
  | .ok () => setServingKey ext st msg.orgId msg.newServingKey msg.signer

def setServingInfoMsg (st : State β γ) (msg : MsgSetServingInfo) : Except Error (State β γ) :=
  match checkOrg st.store (msg.validateBasic ext) msg.orgId with
  | .error e => .error e
  | .ok () =>
    match setServingInfo ext st.store msg.orgId msg.hubEndpoints msg.hubResponsePubkey
      msg.signer with
    | .error e => .error e
    | .ok store => .ok { st with store := store }

def removeMemberMsg (st : State β γ) (msg : MsgRemoveMember) : Except Error (State β γ) :=
  match msg.validateBasic with
  | .error e => .error e
  | .ok () =>
    match requireLeaderWallet st.store msg.orgId msg.signer with
    | .error e => .error e
    | .ok _ =>
      match removeMember st.store msg.orgId msg.pubkey with
      | .error e => .error e
      | .ok store => .ok { st with store := store }

def updateParamsMsg (st : State β γ) (msg : MsgUpdateParams) : Except Error (State β γ) :=
  if msg.authority ≠ authority then .error .unauthorized
  else
    match msg.params.validate with
    | .error e => .error e
    | .ok () => .ok { st with store := setParams st.store msg.params }

def setOrgConfigMsg (st : State β γ) (msg : MsgSetOrgConfig) : Except Error (State β γ) :=
  match msg.validateBasic ext with
  | .error e => .error e
  | .ok () =>
    match requireLeaderWallet st.store msg.orgId msg.signer with
    | .error e => .error e
    | .ok _ =>
      if msg.minContributionsPerEpoch > 100 then .error .minContributionsTooHigh
      else .ok { st with store := setOrgConfig st.store msg.orgId msg.config }

/-- Nanoseconds in a day. -/
def day : Int64 := 24 * 3600000000000

/-- The duration is a signed 64-bit number of nanoseconds. -/
def trialAllowance (blockTime : Int) (dailySubmissions trialDays : UInt64) : Allowance :=
  let dailyLimit := 2000 * dailySubmissions.toNat
  let totalLimit := dailyLimit * trialDays.toNat
  .periodic ⟨uvibe, totalLimit⟩ (blockTime + (trialDays.toInt64 * day).toInt) day.toInt
    ⟨uvibe, dailyLimit⟩ ⟨uvibe, dailyLimit⟩

def grantTrialAllowanceMsg (st : State β γ) (blockTime : Int) (msg : MsgGrantTrialAllowance) :
    Except Error (State β γ) :=
  match msg.validateBasic with
  | .error e => .error e
  | .ok () =>
    match ext.grantAllowance with
    | none => .error .feegrantUnavailable
    | some grantAllowance =>
      match requireLeaderWallet st.store msg.orgId msg.signer with
      | .error e => .error e
      | .ok _ =>
        match ext.accAddressFromBech32 msg.signer with
        | none => .error .signerAddressInvalid
        | some granter =>
          match ext.accAddressFromBech32 msg.grantee with
          | none => .error .granteeAddressInvalid
          | some grantee =>
            match grantAllowance st.feegrant granter grantee
              (trialAllowance blockTime msg.dailySubmissions msg.trialDays) with
            | none => .error .grantAllowance
            | some feegrant => .ok { st with feegrant := feegrant }

def setMemberCapabilitiesMsg (st : State β γ) (msg : MsgSetMemberCapabilities) :
    Except Error (State β γ) :=
  match checkOrg st.store msg.validateBasic msg.orgId with
  | .error e => .error e
  | .ok () =>
    match setMemberCapabilities st.store msg.orgId msg.pubkey msg.canContribute msg.canModerate
      msg.signer with
    | .error e => .error e
    | .ok store => .ok { st with store := store }

def transferLeadershipMsg (st : State β γ) (msg : MsgTransferLeadership) :
    Except Error (State β γ) :=
  match checkOrg st.store (msg.validateBasic ext) msg.orgId with
  | .error e => .error e
  | .ok () => transferLeadership ext st msg.orgId msg.newLeader msg.newLeaderWallet msg.signer

def closeOrgMsg (st : State β γ) (msg : MsgCloseOrg) : Except Error (State β γ) :=
  match checkOrg st.store msg.validateBasic msg.orgId with
  | .error e => .error e
  | .ok () =>
    match closeOrg st.store msg.orgId msg.signer with
    | .error e => .error e
    | .ok store => .ok { st with store := store }

end Handlers

section Delivery
variable {β γ : Type} (ext : Externals β γ) (authority : Bytes)

/-- The messages of the module. The time is that of the block the message is in. -/
inductive Msg where
  | registerOrg (msg : MsgRegisterOrg)
  | addMember (msg : MsgAddMember)
  | removeMember (msg : MsgRemoveMember)
  | updateParams (msg : MsgUpdateParams)
  | setOrgConfig (msg : MsgSetOrgConfig)
  | grantTrialAllowance (blockTime : Int) (msg : MsgGrantTrialAllowance)
  | setMemberCapabilities (msg : MsgSetMemberCapabilities)
  | transferLeadership (msg : MsgTransferLeadership)
  | closeOrg (msg : MsgCloseOrg)
  | setServingKey (msg : MsgSetServingKey)
  | setServingInfo (msg : MsgSetServingInfo)
  deriving DecidableEq

inductive Response where
  | registered (orgId : Bytes)
  | empty
  deriving DecidableEq

def handle (st : State β γ) : Msg → Except Error (State β γ × Response)
  | .registerOrg msg => (registerOrgMsg ext st msg).map fun r => (r.1, .registered r.2)
  | .addMember msg => (addMemberMsg st msg).map fun st' => (st', .empty)
  | .removeMember msg => (removeMemberMsg st msg).map fun st' => (st', .empty)
  | .updateParams msg => (updateParamsMsg authority st msg).map fun st' => (st', .empty)
  | .setOrgConfig msg => (setOrgConfigMsg ext st msg).map fun st' => (st', .empty)
  | .grantTrialAllowance blockTime msg =>
    (grantTrialAllowanceMsg ext st blockTime msg).map fun st' => (st', .empty)
  | .setMemberCapabilities msg => (setMemberCapabilitiesMsg st msg).map fun st' => (st', .empty)
  | .transferLeadership msg => (transferLeadershipMsg ext st msg).map fun st' => (st', .empty)
  | .closeOrg msg => (closeOrgMsg st msg).map fun st' => (st', .empty)
  | .setServingKey msg => (setServingKeyMsg ext st msg).map fun st' => (st', .empty)
  | .setServingInfo msg => (setServingInfoMsg ext st msg).map fun st' => (st', .empty)

/-- A failed message leaves the state as it was. -/
def deliver (st : State β γ) (msg : Msg) : State β γ × Except Error Response :=
  match handle ext authority st msg with
  | .error e => (st, .error e)
  | .ok (st', response) => (st', .ok response)

end Delivery

end WeVibeChain.Orgs
