import WeVibeChain.BankKeeper
import WeVibeChain.OrgKeeper

/-!
# x/org: the operations of the keeper

x/bank, x/feegrant and the SDK's address and URL code are not part of this
repository. They are parameters: a bank and a feegrant state that nothing is
known of, and the calls made on them.
-/

set_option autoImplicit false

namespace WeVibeChain.Orgs

open Bytes

/-- An allowance that pays fees. `allowedMsg` has no limit of its own and is good for the listed
message types only; the times of `periodic` are in nanoseconds. -/
inductive Allowance where
  | allowedMsg (allowedMessages : List Bytes)
  | periodic (spendLimit : Coin) (expiration period : Int) (periodSpendLimit periodCanSpend : Coin)
  deriving DecidableEq

/-- The calls that leave the module, where `none` is a failed call. `grantAllowance` is itself
`none` if no feegrant keeper is configured. -/
structure Externals (β γ : Type) where
  accAddressFromBech32 : Bytes → Option Bytes
  accAddressString : Bytes → Bytes
  newModuleAddress : Bytes → Bytes
  toLower : Bytes → Bytes
  /-- Scheme and host. -/
  parseURL : Bytes → Option (Bytes × Bytes)
  sendCoinsFromAccountToModule : β → Bytes → Bytes → Coin → Option β
  burnCoins : β → Bytes → Coin → Option β
  sendCoins : β → Bytes → Bytes → Coin → Option β
  grantAllowance : Option (γ → Bytes → Bytes → Allowance → Option γ)

structure State (β γ : Type) where
  store : Store
  bank : β
  feegrant : γ
  deriving DecidableEq

def moduleName : Bytes := ascii "org"

def formatOrgID (slot : UInt64) : Bytes := ascii "wevibe-org-" ++ formatUint slot

section Validation

def containsASCIIControl (text : Bytes) : Bool := text.any fun c => c < 0x20

def domainByte (c : UInt8) : Bool :=
  (97 ≤ c && c ≤ 122) || (65 ≤ c && c ≤ 90) || (48 ≤ c && c ≤ 57) || (ascii " ,.-_/+&").contains c

def Org.validate (o : Org) : Except Error Unit :=
  if o.orgID = [] then .error .invalidOrgID
  else if o.leader = [] then .error .invalidLeader
  else if o.description.length > 500 ∨ containsASCIIControl o.description then
    .error .invalidDescription
  else if o.techStack.length > 200 ∨ containsASCIIControl o.techStack then .error .invalidTechStack
  else if o.focusAreas.length > 200 ∨ containsASCIIControl o.focusAreas then
    .error .invalidFocusAreas
  else if o.name.length > 100 ∨ containsASCIIControl o.name then .error .invalidName
  else if o.domain.length > 128 then .error .invalidDomain
  else if o.domain.all domainByte = false then .error .invalidDomain
  else .ok ()

variable {β γ : Type} (ext : Externals β γ)

/-- The endpoints from the one with the given index on. -/
def validateEndpoints : Nat → List Bytes → Except Error Unit
  | _, [] => .ok ()
  | index, endpoint :: endpoints =>
    match ext.parseURL endpoint with
    | none => .error (.hubEndpointParse index)
    | some (scheme, host) =>
      if (ext.toLower scheme ≠ ascii "http" ∧ ext.toLower scheme ≠ ascii "https") ∨ host = [] then
        .error (.hubEndpointScheme index)
      else validateEndpoints (index + 1) endpoints

def validateHubEndpoints (endpoints : List Bytes) : Except Error Unit :=
  if endpoints.length < 1 ∨ endpoints.length > 3 then .error .hubEndpointsCount
  else validateEndpoints ext 0 endpoints

def validateHubResponsePubkey (pubkey : Bytes) : Except Error Unit :=
  if pubkey = [] then .ok ()
  else if pubkey ≠ ext.toLower pubkey then .error .hubResponsePubkeyCase
  else
    match hexDecode pubkey with
    | none => .error .hubResponsePubkeyHex
    | some bz => if bz.length ≠ 32 then .error .hubResponsePubkeyLength else .ok ()

end Validation

section Prices

/-- One increment for each slot before this one. -/
def ascendingMultiplier (increasePercent : UInt64) : Nat → Rat
  | 0 => mkRat 100 100
  | n + 1 => ascendingMultiplier increasePercent n + mkRat increasePercent.toInt64.toInt 100

/-- Both parameters are read as signed words. -/
def computeAscendingPrice (s : Store) (slot : UInt64) : UInt64 :=
  let params := getParams s
  let multiplier := ascendingMultiplier params.burnPriceIncreasePercent slot.toNat
  let result := params.baseBurnPrice.toInt64.toInt * multiplier.num / multiplier.den
  if result ≤ 0 then params.baseBurnPrice
  else if result ≥ 2 ^ 64 then params.baseBurnPrice
  else UInt64.ofNat result.toNat

def computeSlotPrice (s : Store) (slot : UInt64) : Nat := (computeAscendingPrice s slot).toNat

end Prices

section Operations
variable {β γ : Type} (ext : Externals β γ)

def orgAccountAddress (orgID : Bytes) : Bytes := ext.newModuleAddress (ascii "orgacct/" ++ orgID)

/-- What is burnt passes through the module account. -/
def burnFrom (bank : β) (creator : Bytes) (amount : Nat) : Except Error β :=
  if amount = 0 then .ok bank
  else
    match ext.sendCoinsFromAccountToModule bank creator moduleName ⟨uvibe, amount⟩ with
    | none => .error .insufficientFund
    | some bank =>
      match ext.burnCoins bank moduleName ⟨uvibe, amount⟩ with
      | none => .error .burnCoins
      | some bank => .ok bank

/-- Half of the price is burnt, the rest goes to the account of the org. -/
def chargeSlotPrice (bank : β) (creator orgID : Bytes) (price : Nat) : Except Error β :=
  let burnHalf := price / 2
  let acctHalf := price - burnHalf
  match burnFrom ext bank creator burnHalf with
  | .error e => .error e
  | .ok bank =>
    if acctHalf = 0 then .ok bank
    else
      match ext.sendCoins bank creator (orgAccountAddress ext orgID) ⟨uvibe, acctHalf⟩ with
      | none => .error .insufficientFund
      | some bank => .ok bank

/-- An allowance for the address, if there is one, restricted to the given message types. -/
def grantFeegrant (parseError grantError : Error) (allowedMessages : List Bytes) (feegrant : γ)
    (granter address : Bytes) : Except Error γ :=
  if address = [] then .ok feegrant
  else
    match ext.accAddressFromBech32 address with
    | none => .error parseError
    | some grantee =>
      match ext.grantAllowance with
      | none => .error .feegrantUnavailable
      | some grantAllowance =>
        match grantAllowance feegrant granter grantee (.allowedMsg allowedMessages) with
        | none => .error grantError
        | some feegrant => .ok feegrant

def servingAllowedMsgTypeURLs : List Bytes :=
  [ascii "/wevibe.serve.v1.MsgSubmitServeBatch", ascii "/wevibe.serve.v1.MsgSubmitDenialBatch",
    ascii "/wevibe.serve.v1.MsgSubmitEventBatch"]

def leaderAllowedMsgTypeURLs : List Bytes :=
  [ascii "/wevibe.org.v1.MsgAddMember", ascii "/wevibe.org.v1.MsgRemoveMember",
    ascii "/wevibe.org.v1.MsgSetMemberCapabilities", ascii "/wevibe.org.v1.MsgSetOrgConfig",
    ascii "/wevibe.org.v1.MsgSetServingKey", ascii "/wevibe.org.v1.MsgSetServingInfo",
    ascii "/wevibe.org.v1.MsgTransferLeadership", ascii "/wevibe.org.v1.MsgCloseOrg",
    ascii "/wevibe.org.v1.MsgGrantTrialAllowance", ascii "/wevibe.memory.v1.MsgSubmitCommitment",
    ascii "/wevibe.memory.v1.MsgApproveMemory", ascii "/wevibe.memory.v1.MsgReportMemory"]

def grantServingFeegrant (feegrant : γ) (orgAccountAddr servingAddr : Bytes) : Except Error γ :=
  grantFeegrant ext .parseServingAddress .grantServingFeegrant servingAllowedMsgTypeURLs feegrant
    orgAccountAddr servingAddr

def grantLeaderFeegrant (feegrant : γ) (granter leaderWallet : Bytes) : Except Error γ :=
  grantFeegrant ext .parseLeaderWallet .grantLeaderFeegrant leaderAllowedMsgTypeURLs feegrant
    granter leaderWallet

def orgToStored (org : Org) : StoredOrg where
  orgId := org.orgID
  slot := org.slot
  leader := org.leader
  domain := org.domain
  name := org.name
  description := org.description
  techStack := org.techStack
  focusAreas := org.focusAreas
  createdAt := org.createdAt
  renewalHeight := org.renewalHeight
  storageQuota := org.storageQuota
  retrievalBudget := org.retrievalBudget
  status := org.status.code
  hubServingAddress := org.hubServingAddress
  hubEndpoints := org.hubEndpoints
  hubResponsePubkey := org.hubResponsePubkey
  leaderWalletAddress := org.leaderWalletAddress
  accountAddress := org.accountAddress

/-- The org under the next free slot. -/
def Org.atSlot (org : Org) (slot : UInt64) : Org :=
  { org with
    slot := slot
    orgID := formatOrgID slot
    accountAddress := ext.accAddressString (orgAccountAddress ext (formatOrgID slot)) }

/-- What a registration writes: the org, its leader and the next slot. -/
def registeredStore (s : Store) (org : Org) : Store :=
  { s with
    org := s.org.set (orgKey org.orgID) { orgToStored org with totalActiveMembers := 1 }
    member := s.member.set (memberKey org.orgID org.leader)
      { orgID := org.orgID, pubkey := org.leader, role := ascii "leader" }
    slotRegistry := some (org.slot + 1) }

def registerOrg (st : State β γ) (newOrg : Org) (creator : Bytes) :
    Except Error (State β γ × Org) :=
  let nextSlot := getNextSlot st.store
  if nextSlot ≥ (getParams st.store).slotCap then .error .slotCapReached
  else
    let org := newOrg.atSlot ext nextSlot
    match org.validate with
    | .error e => .error e
    | .ok () =>
      if hasOrg st.store org.orgID then .error .orgAlreadyExists
      else if (getAllOrgs st.store).any fun existing => existing.leader = org.leader then
        .error .leaderAlreadyOwnsOrg
      else
        match chargeSlotPrice ext st.bank creator org.orgID
          (computeSlotPrice st.store org.slot) with
        | .error e => .error e
        | .ok bank =>
          let orgAccount := orgAccountAddress ext org.orgID
          match grantServingFeegrant ext st.feegrant orgAccount org.hubServingAddress with
          | .error e => .error e
          | .ok feegrant =>
            match grantLeaderFeegrant ext feegrant orgAccount org.leaderWalletAddress with
            | .error e => .error e
            | .ok feegrant => .ok (⟨registeredStore st.store org, bank, feegrant⟩, org)

def addMember (s : Store) (member : MemberRecord) : Except Error Store :=
  if member.role ≠ ascii "member" then .error .invalidRole
  else
    match s.org.get (orgKey member.orgID) with
    | none => .error .orgNotFound
    | some stored =>
      if OrgStatus.ofCode stored.status ≠ .active then .error .orgNotActive
      else if s.member.has (memberKey member.orgID member.pubkey) then .error .memberExists
      else
        .ok { s with
          member := s.member.set (memberKey member.orgID member.pubkey) member
          org := s.org.set (orgKey member.orgID)
            { stored with totalActiveMembers := stored.totalActiveMembers + 1 } }

def removeMember (s : Store) (orgID memberPubkey : Bytes) : Except Error Store :=
  match s.member.get (memberKey orgID memberPubkey) with
  | none => .error .memberNotFound
  | some member =>
    if member.role = ascii "leader" then .error .cannotRemoveLeader
    else
      match s.org.get (orgKey orgID) with
      | none => .error .orgNotFound
      | some stored =>
        if OrgStatus.ofCode stored.status ≠ .active then .error .orgNotActive
        else
          .ok { s with
            member := s.member.delete (memberKey orgID memberPubkey)
            org := s.org.set (orgKey orgID)
              { stored with
                totalActiveMembers :=
                  if stored.totalActiveMembers > 0 then stored.totalActiveMembers - 1
                  else stored.totalActiveMembers } }

/-- The record of the org, for the leader wallet registered in it. -/
def requireLeaderWallet (s : Store) (orgID signer : Bytes) : Except Error StoredOrg :=
  match s.org.get (orgKey orgID) with
  | none => .error .orgNotFound
  | some stored =>
    if stored.leaderWalletAddress = [] ∨ signer ≠ stored.leaderWalletAddress then .error .notLeader
    else .ok stored

def setServingKey (st : State β γ) (orgID newServingKey signer : Bytes) :
    Except Error (State β γ) :=
  match requireLeaderWallet st.store orgID signer with
  | .error e => .error e
  | .ok stored =>
    match grantServingFeegrant ext st.feegrant (orgAccountAddress ext orgID) newServingKey with
    | .error e => .error e
    | .ok feegrant =>
      .ok { st with
        store := { st.store with
          org := st.store.org.set (orgKey orgID) { stored with hubServingAddress := newServingKey } }
        feegrant := feegrant }

def setServingInfo (s : Store) (orgID : Bytes) (endpoints : List Bytes)
    (responsePubkey signer : Bytes) : Except Error Store :=
  match requireLeaderWallet s orgID signer with
  | .error e => .error e
  | .ok stored =>
    match validateHubEndpoints ext endpoints with
    | .error e => .error e
    | .ok () =>
      .ok { s with
        org := s.org.set (orgKey orgID)
          { stored with hubEndpoints := endpoints, hubResponsePubkey := responsePubkey } }

def setMemberCapabilities (s : Store) (orgID pubkey : Bytes) (canContribute canModerate : Bool)
    (signer : Bytes) : Except Error Store :=
  match requireLeaderWallet s orgID signer with
  | .error e => .error e
  | .ok stored =>
    if OrgStatus.ofCode stored.status ≠ .active then .error .orgNotActive
    else
      match getMember s orgID pubkey with
      | .error e => .error e
      | .ok member =>
        .ok { s with
          member := s.member.set (memberKey orgID pubkey)
            { member with canContribute := canContribute, canModerate := canModerate } }

/-- A record that is missing is written with its other fields empty. -/
def setRole (members : OrderedMap Bytes MemberRecord) (key role : Bytes) :
    OrderedMap Bytes MemberRecord :=
  members.set key { (members.get key).getD { orgID := [], pubkey := [], role := [] } with
    role := role }

/-- The status of the org is not looked at, nor are the other orgs. -/
def transferLeadership (st : State β γ) (orgID newLeader newLeaderWallet signer : Bytes) :
    Except Error (State β γ) :=
  if newLeaderWallet = [] then .error .newLeaderWalletEmpty
  else
    match ext.accAddressFromBech32 newLeaderWallet with
    | none => .error .newLeaderWalletInvalid
    | some _ =>
      match requireLeaderWallet st.store orgID signer with
      | .error e => .error e
      | .ok stored =>
        match getMember st.store orgID newLeader with
        | .error _ => .error .newLeaderNotMember
        | .ok _ =>
          match grantLeaderFeegrant ext st.feegrant (orgAccountAddress ext orgID)
            newLeaderWallet with
          | .error e => .error e
          | .ok feegrant =>
            -- the old leader is demoted before the new one's record is read
            let demoted := setRole st.store.member (memberKey orgID stored.leader) (ascii "member")
            .ok { st with
              store := { st.store with
                member := setRole demoted (memberKey orgID newLeader) (ascii "leader")
                org := st.store.org.set (orgKey orgID)
                  { stored with leader := newLeader, leaderWalletAddress := newLeaderWallet } }
              feegrant := feegrant }

def closeOrg (s : Store) (orgID signer : Bytes) : Except Error Store :=
  match requireLeaderWallet s orgID signer with
  | .error e => .error e
  | .ok stored =>
    if OrgStatus.ofCode stored.status ≠ .active then .error .orgNotActive
    else
      .ok { s with
        org := s.org.set (orgKey orgID) { stored with status := OrgStatus.closed.code } }

def setOrgConfig (s : Store) (orgID : Bytes) (cfg : OrgConfig) : Store :=
  { s with orgConfig := s.orgConfig.set (orgConfigKey orgID) cfg }

def setParams (s : Store) (params : Params) : Store := { s with params := some params }

end Operations

end WeVibeChain.Orgs
