import WeVibeChain.Shared.Bytes
import WeVibeChain.Shared.Counter

/-!
# x/reputation: the counters other modules drive

Serving, approving and reporting a memory move counters here. Recording a serve
or an attested memory fails while the module is inactive, which a flag of its own
says; the profile counters always succeed, because a profile that is not there is
started from zero.

Statistics read back from the store have no map where the stored one is empty,
and counting a tag in a map that is not there ends the transaction.
-/

set_option autoImplicit false

namespace WeVibeChain.Reputation

open Bytes

inductive Error where
  | reputationNotActive
  | invalidDeveloper
  | invalidMemory
  | invalidDifficulty
  | invalidQuality
  | noStats
  | unauthorized
  | signerEmpty
  | authorityEmpty
  | contributorIdEmpty
  | maxDifficultyZero
  | maxQualityZero
  | profileNotFound
  | membershipNotFound
  | nilMapWrite
  deriving DecidableEq, Repr

/-- The last one is the panic of the runtime, and the text before it ends in the id of the org. -/
def Error.text : Error → String
  | reputationNotActive => "reputation module not active"
  | invalidDeveloper => "invalid developer"
  | invalidMemory => "invalid memory"
  | invalidDifficulty => "invalid difficulty grade"
  | invalidQuality => "invalid quality grade"
  | noStats => "no stats found for developer"
  | unauthorized => "unauthorized"
  | signerEmpty => "signer cannot be empty"
  | authorityEmpty => "authority cannot be empty"
  | contributorIdEmpty => "contributor_id cannot be empty"
  | maxDifficultyZero => "max_difficulty must be non-zero"
  | maxQualityZero => "max_quality must be non-zero"
  | profileNotFound => "contributor profile not found"
  | membershipNotFound => "membership not found for org "
  | nilMapWrite => "assignment to entry in nil map"

structure Params where
  active : Bool
  maxDifficulty : UInt32
  maxQuality : UInt32
  serveXpPerServe : UInt64
  selfServeXpPerServe : UInt64
  deriving DecidableEq, Repr

def defaultParams : Params where
  active := true
  maxDifficulty := 10
  maxQuality := 10
  serveXpPerServe := 5
  selfServeXpPerServe := 2

def Params.validate (p : Params) : Except Error Unit :=
  if p.maxDifficulty = 0 then .error .maxDifficultyZero
  else if p.maxQuality = 0 then .error .maxQualityZero
  else .ok ()

structure ReputationStats where
  developerID : Bytes
  memoryCount : UInt64 := 0
  difficultyBucket : List UInt64 := List.replicate 11 0
  domainTags : OrderedMap Bytes UInt64 := ∅
  provenanceBreakdown : OrderedMap Bytes UInt64 := ∅
  xp : UInt64 := 0
  serveCount : UInt64 := 0
  selfServeCount : UInt64 := 0
  orgBreadth : UInt64 := 0
  firstSeenEpoch : UInt64 := 0
  serveXP : UInt64 := 0
  deriving DecidableEq

structure AttestedMemory where
  developer : Bytes
  memoryCID : Bytes
  difficulty : UInt8
  quality : UInt8
  domainTags : List Bytes := []
  provenance : Bytes := []
  deriving DecidableEq

def AttestedMemory.validate (a : AttestedMemory) : Except Error Unit :=
  if a.developer = [] then .error .invalidDeveloper
  else if a.memoryCID = [] then .error .invalidMemory
  else if a.difficulty > 10 then .error .invalidDifficulty
  else if a.quality > 10 then .error .invalidQuality
  else .ok ()

structure StoredAttestedMemory where
  developer : Bytes
  memoryCid : Bytes
  difficulty : UInt32
  quality : UInt32
  domainTags : List Bytes
  provenance : Bytes
  deriving DecidableEq

def attestedMemoryToStored (memory : AttestedMemory) : StoredAttestedMemory where
  developer := memory.developer
  memoryCid := memory.memoryCID
  difficulty := memory.difficulty.toUInt32
  quality := memory.quality.toUInt32
  domainTags := memory.domainTags
  provenance := memory.provenance

structure ContributorOrgSet where
  contributorId : Bytes
  orgIds : List Bytes := []
  deriving DecidableEq

structure OrgMembership where
  orgId : Bytes
  role : Bytes
  joinedEpoch : UInt64
  active : Bool
  deriving DecidableEq

structure ContributorProfile where
  contributorId : Bytes := []
  totalApprovedMemories : UInt64 := 0
  totalServesReceived : UInt64 := 0
  totalDenialsReceived : UInt64 := 0
  totalReportsFiledAgainst : UInt64 := 0
  totalReportsUpheldAgainst : UInt64 := 0
  memberships : List OrgMembership := []
  firstContributionEpoch : UInt64 := 0
  lastContributionEpoch : UInt64 := 0
  deriving DecidableEq

structure ModeratorProfile where
  moderatorPubkey : Bytes
  orgId : Bytes
  totalApprovals : UInt64 := 0
  approvalsLaterUpheldCount : UInt64 := 0
  approvedMemoryHashes : List Bytes := []
  firstApprovalEpoch : UInt64 := 0
  lastApprovalEpoch : UInt64 := 0
  deriving DecidableEq

structure LeaderProfile where
  leaderPubkey : Bytes
  orgId : Bytes
  totalChainCommitsSigned : UInt64 := 0
  totalUpheldReportsCommitted : UInt64 := 0
  firstLeadershipEpoch : UInt64 := 0
  currentLeader : Bool := false
  deriving DecidableEq

def statsKey (developer : Bytes) : Bytes := ascii "stats/" ++ developer

def memoryKey (developer memoryCID : Bytes) : Bytes :=
  ascii "memory/" ++ developer ++ slash :: memoryCID

def contributorOrgSetKey (developer : Bytes) : Bytes := ascii "orgset/" ++ developer

def contributorProfileKey (contributorID orgID : Bytes) : Bytes :=
  ascii "profile/" ++ contributorID ++ slash :: orgID

/-- The prefix already ends in a slash and the format adds another. -/
def moderatorProfileKey (modPubkey orgID : Bytes) : Bytes :=
  ascii "modprofile//" ++ modPubkey ++ slash :: orgID

def leaderProfileKey (leaderPubkey orgID : Bytes) : Bytes :=
  ascii "leaderprofile//" ++ leaderPubkey ++ slash :: orgID

structure Store where
  active : Option Bool := none
  params : Option Params := none
  stats : OrderedMap Bytes ReputationStats := ∅
  orgSet : OrderedMap Bytes ContributorOrgSet := ∅
  profile : OrderedMap Bytes ContributorProfile := ∅
  moderatorProfile : OrderedMap Bytes ModeratorProfile := ∅
  leaderProfile : OrderedMap Bytes LeaderProfile := ∅
  memory : OrderedMap Bytes StoredAttestedMemory := ∅
  deriving DecidableEq

def setParams (s : Store) (params : Params) : Store := { s with params := some params }

def getParams (s : Store) : Params := s.params.getD defaultParams

def activate (s : Store) : Store := { s with active := some true }

def deactivate (s : Store) : Store := { s with active := some false }

def isActive (s : Store) : Bool := s.active.getD false

section Memories

/-- A map of counters in statistics that are being changed; `none` when it is not there. -/
abbrev Tally := Option (OrderedMap Bytes UInt64)

/-- The map of statistics read back from the store. -/
def loadTally (m : OrderedMap Bytes UInt64) : Tally := if m = ∅ then none else some m

/-- Empty names are not counted. -/
def countName (tally : Tally) (name : Bytes) : Except Error Tally :=
  if name = [] then .ok tally
  else
    match tally with
    | none => .error .nilMapWrite
    | some m => .ok (some (m.bump name))

def countNames : Tally → List Bytes → Except Error Tally
  | tally, [] => .ok tally
  | tally, name :: names =>
    match countName tally name with
    | .error e => .error e
    | .ok tally' => countNames tally' names

def addMemory (tags provenances : Tally) (stats : ReputationStats) (memory : AttestedMemory) :
    Except Error ReputationStats :=
  match countNames tags memory.domainTags with
  | .error e => .error e
  | .ok tags' =>
    match countName provenances memory.provenance with
    | .error e => .error e
    | .ok provenances' =>
      .ok { stats with
        memoryCount := stats.memoryCount + 1
        difficultyBucket :=
          if memory.difficulty ≤ 10 then
            stats.difficultyBucket.modify memory.difficulty.toNat (· + 1)
          else stats.difficultyBucket
        domainTags := tags'.getD ∅
        provenanceBreakdown := provenances'.getD ∅
        xp := stats.xp + memory.difficulty.toUInt64 * memory.quality.toUInt64 }

/-- New statistics start with both maps; stored ones have them if they are not empty. -/
def addMemoryOf (s : Store) (developer : Bytes) (memory : AttestedMemory) :
    Except Error ReputationStats :=
  match s.stats.get (statsKey developer) with
  | none => addMemory (some ∅) (some ∅) { developerID := developer } memory
  | some stored =>
    addMemory (loadTally stored.domainTags) (loadTally stored.provenanceBreakdown) stored memory

def updateReputation (s : Store) (developer : Bytes) (memory : AttestedMemory) :
    Except Error Store :=
  if isActive s = false then .error .reputationNotActive
  else
    match memory.validate with
    | .error e => .error e
    | .ok () =>
      match addMemoryOf s developer memory with
      | .error e => .error e
      | .ok stats =>
        .ok { s with
          stats := s.stats.set (statsKey developer) stats
          memory := s.memory.set (memoryKey developer memory.memoryCID)
            (attestedMemoryToStored memory) }

def getReputation (s : Store) (developer : Bytes) : Except Error ReputationStats :=
  match s.stats.get (statsKey developer) with
  | none => .error .noStats
  | some stats => .ok stats

def ReputationStats.validate (r : ReputationStats) : Except Error Unit :=
  if r.developerID = [] then .error .invalidDeveloper else .ok ()

/-- The entries of the map in the order in which they are visited. What has been written before an
entry fails stays. -/
def initFromMap (s : Store) : List (Bytes × ReputationStats) → Store × Except Error Unit
  | [] => (s, .ok ())
  | (dev, stats) :: entries =>
    match stats.validate with
    | .error e => (s, .error e)
    | .ok () => initFromMap { s with stats := s.stats.set (statsKey dev) stats } entries

/-- The prefix does not end in a separator. -/
def memoryPrefix (developer : Bytes) : Bytes := ascii "memory/" ++ developer

def storedToAttestedMemory (stored : StoredAttestedMemory) : AttestedMemory where
  developer := stored.developer
  memoryCID := stored.memoryCid
  difficulty := stored.difficulty.toUInt8
  quality := stored.quality.toUInt8
  domainTags := stored.domainTags
  provenance := stored.provenance

/-- The memories whose keys start with the prefix, in key order. -/
def getDeveloperMemories (s : Store) (developer : Bytes) : List AttestedMemory :=
  (s.memory.under (memoryPrefix developer)).values.map storedToAttestedMemory

def getXP (s : Store) (developer : Bytes) : Except Error UInt64 :=
  (getReputation s developer).map ReputationStats.xp

end Memories

section Serves

def getContributorOrgSet (s : Store) (developer : Bytes) : ContributorOrgSet :=
  (s.orgSet.get (contributorOrgSetKey developer)).getD { contributorId := developer }

/-- The stats of a developer after one serve in an org that is new to them or not. -/
def countServe (params : Params) (stats : ReputationStats) (epoch : UInt64)
    (isSelfServe newOrg : Bool) : ReputationStats :=
  { stats with
    serveCount := stats.serveCount + 1
    selfServeCount := if isSelfServe then stats.selfServeCount + 1 else stats.selfServeCount
    serveXP := stats.serveXP +
      (if isSelfServe then params.selfServeXpPerServe else params.serveXpPerServe)
    firstSeenEpoch := if stats.firstSeenEpoch = 0 then epoch else stats.firstSeenEpoch
    orgBreadth := if newOrg then stats.orgBreadth + 1 else stats.orgBreadth }

def recordServe (s : Store) (contributorWallet orgID : Bytes) (epoch : UInt64)
    (isSelfServe : Bool) : Except Error Store :=
  if isActive s = false then .error .reputationNotActive
  else
    let stats := (s.stats.get (statsKey contributorWallet)).getD { developerID := contributorWallet }
    let orgSet := getContributorOrgSet s contributorWallet
    let newOrg := !orgSet.orgIds.contains orgID
    let orgSet' := if newOrg then { orgSet with orgIds := orgSet.orgIds ++ [orgID] } else orgSet
    .ok
      { s with
        orgSet := s.orgSet.set (contributorOrgSetKey contributorWallet) orgSet'
        stats := s.stats.set (statsKey contributorWallet)
          (countServe (getParams s) stats epoch isSelfServe newOrg) }

end Serves

section Profiles

/-- The common shape of the contributor counters: start a missing profile, name it, count. -/
def modifyContributorProfile (s : Store) (contributorID orgID : Bytes)
    (fn : ContributorProfile → ContributorProfile) : Store :=
  let profile := (s.profile.get (contributorProfileKey contributorID orgID)).getD {}
  let named := if profile.contributorId = [] then { profile with contributorId := contributorID }
    else profile
  { s with profile := s.profile.set (contributorProfileKey contributorID orgID) (fn named) }

def incrementContribution (s : Store) (contributorID orgID : Bytes) : Store :=
  modifyContributorProfile s contributorID orgID fun p =>
    { p with totalApprovedMemories := p.totalApprovedMemories + 1 }

def incrementServe (s : Store) (contributorID orgID : Bytes) (count : UInt64) : Store :=
  modifyContributorProfile s contributorID orgID fun p =>
    { p with totalServesReceived := p.totalServesReceived + count }

def recordBan (s : Store) (contributorID orgID : Bytes) : Store :=
  modifyContributorProfile s contributorID orgID fun p =>
    { p with totalReportsUpheldAgainst := p.totalReportsUpheldAgainst + 1 }

/-- What is added to the counters of a contributor. -/
structure ContributorDelta where
  approvedMemories : Int64
  servesReceived : Int64
  denialsReceived : Int64
  reportsFiledAgainst : Int64
  reportsUpheldAgainst : Int64
  deriving DecidableEq

/-- The sum of a counter and a signed number, taken in signed words. -/
def addDelta (total : UInt64) (delta : Int64) : UInt64 := (total.toInt64 + delta).toUInt64

/-- The aggregates over all orgs are in the profile for the org without a name. -/
def updateContributorAggregate (s : Store) (contributorID : Bytes) (delta : ContributorDelta) :
    Store :=
  modifyContributorProfile s contributorID [] fun p =>
    { p with
      totalApprovedMemories := addDelta p.totalApprovedMemories delta.approvedMemories
      totalServesReceived := addDelta p.totalServesReceived delta.servesReceived
      totalDenialsReceived := addDelta p.totalDenialsReceived delta.denialsReceived
      totalReportsFiledAgainst := addDelta p.totalReportsFiledAgainst delta.reportsFiledAgainst
      totalReportsUpheldAgainst := addDelta p.totalReportsUpheldAgainst delta.reportsUpheldAgainst }

/-- The first membership of the org is changed; `none` when there is none. -/
def modifyMembership (orgID : Bytes) (fn : OrgMembership → OrgMembership) :
    List OrgMembership → Option (List OrgMembership)
  | [] => none
  | m :: ms =>
    if m.orgId = orgID then some (fn m :: ms) else (modifyMembership orgID fn ms).map (m :: ·)

def addContributorOrgMembership (s : Store) (contributorID orgID role : Bytes)
    (joinedEpoch : UInt64) : Store :=
  modifyContributorProfile s contributorID [] fun p =>
    { p with
      memberships :=
        match modifyMembership orgID (fun m => { m with role := role, active := true })
          p.memberships with
        | some memberships => memberships
        | none => p.memberships ++ [⟨orgID, role, joinedEpoch, true⟩] }

/-- The common shape of the changes of one membership that has to be there. -/
def changeMembership (s : Store) (contributorID orgID : Bytes)
    (fn : OrgMembership → OrgMembership) : Except Error Store :=
  match s.profile.get (contributorProfileKey contributorID []) with
  | none => .error .profileNotFound
  | some p =>
    match modifyMembership orgID fn p.memberships with
    | none => .error .membershipNotFound
    | some memberships =>
      .ok { s with
        profile := s.profile.set (contributorProfileKey contributorID [])
          { p with memberships := memberships } }

def updateContributorOrgRole (s : Store) (contributorID orgID newRole : Bytes) :
    Except Error Store :=
  changeMembership s contributorID orgID fun m => { m with role := newRole }

def markContributorOrgInactive (s : Store) (contributorID orgID : Bytes) : Except Error Store :=
  changeMembership s contributorID orgID fun m => { m with active := false }

def recordContributorActivity (s : Store) (contributorID : Bytes) (epoch : UInt64) : Store :=
  modifyContributorProfile s contributorID [] fun p =>
    { p with
      firstContributionEpoch :=
        if p.firstContributionEpoch = 0 then epoch else p.firstContributionEpoch
      lastContributionEpoch := epoch }

def getContributorProfile (s : Store) (contributorID orgID : Bytes) : ContributorProfile :=
  (s.profile.get (contributorProfileKey contributorID orgID)).getD
    { contributorId := contributorID }

def getModeratorProfile (s : Store) (modPubkey orgID : Bytes) : ModeratorProfile :=
  (s.moderatorProfile.get (moderatorProfileKey modPubkey orgID)).getD
    { moderatorPubkey := modPubkey, orgId := orgID }

/-- The profile is written under the names it carries. -/
def setModeratorProfile (s : Store) (p : ModeratorProfile) : Store :=
  { s with
    moderatorProfile := s.moderatorProfile.set (moderatorProfileKey p.moderatorPubkey p.orgId) p }

def maxApprovedHashIndex : Nat := 1000

/-- The oldest hash makes room for the new one. -/
def incrementModeratorApproval (s : Store) (modPubkey orgID memoryHash : Bytes) (epoch : UInt64) :
    Store :=
  let profile := getModeratorProfile s modPubkey orgID
  let hashes :=
    if profile.approvedMemoryHashes.length ≥ maxApprovedHashIndex then
      profile.approvedMemoryHashes.drop 1
    else profile.approvedMemoryHashes
  setModeratorProfile s
    { profile with
      totalApprovals := profile.totalApprovals + 1
      approvedMemoryHashes := hashes ++ [memoryHash]
      firstApprovalEpoch :=
        if profile.firstApprovalEpoch = 0 then epoch else profile.firstApprovalEpoch
      lastApprovalEpoch := epoch }

def incrementModeratorUpheld (s : Store) (modPubkey orgID : Bytes) : Store :=
  let profile := getModeratorProfile s modPubkey orgID
  setModeratorProfile s
    { profile with approvalsLaterUpheldCount := profile.approvalsLaterUpheldCount + 1 }

def getLeaderProfile (s : Store) (leaderPubkey orgID : Bytes) : LeaderProfile :=
  (s.leaderProfile.get (leaderProfileKey leaderPubkey orgID)).getD
    { leaderPubkey := leaderPubkey, orgId := orgID }

def setLeaderProfile (s : Store) (p : LeaderProfile) : Store :=
  { s with leaderProfile := s.leaderProfile.set (leaderProfileKey p.leaderPubkey p.orgId) p }

def incrementLeaderChainCommit (s : Store) (leaderPubkey orgID : Bytes) : Store :=
  let profile := getLeaderProfile s leaderPubkey orgID
  setLeaderProfile s
    { profile with totalChainCommitsSigned := profile.totalChainCommitsSigned + 1 }

def incrementLeaderUpheldReport (s : Store) (leaderPubkey orgID : Bytes) : Store :=
  let profile := getLeaderProfile s leaderPubkey orgID
  setLeaderProfile s
    { profile with totalUpheldReportsCommitted := profile.totalUpheldReportsCommitted + 1 }

def setLeaderCurrent (s : Store) (leaderPubkey orgID : Bytes) (current : Bool) : Store :=
  setLeaderProfile s { getLeaderProfile s leaderPubkey orgID with currentLeader := current }

end Profiles

section Genesis

structure GenesisState where
  active : Bool
  stats : List ReputationStats := []
  contributorOrgSets : List ContributorOrgSet := []
  deriving DecidableEq

def defaultGenesis : GenesisState := { active := true }

/-- Genesis only ever raises the flag. -/
def initGenesisState (s : Store) (g : GenesisState) : Store :=
  { s with
    active := if g.active then some true else s.active
    stats := g.stats.foldl (fun m stats => m.set (statsKey stats.developerID) stats) s.stats
    orgSet := g.contributorOrgSets.foldl
      (fun m orgSet => m.set (contributorOrgSetKey orgSet.contributorId) orgSet) s.orgSet }

/-- The parameters are not part of the genesis state. -/
def initGenesis (g : GenesisState) : Store := initGenesisState (setParams {} defaultParams) g

def exportGenesisState (s : Store) : GenesisState where
  active := isActive s
  stats :=
    (s.stats.values.foldl (fun m stats => m.set stats.developerID stats)
      (∅ : OrderedMap Bytes ReputationStats)).values
  contributorOrgSets := s.orgSet.values

end Genesis

end WeVibeChain.Reputation
