import WeVibeChain.MemoryDecoding
import WeVibeChain.ReputationKeeper
import WeVibeChain.Shared.Tables

/-!
# x/reputation: the lists of profiles

The keys of profiles are made with one separator more than the scans of them expect,
and the scans have a percent sign where they mean any text. A scan has no end: it
meets every record from its first key on and keeps what decodes as a profile. The
record of a moderator always decodes as that of a leader.

Where a scan begins is decided by a few bytes, since a percent sign comes before the
separator. A scan for an org meets every profile of its kind. A scan for a pubkey
meets all of them or none, depending on the first byte of the pubkey.
-/

set_option autoImplicit false

namespace WeVibeChain.Reputation

open Bytes OrderedMap Wire
open Memory (boolWord)

section Records

/-- A value of any key family behind the flag. -/
inductive Entry where
  | leaderProfile (value : LeaderProfile)
  | memory (value : StoredAttestedMemory)
  | moderatorProfile (value : ModeratorProfile)
  | orgSet (value : ContributorOrgSet)
  | params (value : Params)
  | profile (value : ContributorProfile)
  | stats (value : ReputationStats)
  deriving DecidableEq

/-- The records in key order. The flag of the module lies before all of them. -/
def Store.entries (s : Store) : List (Bytes × Entry) :=
  s.leaderProfile.entries.map (fun e => (e.1, .leaderProfile e.2)) ++
    s.memory.entries.map (fun e => (e.1, .memory e.2)) ++
    s.moderatorProfile.entries.map (fun e => (e.1, .moderatorProfile e.2)) ++
    s.orgSet.entries.map (fun e => (e.1, .orgSet e.2)) ++
    s.params.toList.map (fun v => (ascii "params", .params v)) ++
    s.profile.entries.map (fun e => (e.1, .profile e.2)) ++
    s.stats.entries.map (fun e => (e.1, .stats e.2))

/-- An iterator that starts at `lo` and has no end. -/
def Store.iteratorFrom (s : Store) (lo : Bytes) : List (Bytes × Entry) :=
  s.entries.filter fun e => lo ≤ e.1

def leaderFields (p : LeaderProfile) : List Field :=
  bytesField 1 p.leaderPubkey ++ (bytesField 2 p.orgId ++ (varintField 3 p.totalChainCommitsSigned ++
    (varintField 4 p.totalUpheldReportsCommitted ++ (varintField 6 p.firstLeadershipEpoch ++
    (varintField 7 (boolWord p.currentLeader) ++ [])))))

def memoryFields (m : StoredAttestedMemory) : List Field :=
  bytesField 1 m.developer ++ (bytesField 2 m.memoryCid ++ (varintField 3 m.difficulty.toUInt64 ++
    (varintField 4 m.quality.toUInt64 ++ (repeatedField 5 m.domainTags ++
    (bytesField 6 m.provenance ++ [])))))

def moderatorFields (p : ModeratorProfile) : List Field :=
  bytesField 1 p.moderatorPubkey ++ (bytesField 2 p.orgId ++ (varintField 3 p.totalApprovals ++
    (varintField 4 p.approvalsLaterUpheldCount ++ (repeatedField 5 p.approvedMemoryHashes ++
    (varintField 6 p.firstApprovalEpoch ++ (varintField 7 p.lastApprovalEpoch ++ []))))))

def orgSetFields (o : ContributorOrgSet) : List Field :=
  bytesField 1 o.contributorId ++ (repeatedField 2 o.orgIds ++ [])

def paramsFields (p : Params) : List Field :=
  varintField 1 (boolWord p.active) ++ (varintField 2 p.maxDifficulty.toUInt64 ++
    (varintField 3 p.maxQuality.toUInt64 ++ (varintField 4 p.serveXpPerServe ++
    (varintField 5 p.selfServeXpPerServe ++ []))))

def membershipFields (m : OrgMembership) : List Field :=
  bytesField 1 m.orgId ++ (bytesField 2 m.role ++ (varintField 3 m.joinedEpoch ++
    (varintField 4 (boolWord m.active) ++ [])))

def profileFields (p : ContributorProfile) : List Field :=
  bytesField 1 p.contributorId ++ (varintField 2 p.totalApprovedMemories ++
    (varintField 3 p.totalServesReceived ++ (varintField 4 p.totalDenialsReceived ++
    (varintField 5 p.totalReportsFiledAgainst ++ (varintField 6 p.totalReportsUpheldAgainst ++
    (repeatedField 7 (p.memberships.map fun m => write (membershipFields m)) ++
    (varintField 8 p.firstContributionEpoch ++ (varintField 9 p.lastContributionEpoch ++ []))))))))

/-- Every entry of a map is a record of its key and its value. -/
def tallyField (number : Nat) (m : OrderedMap Bytes UInt64) : List Field :=
  repeatedField number (m.entries.map fun e => write [⟨1, .bytes e.1⟩, ⟨2, .varint e.2⟩])

/-- The numbers of the histogram are written one after the other in one byte string. -/
def statsFields (r : ReputationStats) : List Field :=
  bytesField 1 r.developerID ++ (varintField 2 r.memoryCount ++
    (bytesField 3 (r.difficultyBucket.flatMap fun n => writeVarint 10 n.toNat) ++
    (tallyField 4 r.domainTags ++ (tallyField 5 r.provenanceBreakdown ++ (varintField 6 r.xp ++
    (varintField 7 r.serveCount ++ (varintField 8 r.selfServeCount ++ (varintField 9 r.orgBreadth ++
    (varintField 10 r.firstSeenEpoch ++ (varintField 11 r.serveXP ++ []))))))))))

def Entry.fields : Entry → List Field
  | leaderProfile p => leaderFields p
  | memory m => memoryFields m
  | moderatorProfile p => moderatorFields p
  | orgSet o => orgSetFields o
  | params p => paramsFields p
  | profile p => profileFields p
  | stats r => statsFields r

end Records

section Reading

/-- A field of the record's type must have the right form, and any other field is skipped. -/
def readLeaderField (p : LeaderProfile) : Field → Option LeaderProfile
  | ⟨1, .bytes b⟩ => some { p with leaderPubkey := b }
  | ⟨2, .bytes b⟩ => some { p with orgId := b }
  | ⟨3, .varint n⟩ => some { p with totalChainCommitsSigned := n }
  | ⟨4, .varint n⟩ => some { p with totalUpheldReportsCommitted := n }
  | ⟨6, .varint n⟩ => some { p with firstLeadershipEpoch := n }
  | ⟨7, .varint n⟩ => some { p with currentLeader := n ≠ 0 }
  | ⟨number, _⟩ => if number ∈ [1, 2, 3, 4, 6, 7] then none else some p

def readModeratorField (p : ModeratorProfile) : Field → Option ModeratorProfile
  | ⟨1, .bytes b⟩ => some { p with moderatorPubkey := b }
  | ⟨2, .bytes b⟩ => some { p with orgId := b }
  | ⟨3, .varint n⟩ => some { p with totalApprovals := n }
  | ⟨4, .varint n⟩ => some { p with approvalsLaterUpheldCount := n }
  | ⟨5, .bytes b⟩ => some { p with approvedMemoryHashes := p.approvedMemoryHashes ++ [b] }
  | ⟨6, .varint n⟩ => some { p with firstApprovalEpoch := n }
  | ⟨7, .varint n⟩ => some { p with lastApprovalEpoch := n }
  | ⟨number, _⟩ => if number ∈ [1, 2, 3, 4, 5, 6, 7] then none else some p

def decodeLeader : Entry → Option LeaderProfile
  | .leaderProfile p => some p
  | e => readInto readLeaderField { leaderPubkey := [], orgId := [] } e.fields

def decodeModerator : Entry → Option ModeratorProfile
  | .moderatorProfile p => some p
  | e => readInto readModeratorField { moderatorPubkey := [], orgId := [] } e.fields

/-- What the decoder of leaders makes of a moderator. -/
def moderatorAsLeader (p : ModeratorProfile) : LeaderProfile where
  leaderPubkey := p.moderatorPubkey
  orgId := p.orgId
  totalChainCommitsSigned := p.totalApprovals
  totalUpheldReportsCommitted := p.approvalsLaterUpheldCount
  firstLeadershipEpoch := p.firstApprovalEpoch
  currentLeader := p.lastApprovalEpoch ≠ 0

theorem decodeLeader_moderator (p : ModeratorProfile) :
    decodeLeader (.moderatorProfile p) = some (moderatorAsLeader p) := by
  change readInto readLeaderField _ (moderatorFields p) = _
  unfold moderatorFields
  refine readInto_bytesField ?_
  refine readInto_bytesField ?_
  refine readInto_varintField ?_
  refine readInto_varintField ?_
  -- a leader has no field with the number of the hashes
  refine readInto_repeatedField ?_
  refine readInto_varintField ?_
  refine readInto_varintField ?_
  rfl

end Reading

section Lists

/-- The common shape of the four lists. -/
def listProfiles {ρ : Type} (decode : Entry → Option ρ) (s : Store) (start : Bytes) : List ρ :=
  (s.iteratorFrom start).filterMap fun e => decode e.2

def leaderOrgStart (orgID : Bytes) : Bytes := ascii "leaderprofile/%/" ++ orgID

def leaderPubkeyStart (leaderPubkey : Bytes) : Bytes :=
  ascii "leaderprofile/" ++ leaderPubkey ++ ascii "/%"

def moderatorOrgStart (orgID : Bytes) : Bytes := ascii "modprofile/%/" ++ orgID

def moderatorPubkeyStart (modPubkey : Bytes) : Bytes :=
  ascii "modprofile/" ++ modPubkey ++ ascii "/%"

def listLeaderProfilesByOrg (s : Store) (orgID : Bytes) : List LeaderProfile :=
  listProfiles decodeLeader s (leaderOrgStart orgID)

def listLeaderProfilesByPubkey (s : Store) (leaderPubkey : Bytes) : List LeaderProfile :=
  listProfiles decodeLeader s (leaderPubkeyStart leaderPubkey)

def listModeratorProfilesByOrg (s : Store) (orgID : Bytes) : List ModeratorProfile :=
  listProfiles decodeModerator s (moderatorOrgStart orgID)

def listModeratorProfilesByPubkey (s : Store) (modPubkey : Bytes) : List ModeratorProfile :=
  listProfiles decodeModerator s (moderatorPubkeyStart modPubkey)

end Lists

section Order
variable (tag orgID pubkey pubkey' orgID' : Bytes)

theorem append_le_append_iff (p a b : Bytes) : p ++ a ≤ p ++ b ↔ a ≤ b := by
  rw [← not_lt, ← not_lt, append_lt_append_iff]

def percent : UInt8 := 37

/-- A percent sign comes before the separator. -/
theorem orgStart_le :
    tag ++ percent :: slash :: orgID ≤ tag ++ slash :: (pubkey' ++ slash :: orgID') := by
  rw [append_le_append_iff]
  exact cons_le_cons_of_lt (by decide) _ _

/-- Whether the scan for a pubkey meets the profiles of another. Where the scan has the first byte
of the pubkey the keys have a separator; the scan for no pubkey goes on to the percent sign. -/
def Meets (pubkey pubkey' : Bytes) : Prop :=
  match pubkey with
  | [] => percent ≤ pubkey'.headD slash
  | b :: _ => b < slash

instance instDecidableMeets : Decidable (Meets pubkey pubkey') :=
  match pubkey with
  | [] => inferInstanceAs (Decidable (percent ≤ pubkey'.headD slash))
  | b :: _ => inferInstanceAs (Decidable (b < slash))

theorem singleton_le_cons_iff {x y : UInt8} {rest : Bytes} : [x] ≤ y :: rest ↔ x ≤ y := by
  rw [← not_lt, ← not_lt, List.cons_lt_cons_iff]
  simp

variable {pubkey}

theorem pubkeyStart_le_iff (h : slash ∉ pubkey) :
    tag ++ (pubkey ++ [slash, percent]) ≤ tag ++ slash :: (pubkey' ++ slash :: orgID') ↔
      Meets pubkey pubkey' := by
  rw [append_le_append_iff]
  unfold Meets
  cases pubkey with
  | nil =>
    have hstart : [] ++ [slash, percent] = [slash] ++ [percent] := rfl
    have hkey : slash :: (pubkey' ++ slash :: orgID') = [slash] ++ (pubkey' ++ slash :: orgID') := rfl
    rw [hstart, hkey, append_le_append_iff]
    cases pubkey' with
    | nil => exact singleton_le_cons_iff
    | cons b rest => exact singleton_le_cons_iff
  | cons b rest =>
    have hb : b ≠ slash := fun heq => h (heq ▸ List.mem_cons_self)
    constructor
    · intro hle
      rcases lt_or_gt_of_ne hb with hlt | hgt
      · exact hlt
      · exact absurd (cons_lt_cons_of_lt hgt _ _) (not_lt.mpr hle)
    · intro hlt
      exact cons_le_cons_of_lt hlt _ _

end Order

section Profiles
variable {s : Store}

/-- The calls that store profiles. -/
inductive ProfileCall where
  | setLeaderProfile (profile : LeaderProfile)
  | setModeratorProfile (profile : ModeratorProfile)

def ProfileCall.apply (s : Store) : ProfileCall → Store
  | .setLeaderProfile profile => Reputation.setLeaderProfile s profile
  | .setModeratorProfile profile => Reputation.setModeratorProfile s profile

/-- The store in which nothing but the profiles is stored. -/
def storedProfiles (calls : List ProfileCall) : Store := calls.foldl ProfileCall.apply {}

def LeaderProfile.key (p : LeaderProfile) : Bytes := leaderProfileKey p.leaderPubkey p.orgId

def ModeratorProfile.key (p : ModeratorProfile) : Bytes :=
  moderatorProfileKey p.moderatorPubkey p.orgId

theorem LeaderProfile.key_eq (p : LeaderProfile) :
    p.key = ascii "leaderprofile/" ++ slash :: (p.leaderPubkey ++ slash :: p.orgId) := by
  simp [LeaderProfile.key, leaderProfileKey, ascii, slash]

theorem ModeratorProfile.key_eq (p : ModeratorProfile) :
    p.key = ascii "modprofile/" ++ slash :: (p.moderatorPubkey ++ slash :: p.orgId) := by
  simp [ModeratorProfile.key, moderatorProfileKey, ascii, slash]

/-- Only profiles are stored, each under the names it carries. -/
structure OnlyProfiles (s : Store) : Prop where
  memory : s.memory = ∅
  orgSet : s.orgSet = ∅
  params : s.params = none
  profile : s.profile = ∅
  stats : s.stats = ∅
  leaders : s.leaderProfile.Forall fun k p => p.key = k
  moderators : s.moderatorProfile.Forall fun k p => p.key = k

theorem onlyProfiles_stored (calls : List ProfileCall) : OnlyProfiles (storedProfiles calls) := by
  induction calls using List.reverseRecOn with
  | nil => exact ⟨rfl, rfl, rfl, rfl, rfl, forall_empty, forall_empty⟩
  | append_singleton calls call ih =>
    rw [storedProfiles, List.foldl_append]
    cases call with
    | setLeaderProfile profile => exact { ih with leaders := ih.leaders.set rfl }
    | setModeratorProfile profile => exact { ih with moderators := ih.moderators.set rfl }

/-- What a scan that begins among the leaders returns. -/
theorem OnlyProfiles.list_leaders (hs : OnlyProfiles s) (rest : Bytes) :
    listProfiles decodeLeader s (ascii "leaderprofile/" ++ rest) =
      (s.leaderProfile.values.filter fun p => ascii "leaderprofile/" ++ rest ≤ p.key) ++
        s.moderatorProfile.values.map moderatorAsLeader := by
  have hmoderators : s.moderatorProfile.values.filter
      (fun p => ascii "leaderprofile/" ++ rest ≤ p.key) = s.moderatorProfile.values := by
    rw [List.filter_eq_self]
    intro p _
    rw [ModeratorProfile.key_eq]
    exact decide_eq_true (cons_le_cons_of_lt (by decide) _ _)
  unfold listProfiles Store.iteratorFrom Store.entries
  simp only [hs.memory, hs.orgSet, hs.params, hs.profile, hs.stats, entries_empty, List.map_nil,
    Option.toList_none, List.append_nil, List.filter_append, List.filterMap_append]
  rw [scan_decode hs.leaders, scan_decode hs.moderators, hmoderators]
  simp only [decodeLeader_moderator, List.filterMap_eq_map']
  exact congrArg (· ++ _) List.filterMap_some

/-- What a scan that begins among the moderators returns. -/
theorem OnlyProfiles.list_moderators (hs : OnlyProfiles s) (rest : Bytes) :
    listProfiles decodeModerator s (ascii "modprofile/" ++ rest) =
      s.moderatorProfile.values.filter fun p => ascii "modprofile/" ++ rest ≤ p.key := by
  have hleaders : s.leaderProfile.Forall fun k _ => k < ascii "modprofile/" ++ rest := by
    intro k p hget
    rw [← hs.leaders k p hget, LeaderProfile.key_eq]
    exact cons_lt_cons_of_lt (by decide) _ _
  unfold listProfiles Store.iteratorFrom Store.entries
  simp only [hs.memory, hs.orgSet, hs.params, hs.profile, hs.stats, entries_empty, List.map_nil,
    Option.toList_none, List.append_nil, List.filter_append, List.filterMap_append]
  rw [scan_eq_nil hleaders, scan_decode hs.moderators]
  exact List.filterMap_some

end Profiles

section Exactness
variable {s : Store} (orgID : Bytes) {pubkey : Bytes}

theorem OnlyProfiles.leaders_by_org (hs : OnlyProfiles s) :
    (listLeaderProfilesByOrg s orgID).Perm
        (s.leaderProfile.values.filter fun p => p.orgId = orgID) ↔
      (∀ p ∈ s.leaderProfile.values, p.orgId = orgID) ∧ s.moderatorProfile.values = [] := by
  have hstart : leaderOrgStart orgID = ascii "leaderprofile/" ++ percent :: slash :: orgID := by
    simp [leaderOrgStart, ascii, slash, percent]
  have hle : ∀ p : LeaderProfile, ascii "leaderprofile/" ++ percent :: slash :: orgID ≤ p.key := by
    intro p
    rw [LeaderProfile.key_eq]
    exact orgStart_le _ _ _ _
  unfold listLeaderProfilesByOrg
  rw [hstart, hs.list_leaders, filter_append_perm_filter_iff]
  simp [hle]

theorem OnlyProfiles.moderators_by_org (hs : OnlyProfiles s) :
    (listModeratorProfilesByOrg s orgID).Perm
        (s.moderatorProfile.values.filter fun p => p.orgId = orgID) ↔
      ∀ p ∈ s.moderatorProfile.values, p.orgId = orgID := by
  have hstart : moderatorOrgStart orgID = ascii "modprofile/" ++ percent :: slash :: orgID := by
    simp [moderatorOrgStart, ascii, slash, percent]
  have hle : ∀ p : ModeratorProfile, ascii "modprofile/" ++ percent :: slash :: orgID ≤ p.key := by
    intro p
    rw [ModeratorProfile.key_eq]
    exact orgStart_le _ _ _ _
  unfold listModeratorProfilesByOrg
  rw [hstart, hs.list_moderators, ← List.append_nil (List.filter _ _),
    filter_append_perm_filter_iff]
  simp [hle]

theorem OnlyProfiles.leaders_by_pubkey (hs : OnlyProfiles s) (hpubkey : slash ∉ pubkey) :
    (listLeaderProfilesByPubkey s pubkey).Perm
        (s.leaderProfile.values.filter fun p => p.leaderPubkey = pubkey) ↔
      (∀ p ∈ s.leaderProfile.values, Meets pubkey p.leaderPubkey → p.leaderPubkey = pubkey) ∧
        (s.moderatorProfile.values.map moderatorAsLeader).Perm
          (s.leaderProfile.values.filter fun p =>
            p.leaderPubkey = pubkey ∧ ¬ Meets pubkey p.leaderPubkey) := by
  have hmeets : ∀ p : LeaderProfile,
      ascii "leaderprofile/" ++ (pubkey ++ [slash, percent]) ≤ p.key ↔
        Meets pubkey p.leaderPubkey := by
    intro p
    rw [LeaderProfile.key_eq]
    exact pubkeyStart_le_iff _ _ _ hpubkey
  have hstart : leaderPubkeyStart pubkey =
      ascii "leaderprofile/" ++ (pubkey ++ [slash, percent]) := by
    simp [leaderPubkeyStart, ascii, slash, percent]
  unfold listLeaderProfilesByPubkey
  rw [hstart, hs.list_leaders]
  simp only [hmeets]
  exact filter_append_perm_filter_iff

theorem OnlyProfiles.moderators_by_pubkey (hs : OnlyProfiles s) (hpubkey : slash ∉ pubkey) :
    (listModeratorProfilesByPubkey s pubkey).Perm
        (s.moderatorProfile.values.filter fun p => p.moderatorPubkey = pubkey) ↔
      ∀ p ∈ s.moderatorProfile.values,
        Meets pubkey p.moderatorPubkey ↔ p.moderatorPubkey = pubkey := by
  have hmeets : ∀ p : ModeratorProfile,
      ascii "modprofile/" ++ (pubkey ++ [slash, percent]) ≤ p.key ↔
        Meets pubkey p.moderatorPubkey := by
    intro p
    rw [ModeratorProfile.key_eq]
    exact pubkeyStart_le_iff _ _ _ hpubkey
  have hstart : moderatorPubkeyStart pubkey =
      ascii "modprofile/" ++ (pubkey ++ [slash, percent]) := by
    simp [moderatorPubkeyStart, ascii, slash, percent]
  unfold listModeratorProfilesByPubkey
  rw [hstart, hs.list_moderators]
  simp only [hmeets]
  rw [← List.append_nil (List.filter _ _), filter_append_perm_filter_iff, List.nil_perm,
    List.filter_eq_nil_iff, ← forall₂_and]
  refine forall₂_congr fun p _ => ?_
  rw [decide_eq_true_eq, not_and, not_not]
  exact ⟨fun h => ⟨h.1, h.2⟩, fun h => ⟨h.1, h.2⟩⟩

/-- For all profiles that were stored, when each of the four lists is exact. -/
theorem profile_lists_exact_iff (calls : List ProfileCall) (orgID pubkey : Bytes)
    (hpubkey : slash ∉ pubkey) :
    ((listLeaderProfilesByOrg (storedProfiles calls) orgID).Perm
        ((storedProfiles calls).leaderProfile.values.filter fun p => p.orgId = orgID) ↔
      (∀ p ∈ (storedProfiles calls).leaderProfile.values, p.orgId = orgID) ∧
        (storedProfiles calls).moderatorProfile.values = []) ∧
    ((listModeratorProfilesByOrg (storedProfiles calls) orgID).Perm
        ((storedProfiles calls).moderatorProfile.values.filter fun p => p.orgId = orgID) ↔
      ∀ p ∈ (storedProfiles calls).moderatorProfile.values, p.orgId = orgID) ∧
    ((listLeaderProfilesByPubkey (storedProfiles calls) pubkey).Perm
        ((storedProfiles calls).leaderProfile.values.filter fun p => p.leaderPubkey = pubkey) ↔
      (∀ p ∈ (storedProfiles calls).leaderProfile.values,
          Meets pubkey p.leaderPubkey → p.leaderPubkey = pubkey) ∧
        ((storedProfiles calls).moderatorProfile.values.map moderatorAsLeader).Perm
          ((storedProfiles calls).leaderProfile.values.filter fun p =>
            p.leaderPubkey = pubkey ∧ ¬ Meets pubkey p.leaderPubkey)) ∧
    ((listModeratorProfilesByPubkey (storedProfiles calls) pubkey).Perm
        ((storedProfiles calls).moderatorProfile.values.filter fun p =>
          p.moderatorPubkey = pubkey) ↔
      ∀ p ∈ (storedProfiles calls).moderatorProfile.values,
        Meets pubkey p.moderatorPubkey ↔ p.moderatorPubkey = pubkey) := by
  have hs := onlyProfiles_stored calls
  exact ⟨hs.leaders_by_org orgID, hs.moderators_by_org orgID, hs.leaders_by_pubkey hpubkey,
    hs.moderators_by_pubkey hpubkey⟩

/-- The leader of one org and a moderator of another. -/
def sampleProfiles : List ProfileCall :=
  [.setLeaderProfile { leaderPubkey := ascii "k", orgId := ascii "a" },
    .setModeratorProfile { moderatorPubkey := ascii "m", orgId := ascii "b" }]

/-- A list for an org without profiles has the leader of another and the moderator as a leader; a
list for the pubkey of the leader has the moderator and not the leader; and a list for the pubkey
of the moderator is empty. -/
theorem sampleProfiles_lists :
    (storedProfiles sampleProfiles).leaderProfile.values =
        [{ leaderPubkey := ascii "k", orgId := ascii "a" }] ∧
      (storedProfiles sampleProfiles).moderatorProfile.values =
        [{ moderatorPubkey := ascii "m", orgId := ascii "b" }] ∧
      listLeaderProfilesByOrg (storedProfiles sampleProfiles) (ascii "c") =
        [{ leaderPubkey := ascii "k", orgId := ascii "a" },
          { leaderPubkey := ascii "m", orgId := ascii "b" }] ∧
      listLeaderProfilesByPubkey (storedProfiles sampleProfiles) (ascii "k") =
        [{ leaderPubkey := ascii "m", orgId := ascii "b" }] ∧
      listModeratorProfilesByOrg (storedProfiles sampleProfiles) (ascii "c") =
        [{ moderatorPubkey := ascii "m", orgId := ascii "b" }] ∧
      listModeratorProfilesByPubkey (storedProfiles sampleProfiles) (ascii "m") = [] := by
  decide +kernel

/-- The moderators of the orgs. -/
def sampleModerators (names : List (String × String)) : List ProfileCall :=
  names.map fun n => .setModeratorProfile { moderatorPubkey := ascii n.1, orgId := ascii n.2 }

/-- With moderators of one org only, the list of its moderators is exact; and so is the list for the
pubkey of one moderator of two orgs, if the pubkey begins with a minus sign. -/
theorem sampleModerator_listed :
    (listModeratorProfilesByOrg (storedProfiles (sampleModerators [("m", "b"), ("n", "b")]))
        (ascii "b")).Perm
      ((storedProfiles (sampleModerators [("m", "b"), ("n", "b")])
        ).moderatorProfile.values.filter fun p => p.orgId = ascii "b") ∧
    (listModeratorProfilesByPubkey (storedProfiles (sampleModerators [("-m", "a"), ("-m", "b")]))
        (ascii "-m")).Perm
      ((storedProfiles (sampleModerators [("-m", "a"), ("-m", "b")])
        ).moderatorProfile.values.filter fun p => p.moderatorPubkey = ascii "-m") ∧
    (listModeratorProfilesByPubkey (storedProfiles (sampleModerators [("-m", "a"), ("-m", "b")]))
        (ascii "-m")).length = 2 := by
  have hone := profile_lists_exact_iff (sampleModerators [("m", "b"), ("n", "b")]) (ascii "b")
    (ascii "m") (by decide)
  have htwo := profile_lists_exact_iff (sampleModerators [("-m", "a"), ("-m", "b")]) (ascii "a")
    (ascii "-m") (by decide)
  exact ⟨hone.2.1.mpr (by decide +kernel), htwo.2.2.2.mpr (by decide +kernel), by decide +kernel⟩

end Exactness

end WeVibeChain.Reputation
