import WeVibeChain.ReputationMsgServer
import WeVibeChain.Shared.Tables

/-!
# x/reputation: genesis export and import

The flag, the statistics and the org sets are exported. The attested memories and
the profiles of contributors, leaders and moderators are not, and the import sets
the parameters to their defaults whatever they were.

A run takes the messages and every call of the keeper that writes.
-/

set_option autoImplicit false

namespace WeVibeChain.Reputation

open Bytes OrderedMap

section Runs

/-- The calls of the keeper that write. -/
inductive Write where
  | setParams (params : Params)
  | activate
  | deactivate
  | updateReputation (developer : Bytes) (memory : AttestedMemory)
  | initFromMap (entries : List (Bytes × ReputationStats))
  | recordServe (contributorWallet orgID : Bytes) (epoch : UInt64) (isSelfServe : Bool)
  | incrementContribution (contributorID orgID : Bytes)
  | incrementServe (contributorID orgID : Bytes) (count : UInt64)
  | recordBan (contributorID orgID : Bytes)
  | updateContributorAggregate (contributorID : Bytes) (delta : ContributorDelta)
  | addContributorOrgMembership (contributorID orgID role : Bytes) (joinedEpoch : UInt64)
  | updateContributorOrgRole (contributorID orgID newRole : Bytes)
  | markContributorOrgInactive (contributorID orgID : Bytes)
  | recordContributorActivity (contributorID : Bytes) (epoch : UInt64)
  | setModeratorProfile (profile : ModeratorProfile)
  | incrementModeratorApproval (modPubkey orgID memoryHash : Bytes) (epoch : UInt64)
  | incrementModeratorUpheld (modPubkey orgID : Bytes)
  | setLeaderProfile (profile : LeaderProfile)
  | incrementLeaderChainCommit (leaderPubkey orgID : Bytes)
  | incrementLeaderUpheldReport (leaderPubkey orgID : Bytes)
  | setLeaderCurrent (leaderPubkey orgID : Bytes) (current : Bool)

/-- A call that fails before it writes. -/
def attempt (s : Store) : Except Error Store → Store × Except Error Unit
  | .error e => (s, .error e)
  | .ok s' => (s', .ok ())

def perform (s : Store) : Write → Store × Except Error Unit
  | .setParams params => (setParams s params, .ok ())
  | .activate => (activate s, .ok ())
  | .deactivate => (deactivate s, .ok ())
  | .updateReputation developer memory => attempt s (updateReputation s developer memory)
  | .initFromMap entries => initFromMap s entries
  | .recordServe wallet orgID epoch isSelfServe =>
    attempt s (recordServe s wallet orgID epoch isSelfServe)
  | .incrementContribution contributorID orgID =>
    (incrementContribution s contributorID orgID, .ok ())
  | .incrementServe contributorID orgID count => (incrementServe s contributorID orgID count, .ok ())
  | .recordBan contributorID orgID => (recordBan s contributorID orgID, .ok ())
  | .updateContributorAggregate contributorID delta =>
    (updateContributorAggregate s contributorID delta, .ok ())
  | .addContributorOrgMembership contributorID orgID role joinedEpoch =>
    (addContributorOrgMembership s contributorID orgID role joinedEpoch, .ok ())
  | .updateContributorOrgRole contributorID orgID newRole =>
    attempt s (updateContributorOrgRole s contributorID orgID newRole)
  | .markContributorOrgInactive contributorID orgID =>
    attempt s (markContributorOrgInactive s contributorID orgID)
  | .recordContributorActivity contributorID epoch =>
    (recordContributorActivity s contributorID epoch, .ok ())
  | .setModeratorProfile profile => (setModeratorProfile s profile, .ok ())
  | .incrementModeratorApproval modPubkey orgID memoryHash epoch =>
    (incrementModeratorApproval s modPubkey orgID memoryHash epoch, .ok ())
  | .incrementModeratorUpheld modPubkey orgID => (incrementModeratorUpheld s modPubkey orgID, .ok ())
  | .setLeaderProfile profile => (setLeaderProfile s profile, .ok ())
  | .incrementLeaderChainCommit leaderPubkey orgID =>
    (incrementLeaderChainCommit s leaderPubkey orgID, .ok ())
  | .incrementLeaderUpheldReport leaderPubkey orgID =>
    (incrementLeaderUpheldReport s leaderPubkey orgID, .ok ())
  | .setLeaderCurrent leaderPubkey orgID current =>
    (setLeaderCurrent s leaderPubkey orgID current, .ok ())

inductive Event where
  | msg (msg : Msg)
  | write (write : Write)

def standing (authority : Bytes) : Machine Store Event (Except Error Unit) :=
  ⟨fun s event =>
    match event with
    | .msg msg => ((deliver authority s msg).1, (deliver authority s msg).2.map fun _ => ())
    | .write write => perform s write⟩

end Runs

section OrgSets
variable {authority : Bytes} {s s' : Store}

/-- Every org set is stored under the contributor that it names. -/
def OrgSetsKeyed (s : Store) : Prop :=
  s.orgSet.Forall fun k orgSet => contributorOrgSetKey orgSet.contributorId = k

theorem attempt_keyed {x : Except Error Store} (hs : OrgSetsKeyed s)
    (h : ∀ s', x = .ok s' → OrgSetsKeyed s') : OrgSetsKeyed (attempt s x).1 := by
  cases x with
  | error e => exact hs
  | ok s' => exact h s' rfl

theorem OrgSetsKeyed.recordServe (hs : OrgSetsKeyed s) {wallet orgID : Bytes} {epoch : UInt64}
    {isSelfServe : Bool} (h : recordServe s wallet orgID epoch isSelfServe = .ok s') :
    OrgSetsKeyed s' := by
  have hnamed : contributorOrgSetKey (getContributorOrgSet s wallet).contributorId =
      contributorOrgSetKey wallet := by
    unfold getContributorOrgSet
    cases hget : s.orgSet.get (contributorOrgSetKey wallet) with
    | none => rfl
    | some orgSet => exact hs _ orgSet hget
  unfold Reputation.recordServe at h
  split at h
  · cases h
  obtain rfl := Except.ok.inj h
  refine Forall.set hs ?_
  split
  · exact hnamed
  · exact hnamed

theorem changeMembership_orgSet {contributorID orgID : Bytes} {fn : OrgMembership → OrgMembership}
    (h : changeMembership s contributorID orgID fn = .ok s') : s'.orgSet = s.orgSet := by
  unfold changeMembership at h
  split at h
  · cases h
  split at h
  · cases h
  obtain rfl := Except.ok.inj h
  rfl

theorem initFromMap_orgSet (s : Store) (entries : List (Bytes × ReputationStats)) :
    (initFromMap s entries).1.orgSet = s.orgSet := by
  induction entries generalizing s with
  | nil => rfl
  | cons entry entries ih =>
    unfold initFromMap
    split
    · rfl
    · exact ih _

theorem OrgSetsKeyed.perform (hs : OrgSetsKeyed s) (write : Write) :
    OrgSetsKeyed (perform s write).1 := by
  cases write with
  | updateReputation developer memory =>
    apply attempt_keyed hs
    intro s' h
    obtain ⟨-, stats, -, rfl⟩ := updateReputation_ok h
    exact hs
  | initFromMap entries =>
    change Forall _ (initFromMap s entries).1.orgSet
    rw [initFromMap_orgSet]
    exact hs
  | recordServe wallet orgID epoch isSelfServe =>
    exact attempt_keyed hs fun s' h => hs.recordServe h
  | updateContributorOrgRole contributorID orgID newRole =>
    apply attempt_keyed hs
    intro s' h
    rw [OrgSetsKeyed, changeMembership_orgSet h]
    exact hs
  | markContributorOrgInactive contributorID orgID =>
    apply attempt_keyed hs
    intro s' h
    rw [OrgSetsKeyed, changeMembership_orgSet h]
    exact hs
  | _ => exact hs

theorem OrgSetsKeyed.deliver (hs : OrgSetsKeyed s) (msg : Msg) :
    OrgSetsKeyed (deliver authority s msg).1 := by
  rcases deliver_cases authority s msg with ⟨-, hsame⟩ | hstored
  · rwa [hsame]
  · generalize (Reputation.deliver authority s msg).1 = s' at hstored ⊢
    cases hstored with
    | update m basic _ updated =>
      obtain ⟨-, stats, -, rfl⟩ := updateReputation_ok updated
      exact hs
    | _ => exact hs

theorem orgSetsKeyed_run (authority : Bytes) (g : GenesisState) (events : List Event) :
    OrgSetsKeyed ((standing authority).run (initGenesis g) events) := by
  refine (standing authority).run_always (I := OrgSetsKeyed) ?_ ?_ events
  · intro s event hs
    cases event with
    | msg msg => exact hs.deliver msg
    | write write => exact hs.perform write
  · exact forall_empty.foldl_set fun orgSet _ => rfl

end OrgSets

section RoundTrip
variable {s : Store}

/-- The export imported into an empty store. -/
def roundTrip (s : Store) : Store := initGenesis (exportGenesisState s)

/-- The statistics of every developer are stored under their own name. -/
def StatsKeyed (s : Store) : Prop :=
  s.stats.Forall fun k stats => statsKey stats.developerID = k

/-- Statistics are collected by the names they carry, and written under them. -/
theorem roundTrip_stats_eq_iff : (roundTrip s).stats = s.stats ↔ StatsKeyed s := by
  constructor
  · intro h
    rw [StatsKeyed, ← h]
    exact forall_empty.foldl_set fun stats _ => rfl
  · intro hkeyed
    apply load_of_mem_iff hkeyed
    intro stats
    constructor
    · intro hexported
      obtain ⟨developer, hget⟩ := mem_values_iff.mp hexported
      have hfrom : Forall (fun _ stats => stats ∈ s.stats.values)
          (s.stats.values.foldl (fun m stats => m.set stats.developerID stats)
            (∅ : OrderedMap Bytes ReputationStats)) :=
        forall_empty.foldl_set fun stats hstats => hstats
      exact hfrom developer stats hget
    · intro hstats
      refine mem_values_iff.mpr ⟨stats.developerID, get_load_of_mem hstats ?_⟩
      intro other hother hname
      obtain ⟨k, hk⟩ := mem_values_iff.mp hstats
      obtain ⟨k', hk'⟩ := mem_values_iff.mp hother
      have hsame : k' = k := by
        rw [← hkeyed k stats hk, ← hkeyed k' other hk', hname]
      rw [hsame, hk] at hk'
      exact (Option.some.inj hk').symm

/-- What the import has to give back. -/
structure Restored (s s' : Store) : Prop where
  active : isActive s' = isActive s
  params : getParams s' = getParams s
  stats : s'.stats = s.stats
  orgSets : s'.orgSet = s.orgSet
  memories : s'.memory = s.memory
  contributors : s'.profile = s.profile
  leaders : s'.leaderProfile = s.leaderProfile
  moderators : s'.moderatorProfile = s.moderatorProfile

/-- Nothing is stored that the genesis has no room for. -/
structure Exportable (s : Store) : Prop where
  params : getParams s = defaultParams
  stats : StatsKeyed s
  memories : s.memory = ∅
  contributors : s.profile = ∅
  leaders : s.leaderProfile = ∅
  moderators : s.moderatorProfile = ∅

theorem restored_iff (hs : OrgSetsKeyed s) : Restored s (roundTrip s) ↔ Exportable s := by
  constructor
  · intro h
    exact ⟨h.params.symm, roundTrip_stats_eq_iff.mp h.stats, h.memories.symm, h.contributors.symm,
      h.leaders.symm, h.moderators.symm⟩
  · intro h
    refine ⟨?_, h.params.symm, roundTrip_stats_eq_iff.mpr h.stats, load_values hs, h.memories.symm,
      h.contributors.symm, h.leaders.symm, h.moderators.symm⟩
    change Option.getD (if isActive s = true then some true else none) false = isActive s
    cases isActive s with
    | false => rfl
    | true => rfl

theorem standing_restored_iff (authority : Bytes) (g : GenesisState) (events : List Event) :
    Restored ((standing authority).run (initGenesis g) events)
        (roundTrip ((standing authority).run (initGenesis g) events)) ↔
      Exportable ((standing authority).run (initGenesis g) events) :=
  restored_iff (orgSetsKeyed_run authority g events)

end RoundTrip

section Sample

/-- The memory of a developer is attested. -/
def sampleAttested : Store :=
  (standing (ascii "gov")).run (initGenesis defaultGenesis)
    [.msg (.updateReputation
      { signer := ascii "signer", developer := ascii "dev", memoryCid := ascii "cid"
        difficulty := 3, quality := 4 })]

/-- After the round trip the developer has the statistics and not the memory. -/
theorem sampleAttested_not_restored :
    sampleAttested.memory.get (memoryKey (ascii "dev") (ascii "cid")) =
        some ⟨ascii "dev", ascii "cid", 3, 4, [], []⟩ ∧
      (roundTrip sampleAttested).stats = sampleAttested.stats ∧
      (roundTrip sampleAttested).memory.get (memoryKey (ascii "dev") (ascii "cid")) = none ∧
      ¬ Restored sampleAttested (roundTrip sampleAttested) := by
  have hsample : sampleAttested.memory.get (memoryKey (ascii "dev") (ascii "cid")) =
        some ⟨ascii "dev", ascii "cid", 3, 4, [], []⟩ ∧
      (roundTrip sampleAttested).stats = sampleAttested.stats ∧
      (roundTrip sampleAttested).memory.get (memoryKey (ascii "dev") (ascii "cid")) = none := by
    decide +kernel
  obtain ⟨hbefore, hstats, hafter⟩ := hsample
  refine ⟨hbefore, hstats, hafter, ?_⟩
  intro h
  rw [h.memories, hbefore] at hafter
  cases hafter

end Sample

end WeVibeChain.Reputation
