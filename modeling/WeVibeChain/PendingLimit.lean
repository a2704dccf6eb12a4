import WeVibeChain.MemoryGenesis
import WeVibeChain.MemoryRoots

/-!
# x/memory: how many commitments of an org may wait

A submission is refused when as many commitments wait as the params allow for an
org. What the keeper counts is every key from the org's first pending key to the
end of the store: the commitments of the orgs that sort behind, the reports, and
on a chain the marker that the application leaves in every store at genesis.

The refusal is that of the org's own commitments where the others do not fill the
room that these leave.
-/

set_option autoImplicit false

namespace WeVibeChain.Memory

open Bytes OrderedMap

section Marker

/-- What an iterator without an end meets, with `none` for the marker. -/
def iterateFrom (marked : Bool) (s : Store) (lo : Bytes) : List (Bytes × Option Entry) :=
  (s.iteratorFrom lo).map (fun e => (e.1, some e.2)) ++
    if marked ∧ lo ≤ genesisInitMarkerKey then [(genesisInitMarkerKey, none)] else []

/-- A submission to a store that has the marker or not. -/
def submitCommitmentIn (marked : Bool) (st : State) (commitment : PendingCommitment) :
    Except Error State :=
  match commitment.validate with
  | .error e => .error e
  | .ok () =>
    if Orgs.hasOrg st.org commitment.orgID = false then .error .orgNotFound
    else if st.store.pending.has (pendingKey commitment.orgID commitment.contentHash) then
      .error .commitmentExists
    else if (iterateFrom marked st.store (pendingPrefix commitment.orgID)).length ≥
        (getParams st.store).maxPendingPerOrg.toNat then .error .maxPendingExceeded
    else
      .ok { st with
        store := { st.store with
          pending := st.store.pending.set
            (pendingKey commitment.orgID commitment.contentHash) (pendingToStored commitment) } }

variable {marked : Bool} {st st' : State} {commitment : PendingCommitment}

theorem pendingPrefix_le_marker (orgID : Bytes) : pendingPrefix orgID ≤ genesisInitMarkerKey :=
  cons_le_cons_of_lt (by decide) _ _

theorem length_iterateFrom_pendingPrefix (marked : Bool) (s : Store) (orgID : Bytes) :
    (iterateFrom marked s (pendingPrefix orgID)).length =
      pendingCount s orgID + if marked then 1 else 0 := by
  unfold iterateFrom pendingCount
  rw [List.length_append, List.length_map]
  cases marked with
  | false => simp
  | true => simp [pendingPrefix_le_marker]

/-- The limit is what a submission is checked for last, so that the marker takes the last place. -/
theorem submitCommitmentIn_eq : submitCommitmentIn marked st commitment =
    (submitCommitment st commitment).bind fun st' =>
      if marked ∧ (getParams st.store).maxPendingPerOrg.toNat ≤
          pendingCount st.store commitment.orgID + 1 then .error .maxPendingExceeded
      else .ok st' := by
  unfold submitCommitmentIn submitCommitment
  cases commitment.validate with
  | error e => rfl
  | ok =>
    simp only [length_iterateFrom_pendingPrefix]
    split
    · rfl
    split
    · rfl
    · grind [Except.bind]

/-- The marker can only refuse. -/
theorem submitCommitment_of_marked (h : submitCommitmentIn marked st commitment = .ok st') :
    submitCommitment st commitment = .ok st' := by
  rw [submitCommitmentIn_eq] at h
  cases hsubmit : submitCommitment st commitment with
  | error e =>
    rw [hsubmit] at h
    cases h
  | ok st₁ =>
    rw [hsubmit] at h
    change (if _ then _ else Except.ok st₁) = _ at h
    split at h
    · cases h
    · exact h

end Marker

section Calls

/-- The calls of the keeper that write, with any arguments, and changes by other modules. -/
inductive KeeperCall where
  | setParams (params : Params)
  | submitCommitment (commitment : PendingCommitment)
  | approveMemory (approval : Approval)
  | reportMemory (msg : MsgReportMemory) (epoch : UInt64)
  | deleteRelationship (orgID sourceCID targetCID : Bytes)
  | checkEpochExpiry (epoch : UInt64)
  | computeAndStoreEpochMerkleRoot (orgID : Bytes) (epoch : UInt64)
  | afterEpochEnd (epochIdentifier : Bytes) (epochNumber : Int64)
  | initGenesis (genesis : GenesisState)
  | otherModules (org : Orgs.Store) (reputation : Reputation.Store)

/-- A call that fails is undone with the transaction it is made in. -/
def callStep (marked : Bool) (sha256 : Bytes → Bytes) (st : State) : KeeperCall → State
  | .setParams params => { st with store := setParams st.store params }
  | .submitCommitment commitment => (submitCommitmentIn marked st commitment).toOption.getD st
  | .approveMemory approval => (approveMemory st approval).toOption.getD st
  | .reportMemory msg epoch => (reportMemory st msg epoch).toOption.getD st
  | .deleteRelationship orgID sourceCID targetCID =>
    { st with store := deleteRelationship st.store orgID sourceCID targetCID }
  | .checkEpochExpiry epoch => { st with store := (checkEpochExpiry st.store epoch).1 }
  | .computeAndStoreEpochMerkleRoot orgID epoch =>
    { st with store := computeAndStoreEpochMerkleRoot sha256 decodeForeign st.store orgID epoch }
  | .afterEpochEnd epochIdentifier epochNumber =>
    { st with
      store := (afterEpochEnd sha256 decodeForeign st.store epochIdentifier epochNumber).1 }
  | .initGenesis genesis => { st with store := initGenesis st.store genesis }
  | .otherModules org reputation => { st with org := org, reputation := reputation }

def keeperCalls (marked : Bool) (sha256 : Bytes → Bytes) : Machine State KeeperCall Unit :=
  ⟨fun st call => (callStep marked sha256 st call, ())⟩

/-- The state after the calls, from an empty store. -/
def called (marked : Bool) (sha256 : Bytes → Bytes) (calls : List KeeperCall) : State :=
  (keeperCalls marked sha256).run ⟨{}, {}, {}⟩ calls

/-- Every record is stored under the key that it names. -/
structure Keyed (s : Store) : Prop where
  relationship : s.relationship.Forall fun k _ => ∃ rest, k = 0x10 :: rest
  validity : s.validity.Forall fun k _ => ∃ rest, k = 0x12 :: rest
  approved : s.approved.Forall WellKeyed
  count : s.count.Forall fun k _ => ∃ orgID, countKey orgID = k
  merkle : s.merkle.Forall fun k root => merkleKey root.orgId root.epoch = k
  pending : s.pending.Forall fun k p => pendingKey p.orgId p.contentHash = k
  report : s.report.Forall fun k r => reportKey r.orgId r.contentHash r.reporterPubkey = k
  timestamp : s.report.Forall fun _ r => r.upheldAtTimestamp = 0

variable {marked : Bool} {sha256 : Bytes → Bytes} {s s' : Store} {st st' : State}

theorem keyed_empty : Keyed {} :=
  ⟨forall_empty, forall_empty, forall_empty, forall_empty, forall_empty, forall_empty, forall_empty,
    forall_empty⟩

theorem Keyed.expireEntry {e : Bytes × StoredValidityMetadata} (hs : Keyed s)
    (h : expireEntry s e = .ok s') : Keyed s' := by
  have happroved := approved_expireEntry wellKeyed_archiving hs.approved h
  obtain ⟨_, _, -, rfl, -⟩ := expireEntry_ok h
  exact { hs with approved := happroved, validity := hs.validity.delete _ }

theorem Keyed.computeRoot (hs : Keyed s) (orgID : Bytes) (epoch : UInt64) :
    Keyed (computeAndStoreEpochMerkleRoot sha256 decodeForeign s orgID epoch) :=
  { hs with merkle := hs.merkle.set rfl }

theorem Keyed.initGenesis (hs : Keyed s) (g : GenesisState) : Keyed (initGenesis s g) :=
  { hs with
    relationship := hs.relationship.foldl_set fun _ _ => ⟨_, rfl⟩
    validity := hs.validity.foldl_set fun _ _ => ⟨_, rfl⟩
    approved := wellKeyed_initGenesis hs.approved g
    merkle := hs.merkle.foldl_set fun _ _ => rfl
    pending := hs.pending.foldl_set fun _ _ => rfl }

theorem keyed_next (st : State) (call : KeeperCall) (hs : Keyed st.store) :
    Keyed ((keeperCalls marked sha256).next st call).store := by
  cases call with
  | setParams params => exact { hs with }
  | submitCommitment commitment =>
    change Keyed ((submitCommitmentIn marked st commitment).toOption.getD st).store
    cases h : submitCommitmentIn marked st commitment with
    | error e => exact hs
    | ok st' =>
      obtain ⟨-, -, rfl⟩ := submitCommitment_ok (submitCommitment_of_marked h)
      exact { hs with pending := hs.pending.set rfl }
  | approveMemory a =>
    change Keyed ((approveMemory st a).toOption.getD st).store
    cases h : approveMemory st a with
    | error e => exact hs
    | ok st' =>
      obtain ⟨pending, -, -, -, -, hstore, -⟩ := approveMemory_ok h
      change Keyed st'.store
      rw [hstore]
      exact { hs with
        approved := hs.approved.set rfl
        pending := hs.pending.delete _
        count := hs.count.set ⟨_, rfl⟩ }
  | reportMemory msg epoch =>
    change Keyed ((reportMemory st msg epoch).toOption.getD st).store
    cases h : reportMemory st msg epoch with
    | error e => exact hs
    | ok st' =>
      obtain ⟨-, hstore, -⟩ := reportMemory_ok h
      change Keyed st'.store
      rw [hstore]
      exact { hs with report := hs.report.set rfl, timestamp := hs.timestamp.set rfl }
  | deleteRelationship orgID sourceCID targetCID =>
    exact { hs with relationship := hs.relationship.delete _ }
  | checkEpochExpiry epoch =>
    exact checkEpochExpiry_invariant (fun e t t' ht h => ht.expireEntry h) epoch hs
  | computeAndStoreEpochMerkleRoot orgID epoch => exact hs.computeRoot orgID epoch
  | afterEpochEnd identifier n =>
    refine afterEpochEnd_invariant ?_ (fun e t t' ht h => ht.expireEntry h)
      (fun org t ht => ht.computeRoot org _) hs identifier
    intro t ht
    exact { ht with }
  | initGenesis g => exact hs.initGenesis g
  | otherModules org reputation => exact hs

theorem keyed_called (marked : Bool) (sha256 : Bytes → Bytes) (calls : List KeeperCall) :
    Keyed (called marked sha256 calls).store :=
  (keeperCalls marked sha256).run_always keyed_next keyed_empty calls

end Calls

section Counting
variable {s : Store}

theorem Keyed.iteratorFrom_of_params_lt (hs : Keyed s) {lo : Bytes} (hlo : ascii "params" < lo) :
    s.iteratorFrom lo =
      ((s.pending.entries.map fun e => (e.1, Entry.pending e.2)).filter fun e => lo ≤ e.1) ++
        (s.report.entries.map fun e => (e.1, Entry.report e.2)).filter fun e => lo ≤ e.1 := by
  have hrelationship : s.relationship.Forall fun k _ => k < ascii "params" := by
    intro k r hget
    obtain ⟨rest, rfl⟩ := hs.relationship k r hget
    exact cons_lt_cons_of_lt (by decide) _ _
  have hvalidity : s.validity.Forall fun k _ => k < ascii "params" := by
    intro k v hget
    obtain ⟨rest, rfl⟩ := hs.validity k v hget
    exact cons_lt_cons_of_lt (by decide) _ _
  exact Memory.iteratorFrom_of_params_lt hs.approved hs.count hs.merkle hrelationship hvalidity hlo

/-- The start of a scan of the org's pending commitments. -/
theorem Keyed.iteratorFrom_pending (hs : Keyed s) (orgID : Bytes) :
    s.iteratorFrom (pendingPrefix orgID) =
      ((s.pending.entries.map fun e => (e.1, Entry.pending e.2)).filter
          fun e => pendingPrefix orgID ≤ e.1) ++
        s.report.entries.map fun e => (e.1, Entry.report e.2) := by
  have hreport : s.report.Forall fun k _ => pendingPrefix orgID ≤ k := by
    intro k r hget
    rw [← hs.report k r hget]
    exact cons_le_cons_of_lt (by decide) _ _
  rw [hs.iteratorFrom_of_params_lt (params_lt_pendingPrefix orgID), scan_eq_self hreport]

/-- How many commitments of the org wait. -/
def ownPending (s : Store) (orgID : Bytes) : Nat :=
  s.pending.values.countP fun p => p.orgId = orgID

/-- How many records lie behind the org's first pending key and are not pending commitments of the
org: the commitments of other orgs and all reports. -/
def recordsBehind (s : Store) (orgID : Bytes) : Nat :=
  (s.pending.values.countP fun p =>
    p.orgId ≠ orgID ∧ pendingPrefix orgID ≤ pendingKey p.orgId p.contentHash) +
  s.report.values.length

theorem pendingPrefix_le_pendingKey (orgID contentHash : Bytes) :
    pendingPrefix orgID ≤ pendingKey orgID contentHash := by
  have happend : pendingKey orgID contentHash = pendingPrefix orgID ++ hexEncode contentHash := by
    simp [pendingKey, pendingPrefix]
  rw [happend]
  exact le_append _ _

theorem Keyed.pendingCount_eq (hs : Keyed s) (orgID : Bytes) :
    pendingCount s orgID = ownPending s orgID + recordsBehind s orgID := by
  have hpending : ((s.pending.entries.map fun e => (e.1, Entry.pending e.2)).filter
      fun e => pendingPrefix orgID ≤ e.1).length =
        s.pending.values.countP fun p => pendingPrefix orgID ≤ pendingKey p.orgId p.contentHash := by
    rw [← List.countP_eq_length_filter, OrderedMap.values, List.countP_map, List.countP_map]
    refine List.countP_congr fun e he => ?_
    have hkey := hs.pending e.1 e.2 (get_eq_some_iff.mpr he)
    simp only [Function.comp_apply, hkey]
  -- of the commitments behind the start, those of the org are all
  have hsplit : (s.pending.values.countP fun p =>
      pendingPrefix orgID ≤ pendingKey p.orgId p.contentHash) =
        ownPending s orgID + s.pending.values.countP fun p =>
          p.orgId ≠ orgID ∧ pendingPrefix orgID ≤ pendingKey p.orgId p.contentHash := by
    refine countP_kept_eq_add ?_
    rintro p - rfl
    exact pendingPrefix_le_pendingKey p.orgId p.contentHash
  unfold pendingCount recordsBehind
  rw [hs.iteratorFrom_pending, List.length_append, hpending, hsplit, List.length_map,
    OrderedMap.values, OrderedMap.values, List.length_map, Nat.add_assoc]

end Counting

section Limit
variable {marked : Bool} {st : State} {commitment : PendingCommitment}

/-- The org has room for another commitment, and what lies behind fills it. -/
def Crowded (marked : Bool) (s : Store) (orgID : Bytes) : Prop :=
  ownPending s orgID < (getParams s).maxPendingPerOrg.toNat ∧
    (getParams s).maxPendingPerOrg.toNat ≤
      ownPending s orgID + recordsBehind s orgID + if marked then 1 else 0

instance instDecidableCrowded (marked : Bool) (s : Store) (orgID : Bytes) :
    Decidable (Crowded marked s orgID) :=
  inferInstanceAs (Decidable (_ ∧ _))

theorem submitCommitmentIn_maxPending_iff (hvalid : commitment.validate = .ok ())
    (horg : Orgs.hasOrg st.org commitment.orgID = true)
    (hnew : st.store.pending.has (pendingKey commitment.orgID commitment.contentHash) = false) :
    submitCommitmentIn marked st commitment = .error .maxPendingExceeded ↔
      (getParams st.store).maxPendingPerOrg.toNat ≤
        pendingCount st.store commitment.orgID + if marked then 1 else 0 := by
  unfold submitCommitmentIn
  rw [hvalid]
  dsimp only
  rw [if_neg (by simp [horg]), if_neg (by simp [hnew]), length_iterateFrom_pendingPrefix]
  by_cases hfull : (getParams st.store).maxPendingPerOrg.toNat ≤
      pendingCount st.store commitment.orgID + if marked then 1 else 0
  · rw [if_pos hfull]
    exact iff_of_true rfl hfull
  · rw [if_neg hfull]
    exact iff_of_false (fun h => by cases h) hfull

/-- In every store that the calls reach, a valid new commitment of an org that exists is refused for
the org's own commitments if and only if the records behind do not fill the room that these leave. -/
theorem pending_limit_of_org_iff (marked : Bool) (sha256 : Bytes → Bytes) (calls : List KeeperCall)
    (commitment : PendingCommitment) (hvalid : commitment.validate = .ok ())
    (horg : Orgs.hasOrg (called marked sha256 calls).org commitment.orgID = true)
    (hnew : (called marked sha256 calls).store.pending.has
      (pendingKey commitment.orgID commitment.contentHash) = false) :
    (submitCommitmentIn marked (called marked sha256 calls) commitment =
          .error .maxPendingExceeded ↔
        (getParams (called marked sha256 calls).store).maxPendingPerOrg.toNat ≤
          ownPending (called marked sha256 calls).store commitment.orgID) ↔
      ¬ Crowded marked (called marked sha256 calls).store commitment.orgID := by
  rw [submitCommitmentIn_maxPending_iff hvalid horg hnew,
    (keyed_called marked sha256 calls).pendingCount_eq]
  unfold Crowded
  omega

open EpochHooks (emptyHash sampleCrypto sampleHash)

def sampleCommitment (orgID : Bytes) : PendingCommitment :=
  { orgID := orgID, contentHash := sampleHash, contributor := ascii "c", epoch := 1,
    memoryType := .memory }

/-- Two orgs, each with room for one commitment. -/
def roomForOne : List KeeperCall :=
  [.otherModules twoOrgs {}, .setParams { defaultParams with maxPendingPerOrg := 1 }]

def commitmentOfB : List KeeperCall :=
  roomForOne ++ [.submitCommitment (sampleCommitment (ascii "b"))]

/-- The first commitment of org `a` is refused because of one of org `b`, and on a chain because of
the marker. -/
theorem refused_without_own_commitments :
    (getParams (called false sampleCrypto.sha256 commitmentOfB).store).maxPendingPerOrg = 1 ∧
      ownPending (called false sampleCrypto.sha256 commitmentOfB).store (ascii "a") = 0 ∧
      submitCommitmentIn false (called false sampleCrypto.sha256 commitmentOfB)
        (sampleCommitment (ascii "a")) = .error .maxPendingExceeded ∧
      (getParams (called true sampleCrypto.sha256 roomForOne).store).maxPendingPerOrg = 1 ∧
      (called true sampleCrypto.sha256 roomForOne).store.pending = ∅ ∧
      submitCommitmentIn true (called true sampleCrypto.sha256 roomForOne)
        (sampleCommitment (ascii "a")) = .error .maxPendingExceeded := by
  decide +kernel

/-- Each org has submitted one. -/
def commitmentOfEach : List KeeperCall :=
  roomForOne ++ [.submitCommitment (sampleCommitment (ascii "a")),
    .submitCommitment (sampleCommitment (ascii "b"))]

/-- Nothing lies behind org `b`, so that its own commitment refuses the next one. -/
theorem own_commitments_decide :
    ownPending (called false sampleCrypto.sha256 commitmentOfEach).store (ascii "a") = 1 ∧
      ownPending (called false sampleCrypto.sha256 commitmentOfEach).store (ascii "b") = 1 ∧
      submitCommitmentIn false (called false sampleCrypto.sha256 commitmentOfEach)
        { sampleCommitment (ascii "b") with contentHash := emptyHash } =
          .error .maxPendingExceeded := by
  refine ⟨by decide +kernel, by decide +kernel, ?_⟩
  refine ((pending_limit_of_org_iff false sampleCrypto.sha256 commitmentOfEach
    { sampleCommitment (ascii "b") with contentHash := emptyHash }
    (by decide) (by decide +kernel) (by decide +kernel)).mpr ?_).mpr ?_
  · decide +kernel
  · decide +kernel

end Limit

end WeVibeChain.Memory
