import WeVibeChain.MemoryRuns
import WeVibeChain.Shared.Tables

/-!
# x/memory: genesis export and import

The commitments, the approved memories, the Merkle roots, the relationships, the
validity metadata and the parameters are exported. The number of approved
memories of an org, the upheld reports and the current epoch are not. Parameters
that are all zero are taken by the import for parameters that are not set.
-/

set_option autoImplicit false

namespace WeVibeChain.Memory

open Bytes OrderedMap

section Genesis

def storedToRelationship (stored : StoredMemoryRelationship) : MemoryRelationship where
  sourceCID := stored.sourceCid
  targetCID := stored.targetCid
  relationType := stored.relationType
  orgID := stored.orgId
  proposer := stored.proposer
  approved := stored.approved
  epoch := stored.epoch

def exportGenesis (s : Store) : GenesisState where
  pendingCommitments := s.pending.values.map storedToPending
  memoryCommitments := s.approved.values.map storedToMemory
  relationships := s.relationship.values.map storedToRelationship
  validityMetadata := s.validity.values
  merkleRoots := s.merkle.values
  params := getParams s

end Genesis

section Keys

/-- Every record is stored under the key that it names. There are no relationships and no validity
metadata: no message writes any. -/
structure Filed (s : Store) : Prop where
  pending : s.pending.Forall fun k stored => pendingKey stored.orgId stored.contentHash = k
  approved : s.approved.Forall WellKeyed
  merkle : s.merkle.Forall fun k root => merkleKey root.orgId root.epoch = k
  count : s.count.Forall fun k _ => ∃ orgID, countKey orgID = k
  relationship : s.relationship = ∅
  validity : s.validity = ∅

theorem filed_empty : Filed {} :=
  ⟨forall_empty, forall_empty, forall_empty, forall_empty, rfl, rfl⟩

variable {crypto : Crypto} {authority : Bytes} {foreign : Entry → Option StoredMemoryCommitment}
  {s s' : Store}

theorem Stored.filed {msg : Msg} (h : Stored crypto s msg s') (hs : Filed s) : Filed s' := by
  cases h with
  | submit msg basic fresh =>
    exact ⟨hs.pending.set rfl, hs.approved, hs.merkle, hs.count, hs.relationship, hs.validity⟩
  | approve msg pending basic found verified fresh =>
    exact ⟨hs.pending.delete _, hs.approved.set rfl, hs.merkle, hs.count.set ⟨msg.orgId, rfl⟩,
      hs.relationship, hs.validity⟩
  | report msg basic fresh =>
    exact ⟨hs.pending, hs.approved, hs.merkle, hs.count, hs.relationship, hs.validity⟩
  | params msg =>
    exact ⟨hs.pending, hs.approved, hs.merkle, hs.count, hs.relationship, hs.validity⟩

theorem Filed.expireEntry {e : Bytes × StoredValidityMetadata} (hs : Filed s)
    (h : expireEntry s e = .ok s') : Filed s' := by
  have happroved := approved_expireEntry wellKeyed_archiving hs.approved h
  obtain ⟨memory, approved, -, rfl, -⟩ := expireEntry_ok h
  refine ⟨hs.pending, happroved, hs.merkle, hs.count, hs.relationship, ?_⟩
  change s.validity.delete e.1 = ∅
  rw [hs.validity]
  rfl

theorem Filed.deliver {st : State} (hs : Filed st.store) (msg : Msg) :
    Filed (deliver crypto authority st msg).store := by
  rcases deliver_eq crypto authority st msg with ⟨-, hsame⟩ | hok
  · rwa [hsame]
  · exact (handle_stored hok).filed hs

theorem Filed.afterEpochEnd (hs : Filed s) (n : Int64) :
    Filed (afterEpochEnd crypto.sha256 foreign s weVibeEpochIdentifier n).1 := by
  refine afterEpochEnd_invariant ?_ (fun e t t' ht => ht.expireEntry) ?_ hs _
  · intro t ht
    exact ⟨ht.pending, ht.approved, ht.merkle, ht.count, ht.relationship, ht.validity⟩
  · intro org t ht
    exact ⟨ht.pending, ht.approved, ht.merkle.set rfl, ht.count, ht.relationship, ht.validity⟩

theorem Filed.next {st : State} (hs : Filed st.store) (input : Input) :
    Filed ((chain crypto authority foreign).next st input).store := by
  cases input with
  | msg msg => exact hs.deliver msg
  | otherModules org reputation => exact hs
  | epochEnd n => exact hs.afterEpochEnd n

theorem filed_run (org : Orgs.Store) (reputation : Reputation.Store) (inputs : List Input) :
    Filed ((chain crypto authority foreign).run ⟨{}, org, reputation⟩ inputs).store :=
  (chain crypto authority foreign).run_always (I := fun st => Filed st.store)
    (fun _ input hs => hs.next input) filed_empty inputs

end Keys

section RoundTrip
variable {s : Store}

/-- The export imported into an empty store. -/
def roundTrip (s : Store) : Store := initGenesis {} (exportGenesis s)

theorem roundTrip_eq (hs : Filed s) :
    roundTrip s =
      { s with
        count := ∅
        report := ∅
        currentEpoch := none
        params := some (if getParams s = zeroParams then defaultParams else getParams s) } := by
  have hpending := (load_dump_eq_iff (fun pc => pendingKey pc.orgID pc.contentHash) storedToPending
    pendingToStored hs.pending).mpr fun _ _ _ => rfl
  have happroved := (load_dump_eq_iff (fun am => approvedKey am.orgID am.contentHash)
    storedToMemory memoryToStored (hs.approved.imp fun _ _ h => h.symm)).mpr fun _ _ _ => rfl
  have hmerkle := load_values hs.merkle
  unfold roundTrip initGenesis exportGenesis
  dsimp only
  rw [hpending, happroved, hmerkle, hs.relationship, hs.validity]
  rfl

/-- What the import has to give back. -/
structure Restored (s s' : Store) : Prop where
  pending : s'.pending = s.pending
  approved : s'.approved = s.approved
  counts : ∀ orgID, getApprovedCount s' orgID = getApprovedCount s orgID
  reports : s'.report = s.report
  merkle : s'.merkle = s.merkle
  validity : s'.validity = s.validity
  relationships : s'.relationship = s.relationship
  epoch : getCurrentEpoch s' = getCurrentEpoch s
  params : getParams s' = getParams s

/-- Nothing is stored that the genesis has no room for. -/
structure Exportable (s : Store) : Prop where
  counts : ∀ orgID, getApprovedCount s orgID = 0
  reports : s.report = ∅
  epoch : getCurrentEpoch s = 0
  params : getParams s ≠ zeroParams

theorem restored_iff (hs : Filed s) : Restored s (roundTrip s) ↔ Exportable s := by
  rw [roundTrip_eq hs]
  constructor
  · intro h
    refine ⟨fun orgID => (h.counts orgID).symm, h.reports.symm, h.epoch.symm, ?_⟩
    intro hzero
    have hparams : (if getParams s = zeroParams then defaultParams else getParams s) =
        getParams s := h.params
    rw [if_pos hzero, hzero] at hparams
    exact absurd hparams (by decide)
  · intro h
    refine ⟨rfl, rfl, fun orgID => (h.counts orgID).symm, h.reports.symm, rfl, rfl, rfl,
      h.epoch.symm, ?_⟩
    exact if_neg h.params

end RoundTrip

section Later
variable {crypto : Crypto} {authority : Bytes} {foreign : Entry → Option StoredMemoryCommitment}
  {s s' : Store}

theorem params_lt_pendingPrefix (orgID : Bytes) : ascii "params" < pendingPrefix orgID :=
  List.cons_lt_cons_self.mpr (cons_lt_cons_of_lt (by decide) _ _)

/-- A scan that starts behind the params meets pending commitments and reports only. -/
theorem iteratorFrom_of_params_lt {lo : Bytes} (hkeyed : s.approved.Forall WellKeyed)
    (hcounted : s.count.Forall fun k _ => ∃ orgID, countKey orgID = k)
    (hrooted : s.merkle.Forall fun k root => merkleKey root.orgId root.epoch = k)
    (hrelationship : s.relationship.Forall fun k _ => k < ascii "params")
    (hvalidity : s.validity.Forall fun k _ => k < ascii "params") (hlo : ascii "params" < lo) :
    s.iteratorFrom lo =
      ((s.pending.entries.map fun e => (e.1, Entry.pending e.2)).filter fun e => lo ≤ e.1) ++
        (s.report.entries.map fun e => (e.1, Entry.report e.2)).filter fun e => lo ≤ e.1 := by
  have hrelationship' : s.relationship.Forall fun k _ => k < lo :=
    fun k r hget => (hrelationship k r hget).trans hlo
  have hvalidity' : s.validity.Forall fun k _ => k < lo :=
    fun k v hget => (hvalidity k v hget).trans hlo
  have happroved : s.approved.Forall fun k _ => k < lo := by
    intro k record hget
    rw [hkeyed k record hget]
    exact (cons_lt_cons_of_lt (by decide) _ _).trans hlo
  have hcount : s.count.Forall fun k _ => k < lo := by
    intro k n hget
    obtain ⟨orgID', rfl⟩ := hcounted k n hget
    exact (cons_lt_cons_of_lt (by decide) _ _).trans hlo
  have hmerkle : s.merkle.Forall fun k _ => k < lo := by
    intro k root hget
    rw [← hrooted k root hget]
    exact (cons_lt_cons_of_lt (by decide) _ _).trans hlo
  have hepoch : ascii "current_epoch" < lo := (cons_lt_cons_of_lt (by decide) _ _).trans hlo
  unfold Store.iteratorFrom Store.entries
  simp only [List.filter_append]
  rw [scan_eq_nil hrelationship', scan_eq_nil hvalidity', scan_eq_nil happroved, scan_eq_nil hcount,
    scan_eq_nil hmerkle, scan_entry_eq_nil _ hepoch, scan_entry_eq_nil _ hlo]
  rfl

theorem pendingCount_eq (hs : Filed s) (orgID : Bytes) :
    pendingCount s orgID =
      ((s.pending.entries.map fun e => (e.1, Entry.pending e.2)).filter
          fun e => pendingPrefix orgID ≤ e.1).length +
        ((s.report.entries.map fun e => (e.1, Entry.report e.2)).filter
          fun e => pendingPrefix orgID ≤ e.1).length := by
  have hrelationship : s.relationship.Forall fun k _ => k < ascii "params" := by
    rw [hs.relationship]
    exact forall_empty
  have hvalidity : s.validity.Forall fun k _ => k < ascii "params" := by
    rw [hs.validity]
    exact forall_empty
  unfold pendingCount
  rw [iteratorFrom_of_params_lt hs.approved hs.count hs.merkle hrelationship hvalidity
    (params_lt_pendingPrefix orgID), List.length_append]

/-- The two stores answer the same, though not by the same entries. -/
structure Alike (s s' : Store) : Prop where
  pending : s'.pending = s.pending
  approved : s'.approved = s.approved
  reports : s'.report = s.report
  counts : ∀ orgID, getApprovedCount s' orgID = getApprovedCount s orgID
  epoch : getCurrentEpoch s' = getCurrentEpoch s
  params : getParams s' = getParams s

theorem Restored.alike (h : Restored s s') : Alike s s' :=
  ⟨h.pending, h.approved, h.reports, h.counts, h.epoch, h.params⟩

theorem Alike.approvedStore (h : Alike s s') (a : Approval) (pending : PendingCommitment) :
    Alike (approvedStore s a pending) (approvedStore s' a pending) := by
  refine ⟨?_, ?_, h.reports, ?_, h.epoch, h.params⟩
  · unfold Memory.approvedStore
    rw [h.pending]
  · unfold Memory.approvedStore
    rw [h.approved, h.epoch]
  · intro orgID
    have hown := h.counts a.orgID
    have hother := h.counts orgID
    unfold getApprovedCount at hown hother ⊢
    simp only [Memory.approvedStore, get_set]
    rw [hown]
    split
    · rfl
    · exact hother

/-- The same answer, and where it is positive, stores that are alike. -/
inductive Matched : Except Error State → Except Error State → Prop where
  | refused (e : Error) : Matched (.error e) (.error e)
  | accepted (org : Orgs.Store) (reputation : Reputation.Store) {s s' : Store} (h : Alike s s') :
      Matched (.ok ⟨s, org, reputation⟩) (.ok ⟨s', org, reputation⟩)

variable (org : Orgs.Store) (reputation : Reputation.Store)

theorem submitCommitmentMsg_matched (h : Alike s s') (hs : Filed s) (hs' : Filed s')
    (msg : MsgSubmitCommitment) :
    Matched (submitCommitmentMsg ⟨s, org, reputation⟩ msg)
      (submitCommitmentMsg ⟨s', org, reputation⟩ msg) := by
  have hcount : pendingCount s' msg.orgId = pendingCount s msg.orgId := by
    rw [pendingCount_eq hs, pendingCount_eq hs', h.pending, h.reports]
  unfold submitCommitmentMsg submitCommitment
  dsimp only
  rw [h.pending, hcount, h.params]
  split
  · exact .refused _
  split
  · exact .refused _
  split
  · exact .refused _
  split
  · exact .refused _
  split
  · exact .refused _
  split
  · exact .refused _
  split
  · exact .refused _
  split
  · exact .refused _
  split
  · exact .refused _
  exact .accepted org reputation ⟨rfl, h.approved, h.reports, h.counts, h.epoch, h.params⟩

theorem Alike.getPendingCommitment_eq (h : Alike s s') (orgID contentHash : Bytes) :
    getPendingCommitment s' orgID contentHash = getPendingCommitment s orgID contentHash := by
  unfold getPendingCommitment
  rw [h.pending]

theorem approveMemory_matched (h : Alike s s') (a : Approval) :
    Matched (approveMemory ⟨s, org, reputation⟩ a) (approveMemory ⟨s', org, reputation⟩ a) := by
  unfold approveMemory
  dsimp only
  rw [h.getPendingCommitment_eq, h.approved, h.params]
  split
  · exact .refused _
  split
  · exact .refused _
  split
  · exact .refused _
  split
  · exact .refused _
  split
  · exact .refused _
  split
  · exact .refused _
  split
  · exact .refused _
  exact .accepted _ _ (h.approvedStore a _)

theorem approveMemoryMsg_matched (h : Alike s s') (msg : MsgApproveMemory) :
    Matched (approveMemoryMsg crypto ⟨s, org, reputation⟩ msg)
      (approveMemoryMsg crypto ⟨s', org, reputation⟩ msg) := by
  unfold approveMemoryMsg
  dsimp only
  rw [h.getPendingCommitment_eq]
  split
  · exact .refused _
  split
  · exact .refused _
  split
  · exact .refused _
  split
  · exact .refused _
  split
  · exact .refused _
  exact approveMemory_matched org reputation h _

theorem reportMemoryMsg_matched (h : Alike s s') (msg : MsgReportMemory) :
    Matched (reportMemoryMsg ⟨s, org, reputation⟩ msg)
      (reportMemoryMsg ⟨s', org, reputation⟩ msg) := by
  unfold reportMemoryMsg reportMemory
  dsimp only
  rw [h.approved, h.reports]
  split
  · exact .refused _
  split
  · exact .refused _
  split
  · exact .refused _
  split
  · exact .refused _
  split
  · exact .refused _
  split
  · exact .refused _
  exact .accepted _ _ ⟨h.pending, rfl, rfl, h.counts, h.epoch, h.params⟩

theorem handle_matched (h : Alike s s') (hs : Filed s) (hs' : Filed s') (msg : Msg) :
    Matched (handle crypto authority ⟨s, org, reputation⟩ msg)
      (handle crypto authority ⟨s', org, reputation⟩ msg) := by
  cases msg with
  | submitCommitment m => exact submitCommitmentMsg_matched org reputation h hs hs' m
  | approveMemory m => exact approveMemoryMsg_matched org reputation h m
  | reportMemory m => exact reportMemoryMsg_matched org reputation h m
  | updateParams m =>
    unfold handle updateParamsMsg
    dsimp only
    split
    · exact .refused _
    split
    · exact .refused _
    exact .accepted _ _ ⟨h.pending, h.approved, h.reports, h.counts, h.epoch, rfl⟩

/-- With no validity metadata an epoch end sets the epoch and writes Merkle roots. -/
theorem afterEpochEnd_alike (h : Alike s s') (hs : Filed s) (hs' : Filed s') (n : Int64) :
    Alike (afterEpochEnd crypto.sha256 foreign s weVibeEpochIdentifier n).1
      (afterEpochEnd crypto.sha256 foreign s' weVibeEpochIdentifier n).1 := by
  have hunexpired : ∀ t : Store, t.validity = ∅ →
      (checkEpochExpiry (setCurrentEpoch t n.toUInt64) n.toUInt64).1 =
        setCurrentEpoch t n.toUInt64 := by
    intro t ht
    unfold checkEpochExpiry
    change (expireEntries _ (t.validity.entries.filter _)).1 = _
    rw [ht]
    rfl
  obtain ⟨merkle, hframe⟩ := afterEpochEnd_frame crypto.sha256 foreign s n
  obtain ⟨merkle', hframe'⟩ := afterEpochEnd_frame crypto.sha256 foreign s' n
  rw [hframe, hframe', hunexpired s hs.validity, hunexpired s' hs'.validity]
  exact ⟨h.pending, h.approved, h.reports, h.counts, rfl, h.params⟩

/-- States that answer the same. -/
structure AlikeStates (st st' : State) : Prop where
  filed : Filed st.store
  filed' : Filed st'.store
  alike : Alike st.store st'.store
  org : st'.org = st.org
  reputation : st'.reputation = st.reputation

theorem AlikeStates.next {st st' : State} (h : AlikeStates st st') (input : Input) :
    AlikeStates ((chain crypto authority foreign).next st input)
        ((chain crypto authority foreign).next st' input) ∧
      (chain crypto authority foreign).output st' input =
        (chain crypto authority foreign).output st input := by
  obtain ⟨s, org, reputation⟩ := st
  obtain ⟨s', org', reputation'⟩ := st'
  obtain ⟨hs, hs', halike, horg, hreputation⟩ := h
  dsimp only at hs hs' halike horg hreputation
  subst horg hreputation
  cases input with
  | msg msg =>
    have hnext : Filed (deliver crypto authority ⟨s, org', reputation'⟩ msg).store :=
      hs.deliver msg
    have hnext' : Filed (deliver crypto authority ⟨s', org', reputation'⟩ msg).store :=
      hs'.deliver msg
    have hmatched : Matched (handle crypto authority ⟨s, org', reputation'⟩ msg)
        (handle crypto authority ⟨s', org', reputation'⟩ msg) :=
      handle_matched org' reputation' halike hs hs' msg
    change AlikeStates (deliver crypto authority _ msg) (deliver crypto authority _ msg) ∧
      (handle crypto authority _ msg).map (fun _ => ()) =
        (handle crypto authority _ msg).map fun _ => ()
    unfold deliver at hnext hnext' ⊢
    revert hnext hnext' hmatched
    generalize handle crypto authority ⟨s, org', reputation'⟩ msg = x
    generalize handle crypto authority ⟨s', org', reputation'⟩ msg = x'
    intro hnext hnext' hmatched
    cases hmatched with
    | refused e => exact ⟨⟨hs, hs', halike, rfl, rfl⟩, rfl⟩
    | accepted org reputation h => exact ⟨⟨hnext, hnext', h, rfl, rfl⟩, rfl⟩
  | otherModules org reputation => exact ⟨⟨hs, hs', halike, rfl, rfl⟩, rfl⟩
  | epochEnd n =>
    exact ⟨⟨hs.afterEpochEnd n, hs'.afterEpochEnd n, afterEpochEnd_alike halike hs hs' n, rfl, rfl⟩,
      rfl⟩

end Later

section Runs
variable (crypto : Crypto) (authority : Bytes) (foreign : Entry → Option StoredMemoryCommitment)

/-- With the imported store in the place of the original one every later message and epoch end has
the same answer, and the orgs have the same numbers of approved memories. -/
def SameLater (st : State) (s' : Store) : Prop :=
  ∀ later : List Input,
    (chain crypto authority foreign).history { st with store := s' } later =
        (chain crypto authority foreign).history st later ∧
      ∀ orgID,
        getApprovedCount ((chain crypto authority foreign).run { st with store := s' } later).store
            orgID =
          getApprovedCount ((chain crypto authority foreign).run st later).store orgID

theorem sameLater_of_restored {st : State} (hs : Filed st.store) {s' : Store} (hs' : Filed s')
    (h : Restored st.store s') : SameLater crypto authority foreign st s' := by
  intro later
  have hstates : AlikeStates st { st with store := s' } := ⟨hs, hs', h.alike, rfl, rfl⟩
  obtain ⟨hrun, hhistory⟩ := (chain crypto authority foreign).history_eq_of_related
    (fun _ _ input h => h.next input) hstates later
  exact ⟨hhistory, hrun.alike.counts⟩

theorem filed_roundTrip {s : Store} (hs : Filed s) : Filed (roundTrip s) := by
  rw [roundTrip_eq hs]
  exact ⟨hs.pending, hs.approved, hs.merkle, forall_empty, hs.relationship, hs.validity⟩

theorem memories_restored_iff (org : Orgs.Store) (reputation : Reputation.Store)
    (inputs : List Input) :
    (Restored ((chain crypto authority foreign).run ⟨{}, org, reputation⟩ inputs).store
          (roundTrip ((chain crypto authority foreign).run ⟨{}, org, reputation⟩ inputs).store) ∧
        SameLater crypto authority foreign
          ((chain crypto authority foreign).run ⟨{}, org, reputation⟩ inputs)
          (roundTrip ((chain crypto authority foreign).run ⟨{}, org, reputation⟩ inputs).store)) ↔
      Exportable ((chain crypto authority foreign).run ⟨{}, org, reputation⟩ inputs).store := by
  have hs : Filed ((chain crypto authority foreign).run ⟨{}, org, reputation⟩ inputs).store :=
    filed_run org reputation inputs
  rw [← restored_iff hs]
  constructor
  · rintro ⟨hrestored, -⟩
    exact hrestored
  · intro hrestored
    exact ⟨hrestored,
      sameLater_of_restored crypto authority foreign hs (filed_roundTrip hs) hrestored⟩

end Runs

section Sample
open EpochHooks (sampleApprove sampleCrypto sampleOrgs sampleSubmit)

/-- One memory is submitted and approved. -/
def sampleApproved : State :=
  (chain sampleCrypto [] decodeForeign).run ⟨{}, {}, {}⟩
    [.otherModules sampleOrgs {}, .msg (.submitCommitment sampleSubmit),
      .msg (.approveMemory sampleApprove)]

/-- After the round trip the org has the memory and a count of none. -/
theorem sampleApproved_not_restored :
    getApprovedCount sampleApproved.store (ascii "o") = 1 ∧
      (roundTrip sampleApproved.store).approved = sampleApproved.store.approved ∧
      getApprovedCount (roundTrip sampleApproved.store) (ascii "o") = 0 ∧
      ¬ Restored sampleApproved.store (roundTrip sampleApproved.store) := by
  have hsample : getApprovedCount sampleApproved.store (ascii "o") = 1 ∧
      (roundTrip sampleApproved.store).approved = sampleApproved.store.approved ∧
      getApprovedCount (roundTrip sampleApproved.store) (ascii "o") = 0 := by
    decide +kernel
  obtain ⟨hbefore, happroved, hafter⟩ := hsample
  refine ⟨hbefore, happroved, hafter, ?_⟩
  intro h
  have hcount := h.counts (ascii "o")
  rw [hbefore, hafter] at hcount
  exact absurd hcount (by decide)

end Sample

end WeVibeChain.Memory
