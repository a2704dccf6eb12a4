import WeVibeChain.PendingLimit

/-!
# x/memory: the lists of one org

The pending commitments of an org, the reports on a memory and the counts of an
org's memories by contributor are read with iterators that have no end. What is
behind is read with the same decoder and skipped only if it does not decode.

Each result is exact where nothing foreign that the scan meets decodes. What can
decode, and when, is said record by record.
-/

set_option autoImplicit false

namespace WeVibeChain.Memory

open Bytes OrderedMap Wire

section Fields

def MemoryState.code : MemoryState → Int32
  | .unspecified => 0
  | .pending => 1
  | .pendingKeyword => 2
  | .pendingChain => 3
  | .committed => 4
  | .denied => 5
  | .archived => 6
  | .reportedDeleted => 7
  | .other code => code

def memoryFields (m : StoredMemoryCommitment) : List Field :=
  bytesField 1 m.orgId ++ (bytesField 2 m.contentHash ++ (bytesField 3 m.encryptedBlob ++
    (bytesField 5 m.contributorPubkey ++ (varintField 6 m.epoch ++
    (varintField 7 m.committedAtHeight ++ (bytesField 9 m.committingLeaderPubkey ++
    (varintField 10 (enumWord m.state.code) ++ (varintField 11 m.lastActiveEpoch ++
    (bytesField 12 m.wrappedDekEnc ++ (varintField 13 (enumWord m.memoryType.code) ++
    (varintField 14 m.approvedAtEpoch ++ (bytesField 15 m.plaintextHash ++ (bytesField 16 m.salt ++
    (bytesField 17 m.ciphertextHash ++ (bytesField 18 m.wrappedDekHash ++
    (bytesField 19 m.contributorSig ++ (bytesField 23 m.contributorAddress ++
    (bytesField 24 m.producerModelId ++ (bytesField 25 m.attestationSessionHash ++
    (varintField 26 m.mcVersion.toUInt64 ++ (repeatedField 27 m.keywords ++ [])))))))))))))))))))))

/-- The fields of a stored value, `none` being the marker. Numbers are raw bytes, and so is it. -/
def valueFields : Option Entry → Option (List Field)
  | some (.relationship r) => some (relationshipFields r)
  | some (.validity v) => some (validityFields v)
  | some (.approved m) => some (memoryFields m)
  | some (.count n) => parse (bigEndian64 n)
  | some (.currentEpoch n) => parse (bigEndian64 n)
  | some (.merkle root) => some (merkleFields root)
  | some (.params p) => some (paramsFields p)
  | some (.pending p) => some (pendingFields p)
  | some (.report r) => some (reportFields r)
  | none => parse genesisInitMarkerValue

/-- The marker is not a record of any kind. -/
theorem marker_unread {ρ : Type} (read : List Field → Option ρ) :
    (valueFields none).bind read = none := by
  have hmarker : valueFields none = none := parse_genesisInitMarkerValue
  rw [hmarker, Option.bind_none]

end Fields

section Reading

def zeroPending : StoredPendingCommitment where
  orgId := []
  contentHash := []
  contributorId := []
  epoch := 0
  submittedAtHeight := 0
  memoryType := .unspecified
  contributorAddress := []
  keywords := []
  producerModelId := []
  attestationSessionHash := []
  mcVersion := 0

def pendingFieldNumbers : List Nat := [1, 2, 4, 5, 6, 7, 8, 9, 11, 24, 25]

def readPendingField (p : StoredPendingCommitment) : Field → Option StoredPendingCommitment
  | ⟨1, .bytes b⟩ => some { p with orgId := b }
  | ⟨2, .bytes b⟩ => some { p with contentHash := b }
  | ⟨4, .bytes b⟩ => some { p with contributorId := b }
  | ⟨5, .varint n⟩ => some { p with epoch := n }
  | ⟨6, .varint n⟩ => some { p with submittedAtHeight := n }
  | ⟨7, .varint n⟩ => some { p with memoryType := .ofCode (enumOfWord n) }
  | ⟨8, .bytes b⟩ => some { p with contributorAddress := b }
  | ⟨9, .bytes b⟩ => some { p with keywords := p.keywords ++ [b] }
  | ⟨11, .varint n⟩ => some { p with mcVersion := n.toUInt32 }
  | ⟨24, .bytes b⟩ => some { p with producerModelId := b }
  | ⟨25, .bytes b⟩ => some { p with attestationSessionHash := b }
  | ⟨number, _⟩ => if number ∈ pendingFieldNumbers then none else some p

def decodePending : Option Entry → Option StoredPendingCommitment
  | some (.pending p) => some p
  | value => (valueFields value).bind (readInto readPendingField zeroPending)

def zeroReport : StoredMemoryReport where
  orgId := []
  contentHash := []
  contributorPubkey := []
  approvingModerators := []
  upholdingModerators := []
  reporterPubkey := []
  committingLeaderPubkey := []
  reason := []
  plaintext := []
  ciphertext := []
  capsule := []
  plaintextHash := []
  plaintextOversized := false
  upheldAtEpoch := 0
  upheldAtTimestamp := 0

def reportFieldNumbers : List Nat := [1, 2, 3, 4, 5, 6, 7, 8, 9, 10, 11, 12, 13, 14, 15]

def readReportField (r : StoredMemoryReport) : Field → Option StoredMemoryReport
  | ⟨1, .bytes b⟩ => some { r with orgId := b }
  | ⟨2, .bytes b⟩ => some { r with contentHash := b }
  | ⟨3, .bytes b⟩ => some { r with contributorPubkey := b }
  | ⟨4, .bytes b⟩ => some { r with approvingModerators := r.approvingModerators ++ [b] }
  | ⟨5, .bytes b⟩ => some { r with upholdingModerators := r.upholdingModerators ++ [b] }
  | ⟨6, .bytes b⟩ => some { r with reporterPubkey := b }
  | ⟨7, .bytes b⟩ => some { r with committingLeaderPubkey := b }
  | ⟨8, .bytes b⟩ => some { r with reason := b }
  | ⟨9, .bytes b⟩ => some { r with plaintext := b }
  | ⟨10, .bytes b⟩ => some { r with ciphertext := b }
  | ⟨11, .bytes b⟩ => some { r with capsule := b }
  | ⟨12, .bytes b⟩ => some { r with plaintextHash := b }
  | ⟨13, .varint n⟩ => some { r with plaintextOversized := n ≠ 0 }
  | ⟨14, .varint n⟩ => some { r with upheldAtEpoch := n }
  | ⟨15, .varint n⟩ => some { r with upheldAtTimestamp := n.toInt64 }
  | ⟨number, _⟩ => if number ∈ reportFieldNumbers then none else some r

def decodeReport : Option Entry → Option StoredMemoryReport
  | some (.report r) => some r
  | value => (valueFields value).bind (readInto readReportField zeroReport)

def decodeCommitment : Option Entry → Option StoredMemoryCommitment
  | some e => decodeForeign e
  | none => (valueFields none).bind memoryOfFields

/-- A report is read as a pending commitment when it names neither a reporter nor a committing leader
nor a moderator who upheld it, and has no capsule. -/
theorem decodePending_report (r : StoredMemoryReport) :
    decodePending (some (.report r)) =
      if r.upholdingModerators = [] ∧ r.reporterPubkey = [] ∧ r.committingLeaderPubkey = [] ∧
          r.capsule = [] then
        some { zeroPending with
          orgId := r.orgId
          contentHash := r.contentHash
          contributorId := r.approvingModerators.getLast?.getD []
          contributorAddress := r.reason
          keywords := if r.plaintext = [] then [] else [r.plaintext] }
      else none := by
  simp only [ite_and]
  change readInto readPendingField zeroPending (reportFields r) = _
  unfold reportFields
  refine readInto_bytesField ?_
  refine readInto_bytesField ?_
  refine readInto_bytesField ?_
  refine readInto_repeatedField ?_
  refine readInto_repeatedField_refused ?_
  refine readInto_bytesField_refused ?_
  refine readInto_bytesField_refused ?_
  refine readInto_bytesField ?_
  -- the plaintext stands where a commitment has a keyword
  refine Eq.trans (readInto_bytesField_element (fun _ => rfl) _) ?_
  refine readInto_bytesField ?_
  refine readInto_bytesField_refused ?_
  refine readInto_bytesField ?_
  refine readInto_varintField ?_
  refine readInto_varintField ?_
  refine readInto_varintField ?_
  rw [readInto_nil]
  split
  · rfl
  · rfl

end Reading

section Lists

def reportPrefix (orgID contentHash : Bytes) : Bytes :=
  ascii "report/" ++ orgID ++ slash :: (hexEncode contentHash ++ [slash])

def getAllPendingForOrg (marked : Bool) (s : Store) (orgID : Bytes) : List PendingCommitment :=
  ((iterateFrom marked s (pendingPrefix orgID)).filterMap fun e => decodePending e.2).map
    storedToPending

def getMemoryReports (marked : Bool) (s : Store) (orgID contentHash : Bytes) :
    List StoredMemoryReport :=
  (iterateFrom marked s (reportPrefix orgID contentHash)).filterMap fun e => decodeReport e.2

def getApprovedCountByContributor (marked : Bool) (s : Store) (orgID : Bytes) (epoch : UInt64) :
    OrderedMap Bytes UInt64 :=
  ((((iterateFrom marked s (approvedPrefix orgID)).filterMap fun e => decodeCommitment e.2).filter
    fun stored => stored.epoch = epoch).map StoredMemoryCommitment.contributorPubkey).foldl
      countContributor ∅

variable {s : Store}

/-- A decoder that skips the marker sees the entries of the module. -/
theorem filterMap_iterateFrom {ρ : Type} (decode : Option Entry → Option ρ)
    (hmarker : decode none = none) (marked : Bool) (lo : Bytes) :
    ((iterateFrom marked s lo).filterMap fun e => decode e.2) =
      (s.iteratorFrom lo).filterMap fun e => decode (some e.2) := by
  unfold iterateFrom
  rw [List.filterMap_append, List.filterMap_map]
  have hnone : (if marked ∧ lo ≤ genesisInitMarkerKey then [(genesisInitMarkerKey, none)] else []
      ).filterMap (fun e : Bytes × Option Entry => decode e.2) = [] := by
    split
    · simp [hmarker]
    · rfl
  rw [hnone, List.append_nil]
  rfl

end Lists

section Pending
variable {s : Store}

theorem storedToPending_injective : Function.Injective storedToPending := by
  intro p p' h
  have hstored := congrArg pendingToStored h
  exact hstored

/-- What the scan of the org's pending commitments returns. -/
theorem Keyed.getAllPendingForOrg_eq (hs : Keyed s) (marked : Bool) (orgID : Bytes) :
    getAllPendingForOrg marked s orgID =
      ((s.pending.values.filter fun p => pendingPrefix orgID ≤ pendingKey p.orgId p.contentHash) ++
        s.report.values.filterMap fun r => decodePending (some (.report r))).map storedToPending := by
  have hreport : (s.report.entries.map fun e => (e.1, Entry.report e.2)).filterMap
      (fun e => decodePending (some e.2)) =
        s.report.values.filterMap fun r => decodePending (some (.report r)) := by
    rw [OrderedMap.values, List.filterMap_map, List.filterMap_map]
    rfl
  unfold getAllPendingForOrg
  rw [filterMap_iterateFrom decodePending (marker_unread (readInto readPendingField zeroPending)),
    hs.iteratorFrom_pending, List.filterMap_append, scan_decode hs.pending fun e => decodePending (some e), hreport]
  congr 2
  exact List.filterMap_some

/-- Whether a report is read as a pending commitment. -/
def ReadAsPending (r : StoredMemoryReport) : Prop :=
  r.upholdingModerators = [] ∧ r.reporterPubkey = [] ∧ r.committingLeaderPubkey = [] ∧ r.capsule = []

theorem Keyed.pending_exact_iff (hs : Keyed s) (marked : Bool) (orgID : Bytes) :
    (getAllPendingForOrg marked s orgID).Perm
        ((s.pending.values.filter fun p => p.orgId = orgID).map storedToPending) ↔
      (∀ p ∈ s.pending.values, pendingPrefix orgID ≤ pendingKey p.orgId p.contentHash →
          p.orgId = orgID) ∧
        ∀ r ∈ s.report.values, ¬ ReadAsPending r := by
  rw [hs.getAllPendingForOrg_eq, List.map_perm_map_iff storedToPending_injective,
    filter_append_perm_filter_iff]
  refine and_congr_right fun _ => ?_
  have hnone : (s.pending.values.filter fun p =>
      p.orgId = orgID ∧ ¬ pendingPrefix orgID ≤ pendingKey p.orgId p.contentHash) = [] := by
    rw [List.filter_eq_nil_iff]
    rintro p - hp
    obtain ⟨horg, hbefore⟩ := of_decide_eq_true hp
    exact hbefore (horg ▸ pendingPrefix_le_pendingKey p.orgId p.contentHash)
  rw [hnone, List.perm_nil, List.filterMap_eq_nil_iff]
  refine forall₂_congr fun r _ => ?_
  rw [decodePending_report]
  unfold ReadAsPending
  split
  · rename_i hread
    exact iff_of_false (fun h => by cases h) (not_not_intro hread)
  · rename_i hread
    exact iff_of_true rfl hread

end Pending

section Reports
variable {s : Store}

theorem reportPrefix_le_reportKey (orgID contentHash reporterID : Bytes) :
    reportPrefix orgID contentHash ≤ reportKey orgID contentHash reporterID := by
  have happend : reportKey orgID contentHash reporterID =
      reportPrefix orgID contentHash ++ reporterID := by
    simp [reportKey, reportPrefix]
  rw [happend]
  exact le_append _ _

/-- A scan from a report key meets reports only. -/
theorem Keyed.getMemoryReports_eq (hs : Keyed s) (marked : Bool) (orgID contentHash : Bytes) :
    getMemoryReports marked s orgID contentHash =
      s.report.values.filter fun r =>
        reportPrefix orgID contentHash ≤ reportKey r.orgId r.contentHash r.reporterPubkey := by
  have hpending : s.pending.Forall fun k _ => k < reportPrefix orgID contentHash := by
    intro k p hget
    rw [← hs.pending k p hget]
    exact cons_lt_cons_of_lt (by decide) _ _
  have hparams : ascii "params" < reportPrefix orgID contentHash :=
    cons_lt_cons_of_lt (by decide) _ _
  unfold getMemoryReports
  rw [filterMap_iterateFrom decodeReport (marker_unread (readInto readReportField zeroReport)),
    hs.iteratorFrom_of_params_lt hparams, scan_eq_nil hpending, List.nil_append,
    scan_decode hs.report fun e => decodeReport (some e)]
  exact List.filterMap_some

theorem Keyed.reports_exact_iff (hs : Keyed s) (marked : Bool) (orgID contentHash : Bytes) :
    (getMemoryReports marked s orgID contentHash).Perm
        (s.report.values.filter fun r => r.orgId = orgID ∧ r.contentHash = contentHash) ↔
      ∀ r ∈ s.report.values,
        reportPrefix orgID contentHash ≤ reportKey r.orgId r.contentHash r.reporterPubkey →
          r.orgId = orgID ∧ r.contentHash = contentHash := by
  have hnone : (s.report.values.filter fun r => (r.orgId = orgID ∧ r.contentHash = contentHash) ∧
      ¬ reportPrefix orgID contentHash ≤ reportKey r.orgId r.contentHash r.reporterPubkey) = [] := by
    rw [List.filter_eq_nil_iff]
    rintro r - hr
    obtain ⟨⟨rfl, rfl⟩, hbefore⟩ := of_decide_eq_true hr
    exact hbefore (reportPrefix_le_reportKey _ _ _)
  rw [hs.getMemoryReports_eq, ← List.append_nil (List.filter _ _), filter_append_perm_filter_iff,
    hnone]
  exact and_iff_left (List.Perm.refl [])

end Reports

section Counts
variable {s : Store} {orgID : Bytes} {epoch : UInt64} {contributor : Bytes}

theorem get_foldl_countContributor (contributors : List Bytes) (contributor : Bytes) :
    (contributors.foldl countContributor ∅).get contributor =
      if contributors.count contributor = 0 then none
      else some (UInt64.ofNat (contributors.count contributor)) := by
  induction contributors using List.reverseRecOn with
  | nil => rfl
  | append_singleton contributors c ih =>
    rw [List.foldl_append, List.foldl_cons, List.foldl_nil, countContributor, get_set,
      List.count_append]
    by_cases hc : contributor = c
    · subst hc
      rw [if_pos rfl, ih, List.count_singleton_self, if_neg (Nat.succ_ne_zero _), UInt64.ofNat_add]
      split
      · rename_i hnew
        rw [hnew]
        rfl
      · rfl
    · have hzero : [c].count contributor = 0 := by simp [Ne.symm hc]
      rw [if_neg hc, ih, hzero, Nat.add_zero]

/-- Whether the value is read as a memory of the epoch by the contributor. -/
def readFor (epoch : UInt64) (contributor : Bytes) : Entry → Bool
  | .approved record => record.epoch = epoch ∧ record.contributorPubkey = contributor
  | .count n => (memoryOfWord n).any fun m => m.epoch = epoch ∧ m.contributorPubkey = contributor
  | .currentEpoch n =>
    (memoryOfWord n).any fun m => m.epoch = epoch ∧ m.contributorPubkey = contributor
  | .merkle root => root.epoch = 0 ∧ epoch = 0 ∧ contributor = []
  | .params p =>
    (p.maxPendingPerOrg = 0 ∧ p.pendingRetentionEpochs = 0 ∧ p.maxBlobSizeBytes = 0) ∧
      epoch = 0 ∧ contributor = []
  | .pending p => p.epoch = 0 ∧ p.submittedAtHeight = epoch ∧ contributor = []
  | .report r =>
    (r.reporterPubkey = [] ∧ r.committingLeaderPubkey = [] ∧ r.ciphertext = [] ∧ r.capsule = []) ∧
      epoch = 0 ∧ r.upholdingModerators.getLast?.getD [] = contributor
  | .relationship _ => false
  | .validity _ => false

/-- Whether the value is a memory of the org. -/
def isOwn (orgID : Bytes) : Entry → Bool
  | .approved record => record.orgId = orgID
  | _ => false

/-- How many values that are not memories of the org the scan takes for memories of the epoch by the
contributor. -/
def misread (s : Store) (orgID : Bytes) (epoch : UInt64) (contributor : Bytes) : Nat :=
  s.entries.countP fun e =>
    ¬ isOwn orgID e.2 ∧ approvedPrefix orgID ≤ e.1 ∧ readFor epoch contributor e.2

/-- How many memories of the org the contributor has in the epoch. -/
def ownCount (s : Store) (orgID : Bytes) (epoch : UInt64) (contributor : Bytes) : Nat :=
  (ownMemories s orgID epoch).countP fun record => record.contributorPubkey = contributor

/-- What the decoder makes of the value of a key that the scan meets. -/
theorem Keyed.decoded_iff (hs : Keyed s) {k : Bytes} {e : Entry} (hholds : s.Holds k e)
    (hle : approvedPrefix orgID ≤ k) :
    ((decodeForeign e).any fun m => m.epoch = epoch ∧ m.contributorPubkey = contributor) =
      readFor epoch contributor e := by
  cases e with
  | relationship r =>
    obtain ⟨rest, rfl⟩ := hs.relationship k r hholds
    exact absurd hle (not_le.mpr (cons_lt_cons_of_lt (by decide) _ _))
  | validity v =>
    obtain ⟨rest, rfl⟩ := hs.validity k v hholds
    exact absurd hle (not_le.mpr (cons_lt_cons_of_lt (by decide) _ _))
  | approved record => rfl
  | count n => rfl
  | currentEpoch n => rfl
  | merkle root =>
    rw [decodeForeign_merkle]
    by_cases hroot : root.epoch = 0
    · simp [readFor, hroot, zeroMemory, eq_comm]
    · simp [readFor, hroot]
  | params p =>
    rw [decodeForeign_params]
    by_cases hp : p.maxPendingPerOrg = 0 ∧ p.pendingRetentionEpochs = 0 ∧ p.maxBlobSizeBytes = 0
    · simp [readFor, hp, zeroMemory, eq_comm]
    · rw [if_neg hp]
      simp [readFor, hp]
  | pending p =>
    rw [decodeForeign_pending]
    by_cases hp : p.epoch = 0
    · simp [readFor, hp, zeroMemory, eq_comm]
    · simp [readFor, hp]
  | report r =>
    have htime : r.upheldAtTimestamp.toUInt64 = 0 := by
      rw [hs.timestamp k r hholds]
      rfl
    rw [decodeForeign_report]
    by_cases hr : r.reporterPubkey = [] ∧ r.committingLeaderPubkey = [] ∧ r.ciphertext = [] ∧
        r.capsule = []
    · simp [readFor, hr, htime, zeroMemory, eq_comm]
    · have hr' : ¬ (r.reporterPubkey = [] ∧ r.committingLeaderPubkey = [] ∧ r.ciphertext = [] ∧
          r.capsule = [] ∧ r.upheldAtTimestamp.toUInt64 = 0) := by
        simpa [htime] using hr
      rw [if_neg hr']
      simp [readFor, hr]

theorem Keyed.count_scanned (hs : Keyed s) :
    ((s.entries.filterMap (scanned decodeForeign orgID epoch)).map
        StoredMemoryCommitment.contributorPubkey).count contributor =
      s.entries.countP fun e => approvedPrefix orgID ≤ e.1 ∧ readFor epoch contributor e.2 := by
  rw [List.count, List.countP_map, List.countP_filterMap]
  refine List.countP_congr ?_
  rintro ⟨k, e⟩ he
  unfold scanned
  by_cases hle : approvedPrefix orgID ≤ k
  · have hread : ((decodeForeign e).any fun m =>
        m.epoch = epoch ∧ m.contributorPubkey = contributor) = readFor epoch contributor e :=
      hs.decoded_iff (mem_entries.mp he) hle
    rw [if_pos hle, decodeMemory_decodeForeign]
    simp only [hle, true_and, ← hread]
    cases decodeForeign e with
    | none => simp
    | some m =>
      by_cases hepoch : m.epoch = epoch
      · simp [hepoch, Option.filter]
      · simp [hepoch, Option.filter]
  · simp [hle]

/-- The own memories that the scan meets are all there are. -/
theorem countP_own :
    (s.entries.countP fun e => isOwn orgID e.2 ∧ readFor epoch contributor e.2) =
      ownCount s orgID epoch contributor := by
  have hother : ∀ {V : Type} (family : OrderedMap Bytes V) (entry : V → Entry),
      (∀ v, isOwn orgID (entry v) = false) →
        (family.entries.map fun e => (e.1, entry e.2)).countP
          (fun e => isOwn orgID e.2 ∧ readFor epoch contributor e.2) = 0 := by
    intro V family entry hfamily
    rw [List.countP_map, List.countP_eq_zero]
    intro e _
    simp [hfamily]
  have hsingle : ∀ {V : Type} (k : Bytes) (value : Option V) (entry : V → Entry),
      (∀ v, isOwn orgID (entry v) = false) →
        (value.toList.map fun v => (k, entry v)).countP
          (fun e => isOwn orgID e.2 ∧ readFor epoch contributor e.2) = 0 := by
    intro V k value entry hfamily
    rw [List.countP_map, List.countP_eq_zero]
    intro v _
    simp [hfamily]
  simp only [Store.entries, List.countP_append]
  rw [hother s.relationship .relationship fun _ => rfl, hother s.validity .validity fun _ => rfl,
    hother s.count .count fun _ => rfl, hsingle _ s.currentEpoch .currentEpoch fun _ => rfl,
    hother s.merkle .merkle fun _ => rfl, hsingle _ s.params .params fun _ => rfl,
    hother s.pending .pending fun _ => rfl, hother s.report .report fun _ => rfl]
  unfold ownCount ownMemories OrderedMap.values
  rw [List.countP_filter, List.countP_map, List.countP_map]
  simp only [Nat.zero_add, Nat.add_zero]
  refine List.countP_congr fun e _ => ?_
  simp only [Function.comp_apply, isOwn, readFor, decide_eq_true_eq, Bool.and_eq_true]
  tauto

theorem Keyed.get_counts (hs : Keyed s) (marked : Bool) :
    (getApprovedCountByContributor marked s orgID epoch).get contributor =
      if ownCount s orgID epoch contributor + misread s orgID epoch contributor = 0 then none
      else some (UInt64.ofNat
        (ownCount s orgID epoch contributor + misread s orgID epoch contributor)) := by
  have hmet : ∀ e ∈ s.entries, isOwn orgID e.2 ∧ readFor epoch contributor e.2 →
      approvedPrefix orgID ≤ e.1 ∧ readFor epoch contributor e.2 := by
    rintro ⟨k, e⟩ he ⟨hown, hread⟩
    refine ⟨?_, hread⟩
    cases e with
    | approved record =>
      have hkey : k = approvedKey record.orgId record.contentHash :=
        hs.approved k record (mem_entries.mp he)
      rw [hkey, ← of_decide_eq_true hown]
      exact approvedPrefix_le_approvedKey _ _
    | relationship | validity | count | currentEpoch | merkle | params | pending | report =>
      cases hown
  have htotal : (s.entries.countP fun e =>
      approvedPrefix orgID ≤ e.1 ∧ readFor epoch contributor e.2) =
        ownCount s orgID epoch contributor + misread s orgID epoch contributor := by
    rw [countP_kept_eq_add hmet, countP_own]
    congr 1
    refine List.countP_congr fun e _ => ?_
    simp only [decide_eq_true_eq]
    tauto
  unfold getApprovedCountByContributor
  rw [filterMap_iterateFrom decodeCommitment (marker_unread memoryOfFields), get_foldl_countContributor]
  have hscan : ((s.iteratorFrom (approvedPrefix orgID)).filterMap
      fun e => decodeCommitment (some e.2)).filter (fun stored => stored.epoch = epoch) =
        s.entries.filterMap (scanned decodeForeign orgID epoch) := by
    rw [← filter_filterMap_iteratorFrom]
    simp only [decodeMemory_decodeForeign]
    rfl
  rw [hscan, hs.count_scanned, htotal]

/-- The counts are those of the org's memories. -/
def CountsOwn (counts : OrderedMap Bytes UInt64) (s : Store) (orgID : Bytes) (epoch : UInt64) :
    Prop :=
  ∀ contributor, (counts.get contributor).map UInt64.toNat =
    if ownCount s orgID epoch contributor = 0 then none
    else some (ownCount s orgID epoch contributor)

theorem Keyed.counts_exact_iff (hs : Keyed s) (marked : Bool) :
    CountsOwn (getApprovedCountByContributor marked s orgID epoch) s orgID epoch ↔
      ∀ contributor, ownCount s orgID epoch contributor < 2 ^ 64 ∧
        misread s orgID epoch contributor % 2 ^ 64 = 0 ∧
        (ownCount s orgID epoch contributor = 0 → misread s orgID epoch contributor = 0) := by
  refine forall_congr' fun contributor => ?_
  rw [hs.get_counts]
  generalize ownCount s orgID epoch contributor = own
  generalize misread s orgID epoch contributor = more
  by_cases hown : own = 0
  · subst hown
    by_cases hmore : more = 0
    · subst hmore
      simp
    · rw [if_neg (by omega), if_pos rfl]
      exact iff_of_false (by simp) fun h => hmore (h.2.2 rfl)
  · rw [if_neg (by omega), if_neg hown, Option.map_some, Option.some_inj, UInt64.toNat_ofNat']
    omega

end Counts

section Exactness

/-- In every store that the calls reach, when each of the three results is exact. -/
theorem org_lists_exact_iff (marked : Bool) (sha256 : Bytes → Bytes) (calls : List KeeperCall)
    (orgID contentHash : Bytes) (epoch : UInt64) :
    ((getAllPendingForOrg marked (called marked sha256 calls).store orgID).Perm
        (((called marked sha256 calls).store.pending.values.filter fun p => p.orgId = orgID).map
          storedToPending) ↔
      (∀ p ∈ (called marked sha256 calls).store.pending.values,
          pendingPrefix orgID ≤ pendingKey p.orgId p.contentHash → p.orgId = orgID) ∧
        ∀ r ∈ (called marked sha256 calls).store.report.values, ¬ ReadAsPending r) ∧
    ((getMemoryReports marked (called marked sha256 calls).store orgID contentHash).Perm
        ((called marked sha256 calls).store.report.values.filter fun r =>
          r.orgId = orgID ∧ r.contentHash = contentHash) ↔
      ∀ r ∈ (called marked sha256 calls).store.report.values,
        reportPrefix orgID contentHash ≤ reportKey r.orgId r.contentHash r.reporterPubkey →
          r.orgId = orgID ∧ r.contentHash = contentHash) ∧
    (CountsOwn (getApprovedCountByContributor marked (called marked sha256 calls).store orgID epoch)
        (called marked sha256 calls).store orgID epoch ↔
      ∀ contributor,
        ownCount (called marked sha256 calls).store orgID epoch contributor < 2 ^ 64 ∧
        misread (called marked sha256 calls).store orgID epoch contributor % 2 ^ 64 = 0 ∧
        (ownCount (called marked sha256 calls).store orgID epoch contributor = 0 →
          misread (called marked sha256 calls).store orgID epoch contributor = 0)) := by
  have hs := keyed_called marked sha256 calls
  exact ⟨hs.pending_exact_iff marked orgID, hs.reports_exact_iff marked orgID contentHash,
    hs.counts_exact_iff marked⟩

open EpochHooks (sampleCrypto sampleHash)

/-- Org `b` has a memory, a report on it and a pending commitment with the same hash. -/
def recordsOfB : List KeeperCall :=
  [.otherModules twoOrgs {},
    .submitCommitment (sampleCommitment (ascii "b")),
    .approveMemory
      { orgID := ascii "b", contentHash := sampleHash, encryptedBlob := ascii "m",
        committingLeader := ascii "l" },
    .reportMemory
      { signer := ascii "l", orgId := ascii "b", contentHash := sampleHash,
        contributorPubkey := ascii "c", reporterPubkey := ascii "r", reason := ascii "x",
        capsule := ascii "k", plaintextHash := sampleHash } 0,
    .submitCommitment (sampleCommitment (ascii "b"))]

/-- All of it is returned for org `a`, which has nothing. -/
theorem records_of_other_org_returned :
    getAllPendingForOrg false (called false sampleCrypto.sha256 recordsOfB).store (ascii "a") =
        [sampleCommitment (ascii "b")] ∧
      (getMemoryReports false (called false sampleCrypto.sha256 recordsOfB).store (ascii "a")
        sampleHash).map StoredMemoryReport.orgId = [ascii "b"] ∧
      ownMemories (called false sampleCrypto.sha256 recordsOfB).store (ascii "a") 1 = [] ∧
      (getApprovedCountByContributor false (called false sampleCrypto.sha256 recordsOfB).store
        (ascii "a") 1).entries = [(ascii "c", 1)] := by
  decide +kernel

end Exactness

end WeVibeChain.Memory
