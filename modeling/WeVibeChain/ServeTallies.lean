import Mathlib.Data.List.Dedup
import WeVibeChain.ServeChanges

/-!
# x/serve: what the tallies count

The receipts and denials are the record of what was accepted; every other key
family is a tally of them or a marker for a tally. The specification says, for
lists of receipts and denials, what each tally has to be, modulo `2^64`. One
accepted serve or denial adds one receipt or denial to the lists and keeps every
tally that of the lists.
-/

set_option autoImplicit false

namespace WeVibeChain.Serve

open Bytes

section Specification

def receiptsOf (rs : List StoredServeReceipt) (orgID : Bytes) (epoch : UInt64) :
    List StoredServeReceipt :=
  rs.filter fun r => orgID = r.orgId ∧ epoch = r.epoch

def denialsOf (ds : List StoredDenialReceipt) (orgID : Bytes) (epoch : UInt64) :
    List StoredDenialReceipt :=
  ds.filter fun d => orgID = d.orgId ∧ epoch = d.epoch

def receiptsNaming (rs : List StoredServeReceipt) (contributorID : Bytes) (epoch : UInt64) :
    List StoredServeReceipt :=
  rs.filter fun r => contributorID = r.contributorId ∧ epoch = r.epoch

/-- The model a receipt counts for, if it names one. -/
def modelOf (r : StoredServeReceipt) : Option Bytes :=
  if r.modelId = [] then none else some r.modelId

/-- The statistics are those of the receipts and denials of one org and epoch. -/
structure StatsCount (es : EpochServeStats) (rs : List StoredServeReceipt)
    (ds : List StoredDenialReceipt) : Prop where
  totalServes : es.totalServes = UInt64.ofNat rs.length
  totalDenials : es.totalDenials = UInt64.ofNat ds.length
  uniqueMemories : es.uniqueMemoriesServed =
    UInt64.ofNat (rs.map StoredServeReceipt.memoryContentHash).dedup.length
  uniqueKeys : es.uniqueServeKeys =
    UInt64.ofNat (rs.map StoredServeReceipt.serveKeyPubkey).dedup.length
  selfServes : es.selfServes = UInt64.ofNat (rs.countP StoredServeReceipt.isSelfServe)
  models : es.modelBreakdown.Counts modelOf rs

/-- The record is that of the receipts naming one contributor in one epoch. -/
structure ContributorCount (cs : ContributorEpochServes) (rs : List StoredServeReceipt) :
    Prop where
  serveCount : cs.serveCount = UInt64.ofNat rs.length
  selfServeCount : cs.selfServeCount = UInt64.ofNat (rs.countP StoredServeReceipt.isSelfServe)
  totalTurns : cs.totalTurns = UInt64.ofNat (rs.map fun r => r.turnCount.toNat).sum
  orgsNodup : cs.orgIDs.Nodup
  orgs : ∀ o, o ∈ cs.orgIDs ↔ ∃ r ∈ rs, r.orgId = o

end Specification

section StatsSteps

/-- The two counters of first occurrences. -/
def countFirsts (memorySeen keySeen : Bool) (es : EpochServeStats) : EpochServeStats :=
  { es with
    uniqueMemoriesServed :=
      if memorySeen then es.uniqueMemoriesServed else es.uniqueMemoriesServed + 1
    uniqueServeKeys := if keySeen then es.uniqueServeKeys else es.uniqueServeKeys + 1 }

theorem ofNat_succ (n : Nat) : UInt64.ofNat n + 1 = UInt64.ofNat (n + 1) :=
  (UInt64.ofNat_add n 1).symm

theorem length_dedup_cons (x : Bytes) (xs : List Bytes) :
    UInt64.ofNat (x :: xs).dedup.length =
      if x ∈ xs then UInt64.ofNat xs.dedup.length else UInt64.ofNat xs.dedup.length + 1 := by
  split
  · rename_i h
    rw [List.dedup_cons_of_mem h]
  · rename_i h
    rw [List.dedup_cons_of_notMem h, List.length_cons, ofNat_succ]

theorem selfServes_cons (r : StoredServeReceipt) (rs : List StoredServeReceipt) :
    UInt64.ofNat ((r :: rs).countP StoredServeReceipt.isSelfServe) =
      if r.isSelfServe then UInt64.ofNat (rs.countP StoredServeReceipt.isSelfServe) + 1
      else UInt64.ofNat (rs.countP StoredServeReceipt.isSelfServe) := by
  rw [List.countP_cons]
  split
  · rw [ofNat_succ]
  · rfl

theorem countModel_counts {breakdown : OrderedMap Bytes UInt64} {rs : List StoredServeReceipt}
    (h : breakdown.Counts modelOf rs) (r : StoredServeReceipt) :
    (countModel breakdown r.modelId).Counts modelOf (r :: rs) := by
  unfold countModel
  split
  · rename_i hmodel
    exact h.skip (by simp [modelOf, hmodel])
  · rename_i hmodel
    exact h.bump (by simp [modelOf, hmodel])

theorem StatsCount.serve {es : EpochServeStats} {rs : List StoredServeReceipt}
    {ds : List StoredDenialReceipt} (h : StatsCount es rs ds) (r : StoredServeReceipt)
    {memorySeen keySeen : Bool}
    (hmemory : memorySeen = true ↔ r.memoryContentHash ∈ rs.map StoredServeReceipt.memoryContentHash)
    (hkey : keySeen = true ↔ r.serveKeyPubkey ∈ rs.map StoredServeReceipt.serveKeyPubkey) :
    StatsCount (countServe r.isSelfServe r.modelId (countFirsts memorySeen keySeen es))
      (r :: rs) ds where
  totalServes := by
    simp only [countServe, countFirsts, h.totalServes, List.length_cons, ofNat_succ]
  totalDenials := h.totalDenials
  uniqueMemories := by
    rw [List.map_cons, length_dedup_cons, ← h.uniqueMemories]
    simp only [countServe, countFirsts, hmemory]
  uniqueKeys := by
    rw [List.map_cons, length_dedup_cons, ← h.uniqueKeys]
    simp only [countServe, countFirsts, hkey]
  selfServes := by
    rw [selfServes_cons, ← h.selfServes]
    rfl
  models := countModel_counts h.models r

theorem StatsCount.denial {es : EpochServeStats} {rs : List StoredServeReceipt}
    {ds : List StoredDenialReceipt} (h : StatsCount es rs ds) (d : StoredDenialReceipt) :
    StatsCount { es with totalDenials := es.totalDenials + 1 } rs (d :: ds) :=
  { h with totalDenials := by simp only [h.totalDenials, List.length_cons, ofNat_succ] }

theorem addOrgID_nodup {cs : ContributorEpochServes} (h : cs.orgIDs.Nodup) (orgID : Bytes) :
    (cs.addOrgID orgID).orgIDs.Nodup := by
  unfold ContributorEpochServes.addOrgID
  split
  · exact h
  · rename_i hnew
    simpa using h.concat hnew

theorem mem_addOrgID {cs : ContributorEpochServes} {orgID o : Bytes} :
    o ∈ (cs.addOrgID orgID).orgIDs ↔ o = orgID ∨ o ∈ cs.orgIDs := by
  unfold ContributorEpochServes.addOrgID
  split
  · rename_i hold
    constructor
    · exact Or.inr
    · intro hcase
      rcases hcase with rfl | h
      · exact hold
      · exact h
  · simp [or_comm]

/-- The org list apart, one serve adds to the counters. -/
theorem countContributorServe_eq (orgID : Bytes) (isSelfServe : Bool) (turnCount : UInt32)
    (cs : ContributorEpochServes) :
    countContributorServe orgID isSelfServe turnCount cs =
      { cs with
        serveCount := cs.serveCount + 1
        selfServeCount := if isSelfServe then cs.selfServeCount + 1 else cs.selfServeCount
        orgIDs := (cs.addOrgID orgID).orgIDs
        totalTurns := cs.totalTurns + turnCount.toUInt64 } := by
  unfold countContributorServe ContributorEpochServes.addOrgID
  dsimp only
  split <;> rfl

theorem ContributorCount.serve {cs : ContributorEpochServes} {rs : List StoredServeReceipt}
    (h : ContributorCount cs rs) (r : StoredServeReceipt) :
    ContributorCount (countContributorServe r.orgId r.isSelfServe r.turnCount cs) (r :: rs) := by
  rw [countContributorServe_eq]
  refine ⟨?_, ?_, ?_, addOrgID_nodup h.orgsNodup r.orgId, ?_⟩
  · simp only [h.serveCount, List.length_cons, ofNat_succ]
  · rw [selfServes_cons, ← h.selfServeCount]
  · have hturns : r.turnCount.toUInt64 = UInt64.ofNat r.turnCount.toNat := by
      simp
    simp only [h.totalTurns, List.map_cons, List.sum_cons, hturns]
    rw [← UInt64.ofNat_add, Nat.add_comm]
  · intro o
    rw [mem_addOrgID, h.orgs]
    constructor
    · intro hcase
      rcases hcase with rfl | ⟨r', hr', rfl⟩
      · exact ⟨r, List.mem_cons_self, rfl⟩
      · exact ⟨r', List.mem_cons_of_mem r hr', rfl⟩
    · intro hall
      obtain ⟨r', hr', rfl⟩ := hall
      rcases List.mem_cons.mp hr' with rfl | hr'
      · exact Or.inl rfl
      · exact Or.inr ⟨r', hr', rfl⟩

theorem StatsCount.perm {es : EpochServeStats} {rs rs' : List StoredServeReceipt}
    {ds ds' : List StoredDenialReceipt} (h : StatsCount es rs ds) (hr : rs.Perm rs')
    (hd : ds.Perm ds') : StatsCount es rs' ds' where
  totalServes := by rw [h.totalServes, hr.length_eq]
  totalDenials := by rw [h.totalDenials, hd.length_eq]
  uniqueMemories := by rw [h.uniqueMemories, (hr.map _).dedup.length_eq]
  uniqueKeys := by rw [h.uniqueKeys, (hr.map _).dedup.length_eq]
  selfServes := by rw [h.selfServes, hr.countP_eq]
  models := h.models.perm hr

theorem ContributorCount.perm {cs : ContributorEpochServes} {rs rs' : List StoredServeReceipt}
    (h : ContributorCount cs rs) (hr : rs.Perm rs') : ContributorCount cs rs' where
  serveCount := by rw [h.serveCount, hr.length_eq]
  selfServeCount := by rw [h.selfServeCount, hr.countP_eq]
  totalTurns := by rw [h.totalTurns, (hr.map _).sum_nat]
  orgsNodup := h.orgsNodup
  orgs := by
    intro o
    simp only [h.orgs, hr.mem_iff]

end StatsSteps

section Effects

/-- The statistics of an org and epoch; where none are stored they are zero. -/
def statsOf (s : Store) (orgID : Bytes) (epoch : UInt64) : EpochServeStats :=
  (getEpochServeStats s orgID epoch).getD (newEpochServeStats orgID epoch)

def contributorOf (s : Store) (contributorID : Bytes) (epoch : UInt64) : ContributorEpochServes :=
  (getContributorEpochServes s contributorID epoch).getD
    (newContributorEpochServes contributorID epoch)

variable (s : Store) (orgID : Bytes) (epoch : UInt64)

theorem statsOf_modify (fn : EpochServeStats → EpochServeStats) (o : Bytes) (e : UInt64) :
    statsOf (modifyEpochStats s orgID epoch fn) o e =
      if o = orgID ∧ e = epoch then fn (statsOf s orgID epoch) else statsOf s o e := by
  unfold statsOf getEpochServeStats modifyEpochStats
  simp only [OrderedMap.get_set, statsKey_inj]
  split <;> rfl

/-- The markers grow by one key whether it was there or not; of the rest only the statistics
change. -/
theorem countUniqueMemory_frame (contentHash : Bytes) :
    ∃ stats, countUniqueMemory s orgID epoch contentHash =
      { s with
        memFirst := s.memFirst.set (memFirstKey orgID contentHash epoch) ()
        stats := stats } := by
  unfold countUniqueMemory
  split
  · rename_i hseen
    obtain ⟨u, hu⟩ := OrderedMap.has_iff.mp hseen
    exact ⟨s.stats, by rw [OrderedMap.set_eq_self hu]⟩
  · exact ⟨_, rfl⟩

theorem countUniqueServeKey_frame (serveKey : Bytes) :
    ∃ stats, countUniqueServeKey s orgID epoch serveKey =
      { s with
        keyFirst := s.keyFirst.set (keyFirstKey orgID serveKey epoch) ()
        stats := stats } := by
  unfold countUniqueServeKey
  split
  · rename_i hseen
    obtain ⟨u, hu⟩ := OrderedMap.has_iff.mp hseen
    exact ⟨s.stats, by rw [OrderedMap.set_eq_self hu]⟩
  · exact ⟨_, rfl⟩

/-- Counting what has not been seen before. -/
theorem statsOf_countUnique {marked : Store} (hmarked : marked.stats = s.stats) (seen : Bool)
    (fn : EpochServeStats → EpochServeStats) (o : Bytes) (e : UInt64) :
    statsOf (if seen then s else modifyEpochStats marked orgID epoch fn) o e =
      if o = orgID ∧ e = epoch then
        if seen then statsOf s orgID epoch else fn (statsOf s orgID epoch)
      else statsOf s o e := by
  have hsame : ∀ o e, statsOf marked o e = statsOf s o e := by
    intro o e
    unfold statsOf getEpochServeStats
    rw [hmarked]
  cases seen with
  | true =>
    by_cases hoe : o = orgID ∧ e = epoch
    · rw [if_pos hoe, hoe.1, hoe.2]
      rfl
    · rw [if_neg hoe]
      rfl
  | false =>
    rw [← hsame, ← hsame]
    exact statsOf_modify marked orgID epoch fn o e

theorem statsOf_countUniqueMemory (contentHash o : Bytes) (e : UInt64) :
    statsOf (countUniqueMemory s orgID epoch contentHash) o e =
      if o = orgID ∧ e = epoch then
        countFirsts (s.memFirst.has (memFirstKey orgID contentHash epoch)) true
          (statsOf s orgID epoch)
      else statsOf s o e := by
  unfold countUniqueMemory
  rw [statsOf_countUnique]
  · cases s.memFirst.has (memFirstKey orgID contentHash epoch) <;> rfl
  · rfl

theorem statsOf_countUniqueServeKey (serveKey o : Bytes) (e : UInt64) :
    statsOf (countUniqueServeKey s orgID epoch serveKey) o e =
      if o = orgID ∧ e = epoch then
        countFirsts true (s.keyFirst.has (keyFirstKey orgID serveKey epoch))
          (statsOf s orgID epoch)
      else statsOf s o e := by
  unfold countUniqueServeKey
  rw [statsOf_countUnique]
  · cases s.keyFirst.has (keyFirstKey orgID serveKey epoch) <;> rfl
  · rfl

theorem statsOf_update (contentHash serveKey : Bytes) (isSelfServe : Bool) (modelID o : Bytes)
    (e : UInt64) :
    statsOf (updateEpochStats s orgID epoch contentHash serveKey isSelfServe modelID) o e =
      if o = orgID ∧ e = epoch then
        countServe isSelfServe modelID
          (countFirsts (s.memFirst.has (memFirstKey orgID contentHash epoch))
            (s.keyFirst.has (keyFirstKey orgID serveKey epoch)) (statsOf s orgID epoch))
      else statsOf s o e := by
  have hkeys : (countUniqueMemory s orgID epoch contentHash).keyFirst = s.keyFirst := by
    obtain ⟨stats, hframe⟩ := countUniqueMemory_frame s orgID epoch contentHash
    rw [hframe]
  unfold updateEpochStats
  rw [statsOf_modify]
  split
  · rw [statsOf_countUniqueServeKey, if_pos ⟨rfl, rfl⟩, statsOf_countUniqueMemory,
      if_pos ⟨rfl, rfl⟩, hkeys]
    rfl
  · rename_i hoe
    rw [statsOf_countUniqueServeKey, if_neg hoe, statsOf_countUniqueMemory, if_neg hoe]

/-- Everything an accepted serve writes apart from the statistics. -/
theorem acceptedStore_frame (r : ServeReceipt) :
    ∃ stats, acceptedStore s r =
      { s with
        receipt := s.receipt.set (receiptKey r.orgID r.epoch r.fingerprint)
          (serveReceiptToStored r)
        fingerprint := s.fingerprint.set (serveFingerprintKey r.fingerprint)
          (receiptKey r.orgID r.epoch r.fingerprint)
        memCount := s.memCount.bump (memCountKey r.orgID r.contentHash r.epoch)
        memFirst := s.memFirst.set (memFirstKey r.orgID r.contentHash r.epoch) ()
        keyFirst := s.keyFirst.set (keyFirstKey r.orgID r.serveKey r.epoch) ()
        stats := stats
        contributor := s.contributor.set (contributorKey r.contributorID r.epoch)
          (contributorEpochServesToStored (countContributorServe r.orgID r.isSelfServe r.turnCount
            (contributorOf s r.contributorID r.epoch))) } := by
  unfold acceptedStore updateContributorServes updateEpochStats modifyEpochStats
  obtain ⟨stats₁, h₁⟩ := countUniqueMemory_frame
    (incrementMemoryServeCount (recordReceipt s r) r.orgID r.epoch r.contentHash)
    r.orgID r.epoch r.contentHash
  rw [h₁]
  obtain ⟨stats₂, h₂⟩ := countUniqueServeKey_frame _ r.orgID r.epoch r.serveKey
  rw [h₂]
  exact ⟨_, rfl⟩

theorem statsOf_acceptedStore (r : ServeReceipt) (o : Bytes) (e : UInt64) :
    statsOf (acceptedStore s r) o e =
      if o = r.orgID ∧ e = r.epoch then
        countServe r.isSelfServe r.modelID
          (countFirsts (s.memFirst.has (memFirstKey r.orgID r.contentHash r.epoch))
            (s.keyFirst.has (keyFirstKey r.orgID r.serveKey r.epoch)) (statsOf s r.orgID r.epoch))
      else statsOf s o e :=
  statsOf_update (incrementMemoryServeCount (recordReceipt s r) r.orgID r.epoch r.contentHash)
    r.orgID r.epoch r.contentHash r.serveKey r.isSelfServe r.modelID o e

theorem contributorOf_acceptedStore (r : ServeReceipt) (c : Bytes) (e : UInt64) :
    contributorOf (acceptedStore s r) c e =
      if c = r.contributorID ∧ e = r.epoch then
        countContributorServe r.orgID r.isSelfServe r.turnCount
          (contributorOf s r.contributorID r.epoch)
      else contributorOf s c e := by
  obtain ⟨stats, hframe⟩ := acceptedStore_frame s r
  rw [hframe]
  simp only [contributorOf, getContributorEpochServes, OrderedMap.get_set, contributorKey_inj]
  split <;> rfl

/-- Everything an accepted denial writes apart from the statistics. -/
theorem deniedStore_frame (fp : Bytes) (receipt : StoredServeReceipt) (entry : DenialEntry) :
    ∃ stats, deniedStore s orgID epoch fp receipt entry =
      { s with
        denyFingerprint := s.denyFingerprint.set (denialFingerprintKey fp) ()
        denialCount := s.denialCount.bump (denialCountKey orgID receipt.memoryContentHash epoch)
        stats := stats
        denial := s.denial.set (denialReceiptKey orgID epoch fp)
          (denialReceipt orgID epoch entry) } :=
  ⟨_, rfl⟩

theorem statsOf_deniedStore (fp : Bytes) (receipt : StoredServeReceipt) (entry : DenialEntry)
    (o : Bytes) (e : UInt64) :
    statsOf (deniedStore s orgID epoch fp receipt entry) o e =
      if o = orgID ∧ e = epoch then
        { statsOf s orgID epoch with totalDenials := (statsOf s orgID epoch).totalDenials + 1 }
      else statsOf s o e :=
  statsOf_modify
    (incrementDenialCount
      { s with denyFingerprint := s.denyFingerprint.set (denialFingerprintKey fp) () }
      orgID epoch receipt.memoryContentHash)
    orgID epoch (fun stats => { stats with totalDenials := stats.totalDenials + 1 }) o e

end Effects

section Tallies
variable {s : Store} {rs : List StoredServeReceipt} {ds : List StoredDenialReceipt}

/-- Every tally of the store is that of the given receipts and denials. -/
structure Tallies (s : Store) (rs : List StoredServeReceipt) (ds : List StoredDenialReceipt) :
    Prop where
  memCount : s.memCount.Counts
    (fun r : StoredServeReceipt => some (memCountKey r.orgId r.memoryContentHash r.epoch)) rs
  denialCount : s.denialCount.Counts
    (fun d : StoredDenialReceipt => some (denialCountKey d.orgId d.memoryHash d.epoch)) ds
  memFirst : ∀ o h e, s.memFirst.has (memFirstKey o h e) = true ↔
    h ∈ (receiptsOf rs o e).map StoredServeReceipt.memoryContentHash
  keyFirst : ∀ o k e, s.keyFirst.has (keyFirstKey o (hexEncode k) e) = true ↔
    k ∈ (receiptsOf rs o e).map StoredServeReceipt.serveKeyPubkey
  stats : ∀ o e, StatsCount (statsOf s o e) (receiptsOf rs o e) (denialsOf ds o e)
  contributor : ∀ c e, ContributorCount (contributorOf s c e) (receiptsNaming rs c e)

theorem tallies_empty : Tallies {} [] [] where
  memCount := OrderedMap.counts_empty _
  denialCount := OrderedMap.counts_empty _
  memFirst := by
    intro o h e
    exact ⟨nofun, nofun⟩
  keyFirst := by
    intro o k e
    exact ⟨nofun, nofun⟩
  stats := fun o e => ⟨rfl, rfl, rfl, rfl, rfl, OrderedMap.counts_empty _⟩
  contributor := fun c e => ⟨rfl, rfl, rfl, List.nodup_nil, fun o => ⟨nofun, nofun⟩⟩

theorem Tallies.perm {rs' : List StoredServeReceipt} {ds' : List StoredDenialReceipt}
    (h : Tallies s rs ds) (hr : rs.Perm rs') (hd : ds.Perm ds') : Tallies s rs' ds' where
  memCount := h.memCount.perm hr
  denialCount := h.denialCount.perm hd
  memFirst := by
    intro o hash e
    rw [h.memFirst]
    exact ((hr.filter _).map _).mem_iff
  keyFirst := by
    intro o k e
    rw [h.keyFirst]
    exact ((hr.filter _).map _).mem_iff
  stats := fun o e => (h.stats o e).perm (hr.filter _) (hd.filter _)
  contributor := fun c e => (h.contributor c e).perm (hr.filter _)

theorem Tallies.congr {s' : Store} (h : Tallies s rs ds) (hsame : SameRecords s s') :
    Tallies s' rs ds where
  memCount := hsame.memCount ▸ h.memCount
  denialCount := hsame.denialCount ▸ h.denialCount
  memFirst := hsame.memFirst ▸ h.memFirst
  keyFirst := hsame.keyFirst ▸ h.keyFirst
  stats := by
    intro o e
    simpa only [statsOf, getEpochServeStats, hsame.stats] using h.stats o e
  contributor := by
    intro c e
    simpa only [contributorOf, getContributorEpochServes, hsame.contributor] using h.contributor c e

theorem receiptsOf_cons (r : StoredServeReceipt) (rs : List StoredServeReceipt) (o : Bytes)
    (e : UInt64) :
    receiptsOf (r :: rs) o e =
      if o = r.orgId ∧ e = r.epoch then r :: receiptsOf rs o e else receiptsOf rs o e := by
  simp only [receiptsOf, List.filter_cons, decide_eq_true_eq]

theorem mem_map_receiptsOf_cons {f : StoredServeReceipt → Bytes} {r : StoredServeReceipt}
    {rs : List StoredServeReceipt} {o x : Bytes} {e : UInt64} :
    x ∈ (receiptsOf (r :: rs) o e).map f ↔
      (o = r.orgId ∧ x = f r ∧ e = r.epoch) ∨ x ∈ (receiptsOf rs o e).map f := by
  rw [receiptsOf_cons]
  by_cases hoe : o = r.orgId ∧ e = r.epoch
  · rw [if_pos hoe, List.map_cons, List.mem_cons]
    simp [hoe.1, hoe.2]
  · rw [if_neg hoe]
    constructor
    · exact Or.inr
    · intro hcase
      rcases hcase with ⟨ho, -, he⟩ | hmem
      · exact absurd ⟨ho, he⟩ hoe
      · exact hmem

theorem denialsOf_cons (d : StoredDenialReceipt) (ds : List StoredDenialReceipt) (o : Bytes)
    (e : UInt64) :
    denialsOf (d :: ds) o e =
      if o = d.orgId ∧ e = d.epoch then d :: denialsOf ds o e else denialsOf ds o e := by
  simp only [denialsOf, List.filter_cons, decide_eq_true_eq]

theorem receiptsNaming_cons (r : StoredServeReceipt) (rs : List StoredServeReceipt) (c : Bytes)
    (e : UInt64) :
    receiptsNaming (r :: rs) c e =
      if c = r.contributorId ∧ e = r.epoch then r :: receiptsNaming rs c e
      else receiptsNaming rs c e := by
  simp only [receiptsNaming, List.filter_cons, decide_eq_true_eq]

theorem Tallies.accept (h : Tallies s rs ds) (r : ServeReceipt)
    (hkey : r.serveKey = hexEncode r.serveKeyPubkey) :
    Tallies (acceptedStore s r) (serveReceiptToStored r :: rs) ds := by
  obtain ⟨stats, hframe⟩ := acceptedStore_frame s r
  refine ⟨?_, ?_, ?_, ?_, ?_, ?_⟩
  · rw [hframe]
    exact h.memCount.bump rfl
  · rw [hframe]
    exact h.denialCount
  · intro o hash e
    rw [hframe, mem_map_receiptsOf_cons]
    simp only [OrderedMap.has_set, memFirstKey_inj, Bool.or_eq_true, decide_eq_true_eq, h.memFirst]
    exact Iff.rfl
  · intro o k e
    rw [hframe, mem_map_receiptsOf_cons, hkey]
    simp only [OrderedMap.has_set, keyFirstKey_inj, Bool.or_eq_true, decide_eq_true_eq, h.keyFirst]
    exact Iff.rfl
  · intro o e
    have hcons := receiptsOf_cons (serveReceiptToStored r) rs o e
    change _ = if o = r.orgID ∧ e = r.epoch then _ else _ at hcons
    rw [statsOf_acceptedStore, hcons]
    by_cases hoe : o = r.orgID ∧ e = r.epoch
    · rw [if_pos hoe, if_pos hoe, hkey, hoe.1, hoe.2]
      exact (h.stats r.orgID r.epoch).serve (serveReceiptToStored r)
        (h.memFirst r.orgID r.contentHash r.epoch) (h.keyFirst r.orgID r.serveKeyPubkey r.epoch)
    · rw [if_neg hoe, if_neg hoe]
      exact h.stats o e
  · intro c e
    have hcons := receiptsNaming_cons (serveReceiptToStored r) rs c e
    change _ = if c = r.contributorID ∧ e = r.epoch then _ else _ at hcons
    rw [contributorOf_acceptedStore, hcons]
    by_cases hce : c = r.contributorID ∧ e = r.epoch
    · rw [if_pos hce, if_pos hce, hce.1, hce.2]
      exact (h.contributor r.contributorID r.epoch).serve (serveReceiptToStored r)
    · rw [if_neg hce, if_neg hce]
      exact h.contributor c e

theorem Tallies.deny (h : Tallies s rs ds) (orgID : Bytes) (epoch : UInt64) (fp : Bytes)
    {receipt : StoredServeReceipt} {entry : DenialEntry}
    (hhash : entry.memoryHash = receipt.memoryContentHash) :
    Tallies (deniedStore s orgID epoch fp receipt entry) rs
      (denialReceipt orgID epoch entry :: ds) := by
  obtain ⟨stats, hframe⟩ := deniedStore_frame s orgID epoch fp receipt entry
  refine ⟨?_, ?_, ?_, ?_, ?_, ?_⟩
  · rw [hframe]
    exact h.memCount
  · rw [hframe, ← hhash]
    exact h.denialCount.bump rfl
  · rw [hframe]
    exact h.memFirst
  · rw [hframe]
    exact h.keyFirst
  · intro o e
    have hcons := denialsOf_cons (denialReceipt orgID epoch entry) ds o e
    change _ = if o = orgID ∧ e = epoch then _ else _ at hcons
    rw [statsOf_deniedStore, hcons]
    by_cases hoe : o = orgID ∧ e = epoch
    · rw [if_pos hoe, if_pos hoe, hoe.1, hoe.2]
      exact (h.stats orgID epoch).denial (denialReceipt orgID epoch entry)
    · rw [if_neg hoe, if_neg hoe]
      exact h.stats o e
  · intro c e
    rw [hframe]
    exact h.contributor c e

end Tallies

end WeVibeChain.Serve
