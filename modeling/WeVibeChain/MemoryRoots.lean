import WeVibeChain.MemoryRuns
import WeVibeChain.Shared.Sorting

/-!
# x/memory: epoch Merkle roots

The root of an org and an epoch is computed from a scan that begins at the org's
first approved key and has no end. It meets the memories of the orgs that sort
behind and the records of the families that follow, and takes whatever decodes
as a memory of the epoch.

The root is exact where nothing foreign decodes with that epoch. What can decode,
and when, is said record by record.
-/

set_option autoImplicit false

namespace WeVibeChain.Memory

open Bytes

section Entries
variable {s : Store} {k : Bytes}

/-- The store has the value under the key, in the value's own family. -/
def Store.Holds (s : Store) (k : Bytes) : Entry → Prop
  | .relationship v => s.relationship.get k = some v
  | .validity v => s.validity.get k = some v
  | .approved v => s.approved.get k = some v
  | .count v => s.count.get k = some v
  | .currentEpoch v => k = ascii "current_epoch" ∧ s.currentEpoch = some v
  | .merkle v => s.merkle.get k = some v
  | .params v => k = ascii "params" ∧ s.params = some v
  | .pending v => s.pending.get k = some v
  | .report v => s.report.get k = some v

theorem mem_family {α : Type} {m : OrderedMap Bytes α} {tag : α → Entry} {e : Entry} :
    (k, e) ∈ m.entries.map (fun entry => (entry.1, tag entry.2)) ↔
      ∃ v, m.get k = some v ∧ tag v = e := by
  simp only [List.mem_map, Prod.exists, Prod.mk.injEq, OrderedMap.get_eq_some_iff]
  constructor
  · rintro ⟨_, v, hmem, rfl, rfl⟩
    exact ⟨v, hmem, rfl⟩
  · rintro ⟨v, hmem, rfl⟩
    exact ⟨k, v, hmem, rfl, rfl⟩

theorem mem_single {α : Type} {value : Option α} {name : Bytes} {tag : α → Entry} {e : Entry} :
    (k, e) ∈ value.toList.map (fun v => (name, tag v)) ↔
      ∃ v, (k = name ∧ value = some v) ∧ tag v = e := by
  simp only [List.mem_map, Option.mem_toList, Prod.mk.injEq]
  constructor
  · rintro ⟨v, hvalue, rfl, rfl⟩
    exact ⟨v, ⟨rfl, hvalue⟩, rfl⟩
  · rintro ⟨v, ⟨rfl, hvalue⟩, rfl⟩
    exact ⟨v, hvalue, rfl, rfl⟩

theorem mem_entries {e : Entry} : (k, e) ∈ s.entries ↔ s.Holds k e := by
  simp only [Store.entries, List.mem_append, mem_family, mem_single]
  -- the tag of the value leaves one family of the nine
  cases e <;>
    simp only [reduceCtorEq, and_false, exists_false, or_false, false_or,
      Entry.relationship.injEq, Entry.validity.injEq, Entry.approved.injEq, Entry.count.injEq,
      Entry.currentEpoch.injEq, Entry.merkle.injEq, Entry.params.injEq, Entry.pending.injEq,
      Entry.report.injEq, exists_eq_right, Store.Holds]

theorem mem_iteratorFrom {lo : Bytes} {e : Entry} :
    (k, e) ∈ s.iteratorFrom lo ↔ s.Holds k e ∧ lo ≤ k := by
  simp [Store.iteratorFrom, mem_entries]

end Entries

section Scan
variable {foreign : Entry → Option StoredMemoryCommitment} {s : Store} {orgID : Bytes}
  {epoch : UInt64}

/-- The value is met by the scan of the org and read as a memory of the epoch. -/
def Contributes (foreign : Entry → Option StoredMemoryCommitment) (s : Store) (orgID : Bytes)
    (epoch : UInt64) (e : Entry) : Prop :=
  ∃ k memory, s.Holds k e ∧ approvedPrefix orgID ≤ k ∧ decodeMemory foreign e = some memory ∧
    memory.epoch = epoch

theorem mem_epochContentHashes {contentHash : Bytes}
    (h : contentHash ∈ epochContentHashes foreign s orgID epoch) :
    ∃ e memory, Contributes foreign s orgID epoch e ∧ decodeMemory foreign e = some memory ∧
      memory.contentHash = contentHash := by
  obtain ⟨memory, hmemory, rfl⟩ := List.mem_map.mp h
  obtain ⟨hdecoded, hepoch⟩ := List.mem_filter.mp hmemory
  obtain ⟨⟨k, e⟩, hscan, hdecode⟩ := List.mem_filterMap.mp hdecoded
  obtain ⟨hholds, hkey⟩ := mem_iteratorFrom.mp hscan
  exact ⟨e, memory, ⟨k, memory, hholds, hkey, hdecode, of_decide_eq_true hepoch⟩, hdecode, rfl⟩

/-- The approved memories of the org whose epoch is the given one. -/
def ownMemories (s : Store) (orgID : Bytes) (epoch : UInt64) : List StoredMemoryCommitment :=
  s.approved.values.filter fun record => record.orgId = orgID ∧ record.epoch = epoch

def ownHashes (s : Store) (orgID : Bytes) (epoch : UInt64) : List Bytes :=
  (ownMemories s orgID epoch).map StoredMemoryCommitment.contentHash

/-- Nothing but memories of the org contributes. -/
def OnlyOwn (foreign : Entry → Option StoredMemoryCommitment) (s : Store) (orgID : Bytes)
    (epoch : UInt64) : Prop :=
  ∀ e, Contributes foreign s orgID epoch e → ∃ record, e = .approved record ∧ record.orgId = orgID

theorem approvedPrefix_le_approvedKey (orgID contentHash : Bytes) :
    approvedPrefix orgID ≤ approvedKey orgID contentHash := by
  have happend : approvedKey orgID contentHash = approvedPrefix orgID ++ hexEncode contentHash := by
    simp [approvedKey, approvedPrefix]
  rw [happend]
  exact le_append _ _

/-- What the scan makes of one entry. -/
def scanned (foreign : Entry → Option StoredMemoryCommitment) (orgID : Bytes) (epoch : UInt64)
    (e : Bytes × Entry) : Option StoredMemoryCommitment :=
  if approvedPrefix orgID ≤ e.1 then
    (decodeMemory foreign e.2).filter fun memory => memory.epoch = epoch
  else none

theorem filter_filterMap_iteratorFrom :
    (((s.iteratorFrom (approvedPrefix orgID)).filterMap fun e => decodeMemory foreign e.2).filter
        fun stored => stored.epoch = epoch) =
      s.entries.filterMap (scanned foreign orgID epoch) := by
  unfold Store.iteratorFrom
  rw [List.filterMap_filter, List.filter_filterMap]
  congr 1
  funext e
  unfold scanned
  by_cases hkey : approvedPrefix orgID ≤ e.1
  · simp [hkey]
  · simp [hkey]

theorem epochContentHashes_eq_scanned :
    epochContentHashes foreign s orgID epoch =
      (s.entries.filterMap (scanned foreign orgID epoch)).map
        StoredMemoryCommitment.contentHash := by
  unfold epochContentHashes
  rw [filter_filterMap_iteratorFrom]

theorem scanned_ne_none {k : Bytes} {e : Entry} (hholds : s.Holds k e)
    (h : scanned foreign orgID epoch (k, e) ≠ none) : Contributes foreign s orgID epoch e := by
  obtain ⟨memory, hmemory⟩ := Option.ne_none_iff_exists'.mp h
  unfold scanned at hmemory
  split at hmemory
  · rename_i hkey
    obtain ⟨hdecode, hepoch⟩ := Option.filter_eq_some_iff.mp hmemory
    exact ⟨k, memory, hholds, hkey, hdecode, of_decide_eq_true hepoch⟩
  · cases hmemory

/-- A family whose entries the scan skips adds nothing to it. -/
theorem filterMap_scanned_family {V : Type} (family : OrderedMap Bytes V) (entry : V → Entry)
    (hnone : ∀ k v, family.get k = some v → scanned foreign orgID epoch (k, entry v) = none) :
    (family.entries.map fun e => (e.1, entry e.2)).filterMap (scanned foreign orgID epoch) = [] := by
  rw [List.filterMap_map, List.filterMap_eq_nil_iff]
  rintro ⟨k, v⟩ he
  exact hnone k v (OrderedMap.get_eq_some_iff.mpr he)

theorem filterMap_scanned_word {V : Type} (k : Bytes) (value : Option V) (entry : V → Entry)
    (hnone : ∀ v, value = some v → scanned foreign orgID epoch (k, entry v) = none) :
    (value.toList.map fun v => (k, entry v)).filterMap (scanned foreign orgID epoch) = [] := by
  cases value with
  | none => rfl
  | some v => simp [hnone v rfl]

theorem scanned_approved (hkeyed : s.approved.Forall WellKeyed)
    (honly : OnlyOwn foreign s orgID epoch) {k : Bytes} {record : StoredMemoryCommitment}
    (hget : s.approved.get k = some record) :
    scanned foreign orgID epoch (k, .approved record) =
      if record.orgId = orgID ∧ record.epoch = epoch then some record else none := by
  have hkey : k = approvedKey record.orgId record.contentHash := hkeyed k record hget
  by_cases horg : record.orgId = orgID
  · have hle : approvedPrefix orgID ≤ k := by
      rw [hkey, horg]
      exact approvedPrefix_le_approvedKey _ _
    simp [scanned, decodeMemory, hle, horg, Option.filter]
  · simp only [horg, false_and, if_false]
    by_contra hcontributes
    have hholds : s.Holds k (.approved record) := hget
    obtain ⟨record', he', horg'⟩ := honly _ (scanned_ne_none hholds hcontributes)
    cases he'
    exact horg horg'

theorem filterMap_scanned_approved (hkeyed : s.approved.Forall WellKeyed)
    (honly : OnlyOwn foreign s orgID epoch) :
    (s.approved.entries.map fun e => (e.1, Entry.approved e.2)).filterMap
      (scanned foreign orgID epoch) = ownMemories s orgID epoch := by
  have hown : ∀ e ∈ s.approved.entries, scanned foreign orgID epoch (e.1, .approved e.2) =
      if e.2.orgId = orgID ∧ e.2.epoch = epoch then some e.2 else none :=
    fun e he => scanned_approved hkeyed honly (OrderedMap.get_eq_some_iff.mpr he)
  rw [List.filterMap_map]
  refine (List.filterMap_congr hown).trans ?_
  unfold ownMemories OrderedMap.values
  rw [List.filter_map, ← List.filterMap_eq_map, ← List.filterMap_eq_filter,
    List.filterMap_filterMap]
  refine List.filterMap_congr fun e _ => ?_
  by_cases he : e.2.orgId = orgID ∧ e.2.epoch = epoch
  · simp [he, Option.guard]
  · simp [he, Option.guard]

/-- Where only own memories contribute, the scan yields exactly their hashes. -/
theorem epochContentHashes_eq_own (hkeyed : s.approved.Forall WellKeyed)
    (honly : OnlyOwn foreign s orgID epoch) :
    epochContentHashes foreign s orgID epoch = ownHashes s orgID epoch := by
  have hother : ∀ k e, s.Holds k e → (∀ record, e ≠ .approved record) →
      scanned foreign orgID epoch (k, e) = none := by
    intro k e hholds hfamily
    by_contra hcontributes
    obtain ⟨record, he, -⟩ := honly e (scanned_ne_none hholds hcontributes)
    exact hfamily record he
  rw [epochContentHashes_eq_scanned, ownHashes]
  congr 1
  simp only [Store.entries, List.filterMap_append]
  rw [filterMap_scanned_family s.relationship .relationship fun k v h => hother k _ h (by simp),
    filterMap_scanned_family s.validity .validity fun k v h => hother k _ h (by simp),
    filterMap_scanned_approved hkeyed honly,
    filterMap_scanned_family s.count .count fun k v h => hother k _ h (by simp),
    filterMap_scanned_word _ s.currentEpoch .currentEpoch
      fun v h => hother _ _ ⟨rfl, h⟩ (by simp),
    filterMap_scanned_family s.merkle .merkle fun k v h => hother k _ h (by simp),
    filterMap_scanned_word _ s.params .params fun v h => hother _ _ ⟨rfl, h⟩ (by simp),
    filterMap_scanned_family s.pending .pending fun k v h => hother k _ h (by simp),
    filterMap_scanned_family s.report .report fun k v h => hother k _ h (by simp)]
  simp

end Scan

section Keeper

/-- Calls of the keeper's own methods, with any arguments, and changes by other modules. -/
inductive KeeperInput where
  | submitCommitment (commitment : PendingCommitment)
  | approveMemory (approval : Approval)
  | reportMemory (msg : MsgReportMemory) (epoch : UInt64)
  | afterEpochEnd (epochIdentifier : Bytes) (epochNumber : Int64)
  | otherModules (org : Orgs.Store) (reputation : Reputation.Store)

/-- A call that fails is undone with the transaction it is made in. -/
def keeperStep (sha256 : Bytes → Bytes) (st : State) : KeeperInput → State
  | .submitCommitment commitment => (submitCommitment st commitment).toOption.getD st
  | .approveMemory approval => (approveMemory st approval).toOption.getD st
  | .reportMemory msg epoch => (reportMemory st msg epoch).toOption.getD st
  | .afterEpochEnd epochIdentifier epochNumber =>
    { st with
      store := (afterEpochEnd sha256 decodeForeign st.store epochIdentifier epochNumber).1 }
  | .otherModules org reputation => { st with org := org, reputation := reputation }

def keeperChain (sha256 : Bytes → Bytes) : Machine State KeeperInput Unit :=
  ⟨fun st input => (keeperStep sha256 st input, ())⟩

/-- Keys behind every approved key, so that the scan of every org meets them. -/
def Behind (k : Bytes) : Prop := ∀ orgID, approvedPrefix orgID ≤ k

theorem behind_cons {b : UInt8} (hb : 97 < b) (rest : Bytes) : Behind (b :: rest) := by
  intro orgID
  exact cons_le_cons_of_lt hb _ _

/-- What the keeper's methods make of an empty store. -/
structure KeeperStore (s : Store) : Prop where
  relationship : s.relationship = ∅
  validity : s.validity = ∅
  params : s.params = none
  approved : s.approved.Forall WellKeyed
  count : s.count.Forall fun k _ => Behind k
  merkle : s.merkle.Forall fun k _ => Behind k
  pending : s.pending.Forall fun k _ => Behind k
  report : s.report.Forall fun k r => Behind k ∧ r.upheldAtTimestamp = 0

variable {sha256 : Bytes → Bytes} {st st' : State}

theorem keeperStore_empty : KeeperStore {} :=
  ⟨rfl, rfl, rfl, OrderedMap.forall_empty, OrderedMap.forall_empty, OrderedMap.forall_empty,
    OrderedMap.forall_empty, OrderedMap.forall_empty⟩

theorem keeperStore_submitCommitment {commitment : PendingCommitment} (hs : KeeperStore st.store)
    (h : submitCommitment st commitment = .ok st') : KeeperStore st'.store := by
  obtain ⟨-, -, rfl⟩ := submitCommitment_ok h
  exact { hs with pending := hs.pending.set (behind_cons (by decide) _) }

theorem keeperStore_approveMemory {a : Approval} (hs : KeeperStore st.store)
    (h : approveMemory st a = .ok st') : KeeperStore st'.store := by
  obtain ⟨pending, -, -, -, -, hstore, -⟩ := approveMemory_ok h
  rw [hstore]
  exact { hs with
    approved := hs.approved.set rfl
    pending := hs.pending.delete _
    count := hs.count.set (behind_cons (by decide) _) }

theorem keeperStore_reportMemory {msg : MsgReportMemory} {epoch : UInt64}
    (hs : KeeperStore st.store) (h : reportMemory st msg epoch = .ok st') :
    KeeperStore st'.store := by
  obtain ⟨-, hstore, -⟩ := reportMemory_ok h
  rw [hstore]
  exact { hs with report := hs.report.set ⟨behind_cons (by decide) _, rfl⟩ }

theorem keeperStore_afterEpochEnd {s : Store} (hs : KeeperStore s) (identifier : Bytes)
    (n : Int64) : KeeperStore (afterEpochEnd sha256 decodeForeign s identifier n).1 := by
  refine afterEpochEnd_invariant ?_ ?_ ?_ hs identifier
  · intro t ht
    exact { ht with }
  · intro e t t' ht hexpire
    have happroved := approved_expireEntry wellKeyed_archiving ht.approved hexpire
    obtain ⟨_, _, -, rfl, -⟩ := expireEntry_ok hexpire
    have hvalidity : t.validity.delete e.1 = ∅ := by
      rw [ht.validity]
      rfl
    exact { ht with approved := happroved, validity := hvalidity }
  · intro org t ht
    exact { ht with merkle := ht.merkle.set (behind_cons (by decide) _) }

theorem keeperStore_next (st : State) (input : KeeperInput) (hs : KeeperStore st.store) :
    KeeperStore ((keeperChain sha256).next st input).store := by
  cases input with
  | submitCommitment commitment =>
    change KeeperStore ((submitCommitment st commitment).toOption.getD st).store
    cases h : submitCommitment st commitment with
    | error e => exact hs
    | ok st' => exact keeperStore_submitCommitment hs h
  | approveMemory a =>
    change KeeperStore ((approveMemory st a).toOption.getD st).store
    cases h : approveMemory st a with
    | error e => exact hs
    | ok st' => exact keeperStore_approveMemory hs h
  | reportMemory msg epoch =>
    change KeeperStore ((reportMemory st msg epoch).toOption.getD st).store
    cases h : reportMemory st msg epoch with
    | error e => exact hs
    | ok st' => exact keeperStore_reportMemory hs h
  | afterEpochEnd identifier n => exact keeperStore_afterEpochEnd hs identifier n
  | otherModules org reputation => exact hs

end Keeper

section Exactness
variable {s : Store} {orgID : Bytes} {epoch : UInt64}

/-- No record of the store disturbs the scan of the org for the epoch. -/
structure Undisturbed (s : Store) (orgID : Bytes) (epoch : UInt64) : Prop where
  approved : ∀ k record, s.approved.get k = some record → record.epoch = epoch →
    approvedPrefix orgID ≤ k → record.orgId = orgID
  pending : ∀ k commitment, s.pending.get k = some commitment → commitment.epoch = 0 →
    commitment.submittedAtHeight ≠ epoch
  merkle : ∀ k root, s.merkle.get k = some root → root.epoch = 0 → epoch ≠ 0
  report : ∀ k r, s.report.get k = some r → r.reporterPubkey = [] →
    r.committingLeaderPubkey = [] → r.ciphertext = [] → r.capsule = [] → epoch ≠ 0
  word : ∀ n memory, s.currentEpoch = some n ∨ (∃ k, s.count.get k = some n) →
    memoryOfWord n = some memory → memory.epoch ≠ epoch

theorem onlyOwn_of_undisturbed (hs : KeeperStore s) (h : Undisturbed s orgID epoch) :
    OnlyOwn decodeForeign s orgID epoch := by
  rintro e ⟨k, memory, hholds, hkey, hdecode, hepoch⟩
  rw [decodeMemory_decodeForeign] at hdecode
  cases e with
  | relationship r => exact absurd hholds (OrderedMap.get_ne_some hs.relationship k r)
  | validity v => exact absurd hholds (OrderedMap.get_ne_some hs.validity k v)
  | approved record =>
    obtain rfl := Option.some.inj hdecode
    exact ⟨record, rfl, h.approved k record hholds hepoch hkey⟩
  | count n => exact absurd hepoch (h.word n memory (Or.inr ⟨k, hholds⟩) hdecode)
  | currentEpoch n => exact absurd hepoch (h.word n memory (Or.inl hholds.2) hdecode)
  | merkle root =>
    rw [decodeForeign_merkle] at hdecode
    split at hdecode
    · rename_i hroot
      obtain rfl := Option.some.inj hdecode
      exact absurd hepoch.symm (h.merkle k root hholds hroot)
    · cases hdecode
  | params p =>
    have hnone : s.params = some p := hholds.2
    rw [hs.params] at hnone
    cases hnone
  | pending commitment =>
    rw [decodeForeign_pending] at hdecode
    split at hdecode
    · rename_i hzero
      obtain rfl := Option.some.inj hdecode
      exact absurd hepoch (h.pending k commitment hholds hzero)
    · cases hdecode
  | report r =>
    rw [decodeForeign_report] at hdecode
    split at hdecode
    · rename_i hreport
      obtain ⟨hreporter, hleader, hcipher, hcapsule, -⟩ := hreport
      obtain rfl := Option.some.inj hdecode
      exact absurd hepoch.symm (h.report k r hholds hreporter hleader hcipher hcapsule)
    · cases hdecode

theorem undisturbed_of_onlyOwn (hs : KeeperStore s) (h : OnlyOwn decodeForeign s orgID epoch) :
    Undisturbed s orgID epoch where
  approved k record hget hepoch hkey := by
    obtain ⟨record', he, horg⟩ := h (.approved record) ⟨k, record, hget, hkey, rfl, hepoch⟩
    cases he
    exact horg
  pending k commitment hget hzero hepoch := by
    have hdecode := decodeForeign_pending commitment
    rw [if_pos hzero] at hdecode
    obtain ⟨record, he, -⟩ := h (.pending commitment)
      ⟨k, _, hget, hs.pending k commitment hget orgID, hdecode, hepoch⟩
    cases he
  merkle k root hget hzero hepoch := by
    have hdecode := decodeForeign_merkle root
    rw [if_pos hzero] at hdecode
    obtain ⟨record, he, -⟩ := h (.merkle root)
      ⟨k, _, hget, hs.merkle k root hget orgID, hdecode, hepoch.symm⟩
    cases he
  report k r hget hreporter hleader hcipher hcapsule hepoch := by
    obtain ⟨hbehind, htime⟩ := hs.report k r hget
    have hdecode := decodeForeign_report r
    rw [if_pos ⟨hreporter, hleader, hcipher, hcapsule, by rw [htime]; rfl⟩] at hdecode
    obtain ⟨record, he, -⟩ := h (.report r) ⟨k, _, hget, hbehind orgID, hdecode, hepoch.symm⟩
    cases he
  word n memory hword hdecode hepoch := by
    rcases hword with hcurrent | ⟨k, hget⟩
    · obtain ⟨record, he, -⟩ := h (.currentEpoch n)
        ⟨_, memory, ⟨rfl, hcurrent⟩, behind_cons (by decide) _ orgID, hdecode, hepoch⟩
      cases he
    · obtain ⟨record, he, -⟩ := h (.count n)
        ⟨k, memory, hget, hs.count k n hget orgID, hdecode, hepoch⟩
      cases he

/-- The stored root counts and covers the org's memories of the epoch and nothing else. -/
structure ExactRoot (sha256 : Bytes → Bytes) (s : Store) (orgID : Bytes) (epoch : UInt64) :
    Prop where
  stored : ∃ root,
    (computeAndStoreEpochMerkleRoot sha256 decodeForeign s orgID epoch).merkle.get
        (merkleKey orgID epoch) = some root ∧
      root.memoryCount.toNat = (ownMemories s orgID epoch).length ∧
      root.merkleRoot = computeMerkleRoot sha256 (ownHashes s orgID epoch)
  only : OnlyOwn decodeForeign s orgID epoch

theorem exactRoot_iff (sha256 : Bytes → Bytes) (hs : KeeperStore s) :
    ExactRoot sha256 s orgID epoch ↔
      Undisturbed s orgID epoch ∧ (ownMemories s orgID epoch).length < 2 ^ 64 := by
  have hroot : OnlyOwn decodeForeign s orgID epoch →
      (computeAndStoreEpochMerkleRoot sha256 decodeForeign s orgID epoch).merkle.get
          (merkleKey orgID epoch) =
        some ⟨orgID, epoch, computeMerkleRoot sha256 (ownHashes s orgID epoch),
          UInt64.ofNat (ownMemories s orgID epoch).length⟩ := by
    intro honly
    unfold computeAndStoreEpochMerkleRoot
    simp only [epochContentHashes_eq_own hs.approved honly, OrderedMap.get_set_self, ownHashes,
      List.length_map]
  constructor
  · rintro ⟨⟨root, hget, hcount, -⟩, honly⟩
    refine ⟨undisturbed_of_onlyOwn hs honly, ?_⟩
    rw [hroot honly] at hget
    obtain rfl := Option.some.inj hget
    rw [← hcount]
    exact UInt64.toNat_lt _
  · rintro ⟨hundisturbed, hlength⟩
    have honly := onlyOwn_of_undisturbed hs hundisturbed
    refine ⟨⟨_, hroot honly, ?_, rfl⟩, honly⟩
    rw [UInt64.toNat_ofNat']
    exact Nat.mod_eq_of_lt hlength

/-- In every store that the keeper's methods reach from an empty one, the root of an org and an
epoch is exact if and only if no record disturbs the scan and the count fits its word. -/
theorem epoch_root_exact_iff_undisturbed (sha256 : Bytes → Bytes) (org : Orgs.Store)
    (reputation : Reputation.Store) (inputs : List KeeperInput) (orgID : Bytes) (epoch : UInt64) :
    ExactRoot sha256 ((keeperChain sha256).run ⟨{}, org, reputation⟩ inputs).store orgID epoch ↔
      Undisturbed ((keeperChain sha256).run ⟨{}, org, reputation⟩ inputs).store orgID epoch ∧
        (ownMemories ((keeperChain sha256).run ⟨{}, org, reputation⟩ inputs).store orgID
          epoch).length < 2 ^ 64 := by
  apply exactRoot_iff
  exact (keeperChain sha256).run_always keeperStore_next keeperStore_empty inputs

open EpochHooks (sampleCrypto sampleHash)

/-- Orgs `a` and `b`, the second with leader `l`. -/
def twoOrgs : Orgs.Store where
  org := (OrderedMap.set ∅ (Orgs.orgKey (ascii "a")) { orgId := ascii "a", leader := ascii "k" }).set
    (Orgs.orgKey (ascii "b")) { orgId := ascii "b", leader := ascii "l" }
  member := OrderedMap.set ∅ (Orgs.memberKey (ascii "b") (ascii "l"))
    { orgID := ascii "b", pubkey := ascii "l", role := ascii "leader" }

/-- One memory of epoch 1 is approved, of org `b`. -/
def memoryOfB : Store :=
  ((keeperChain sampleCrypto.sha256).run ⟨{}, {}, {}⟩
    [.otherModules twoOrgs {},
      .submitCommitment
        { orgID := ascii "b", contentHash := sampleHash, contributor := ascii "c", epoch := 1,
          memoryType := .memory },
      .approveMemory
        { orgID := ascii "b", contentHash := sampleHash, encryptedBlob := ascii "m",
          committingLeader := ascii "l" }]).store

/-- The root of org `a`, which has no memory, counts the memory of org `b`. -/
theorem root_counts_memory_of_other_org :
    ownMemories memoryOfB (ascii "a") 1 = [] ∧
      ((computeAndStoreEpochMerkleRoot sampleCrypto.sha256 decodeForeign memoryOfB (ascii "a")
        1).merkle.get (merkleKey (ascii "a") 1)).map StoredEpochMerkleRoot.memoryCount =
          some 1 := by
  decide +kernel

end Exactness

section Contents
variable {sha256 : Bytes → Bytes} {xs ys : List Bytes}

theorem computeMerkleRoot_eq_nil_iff (hnonempty : ∀ b, sha256 b ≠ []) :
    computeMerkleRoot sha256 xs = [] ↔ xs = [] := by
  unfold computeMerkleRoot
  split
  · rename_i hnil
    exact iff_of_true rfl hnil
  · rename_i hne
    exact iff_of_false (hnonempty _) hne

/-- Without collisions the root determines the hashes, and nothing but their order is lost. -/
theorem merkle_root_eq_iff_perm (hinjective : Function.Injective sha256)
    (hnonempty : ∀ b, sha256 b ≠ []) (hxs : ∀ x ∈ xs, x.length = 32)
    (hys : ∀ y ∈ ys, y.length = 32) :
    computeMerkleRoot sha256 xs = computeMerkleRoot sha256 ys ↔ ys.Perm xs := by
  by_cases hx : xs = []
  · rw [hx, List.perm_nil, ← computeMerkleRoot_eq_nil_iff hnonempty, eq_comm]
    rfl
  by_cases hy : ys = []
  · rw [hy, List.nil_perm, ← computeMerkleRoot_eq_nil_iff hnonempty]
    rfl
  have hlength : ∀ zs : List Bytes, (∀ z ∈ zs, z.length = 32) →
      ∀ z ∈ zs.mergeSort fun a b => a ≤ b, z.length = 32 := by
    intro zs hzs z hz
    exact hzs z (List.mem_mergeSort.mp hz)
  unfold computeMerkleRoot
  rw [if_neg hx, if_neg hy, hinjective.eq_iff, List.perm_comm, ← Sorting.mergeSort_eq_mergeSort_iff]
  constructor
  · exact eq_of_flatten_eq (by decide) (hlength xs hxs) (hlength ys hys)
  · exact congrArg List.flatten

/-- The SHA-256 of two hashes, one of ones and one of twos. -/
def sampleDigest : Bytes :=
  [248, 24, 175, 211, 122, 109, 195, 188, 146, 251, 68, 115, 16, 17, 39, 112, 6, 219, 78, 250, 110,
    144, 35, 205, 116, 104, 192, 35, 53, 210, 42, 77]

/-- A function without collisions that is SHA-256 on the two hashes. -/
def sampleSha256 (b : Bytes) : Bytes :=
  if b = List.replicate 32 1 ++ List.replicate 32 2 then sampleDigest else 0 :: b

theorem sampleSha256_injective : Function.Injective sampleSha256 := by
  have hdigest : ∀ b, sampleDigest ≠ 0 :: b := fun _ h => absurd (List.cons.inj h).1 (by decide)
  intro b b' h
  unfold sampleSha256 at h
  split at h <;> split at h
  · rename_i hb hb'
    rw [hb, hb']
  · exact absurd h (hdigest _)
  · exact absurd h.symm (hdigest _)
  · exact (List.cons.inj h).2

theorem merkle_root_ignores_order :
    computeMerkleRoot sampleSha256 [List.replicate 32 1, List.replicate 32 2] = sampleDigest ∧
      computeMerkleRoot sampleSha256 [List.replicate 32 2, List.replicate 32 1] =
        computeMerkleRoot sampleSha256 [List.replicate 32 1, List.replicate 32 2] := by
  have hnonempty : ∀ b, sampleSha256 b ≠ [] := by
    intro b
    unfold sampleSha256
    split <;> exact List.cons_ne_nil _ _
  refine ⟨?_, (merkle_root_eq_iff_perm sampleSha256_injective hnonempty (by decide)
    (by decide)).mpr (by decide)⟩
  rw [computeMerkleRoot, if_neg (List.cons_ne_nil _ _), List.mergeSort_of_pairwise (by decide)]
  exact if_pos (by decide)

end Contents

end WeVibeChain.Memory
