import WeVibeChain.MemoryMsgServer

/-!
# x/memory: what the epoch hook can change

The expiry loop archives memories and drops their validity metadata, one entry at
a time in key order. Every other part of the hook writes merkle roots only.
Two facts about approved memories survive the loop: each is stored under the key
of its own fields, and no approval is stamped with an epoch that has not ended.
-/

set_option autoImplicit false

namespace WeVibeChain.Memory

open Bytes

section Merkle
variable (sha256 : Bytes → Bytes) (foreign : Entry → Option StoredMemoryCommitment)

theorem computeMerkleRoots_frame (s : Store) (epoch : UInt64) :
    ∃ merkle, computeMerkleRoots sha256 foreign s epoch = { s with merkle := merkle } := by
  unfold computeMerkleRoots
  generalize getAllOrgsWithMemories s = orgs
  induction orgs generalizing s with
  | nil => exact ⟨s.merkle, rfl⟩
  | cons org orgs ih =>
    obtain ⟨merkle, hmerkle⟩ := ih (computeAndStoreEpochMerkleRoot sha256 foreign s org epoch)
    exact ⟨merkle, hmerkle⟩

/-- The hook for an epoch of this chain: the expiry of a store that already has the new epoch,
and then merkle roots. -/
theorem afterEpochEnd_frame (s : Store) (n : Int64) :
    ∃ merkle, (afterEpochEnd sha256 foreign s weVibeEpochIdentifier n).1 =
      { (checkEpochExpiry (setCurrentEpoch s n.toUInt64) n.toUInt64).1 with merkle := merkle } :=
  computeMerkleRoots_frame sha256 foreign _ n.toUInt64

end Merkle

section Expiry
variable {s s' : Store} {e : Bytes × StoredValidityMetadata}

/-- The entry's memory can be loaded, so the expiry loop gets past the entry. -/
def Loadable (s : Store) (stored : StoredValidityMetadata) : Prop :=
  ∃ memory, loadMemoryByCID s stored.orgId stored.memoryCid = .ok memory

theorem loadMemoryByCID_ok {orgID cid : Bytes} {memory : MemoryCommitment}
    (h : loadMemoryByCID s orgID cid = .ok memory) :
    ∃ contentHash, decodeCID cid = .ok contentHash ∧
      s.approved.get (approvedKey orgID contentHash) = some (memoryToStored memory) := by
  unfold loadMemoryByCID at h
  split at h
  · cases h
  rename_i contentHash hcid
  unfold getApprovedMemory at h
  split at h
  · cases h
  rename_i stored hstored
  obtain rfl := Except.ok.inj h
  exact ⟨contentHash, hcid, hstored⟩

theorem loadable_iff {stored : StoredValidityMetadata} :
    Loadable s stored ↔ ∃ contentHash, decodeCID stored.memoryCid = .ok contentHash ∧
      s.approved.get (approvedKey stored.orgId contentHash) ≠ none := by
  constructor
  · rintro ⟨memory, hmemory⟩
    obtain ⟨contentHash, hcid, hget⟩ := loadMemoryByCID_ok hmemory
    exact ⟨contentHash, hcid, by simp [hget]⟩
  · rintro ⟨contentHash, hcid, hget⟩
    obtain ⟨record, hrecord⟩ := Option.ne_none_iff_exists'.mp hget
    exact ⟨storedToMemory record, by simp [loadMemoryByCID, hcid, getApprovedMemory, hrecord]⟩

/-- One turn of the expiry loop: the entry goes, and its memory is archived unless it already is
out of use. -/
theorem expireEntry_ok (h : expireEntry s e = .ok s') :
    ∃ memory approved, loadMemoryByCID s e.2.orgId e.2.memoryCid = .ok memory ∧
      s' = { s with approved := approved, validity := s.validity.delete e.1 } ∧
      (approved = s.approved ∨
        approved = s.approved.set (approvedKey memory.orgID memory.contentHash)
          (memoryToStored { memory with state := .archived })) := by
  unfold expireEntry at h
  split at h
  · cases h
  rename_i memory hmemory
  obtain rfl := Except.ok.inj h
  by_cases hstate : memory.state ≠ .archived ∧ memory.state ≠ .denied
  · rw [if_pos hstate]
    exact ⟨memory, _, hmemory, rfl, Or.inr rfl⟩
  · rw [if_neg hstate]
    exact ⟨memory, _, hmemory, rfl, Or.inl rfl⟩

theorem expireEntry_eq_error_iff :
    (∃ err, expireEntry s e = .error err) ↔ ¬ Loadable s e.2 := by
  unfold Loadable expireEntry
  cases hload : loadMemoryByCID s e.2.orgId e.2.memoryCid with
  | error err => simp
  | ok memory => simp

/-- What every turn of the loop keeps is kept by the loop, wherever it stops. -/
theorem expireEntries_invariant {I : Store → Prop} {es : List (Bytes × StoredValidityMetadata)}
    (hentry : ∀ e ∈ es, ∀ s s', I s → expireEntry s e = .ok s' → I s') (hs : I s) :
    I (expireEntries s es).1 := by
  induction es generalizing s with
  | nil => exact hs
  | cons e es ih =>
    unfold expireEntries
    split
    · exact hs
    · rename_i s' hexpire
      apply ih
      · intro e' he'
        exact hentry e' (List.mem_cons_of_mem e he')
      · exact hentry e List.mem_cons_self s s' hs hexpire

theorem checkEpochExpiry_invariant {I : Store → Prop}
    (hentry : ∀ e s s', I s → expireEntry s e = .ok s' → I s') (epoch : UInt64) (hs : I s) :
    I (checkEpochExpiry s epoch).1 :=
  expireEntries_invariant (fun e _ => hentry e) hs

theorem checkEpochExpiry_currentEpoch (s : Store) (epoch : UInt64) :
    (checkEpochExpiry s epoch).1.currentEpoch = s.currentEpoch := by
  apply checkEpochExpiry_invariant (I := fun t => t.currentEpoch = s.currentEpoch) _ epoch rfl
  intro e t t' ht hexpire
  obtain ⟨_, _, -, rfl, -⟩ := expireEntry_ok hexpire
  exact ht

/-- What setting the epoch, every turn of the expiry loop and every root keep, the hook keeps. -/
theorem afterEpochEnd_invariant {I : Store → Prop} {sha256 : Bytes → Bytes}
    {foreign : Entry → Option StoredMemoryCommitment} {n : Int64}
    (hepoch : ∀ t, I t → I (setCurrentEpoch t n.toUInt64))
    (hentry : ∀ e t t', I t → expireEntry t e = .ok t' → I t')
    (hroot : ∀ org t, I t → I (computeAndStoreEpochMerkleRoot sha256 foreign t org n.toUInt64))
    (hs : I s) (identifier : Bytes) : I (afterEpochEnd sha256 foreign s identifier n).1 := by
  unfold afterEpochEnd
  split
  · exact hs
  have hexpired : I (checkEpochExpiry (setCurrentEpoch s n.toUInt64) n.toUInt64).1 :=
    checkEpochExpiry_invariant hentry n.toUInt64 (hepoch s hs)
  change I (computeMerkleRoots sha256 foreign _ _)
  unfold computeMerkleRoots
  generalize getAllOrgsWithMemories _ = orgs
  revert hexpired
  generalize (checkEpochExpiry (setCurrentEpoch s n.toUInt64) n.toUInt64).1 = t
  induction orgs generalizing t with
  | nil =>
    intro ht
    exact ht
  | cons org orgs ih =>
    intro ht
    exact ih _ (hroot org t ht)

theorem pending_afterEpochEnd (sha256 : Bytes → Bytes)
    (foreign : Entry → Option StoredMemoryCommitment) (s : Store) (n : Int64) :
    (afterEpochEnd sha256 foreign s weVibeEpochIdentifier n).1.pending = s.pending := by
  refine afterEpochEnd_invariant (I := fun t => t.pending = s.pending) ?_ ?_ ?_ rfl _
  · intro t ht
    exact ht
  · intro e t t' ht hexpire
    obtain ⟨_, _, -, rfl, -⟩ := expireEntry_ok hexpire
    exact ht
  · intro org t ht
    exact ht

end Expiry

section Approved
variable {s s' : Store} {P : Bytes → StoredMemoryCommitment → Prop}

/-- Archiving keeps `P`, and moves the record to the key of its own fields. -/
def KeptByArchiving (P : Bytes → StoredMemoryCommitment → Prop) : Prop :=
  ∀ k record, P k record →
    P (approvedKey record.orgId record.contentHash) { record with state := .archived }

theorem approved_expireEntry {e : Bytes × StoredValidityMetadata} (hP : KeptByArchiving P)
    (hs : s.approved.Forall P) (h : expireEntry s e = .ok s') : s'.approved.Forall P := by
  obtain ⟨memory, approved, hmemory, rfl, happroved⟩ := expireEntry_ok h
  rcases happroved with rfl | rfl
  · exact hs
  · obtain ⟨contentHash, -, hget⟩ := loadMemoryByCID_ok hmemory
    exact hs.set (hP _ _ (hs _ _ hget))

theorem approved_afterEpochEnd {sha256 : Bytes → Bytes}
    {foreign : Entry → Option StoredMemoryCommitment} (hP : KeptByArchiving P)
    (hs : s.approved.Forall P) (n : Int64) :
    (afterEpochEnd sha256 foreign s weVibeEpochIdentifier n).1.approved.Forall P := by
  obtain ⟨merkle, hframe⟩ := afterEpochEnd_frame sha256 foreign s n
  rw [hframe]
  exact checkEpochExpiry_invariant (I := fun t => t.approved.Forall P)
    (fun e t t' => approved_expireEntry hP) n.toUInt64 hs

/-- A message keeps `P` when an approval creates records with `P`. -/
theorem approved_deliver {crypto : Crypto} {authority : Bytes} {st : State} {msg : Msg}
    (hs : st.store.approved.Forall P)
    (hP : ∀ a pending, P (approvedKey a.orgID a.contentHash)
      (memoryToStored (approvedRecord a pending (getCurrentEpoch st.store)))) :
    (deliver crypto authority st msg).store.approved.Forall P := by
  rcases deliver_cases crypto authority st msg with
    ⟨happroved, -, -⟩ | ⟨approve, pending, -, -, -, -, hstore⟩
  · rwa [happroved]
  · rw [hstore]
    exact hs.set (hP (approve.approval crypto) pending)

/-- Each approved memory is stored under the key of its own org and content hash. -/
def WellKeyed (k : Bytes) (record : StoredMemoryCommitment) : Prop :=
  k = approvedKey record.orgId record.contentHash

theorem wellKeyed_archiving : KeptByArchiving WellKeyed := by
  intro k record _
  rfl

theorem wellKeyed_deliver {crypto : Crypto} {authority : Bytes} {st : State} {msg : Msg}
    (hs : st.store.approved.Forall WellKeyed) :
    (deliver crypto authority st msg).store.approved.Forall WellKeyed :=
  approved_deliver hs fun _ _ => rfl

theorem wellKeyed_initGenesis (hs : s.approved.Forall WellKeyed) (g : GenesisState) :
    (initGenesis s g).approved.Forall WellKeyed :=
  hs.foldl_set fun _ _ => rfl

/-- No approval is stamped with an epoch after `bound`. -/
def StampedUpTo (bound : UInt64) (_ : Bytes) (record : StoredMemoryCommitment) : Prop :=
  record.approvedAtEpoch ≤ bound

theorem stampedUpTo_archiving (bound : UInt64) : KeptByArchiving (StampedUpTo bound) := by
  intro k record h
  exact h

/-- An epoch after every stamp has no approvals. -/
theorem approvals_eq_empty {bound epoch : UInt64} (hs : s.approved.Forall (StampedUpTo bound))
    (hepoch : bound < epoch) : getContributorsWithApprovalsInEpoch s epoch = ∅ := by
  have hnone : s.approved.values.filter (countsIn epoch) = [] := by
    rw [List.filter_eq_nil_iff]
    intro record hrecord
    obtain ⟨⟨k, v⟩, hmem, rfl⟩ := List.mem_map.mp hrecord
    have hstamp : v.approvedAtEpoch ≤ bound := hs k v (OrderedMap.get_eq_some_iff.mpr hmem)
    have hne : v.approvedAtEpoch ≠ epoch := by
      intro heq
      subst heq
      exact UInt64.not_lt.mpr hstamp hepoch
    simp [countsIn, hne]
  unfold getContributorsWithApprovalsInEpoch
  rw [hnone]
  rfl

end Approved

section Removal
variable {s s' : Store} {k : Bytes} {es : List (Bytes × StoredValidityMetadata)}

/-- Expiry archives memories in place, so it neither adds nor removes one. -/
theorem loadable_expireEntry {e : Bytes × StoredValidityMetadata}
    (hs : s.approved.Forall WellKeyed) (h : expireEntry s e = .ok s')
    (stored : StoredValidityMetadata) : Loadable s' stored ↔ Loadable s stored := by
  obtain ⟨memory, approved, hmemory, rfl, happroved⟩ := expireEntry_ok h
  obtain ⟨contentHash, -, hget⟩ := loadMemoryByCID_ok hmemory
  rcases happroved with rfl | rfl
  · exact Iff.rfl
  · simp only [loadable_iff, OrderedMap.get_set]
    refine exists_congr fun hash => and_congr_right fun _ => ?_
    split
    · rename_i hkey
      have hsame : approvedKey stored.orgId hash = approvedKey e.2.orgId contentHash :=
        hkey.trans (hs _ _ hget).symm
      simp [hsame, hget]
    · rfl

/-- The loop leaves alone what lies at or behind an entry it cannot archive. -/
theorem expireEntries_keeps (hs : s.approved.Forall WellKeyed)
    (hsorted : es.Pairwise fun a b => a.1 < b.1)
    (hblocked : ∃ e ∈ es, e.1 ≤ k ∧ ¬ Loadable s e.2) :
    (expireEntries s es).1.validity.get k = s.validity.get k := by
  induction es generalizing s with
  | nil =>
    obtain ⟨e, he, -⟩ := hblocked
    cases he
  | cons e es ih =>
    unfold expireEntries
    split
    · rfl
    · rename_i s' hexpire
      obtain ⟨memory, approved, hmemory, hs', -⟩ := expireEntry_ok hexpire
      obtain ⟨b, hb, hbk, hbad⟩ := hblocked
      rcases List.mem_cons.mp hb with rfl | hb
      · exact absurd ⟨memory, hmemory⟩ hbad
      · have hlt : e.1 < k := lt_of_lt_of_le (List.rel_of_pairwise_cons hsorted hb) hbk
        rw [ih (approved_expireEntry wellKeyed_archiving hs hexpire) hsorted.of_cons
          ⟨b, hb, hbk, (loadable_expireEntry hs hexpire b.2).not.mpr hbad⟩]
        rw [hs']
        simp [OrderedMap.get_delete, hlt.ne']

theorem expireEntries_get_none (hk : s.validity.get k = none) :
    (expireEntries s es).1.validity.get k = none := by
  apply expireEntries_invariant (I := fun t => t.validity.get k = none) _ hk
  intro e _ t t' ht hexpire
  obtain ⟨_, _, -, rfl, -⟩ := expireEntry_ok hexpire
  simp [OrderedMap.get_delete, ht]

theorem expireEntries_get_of_ne (hk : ∀ e ∈ es, k ≠ e.1) :
    (expireEntries s es).1.validity.get k = s.validity.get k := by
  apply expireEntries_invariant (I := fun t => t.validity.get k = s.validity.get k) _ rfl
  intro e he t t' ht hexpire
  obtain ⟨_, _, -, rfl, -⟩ := expireEntry_ok hexpire
  simp [OrderedMap.get_delete, hk e he, ht]

/-- A loop that gets as far as an entry ends with what the entry's own turn brings about and the
turns behind it keep. -/
theorem expireEntries_reaches {I : Store → Prop} (hs : s.approved.Forall WellKeyed)
    (hsorted : es.Pairwise fun a b => a.1 < b.1) {v : StoredValidityMetadata} (hv : (k, v) ∈ es)
    (hload : ∀ e ∈ es, e.1 ≤ k → Loadable s e.2)
    (hown : ∀ t t', t.approved.Forall WellKeyed → expireEntry t (k, v) = .ok t' → I t')
    (hkeep : ∀ e t t', I t → expireEntry t e = .ok t' → I t') :
    I (expireEntries s es).1 := by
  induction es generalizing s with
  | nil => cases hv
  | cons e es ih =>
    have hle : e.1 ≤ k := by
      rcases List.mem_cons.mp hv with rfl | hv
      · exact le_refl _
      · exact (List.rel_of_pairwise_cons hsorted hv).le
    unfold expireEntries
    split
    · rename_i err hexpire
      have hbad := expireEntry_eq_error_iff.mp ⟨err, hexpire⟩
      exact absurd (hload e List.mem_cons_self hle) hbad
    · rename_i s' hexpire
      rcases List.mem_cons.mp hv with rfl | hv
      · exact expireEntries_invariant (fun e _ => hkeep e) (hown s s' hs hexpire)
      · apply ih (approved_expireEntry wellKeyed_archiving hs hexpire) hsorted.of_cons hv
        intro b hb hbk
        exact (loadable_expireEntry hs hexpire b.2).mpr (hload b (List.mem_cons_of_mem e hb) hbk)

theorem expireEntries_drops (hs : s.approved.Forall WellKeyed)
    (hsorted : es.Pairwise fun a b => a.1 < b.1) {v : StoredValidityMetadata} (hv : (k, v) ∈ es)
    (hload : ∀ e ∈ es, e.1 ≤ k → Loadable s e.2) :
    (expireEntries s es).1.validity.get k = none := by
  apply expireEntries_reaches (I := fun t => t.validity.get k = none) hs hsorted hv hload
  · intro t t' _ hexpire
    obtain ⟨_, _, -, rfl, -⟩ := expireEntry_ok hexpire
    simp [OrderedMap.get_delete]
  · intro e t t' ht hexpire
    obtain ⟨_, _, -, rfl, -⟩ := expireEntry_ok hexpire
    simp [OrderedMap.get_delete, ht]

/-- The expiry of the epoch cannot get past some entry at or before `k`. -/
def Blocked (s : Store) (epoch : UInt64) (k : Bytes) : Prop :=
  ∃ e ∈ s.validity.entries, e.1 ≤ k ∧ isExpired epoch e.2 ∧ ¬ Loadable s e.2

theorem checkEpochExpiry_keeps {epoch : UInt64} {v : StoredValidityMetadata}
    (hs : s.approved.Forall WellKeyed) (hv : s.validity.get k = some v)
    (h : isExpired epoch v = false ∨ Blocked s epoch k) :
    (checkEpochExpiry s epoch).1.validity.get k = some v := by
  rw [← hv]
  unfold checkEpochExpiry
  rcases h with hcurrent | ⟨e, hmem, hek, hexpired, hbad⟩
  · apply expireEntries_get_of_ne
    intro e he heq
    obtain ⟨_, w⟩ := e
    subst heq
    obtain ⟨hmem, hexpired⟩ := List.mem_filter.mp he
    have hw : s.validity.get k = some w := OrderedMap.get_eq_some_iff.mpr hmem
    obtain rfl : v = w := by simpa [hv] using hw
    simp [hcurrent] at hexpired
  · exact expireEntries_keeps hs (s.validity.sorted.filter _)
      ⟨e, List.mem_filter.mpr ⟨hmem, hexpired⟩, hek, hbad⟩

/-- The metadata of an expired memory is gone once the loop has reached it. -/
theorem checkEpochExpiry_drops {epoch : UInt64} {v : StoredValidityMetadata}
    (hs : s.approved.Forall WellKeyed) (hv : s.validity.get k = some v)
    (hexpired : isExpired epoch v) (hreached : ¬ Blocked s epoch k) :
    (checkEpochExpiry s epoch).1.validity.get k = none := by
  apply expireEntries_drops hs (s.validity.sorted.filter _)
    (List.mem_filter.mpr ⟨OrderedMap.get_eq_some_iff.mp hv, hexpired⟩)
  intro e he hek
  obtain ⟨hmem, hexp⟩ := List.mem_filter.mp he
  by_contra hbad
  exact hreached ⟨e, hmem, hek, hexp, hbad⟩

end Removal

end WeVibeChain.Memory
