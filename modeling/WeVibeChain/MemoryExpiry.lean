import WeVibeChain.MemoryEpochs

/-!
# x/memory: what the epoch hook retires

The hook lets every step run whatever the others do, but the expiry itself gives
up at the first entry whose memory it cannot load, and its error is only logged.
Entries from a genesis file need not belong to a memory. An entry that does not
shields every expired entry behind it in key order, in every epoch.
-/

set_option autoImplicit false

namespace WeVibeChain.Memory

open Bytes

section Retired
variable {s s' : Store} {key : Bytes}

/-- The memory under the key, if there is one, is not committed. -/
def Retired (key : Bytes) (s : Store) : Prop :=
  ∀ record, s.approved.get key = some record → record.state ≠ .committed

theorem Retired.expireEntry {e : Bytes × StoredValidityMetadata} (hs : Retired key s)
    (h : expireEntry s e = .ok s') : Retired key s' := by
  obtain ⟨memory, approved, -, rfl, happroved⟩ := expireEntry_ok h
  rcases happroved with rfl | rfl
  · exact hs
  · intro record hget
    change (s.approved.set _ _).get key = some record at hget
    rw [OrderedMap.get_set] at hget
    split at hget
    · rw [← Option.some.inj hget]
      exact nofun
    · exact hs record hget

/-- The turn of an entry retires the entry's memory. -/
theorem retired_of_expireEntry {e : Bytes × StoredValidityMetadata}
    (hs : s.approved.Forall WellKeyed) (h : expireEntry s e = .ok s') {contentHash : Bytes}
    (hcid : decodeCID e.2.memoryCid = .ok contentHash) :
    Retired (approvedKey e.2.orgId contentHash) s' := by
  unfold Memory.expireEntry at h
  split at h
  · cases h
  rename_i memory hmemory
  obtain ⟨hash, hhash, hget⟩ := loadMemoryByCID_ok hmemory
  rw [hcid] at hhash
  obtain rfl := Except.ok.inj hhash
  have hkey : approvedKey e.2.orgId contentHash = approvedKey memory.orgID memory.contentHash :=
    hs _ _ hget
  obtain rfl := Except.ok.inj h
  intro record hrecord
  by_cases hstate : memory.state ≠ .archived ∧ memory.state ≠ .denied
  · rw [if_pos hstate] at hrecord
    change (s.approved.set _ _).get _ = some record at hrecord
    rw [hkey, OrderedMap.get_set_self] at hrecord
    rw [← Option.some.inj hrecord]
    exact nofun
  · rw [if_neg hstate] at hrecord
    change s.approved.get _ = some record at hrecord
    rw [hget] at hrecord
    rw [← Option.some.inj hrecord]
    change memory.state ≠ .committed
    intro hcommitted
    apply hstate
    rw [hcommitted]
    exact ⟨nofun, nofun⟩

/-- A loop that gets as far as an entry retires the entry's memory. -/
theorem expireEntries_retires {es : List (Bytes × StoredValidityMetadata)} {k : Bytes}
    (hs : s.approved.Forall WellKeyed) (hsorted : es.Pairwise fun a b => a.1 < b.1)
    {v : StoredValidityMetadata} (hv : (k, v) ∈ es)
    (hload : ∀ e ∈ es, e.1 ≤ k → Loadable s e.2) {contentHash : Bytes}
    (hcid : decodeCID v.memoryCid = .ok contentHash) :
    Retired (approvedKey v.orgId contentHash) (expireEntries s es).1 := by
  apply expireEntries_reaches hs hsorted hv hload
  · intro t t' ht hexpire
    exact retired_of_expireEntry ht hexpire hcid
  · intro e t t' ht hexpire
    exact ht.expireEntry hexpire

end Retired

section Hook
variable {s : Store} {epoch : UInt64}

theorem checkEpochExpiry_retires {k contentHash : Bytes} {v : StoredValidityMetadata}
    (hs : s.approved.Forall WellKeyed) (hv : s.validity.get k = some v)
    (hexpired : isExpired epoch v) (hreached : ¬ Blocked s epoch k)
    (hcid : decodeCID v.memoryCid = .ok contentHash) :
    Retired (approvedKey v.orgId contentHash) (checkEpochExpiry s epoch).1 := by
  apply expireEntries_retires hs (s.validity.sorted.filter _)
    (List.mem_filter.mpr ⟨OrderedMap.get_eq_some_iff.mp hv, hexpired⟩) _ hcid
  intro e he hek
  obtain ⟨hmem, hexp⟩ := List.mem_filter.mp he
  by_contra hbad
  exact hreached ⟨e, hmem, hek, hexp, hbad⟩

/-- The metadata under the key had run out before the epoch, and it is that of an approved
memory with the content hash. -/
structure RunOut (s : Store) (epoch : UInt64) (k : Bytes) (v : StoredValidityMetadata)
    (contentHash : Bytes) : Prop where
  found : s.validity.get k = some v
  limited : 0 < v.validUntilEpoch
  past : v.validUntilEpoch < epoch
  named : decodeCID v.memoryCid = .ok contentHash
  approved : s.approved.has (approvedKey v.orgId contentHash) = true

/-- Of the memories whose metadata had run out none is committed any more, and the metadata is
gone. -/
def AllRetired (s s' : Store) (epoch : UInt64) : Prop :=
  ∀ k v contentHash, RunOut s epoch k v contentHash →
    Retired (approvedKey v.orgId contentHash) s' ∧ s'.validity.get k = none

theorem isExpired_iff_runOut {v : StoredValidityMetadata} :
    isExpired epoch v = true ↔ 0 < v.validUntilEpoch ∧ v.validUntilEpoch < epoch := by
  have hpos : 0 < v.validUntilEpoch ↔ v.validUntilEpoch ≠ 0 := UInt64.pos_iff_ne_zero
  simp [isExpired, hpos, UInt64.not_le]

variable (sha256 : Bytes → Bytes) (foreign : Entry → Option StoredMemoryCommitment)

/-- The hook retires everything that has run out exactly if no entry that has run out and belongs
to a memory has an entry before it that has run out and belongs to none. -/
theorem allRetired_iff (g : GenesisState) (n : Int64) :
    AllRetired (initGenesis {} g)
        (afterEpochEnd sha256 foreign (initGenesis {} g) weVibeEpochIdentifier n).1 n.toUInt64 ↔
      ∀ k v contentHash, RunOut (initGenesis {} g) n.toUInt64 k v contentHash →
        ¬ Blocked (initGenesis {} g) n.toUInt64 k := by
  have hkeyed : (setCurrentEpoch (initGenesis {} g) n.toUInt64).approved.Forall WellKeyed :=
    wellKeyed_initGenesis OrderedMap.forall_empty g
  obtain ⟨merkle, hframe⟩ := afterEpochEnd_frame sha256 foreign (initGenesis {} g) n
  rw [hframe]
  constructor
  · intro hall k v contentHash hout hblocked
    have hgone := (hall k v contentHash hout).2
    have hkept : (checkEpochExpiry (setCurrentEpoch (initGenesis {} g) n.toUInt64)
        n.toUInt64).1.validity.get k = some v :=
      checkEpochExpiry_keeps hkeyed hout.found (Or.inr hblocked)
    rw [hkept] at hgone
    cases hgone
  · intro hreached k v contentHash hout
    have hexpired := isExpired_iff_runOut.mpr ⟨hout.limited, hout.past⟩
    have hnot := hreached k v contentHash hout
    exact ⟨checkEpochExpiry_retires hkeyed hout.found hexpired hnot hout.named,
      checkEpochExpiry_drops hkeyed hout.found hexpired hnot⟩

end Hook

section Sample

/-- The second memory is valid up to epoch 1. The entry of org `a` has a cid that is no hash. -/
def shieldedGenesis : GenesisState where
  memoryCommitments :=
    [{ orgID := ascii "b", contentHash := List.replicate 32 1, contributor := ascii "c",
       state := .committed }]
  validityMetadata :=
    [{ orgId := ascii "a", memoryCid := ascii "zz", validUntilEpoch := 1 },
      { orgId := ascii "b", memoryCid := hexEncode (List.replicate 32 1), validUntilEpoch := 1 }]

def shieldedStore : Store :=
  (afterEpochEnd (fun _ => []) (fun _ => none) (initGenesis {} shieldedGenesis)
    weVibeEpochIdentifier 2).1

theorem shielded_not_retired :
    (shieldedStore.approved.get (approvedKey (ascii "b") (List.replicate 32 1))).map
        StoredMemoryCommitment.state = some .committed ∧
      shieldedStore.validity.has (validityKey (ascii "b") (hexEncode (List.replicate 32 1))) =
        true ∧
      ¬ AllRetired (initGenesis {} shieldedGenesis) shieldedStore 2 := by
  have hsample :
      (shieldedStore.approved.get (approvedKey (ascii "b") (List.replicate 32 1))).map
          StoredMemoryCommitment.state = some .committed ∧
        shieldedStore.validity.has (validityKey (ascii "b") (hexEncode (List.replicate 32 1))) =
          true ∧
        (initGenesis {} shieldedGenesis).validity.get
            (validityKey (ascii "b") (hexEncode (List.replicate 32 1))) =
          some { orgId := ascii "b", memoryCid := hexEncode (List.replicate 32 1),
                 validUntilEpoch := 1 } ∧
        (initGenesis {} shieldedGenesis).approved.has
            (approvedKey (ascii "b") (List.replicate 32 1)) = true ∧
        decodeCID (hexEncode (List.replicate 32 1)) = .ok (List.replicate 32 1) := by
    decide +kernel
  obtain ⟨hstate, hkept, hfound, happroved, hcid⟩ := hsample
  refine ⟨hstate, hkept, ?_⟩
  intro hall
  have hgone := (hall _ _ _ ⟨hfound, by decide, by decide, hcid, happroved⟩).2
  rw [OrderedMap.has_iff] at hkept
  obtain ⟨v, hv⟩ := hkept
  rw [hgone] at hv
  cases hv

end Sample

end WeVibeChain.Memory
