import WeVibeChain.EpochHooks
import WeVibeChain.ServeAttribution

/-!
# Expired memories and the serves of them

A memory that is past its last epoch is invalid as long as its validity metadata
says so. The expiry at an epoch end archives the memory and drops the metadata,
and without metadata a memory is valid in every epoch; x/serve does not look at
the state of the memory. So an expired memory is invalid exactly until the
expiry gets to it.
-/

set_option autoImplicit false

namespace WeVibeChain.EpochHooks

open Bytes

section Answers
variable {scopeTagsOf : Bytes → Option (OrderedMap Bytes Bytes)} {s : Memory.Store}
  {orgID cid : Bytes} {epoch : UInt64}

theorem decodeValidityMetadata_ok {stored : Memory.StoredValidityMetadata}
    {metadata : Memory.ValidityMetadata}
    (h : Memory.decodeValidityMetadata scopeTagsOf stored = .ok metadata) :
    metadata.validAfterEpoch = stored.validAfterEpoch ∧
      metadata.validUntilEpoch = stored.validUntilEpoch := by
  unfold Memory.decodeValidityMetadata at h
  split at h
  · obtain rfl := Except.ok.inj h
    exact ⟨rfl, rfl⟩
  split at h
  · cases h
  · obtain rfl := Except.ok.inj h
    exact ⟨rfl, rfl⟩

/-- Metadata that has run out keeps a memory invalid, whether its scope tags can be read or
not. -/
theorem not_valid_of_metadata {stored : Memory.StoredValidityMetadata}
    (hget : s.validity.get (Memory.validityKey orgID cid) = some stored)
    (hpos : 0 < stored.validUntilEpoch) (hepoch : stored.validUntilEpoch < epoch) :
    Memory.isValidInEpoch scopeTagsOf s orgID cid epoch ≠ .ok true := by
  unfold Memory.isValidInEpoch Memory.getValidityMetadata
  cases hdecode : Memory.decodeValidityMetadata scopeTagsOf stored with
  | error e => simp only [hget, hdecode, Except.map, ne_eq, reduceCtorEq, not_false_eq_true]
  | ok metadata =>
    obtain ⟨-, huntil⟩ := decodeValidityMetadata_ok hdecode
    have hne : stored.validUntilEpoch ≠ 0 := (UInt64.ne_of_lt hpos).symm
    simp only [hget, hdecode, Except.map, huntil]
    split
    · exact nofun
    · rw [if_pos ⟨hne, hepoch⟩]
      exact nofun

theorem valid_of_no_metadata (hget : s.validity.get (Memory.validityKey orgID cid) = none) :
    Memory.isValidInEpoch scopeTagsOf s orgID cid epoch = .ok true := by
  unfold Memory.isValidInEpoch Memory.getValidityMetadata
  rw [hget]

end Answers

section Runs
variable {β : Type} (bk : BankKeeper β) (crypto : Crypto) (authority : Bytes)
  (foreign : Memory.Entry → Option Memory.StoredMemoryCommitment)

/-- An epoch end at or before the last valid epoch, or one whose expiry does not get as far as the
metadata under the key. -/
def KeepsMetadata (k : Bytes) (lastValid : UInt64) (s : State β) : Input β → Prop
  | .epochEnd n => n.toUInt64 ≤ lastValid ∨ Memory.Blocked s.memory.store n.toUInt64 k
  | _ => True

/-- The metadata is in place and the approved memories are under their own keys. -/
structure HasMetadata (k : Bytes) (stored : Memory.StoredValidityMetadata) (s : State β) :
    Prop where
  wellKeyed : s.memory.store.approved.Forall Memory.WellKeyed
  metadata : s.memory.store.validity.get k = some stored

variable {k : Bytes} {stored : Memory.StoredValidityMetadata}

theorem validity_deliver (st : Memory.State) (msg : Memory.Msg) :
    (Memory.deliver crypto authority st msg).store.validity = st.store.validity := by
  rcases Memory.deliver_cases crypto authority st msg with
    ⟨-, hvalidity, -⟩ | ⟨approve, pending, -, -, -, -, hstore⟩
  · exact hvalidity
  · rw [hstore]
    rfl

theorem validity_epochEnd (s : State β) (n : Int64) :
    (epochEnd bk crypto foreign s n).memory.store.validity =
      (Memory.checkEpochExpiry (Memory.setCurrentEpoch s.memory.store n.toUInt64)
        n.toUInt64).1.validity := by
  obtain ⟨merkle, hframe⟩ := Memory.afterEpochEnd_frame crypto.sha256 foreign s.memory.store n
  change (Memory.afterEpochEnd crypto.sha256 foreign s.memory.store _ n).1.validity = _
  rw [hframe]

theorem isExpired_iff {epoch : UInt64} (hpos : 0 < stored.validUntilEpoch) :
    Memory.isExpired epoch stored = true ↔ stored.validUntilEpoch < epoch := by
  have hne : stored.validUntilEpoch ≠ 0 := (UInt64.ne_of_lt hpos).symm
  simp [Memory.isExpired, hne, UInt64.not_le]

theorem hasMetadata_keep (hpos : 0 < stored.validUntilEpoch) (s : State β) (input : Input β)
    (hs : HasMetadata k stored s) (hinput : KeepsMetadata k stored.validUntilEpoch s input) :
    HasMetadata k stored ((chain bk crypto authority foreign).next s input) := by
  cases input with
  | memoryMsg msg =>
    refine ⟨Memory.wellKeyed_deliver hs.wellKeyed, ?_⟩
    change (Memory.deliver crypto authority s.memory msg).store.validity.get k = _
    rw [validity_deliver]
    exact hs.metadata
  | otherModules org reputation emissions => exact ⟨hs.wellKeyed, hs.metadata⟩
  | epochEnd n =>
    refine ⟨Memory.approved_afterEpochEnd Memory.wellKeyed_archiving hs.wellKeyed n, ?_⟩
    change (epochEnd bk crypto foreign s n).memory.store.validity.get k = _
    rw [validity_epochEnd]
    have hwell : (Memory.setCurrentEpoch s.memory.store n.toUInt64).approved.Forall
      Memory.WellKeyed := hs.wellKeyed
    apply Memory.checkEpochExpiry_keeps hwell hs.metadata
    rcases hinput with hearly | hblocked
    · left
      rw [← Bool.not_eq_true, isExpired_iff hpos]
      exact UInt64.not_lt.mpr hearly
    · exact Or.inr hblocked

theorem hasMetadata_lose (hpos : 0 < stored.validUntilEpoch) (s : State β) (input : Input β)
    (hs : HasMetadata k stored s) (hinput : ¬ KeepsMetadata k stored.validUntilEpoch s input) :
    ((chain bk crypto authority foreign).next s input).memory.store.validity.get k = none := by
  cases input with
  | memoryMsg msg => exact absurd trivial hinput
  | otherModules org reputation emissions => exact absurd trivial hinput
  | epochEnd n =>
    obtain ⟨hlate, hreached⟩ := not_or.mp hinput
    change (epochEnd bk crypto foreign s n).memory.store.validity.get k = none
    rw [validity_epochEnd]
    have hwell : (Memory.setCurrentEpoch s.memory.store n.toUInt64).approved.Forall
      Memory.WellKeyed := hs.wellKeyed
    exact Memory.checkEpochExpiry_drops hwell hs.metadata
      ((isExpired_iff hpos).mpr (UInt64.not_le.mp hlate)) hreached

theorem noMetadata_step (s : State β) (input : Input β)
    (hs : s.memory.store.validity.get k = none) :
    ((chain bk crypto authority foreign).next s input).memory.store.validity.get k = none := by
  cases input with
  | memoryMsg msg =>
    change (Memory.deliver crypto authority s.memory msg).store.validity.get k = none
    rw [validity_deliver]
    exact hs
  | otherModules org reputation emissions => exact hs
  | epochEnd n =>
    change (epochEnd bk crypto foreign s n).memory.store.validity.get k = none
    rw [validity_epochEnd]
    exact Memory.expireEntries_get_none hs

end Runs

section Serves
variable {β : Type} (bk : BankKeeper β) (crypto : Crypto) (authority : Bytes)
  (foreign : Memory.Entry → Option Memory.StoredMemoryCommitment)
  (scopeTagsOf : Bytes → Option (OrderedMap Bytes Bytes))

/-- From a genesis with metadata of a memory, the memory is invalid in an epoch after its last one
where the run stops exactly when no epoch end of the run has dropped the metadata; and then no
batch for such an epoch has a serve of the memory accepted. -/
theorem expired_invalid_iff (g : Memory.GenesisState) (orgID cid : Bytes)
    {stored : Memory.StoredValidityMetadata}
    (hstored : (Memory.initGenesis {} g).validity.get (Memory.validityKey orgID cid) = some stored)
    (hpos : 0 < stored.validUntilEpoch) {epoch : UInt64} (hepoch : stored.validUntilEpoch < epoch)
    {s : State β} (hs : s.memory.store = Memory.initGenesis {} g) (inputs : List (Input β)) :
    (Memory.isValidInEpoch scopeTagsOf
          ((chain bk crypto authority foreign).run s inputs).memory.store orgID cid epoch ≠
        .ok true ↔
      (chain bk crypto authority foreign).Along
        (KeepsMetadata (Memory.validityKey orgID cid) stored.validUntilEpoch) s inputs) ∧
    ((chain bk crypto authority foreign).Along
        (KeepsMetadata (Memory.validityKey orgID cid) stored.validUntilEpoch) s inputs →
      ∀ st : Serve.State,
        st.memory = ((chain bk crypto authority foreign).run s inputs).memory.store →
        ∀ serves, ∀ turn ∈ Serve.batchTurns crypto scopeTagsOf st orgID epoch serves,
          hexEncode turn.serve.memoryContentHash ≠ cid) := by
  have hstart : HasMetadata (Memory.validityKey orgID cid) stored s := by
    refine ⟨?_, ?_⟩
    · rw [hs]
      exact Memory.wellKeyed_initGenesis OrderedMap.forall_empty g
    · rw [hs]
      exact hstored
  have hinvalid : (chain bk crypto authority foreign).Along
      (KeepsMetadata (Memory.validityKey orgID cid) stored.validUntilEpoch) s inputs →
      Memory.isValidInEpoch scopeTagsOf
        ((chain bk crypto authority foreign).run s inputs).memory.store orgID cid epoch ≠
          .ok true := by
    intro hkept
    have hend := (chain bk crypto authority foreign).run_invariant
      (hasMetadata_keep bk crypto authority foreign hpos) hstart hkept
    exact not_valid_of_metadata hend.metadata hpos hepoch
  refine ⟨⟨?_, hinvalid⟩, ?_⟩
  · intro hnot
    by_contra hdropped
    have hend := (chain bk crypto authority foreign).run_lost
      (hasMetadata_keep bk crypto authority foreign hpos)
      (hasMetadata_lose bk crypto authority foreign hpos)
      (noMetadata_step bk crypto authority foreign) hstart hdropped
    exact hnot (valid_of_no_metadata hend)
  · intro hkept st hmemory serves turn hturn hsame
    obtain ⟨hbefore, -, hok⟩ := Serve.batchTurns_spec hturn
    have hvalid := hok.valid
    rw [hbefore, hmemory, hsame] at hvalid
    exact hinvalid hkept hvalid

end Serves

section ExpirySample

/-- A memory of org `a` that is valid up to epoch 1. -/
def expiryGenesis : Memory.GenesisState where
  memoryCommitments :=
    [{ orgID := ascii "a", contentHash := Serve.sampleHash, contributor := ascii "c",
       state := .committed }]
  validityMetadata :=
    [{ orgId := ascii "a", memoryCid := hexEncode Serve.sampleHash, validUntilEpoch := 1 }]

def expiryStart : State Ledger where
  memory := ⟨Memory.initGenesis {} expiryGenesis, {}, {}⟩
  emissions := ⟨{}, {}⟩

/-- The memory store after the ends of the epochs. -/
def expiryStore (epochs : List Int64) : Memory.Store :=
  ((chain Ledger.keeper Serve.sampleCrypto [] fun _ => none).run expiryStart
    (epochs.map .epochEnd)).memory.store

theorem sample_expired_invalid :
    Memory.isValidInEpoch (fun _ => none) (expiryStore [1]) (ascii "a")
      (hexEncode Serve.sampleHash) 2 ≠ .ok true := by
  have hiff := (expired_invalid_iff Ledger.keeper Serve.sampleCrypto [] (fun _ => none)
    (fun _ => none) expiryGenesis (ascii "a") (hexEncode Serve.sampleHash)
    (by decide +kernel : (Memory.initGenesis {} expiryGenesis).validity.get
      (Memory.validityKey (ascii "a") (hexEncode Serve.sampleHash)) =
        some { orgId := ascii "a", memoryCid := hexEncode Serve.sampleHash, validUntilEpoch := 1 })
    (by decide) (by decide : (1 : UInt64) < 2) (rfl : expiryStart.memory.store = _)
    [.epochEnd 1]).1
  exact hiff.mpr ⟨Or.inl (by decide), trivial⟩

/-- The end of epoch 2 archives the memory and drops its metadata. The memory then is valid in
epoch 2, and a serve of it in epoch 2 is accepted. -/
theorem archived_memory_served :
    (Memory.getApprovedMemory (expiryStore [1, 2]) (ascii "a") Serve.sampleHash).toOption.map
        Memory.MemoryCommitment.state = some .archived ∧
      (Memory.isValidInEpoch (fun _ => none) (expiryStore [1, 2]) (ascii "a")
        (hexEncode Serve.sampleHash) 2).toOption = some true ∧
      (Serve.batchTurns Serve.sampleCrypto (fun _ => none)
        ⟨{}, Serve.sampleOrgs, expiryStore [1, 2], {}, {}⟩ (ascii "a") 2
        [{ Serve.sampleServe with serveSig := Serve.sampleSignature2 }]).length = 1 :=
  ⟨by decide +kernel, by decide +kernel, by decide +kernel⟩

end ExpirySample

end WeVibeChain.EpochHooks
