import WeVibeChain.ServeRecords

/-!
# x/serve: whom an accepted serve is attributed to

The memory record names the contributor of a memory, and so does each entry of a
serve batch. The reputation goes to the wallet of the record. The receipt, the
tally of the contributor and the self-serve flag, also the one the reputation is
computed with, go by the entry. They are right exactly when the entry names the
contributor of the record.
-/

set_option autoImplicit false

namespace WeVibeChain.Serve

open Bytes

section Turns
variable (crypto : Crypto) (scopeTagsOf : Bytes → Option (OrderedMap Bytes Bytes))

/-- An entry the loop has accepted, with the states before and after its turn. -/
structure Turn where
  before : State
  serve : ServeEntry
  after : State

def acceptedTurns (params : Params) (orgID : Bytes) (epoch : UInt64) :
    State → List ServeEntry → List Turn
  | _, [] => []
  | st, serve :: serves =>
    match processServe crypto scopeTagsOf params orgID epoch st serve with
    | .error _ => []
    | .ok (st', .accepted) => ⟨st, serve, st'⟩ :: acceptedTurns params orgID epoch st' serves
    | .ok (st', _) => acceptedTurns params orgID epoch st' serves

/-- The accepted entries of a batch, in order. -/
def batchTurns (st : State) (orgID : Bytes) (epoch : UInt64) (serves : List ServeEntry) :
    List Turn :=
  if serves.length > (getParams st.store).maxServesPerBatch.toNat then []
  else
    match Bandwidth.consumeServeBandwidth st.bandwidth orgID epoch
        (UInt64.ofNat serves.length) with
    | .error _ => []
    | .ok bandwidth =>
      acceptedTurns crypto scopeTagsOf (getParams st.store) orgID epoch
        { st with bandwidth := bandwidth } serves

variable {crypto scopeTagsOf} {params : Params} {orgID : Bytes} {epoch : UInt64} {st st' : State}

/-- Every accepted turn passed the checks of the loop, with the memory records the batch found. -/
theorem acceptedTurns_spec {serves : List ServeEntry} {turn : Turn}
    (h : turn ∈ acceptedTurns crypto scopeTagsOf params orgID epoch st serves) :
    turn.before.memory = st.memory ∧
      turn.after = acceptedState turn.before (serveReceipt crypto orgID epoch turn.serve) ∧
      Acceptable crypto scopeTagsOf turn.before.memory params orgID epoch turn.before.store
        turn.serve := by
  induction serves generalizing st with
  | nil => cases h
  | cons serve serves ih =>
    unfold acceptedTurns at h
    split at h
    · cases h
    · rename_i st₁ hserve
      rcases processServe_cases hserve with ⟨-, hne⟩ | ⟨-, hst₁, hok⟩
      · exact absurd rfl hne
      · rcases List.mem_cons.mp h with rfl | hmem
        · exact ⟨rfl, hst₁, hok⟩
        · have hrest := ih hmem
          rw [hst₁] at hrest
          exact hrest
    · rename_i st₁ outcome hne hserve
      rcases processServe_cases hserve with ⟨rfl, -⟩ | ⟨rfl, -, -⟩
      · exact ih h
      · exact absurd rfl hne

theorem batchTurns_spec {serves : List ServeEntry} {turn : Turn}
    (h : turn ∈ batchTurns crypto scopeTagsOf st orgID epoch serves) :
    turn.before.memory = st.memory ∧
      turn.after = acceptedState turn.before (serveReceipt crypto orgID epoch turn.serve) ∧
      Acceptable crypto scopeTagsOf turn.before.memory (getParams st.store) orgID epoch
        turn.before.store turn.serve := by
  unfold batchTurns at h
  split at h
  · cases h
  split at h
  · cases h
  obtain ⟨hmemory, hafter, hok⟩ := acceptedTurns_spec h
  exact ⟨hmemory, hafter, hok⟩

end Turns

section Attribution
variable (crypto : Crypto) (scopeTagsOf : Bytes → Option (OrderedMap Bytes Bytes))

/-- What is left after the reputation of a wallet has been credited with a serve; a wallet that is
not set, or a failure, leaves the reputation alone. -/
def creditServe (reputation : Reputation.Store) (wallet orgID : Bytes) (epoch : UInt64)
    (isSelfServe : Bool) : Reputation.Store :=
  if wallet = [] then reputation
  else
    match Reputation.recordServe reputation wallet orgID epoch isSelfServe with
    | .error _ => reputation
    | .ok recorded => recorded

/-- The receipt names the contributor of the memory record, and every use of the self-serve flag
is true exactly when the serving key is that contributor. -/
structure Attributed (orgID : Bytes) (epoch : UInt64) (mem : Memory.MemoryCommitment)
    (turn : Turn) : Prop where
  receipt : ∃ r, turn.after.store.receipt.get (receiptKey orgID epoch
      (serveReceipt crypto orgID epoch turn.serve).fingerprint) = some r ∧
    r.contributorId = mem.contributor ∧
    (r.isSelfServe = true ↔ hexEncode turn.serve.serveKeyPubkey = mem.contributor)
  selfServes : (statsOf turn.after.store orgID epoch).selfServes =
    (statsOf turn.before.store orgID epoch).selfServes +
      if hexEncode turn.serve.serveKeyPubkey = mem.contributor then 1 else 0
  selfServeCount : (contributorOf turn.after.store mem.contributor epoch).selfServeCount =
    (contributorOf turn.before.store mem.contributor epoch).selfServeCount +
      if hexEncode turn.serve.serveKeyPubkey = mem.contributor then 1 else 0
  reputation : turn.after.reputation = creditServe turn.before.reputation mem.contributor orgID
    epoch (hexEncode turn.serve.serveKeyPubkey = mem.contributor)

variable {crypto scopeTagsOf}

theorem selfServes_acceptedStore (s : Store) (r : ServeReceipt) :
    (statsOf (acceptedStore s r) r.orgID r.epoch).selfServes =
      (statsOf s r.orgID r.epoch).selfServes + if r.isSelfServe then 1 else 0 := by
  rw [statsOf_acceptedStore, if_pos ⟨rfl, rfl⟩]
  change (if r.isSelfServe then _ else _) = _
  split
  · rfl
  · exact (UInt64.add_zero _).symm

theorem selfServeCount_acceptedStore (s : Store) (r : ServeReceipt) :
    (contributorOf (acceptedStore s r) r.contributorID r.epoch).selfServeCount =
      (contributorOf s r.contributorID r.epoch).selfServeCount +
        if r.isSelfServe then 1 else 0 := by
  rw [contributorOf_acceptedStore, if_pos ⟨rfl, rfl⟩, countContributorServe_eq]
  dsimp only
  split
  · rfl
  · exact (UInt64.add_zero _).symm

theorem recordServeReputation_eq {memory : Memory.Store} {r : ServeReceipt}
    {mem : Memory.MemoryCommitment}
    (hmem : Memory.getApprovedMemory memory r.orgID r.contentHash = .ok mem)
    (reputation : Reputation.Store) :
    recordServeReputation memory reputation r =
      creditServe reputation mem.contributor r.orgID r.epoch r.isSelfServe := by
  unfold recordServeReputation
  split
  · rename_i e hfail
    rw [hmem] at hfail
    cases hfail
  · rename_i found hfound
    rw [hmem] at hfound
    obtain rfl := Except.ok.inj hfound
    rfl

theorem receipt_acceptedStore (s : Store) (r : ServeReceipt) :
    (acceptedStore s r).receipt.get (receiptKey r.orgID r.epoch r.fingerprint) =
      some (serveReceiptToStored r) := by
  obtain ⟨stats, hframe⟩ := acceptedStore_frame s r
  rw [hframe]
  exact OrderedMap.get_set_self _ _ _

/-- A turn is attributed rightly exactly when its entry names the contributor of the record. -/
theorem attributed_turn_iff {orgID : Bytes} {epoch : UInt64} {turn : Turn}
    (hafter : turn.after = acceptedState turn.before (serveReceipt crypto orgID epoch turn.serve))
    {mem : Memory.MemoryCommitment}
    (hmem : Memory.getApprovedMemory turn.before.memory orgID turn.serve.memoryContentHash =
      .ok mem) :
    Attributed crypto orgID epoch mem turn ↔ turn.serve.contributorId = mem.contributor := by
  have hreceipt := receipt_acceptedStore turn.before.store (serveReceipt crypto orgID epoch turn.serve)
  constructor
  · intro h
    obtain ⟨r, hr, hcontributor, -⟩ := h.receipt
    rw [hafter] at hr
    obtain rfl := Option.some.inj (hreceipt.symm.trans hr)
    exact hcontributor
  · intro hnamed
    have hself : (serveReceipt crypto orgID epoch turn.serve).isSelfServe =
        decide (hexEncode turn.serve.serveKeyPubkey = mem.contributor) := by
      rw [← hnamed]
      rfl
    refine ⟨⟨serveReceiptToStored (serveReceipt crypto orgID epoch turn.serve), ?_, hnamed, ?_⟩,
      ?_, ?_, ?_⟩
    · rw [hafter]
      exact hreceipt
    · change (serveReceipt crypto orgID epoch turn.serve).isSelfServe = true ↔ _
      rw [hself, decide_eq_true_eq]
    · have hstats := selfServes_acceptedStore turn.before.store
        (serveReceipt crypto orgID epoch turn.serve)
      simp only [hself, decide_eq_true_eq] at hstats
      rw [hafter]
      exact hstats
    · have hcount := selfServeCount_acceptedStore turn.before.store
        (serveReceipt crypto orgID epoch turn.serve)
      simp only [hself, decide_eq_true_eq] at hcount
      rw [hafter, ← hnamed]
      rw [← hnamed] at hcount
      exact hcount
    · rw [hafter, ← hself]
      exact recordServeReputation_eq hmem turn.before.reputation

variable (crypto scopeTagsOf) in
/-- For every accepted entry of every batch: the attribution is right exactly when the entry names
the contributor of the memory record. -/
theorem attributed_iff (st : State) (orgID : Bytes) (epoch : UInt64) (serves : List ServeEntry) :
    ∀ turn ∈ batchTurns crypto scopeTagsOf st orgID epoch serves, ∃ mem,
      Memory.getApprovedMemory st.memory orgID turn.serve.memoryContentHash = .ok mem ∧
        (Attributed crypto orgID epoch mem turn ↔ turn.serve.contributorId = mem.contributor) := by
  intro turn hturn
  obtain ⟨hmemory, hafter, hok⟩ := batchTurns_spec hturn
  obtain ⟨mem, hmem⟩ := hok.approved
  refine ⟨mem, ?_, attributed_turn_iff hafter hmem⟩
  rw [← hmemory]
  exact hmem

end Attribution

section Sample

theorem sample_attributed : ∃ turn mem,
    turn ∈ batchTurns sampleCrypto (fun _ => none) sampleState (ascii "a") 1 [sampleServe] ∧
      Attributed sampleCrypto (ascii "a") 1 mem turn := by
  have hserves : (batchTurns sampleCrypto (fun _ => none) sampleState (ascii "a") 1
      [sampleServe]).map Turn.serve = [sampleServe] := by
    decide +kernel
  have hcontributor : (Memory.getApprovedMemory sampleState.memory (ascii "a")
      sampleHash).toOption.map Memory.MemoryCommitment.contributor = some (ascii "c") := by
    decide +kernel
  obtain ⟨turn, hturn, hserve⟩ := List.mem_map.mp
    (hserves ▸ List.mem_singleton_self sampleServe : sampleServe ∈ List.map Turn.serve _)
  obtain ⟨mem, hmem, hiff⟩ := attributed_iff sampleCrypto (fun _ => none) sampleState (ascii "a") 1
    [sampleServe] turn hturn
  refine ⟨turn, mem, hturn, hiff.mpr ?_⟩
  rw [hserve] at hmem ⊢
  change Memory.getApprovedMemory sampleState.memory (ascii "a") sampleHash = .ok mem at hmem
  rw [hmem] at hcontributor
  exact (Option.some.inj hcontributor).symm

/-- A serve of the memory of `c` that names the serving key itself as the contributor. The
signature does not cover the contributor. -/
def sampleForged : ServeEntry :=
  { sampleServe with contributorId := hexEncode sampleKey }

/-- The forged entry is accepted and recorded as a self-serve of the key, although the record of
the memory names `c`. -/
theorem forged_attribution :
    (batchTurns sampleCrypto (fun _ => none) sampleState (ascii "a") 1 [sampleForged]).map
        (fun turn => turn.after.store.receipt.values.map
          fun r => (r.contributorId, r.isSelfServe)) = [[(hexEncode sampleKey, true)]] ∧
      ∀ turn ∈ batchTurns sampleCrypto (fun _ => none) sampleState (ascii "a") 1 [sampleForged],
        ∀ mem, Memory.getApprovedMemory sampleState.memory (ascii "a") sampleHash = .ok mem →
          ¬ Attributed sampleCrypto (ascii "a") 1 mem turn := by
  refine ⟨by decide +kernel, ?_⟩
  intro turn hturn mem hmem hattributed
  have hreceipts : ∀ t ∈ batchTurns sampleCrypto (fun _ => none) sampleState (ascii "a") 1
      [sampleForged], ((t.after.store.receipt.get (receiptKey (ascii "a") 1
        (serveReceipt sampleCrypto (ascii "a") 1 t.serve).fingerprint)).map
          StoredServeReceipt.contributorId) = some (hexEncode sampleKey) := by
    decide +kernel
  have hcontributor : (Memory.getApprovedMemory sampleState.memory (ascii "a")
      sampleHash).toOption.map Memory.MemoryCommitment.contributor = some (ascii "c") := by
    decide +kernel
  obtain ⟨r, hr, hnamed, -⟩ := hattributed.receipt
  have hfound := hreceipts turn hturn
  rw [hr, Option.map_some, hnamed] at hfound
  rw [hmem] at hcontributor
  exact absurd (hcontributor.symm.trans hfound) (by decide)

end Sample

end WeVibeChain.Serve
