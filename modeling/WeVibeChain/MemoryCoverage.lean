import WeVibeChain.MemoryRoots

/-!
# x/memory: which memories the stored roots cover

Memories carry the epoch of their commitment. The message handler always writes
epoch zero there, and epochs that end are numbered from one, so the scan for an
epoch that ends finds no memory that came through messages.

The module keeps only the root of a list of hashes. Here a run also remembers the
lists.
-/

set_option autoImplicit false

namespace WeVibeChain.Memory

open Bytes

section Coverage
variable (crypto : Crypto) (authority : Bytes)

/-- A run of the module that also remembers, by Merkle key, the hashes each stored root was
computed from. -/
structure Traced where
  memory : State
  hashLists : OrderedMap Bytes (List Bytes) := ∅
  lastEnded : Int64 := 0

/-- The roots of the orgs, one after the other, and the hashes behind them. -/
def tracedRoots (epoch : UInt64) (orgs : List Bytes)
    (p : Store × OrderedMap Bytes (List Bytes)) : Store × OrderedMap Bytes (List Bytes) :=
  orgs.foldl
    (fun p orgID =>
      (computeAndStoreEpochMerkleRoot crypto.sha256 decodeForeign p.1 orgID epoch,
        p.2.set (merkleKey orgID epoch) (epochContentHashes decodeForeign p.1 orgID epoch))) p

/-- The epoch hook, with the hashes behind its roots. -/
def tracedEpochEnd (p : Store × OrderedMap Bytes (List Bytes)) (n : Int64) :
    Store × OrderedMap Bytes (List Bytes) :=
  let epoch := n.toUInt64
  let expired := (checkEpochExpiry (setCurrentEpoch p.1 epoch) epoch).1
  tracedRoots crypto epoch (getAllOrgsWithMemories expired) (expired, p.2)

def tracedStep (t : Traced) : Input → Traced
  | .msg msg => { t with memory := deliver crypto authority t.memory msg }
  | .otherModules org reputation =>
    { t with memory := { t.memory with org := org, reputation := reputation } }
  | .epochEnd n =>
    let ended := tracedEpochEnd crypto (t.memory.store, t.hashLists) n
    { memory := { t.memory with store := ended.1 }, hashLists := ended.2, lastEnded := n }

def tracedChain : Machine Traced Input Unit :=
  ⟨fun t input => (tracedStep crypto authority t input, ())⟩

/-- Epochs end one after the other. -/
def InOrder (t : Traced) : Input → Prop
  | .epochEnd n => n.toInt = t.lastEnded.toInt + 1
  | _ => True

variable {crypto}

theorem tracedRoots_store (epoch : UInt64) (orgs : List Bytes)
    (p : Store × OrderedMap Bytes (List Bytes)) :
    (tracedRoots crypto epoch orgs p).1 =
      orgs.foldl (fun s orgID => computeAndStoreEpochMerkleRoot crypto.sha256 decodeForeign s orgID
        epoch) p.1 := by
  unfold tracedRoots
  induction orgs generalizing p with
  | nil => rfl
  | cons org orgs ih => exact ih _

/-- Remembering the hashes changes nothing of what the hook does. -/
theorem tracedEpochEnd_store (p : Store × OrderedMap Bytes (List Bytes)) (n : Int64) :
    (tracedEpochEnd crypto p n).1 =
      (afterEpochEnd crypto.sha256 decodeForeign p.1 weVibeEpochIdentifier n).1 :=
  tracedRoots_store _ _ _

/-- The run of the module goes on beneath as if nothing were remembered. -/
theorem tracedChain_run_memory (t : Traced) (inputs : List Input) :
    ((tracedChain crypto authority).run t inputs).memory =
      (chain crypto authority decodeForeign).run t.memory inputs := by
  refine (tracedChain crypto authority).run_map (f := Traced.memory) ?_ t inputs
  intro t input
  cases input with
  | msg msg => rfl
  | otherModules org reputation => rfl
  | epochEnd n =>
    change { t.memory with store := (tracedEpochEnd crypto (t.memory.store, t.hashLists) n).1 } = _
    rw [tracedEpochEnd_store]
    rfl

/-- What messages and epoch ends make of an empty store. -/
structure MessageStore (s : Store) : Prop where
  relationship : s.relationship = ∅
  validity : s.validity = ∅
  approved : s.approved.Forall fun _ record => record.epoch = 0 ∧ record.contentHash.length = 32
  pending : s.pending.Forall fun _ commitment =>
    commitment.epoch = 0 ∧ commitment.submittedAtHeight = 0
  merkle : s.merkle.Forall fun _ root => root.epoch ≠ 0
  report : s.report.Forall fun _ r => r.reporterPubkey ≠ []

variable {s : Store} {authority}

theorem messageStore_empty : MessageStore {} :=
  ⟨rfl, rfl, OrderedMap.forall_empty, OrderedMap.forall_empty, OrderedMap.forall_empty,
    OrderedMap.forall_empty⟩

theorem messageStore_stored {msg : Msg} {s' : Store} (hs : MessageStore s)
    (h : Stored crypto s msg s') : MessageStore s' := by
  cases h with
  | submit m hbasic hfresh => exact { hs with pending := hs.pending.set ⟨rfl, rfl⟩ }
  | approve m pending hbasic hfound hverified hfresh =>
    have hpending : pending.epoch = 0 := (hs.pending _ _ (getPendingCommitment_ok hfound)).1
    have hlength : m.contentHash.length = 32 := validateBasic_contentHash hbasic
    exact { hs with
      approved := hs.approved.set ⟨hpending, hlength⟩
      pending := hs.pending.delete _ }
  | report m hbasic hfresh =>
    exact { hs with report := hs.report.set (validateBasic_reporter hbasic) }
  | params m => exact { hs with }

theorem messageStore_deliver {st : State} (hs : MessageStore st.store) (msg : Msg) :
    MessageStore (deliver crypto authority st msg).store := by
  rcases deliver_eq crypto authority st msg with ⟨-, hsame⟩ | hok
  · rwa [hsame]
  · exact messageStore_stored hs (handle_stored hok)

theorem messageStore_expiry (hs : MessageStore s) (epoch : UInt64) :
    MessageStore (checkEpochExpiry (setCurrentEpoch s epoch) epoch).1 := by
  refine checkEpochExpiry_invariant ?_ epoch { hs with }
  intro e t t' ht hexpire
  have happroved := approved_expireEntry (fun _ _ h => h) ht.approved hexpire
  obtain ⟨_, _, -, rfl, -⟩ := expireEntry_ok hexpire
  have hvalidity : t.validity.delete e.1 = ∅ := by
    rw [ht.validity]
    rfl
  exact { ht with approved := happroved, validity := hvalidity }

/-- A scan for an epoch other than zero finds no content hash of 32 bytes: all that has such a hash
is of epoch zero or does not decode. -/
theorem epochContentHashes_short {orgID contentHash : Bytes} {epoch : UInt64} (hs : MessageStore s)
    (hepoch : epoch ≠ 0) (h : contentHash ∈ epochContentHashes decodeForeign s orgID epoch) :
    contentHash.length ≤ 8 := by
  obtain ⟨e, memory, ⟨k, memory', hholds, -, hdecode', hmemory⟩, hdecode, rfl⟩ :=
    mem_epochContentHashes h
  obtain rfl : memory = memory' := Option.some.inj (hdecode.symm.trans hdecode')
  rw [decodeMemory_decodeForeign] at hdecode
  cases e with
  | relationship r => exact absurd hholds (OrderedMap.get_ne_some hs.relationship k r)
  | validity v => exact absurd hholds (OrderedMap.get_ne_some hs.validity k v)
  | approved record =>
    obtain rfl := Option.some.inj hdecode
    exact absurd (hmemory.symm.trans (hs.approved k record hholds).1) hepoch
  | count n => exact memoryOfWord_contentHash hdecode
  | currentEpoch n => exact memoryOfWord_contentHash hdecode
  | merkle root =>
    rw [decodeForeign_merkle, if_neg (hs.merkle k root hholds)] at hdecode
    cases hdecode
  | params p => exact decodeForeign_params_contentHash hdecode
  | pending commitment =>
    obtain ⟨hzero, hheight⟩ := hs.pending k commitment hholds
    rw [decodeForeign_pending, if_pos hzero] at hdecode
    obtain rfl := Option.some.inj hdecode
    exact absurd (hmemory.symm.trans hheight) hepoch
  | report r =>
    rw [decodeForeign_report, if_neg fun hreport => hs.report k r hholds hreport.1] at hdecode
    cases hdecode

/-- Each stored root is computed from the hashes remembered for it. -/
def ListsBehind (crypto : Crypto) (s : Store) (lists : OrderedMap Bytes (List Bytes)) : Prop :=
  ∀ k root, s.merkle.get k = some root →
    ∃ list, lists.get k = some list ∧ root.merkleRoot = computeMerkleRoot crypto.sha256 list ∧
      root.memoryCount = UInt64.ofNat list.length

theorem listsBehind_root {lists : OrderedMap Bytes (List Bytes)} (h : ListsBehind crypto s lists)
    (orgID : Bytes) (epoch : UInt64) :
    ListsBehind crypto (computeAndStoreEpochMerkleRoot crypto.sha256 decodeForeign s orgID epoch)
      (lists.set (merkleKey orgID epoch) (epochContentHashes decodeForeign s orgID epoch)) := by
  intro k root hget
  generalize hhashes : epochContentHashes decodeForeign s orgID epoch = hashes
  simp only [computeAndStoreEpochMerkleRoot, hhashes, OrderedMap.get_set] at hget
  rw [OrderedMap.get_set]
  split at hget
  · rename_i hkey
    obtain rfl := Option.some.inj hget
    rw [if_pos hkey]
    exact ⟨hashes, rfl, rfl, rfl⟩
  · rename_i hkey
    rw [if_neg hkey]
    exact h k root hget

/-- What a run keeps: the hashes remembered are those behind the roots, and none is of 32 bytes. -/
structure Uncovered (crypto : Crypto) (s : Store) (lists : OrderedMap Bytes (List Bytes)) :
    Prop where
  store : MessageStore s
  behind : ListsBehind crypto s lists
  short : lists.Forall fun _ list => ∀ contentHash ∈ list, contentHash.length ≤ 8

theorem uncovered_tracedRoots {lists : OrderedMap Bytes (List Bytes)} {epoch : UInt64}
    (hepoch : epoch ≠ 0) (orgs : List Bytes) (h : Uncovered crypto s lists) :
    Uncovered crypto (tracedRoots crypto epoch orgs (s, lists)).1
      (tracedRoots crypto epoch orgs (s, lists)).2 := by
  induction orgs generalizing s lists with
  | nil => exact h
  | cons org orgs ih =>
    apply ih
    exact ⟨{ h.store with merkle := h.store.merkle.set hepoch }, listsBehind_root h.behind org epoch,
      h.short.set fun _ hmem => epochContentHashes_short h.store hepoch hmem⟩

theorem uncovered_tracedEpochEnd {lists : OrderedMap Bytes (List Bytes)} {n : Int64}
    (hn : n.toUInt64 ≠ 0) (h : Uncovered crypto s lists) :
    Uncovered crypto (tracedEpochEnd crypto (s, lists) n).1
      (tracedEpochEnd crypto (s, lists) n).2 := by
  apply uncovered_tracedRoots hn
  refine ⟨messageStore_expiry h.store _, ?_, h.short⟩
  have hmerkle : (checkEpochExpiry (setCurrentEpoch s n.toUInt64) n.toUInt64).1.merkle =
      s.merkle := by
    apply checkEpochExpiry_invariant (s := setCurrentEpoch s n.toUInt64)
      (I := fun t => t.merkle = s.merkle) _ _ rfl
    intro e t t' ht hexpire
    obtain ⟨_, _, -, rfl, -⟩ := expireEntry_ok hexpire
    exact ht
  intro k root hget
  rw [hmerkle] at hget
  exact h.behind k root hget

theorem uncovered_next (t : Traced) (input : Input)
    (ht : 0 ≤ t.lastEnded.toInt ∧ Uncovered crypto t.memory.store t.hashLists)
    (hinput : InOrder t input) :
    0 ≤ ((tracedChain crypto authority).next t input).lastEnded.toInt ∧
      Uncovered crypto ((tracedChain crypto authority).next t input).memory.store
        ((tracedChain crypto authority).next t input).hashLists := by
  obtain ⟨hended, huncovered⟩ := ht
  cases input with
  | msg msg =>
    refine ⟨hended, messageStore_deliver huncovered.store msg, ?_, huncovered.short⟩
    have hmerkle : (deliver crypto authority t.memory msg).store.merkle = t.memory.store.merkle :=
      deliver_merkle t.memory msg
    intro k root hget
    change (deliver crypto authority t.memory msg).store.merkle.get k = some root at hget
    rw [hmerkle] at hget
    exact huncovered.behind k root hget
  | otherModules org reputation => exact ⟨hended, huncovered⟩
  | epochEnd n =>
    have hn : n.toInt = t.lastEnded.toInt + 1 := hinput
    refine ⟨?_, uncovered_tracedEpochEnd ?_ huncovered⟩
    · change 0 ≤ n.toInt
      omega
    · intro hzero
      have hlt := Words.toUInt64_lt_of_succ hended hn
      rw [hzero] at hlt
      exact absurd hlt (UInt64.not_lt_zero)

/-- The hash is among those behind a stored root of the org. -/
def Covered (t : Traced) (orgID contentHash k : Bytes) : Prop :=
  ∃ root list, t.memory.store.merkle.get k = some root ∧ root.orgId = orgID ∧
    t.hashLists.get k = some list ∧ contentHash ∈ list

variable (crypto authority)

/-- In every run from an empty memory store in which epochs end in order, no stored root covers
an approved memory. -/
theorem approved_memory_in_no_root (org : Orgs.Store) (reputation : Reputation.Store)
    (inputs : List Input)
    (hrun : (tracedChain crypto authority).Along InOrder ⟨⟨{}, org, reputation⟩, ∅, 0⟩ inputs) :
    ListsBehind crypto
        ((tracedChain crypto authority).run ⟨⟨{}, org, reputation⟩, ∅, 0⟩ inputs).memory.store
        ((tracedChain crypto authority).run ⟨⟨{}, org, reputation⟩, ∅, 0⟩ inputs).hashLists ∧
      ∀ key record,
        ((tracedChain crypto authority).run ⟨⟨{}, org, reputation⟩, ∅, 0⟩
          inputs).memory.store.approved.get key = some record →
        ∀ k, ¬ Covered ((tracedChain crypto authority).run ⟨⟨{}, org, reputation⟩, ∅, 0⟩ inputs)
          record.orgId record.contentHash k := by
  have hended : 0 ≤ (0 : Int64).toInt := by decide
  have hbehind : ListsBehind crypto {} ∅ := by
    intro k root h
    cases h
  have hstart : Uncovered crypto {} ∅ := ⟨messageStore_empty, hbehind, OrderedMap.forall_empty⟩
  obtain ⟨-, huncovered⟩ := (tracedChain crypto authority).run_invariant
    (s := ⟨⟨{}, org, reputation⟩, ∅, 0⟩) uncovered_next ⟨hended, hstart⟩ hrun
  refine ⟨huncovered.behind, ?_⟩
  rintro key record hget k ⟨root, list, -, -, hlist, hmem⟩
  have hlength := (huncovered.store.approved key record hget).2
  have hshort := huncovered.short k list hlist record.contentHash hmem
  omega

open EpochHooks (sampleApprove sampleCrypto sampleHash sampleOrgs sampleRecord sampleSubmit)

/-- A memory is submitted and approved, and the epoch ends. -/
def firstEpoch : List Input :=
  [.otherModules sampleOrgs {}, .msg (.submitCommitment sampleSubmit),
    .msg (.approveMemory sampleApprove), .epochEnd 1]

theorem firstEpoch_inOrder :
    (tracedChain sampleCrypto []).Along InOrder ⟨⟨{}, {}, {}⟩, ∅, 0⟩ firstEpoch :=
  ⟨trivial, trivial, trivial, rfl, trivial⟩

theorem firstEpoch_approved :
    ((tracedChain sampleCrypto []).run ⟨⟨{}, {}, {}⟩, ∅, 0⟩ firstEpoch).memory.store.approved.get
      (approvedKey (ascii "o") sampleHash) = some sampleRecord := by
  decide +kernel

theorem firstEpoch_memory_in_no_root :
    ((tracedChain sampleCrypto []).run ⟨⟨{}, {}, {}⟩, ∅, 0⟩ firstEpoch).memory.store.approved.get
        (approvedKey (ascii "o") sampleHash) = some sampleRecord ∧
      ¬ ∃ k, Covered ((tracedChain sampleCrypto []).run ⟨⟨{}, {}, {}⟩, ∅, 0⟩ firstEpoch) (ascii "o")
        sampleHash k := by
  refine ⟨firstEpoch_approved, ?_⟩
  rintro ⟨k, hcovered⟩
  exact (approved_memory_in_no_root sampleCrypto [] {} {} firstEpoch firstEpoch_inOrder).2 _
    sampleRecord firstEpoch_approved k hcovered

/-- The memory of the first epoch is approved when the epoch ends. One root is stored, the org's of
epoch 1, and it is the root of no hashes. -/
theorem first_epoch_root_is_empty :
    (tracedChain sampleCrypto []).Along InOrder ⟨⟨{}, {}, {}⟩, ∅, 0⟩ firstEpoch ∧
      ((tracedChain sampleCrypto []).run ⟨⟨{}, {}, {}⟩, ∅, 0⟩
        firstEpoch).memory.store.approved.get (approvedKey (ascii "o") sampleHash) =
          some sampleRecord ∧
      ((tracedChain sampleCrypto []).run ⟨⟨{}, {}, {}⟩, ∅, 0⟩
        firstEpoch).memory.store.merkle.entries =
          [(merkleKey (ascii "o") 1, ⟨ascii "o", 1, [], 0⟩)] ∧
      ((tracedChain sampleCrypto []).run ⟨⟨{}, {}, {}⟩, ∅, 0⟩ firstEpoch).hashLists.entries =
        [(merkleKey (ascii "o") 1, [])] := by
  refine ⟨firstEpoch_inOrder, firstEpoch_approved, ?_, ?_⟩
  · decide +kernel
  · decide +kernel

end Coverage

end WeVibeChain.Memory
