import WeVibeChain.EmissionsAtomicity
import WeVibeChain.MemoryEpochs
import WeVibeChain.Shared.Machine
import WeVibeChain.Shared.Words

/-!
# The epoch hooks of the application

The application runs the emissions hook first and the memory hook second, both
with the number of the epoch that ends. The mint asks for the approvals of that
number while the memory module still has the number of the epoch before, so the
counts it is given are empty at the end of every epoch.
-/

set_option autoImplicit false

namespace WeVibeChain.EpochHooks

open Memory (MsgApproveMemory StoredMemoryCommitment approvedKey approveMemoryMsg)

/-- The stores the two hooks work on, and the number of the last epoch that ended. -/
structure State (β : Type) where
  memory : Memory.State
  emissions : Emissions.State β
  lastEnded : Int64 := 0

/-- What happens on the chain between and at epoch ends. Of the other modules' messages only the
effect on these stores matters. -/
inductive Input (β : Type) where
  | memoryMsg (msg : Memory.Msg)
  | otherModules (org : Orgs.Store) (reputation : Reputation.Store) (emissions : Emissions.State β)
  | epochEnd (n : Int64)

section Chain
variable {β : Type} (bk : BankKeeper β) (crypto : Crypto) (authority : Bytes)
  (foreign : Memory.Entry → Option StoredMemoryCommitment)

/-- The answer of the memory keeper to the mint at the end of epoch `n`. -/
def approvalCounts (s : State β) (n : Int64) : OrderedMap Bytes UInt64 :=
  Memory.getContributorsWithApprovalsInEpoch s.memory.store n.toUInt64

def epochEnd (s : State β) (n : Int64) : State β where
  emissions := (Emissions.afterEpochEnd bk
    (fun epoch => some (Memory.getContributorsWithApprovalsInEpoch s.memory.store epoch))
    s.emissions Emissions.weVibeEpochIdentifier n).1
  memory :=
    { s.memory with
      store := (Memory.afterEpochEnd crypto.sha256 foreign s.memory.store
        Memory.weVibeEpochIdentifier n).1 }
  lastEnded := n

/-- The output of an epoch end is the counts its mint was given. -/
def step (s : State β) : Input β → State β × Option (OrderedMap Bytes UInt64)
  | .memoryMsg msg => ({ s with memory := Memory.deliver crypto authority s.memory msg }, none)
  | .otherModules org reputation emissions =>
    ({ s with memory := { s.memory with org := org, reputation := reputation },
              emissions := emissions }, none)
  | .epochEnd n => (epochEnd bk crypto foreign s n, some (approvalCounts s n))

def chain : Machine (State β) (Input β) (Option (OrderedMap Bytes UInt64)) :=
  ⟨step bk crypto authority foreign⟩

/-- Epochs end one after the other. -/
def InOrder (s : State β) : Input β → Prop
  | .epochEnd n => n.toInt = s.lastEnded.toInt + 1
  | _ => True

/-- The memory module knows the last epoch that ended and stamps approvals with it. -/
structure Lagging (s : State β) : Prop where
  nonneg : 0 ≤ s.lastEnded.toInt
  current : Memory.getCurrentEpoch s.memory.store = s.lastEnded.toUInt64
  stamped : s.memory.store.approved.Forall (Memory.StampedUpTo s.lastEnded.toUInt64)

theorem lagging_start {s : State β} (hstore : s.memory.store = {}) (hstart : s.lastEnded = 0) :
    Lagging s := by
  refine ⟨?_, ?_, ?_⟩
  · rw [hstart]
    decide
  · rw [hstore, hstart]
    rfl
  · rw [hstore]
    exact OrderedMap.forall_empty

theorem Lagging.deliver {s : State β} (hs : Lagging s) (msg : Memory.Msg) :
    Lagging { s with memory := Memory.deliver crypto authority s.memory msg } := by
  refine ⟨hs.nonneg, ?_, ?_⟩
  · rw [← hs.current]
    unfold Memory.getCurrentEpoch
    rcases Memory.deliver_cases crypto authority s.memory msg with
      ⟨-, -, hcurrent⟩ | ⟨approve, pending, -, -, -, -, hstore⟩
    · simp only [hcurrent]
    · simp only [hstore]
      rfl
  · apply Memory.approved_deliver hs.stamped
    intro a pending
    exact UInt64.le_of_eq hs.current

theorem Lagging.epochEnd {s : State β} (hs : Lagging s) {n : Int64}
    (hn : n.toInt = s.lastEnded.toInt + 1) : Lagging (epochEnd bk crypto foreign s n) := by
  have hlt : s.lastEnded.toUInt64 < n.toUInt64 := Words.toUInt64_lt_of_succ hs.nonneg hn
  refine ⟨?_, ?_, ?_⟩
  · have hnonneg := hs.nonneg
    change 0 ≤ n.toInt
    omega
  · obtain ⟨merkle, hframe⟩ :=
      Memory.afterEpochEnd_frame crypto.sha256 foreign s.memory.store n
    change Memory.getCurrentEpoch (Memory.afterEpochEnd _ _ _ _ _).1 = _
    rw [hframe]
    simp only [Memory.getCurrentEpoch, Memory.checkEpochExpiry_currentEpoch]
    rfl
  · apply Memory.approved_afterEpochEnd (Memory.stampedUpTo_archiving _)
    intro k record hget
    exact UInt64.le_of_lt (UInt64.lt_of_le_of_lt (hs.stamped k record hget) hlt)

theorem lagging_step (s : State β) (input : Input β) (hs : Lagging s) (hinput : InOrder s input) :
    Lagging ((chain bk crypto authority foreign).next s input) := by
  cases input with
  | memoryMsg msg => exact hs.deliver crypto authority msg
  | otherModules org reputation emissions => exact ⟨hs.nonneg, hs.current, hs.stamped⟩
  | epochEnd n => exact hs.epochEnd bk crypto foreign hinput

/-- The counts of an epoch that ends next are empty. -/
theorem Lagging.approvalCounts {s : State β} (hs : Lagging s) {n : Int64}
    (hn : n.toInt = s.lastEnded.toInt + 1) : approvalCounts s n = ∅ :=
  Memory.approvals_eq_empty hs.stamped (Words.toUInt64_lt_of_succ hs.nonneg hn)

/-- A memory with a contributor that was approved after the last epoch end of the run and is
still committed where the run stops. -/
structure ApprovedSinceLastEnd (s : State β) (inputs : List (Input β))
    (record : StoredMemoryCommitment) : Prop where
  approved : ∃ before approve after,
    inputs = before ++ .memoryMsg (.approveMemory approve) :: after ∧
      (∀ n, .epochEnd n ∉ after) ∧
      (approveMemoryMsg crypto ((chain bk crypto authority foreign).run s before).memory
        approve).isOk ∧
      ((chain bk crypto authority foreign).run s inputs).memory.store.approved.get
        (approvedKey approve.orgId approve.contentHash) = some record
  committed : record.state = .committed
  contributor : record.contributorPubkey ≠ []

/-- In every run from an empty memory store in which epochs end in order, the counts of every
epoch that ends are empty. No memory approved during the epoch is among them. -/
theorem approved_memory_never_counted {s : State β} (hstore : s.memory.store = {})
    (hstart : s.lastEnded = 0) (inputs : List (Input β)) (n : Int64)
    (hrun : (chain bk crypto authority foreign).Along InOrder s (inputs ++ [.epochEnd n])) :
    approvalCounts ((chain bk crypto authority foreign).run s inputs) n = ∅ ∧
      ∀ record, ApprovedSinceLastEnd bk crypto authority foreign s inputs record →
        (approvalCounts ((chain bk crypto authority foreign).run s inputs) n).get
          record.contributorPubkey = none := by
  obtain ⟨hbefore, hend, -⟩ := (Machine.along_append _).mp hrun
  have hlag : Lagging ((chain bk crypto authority foreign).run s inputs) :=
    (chain bk crypto authority foreign).run_invariant (lagging_step bk crypto authority foreign)
      (lagging_start hstore hstart) hbefore
  have hempty := hlag.approvalCounts hend
  refine ⟨hempty, ?_⟩
  intro record _
  rw [hempty]
  exact OrderedMap.get_empty _

end Chain

section Sample

open Bytes

/-- A contributor's public key. -/
def sampleKey : Bytes :=
  [3, 161, 7, 191, 243, 206, 16, 190, 29, 112, 221, 24, 231, 75, 192, 153, 103, 228, 214, 48,
    155, 165, 13, 95, 29, 220, 134, 100, 18, 85, 49, 184]

def sampleContributor : Bytes := hexEncode sampleKey

def sampleBlob : Bytes := ascii "m"

/-- The SHA-256 hash of `sampleBlob`. -/
def sampleHash : Bytes :=
  [98, 198, 106, 122, 93, 215, 12, 49, 70, 97, 128, 99, 195, 68, 229, 49, 230, 212, 181, 158, 55,
    152, 8, 68, 60, 233, 98, 179, 171, 214, 60, 90]

/-- The SHA-256 hash of no bytes. -/
def emptyHash : Bytes :=
  [227, 176, 196, 66, 152, 252, 28, 20, 154, 251, 244, 200, 153, 111, 185, 36, 39, 174, 65, 228,
    100, 155, 147, 76, 164, 149, 153, 27, 120, 82, 184, 85]

/-- The contributor's signature of the submission of `sampleBlob` to org `o`. -/
def sampleSignature : Bytes :=
  [136, 251, 217, 187, 43, 3, 200, 203, 4, 208, 64, 164, 99, 102, 91, 18, 97, 6, 36, 162, 226,
    63, 67, 174, 169, 196, 111, 54, 38, 11, 149, 237, 36, 194, 173, 62, 227, 98, 126, 80, 144,
    164, 46, 245, 57, 22, 72, 195, 131, 16, 99, 179, 42, 200, 128, 147, 4, 169, 77, 173, 195,
    131, 85, 14]

def sampleBody : Bytes :=
  Memory.buildSubmitMemoryCanonicalBody sampleHash sampleContributor 0 .memory (ascii "o") [] []
    sampleHash emptyHash

/-- The hash and the signature check on the inputs that occur below. -/
def sampleCrypto : Crypto where
  sha256 b := if b = [] then emptyHash else sampleHash
  ed25519Verify key message signature :=
    key = sampleKey ∧ message = sampleBody ∧ signature = sampleSignature

/-- Org `o` with leader wallet `w` and one leader, who is also the contributor. -/
def sampleOrgs : Orgs.Store where
  org := OrderedMap.set ∅ (Orgs.orgKey (ascii "o"))
    { orgId := ascii "o", leader := sampleContributor, leaderWalletAddress := ascii "w" }
  member := OrderedMap.set ∅ (Orgs.memberKey (ascii "o") sampleContributor)
    { orgID := ascii "o", pubkey := sampleContributor, role := ascii "leader" }

def sampleSubmit : Memory.MsgSubmitCommitment where
  signer := ascii "w"
  orgId := ascii "o"
  contentHash := sampleHash
  contributorId := sampleContributor

def sampleApprove : MsgApproveMemory where
  signer := ascii "w"
  orgId := ascii "o"
  contentHash := sampleHash
  encryptedBlob := sampleBlob
  committingLeader := sampleContributor
  ciphertextHash := sampleHash
  contributorSig := sampleSignature

def sampleStart : State Ledger where
  memory := ⟨{}, {}, {}⟩
  emissions := ⟨{}, {}⟩

/-- Register the org and start emissions, submit a memory, approve it. -/
def sampleInputs : List (Input Ledger) :=
  [.otherModules sampleOrgs {} ⟨Emissions.initGenesis {} Emissions.defaultGenesis, {}⟩,
    .memoryMsg (.submitCommitment sampleSubmit), .memoryMsg (.approveMemory sampleApprove)]

theorem sample_inOrder :
    (chain Ledger.keeper sampleCrypto [] fun _ => none).Along InOrder sampleStart
      (sampleInputs ++ [.epochEnd 1]) :=
  ⟨trivial, trivial, trivial, rfl, trivial⟩

theorem sample_never_counted :
    approvalCounts ((chain Ledger.keeper sampleCrypto [] fun _ => none).run sampleStart
      sampleInputs) 1 = ∅ :=
  (approved_memory_never_counted Ledger.keeper sampleCrypto [] (fun _ => none) rfl rfl sampleInputs
    1 sample_inOrder).1

/-- The record of the memory approved in the first epoch. -/
def sampleRecord : StoredMemoryCommitment :=
  Memory.memoryToStored (Memory.approvedRecord (sampleApprove.approval sampleCrypto)
    { orgID := ascii "o", contentHash := sampleHash, contributor := sampleContributor,
      memoryType := .memory } 0)

/-- One memory is approved during epoch 1 and still committed when it ends, and the mint of epoch 1
is told of no approval by its contributor. -/
theorem first_epoch_counts_nobody :
    (chain Ledger.keeper sampleCrypto [] fun _ => none).Along InOrder sampleStart
        (sampleInputs ++ [.epochEnd 1]) ∧
      ApprovedSinceLastEnd Ledger.keeper sampleCrypto [] (fun _ => none) sampleStart sampleInputs
        sampleRecord ∧
      (approvalCounts ((chain Ledger.keeper sampleCrypto [] fun _ => none).run sampleStart
        sampleInputs) 1).get sampleRecord.contributorPubkey = none := by
  refine ⟨sample_inOrder, ⟨⟨sampleInputs.take 2, sampleApprove, [], rfl, ?_, ?_, ?_⟩, rfl, ?_⟩, ?_⟩
  · intro n hn
    cases hn
  · decide +kernel
  · decide +kernel
  · decide +kernel
  · decide +kernel

end Sample

end WeVibeChain.EpochHooks
