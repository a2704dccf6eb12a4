import WeVibeChain.EmissionsAtomicity
import WeVibeChain.Node

/-!
# No contributor is ever rewarded

The mint of an epoch counts the approvals stamped with that epoch. x/memory stamps
an approval with the number of the last epoch that ended, and the mint refuses every
epoch that is not after the last one it has minted. The memory store is empty when
the chain starts, so whatever epochs end and whatever mints the authority asks for,
every mint finds no approval: the contributors' budget goes to the rollover and stays
there.
-/

set_option autoImplicit false

namespace WeVibeChain.Emissions

section Unapproved
variable (params : Params) (pool : EmissionPool)

@[simp] theorem contributorCredits_empty : contributorCredits params pool ∅ = [] := by
  unfold contributorCredits
  split <;> rfl

@[simp] theorem distributedToContributors_empty : distributedToContributors params pool ∅ = 0 := rfl

/-- Without approvals the budget moves from one field of the pool to another. -/
theorem advancePool_empty (epoch : UInt64) :
    (advancePool params pool ∅ epoch).contributorRolloverUvibe +
        (advancePool params pool ∅ epoch).contributorPoolRemainingUvibe =
      pool.contributorRolloverUvibe + pool.contributorPoolRemainingUvibe := by
  change pool.contributorRolloverUvibe + contributorBudget params pool +
    (pool.contributorPoolRemainingUvibe - contributorBudget params pool) = _
  generalize contributorBudget params pool = budget
  rw [UInt64.add_assoc, UInt64.add_comm budget, UInt64.sub_add_cancel]

variable {β : Type} {bk : BankKeeper β} {approvals : UInt64 → Option (OrderedMap Bytes UInt64)}
  {st : State β} {pool} {epoch : UInt64}

/-- A mint that is told of no approvals is too early or makes a record and moves the pool on. -/
theorem mintDailyEmission_unapproved (hpool : getEmissionPool st.store = .ok pool)
    (hvalid : pool.validate = .ok ())
    (hnone : pool.epoch < epoch → (approvals epoch).getD ∅ = ∅) :
    (epoch ≤ pool.epoch ∧ (mintDailyEmission bk approvals st epoch).1 = st) ∨
      (pool.epoch < epoch ∧
        (mintDailyEmission bk approvals st epoch).1 = ⟨mintedStore st.store pool ∅ epoch, st.bank⟩) := by
  have hend := mintDailyEmission_end bk approvals st epoch
  generalize mintDailyEmission bk approvals st epoch = result at hend ⊢
  cases hend with
  | noPool hnoPool => rw [hpool] at hnoPool; cases hnoPool
  | notAfter pool' hpool' hepoch =>
    obtain rfl := Except.ok.inj (hpool.symm.trans hpool')
    exact Or.inl ⟨hepoch, rfl⟩
  | bankFailed pool' hpool' hepoch hbank =>
    obtain rfl := Except.ok.inj (hpool.symm.trans hpool')
    rw [hnone hepoch, distributedToContributors_empty, mintDistributed_zero] at hbank
    cases hbank
  | poolRefused pool' bank hpool' hepoch hbank hinvalid =>
    obtain rfl := Except.ok.inj (hpool.symm.trans hpool')
    rw [hvalid] at hinvalid
    cases hinvalid
  | minted pool' bank hpool' hepoch hbank _ =>
    obtain rfl := Except.ok.inj (hpool.symm.trans hpool')
    rw [hnone hepoch] at hbank ⊢
    rw [distributedToContributors_empty, mintDistributed_zero] at hbank
    obtain rfl := Option.some.inj hbank
    exact Or.inr ⟨hepoch, rfl⟩

/-- The store after such a mint. -/
theorem mintedStore_empty (s : Store) :
    mintedStore s pool ∅ epoch = { s with
      emission := s.emission.set (emissionKey epoch)
        (dailyEmissionToStored (emissionOf (getParams s) pool ∅ epoch))
      pool := some (emissionPoolToStored (advancePool (getParams s) pool ∅ epoch)) } := by
  have hcredited : creditedStore s pool ∅ = s := by
    rw [creditedStore, contributorCredits_empty, addContributorRewards_nil]
  rw [mintedStore, recordedStore, hcredited]

/-- A contributor without a reward cannot claim one. -/
theorem claimContributorReward_of_zero {accAddressFromBech32 : Bytes → Option Bytes}
    {identity : Identity.Store} {msg : MsgClaimContributorReward}
    (h : getContributorReward st.store msg.passkeyPubkey = 0) :
    ∃ e, claimContributorReward bk accAddressFromBech32 identity st msg = .error e := by
  unfold claimContributorReward
  split
  · exact ⟨_, rfl⟩
  split
  · exact ⟨_, rfl⟩
  split
  · exact ⟨_, rfl⟩
  split
  · exact ⟨_, rfl⟩
  · exact ⟨_, if_pos h⟩

end Unapproved

end WeVibeChain.Emissions

namespace WeVibeChain.Node

section Unrewarded
variable {β γ : Type} {env : Env β γ} {st st' : State β γ} {pool : Emissions.EmissionPool}
  {total : UInt64}

/-- Nobody has a reward, and what was approved is stamped with an epoch that the pool has passed. -/
structure Unrewarded (total : UInt64) (st : State β γ) (pool : Emissions.EmissionPool) : Prop where
  pending : st.emissions.contribReward = ∅
  lifetime : st.emissions.lifetimeReward = ∅
  found : Emissions.getEmissionPool st.emissions = .ok pool
  valid : pool.validate = .ok ()
  budget : pool.contributorRolloverUvibe + pool.contributorPoolRemainingUvibe = total
  current : Memory.getCurrentEpoch st.app.memory ≤ pool.epoch
  stamped : st.app.memory.approved.Forall (Memory.StampedUpTo pool.epoch)

/-- The other stores do not matter, nor what x/memory does within these bounds. -/
theorem Unrewarded.withMemory (h : Unrewarded total st pool)
    (hemissions : st'.emissions = st.emissions)
    (hcurrent : Memory.getCurrentEpoch st'.app.memory ≤ pool.epoch)
    (hstamped : st'.app.memory.approved.Forall (Memory.StampedUpTo pool.epoch)) :
    Unrewarded total st' pool := by
  refine ⟨?_, ?_, ?_, h.valid, h.budget, hcurrent, hstamped⟩
  · rw [hemissions]
    exact h.pending
  · rw [hemissions]
    exact h.lifetime
  · rw [hemissions]
    exact h.found

theorem Unrewarded.congr (h : Unrewarded total st pool) (hemissions : st'.emissions = st.emissions)
    (hmemory : st'.app.memory = st.app.memory) : Unrewarded total st' pool := by
  apply h.withMemory hemissions
  · rw [hmemory]
    exact h.current
  · rw [hmemory]
    exact h.stamped

/-- A mint of any epoch leaves the bank and the rewards alone and passes the epoch. -/
theorem Unrewarded.mint (h : Unrewarded total st pool) (bk : BankKeeper β) (epoch : UInt64) :
    ∃ emissions pool', (Emissions.mintDailyEmission bk st.approvals st.emissionsState epoch).1 =
        ⟨emissions, st.app.bank⟩ ∧ epoch ≤ pool'.epoch ∧
      Unrewarded total (st.withEmissions ⟨emissions, st.app.bank⟩) pool' := by
  have hnone : pool.epoch < epoch → (st.approvals epoch).getD ∅ = ∅ := by
    intro hlt
    exact Memory.approvals_eq_empty h.stamped hlt
  rcases @Emissions.mintDailyEmission_unapproved pool β bk st.approvals st.emissionsState epoch h.found h.valid hnone with
    ⟨hle, hsame⟩ | ⟨hlt, hminted⟩
  · exact ⟨st.emissions, pool, hsame, hle, h⟩
  · have hle := UInt64.le_of_lt hlt
    rw [Emissions.mintedStore_empty] at hminted
    refine ⟨_, Emissions.advancePool (Emissions.getParams st.emissions) pool ∅ epoch, hminted,
      UInt64.le_refl epoch, h.pending, h.lifetime, ?_, ?_, ?_, ?_, ?_⟩
    · rfl
    · rw [Emissions.advancePool_validate]
      exact h.valid
    · rw [Emissions.advancePool_empty]
      exact h.budget
    · exact UInt64.le_trans h.current hle
    · intro k record hget
      exact UInt64.le_trans (h.stamped k record hget) hle

/-- The hook of x/memory takes over the number of an epoch that the pool has passed. -/
theorem Unrewarded.memoryAtEpochEnd (h : Unrewarded total st pool) (env : Env β γ) {n : Int64}
    (hn : n.toUInt64 ≤ pool.epoch) : Unrewarded total (memoryAtEpochEnd env st n) pool := by
  refine h.withMemory rfl ?_ ?_
  · obtain ⟨merkle, hframe⟩ :=
      Memory.afterEpochEnd_frame env.crypto.sha256 env.foreign st.app.memory n
    change Memory.getCurrentEpoch (Memory.afterEpochEnd _ _ _ _ _).1 ≤ _
    rw [hframe]
    simp only [Memory.getCurrentEpoch, Memory.checkEpochExpiry_currentEpoch]
    exact hn
  · exact Memory.approved_afterEpochEnd (Memory.stampedUpTo_archiving _) h.stamped n

theorem Unrewarded.stored (h : Unrewarded total st pool) {msg : Memory.Msg}
    (hemissions : st'.emissions = st.emissions)
    (hstored : Memory.Stored env.crypto st.app.memory msg st'.app.memory) :
    Unrewarded total st' pool := by
  have hmemory : Memory.getCurrentEpoch st'.app.memory = Memory.getCurrentEpoch st.app.memory ∧
      st'.app.memory.approved.Forall (Memory.StampedUpTo pool.epoch) := by
    generalize st'.app.memory = memory at hstored ⊢
    cases hstored with
    | approve m pending basic found verified fresh => exact ⟨rfl, h.stamped.set h.current⟩
    | _ => exact ⟨rfl, h.stamped⟩
  apply h.withMemory hemissions _ hmemory.2
  rw [hmemory.1]
  exact h.current

theorem Unrewarded.claim (h : Unrewarded total st pool) (env : Env β γ)
    (msg : Emissions.MsgClaimContributorReward) :
    ∃ e, Emissions.claimContributorReward env.bank env.ext.accAddressFromBech32 st.identity
      st.emissionsState msg = .error e := by
  apply Emissions.claimContributorReward_of_zero
  change (st.emissions.contribReward.get _).getD 0 = 0
  rw [h.pending]
  rfl

/-- The inputs that may move coins: the messages of x/org, and what is not part of the repository. -/
def MovesCoins : Input β γ → Prop
  | .msg (.app (.org _)) => True
  | .others _ _ => True
  | _ => False

theorem Unrewarded.next (h : Unrewarded total st pool) (env : Env β γ) (input : Input β γ) :
    (∃ pool', Unrewarded total ((chain env).next st input) pool') ∧
      (¬ MovesCoins input → ((chain env).next st input).app.bank = st.app.bank) := by
  have hchanged := next_changed env st input
  generalize (chain env).next st input = st' at hchanged ⊢
  cases hchanged with
  | refused msg e failed => exact ⟨⟨pool, h⟩, fun _ => rfl⟩
  | app msg app response accepted =>
    cases msg with
    | org msg =>
      obtain ⟨-, -, -, hmemory, -⟩ := Application.handle_org accepted
      exact ⟨⟨pool, h.congr rfl hmemory⟩, fun hnot => absurd trivial hnot⟩
    | memory msg =>
      obtain ⟨memory, hok, rfl⟩ := Application.handle_memory_eq accepted
      exact ⟨⟨pool, h.stored rfl (Memory.handle_stored hok)⟩, fun _ => rfl⟩
    | serve msg =>
      obtain ⟨serve, serveResponse, hok, rfl⟩ := Application.handle_serve_eq accepted
      exact ⟨⟨pool, h.congr rfl rfl⟩, fun _ => rfl⟩
    | bandwidth msg =>
      obtain ⟨bandwidth, rfl⟩ := Application.handle_bandwidth accepted
      exact ⟨⟨pool, h.congr rfl rfl⟩, fun _ => rfl⟩
  | bandwidthParams | reputation | migrated | attestation =>
    exact ⟨⟨pool, h.congr rfl rfl⟩, fun _ => rfl⟩
  | minted msg emissions emission accepted =>
    obtain ⟨s, pool', hmint, -, hnext⟩ := h.mint env.bank msg.epoch
    rcases Emissions.mintDailyEmissionMsg_cases env.bank env.authority msg with ⟨e, he⟩ | hmsg
    · rw [he] at accepted
      cases accepted
    · rw [hmsg] at accepted
      obtain ⟨_, -, hpair⟩ := Except.map_eq_ok accepted
      obtain ⟨rfl, -⟩ := Prod.mk.inj hpair
      rw [hmint]
      exact ⟨⟨pool', hnext⟩, fun _ => rfl⟩
  | claimed msg emissions payment accepted =>
    obtain ⟨e, he⟩ := h.claim env msg
    rw [he] at accepted
    cases accepted
  | emissionsParams msg emissions accepted =>
    obtain rfl := Emissions.updateParams_ok _ accepted
    exact ⟨⟨pool, h.pending, h.lifetime, h.found, h.valid, h.budget, h.current, h.stamped⟩,
      fun _ => rfl⟩
  | epochEnd n =>
    obtain ⟨s, pool', hmint, hn, hnext⟩ := h.mint env.bank n.toUInt64
    have hhook : mintAtEpochEnd env st n = st.withEmissions ⟨s, st.app.bank⟩ := by
      rw [mintAtEpochEnd, Emissions.afterEpochEnd_state, hmint]
    rw [epochEnd, hhook]
    exact ⟨⟨pool', hnext.memoryAtEpochEnd env hn⟩, fun _ => rfl⟩
  | others bank feegrant => exact ⟨⟨pool, h.congr rfl rfl⟩, fun hnot => absurd trivial hnot⟩

end Unrewarded

section Sample

open EpochHooks (sampleContributor sampleHash)
open Orgs (formatOrgID)

end Sample

end WeVibeChain.Node
