import WeVibeChain.EmissionsAmounts
import WeVibeChain.EmissionsRewards

/-!
# When the epoch hook is all or nothing

The hook drops the mint's error, so a mint that fails after its first write stays
half done. The state before the hook decides which of the two it is: a mint that
passes the epoch check goes through as a whole exactly when the pool's shares are
valid and the bank mints what there is to distribute.
-/

set_option autoImplicit false

namespace WeVibeChain.Emissions

open Words

section Statement
variable {β : Type}

/-- The whole mint for `epoch`: all rewards credited, the same total minted, the daily record
and the advanced pool written, and nothing else. -/
structure WholeMint (bk : BankKeeper β) (counts : OrderedMap Bytes UInt64) (st st' : State β)
    (epoch : UInt64) (pool : EmissionPool) : Prop where
  stored : getEmissionPool st.store = .ok pool
  after : pool.epoch < epoch
  store : st'.store =
    { addContributorRewards st.store (contributorCredits (getParams st.store) pool counts) with
      emission := st.store.emission.set (emissionKey epoch)
        (dailyEmissionToStored (emissionOf (getParams st.store) pool counts epoch))
      pool := some (emissionPoolToStored (advancePool (getParams st.store) pool counts epoch)) }
  coins : ∀ total,
    total = ((contributorCredits (getParams st.store) pool counts).map fun c => c.2.toNat).sum →
    if total = 0 then st'.bank = st.bank
    else bk.mintCoins st.bank emissionsModuleName ⟨uvibe, total⟩ = some st'.bank

def Atomic (bk : BankKeeper β) (counts : OrderedMap Bytes UInt64) (st st' : State β)
    (epoch : UInt64) : Prop :=
  st' = st ∨ ∃ pool, WholeMint bk counts st st' epoch pool

/-- No address qualifies, or there is less to share than there are addresses. -/
def NothingToDistribute (params : Params) (pool : EmissionPool)
    (counts : OrderedMap Bytes UInt64) : Prop :=
  (qualifying params counts).length = 0 ∨
    (contributorTotal params pool).toNat < (qualifying params counts).length

instance (params : Params) (pool : EmissionPool) (counts : OrderedMap Bytes UInt64) :
    Decidable (NothingToDistribute params pool counts) :=
  inferInstanceAs (Decidable (_ ∨ _))

/-- The condition on the state before the hook. The last case is an invalid pool whose mint only
rewrites a daily record that is already there. -/
def MintsCleanly (bk : BankKeeper β) (counts : OrderedMap Bytes UInt64) (st : State β)
    (epoch : UInt64) : Prop :=
  ∀ pool, getEmissionPool st.store = .ok pool → pool.epoch < epoch →
    (pool.validate = .ok () ∧
      (NothingToDistribute (getParams st.store) pool counts ∨
        (bk.mintCoins st.bank emissionsModuleName
          (uvibeCoin (distributedToContributors (getParams st.store) pool counts))).isSome)) ∨
    (pool.validate ≠ .ok () ∧ NothingToDistribute (getParams st.store) pool counts ∧
      getDailyEmission st.store epoch = .ok ⟨epoch, validatorEmission (getParams st.store) pool,
        validatorEmission (getParams st.store) pool⟩)

end Statement

section Credits
variable (params : Params) (pool : EmissionPool) (counts : OrderedMap Bytes UInt64)

theorem nothingToDistribute_iff :
    NothingToDistribute params pool counts ↔ distributedToContributors params pool counts = 0 := by
  rw [← UInt64.toNat_inj, toNat_distributedToContributors, toNat_perContributor]
  unfold NothingToDistribute
  constructor
  · intro hcase
    rcases hcase with hlen | hlt
    · rw [hlen, Nat.mul_zero]
      rfl
    · rw [Nat.div_eq_of_lt hlt, Nat.zero_mul]
      rfl
  · intro hzero
    rcases Nat.mul_eq_zero.mp hzero with hdiv | hlen
    · rcases Nat.div_eq_zero_iff.mp hdiv with hlen | hlt
      · exact Or.inl hlen
      · exact Or.inr hlt
    · exact Or.inl hlen

theorem distributed_eq_zero_iff :
    distributedToContributors params pool counts = 0 ↔
      ((contributorCredits params pool counts).map fun c => c.2.toNat).sum = 0 := by
  rw [← UInt64.toNat_inj, sum_contributorCredits]
  rfl

/-- A mint that has something to distribute changes the reward of some address. -/
theorem addContributorRewards_ne (s : Store)
    (h : distributedToContributors params pool counts ≠ 0) :
    ∃ addr, getContributorReward
        (addContributorRewards s (contributorCredits params pool counts)) addr ≠
      getContributorReward s addr := by
  have hcredits : contributorCredits params pool counts ≠ [] := by
    intro hnil
    exact h ((distributed_eq_zero_iff params pool counts).mpr (by rw [hnil]; rfl))
  obtain ⟨c, hc⟩ := List.exists_mem_of_ne_nil _ hcredits
  refine ⟨c.1, ?_⟩
  rw [addContributorRewards_counter s _ getContributorReward_add,
    creditedTo_of_mem (contributorCredits_nodup params pool counts) hc, UInt64.ofNat_toNat]
  apply add_ne_self
  unfold contributorCredits at hc
  split at hc
  · rename_i hpos
    obtain ⟨addr, _, rfl⟩ := List.mem_map.mp hc
    intro hzero
    rw [show perContributor params pool counts = 0 from hzero] at hpos
    exact absurd hpos (UInt64.lt_irrefl _)
  · cases hc

end Credits

section Ends
variable {β : Type} {bk : BankKeeper β} {counts : OrderedMap Bytes UInt64} {st : State β}
variable {pool : EmissionPool} {epoch : UInt64}

theorem mintDistributed_zero (bk : BankKeeper β) (bank : β) : mintDistributed bk bank 0 = some bank :=
  rfl

theorem mintDistributed_of_ne_zero {distributed : UInt64} (h : distributed ≠ 0) (bank : β) :
    mintDistributed bk bank distributed =
      bk.mintCoins bank emissionsModuleName (uvibeCoin distributed) := by
  unfold mintDistributed
  rw [if_pos]
  exact UInt64.pos_iff_ne_zero.mpr h

/-- Only a store that has no rewards to credit is left as it is by the reward loop. -/
theorem distributed_eq_zero_of_creditedStore
    (h : (creditedStore st.store pool counts).contribReward = st.store.contribReward) :
    distributedToContributors (getParams st.store) pool counts = 0 := by
  by_contra hne
  obtain ⟨addr, haddr⟩ := addContributorRewards_ne (getParams st.store) pool counts st.store hne
  apply haddr
  unfold getContributorReward
  rw [← h]
  rfl

theorem creditedStore_of_distributed
    (h : distributedToContributors (getParams st.store) pool counts = 0) :
    creditedStore st.store pool counts = st.store := by
  unfold creditedStore
  rw [contributorCredits_eq_nil_of_distributed _ _ _ h]
  rfl

theorem emissionOf_of_distributed (params : Params)
    (h : distributedToContributors params pool counts = 0) :
    emissionOf params pool counts epoch =
      ⟨epoch, validatorEmission params pool, validatorEmission params pool⟩ := by
  unfold emissionOf totalEmitted
  rw [h, UInt64.add_zero]

/-- The mint that went through is the whole mint. -/
theorem wholeMint_minted {bank : β} (hpool : getEmissionPool st.store = .ok pool)
    (hepoch : pool.epoch < epoch)
    (hbank : mintDistributed bk st.bank
      (distributedToContributors (getParams st.store) pool counts) = some bank) :
    WholeMint bk counts st ⟨mintedStore st.store pool counts epoch, bank⟩ epoch pool := by
  refine ⟨hpool, hepoch, ?_, ?_⟩
  · simp [mintedStore, recordedStore, creditedStore]
  · intro total heq
    subst heq
    have hsum := distributed_eq_zero_iff (getParams st.store) pool counts
    by_cases hzero : distributedToContributors (getParams st.store) pool counts = 0
    · rw [if_pos (hsum.mp hzero)]
      rw [hzero, mintDistributed_zero] at hbank
      exact (Option.some.inj hbank).symm
    · rw [if_neg (mt hsum.mpr hzero), sum_contributorCredits]
      rw [mintDistributed_of_ne_zero hzero] at hbank
      exact hbank

theorem not_atomic_bankFailed (hpool : getEmissionPool st.store = .ok pool)
    (hbank : mintDistributed bk st.bank
      (distributedToContributors (getParams st.store) pool counts) = none) :
    ¬ Atomic bk counts st { st with store := creditedStore st.store pool counts } epoch := by
  have hne : distributedToContributors (getParams st.store) pool counts ≠ 0 := by
    intro hzero
    rw [hzero, mintDistributed_zero] at hbank
    cases hbank
  intro hcase
  rcases hcase with hsame | ⟨pool', hwhole⟩
  · have hstore : creditedStore st.store pool counts = st.store := congrArg State.store hsame
    exact hne (distributed_eq_zero_of_creditedStore (congrArg Store.contribReward hstore))
  · have hpool' := hwhole.stored
    rw [hpool] at hpool'
    obtain rfl := Except.ok.inj hpool'
    have hcoins := hwhole.coins _ rfl
    have hsum := distributed_eq_zero_iff (getParams st.store) pool counts
    rw [if_neg (mt hsum.mpr hne), sum_contributorCredits] at hcoins
    rw [mintDistributed_of_ne_zero hne] at hbank
    rw [uvibeCoin, hcoins] at hbank
    cases hbank

/-- A mint that stops before the pool is written is not the whole of what was due. -/
theorem not_wholeMint_recordedStore {bank : β} (hpool : getEmissionPool st.store = .ok pool)
    (hepoch : pool.epoch < epoch) (pool' : EmissionPool) :
    ¬ WholeMint bk counts st ⟨recordedStore st.store pool counts epoch, bank⟩ epoch pool' := by
  intro hwhole
  have hpool' := hwhole.stored
  rw [hpool] at hpool'
  obtain rfl := Except.ok.inj hpool'
  have hunchanged : getEmissionPool (recordedStore st.store pool counts epoch) = .ok pool := by
    rw [← hpool]
    simp [getEmissionPool, recordedStore, creditedStore]
  rw [show recordedStore st.store pool counts epoch = _ from hwhole.store] at hunchanged
  have hepoch' : epoch = pool.epoch :=
    congrArg EmissionPool.epoch (Except.ok.inj hunchanged)
  rw [hepoch'] at hepoch
  exact UInt64.lt_irrefl _ hepoch

/-- A refused pool leaves a half-done mint, unless its only write repeats a record. -/
theorem atomic_poolRefused_iff {bank : β} (hpool : getEmissionPool st.store = .ok pool)
    (hepoch : pool.epoch < epoch)
    (hbank : mintDistributed bk st.bank
      (distributedToContributors (getParams st.store) pool counts) = some bank) :
    Atomic bk counts st ⟨recordedStore st.store pool counts epoch, bank⟩ epoch ↔
      NothingToDistribute (getParams st.store) pool counts ∧
        getDailyEmission st.store epoch = .ok ⟨epoch, validatorEmission (getParams st.store) pool,
          validatorEmission (getParams st.store) pool⟩ := by
  rw [nothingToDistribute_iff]
  constructor
  · intro hcase
    rcases hcase with hsame | ⟨pool', hwhole⟩
    · have hstore : recordedStore st.store pool counts epoch = st.store :=
        congrArg State.store hsame
      have hrewards : (recordedStore st.store pool counts epoch).contribReward =
          st.store.contribReward := congrArg Store.contribReward hstore
      have hzero := distributed_eq_zero_of_creditedStore hrewards
      refine ⟨hzero, ?_⟩
      have hrecord : (recordedStore st.store pool counts epoch).emission.get (emissionKey epoch) =
          some (dailyEmissionToStored (emissionOf (getParams st.store) pool counts epoch)) :=
        OrderedMap.get_set_self _ _ _
      rw [hstore] at hrecord
      unfold getDailyEmission
      rw [hrecord, emissionOf_of_distributed _ hzero]
      rfl
    · exact absurd hwhole (not_wholeMint_recordedStore hpool hepoch pool')
  · intro hall
    obtain ⟨hzero, hrecord⟩ := hall
    left
    rw [hzero, mintDistributed_zero] at hbank
    obtain rfl := Option.some.inj hbank
    have hget : st.store.emission.get (emissionKey epoch) =
        some (dailyEmissionToStored (emissionOf (getParams st.store) pool counts epoch)) := by
      rw [emissionOf_of_distributed _ hzero]
      unfold getDailyEmission at hrecord
      split at hrecord
      · cases hrecord
      · rename_i stored hstored
        rw [hstored, ← Except.ok.inj hrecord]
        rfl
    have hstore : recordedStore st.store pool counts epoch = st.store := by
      unfold recordedStore
      rw [creditedStore_of_distributed hzero, OrderedMap.set_eq_self hget]
    rw [hstore]

end Ends

section Hook
variable {β : Type} (bk : BankKeeper β) (approvals : UInt64 → Option (OrderedMap Bytes UInt64))

/-- The bank is not asked when there is nothing to distribute. -/
theorem mintDistributed_isSome_iff (params : Params) (pool : EmissionPool)
    (counts : OrderedMap Bytes UInt64) (bank : β) :
    (mintDistributed bk bank (distributedToContributors params pool counts)).isSome ↔
      NothingToDistribute params pool counts ∨
        (bk.mintCoins bank emissionsModuleName
          (uvibeCoin (distributedToContributors params pool counts))).isSome := by
  rw [nothingToDistribute_iff]
  by_cases hzero : distributedToContributors params pool counts = 0
  · rw [hzero, mintDistributed_zero]
    exact ⟨fun _ => Or.inl rfl, fun _ => rfl⟩
  · rw [mintDistributed_of_ne_zero hzero]
    constructor
    · intro hmint
      exact Or.inr hmint
    · intro hcase
      rcases hcase with hnothing | hmint
      · exact absurd hnothing hzero
      · exact hmint

theorem mintDailyEmission_atomic_iff (st : State β) (epoch : UInt64) :
    Atomic bk ((approvals epoch).getD ∅) st (mintDailyEmission bk approvals st epoch).1 epoch ↔
      MintsCleanly bk ((approvals epoch).getD ∅) st epoch := by
  have hend := mintDailyEmission_end bk approvals st epoch
  generalize (approvals epoch).getD ∅ = counts at hend ⊢
  generalize mintDailyEmission bk approvals st epoch = result at hend ⊢
  unfold MintsCleanly
  cases hend with
  | noPool hpool =>
    refine ⟨fun _ pool hpool' => ?_, fun _ => Or.inl rfl⟩
    rw [hpool] at hpool'
    cases hpool'
  | notAfter pool hpool hepoch =>
    refine ⟨fun _ pool' hpool' hafter => ?_, fun _ => Or.inl rfl⟩
    rw [hpool] at hpool'
    obtain rfl := Except.ok.inj hpool'
    exact absurd hafter (UInt64.not_lt.mpr hepoch)
  | bankFailed pool hpool hepoch hbank =>
    refine ⟨fun h => absurd h (not_atomic_bankFailed hpool hbank), fun h => ?_⟩
    exfalso
    have hsome : (mintDistributed bk st.bank
        (distributedToContributors (getParams st.store) pool counts)).isSome := by
      rw [mintDistributed_isSome_iff]
      rcases h pool hpool hepoch with ⟨_, hpaid⟩ | ⟨_, hnothing, _⟩
      · exact hpaid
      · exact Or.inl hnothing
    rw [hbank] at hsome
    cases hsome
  | poolRefused pool bank hpool hepoch hbank hvalid =>
    rw [atomic_poolRefused_iff hpool hepoch hbank]
    constructor
    · intro h pool' hpool' _
      rw [hpool] at hpool'
      obtain rfl := Except.ok.inj hpool'
      refine Or.inr ⟨?_, h⟩
      rw [hvalid]
      exact nofun
    · intro h
      rcases h pool hpool hepoch with ⟨hok, _⟩ | ⟨_, hrest⟩
      · rw [hvalid] at hok
        cases hok
      · exact hrest
  | minted pool bank hpool hepoch hbank hvalid =>
    refine ⟨fun _ pool' hpool' _ => ?_,
      fun _ => Or.inr ⟨pool, wholeMint_minted hpool hepoch hbank⟩⟩
    rw [hpool] at hpool'
    obtain rfl := Except.ok.inj hpool'
    refine Or.inl ⟨hvalid, ?_⟩
    rw [← mintDistributed_isSome_iff, hbank]
    rfl

theorem afterEpochEnd_state (st : State β) (epochNumber : Int64) :
    (afterEpochEnd bk approvals st weVibeEpochIdentifier epochNumber).1 =
      (mintDailyEmission bk approvals st epochNumber.toUInt64).1 := by
  unfold afterEpochEnd
  rw [if_neg (not_not.mpr rfl)]
  split <;> simp_all

theorem afterEpochEnd_answer (st : State β) (identifier : Bytes) (epochNumber : Int64) :
    (afterEpochEnd bk approvals st identifier epochNumber).2 = .ok () := by
  unfold afterEpochEnd
  split
  · rfl
  · split <;> rfl

/-- The hook always answers `ok`, and it is all or nothing exactly in the states in which the
mint passes or fails cleanly. -/
theorem afterEpochEnd_atomic_iff (st : State β) (epochNumber : Int64) :
    (afterEpochEnd bk approvals st weVibeEpochIdentifier epochNumber).2 = .ok () ∧
      (Atomic bk ((approvals epochNumber.toUInt64).getD ∅) st
          (afterEpochEnd bk approvals st weVibeEpochIdentifier epochNumber).1
          epochNumber.toUInt64 ↔
        MintsCleanly bk ((approvals epochNumber.toUInt64).getD ∅) st epochNumber.toUInt64) := by
  refine ⟨afterEpochEnd_answer bk approvals st _ epochNumber, ?_⟩
  rw [afterEpochEnd_state]
  exact mintDailyEmission_atomic_iff bk approvals st epochNumber.toUInt64

/-- A genesis that `InitGenesis` stores although its shares add up to 110. -/
def unbalancedGenesis : GenesisState :=
  { emissionPool := some { defaultEmissionPool with validatorShare := 30 } }

def unbalancedState : State Ledger := ⟨initGenesis {} unbalancedGenesis, {}⟩

def oneApproval : OrderedMap Bytes UInt64 := (∅ : OrderedMap Bytes UInt64).set [97] 1

/-- At the end of epoch 1 the reward is credited and the coins are minted, but the pool still
holds what was paid out. -/
theorem afterEpochEnd_not_atomic_unbalanced :
    ¬ Atomic Ledger.keeper oneApproval unbalancedState
      (afterEpochEnd Ledger.keeper (fun _ => some oneApproval) unbalancedState
        weVibeEpochIdentifier 1).1 1 := by
  rw [afterEpochEnd_state]
  intro h
  have hclean := (mintDailyEmission_atomic_iff Ledger.keeper (fun _ => some oneApproval)
    unbalancedState 1).mp h _ rfl (by decide)
  revert hclean
  decide

end Hook

end WeVibeChain.Emissions
