import WeVibeChain.EmissionsCap
import WeVibeChain.Shared.Sorting

/-!
# How one mint splits the contributor budget

The approval counts reach the mint as a Go map, whose entries a loop meets in any
order. `mintEnumerated` is the mint with its two loops over such an enumeration
written out. The sort between the loops makes it the mint on the map, so every
enumeration gives the same store, the same coins and the same record. Each address
that qualifies gets the same amount and the remainder is carried forward.
-/

set_option autoImplicit false

namespace WeVibeChain.Emissions

section Loops

/-- The loop over the map collects the addresses as it meets them. -/
def collectQualifying (params : Params) (entries : List (Bytes × UInt64)) : List Bytes :=
  entries.foldl (fun qualifying e =>
    if e.1 ≠ [] ∧ e.2 ≥ params.contributorQualifyThreshold then qualifying ++ [e.1]
    else qualifying) []

def sortedQualifying (params : Params) (entries : List (Bytes × UInt64)) : List Bytes :=
  (collectQualifying params entries).mergeSort fun a b => a ≤ b

structure Split where
  store : Store
  distributedToContributors : UInt64
  rollover : UInt64

/-- The two branches on the collected addresses, with the loop over them. -/
def splitBudget (s : Store) (contributorBudget rollover : UInt64) (qualifying : List Bytes) : Split :=
  if qualifying.length = 0 then ⟨s, 0, rollover + contributorBudget⟩
  else
    let total := contributorBudget + rollover
    let perContributor := UInt64.ofNat (total.toNat / qualifying.length)
    let remainder := UInt64.ofNat (total.toNat % qualifying.length)
    ⟨qualifying.foldl (fun s addr =>
        if perContributor > 0 then addContributorReward s addr perContributor else s) s,
      UInt64.ofNat (perContributor.toNat * qualifying.length), remainder⟩

/-- The mint over an enumeration of the approval counts; a failed query has none. -/
def mintEnumerated {β : Type} (bk : BankKeeper β) (counts : Option (List (Bytes × UInt64)))
    (st : State β) (epoch : UInt64) : State β × Except Error DailyEmission :=
  match getEmissionPool st.store with
  | .error _ => (st, .error .noEmissionPool)
  | .ok pool =>
    if epoch ≤ pool.epoch then (st, .error .epochNotAfterLastEmission)
    else
      let params := getParams st.store
      let split := splitBudget st.store (contributorBudget params pool)
        pool.contributorRolloverUvibe (sortedQualifying params (counts.getD []))
      match mintDistributed bk st.bank split.distributedToContributors with
      | none => ({ st with store := split.store }, .error .bankFailure)
      | some bank =>
        let totalEmitted := validatorEmission params pool + split.distributedToContributors
        let emission : DailyEmission := ⟨epoch, totalEmitted, validatorEmission params pool⟩
        let recorded := { split.store with
          emission := split.store.emission.set (emissionKey epoch) (dailyEmissionToStored emission) }
        let advanced := { pool with
          totalSupply := pool.totalSupply + totalEmitted
          epoch := epoch
          validatorPoolRemainingUvibe :=
            pool.validatorPoolRemainingUvibe - validatorEmission params pool
          contributorPoolRemainingUvibe :=
            pool.contributorPoolRemainingUvibe - contributorBudget params pool
          contributorRolloverUvibe := split.rollover
          startEpoch :=
            if pool.startEpoch = 0 ∧ pool.totalEpochsElapsed = 0 then epoch else pool.startEpoch
          totalEpochsElapsed := pool.totalEpochsElapsed + 1 }
        match setEmissionPool recorded advanced with
        | .error e => (⟨recorded, bank⟩, .error e)
        | .ok written => (⟨written, bank⟩, .ok emission)

end Loops

section Order
variable {params : Params} {counts : OrderedMap Bytes UInt64} {entries : List (Bytes × UInt64)}

theorem collectQualifying_eq (params : Params) (entries : List (Bytes × UInt64)) :
    collectQualifying params entries =
      (entries.filter fun e =>
        e.1 ≠ [] ∧ e.2 ≥ params.contributorQualifyThreshold).map Prod.fst := by
  unfold collectQualifying
  induction entries using List.reverseRecOn with
  | nil => rfl
  | append_singleton entries e ih =>
    rw [List.foldl_append, ih, List.filter_append, List.map_append, List.foldl_cons, List.foldl_nil]
    by_cases h : e.1 ≠ [] ∧ e.2 ≥ params.contributorQualifyThreshold
    · rw [if_pos h, List.filter_singleton, decide_eq_true h]
      rfl
    · rw [if_neg h, List.filter_singleton, decide_eq_false h]
      exact (List.append_nil _).symm

/-- Whatever the order of the enumeration, the sorted addresses are the map's. -/
theorem sortedQualifying_eq (h : entries.Perm counts.entries) :
    sortedQualifying params entries = qualifying params counts := by
  rw [sortedQualifying, collectQualifying_eq]
  apply Sorting.mergeSort_eq_of_perm ((h.filter _).map _)
  rw [List.pairwise_map]
  exact (counts.sorted.filter _).imp le_of_lt

theorem foldl_addContributorReward (s : Store) (amount : UInt64) (addrs : List Bytes) :
    addrs.foldl (fun s addr => if amount > 0 then addContributorReward s addr amount else s) s =
      addContributorRewards s (if amount > 0 then addrs.map fun addr => (addr, amount) else []) := by
  split
  · rw [addContributorRewards, List.foldl_map]
  · exact List.foldl_fixed' (fun _ => rfl) addrs

theorem splitBudget_eq (s : Store) (pool : EmissionPool) :
    splitBudget s (contributorBudget params pool) pool.contributorRolloverUvibe
        (qualifying params counts) =
      ⟨addContributorRewards s (contributorCredits params pool counts),
        distributedToContributors params pool counts, contributorRollover params pool counts⟩ := by
  unfold splitBudget distributedToContributors contributorRollover
  by_cases h : (qualifying params counts).length = 0
  · have hnone : contributorCredits params pool counts = [] := by
      rw [contributorCredits, List.length_eq_zero_iff.mp h]
      split <;> rfl
    rw [if_pos h, if_pos h, if_pos h, hnone]
    rfl
  · rw [if_neg h, if_neg h, if_neg h]
    dsimp only
    rw [foldl_addContributorReward]
    rfl

theorem mintEnumerated_eq {β : Type} (bk : BankKeeper β) (h : entries.Perm counts.entries)
    (st : State β) (epoch : UInt64) :
    mintEnumerated bk (some entries) st epoch =
      mintDailyEmission bk (fun _ => some counts) st epoch := by
  unfold mintEnumerated mintDailyEmission
  cases hpool : getEmissionPool st.store with
  | error e => rfl
  | ok pool =>
    dsimp only [Option.getD_some]
    rw [sortedQualifying_eq h, splitBudget_eq]
    rfl

end Order

section Shares
variable {params : Params} {pool : EmissionPool} {counts : OrderedMap Bytes UInt64} {addr : Bytes}

theorem creditedTo_credits_of_mem (h : addr ∈ qualifying params counts) :
    creditedTo addr (contributorCredits params pool counts) =
      (perContributor params pool counts).toNat := by
  by_cases hpos : perContributor params pool counts > 0
  · have hcredit : (addr, perContributor params pool counts) ∈
        contributorCredits params pool counts := by
      rw [contributorCredits, if_pos hpos]
      exact List.mem_map_of_mem h
    exact creditedTo_of_mem (contributorCredits_nodup params pool counts) hcredit
  · rw [contributorCredits, if_neg hpos]
    rw [gt_iff_lt, UInt64.lt_iff_toNat_lt] at hpos
    exact (Nat.eq_zero_of_not_pos hpos).symm

theorem creditedTo_credits_of_notMem (h : addr ∉ qualifying params counts) :
    creditedTo addr (contributorCredits params pool counts) = 0 := by
  apply creditedTo_of_notMem
  unfold contributorCredits
  split
  · simpa using h
  · exact List.not_mem_nil

/-- The rewards and the rollover after `total` has been split between the addresses. -/
structure SplitsEvenly (addrs : List Bytes) (total : Nat) (s s' : Store) (rollover : UInt64) :
    Prop where
  credited : ∀ addr ∈ addrs,
    (getContributorReward s' addr).toNat =
        (getContributorReward s addr).toNat + total / addrs.length ∧
      (getLifetimeContributorReward s' addr).toNat =
        (getLifetimeContributorReward s addr).toNat + total / addrs.length
  others : ∀ addr, addr ∉ addrs → getContributorReward s' addr = getContributorReward s addr ∧
    getLifetimeContributorReward s' addr = getLifetimeContributorReward s addr
  remainder : rollover.toNat = if addrs.length = 0 then total else total % addrs.length

/-- No reward of the addresses leaves the 64-bit range when each gets `share`. -/
def RewardsFit (addrs : List Bytes) (share : Nat) (s : Store) : Prop :=
  ∀ addr ∈ addrs, (getContributorReward s addr).toNat + share < 2 ^ 64 ∧
    (getLifetimeContributorReward s addr).toNat + share < 2 ^ 64

theorem mintedStore_splitsEvenly (s : Store) (epoch : UInt64) {total : Nat}
    (htotal : (contributorTotal (getParams s) pool).toNat = total)
    (hrewards : RewardsFit (qualifying (getParams s) counts)
      (total / (qualifying (getParams s) counts).length) s) :
    SplitsEvenly (qualifying (getParams s) counts) total s (mintedStore s pool counts epoch)
      (contributorRollover (getParams s) pool counts) := by
  have hper : (perContributor (getParams s) pool counts).toNat =
      total / (qualifying (getParams s) counts).length := by
    rw [toNat_perContributor, htotal]
  refine ⟨?_, ?_, ?_⟩
  · intro addr haddr
    obtain ⟨hpending, hlifetime⟩ := hrewards addr haddr
    rw [getContributorReward_minted, getLifetimeContributorReward_minted, creditedTo_credits_of_mem haddr,
      hper]
    exact ⟨Words.toNat_add_ofNat_of_lt hpending, Words.toNat_add_ofNat_of_lt hlifetime⟩
  · intro addr haddr
    rw [getContributorReward_minted, getLifetimeContributorReward_minted,
      creditedTo_credits_of_notMem haddr]
    exact ⟨UInt64.add_zero _, UInt64.add_zero _⟩
  · unfold contributorRollover
    split
    · rw [UInt64.add_comm]
      exact htotal
    · rw [toNat_contributorRemainder, htotal]

end Shares

section Mint
variable {β : Type} {bk : BankKeeper β} {st st' : State β} {pool : EmissionPool} {epoch : UInt64}
  {counts : OrderedMap Bytes UInt64} {entries : List (Bytes × UInt64)} {emission : DailyEmission}

/-- A successful mint splits its budget and the rollover between the addresses that qualify, and
does exactly the same for every enumeration of the map. -/
theorem mint_splits_evenly (hentries : entries.Perm counts.entries)
    (hpool : getEmissionPool st.store = .ok pool)
    (hmint : mintEnumerated bk (some entries) st epoch = (st', .ok emission))
    (hbudget : (contributorBudget (getParams st.store) pool).toNat +
      pool.contributorRolloverUvibe.toNat < 2 ^ 64)
    (hrewards : RewardsFit (qualifying (getParams st.store) counts)
      (((contributorBudget (getParams st.store) pool).toNat +
        pool.contributorRolloverUvibe.toNat) / (qualifying (getParams st.store) counts).length)
      st.store) :
    (∃ pool', getEmissionPool st'.store = .ok pool' ∧
      pool'.contributorPoolRemainingUvibe.toNat +
        (contributorBudget (getParams st.store) pool).toNat =
          pool.contributorPoolRemainingUvibe.toNat ∧
      SplitsEvenly (qualifying (getParams st.store) counts)
        ((contributorBudget (getParams st.store) pool).toNat +
          pool.contributorRolloverUvibe.toNat) st.store st'.store pool'.contributorRolloverUvibe) ∧
    ∀ entries', entries'.Perm counts.entries →
      mintEnumerated bk (some entries') st epoch = (st', .ok emission) := by
  rw [mintEnumerated_eq bk hentries] at hmint
  refine ⟨?_, fun entries' hentries' => (mintEnumerated_eq bk hentries' st epoch).trans hmint⟩
  have hend := mintDailyEmission_end bk (fun _ => some counts) st epoch
  rw [hmint] at hend
  cases hend with
  | minted pool' bank' hpool' hepoch _ _ =>
    rw [hpool] at hpool'
    obtain rfl := Except.ok.inj hpool'
    refine ⟨advancePool (getParams st.store) pool counts epoch, getEmissionPool_minted _ _ _ _,
      advancePool_contributorBudget _ _ _ _, ?_⟩
    exact mintedStore_splitsEvenly st.store epoch (Words.toNat_add_of_lt hbudget) hrewards

/-- Ten units for contributors on the last day of the schedule, and one rolled over. -/
def lastDay : State Ledger where
  store := setParams (initGenesis {} { emissionPool := some { defaultEmissionPool with
      contributorPoolRemainingUvibe := 10, contributorRolloverUvibe := 1 } })
    { defaultParams with scheduleDurationDays := 1, contributorQualifyThreshold := 2 }
  bank := {}

/-- Two addresses reach the threshold. -/
def approvalCounts : OrderedMap Bytes UInt64 :=
  (((OrderedMap.empty.set [98] 2).set [97] 5).set [] 7).set [99] 1

theorem mint_splits_evenly_lastDay :
    ∃ st' emission pool',
      mintEnumerated Ledger.keeper (some [([99], 1), ([97], 5), ([], 7), ([98], 2)]) lastDay 1 =
        (st', .ok emission) ∧
      getEmissionPool st'.store = .ok pool' ∧
      SplitsEvenly [[97], [98]] 11 lastDay.store st'.store pool'.contributorRolloverUvibe := by
  have hentries : [([99], 1), ([97], 5), ([], 7), ([98], 2)].Perm approvalCounts.entries := by decide
  have hmint := mintEnumerated_eq Ledger.keeper hentries lastDay 1
  obtain ⟨pool', hpool', _, hsplit⟩ := (mint_splits_evenly hentries rfl (hmint.trans rfl) (by decide)
    (by unfold RewardsFit; decide)).1
  exact ⟨_, _, pool', hmint.trans rfl, hpool', hsplit⟩

end Mint

end WeVibeChain.Emissions
