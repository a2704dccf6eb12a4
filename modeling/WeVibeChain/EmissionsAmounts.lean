import WeVibeChain.EmissionsKeeper
import WeVibeChain.Shared.Words
import Mathlib.Algebra.BigOperators.Group.List.Basic

/-!
# The amounts of one mint

The pool's four amounts (supply, validator pool, contributor pool, rollover) add
up to less than `2^64`; then one mint moves amounts between them and to the
contributors without any operation leaving the 64-bit range.
-/

set_option autoImplicit false

namespace WeVibeChain.Emissions

open Words

/-- Everything the pool has emitted or can still emit. -/
def EmissionPool.committed (pool : EmissionPool) : Nat :=
  pool.totalSupply.toNat + pool.validatorPoolRemainingUvibe.toNat +
    pool.contributorPoolRemainingUvibe.toNat + pool.contributorRolloverUvibe.toNat

section Bounds
variable (params : Params) (pool : EmissionPool) (counts : OrderedMap Bytes UInt64)

theorem validatorEmission_le :
    (validatorEmission params pool).toNat ≤ pool.validatorPoolRemainingUvibe.toNat := by
  unfold validatorEmission
  split
  · dsimp only
    split
    · exact le_rfl
    · rename_i h
      exact UInt64.le_iff_toNat_le.mp (UInt64.not_lt.mp h)
  · exact Nat.zero_le _

theorem contributorBudget_le :
    (contributorBudget params pool).toNat ≤ pool.contributorPoolRemainingUvibe.toNat := by
  unfold contributorBudget
  split
  · extract_lets share epochCap budget
    by_cases h : budget > pool.contributorPoolRemainingUvibe
    · rw [if_pos h]
    · rw [if_neg h]
      exact UInt64.le_iff_toNat_le.mp (UInt64.not_lt.mp h)
  · exact Nat.zero_le _

theorem toNat_perContributor :
    (perContributor params pool counts).toNat =
      (contributorTotal params pool).toNat / (qualifying params counts).length := by
  have hle : (contributorTotal params pool).toNat / (qualifying params counts).length ≤
      (contributorTotal params pool).toNat := Nat.div_le_self _ _
  exact UInt64.toNat_ofNat_of_lt' (lt_of_le_of_lt hle (contributorTotal params pool).toNat_lt)

theorem toNat_contributorRemainder :
    (contributorRemainder params pool counts).toNat =
      (contributorTotal params pool).toNat % (qualifying params counts).length := by
  have hle : (contributorTotal params pool).toNat % (qualifying params counts).length ≤
      (contributorTotal params pool).toNat := Nat.mod_le _ _
  exact UInt64.toNat_ofNat_of_lt' (lt_of_le_of_lt hle (contributorTotal params pool).toNat_lt)

theorem perContributor_mul_length_le :
    (perContributor params pool counts).toNat * (qualifying params counts).length ≤
      (contributorTotal params pool).toNat := by
  rw [toNat_perContributor]
  exact Nat.div_mul_le_self _ _

theorem toNat_distributedToContributors :
    (distributedToContributors params pool counts).toNat =
      (perContributor params pool counts).toNat * (qualifying params counts).length := by
  unfold distributedToContributors
  split
  · rename_i h
    rw [h, Nat.mul_zero]
    rfl
  · exact UInt64.toNat_ofNat_of_lt' (lt_of_le_of_lt
      (perContributor_mul_length_le params pool counts) (contributorTotal params pool).toNat_lt)

/-- The credits of one mint add up to the sum handed to the bank. -/
theorem sum_contributorCredits :
    ((contributorCredits params pool counts).map fun c => c.2.toNat).sum =
      (distributedToContributors params pool counts).toNat := by
  rw [toNat_distributedToContributors]
  unfold contributorCredits
  split
  · rw [List.map_map]
    have hconst : (fun c : Bytes × UInt64 => c.2.toNat) ∘
        (fun addr => (addr, perContributor params pool counts)) =
        fun _ => (perContributor params pool counts).toNat := rfl
    rw [hconst, List.map_const', List.sum_const_nat, Nat.mul_comm]
  · rename_i h
    have hzero : (perContributor params pool counts).toNat = 0 := by
      have hle := UInt64.le_iff_toNat_le.mp (UInt64.not_lt.mp h)
      exact Nat.le_zero.mp hle
    rw [hzero, Nat.zero_mul]
    rfl

theorem contributorCredits_eq_nil_of_distributed
    (h : distributedToContributors params pool counts = 0) :
    contributorCredits params pool counts = [] := by
  have hzero : (perContributor params pool counts).toNat *
      (qualifying params counts).length = 0 := by
    rw [← toNat_distributedToContributors, h]
    rfl
  unfold contributorCredits
  rcases Nat.mul_eq_zero.mp hzero with hper | hlen
  · rw [if_neg]
    intro hpos
    have hlt := UInt64.lt_iff_toNat_lt.mp hpos
    rw [hper] at hlt
    exact absurd hlt (Nat.not_lt_zero _)
  · rw [List.length_eq_zero_iff.mp hlen]
    split <;> rfl

theorem qualifying_nodup : (qualifying params counts).Nodup :=
  counts.keys_nodup.sublist (List.filter_sublist.map Prod.fst)

/-- Credits go to distinct addresses. -/
theorem contributorCredits_nodup :
    ((contributorCredits params pool counts).map Prod.fst).Nodup := by
  have hkeys := qualifying_nodup params counts
  unfold contributorCredits
  split
  · rw [List.map_map]
    have hfst : (Prod.fst ∘ fun addr : Bytes => (addr, perContributor params pool counts)) = id :=
      rfl
    rwa [hfst, List.map_id]
  · exact List.nodup_nil

end Bounds

section Exact
variable {pool : EmissionPool} (params : Params) (counts : OrderedMap Bytes UInt64)

theorem toNat_contributorTotal (h : pool.committed < 2 ^ 64) :
    (contributorTotal params pool).toNat =
      (contributorBudget params pool).toNat + pool.contributorRolloverUvibe.toNat := by
  have hbudget := contributorBudget_le params pool
  apply toNat_add_of_lt
  unfold EmissionPool.committed at h
  omega

theorem distributed_add_rollover (h : pool.committed < 2 ^ 64) :
    (distributedToContributors params pool counts).toNat +
        (contributorRollover params pool counts).toNat =
      (contributorBudget params pool).toNat + pool.contributorRolloverUvibe.toNat := by
  have htotal := toNat_contributorTotal params h
  rw [toNat_distributedToContributors]
  unfold contributorRollover
  split
  · rename_i hlen
    rw [hlen, Nat.mul_zero, Nat.zero_add, UInt64.add_comm]
    exact htotal
  · rw [toNat_contributorRemainder, toNat_perContributor, ← htotal]
    exact Nat.div_add_mod' _ _

/-- No operation of one mint on the pool's amounts leaves the 64-bit range. -/
structure NoWrap (params : Params) (pool : EmissionPool) (counts : OrderedMap Bytes UInt64) :
    Prop where
  schedule : params.scheduleDurationDays > pool.totalEpochsElapsed →
    pool.totalEpochsElapsed.toNat ≤ params.scheduleDurationDays.toNat
  validatorPool : (validatorEmission params pool).toNat ≤ pool.validatorPoolRemainingUvibe.toNat
  contributorPool :
    (contributorBudget params pool).toNat ≤ pool.contributorPoolRemainingUvibe.toNat
  rollover :
    (contributorBudget params pool).toNat + pool.contributorRolloverUvibe.toNat < 2 ^ 64
  distributed :
    (perContributor params pool counts).toNat * (qualifying params counts).length < 2 ^ 64
  emitted : (validatorEmission params pool).toNat +
    (distributedToContributors params pool counts).toNat < 2 ^ 64
  supply : pool.totalSupply.toNat + (totalEmitted params pool counts).toNat < 2 ^ 64

theorem noWrap_of_committed (h : pool.committed < 2 ^ 64) : NoWrap params pool counts := by
  have hvalidator := validatorEmission_le params pool
  have hbudget := contributorBudget_le params pool
  have hmove := distributed_add_rollover params counts h
  have hdistributed := toNat_distributedToContributors params pool counts
  have hbound := (distributedToContributors params pool counts).toNat_lt
  have hemitted : (validatorEmission params pool).toNat +
      (distributedToContributors params pool counts).toNat < 2 ^ 64 := by
    unfold EmissionPool.committed at h
    omega
  have htotal : (totalEmitted params pool counts).toNat = (validatorEmission params pool).toNat +
      (distributedToContributors params pool counts).toNat := toNat_add_of_lt hemitted
  unfold EmissionPool.committed at h
  refine ⟨?_, hvalidator, hbudget, ?_, ?_, hemitted, ?_⟩
  · intro hlt
    exact le_of_lt (UInt64.lt_iff_toNat_lt.mp hlt)
  · omega
  · omega
  · omega

variable (epoch : UInt64)

variable (pool) in
theorem advancePool_validatorPool :
    (advancePool params pool counts epoch).validatorPoolRemainingUvibe.toNat +
      (validatorEmission params pool).toNat = pool.validatorPoolRemainingUvibe.toNat := by
  have hle := validatorEmission_le params pool
  have hsub := toNat_sub_of_toNat_le hle
  change (pool.validatorPoolRemainingUvibe - validatorEmission params pool).toNat + _ = _
  omega

theorem advancePool_contributorPool (h : pool.committed < 2 ^ 64) :
    (advancePool params pool counts epoch).contributorPoolRemainingUvibe.toNat +
      (advancePool params pool counts epoch).contributorRolloverUvibe.toNat +
      (distributedToContributors params pool counts).toNat =
    pool.contributorPoolRemainingUvibe.toNat + pool.contributorRolloverUvibe.toNat := by
  have hle := contributorBudget_le params pool
  have hsub := toNat_sub_of_toNat_le hle
  have hmove := distributed_add_rollover params counts h
  change (pool.contributorPoolRemainingUvibe - contributorBudget params pool).toNat +
    (contributorRollover params pool counts).toNat + _ = _
  omega

theorem advancePool_totalSupply (h : pool.committed < 2 ^ 64) :
    (advancePool params pool counts epoch).totalSupply.toNat =
      pool.totalSupply.toNat + (totalEmitted params pool counts).toNat :=
  toNat_add_of_lt (noWrap_of_committed params counts h).supply

theorem toNat_totalEmitted (h : pool.committed < 2 ^ 64) :
    (totalEmitted params pool counts).toNat = (validatorEmission params pool).toNat +
      (distributedToContributors params pool counts).toNat :=
  toNat_add_of_lt (noWrap_of_committed params counts h).emitted

/-- A mint moves amounts and creates none. -/
theorem advancePool_committed (h : pool.committed < 2 ^ 64) :
    (advancePool params pool counts epoch).committed = pool.committed := by
  have hvalidator := advancePool_validatorPool pool params counts epoch
  have hcontributor := advancePool_contributorPool params counts epoch h
  have hsupply := advancePool_totalSupply params counts epoch h
  have hemitted := toNat_totalEmitted params counts h
  unfold EmissionPool.committed
  omega

end Exact

end WeVibeChain.Emissions
