import WeVibeChain.EmissionsKeeper
import WeVibeChain.Shared.Words

/-!
# Pending and lifetime rewards

What the reward loop of one mint does to the two reward families, address by
address, and that it touches nothing else of the store.
-/

set_option autoImplicit false

namespace WeVibeChain.Emissions

open Words

/-- The amount a list of credits gives to one address. -/
def creditedTo (addr : Bytes) (credits : List (Bytes × UInt64)) : Nat :=
  ((credits.filter fun c => c.1 = addr).map fun c => c.2.toNat).sum

/-- What a successful mint did: its daily record and its calls of `AddContributorReward`. -/
structure Minted where
  emission : DailyEmission
  credits : List (Bytes × UInt64)
  deriving DecidableEq

def Minted.distributed (m : Minted) : Nat := (m.credits.map fun c => c.2.toNat).sum

/-- The credits that a mint makes in this store. -/
def creditsIn (s : Store) (counts : OrderedMap Bytes UInt64) : List (Bytes × UInt64) :=
  match getEmissionPool s with
  | .error _ => []
  | .ok pool => contributorCredits (getParams s) pool counts

theorem creditedTo_cons (addr : Bytes) (c : Bytes × UInt64) (credits : List (Bytes × UInt64)) :
    creditedTo addr (c :: credits) =
      (if c.1 = addr then c.2.toNat else 0) + creditedTo addr credits := by
  unfold creditedTo
  by_cases h : c.1 = addr
  · simp [h]
  · simp [h]

/-- No address is credited more than there are credits. -/
theorem creditedTo_le_sum (addr : Bytes) (credits : List (Bytes × UInt64)) :
    creditedTo addr credits ≤ (credits.map fun c => c.2.toNat).sum := by
  induction credits with
  | nil => exact le_rfl
  | cons c credits ih =>
    rw [creditedTo_cons, List.map_cons, List.sum_cons]
    split <;> omega

theorem creditedTo_append (addr : Bytes) (a b : List (Bytes × UInt64)) :
    creditedTo addr (a ++ b) = creditedTo addr a + creditedTo addr b := by
  simp [creditedTo]

theorem creditedTo_of_notMem {addr : Bytes} {credits : List (Bytes × UInt64)}
    (h : addr ∉ credits.map Prod.fst) : creditedTo addr credits = 0 := by
  have hempty : credits.filter (fun c => c.1 = addr) = [] := by
    rw [List.filter_eq_nil_iff]
    intro c hc heq
    exact h (List.mem_map.mpr ⟨c, hc, by simpa using heq⟩)
  rw [creditedTo, hempty]
  rfl

theorem creditedTo_of_mem {credits : List (Bytes × UInt64)} (hnodup : (credits.map Prod.fst).Nodup)
    {c : Bytes × UInt64} (hc : c ∈ credits) : creditedTo c.1 credits = c.2.toNat := by
  induction credits with
  | nil => cases hc
  | cons d credits ih =>
    obtain ⟨hd, hrest⟩ := List.nodup_cons.mp hnodup
    rw [creditedTo_cons]
    rcases List.mem_cons.mp hc with rfl | hmem
    · rw [if_pos rfl, creditedTo_of_notMem hd, Nat.add_zero]
    · rw [if_neg, Nat.zero_add, ih hrest hmem]
      intro heq
      exact hd (heq ▸ List.mem_map_of_mem hmem)

section One
variable (s : Store) (addr : Bytes) (amount : UInt64)

@[simp] theorem addContributorReward_pool :
    (addContributorReward s addr amount).pool = s.pool := rfl

@[simp] theorem addContributorReward_emission :
    (addContributorReward s addr amount).emission = s.emission := rfl

@[simp] theorem addContributorReward_params :
    (addContributorReward s addr amount).params = s.params := rfl

theorem getContributorReward_add (addr' : Bytes) :
    getContributorReward (addContributorReward s addr amount) addr' =
      if addr' = addr then getContributorReward s addr + amount
      else getContributorReward s addr' := by
  unfold getContributorReward addContributorReward
  rw [OrderedMap.get_set]
  simp only [contribRewardKey_inj]
  split <;> rfl

theorem getLifetimeContributorReward_add (addr' : Bytes) :
    getLifetimeContributorReward (addContributorReward s addr amount) addr' =
      if addr' = addr then getLifetimeContributorReward s addr + amount
      else getLifetimeContributorReward s addr' := by
  unfold getLifetimeContributorReward addContributorReward
  rw [OrderedMap.get_set]
  simp only [lifetimeRewardKey_inj]
  split <;> rfl

theorem getContributorReward_set (addr' : Bytes) :
    getContributorReward (setContributorReward s addr amount) addr' =
      if addr' = addr then amount else getContributorReward s addr' := by
  unfold getContributorReward setContributorReward
  rw [OrderedMap.get_set]
  simp only [contribRewardKey_inj]
  split <;> rfl

end One

section Loop
variable (s : Store) (credits : List (Bytes × UInt64))

@[simp] theorem addContributorRewards_nil : addContributorRewards s [] = s := rfl

@[simp] theorem addContributorRewards_cons (c : Bytes × UInt64) :
    addContributorRewards s (c :: credits) =
      addContributorRewards (addContributorReward s c.1 c.2) credits := rfl

/-- What one credit leaves alone, the loop leaves alone. -/
theorem addContributorRewards_frame {γ : Type} {f : Store → γ}
    (hf : ∀ s addr amount, f (addContributorReward s addr amount) = f s) :
    f (addContributorRewards s credits) = f s := by
  induction credits generalizing s with
  | nil => rfl
  | cons c credits ih => rw [addContributorRewards_cons, ih, hf]

/-- A counter that one credit advances for its address is advanced by the loop, modulo `2^64`,
by all the address is credited. -/
theorem addContributorRewards_counter {get : Store → Bytes → UInt64}
    (hget : ∀ s addr amount addr', get (addContributorReward s addr amount) addr' =
      if addr' = addr then get s addr + amount else get s addr') (addr : Bytes) :
    get (addContributorRewards s credits) addr =
      get s addr + UInt64.ofNat (creditedTo addr credits) := by
  induction credits generalizing s with
  | nil => exact (UInt64.add_zero _).symm
  | cons c credits ih =>
    rw [addContributorRewards_cons, ih, hget, creditedTo_cons]
    by_cases h : c.1 = addr
    · rw [if_pos h.symm, if_pos h, h, UInt64.ofNat_add, UInt64.ofNat_toNat, UInt64.add_assoc]
    · rw [if_neg (Ne.symm h), if_neg h, Nat.zero_add]

@[simp] theorem addContributorRewards_pool : (addContributorRewards s credits).pool = s.pool :=
  addContributorRewards_frame s credits addContributorReward_pool

@[simp] theorem addContributorRewards_emission :
    (addContributorRewards s credits).emission = s.emission :=
  addContributorRewards_frame s credits addContributorReward_emission

@[simp] theorem addContributorRewards_params :
    (addContributorRewards s credits).params = s.params :=
  addContributorRewards_frame s credits addContributorReward_params

end Loop

section Minted
variable (s : Store) (pool : EmissionPool) (counts : OrderedMap Bytes UInt64) (epoch : UInt64)

theorem getEmissionPool_minted :
    getEmissionPool (mintedStore s pool counts epoch) =
      .ok (advancePool (getParams s) pool counts epoch) := rfl

@[simp] theorem getParams_minted : getParams (mintedStore s pool counts epoch) = getParams s := by
  simp [getParams, mintedStore, recordedStore, creditedStore]

theorem getDailyEmission_minted (epoch' : UInt64) :
    getDailyEmission (mintedStore s pool counts epoch) epoch' =
      if epoch' = epoch then .ok (emissionOf (getParams s) pool counts epoch)
      else getDailyEmission s epoch' := by
  unfold getDailyEmission mintedStore recordedStore creditedStore
  simp only [OrderedMap.get_set, emissionKey_inj, addContributorRewards_emission]
  by_cases h : epoch' = epoch
  · rw [if_pos h, if_pos h]
    rfl
  · rw [if_neg h, if_neg h]

theorem getContributorReward_minted (addr : Bytes) :
    getContributorReward (mintedStore s pool counts epoch) addr =
      getContributorReward s addr +
        UInt64.ofNat (creditedTo addr (contributorCredits (getParams s) pool counts)) :=
  addContributorRewards_counter s _ getContributorReward_add addr

theorem getLifetimeContributorReward_minted (addr : Bytes) :
    getLifetimeContributorReward (mintedStore s pool counts epoch) addr =
      getLifetimeContributorReward s addr +
        UInt64.ofNat (creditedTo addr (contributorCredits (getParams s) pool counts)) :=
  addContributorRewards_counter s _ getLifetimeContributorReward_add addr

end Minted

end WeVibeChain.Emissions
