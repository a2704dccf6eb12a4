import WeVibeChain.EmissionsMsgServer
import WeVibeChain.EmissionsAmounts
import WeVibeChain.EmissionsRewards
import WeVibeChain.Shared.Machine

/-!
# Conservation over a run of mints

The system here is the emission store under calls of `MintDailyEmission` with any
epoch and any approval counts, and under `MsgUpdateParams` messages. Its history
lists the successful mints. The pool's amounts, the daily records and the rewards
are tied to that history, whatever the schedule and the cap are changed to.

Two counters are exact only as far as 64 bits go: the elapsed epochs and the
rewards of an address. Neither is bounded by the pool's amounts.
-/

set_option autoImplicit false

namespace WeVibeChain.Emissions

open Words

section System
variable {β : Type}

inductive Input where
  | mint (epoch : UInt64) (approvals : Option (OrderedMap Bytes UInt64))
  | updateParams (msg : MsgUpdateParams)

def mintStep (bk : BankKeeper β) (authority : Bytes) (st : State β) :
    Input → State β × Option Minted
  | .mint epoch approvals =>
    match mintDailyEmission bk (fun _ => approvals) st epoch with
    | (st', .error _) => (st', none)
    | (st', .ok emission) => (st', some ⟨emission, creditsIn st.store (approvals.getD ∅)⟩)
  | .updateParams msg =>
    match updateParams authority st.store msg with
    | .error _ => (st, none)
    | .ok store => ({ st with store := store }, none)

def mintSystem (bk : BankKeeper β) (authority : Bytes) : Machine (State β) Input (Option Minted) :=
  ⟨mintStep bk authority⟩

/-- The successful mints of a run, oldest first. -/
def mints (bk : BankKeeper β) (authority : Bytes) (st : State β) (inputs : List Input) :
    List Minted :=
  ((mintSystem bk authority).history st inputs).filterMap id

end System

section Step
variable {β : Type} {bk : BankKeeper β} (authority : Bytes) {st : State β} {pool : EmissionPool}

theorem mintDistributed_of_mintsAlways (hbank : bk.MintsAlways) (bank : β) (amount : UInt64) :
    ∃ bank', mintDistributed bk bank amount = some bank' := by
  unfold mintDistributed
  split
  · exact Option.isSome_iff_exists.mp (hbank _ _ _)
  · exact ⟨bank, rfl⟩

/-- With a valid pool and a bank that mints, a step either mints or keeps everything but the
parameters. A mint at an epoch after the pool's succeeds. -/
theorem mintStep_cases (hbank : bk.MintsAlways) (hpool : getEmissionPool st.store = .ok pool)
    (hvalid : pool.validate = .ok ()) (input : Input) :
    (∃ params, (∀ epoch approvals, input = .mint epoch approvals → ¬ pool.epoch < epoch) ∧
      (mintSystem bk authority).next st input =
        { st with store := { st.store with params := params } } ∧
      (mintSystem bk authority).output st input = none) ∨
    ∃ epoch approvals bank', input = .mint epoch approvals ∧ pool.epoch < epoch ∧
      (mintSystem bk authority).next st input =
        ⟨mintedStore st.store pool (approvals.getD ∅) epoch, bank'⟩ ∧
      (mintSystem bk authority).output st input =
        some ⟨emissionOf (getParams st.store) pool (approvals.getD ∅) epoch,
          contributorCredits (getParams st.store) pool (approvals.getD ∅)⟩ := by
  cases input with
  | updateParams msg =>
    left
    cases h : updateParams authority st.store msg with
    | error e => exact ⟨st.store.params, nofun, by simp [mintSystem, Machine.next, mintStep, h],
        by simp [mintSystem, Machine.output, mintStep, h]⟩
    | ok store =>
      have hstore := updateParams_ok authority h
      exact ⟨some msg.params, nofun, by simp [mintSystem, Machine.next, mintStep, h, hstore],
        by simp [mintSystem, Machine.output, mintStep, h]⟩
  | mint epoch approvals =>
    have hend := mintDailyEmission_end bk (fun _ => approvals) st epoch
    generalize hresult : mintDailyEmission bk (fun _ => approvals) st epoch = result at hend
    cases hend with
    | noPool hnone => rw [hpool] at hnone; cases hnone
    | notAfter pool' hpool' hepoch =>
      rw [hpool] at hpool'
      obtain rfl := Except.ok.inj hpool'
      left
      refine ⟨st.store.params, ?_, by simp [mintSystem, Machine.next, mintStep, hresult],
        by simp [mintSystem, Machine.output, mintStep, hresult]⟩
      rintro _ _ ⟨⟩
      exact UInt64.not_lt.mpr hepoch
    | bankFailed pool' _ _ hfail =>
      obtain ⟨bank', hsome⟩ := mintDistributed_of_mintsAlways hbank st.bank
        (distributedToContributors (getParams st.store) pool' (approvals.getD ∅))
      rw [hsome] at hfail
      cases hfail
    | poolRefused pool' bank' hpool' _ _ hrefused =>
      rw [hpool] at hpool'
      obtain rfl := Except.ok.inj hpool'
      rw [hvalid] at hrefused
      cases hrefused
    | minted pool' bank' hpool' hepoch _ _ =>
      rw [hpool] at hpool'
      obtain rfl := Except.ok.inj hpool'
      right
      exact ⟨epoch, approvals, bank', rfl, hepoch,
        by simp [mintSystem, Machine.next, mintStep, hresult],
        by simp [mintSystem, Machine.output, mintStep, hresult, creditsIn, hpool]⟩

end Step

section Conservation

def NoRecordAbove (s : Store) (epoch : UInt64) : Prop :=
  ∀ later, epoch < later → getDailyEmission s later = .error .dailyEmissionNotFound

/-- How a store and its pool follow from the ones at the start and the mints since. -/
structure Conserved (s₀ : Store) (pool₀ : EmissionPool) (s : Store) (pool : EmissionPool)
    (minted : List Minted) : Prop where
  validator : pool.validatorPoolRemainingUvibe.toNat +
    (minted.map fun m => m.emission.validatorShare.toNat).sum =
      pool₀.validatorPoolRemainingUvibe.toNat
  contributor : pool.contributorPoolRemainingUvibe.toNat + pool.contributorRolloverUvibe.toNat +
    (minted.map Minted.distributed).sum =
      pool₀.contributorPoolRemainingUvibe.toNat + pool₀.contributorRolloverUvibe.toNat
  supply : pool.totalSupply.toNat =
    pool₀.totalSupply.toNat + (minted.map fun m => m.emission.totalEmitted.toNat).sum
  elapsed : pool.totalEpochsElapsed = pool₀.totalEpochsElapsed + UInt64.ofNat minted.length
  increasing : (pool₀.epoch :: minted.map fun m => m.emission.epoch).Pairwise (· < ·)
  last : (pool₀.epoch :: minted.map fun m => m.emission.epoch).getLast? = some pool.epoch
  kept : ∀ epoch e, getDailyEmission s₀ epoch = .ok e → getDailyEmission s epoch = .ok e
  written : ∀ m ∈ minted, getDailyEmission s m.emission.epoch = .ok m.emission
  pending : ∀ addr, getContributorReward s addr =
    getContributorReward s₀ addr + UInt64.ofNat (creditedTo addr (minted.flatMap Minted.credits))
  lifetime : ∀ addr, getLifetimeContributorReward s addr =
    getLifetimeContributorReward s₀ addr +
      UInt64.ofNat (creditedTo addr (minted.flatMap Minted.credits))

variable {s₀ s : Store} {pool₀ pool : EmissionPool} {minted : List Minted}

theorem conserved_refl (s : Store) (pool : EmissionPool) : Conserved s pool s pool [] where
  validator := rfl
  contributor := rfl
  supply := rfl
  elapsed := (UInt64.add_zero _).symm
  increasing := List.pairwise_singleton _ _
  last := rfl
  kept _ _ h := h
  written _ h := absurd h List.not_mem_nil
  pending _ := (UInt64.add_zero _).symm
  lifetime _ := (UInt64.add_zero _).symm

theorem Conserved.setParams (h : Conserved s₀ pool₀ s pool minted) (params : Option Params) :
    Conserved s₀ pool₀ { s with params := params } pool minted :=
  { h with }

theorem Conserved.epoch_le (h : Conserved s₀ pool₀ s pool minted) {epoch : UInt64}
    (hmem : epoch ∈ pool₀.epoch :: minted.map fun m => m.emission.epoch) :
    epoch ≤ pool.epoch := by
  obtain ⟨front, hfront⟩ := List.getLast?_eq_some_iff.mp h.last
  have hsorted := h.increasing
  rw [hfront] at hsorted hmem
  rcases List.mem_append.mp hmem with hin | hin
  · exact UInt64.le_of_lt ((List.pairwise_append.mp hsorted).2.2 epoch hin _ List.mem_cons_self)
  · rw [List.mem_singleton.mp hin]
    exact UInt64.le_refl _

/-- One more mint. -/
theorem Conserved.mint (h : Conserved s₀ pool₀ s pool minted) (hcommitted : pool.committed < 2 ^ 64)
    (hfresh : NoRecordAbove s pool.epoch) {epoch : UInt64} (hepoch : pool.epoch < epoch)
    (counts : OrderedMap Bytes UInt64) :
    Conserved s₀ pool₀ (mintedStore s pool counts epoch)
      (advancePool (getParams s) pool counts epoch)
      (minted ++ [⟨emissionOf (getParams s) pool counts epoch,
        contributorCredits (getParams s) pool counts⟩]) := by
  have hvalidator := advancePool_validatorPool pool (getParams s) counts epoch
  have hcontributor := advancePool_contributorPool (getParams s) counts epoch hcommitted
  have hsupply := advancePool_totalSupply (getParams s) counts epoch hcommitted
  have hcredits := sum_contributorCredits (getParams s) pool counts
  have hkeep : ∀ e record, getDailyEmission s e = .ok record →
      getDailyEmission (mintedStore s pool counts epoch) e = .ok record := by
    intro e record hrecord
    rw [getDailyEmission_minted, if_neg]
    · exact hrecord
    · intro heq
      subst heq
      rw [hfresh e hepoch] at hrecord
      cases hrecord
  refine ⟨?_, ?_, ?_, ?_, ?_, ?_, ?_, ?_, ?_, ?_⟩
  · have hold := h.validator
    simp only [List.map_append, List.sum_append, List.map_cons, List.map_nil, List.sum_cons,
      List.sum_nil, emissionOf]
    omega
  · have hold := h.contributor
    simp only [List.map_append, List.sum_append, List.map_cons, List.map_nil, List.sum_cons,
      List.sum_nil, Minted.distributed] at hold ⊢
    omega
  · have hold := h.supply
    simp only [List.map_append, List.sum_append, List.map_cons, List.map_nil, List.sum_cons,
      List.sum_nil, emissionOf]
    omega
  · change pool.totalEpochsElapsed + 1 = _
    rw [h.elapsed, List.length_append, UInt64.ofNat_add, UInt64.add_assoc]
    rfl
  · rw [List.map_append, ← List.cons_append, List.pairwise_append]
    refine ⟨h.increasing, List.pairwise_singleton _ _, ?_⟩
    intro old hold new hnew
    rw [List.map_singleton, List.mem_singleton] at hnew
    rw [hnew]
    exact UInt64.lt_of_le_of_lt (h.epoch_le hold) hepoch
  · rw [List.map_append, ← List.cons_append, List.map_singleton, List.getLast?_concat]
    rfl
  · exact fun e record hrecord => hkeep e record (h.kept e record hrecord)
  · intro m hm
    rcases List.mem_append.mp hm with hold | hnew
    · exact hkeep _ _ (h.written m hold)
    · rw [List.mem_singleton.mp hnew, getDailyEmission_minted]
      exact if_pos rfl
  · intro addr
    rw [getContributorReward_minted, h.pending, List.flatMap_append, creditedTo_append,
      UInt64.ofNat_add, UInt64.add_assoc, List.flatMap_singleton]
  · intro addr
    rw [getLifetimeContributorReward_minted, h.lifetime, List.flatMap_append, creditedTo_append,
      UInt64.ofNat_add, UInt64.add_assoc, List.flatMap_singleton]

theorem noRecordAbove_minted (hfresh : NoRecordAbove s pool.epoch) {epoch : UInt64}
    (hepoch : pool.epoch < epoch) (counts : OrderedMap Bytes UInt64) :
    NoRecordAbove (mintedStore s pool counts epoch)
      (advancePool (getParams s) pool counts epoch).epoch := by
  intro later hlater
  have hne : later ≠ epoch := by
    intro heq
    subst heq
    exact absurd hlater (UInt64.lt_irrefl _)
  rw [getDailyEmission_minted, if_neg hne]
  exact hfresh later (UInt64.lt_trans hepoch hlater)

end Conservation

section Run
variable {β : Type} {bk : BankKeeper β} (authority : Bytes)

/-- The stored pool is valid, its amounts fit, and the history accounts for the store. -/
structure Accounted (s₀ : Store) (pool₀ : EmissionPool) (st : State β)
    (log : List (Option Minted)) (pool : EmissionPool) : Prop where
  stored : getEmissionPool st.store = .ok pool
  valid : pool.validate = .ok ()
  committed : pool.committed < 2 ^ 64
  fresh : NoRecordAbove st.store pool.epoch
  conserved : Conserved s₀ pool₀ st.store pool (log.filterMap id)

theorem accounted_step (hbank : bk.MintsAlways) {s₀ : Store} {pool₀ : EmissionPool} {st : State β}
    {log : List (Option Minted)} (h : ∃ pool, Accounted s₀ pool₀ st log pool) (input : Input) :
    ∃ pool, Accounted s₀ pool₀ ((mintSystem bk authority).next st input)
      (log ++ [(mintSystem bk authority).output st input]) pool := by
  obtain ⟨pool, h⟩ := h
  rcases mintStep_cases authority hbank h.stored h.valid input with
    ⟨params, _, hnext, hout⟩ | ⟨epoch, approvals, bank', _, hepoch, hnext, hout⟩
  · rw [hnext, hout]
    refine ⟨pool, h.stored, h.valid, h.committed, h.fresh, ?_⟩
    simpa using h.conserved.setParams params
  · rw [hnext, hout]
    refine ⟨advancePool (getParams st.store) pool (approvals.getD ∅) epoch,
      getEmissionPool_minted _ _ _ _, h.valid, ?_, noRecordAbove_minted h.fresh hepoch _, ?_⟩
    · rw [advancePool_committed _ _ _ h.committed]
      exact h.committed
    · simpa using h.conserved.mint h.committed h.fresh hepoch (approvals.getD ∅)

theorem accounted_run (hbank : bk.MintsAlways) {st : State β} {pool : EmissionPool}
    (hpool : getEmissionPool st.store = .ok pool) (hvalid : pool.validate = .ok ())
    (hcommitted : pool.committed < 2 ^ 64) (hfresh : NoRecordAbove st.store pool.epoch)
    (inputs : List Input) :
    ∃ pool', Accounted st.store pool ((mintSystem bk authority).run st inputs)
      ((mintSystem bk authority).history st inputs) pool' := by
  have hstart : ∃ pool', Accounted st.store pool st [] pool' :=
    ⟨pool, hpool, hvalid, hcommitted, hfresh, conserved_refl st.store pool⟩
  exact (mintSystem bk authority).run_history_invariant
    (I := fun st' log => ∃ pool', Accounted st.store pool st' log pool')
    (fun st' log input h _ => accounted_step authority hbank h input) hstart
    ((mintSystem bk authority).along_true st _)

/-- A mint that gets past the epoch check stays in range in this state. -/
def MintInRange (st : State β) : Input → Prop
  | .mint epoch approvals => ∀ pool, getEmissionPool st.store = .ok pool → pool.epoch < epoch →
    NoWrap (getParams st.store) pool (approvals.getD ∅)
  | .updateParams _ => True

/-- Over every run of mints and parameter changes the pool's amounts are conserved, its
operations stay in range, records are never overwritten and epochs strictly increase; the two
kinds of counters are exact while their exact values fit in 64 bits. -/
theorem mint_run_conserves (hbank : bk.MintsAlways) {st : State β} {pool : EmissionPool}
    (hpool : getEmissionPool st.store = .ok pool) (hvalid : pool.validate = .ok ())
    (hcommitted : pool.committed < 2 ^ 64) (hfresh : NoRecordAbove st.store pool.epoch)
    (inputs : List Input) :
    ∃ pool', getEmissionPool ((mintSystem bk authority).run st inputs).store = .ok pool' ∧
      Conserved st.store pool ((mintSystem bk authority).run st inputs).store pool'
        (mints bk authority st inputs) ∧
      (mintSystem bk authority).Along MintInRange st inputs ∧
      (pool.totalEpochsElapsed.toNat + (mints bk authority st inputs).length < 2 ^ 64 →
        pool'.totalEpochsElapsed.toNat =
          pool.totalEpochsElapsed.toNat + (mints bk authority st inputs).length) ∧
      ∀ addr credited,
        credited = creditedTo addr ((mints bk authority st inputs).flatMap Minted.credits) →
        ((getContributorReward st.store addr).toNat + credited < 2 ^ 64 →
          (getContributorReward ((mintSystem bk authority).run st inputs).store addr).toNat =
            (getContributorReward st.store addr).toNat + credited) ∧
        ((getLifetimeContributorReward st.store addr).toNat + credited < 2 ^ 64 →
          (getLifetimeContributorReward
            ((mintSystem bk authority).run st inputs).store addr).toNat =
              (getLifetimeContributorReward st.store addr).toNat + credited) := by
  obtain ⟨pool', hend⟩ := accounted_run authority hbank hpool hvalid hcommitted
    hfresh inputs
  have hrange : (mintSystem bk authority).Along MintInRange st inputs := by
    refine (mintSystem bk authority).along_of_invariant
      (I := fun st' => ∃ log pool', Accounted st.store pool st' log pool') ?_ ?_
      ⟨[], pool, hpool, hvalid, hcommitted, hfresh, conserved_refl st.store pool⟩
      ((mintSystem bk authority).along_true st _)
    · intro st' input hall _
      obtain ⟨log, h⟩ := hall
      exact ⟨_, accounted_step authority hbank h input⟩
    · intro st' input hall _
      obtain ⟨log, pool', h⟩ := hall
      cases input with
      | updateParams msg => trivial
      | mint epoch approvals =>
        intro pool'' hpool'' _
        rw [h.stored] at hpool''
        obtain rfl := Except.ok.inj hpool''
        exact noWrap_of_committed _ _ h.committed
  refine ⟨pool', hend.stored, hend.conserved, hrange, ?_, ?_⟩
  · intro hlt
    rw [hend.conserved.elapsed]
    exact toNat_add_ofNat_of_lt hlt
  · intro addr credited heq
    subst heq
    refine ⟨?_, ?_⟩
    · intro hlt
      rw [hend.conserved.pending]
      exact toNat_add_ofNat_of_lt hlt
    · intro hlt
      rw [hend.conserved.lifetime]
      exact toNat_add_ofNat_of_lt hlt

/-- The store after the default genesis, over an empty ledger. -/
def defaultState : State Ledger := ⟨initGenesis {} defaultGenesis, {}⟩

/-- Two approvals, an epoch that is refused, a new schedule and a mint without approvals. -/
def sampleInputs : List Input :=
  [.mint 1 (some ((∅ : OrderedMap Bytes UInt64).set [97] 2)), .mint 1 none,
    .updateParams ⟨[103], { defaultParams with scheduleDurationDays := 2 }⟩, .mint 7 none]

theorem mint_run_conserves_default :
    (mints Ledger.keeper [103] defaultState sampleInputs).length = 2 ∧
    ∃ pool', getEmissionPool ((mintSystem Ledger.keeper [103]).run defaultState sampleInputs).store =
        .ok pool' ∧
      Conserved defaultState.store defaultEmissionPool
        ((mintSystem Ledger.keeper [103]).run defaultState sampleInputs).store pool'
        (mints Ledger.keeper [103] defaultState sampleInputs) := by
  refine ⟨by decide, ?_⟩
  have hpool : getEmissionPool defaultState.store = .ok defaultEmissionPool := rfl
  obtain ⟨pool', hpool', hconserved, _⟩ := mint_run_conserves [103] Ledger.keeper_mintsAlways hpool
    rfl (by decide) (fun _ _ => rfl) sampleInputs
  exact ⟨pool', hpool', hconserved⟩

/-- A valid pool whose elapsed epochs are at the top of the range. -/
def lastElapsedPool : EmissionPool :=
  { defaultEmissionPool with totalEpochsElapsed := 18446744073709551615 }

theorem totalEpochsElapsed_wraps :
    ¬ ∀ (st : State Ledger) (pool : EmissionPool), getEmissionPool st.store = .ok pool →
      pool.validate = .ok () → pool.committed < 2 ^ 64 → NoRecordAbove st.store pool.epoch →
      ∀ (inputs : List Input) (pool' : EmissionPool),
        getEmissionPool ((mintSystem Ledger.keeper []).run st inputs).store = .ok pool' →
        pool'.totalEpochsElapsed.toNat =
          pool.totalEpochsElapsed.toNat + (mints Ledger.keeper [] st inputs).length := by
  intro h
  have hwrapped := h ⟨{ pool := some (emissionPoolToStored lastElapsedPool) }, {}⟩ lastElapsedPool
    rfl rfl (by decide) (fun _ _ => rfl) [.mint 1 none] _ rfl
  revert hwrapped
  decide

end Run

end WeVibeChain.Emissions
