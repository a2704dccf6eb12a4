import WeVibeChain.EmissionsConservation
import WeVibeChain.Shared.EvenSpread

/-!
# The validator schedule

Every mint divides what is left of the validator pool by the epochs left of the
schedule. While the schedule's length stays the same, the mints of a fresh pool
spread it evenly over that many mints, whatever happens to the other parameters,
and nothing is left for the mints after them.
-/

set_option autoImplicit false

namespace WeVibeChain.Emissions

section Step
variable {params : Params} {pool : EmissionPool} {duration : UInt64} {amount n : Nat}

theorem toNat_remainingEpochs (h : pool.totalEpochsElapsed.toNat < params.scheduleDurationDays.toNat) :
    (remainingEpochs params pool).toNat =
      params.scheduleDurationDays.toNat - pool.totalEpochsElapsed.toNat := by
  rw [remainingEpochs, if_pos (UInt64.lt_iff_toNat_lt.mpr h)]
  exact Words.toNat_sub_of_toNat_le h.le

theorem toNat_validatorEmission : (validatorEmission params pool).toNat =
    pool.validatorPoolRemainingUvibe.toNat / (remainingEpochs params pool).toNat := by
  unfold validatorEmission
  have hle := Nat.div_le_self pool.validatorPoolRemainingUvibe.toNat
    (remainingEpochs params pool).toNat
  split
  · -- the quotient never exceeds the pool, so the cap has no effect
    dsimp only
    rw [if_neg, UInt64.toNat_div]
    rwa [UInt64.not_lt, UInt64.le_iff_toNat_le, UInt64.toNat_div]
  · rename_i hpos
    have hzero : pool.validatorPoolRemainingUvibe.toNat = 0 := by
      rw [gt_iff_lt, UInt64.lt_iff_toNat_lt] at hpos
      exact Nat.eq_zero_of_not_pos hpos
    rw [hzero, Nat.zero_div]
    rfl

/-- The pool after `n` mints of a schedule that started with `amount`. The counter may wrap only
after the schedule's end, when it no longer matters. -/
structure Scheduled (amount : Nat) (duration : UInt64) (n : Nat) (pool : EmissionPool) : Prop where
  remaining : pool.validatorPoolRemainingUvibe.toNat = EvenSpread.left amount duration.toNat n
  elapsed : n ≤ duration.toNat → pool.totalEpochsElapsed.toNat = n

theorem Scheduled.share (h : Scheduled amount duration n pool)
    (hduration : params.scheduleDurationDays = duration) :
    (validatorEmission params pool).toNat = EvenSpread.share amount duration.toNat n := by
  rw [toNat_validatorEmission, h.remaining]
  by_cases hn : n < duration.toNat
  · have helapsed := h.elapsed hn.le
    rw [toNat_remainingEpochs (by rw [hduration, helapsed]; exact hn), hduration, helapsed]
    exact EvenSpread.left_div amount duration.toNat hn
  · rw [EvenSpread.left_of_le _ _ (by omega), EvenSpread.share_of_le _ _ (by omega), Nat.zero_div]

theorem Scheduled.advance (h : Scheduled amount duration n pool)
    (hduration : params.scheduleDurationDays = duration) (counts : OrderedMap Bytes UInt64)
    (epoch : UInt64) : Scheduled amount duration (n + 1) (advancePool params pool counts epoch) := by
  have hpool := advancePool_validatorPool pool params counts epoch
  have hleft := EvenSpread.left_succ amount duration.toNat n
  have hshare := h.share hduration
  have hremaining := h.remaining
  refine ⟨by omega, ?_⟩
  intro hn
  have helapsed := h.elapsed (by omega)
  have hlt := duration.toNat_lt
  change (pool.totalEpochsElapsed + 1).toNat = n + 1
  rw [Words.toNat_add_of_lt (by simp; omega), helapsed]
  rfl

end Step

section Run
variable {β : Type} {bk : BankKeeper β} (authority : Bytes)

def validatorShares (bk : BankKeeper β) (authority : Bytes) (st : State β) (inputs : List Input) :
    List Nat :=
  (mints bk authority st inputs).map fun m => m.emission.validatorShare.toNat

/-- A mint reads this schedule length. -/
def MintsOver (duration : UInt64) (st : State β) : Input → Prop
  | .mint _ _ => (getParams st.store).scheduleDurationDays = duration
  | .updateParams _ => True

/-- The stored pool is where the schedule has it after the mints of the log. -/
structure OnSchedule (amount : Nat) (duration : UInt64) (st : State β)
    (log : List (Option Minted)) (pool : EmissionPool) : Prop where
  stored : getEmissionPool st.store = .ok pool
  valid : pool.validate = .ok ()
  scheduled : Scheduled amount duration (log.filterMap id).length pool
  shares : (log.filterMap id).map (fun m => m.emission.validatorShare.toNat) =
    EvenSpread.shares amount duration.toNat (log.filterMap id).length

theorem onSchedule_step (hbank : bk.MintsAlways) {amount : Nat} {duration : UInt64} {st : State β}
    {log : List (Option Minted)} {input : Input} (h : ∃ pool, OnSchedule amount duration st log pool)
    (hinput : MintsOver duration st input) :
    ∃ pool, OnSchedule amount duration ((mintSystem bk authority).next st input)
      (log ++ [(mintSystem bk authority).output st input]) pool := by
  obtain ⟨pool, h⟩ := h
  rcases mintStep_cases authority hbank h.stored h.valid input with
    ⟨params, _, hnext, hout⟩ | ⟨epoch, approvals, bank', rfl, _, hnext, hout⟩
  · rw [hnext, hout]
    refine ⟨pool, h.stored, h.valid, ?_, ?_⟩
    · simpa using h.scheduled
    · simpa using h.shares
  · have hshare := h.scheduled.share hinput
    rw [hnext, hout]
    refine ⟨advancePool (getParams st.store) pool (approvals.getD ∅) epoch,
      getEmissionPool_minted _ _ _ _, h.valid, ?_, ?_⟩
    · simpa using h.scheduled.advance hinput (approvals.getD ∅) epoch
    · simpa [EvenSpread.shares_succ, emissionOf] using ⟨h.shares, hshare⟩

theorem onSchedule_run (hbank : bk.MintsAlways) {st : State β} {pool : EmissionPool}
    (hpool : getEmissionPool st.store = .ok pool) (hvalid : pool.validate = .ok ())
    (helapsed : pool.totalEpochsElapsed = 0) {duration : UInt64} (hduration : 1 ≤ duration)
    {inputs : List Input} (hinputs : (mintSystem bk authority).Along (MintsOver duration) st inputs) :
    ∃ pool', OnSchedule pool.validatorPoolRemainingUvibe.toNat duration
      ((mintSystem bk authority).run st inputs) ((mintSystem bk authority).history st inputs)
      pool' := by
  have hpos : 0 < duration.toNat := UInt64.le_iff_toNat_le.mp hduration
  have hstart : ∃ pool', OnSchedule pool.validatorPoolRemainingUvibe.toNat duration st [] pool' := by
    refine ⟨pool, hpool, hvalid, ⟨?_, ?_⟩, rfl⟩
    · exact (EvenSpread.left_zero _ _ hpos).symm
    · intro _
      rw [helapsed]
      rfl
  exact (mintSystem bk authority).run_history_invariant
    (I := fun st' log => ∃ pool', OnSchedule pool.validatorPoolRemainingUvibe.toNat duration st' log
      pool')
    (fun st' log input h hinput => onSchedule_step authority hbank h hinput) hstart hinputs

/-- The mints of a fresh pool spread the validators' amount evenly over the schedule, and a mint at
an epoch after the last one's succeeds. -/
theorem validator_shares_spread_evenly (hbank : bk.MintsAlways) {st : State β} {pool : EmissionPool}
    (hpool : getEmissionPool st.store = .ok pool) (hvalid : pool.validate = .ok ())
    (helapsed : pool.totalEpochsElapsed = 0) {duration : UInt64} (hduration : 1 ≤ duration)
    {inputs : List Input}
    (hinputs : (mintSystem bk authority).Along (MintsOver duration) st inputs) :
    EvenSpread.SpreadEvenly pool.validatorPoolRemainingUvibe.toNat duration.toNat
        (validatorShares bk authority st inputs) ∧
      ∃ pool', getEmissionPool ((mintSystem bk authority).run st inputs).store = .ok pool' ∧
        ∀ epoch approvals, pool'.epoch < epoch →
          ((mintSystem bk authority).output ((mintSystem bk authority).run st inputs)
            (.mint epoch approvals)).isSome := by
  have hpos : 0 < duration.toNat := UInt64.le_iff_toNat_le.mp hduration
  obtain ⟨pool', hend⟩ := onSchedule_run authority hbank hpool hvalid helapsed hduration hinputs
  refine ⟨?_, pool', hend.stored, ?_⟩
  · have hshares : validatorShares bk authority st inputs = _ := hend.shares
    rw [hshares]
    exact EvenSpread.spreadEvenly_shares hpos _
  · intro epoch approvals hepoch
    rcases mintStep_cases authority hbank hend.stored hend.valid (.mint epoch approvals) with
      ⟨_, hrefused, _⟩ | ⟨_, _, _, _, _, _, hout⟩
    · exact absurd hepoch (hrefused epoch approvals rfl)
    · rw [hout]
      rfl

/-- Ten units over four days. -/
def shortSchedule : State Ledger where
  store := setParams
    (initGenesis {} { emissionPool := some { defaultEmissionPool with
      validatorPoolRemainingUvibe := 10 } })
    { defaultParams with scheduleDurationDays := 4 }
  bank := {}

/-- Six mints, one of them refused, and a new annual cap in between. -/
def shortInputs : List Input :=
  [.mint 1 none, .mint 2 (some ((∅ : OrderedMap Bytes UInt64).set [97] 2)), .mint 2 none,
    .updateParams ⟨[103], { defaultParams with
      scheduleDurationDays := 4, contributorAnnualCapUvibe := 365 }⟩,
    .mint 5 none, .mint 6 none, .mint 9 none]

theorem validator_shares_short :
    validatorShares Ledger.keeper [103] shortSchedule shortInputs = [2, 2, 3, 3, 0] ∧
      EvenSpread.SpreadEvenly 10 4 (validatorShares Ledger.keeper [103] shortSchedule shortInputs) := by
  refine ⟨by decide, ?_⟩
  have hpool : getEmissionPool shortSchedule.store =
      .ok { defaultEmissionPool with validatorPoolRemainingUvibe := 10 } := rfl
  have hinputs : (mintSystem Ledger.keeper [103]).Along (MintsOver 4) shortSchedule shortInputs := by
    refine ⟨?_, ?_, ?_, trivial, ?_, ?_, ?_, trivial⟩ <;> rfl
  exact (validator_shares_spread_evenly [103] Ledger.keeper_mintsAlways hpool rfl rfl (by decide)
    hinputs).1

end Run

end WeVibeChain.Emissions
