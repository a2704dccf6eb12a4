import WeVibeChain.EmissionsSchedule

/-!
# The annual cap on the contributor budget

The cap is applied to every mint as the rounded down share of one epoch. A cap
with fewer units than the year has epochs rounds to zero, which switches it off.
So 365 mints keep to the cap if it has a unit for each epoch, and to a smaller
one only as far as the schedule happens to pay out that little.
-/

set_option autoImplicit false

namespace WeVibeChain.Emissions

section Budget
variable {params : Params} {pool : EmissionPool}

theorem toNat_remainingEpochs_eq_max (params : Params) (pool : EmissionPool) :
    (remainingEpochs params pool).toNat =
      max 1 (params.scheduleDurationDays.toNat - pool.totalEpochsElapsed.toNat) := by
  by_cases h : pool.totalEpochsElapsed.toNat < params.scheduleDurationDays.toNat
  · rw [toNat_remainingEpochs h]
    omega
  · have hnot : ¬ params.scheduleDurationDays > pool.totalEpochsElapsed := by
      rw [gt_iff_lt, UInt64.lt_iff_toNat_lt]
      exact h
    rw [remainingEpochs, if_neg hnot, Nat.sub_eq_zero_of_le (by omega)]
    rfl

/-- The budget is an even share of what is left, cut to the share of one epoch if that is not
zero. -/
theorem toNat_contributorBudget (params : Params) (pool : EmissionPool) :
    (contributorBudget params pool).toNat =
      if 365 ≤ params.contributorAnnualCapUvibe.toNat then
        min (pool.contributorPoolRemainingUvibe.toNat / (remainingEpochs params pool).toNat)
          (params.contributorAnnualCapUvibe.toNat / 365)
      else pool.contributorPoolRemainingUvibe.toNat / (remainingEpochs params pool).toNat := by
  by_cases hpool : pool.contributorPoolRemainingUvibe > 0
  · rw [contributorBudget, if_pos hpool]
    extract_lets share epochCap budget
    have hshare : share.toNat =
        pool.contributorPoolRemainingUvibe.toNat / (remainingEpochs params pool).toNat :=
      UInt64.toNat_div _ _
    have hcap : epochCap.toNat = params.contributorAnnualCapUvibe.toNat / 365 := UInt64.toNat_div _ _
    have hcut : (epochCap > 0 ∧ share > epochCap) ↔ 0 < epochCap.toNat ∧ epochCap.toNat < share.toNat :=
      and_congr UInt64.lt_iff_toNat_lt UInt64.lt_iff_toNat_lt
    have hbudget : budget.toNat =
        if 365 ≤ params.contributorAnnualCapUvibe.toNat then min share.toNat epochCap.toNat
        else share.toNat := by
      change (if epochCap > 0 ∧ share > epochCap then epochCap else share).toNat = _
      split
      · rename_i h
        have hlt := hcut.mp h
        rw [if_pos (by omega), Nat.min_eq_right (by omega)]
      · rename_i h
        have hnot := mt hcut.mpr h
        split
        · rw [Nat.min_eq_left (by omega)]
        · rfl
    have hle := Nat.div_le_self pool.contributorPoolRemainingUvibe.toNat
      (remainingEpochs params pool).toNat
    -- an even share never exceeds the pool
    have hsmall : ¬ budget > pool.contributorPoolRemainingUvibe := by
      rw [gt_iff_lt, UInt64.lt_iff_toNat_lt, hbudget]
      split <;> omega
    rw [if_neg hsmall, hbudget, hshare, hcap]
  · have hzero : pool.contributorPoolRemainingUvibe.toNat = 0 := by
      rw [gt_iff_lt, UInt64.lt_iff_toNat_lt] at hpool
      exact Nat.eq_zero_of_not_pos hpool
    rw [contributorBudget, if_neg hpool, hzero, Nat.zero_div, Nat.zero_min, ite_self]
    rfl

theorem contributorBudget_le_epochCap (h : 365 ≤ params.contributorAnnualCapUvibe.toNat) :
    (contributorBudget params pool).toNat ≤ params.contributorAnnualCapUvibe.toNat / 365 := by
  rw [toNat_contributorBudget, if_pos h]
  exact Nat.min_le_right _ _

theorem advancePool_contributorBudget (params : Params) (pool : EmissionPool)
    (counts : OrderedMap Bytes UInt64) (epoch : UInt64) :
    (advancePool params pool counts epoch).contributorPoolRemainingUvibe.toNat +
      (contributorBudget params pool).toNat = pool.contributorPoolRemainingUvibe.toNat := by
  have hle := contributorBudget_le params pool
  have hsub := Words.toNat_sub_of_toNat_le hle
  change (pool.contributorPoolRemainingUvibe - contributorBudget params pool).toNat + _ = _
  omega

end Budget

section Step
variable {β : Type} {bk : BankKeeper β} (authority : Bytes) {st : State β} {pool : EmissionPool}

/-- Without an assumption on the bank and the pool, a step mints or keeps the stored pool. -/
theorem mintStep_pool (hpool : getEmissionPool st.store = .ok pool) (input : Input) :
    ((mintSystem bk authority).output st input = none ∧
      getEmissionPool ((mintSystem bk authority).next st input).store = .ok pool) ∨
    ∃ epoch approvals m, input = .mint epoch approvals ∧
      (mintSystem bk authority).output st input = some m ∧
      getEmissionPool ((mintSystem bk authority).next st input).store =
        .ok (advancePool (getParams st.store) pool (approvals.getD ∅) epoch) := by
  cases input with
  | updateParams msg =>
    left
    cases h : updateParams authority st.store msg with
    | error e => simpa [mintSystem, Machine.next, Machine.output, mintStep, h] using hpool
    | ok store =>
      have hstore := updateParams_ok authority h
      simpa [mintSystem, Machine.next, Machine.output, mintStep, h, hstore, getEmissionPool]
        using hpool
  | mint epoch approvals =>
    have hend := mintDailyEmission_end bk (fun _ => approvals) st epoch
    generalize hresult : mintDailyEmission bk (fun _ => approvals) st epoch = result at hend
    cases hend with
    | noPool hnone => rw [hpool] at hnone; cases hnone
    | notAfter pool' hpool' hepoch =>
      left
      simpa [mintSystem, Machine.next, Machine.output, mintStep, hresult] using hpool
    | bankFailed pool' _ _ hfail =>
      left
      simpa [mintSystem, Machine.next, Machine.output, mintStep, hresult, getEmissionPool,
        creditedStore] using hpool
    | poolRefused pool' bank' hpool' _ _ hrefused =>
      left
      simpa [mintSystem, Machine.next, Machine.output, mintStep, hresult, getEmissionPool,
        recordedStore, creditedStore] using hpool
    | minted pool' bank' hpool' hepoch _ _ =>
      rw [hpool] at hpool'
      obtain rfl := Except.ok.inj hpool'
      right
      refine ⟨epoch, approvals, ⟨emissionOf (getParams st.store) pool (approvals.getD ∅) epoch,
        creditsIn st.store (approvals.getD ∅)⟩, rfl, ?_, ?_⟩
      · simp only [mintSystem, Machine.output, mintStep, hresult]
      · simp only [mintSystem, Machine.next, mintStep, hresult]
        rfl

end Step

section Spread
variable {params : Params} {pool₀ pool : EmissionPool} {duration : UInt64} {n : Nat}

/-- The epochs that the schedule has left for this pool, and one when it has none. -/
def epochsLeft (duration : UInt64) (pool : EmissionPool) : Nat :=
  max 1 (duration.toNat - pool.totalEpochsElapsed.toNat)

/-- The contributor pool after `n` mints that no cap has touched. The counter may wrap only after
the schedule's end, when it no longer matters. -/
structure Uncapped (duration : UInt64) (pool₀ : EmissionPool) (n : Nat) (pool : EmissionPool) :
    Prop where
  remaining : pool.contributorPoolRemainingUvibe.toNat =
    EvenSpread.left pool₀.contributorPoolRemainingUvibe.toNat (epochsLeft duration pool₀) n
  elapsed : n < epochsLeft duration pool₀ →
    pool.totalEpochsElapsed.toNat = pool₀.totalEpochsElapsed.toNat + n

theorem Uncapped.start (duration : UInt64) (pool : EmissionPool) : Uncapped duration pool 0 pool where
  remaining := by
    rw [EvenSpread.left_zero]
    exact lt_of_lt_of_le Nat.one_pos (Nat.le_max_left 1 _)
  elapsed _ := rfl

theorem Uncapped.share (h : Uncapped duration pool₀ n pool)
    (hduration : params.scheduleDurationDays = duration)
    (hcap : params.contributorAnnualCapUvibe.toNat < 365) :
    (contributorBudget params pool).toNat =
      EvenSpread.share pool₀.contributorPoolRemainingUvibe.toNat (epochsLeft duration pool₀) n := by
  rw [toNat_contributorBudget, if_neg (by omega), h.remaining, toNat_remainingEpochs_eq_max, hduration]
  by_cases hn : n < epochsLeft duration pool₀
  · have helapsed := h.elapsed hn
    have hleft : max 1 (duration.toNat - pool.totalEpochsElapsed.toNat) =
        epochsLeft duration pool₀ - n := by
      unfold epochsLeft at hn ⊢
      omega
    rw [hleft, EvenSpread.left_div _ _ hn]
  · rw [EvenSpread.left_of_le _ _ (by omega), EvenSpread.share_of_le _ _ (by omega), Nat.zero_div]

theorem Uncapped.advance (h : Uncapped duration pool₀ n pool)
    (hduration : params.scheduleDurationDays = duration)
    (hcap : params.contributorAnnualCapUvibe.toNat < 365) (counts : OrderedMap Bytes UInt64)
    (epoch : UInt64) : Uncapped duration pool₀ (n + 1) (advancePool params pool counts epoch) := by
  have hpool := advancePool_contributorBudget params pool counts epoch
  have hleft := EvenSpread.left_succ pool₀.contributorPoolRemainingUvibe.toNat
    (epochsLeft duration pool₀) n
  have hshare := h.share hduration hcap
  have hremaining := h.remaining
  refine ⟨by omega, ?_⟩
  intro hn
  have helapsed := h.elapsed (by omega)
  have hlt := duration.toNat_lt
  unfold epochsLeft at hn
  have hone : (1 : UInt64).toNat = 1 := rfl
  change (pool.totalEpochsElapsed + 1).toNat = _
  rw [Words.toNat_add_of_lt (by omega)]
  omega

end Spread

section Run
variable {β : Type} {bk : BankKeeper β} (authority : Bytes) {st : State β} {pool : EmissionPool}
  {cap duration : UInt64} {inputs : List Input}

/-- A mint reads this annual cap and this schedule length. -/
def MintsUnder (cap duration : UInt64) (st : State β) : Input → Prop
  | .mint _ _ => (getParams st.store).contributorAnnualCapUvibe = cap ∧
    (getParams st.store).scheduleDurationDays = duration
  | .updateParams _ => True

/-- What a mint keeps of the stored pool and a count of the mints, the whole run keeps. -/
theorem pool_run {J : Nat → EmissionPool → Prop} (hpool : getEmissionPool st.store = .ok pool)
    (hstart : J 0 pool)
    (hadvance : ∀ params n pool' counts epoch, params.contributorAnnualCapUvibe = cap →
      params.scheduleDurationDays = duration → J n pool' →
        J (n + 1) (advancePool params pool' counts epoch))
    (hinputs : (mintSystem bk authority).Along (MintsUnder cap duration) st inputs) :
    ∃ pool', getEmissionPool ((mintSystem bk authority).run st inputs).store = .ok pool' ∧
      J (mints bk authority st inputs).length pool' := by
  have hbefore : ∃ pool', getEmissionPool st.store = .ok pool' ∧
      J (([] : List (Option Minted)).filterMap id).length pool' := ⟨pool, hpool, hstart⟩
  refine (mintSystem bk authority).run_history_invariant
    (I := fun st' log => ∃ pool', getEmissionPool st'.store = .ok pool' ∧
      J (log.filterMap id).length pool') ?_ hbefore hinputs
  rintro st' log input ⟨pool', hpool', hJ⟩ hinput
  rcases mintStep_pool authority hpool' input with
    ⟨hout, hkept⟩ | ⟨epoch, approvals, m, rfl, hout, hnext⟩
  · rw [hout]
    exact ⟨pool', hkept, by simpa using hJ⟩
  · rw [hout]
    refine ⟨_, hnext, ?_⟩
    simpa using hadvance _ _ _ (approvals.getD ∅) epoch hinput.1 hinput.2 hJ

theorem capped_run (hpool : getEmissionPool st.store = .ok pool) (hcap : 365 ≤ cap.toNat)
    (hinputs : (mintSystem bk authority).Along (MintsUnder cap duration) st inputs) :
    ∃ pool', getEmissionPool ((mintSystem bk authority).run st inputs).store = .ok pool' ∧
      pool.contributorPoolRemainingUvibe.toNat ≤ pool'.contributorPoolRemainingUvibe.toNat +
        (mints bk authority st inputs).length * (cap.toNat / 365) := by
  refine pool_run authority hpool (J := fun n pool' =>
    pool.contributorPoolRemainingUvibe.toNat ≤
      pool'.contributorPoolRemainingUvibe.toNat + n * (cap.toNat / 365)) (by omega) ?_ hinputs
  rintro params n pool' counts epoch rfl - hle
  have hbudget : (contributorBudget params pool').toNat ≤ _ := contributorBudget_le_epochCap hcap
  have hadvance := advancePool_contributorBudget params pool' counts epoch
  rw [Nat.succ_mul]
  omega

theorem uncapped_run (hpool : getEmissionPool st.store = .ok pool) (hcap : cap.toNat < 365)
    (hinputs : (mintSystem bk authority).Along (MintsUnder cap duration) st inputs) :
    ∃ pool', getEmissionPool ((mintSystem bk authority).run st inputs).store = .ok pool' ∧
      Uncapped duration pool (mints bk authority st inputs).length pool' := by
  refine pool_run authority hpool (J := Uncapped duration pool) (Uncapped.start duration pool) ?_ hinputs
  rintro params n pool' counts epoch rfl hduration h
  exact h.advance hduration hcap counts epoch

/-- A year of mints keeps to the cap if and only if the cap has a unit for each epoch, or so
little is left that the schedule pays out no more. -/
theorem annual_cap_holds_iff (hpool : getEmissionPool st.store = .ok pool)
    (hinputs : (mintSystem bk authority).Along (MintsUnder cap duration) st inputs)
    (hyear : (mints bk authority st inputs).length = 365) :
    ∃ pool', getEmissionPool ((mintSystem bk authority).run st inputs).store = .ok pool' ∧
      (pool.contributorPoolRemainingUvibe.toNat ≤
          pool'.contributorPoolRemainingUvibe.toNat + cap.toNat ↔
        365 ≤ cap.toNat ∨ pool.contributorPoolRemainingUvibe.toNat ≤
          cap.toNat + (duration.toNat - pool.totalEpochsElapsed.toNat - 365)) := by
  by_cases hcap : 365 ≤ cap.toNat
  · obtain ⟨pool', hpool', hle⟩ := capped_run authority hpool hcap hinputs
    refine ⟨pool', hpool', iff_of_true ?_ (Or.inl hcap)⟩
    rw [hyear] at hle
    have hyearly := Nat.mul_div_le cap.toNat 365
    omega
  · obtain ⟨pool', hpool', huncapped⟩ := uncapped_run authority hpool (by omega) hinputs
    refine ⟨pool', hpool', ?_⟩
    have hslots : 0 < epochsLeft duration pool := lt_of_lt_of_le Nat.one_pos (Nat.le_max_left 1 _)
    have hleft : epochsLeft duration pool - 365 =
        duration.toNat - pool.totalEpochsElapsed.toNat - 365 := by
      unfold epochsLeft
      omega
    rw [huncapped.remaining, hyear, EvenSpread.le_left_add_iff _ _ hslots (by omega), hleft,
      or_iff_right hcap]

end Run

section Days
variable {β : Type} {bk : BankKeeper β} (authority : Bytes) {st : State β} {pool : EmissionPool}

/-- One mint for each of the `n` epochs after `last`, without approvals. -/
def dailyMints (last : UInt64) (n : Nat) : List Input :=
  (List.range n).map fun k => .mint (last + UInt64.ofNat (k + 1)) none

theorem dailyMints_succ (last : UInt64) (n : Nat) :
    dailyMints last (n + 1) = dailyMints last n ++ [.mint (last + UInt64.ofNat (n + 1)) none] := by
  rw [dailyMints, List.range_succ, List.map_append]
  rfl

/-- Every one of them succeeds, and none changes the parameters. -/
theorem dailyMints_run (hbank : bk.MintsAlways) (hpool : getEmissionPool st.store = .ok pool)
    (hvalid : pool.validate = .ok ()) {n : Nat} (hn : pool.epoch.toNat + n < 2 ^ 64) :
    ∃ pool', getEmissionPool ((mintSystem bk authority).run st (dailyMints pool.epoch n)).store =
        .ok pool' ∧ pool'.validate = .ok () ∧ pool'.epoch = pool.epoch + UInt64.ofNat n ∧
      getParams ((mintSystem bk authority).run st (dailyMints pool.epoch n)).store =
        getParams st.store ∧
      (mints bk authority st (dailyMints pool.epoch n)).length = n := by
  induction n with
  | zero => exact ⟨pool, hpool, hvalid, (UInt64.add_zero _).symm, rfl, rfl⟩
  | succ n ih =>
    obtain ⟨pool', hpool', hvalid', hepoch, hparams, hlength⟩ := ih (by omega)
    have hlater : pool'.epoch < pool.epoch + UInt64.ofNat (n + 1) := by
      rw [hepoch, UInt64.lt_iff_toNat_lt, Words.toNat_add_ofNat_of_lt (by omega),
        Words.toNat_add_ofNat_of_lt hn]
      omega
    rw [dailyMints_succ, Machine.run_append, mints, Machine.history_append, List.filterMap_append,
      List.length_append]
    rcases mintStep_cases authority hbank hpool' hvalid'
        (.mint (pool.epoch + UInt64.ofNat (n + 1)) none) with
      ⟨_, hrefused, _⟩ | ⟨epoch, approvals, bank', hinput, _, hnext, hout⟩
    · exact absurd hlater (hrefused _ _ rfl)
    · cases hinput
      rw [Machine.run_cons, Machine.run_nil, Machine.history_cons, Machine.history_nil, hnext, hout]
      refine ⟨_, getEmissionPool_minted _ _ _ _, hvalid', rfl, ?_, ?_⟩
      · rw [getParams_minted, hparams]
      · exact congrArg (· + 1) hlength

theorem dailyMints_along (hbank : bk.MintsAlways) (hpool : getEmissionPool st.store = .ok pool)
    (hvalid : pool.validate = .ok ()) {n : Nat} (hn : pool.epoch.toNat + n < 2 ^ 64) :
    (mintSystem bk authority).Along (MintsUnder (getParams st.store).contributorAnnualCapUvibe
      (getParams st.store).scheduleDurationDays) st (dailyMints pool.epoch n) := by
  induction n with
  | zero => trivial
  | succ n ih =>
    obtain ⟨pool', _, _, _, hparams, _⟩ :=
      dailyMints_run authority hbank hpool hvalid (show pool.epoch.toNat + n < 2 ^ 64 by omega)
    rw [dailyMints_succ, Machine.along_append]
    refine ⟨ih (by omega), ?_, trivial⟩
    rw [MintsUnder, hparams]
    exact ⟨rfl, rfl⟩

theorem annual_cap_holds_default :
    ∃ pool', getEmissionPool ((mintSystem Ledger.keeper [103]).run defaultState
        (dailyMints 0 365)).store = .ok pool' ∧
      320000000000000 ≤ pool'.contributorPoolRemainingUvibe.toNat + 10000000000000 := by
  have hpool : getEmissionPool defaultState.store = .ok defaultEmissionPool := rfl
  have hyear : (0 : UInt64).toNat + 365 < 2 ^ 64 := by decide
  obtain ⟨_, _, _, _, _, hlength⟩ := dailyMints_run [103] Ledger.keeper_mintsAlways hpool rfl hyear
  have hinputs := dailyMints_along [103] Ledger.keeper_mintsAlways hpool rfl hyear
  obtain ⟨pool', hpool', hiff⟩ := annual_cap_holds_iff [103] hpool hinputs hlength
  exact ⟨pool', hpool', hiff.mpr (Or.inl (by decide))⟩

def smallPool : EmissionPool := { defaultEmissionPool with contributorPoolRemainingUvibe := 10 }

/-- Ten units for contributors on the last day of the schedule, under a cap of one unit a year. -/
def smallCap : State Ledger where
  store := setParams (initGenesis {} { emissionPool := some smallPool })
    { defaultParams with scheduleDurationDays := 1, contributorAnnualCapUvibe := 1 }
  bank := {}

/-- The first of the mints hands out all ten. -/
theorem annual_cap_exceeded :
    (getParams smallCap.store).validate = .ok () ∧
    (mintSystem Ledger.keeper [103]).Along (MintsUnder 1 1) smallCap (dailyMints 0 365) ∧
    (mints Ledger.keeper [103] smallCap (dailyMints 0 365)).length = 365 ∧
    getEmissionPool smallCap.store = .ok smallPool ∧ smallPool.contributorPoolRemainingUvibe = 10 ∧
    (getEmissionPool ((mintSystem Ledger.keeper [103]).run smallCap (dailyMints 0 365)).store).map
      EmissionPool.contributorPoolRemainingUvibe = .ok 0 := by
  have hpool : getEmissionPool smallCap.store = .ok smallPool := rfl
  have hyear : (0 : UInt64).toNat + 365 < 2 ^ 64 := by decide
  obtain ⟨_, _, _, _, _, hlength⟩ := dailyMints_run [103] Ledger.keeper_mintsAlways hpool rfl hyear
  have hinputs := dailyMints_along [103] Ledger.keeper_mintsAlways hpool rfl hyear
  obtain ⟨pool', hpool', hend⟩ := uncapped_run [103] hpool (by decide) hinputs
  refine ⟨rfl, hinputs, hlength, hpool, rfl, ?_⟩
  have hzero := hend.remaining
  rw [hlength] at hzero
  exact (congrArg _ hpool').trans (congrArg Except.ok (UInt64.toNat.inj hzero))

end Days

end WeVibeChain.Emissions
