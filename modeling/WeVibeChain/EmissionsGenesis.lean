import WeVibeChain.EmissionsSolvency
import WeVibeChain.Shared.Tables

/-!
# x/emissions: genesis export and import

The pool, the daily records, the bootstrap credits, the gates and the expiry are
exported. The rewards of the contributors, pending and over their lifetime, and
the bootstrap pool are not, and the import sets the parameters to their defaults
whatever they were.

A run takes mints, by message and at the end of an epoch, claims, parameter
updates and every call on the bootstrap credits and the gates, with any changes
of the bank and the aliases in between.
-/

set_option autoImplicit false

namespace WeVibeChain.Emissions

open Bytes OrderedMap

section Runs
variable {β : Type}

inductive Call (β : Type) where
  | mintMsg (msg : MsgMintDailyEmission) (approvals : UInt64 → Option (OrderedMap Bytes UInt64))
  | mint (epoch : UInt64) (approvals : UInt64 → Option (OrderedMap Bytes UInt64))
  | claim (msg : MsgClaimContributorReward)
  | updateParams (msg : MsgUpdateParams)
  | setBootstrapCredits (credits : UInt64)
  | setBootstrapExpiry (expiry : UInt64)
  | addBootstrapCredit (operatorID : Bytes) (credits : UInt64)
  | redeemBootstrapCredit (operatorID : Bytes) (amount : UInt64)
  | setAsymmetricGate (gate : AsymmetricGate)
  | environment (bank : β) (identity : Identity.Store)

inductive Answer where
  | minted (result : Except Error DailyEmission)
  | claimed (result : Except Error Payment)
  | done (result : Except Error Unit)
  deriving DecidableEq

variable {γ : Type}

/-- A call that fails leaves the state as it is. -/
def settle (st : RewardState β) (answer : Except Error γ → Answer) :
    Except Error (State β × γ) → RewardState β × Answer
  | .error e => (st, answer (.error e))
  | .ok (emissions, result) => ({ st with emissions := emissions }, answer (.ok result))

/-- The same for a call that has the store only. -/
def attempt (st : RewardState β) (x : Except Error Store) : RewardState β × Answer :=
  settle st .done (x.map fun s => ({ st.emissions with store := s }, ()))

variable (bk : BankKeeper β) (authority : Bytes) (accAddressFromBech32 : Bytes → Option Bytes)

/-- A failed message is rolled back. A mint at the end of an epoch keeps what it wrote. -/
def perform (st : RewardState β) : Call β → RewardState β × Answer
  | .mintMsg msg approvals =>
    settle st .minted (mintDailyEmissionMsg bk authority approvals st.emissions msg)
  | .mint epoch approvals =>
    ({ st with emissions := (mintDailyEmission bk approvals st.emissions epoch).1 },
      .minted (mintDailyEmission bk approvals st.emissions epoch).2)
  | .claim msg =>
    settle st .claimed
      (claimContributorReward bk accAddressFromBech32 st.identity st.emissions msg)
  | .updateParams msg => attempt st (updateParams authority st.emissions.store msg)
  | .setBootstrapCredits credits => attempt st (.ok (setBootstrapCredits st.emissions.store credits))
  | .setBootstrapExpiry expiry => attempt st (.ok (setBootstrapExpiry st.emissions.store expiry))
  | .addBootstrapCredit operatorID credits =>
    attempt st (.ok (addBootstrapCredit st.emissions.store operatorID credits))
  | .redeemBootstrapCredit operatorID amount =>
    attempt st (redeemBootstrapCredit st.emissions.store operatorID amount)
  | .setAsymmetricGate gate => attempt st (.ok (setAsymmetricGate st.emissions.store gate))
  | .environment bank identity =>
    (⟨{ st.emissions with bank := bank }, identity⟩, .done (.ok ()))

def schedule : Machine (RewardState β) (Call β) Answer :=
  ⟨perform bk authority accAddressFromBech32⟩

end Runs

section Filed
variable {β : Type} {bk : BankKeeper β} {authority : Bytes}
variable {accAddressFromBech32 : Bytes → Option Bytes} {s s' : Store}

/-- A pool is stored, and every record is stored under the key that it names. -/
structure Filed (s : Store) : Prop where
  pool : ∃ pool, s.pool = some pool
  emissions : s.emission.Forall fun k e => emissionKey e.epoch = k
  credits : s.bootstrap.Forall fun k c => bootstrapKey c.operatorID = k
  gates : s.gate.Forall fun k a => gateKey a.operatorID a.orgID a.epoch = k

theorem filed_init (g : GenesisState) : Filed (moduleInitGenesis {} g) where
  pool := ⟨_, rfl⟩
  emissions := forall_empty.foldl_set fun _ _ => rfl
  credits := forall_empty.foldl_set fun _ _ => rfl
  gates := forall_empty.foldl_set fun _ _ => rfl

theorem Filed.credited (h : Filed s) (pool : EmissionPool) (counts : OrderedMap Bytes UInt64) :
    Filed (creditedStore s pool counts) := by
  have hbootstrap : (creditedStore s pool counts).bootstrap = s.bootstrap :=
    addContributorRewards_frame s _ fun _ _ _ => rfl
  have hgate : (creditedStore s pool counts).gate = s.gate :=
    addContributorRewards_frame s _ fun _ _ _ => rfl
  refine ⟨?_, ?_, ?_, ?_⟩
  · rw [creditedStore, addContributorRewards_pool]
    exact h.pool
  · rw [creditedStore, addContributorRewards_emission]
    exact h.emissions
  · rw [hbootstrap]
    exact h.credits
  · rw [hgate]
    exact h.gates

theorem Filed.recorded (h : Filed s) (pool : EmissionPool) (counts : OrderedMap Bytes UInt64)
    (epoch : UInt64) : Filed (recordedStore s pool counts epoch) := by
  have hcredited := h.credited pool counts
  exact ⟨hcredited.pool, hcredited.emissions.set rfl, hcredited.credits, hcredited.gates⟩

theorem Filed.mint {st : State β} (h : Filed st.store)
    (approvals : UInt64 → Option (OrderedMap Bytes UInt64)) (epoch : UInt64) :
    Filed (mintDailyEmission bk approvals st epoch).1.store := by
  have hend := mintDailyEmission_end bk approvals st epoch
  generalize mintDailyEmission bk approvals st epoch = result at hend ⊢
  cases hend with
  | noPool _ => exact h
  | notAfter _ _ _ => exact h
  | bankFailed pool _ _ _ => exact h.credited pool _
  | poolRefused pool _ _ _ _ _ => exact h.recorded pool _ epoch
  | minted pool _ _ _ _ _ =>
    have hrecorded := h.recorded pool ((approvals epoch).getD ∅) epoch
    exact ⟨⟨_, rfl⟩, hrecorded.emissions, hrecorded.credits, hrecorded.gates⟩

theorem Filed.settle {γ : Type} {st : RewardState β} (h : Filed st.emissions.store)
    {answer : Except Error γ → Answer} {x : Except Error (State β × γ)}
    (hx : ∀ emissions result, x = .ok (emissions, result) → Filed emissions.store) :
    Filed (settle st answer x).1.emissions.store := by
  cases x with
  | error e => exact h
  | ok outcome => exact hx outcome.1 outcome.2 rfl

theorem Filed.attempt {st : RewardState β} (h : Filed st.emissions.store) {x : Except Error Store}
    (hx : ∀ s, x = .ok s → Filed s) : Filed (attempt st x).1.emissions.store := by
  cases x with
  | error e => exact h
  | ok s => exact hx s rfl

/-- The record that is found under the key of an operator names the operator. -/
theorem Filed.getBootstrapCredit (h : Filed s) (operatorID : Bytes) :
    bootstrapKey (getBootstrapCredit s operatorID).operatorID = bootstrapKey operatorID := by
  unfold Emissions.getBootstrapCredit
  cases hget : s.bootstrap.get (bootstrapKey operatorID) with
  | none => rfl
  | some credit => exact h.credits _ credit hget

theorem redeem_operatorID {b b' : BootstrapCredit} {amount : UInt64} (h : b.redeem amount = .ok b') :
    b'.operatorID = b.operatorID := by
  unfold BootstrapCredit.redeem at h
  split at h
  · cases h
  · obtain rfl := Except.ok.inj h
    rfl

theorem Filed.redeem (h : Filed s) {operatorID : Bytes} {amount : UInt64}
    (hredeem : redeemBootstrapCredit s operatorID amount = .ok s') : Filed s' := by
  unfold redeemBootstrapCredit at hredeem
  split at hredeem
  · cases hredeem
  split at hredeem
  · cases hredeem
  rename_i credit hcredit
  obtain rfl := Except.ok.inj hredeem
  refine ⟨h.pool, h.emissions, h.credits.set ?_, h.gates⟩
  rw [redeem_operatorID hcredit]
  exact h.getBootstrapCredit operatorID

theorem Filed.addCredit (h : Filed s) (operatorID : Bytes) (credits : UInt64) :
    Filed (addBootstrapCredit s operatorID credits) := by
  refine ⟨h.pool, h.emissions, h.credits.set ?_, h.gates⟩
  split
  · rfl
  · rename_i existing hget
    exact h.credits _ existing hget

theorem Filed.next {st : RewardState β} (h : Filed st.emissions.store) (call : Call β) :
    Filed ((schedule bk authority accAddressFromBech32).next st call).emissions.store := by
  change Filed (perform bk authority accAddressFromBech32 st call).1.emissions.store
  cases call with
  | mintMsg msg approvals =>
    refine h.settle fun emissions emission hmint => ?_
    rcases mintDailyEmissionMsg_cases bk authority msg with ⟨e, hrefused⟩ | hmints
    · rw [hrefused] at hmint
      cases hmint
    · rw [hmints] at hmint
      obtain ⟨minted, -, hpair⟩ := Except.map_eq_ok hmint
      obtain ⟨rfl, -⟩ := Prod.mk.inj hpair
      exact h.mint approvals msg.epoch
  | mint epoch approvals => exact h.mint approvals epoch
  | claim msg =>
    refine h.settle fun emissions paid hclaim => ?_
    obtain ⟨recipient, bank, -, -, -, rfl, -⟩ :=
      claimContributorReward_ok bk accAddressFromBech32 hclaim
    exact ⟨h.pool, h.emissions, h.credits, h.gates⟩
  | updateParams msg =>
    refine h.attempt fun s' hs' => ?_
    rw [updateParams_ok authority hs']
    exact ⟨h.pool, h.emissions, h.credits, h.gates⟩
  | setBootstrapCredits credits => exact ⟨h.pool, h.emissions, h.credits, h.gates⟩
  | setBootstrapExpiry expiry => exact ⟨h.pool, h.emissions, h.credits, h.gates⟩
  | addBootstrapCredit operatorID credits => exact h.addCredit operatorID credits
  | redeemBootstrapCredit operatorID amount => exact h.attempt fun s' hs' => h.redeem hs'
  | setAsymmetricGate gate => exact ⟨h.pool, h.emissions, h.credits, h.gates.set rfl⟩
  | environment bank identity => exact h

theorem filed_run (g : GenesisState) (bank : β) (identity : Identity.Store)
    (calls : List (Call β)) :
    Filed ((schedule bk authority accAddressFromBech32).run
      ⟨⟨moduleInitGenesis {} g, bank⟩, identity⟩ calls).emissions.store :=
  (schedule bk authority accAddressFromBech32).run_always
    (I := fun st => Filed st.emissions.store) (fun _ call h => h.next call) (filed_init g) calls

end Filed

section RoundTrip
variable {s s' : Store}

/-- The export imported into an empty store. -/
def roundTrip (s : Store) : Store := moduleInitGenesis {} (exportGenesis s)

/-- What the import has to give back. -/
structure Restored (s s' : Store) : Prop where
  pool : s'.pool = s.pool
  emissions : s'.emission = s.emission
  rewards : ∀ addr, getContributorReward s' addr = getContributorReward s addr
  lifetimeRewards : ∀ addr,
    getLifetimeContributorReward s' addr = getLifetimeContributorReward s addr
  bootstrapCredits : s'.bootstrap = s.bootstrap
  bootstrapPool : getBootstrapCredits s' = getBootstrapCredits s
  bootstrapExpiry : getBootstrapExpiry s' = getBootstrapExpiry s
  gates : s'.gate = s.gate
  params : getParams s' = getParams s

/-- Nothing is stored that the genesis has no room for. -/
structure Exportable (s : Store) : Prop where
  rewards : ∀ addr, getContributorReward s addr = 0
  lifetimeRewards : ∀ addr, getLifetimeContributorReward s addr = 0
  bootstrapPool : s.bootstrapPool = none
  params : getParams s = defaultParams

theorem getBootstrapExpiry_roundTrip (s : Store) :
    getBootstrapExpiry (roundTrip s) = getBootstrapExpiry s := by
  change Option.getD (if getBootstrapExpiry s > 0 then some (getBootstrapExpiry s) else none) 0 =
    getBootstrapExpiry s
  split
  · rfl
  · rename_i hzero
    exact (UInt64.le_zero_iff.mp (UInt64.not_lt.mp hzero)).symm

theorem bootstrapPool_eq_none_iff :
    s.bootstrapPool = none ↔ getBootstrapCredits s = .error .noBootstrapPool := by
  unfold getBootstrapCredits
  cases s.bootstrapPool with
  | none => exact ⟨fun _ => rfl, fun _ => rfl⟩
  | some credits => exact ⟨fun h => (by cases h), fun h => (by cases h)⟩

theorem getContributorReward_roundTrip (s : Store) (addr : Bytes) :
    getContributorReward (roundTrip s) addr = 0 := rfl

theorem getLifetimeContributorReward_roundTrip (s : Store) (addr : Bytes) :
    getLifetimeContributorReward (roundTrip s) addr = 0 := rfl

theorem getBootstrapCredits_roundTrip (s : Store) :
    getBootstrapCredits (roundTrip s) = .error .noBootstrapPool := rfl

theorem getParams_roundTrip (s : Store) : getParams (roundTrip s) = defaultParams := rfl

theorem pool_roundTrip (hs : Filed s) : (roundTrip s).pool = s.pool := by
  obtain ⟨pool, hpool⟩ := hs.pool
  have hexported : (exportGenesis s).emissionPool = some (storedToEmissionPool pool) := by
    rw [exportGenesis, hpool]
  change ((exportGenesis s).emissionPool.map emissionPoolToStored) = s.pool
  rw [hexported, Option.map_some, emissionPoolToStored_ofStored, hpool]

theorem emission_roundTrip (hs : Filed s) : (roundTrip s).emission = s.emission := by
  have hkeyed : s.emission.Forall fun k stored =>
      emissionKey (storedToDailyEmission stored).epoch = k := hs.emissions
  exact (load_dump_eq_iff (fun e : DailyEmission => emissionKey e.epoch) storedToDailyEmission
    dailyEmissionToStored hkeyed).mpr fun _ _ _ => rfl

theorem restored_iff (hs : Filed s) : Restored s (roundTrip s) ↔ Exportable s := by
  constructor
  · intro h
    refine ⟨fun addr => ?_, fun addr => ?_, ?_, ?_⟩
    · rw [← h.rewards, getContributorReward_roundTrip]
    · rw [← h.lifetimeRewards, getLifetimeContributorReward_roundTrip]
    · rw [bootstrapPool_eq_none_iff, ← h.bootstrapPool, getBootstrapCredits_roundTrip]
    · rw [← h.params, getParams_roundTrip]
  · intro h
    refine ⟨pool_roundTrip hs, emission_roundTrip hs, fun addr => ?_, fun addr => ?_,
      load_values hs.credits, ?_, getBootstrapExpiry_roundTrip s, load_values hs.gates, ?_⟩
    · rw [h.rewards, getContributorReward_roundTrip]
    · rw [h.lifetimeRewards, getLifetimeContributorReward_roundTrip]
    · rw [bootstrapPool_eq_none_iff.mp h.bootstrapPool, getBootstrapCredits_roundTrip]
    · rw [h.params, getParams_roundTrip]

end RoundTrip

section Later
variable {β : Type} {bk : BankKeeper β} {authority : Bytes}
variable {accAddressFromBech32 : Bytes → Option Bytes} {s s' : Store}

theorem Restored.addReward (h : Restored s s') (addr : Bytes) (amount : UInt64) :
    Restored (addContributorReward s addr amount) (addContributorReward s' addr amount) := by
  refine ⟨h.pool, h.emissions, fun addr' => ?_, fun addr' => ?_, h.bootstrapCredits,
    h.bootstrapPool, h.bootstrapExpiry, h.gates, h.params⟩
  · rw [getContributorReward_add, getContributorReward_add, h.rewards, h.rewards]
  · rw [getLifetimeContributorReward_add, getLifetimeContributorReward_add, h.lifetimeRewards,
      h.lifetimeRewards]

theorem Restored.addRewards (h : Restored s s') (credits : List (Bytes × UInt64)) :
    Restored (addContributorRewards s credits) (addContributorRewards s' credits) := by
  induction credits generalizing s s' with
  | nil => exact h
  | cons c credits ih => exact ih (h.addReward c.1 c.2)

theorem Restored.credited (h : Restored s s') (pool : EmissionPool)
    (counts : OrderedMap Bytes UInt64) :
    Restored (creditedStore s pool counts) (creditedStore s' pool counts) := by
  unfold creditedStore
  rw [h.params]
  exact h.addRewards _

theorem Restored.recorded (h : Restored s s') (pool : EmissionPool)
    (counts : OrderedMap Bytes UInt64) (epoch : UInt64) :
    Restored (recordedStore s pool counts epoch) (recordedStore s' pool counts epoch) := by
  have hcredited := h.credited pool counts
  refine ⟨hcredited.pool, ?_, hcredited.rewards, hcredited.lifetimeRewards,
    hcredited.bootstrapCredits, hcredited.bootstrapPool, hcredited.bootstrapExpiry,
    hcredited.gates, hcredited.params⟩
  unfold recordedStore
  rw [h.params, hcredited.emissions]

theorem Restored.withPool (h : Restored s s') (pool : Option StoredEmissionPool) :
    Restored { s with pool := pool } { s' with pool := pool } :=
  ⟨rfl, h.emissions, h.rewards, h.lifetimeRewards, h.bootstrapCredits, h.bootstrapPool,
    h.bootstrapExpiry, h.gates, h.params⟩

/-- What a call gives on the two stores. -/
structure SameOutcome {γ : Type} (x x' : State β × γ) : Prop where
  store : Restored x.1.store x'.1.store
  bank : x'.1.bank = x.1.bank
  result : x'.2 = x.2

theorem Restored.mint (h : Restored s s') (approvals : UInt64 → Option (OrderedMap Bytes UInt64))
    (bank : β) (epoch : UInt64) :
    SameOutcome (mintDailyEmission bk approvals ⟨s, bank⟩ epoch)
      (mintDailyEmission bk approvals ⟨s', bank⟩ epoch) := by
  have hpool : getEmissionPool s' = getEmissionPool s := by
    unfold getEmissionPool
    rw [h.pool]
  unfold mintDailyEmission
  dsimp only
  rw [hpool, h.params]
  cases getEmissionPool s with
  | error e => exact ⟨h, rfl, rfl⟩
  | ok pool =>
    dsimp only
    split
    · exact ⟨h, rfl, rfl⟩
    split
    · exact ⟨h.credited pool _, rfl, rfl⟩
    · unfold setEmissionPool
      rw [advancePool_validate]
      cases pool.validate with
      | error e => exact ⟨h.recorded pool _ epoch, rfl, rfl⟩
      | ok u => exact ⟨(h.recorded pool _ epoch).withPool _, rfl, rfl⟩

/-- Both calls are refused for the same reason, or both are accepted. -/
inductive Matched {α : Type} (Rel : α → α → Prop) : Except Error α → Except Error α → Prop where
  | refused (e : Error) : Matched Rel (.error e) (.error e)
  | accepted {a a' : α} (h : Rel a a') : Matched Rel (.ok a) (.ok a')

theorem Restored.setParams (h : Restored s s') (msg : MsgUpdateParams) :
    Matched Restored (updateParams authority s msg) (updateParams authority s' msg) := by
  unfold updateParams
  split
  · exact .refused _
  split
  · exact .refused _
  · exact .accepted ⟨h.pool, h.emissions, h.rewards, h.lifetimeRewards, h.bootstrapCredits,
      h.bootstrapPool, h.bootstrapExpiry, h.gates, rfl⟩

theorem Restored.redeem (h : Restored s s') (operatorID : Bytes) (amount : UInt64) :
    Matched Restored (redeemBootstrapCredit s operatorID amount)
      (redeemBootstrapCredit s' operatorID amount) := by
  unfold redeemBootstrapCredit getBootstrapCredit
  rw [h.bootstrapExpiry, h.bootstrapCredits, h.bootstrapPool]
  split
  · exact .refused _
  split
  · exact .refused _
  · exact .accepted ⟨h.pool, h.emissions, h.rewards, h.lifetimeRewards, rfl, rfl,
      h.bootstrapExpiry, h.gates, h.params⟩

theorem Restored.addCredit (h : Restored s s') (operatorID : Bytes) (credits : UInt64) :
    Restored (addBootstrapCredit s operatorID credits)
      (addBootstrapCredit s' operatorID credits) := by
  refine ⟨h.pool, h.emissions, h.rewards, h.lifetimeRewards, ?_, h.bootstrapPool,
    h.bootstrapExpiry, h.gates, h.params⟩
  unfold addBootstrapCredit
  rw [h.bootstrapCredits]

theorem Restored.setGate (h : Restored s s') (gate : AsymmetricGate) :
    Restored (setAsymmetricGate s gate) (setAsymmetricGate s' gate) := by
  refine ⟨h.pool, h.emissions, h.rewards, h.lifetimeRewards, h.bootstrapCredits,
    h.bootstrapPool, h.bootstrapExpiry, ?_, h.params⟩
  unfold setAsymmetricGate
  rw [h.gates]

theorem Restored.clearReward (h : Restored s s') (addr : Bytes) :
    Restored (setContributorReward s addr 0) (setContributorReward s' addr 0) := by
  refine ⟨h.pool, h.emissions, fun addr' => ?_, h.lifetimeRewards, h.bootstrapCredits,
    h.bootstrapPool, h.bootstrapExpiry, h.gates, h.params⟩
  rw [getContributorReward_set, getContributorReward_set, h.rewards]

theorem Restored.mintMsg (h : Restored s s')
    (approvals : UInt64 → Option (OrderedMap Bytes UInt64)) (bank : β)
    (msg : MsgMintDailyEmission) :
    Matched SameOutcome (mintDailyEmissionMsg bk authority approvals ⟨s, bank⟩ msg)
      (mintDailyEmissionMsg bk authority approvals ⟨s', bank⟩ msg) := by
  rcases mintDailyEmissionMsg_cases bk authority msg with ⟨e, hrefused⟩ | hmints
  · rw [hrefused, hrefused]
    exact .refused e
  · have hmint : SameOutcome (mintDailyEmission bk approvals ⟨s, bank⟩ msg.epoch)
        (mintDailyEmission bk approvals ⟨s', bank⟩ msg.epoch) := h.mint approvals bank msg.epoch
    rw [hmints, hmints, hmint.result]
    cases (mintDailyEmission bk approvals ⟨s, bank⟩ msg.epoch).2 with
    | error e => exact .refused e
    | ok emission => exact .accepted ⟨hmint.store, hmint.bank, rfl⟩

theorem Restored.claim (h : Restored s s') (identity : Identity.Store) (bank : β)
    (msg : MsgClaimContributorReward) :
    Matched SameOutcome
      (claimContributorReward bk accAddressFromBech32 identity ⟨s, bank⟩ msg)
      (claimContributorReward bk accAddressFromBech32 identity ⟨s', bank⟩ msg) := by
  unfold claimContributorReward
  dsimp only
  rw [h.rewards]
  split
  · exact .refused _
  split
  · exact .refused _
  split
  · exact .refused _
  split
  · exact .refused _
  split
  · exact .refused _
  split
  · exact .refused _
  split
  · exact .refused _
  · exact .accepted ⟨h.clearReward msg.passkeyPubkey, rfl, rfl⟩

structure SameStates (st st' : RewardState β) : Prop where
  store : Restored st.emissions.store st'.emissions.store
  bank : st'.emissions.bank = st.emissions.bank
  identity : st'.identity = st.identity

theorem SameStates.settle {γ : Type} {st st' : RewardState β} (h : SameStates st st')
    {answer : Except Error γ → Answer} {x x' : Except Error (State β × γ)}
    (hx : Matched SameOutcome x x') :
    SameStates (settle st answer x).1 (settle st' answer x').1 ∧
      (settle st' answer x').2 = (settle st answer x).2 := by
  cases hx with
  | refused e => exact ⟨h, rfl⟩
  | accepted houtcome =>
    exact ⟨⟨houtcome.store, houtcome.bank, h.identity⟩,
      congrArg (fun result => answer (.ok result)) houtcome.result⟩

theorem SameStates.attempt {st st' : RewardState β} (h : SameStates st st')
    {x x' : Except Error Store} (hx : Matched Restored x x') :
    SameStates (attempt st x).1 (attempt st' x').1 ∧ (attempt st' x').2 = (attempt st x).2 := by
  cases hx with
  | refused e => exact ⟨h, rfl⟩
  | accepted hstore => exact ⟨⟨hstore, h.bank, h.identity⟩, rfl⟩

theorem SameStates.next {st st' : RewardState β} (h : SameStates st st') (call : Call β) :
    SameStates ((schedule bk authority accAddressFromBech32).next st call)
        ((schedule bk authority accAddressFromBech32).next st' call) ∧
      (schedule bk authority accAddressFromBech32).output st' call =
        (schedule bk authority accAddressFromBech32).output st call := by
  obtain ⟨⟨s, bank⟩, identity⟩ := st
  obtain ⟨⟨s', bank'⟩, identity'⟩ := st'
  have hs : Restored s s' := h.store
  obtain rfl : bank' = bank := h.bank
  obtain rfl : identity' = identity := h.identity
  cases call with
  | mintMsg msg approvals => exact h.settle (hs.mintMsg approvals _ msg)
  | mint epoch approvals =>
    have hmint : SameOutcome (mintDailyEmission bk approvals ⟨s, bank'⟩ epoch)
        (mintDailyEmission bk approvals ⟨s', bank'⟩ epoch) := hs.mint approvals bank' epoch
    exact ⟨⟨hmint.store, hmint.bank, rfl⟩, congrArg Answer.minted hmint.result⟩
  | claim msg => exact h.settle (hs.claim _ _ msg)
  | updateParams msg => exact h.attempt (hs.setParams msg)
  | setBootstrapCredits credits =>
    exact h.attempt (.accepted ⟨hs.pool, hs.emissions, hs.rewards, hs.lifetimeRewards,
      hs.bootstrapCredits, rfl, hs.bootstrapExpiry, hs.gates, hs.params⟩)
  | setBootstrapExpiry expiry =>
    exact h.attempt (.accepted ⟨hs.pool, hs.emissions, hs.rewards, hs.lifetimeRewards,
      hs.bootstrapCredits, hs.bootstrapPool, rfl, hs.gates, hs.params⟩)
  | addBootstrapCredit operatorID credits =>
    exact h.attempt (.accepted (hs.addCredit operatorID credits))
  | redeemBootstrapCredit operatorID amount => exact h.attempt (hs.redeem operatorID amount)
  | setAsymmetricGate gate => exact h.attempt (.accepted (hs.setGate gate))
  | environment bank identity => exact ⟨⟨hs, rfl, rfl⟩, rfl⟩

end Later

section Runs
variable {β : Type} (bk : BankKeeper β) (authority : Bytes)
variable (accAddressFromBech32 : Bytes → Option Bytes)

/-- With the imported store in the place of the original one every later mint, claim and other
call has the same answer, and leaves the same store and the same bank. -/
def SameLater (st : RewardState β) (s' : Store) : Prop :=
  ∀ later : List (Call β),
    (schedule bk authority accAddressFromBech32).history
          { st with emissions := { st.emissions with store := s' } } later =
        (schedule bk authority accAddressFromBech32).history st later ∧
      SameStates ((schedule bk authority accAddressFromBech32).run st later)
        ((schedule bk authority accAddressFromBech32).run
          { st with emissions := { st.emissions with store := s' } } later)

theorem sameLater_of_restored {st : RewardState β} {s' : Store}
    (h : Restored st.emissions.store s') :
    SameLater bk authority accAddressFromBech32 st s' := by
  intro later
  have hstates : SameStates st { st with emissions := { st.emissions with store := s' } } :=
    ⟨h, rfl, rfl⟩
  obtain ⟨hrun, hhistory⟩ := (schedule bk authority accAddressFromBech32).history_eq_of_related
    (fun _ _ call h => h.next call) hstates later
  exact ⟨hhistory, hrun⟩

theorem emissions_restored_iff (g : GenesisState) (bank : β) (identity : Identity.Store)
    (calls : List (Call β)) :
    (Restored
          ((schedule bk authority accAddressFromBech32).run
            ⟨⟨moduleInitGenesis {} g, bank⟩, identity⟩ calls).emissions.store
          (roundTrip ((schedule bk authority accAddressFromBech32).run
            ⟨⟨moduleInitGenesis {} g, bank⟩, identity⟩ calls).emissions.store) ∧
        SameLater bk authority accAddressFromBech32
          ((schedule bk authority accAddressFromBech32).run
            ⟨⟨moduleInitGenesis {} g, bank⟩, identity⟩ calls)
          (roundTrip ((schedule bk authority accAddressFromBech32).run
            ⟨⟨moduleInitGenesis {} g, bank⟩, identity⟩ calls).emissions.store)) ↔
      Exportable ((schedule bk authority accAddressFromBech32).run
        ⟨⟨moduleInitGenesis {} g, bank⟩, identity⟩ calls).emissions.store := by
  rw [← restored_iff (filed_run g bank identity calls)]
  constructor
  · rintro ⟨hrestored, -⟩
    exact hrestored
  · intro hrestored
    exact ⟨hrestored, sameLater_of_restored bk authority accAddressFromBech32 hrestored⟩

end Runs

section Sample

/-- One contributor is credited by a mint. -/
def sampleMinted : RewardState Ledger :=
  (schedule Ledger.keeper [] sampleDecode).run
    ⟨⟨moduleInitGenesis {} defaultGenesis, {}⟩, sampleState.identity⟩
    [.mint 1 fun _ => some ((∅ : OrderedMap Bytes UInt64).set samplePasskey 1)]

def sampleImported : RewardState Ledger :=
  { sampleMinted with
    emissions := { sampleMinted.emissions with store := roundTrip sampleMinted.emissions.store } }

/-- After the round trip the pool is the one after the mint, and the contributor has nothing to
claim. -/
theorem sampleMinted_not_restored :
    getContributorReward sampleMinted.emissions.store samplePasskey = 27397260273 ∧
      sampleImported.emissions.store.pool = sampleMinted.emissions.store.pool ∧
      getContributorReward sampleImported.emissions.store samplePasskey = 0 ∧
      (schedule Ledger.keeper [] sampleDecode).history sampleMinted
          [.claim ⟨sampleWallet, samplePasskey⟩] =
        [.claimed (.ok ⟨samplePasskey, sampleAddress, 27397260273⟩)] ∧
      (schedule Ledger.keeper [] sampleDecode).history sampleImported
          [.claim ⟨sampleWallet, samplePasskey⟩] =
        [.claimed (.error .nothingToClaim)] ∧
      ¬ Restored sampleMinted.emissions.store (roundTrip sampleMinted.emissions.store) := by
  have hbefore : getContributorReward sampleMinted.emissions.store samplePasskey = 27397260273 := by
    decide +kernel
  have hafter : getContributorReward sampleImported.emissions.store samplePasskey = 0 := by
    decide +kernel
  refine ⟨hbefore, by decide +kernel, hafter, by decide +kernel, by decide +kernel, ?_⟩
  intro h
  have hreward := h.rewards samplePasskey
  rw [hbefore] at hreward
  exact absurd (hreward.symm.trans hafter) (by decide)

end Sample

end WeVibeChain.Emissions
