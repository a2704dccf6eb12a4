import WeVibeChain.EmissionsTypes
import WeVibeChain.BankKeeper

/-!
# x/emissions: the daily mint, the bootstrap credits and genesis

`mintDailyEmission` reads the pool, decides every amount from the pool, the
parameters and the approval counts, and then writes in the source's order:
contributor rewards, coins, daily record, pool. A failure returns the state as
it is at that point, because the epoch hook drops the error and keeps the writes.

The three scans of the export end where their prefix does, so each meets the
records of one kind only.
-/

set_option autoImplicit false

namespace WeVibeChain.Emissions

open Bytes

section Accessors

def setParams (s : Store) (params : Params) : Store := { s with params := some params }

def getParams (s : Store) : Params := s.params.getD defaultParams

def getEmissionPool (s : Store) : Except Error EmissionPool :=
  match s.pool with
  | none => .error .noEmissionPool
  | some stored => .ok (storedToEmissionPool stored)

def setEmissionPool (s : Store) (pool : EmissionPool) : Except Error Store :=
  match pool.validate with
  | .error e => .error e
  | .ok () => .ok { s with pool := some (emissionPoolToStored pool) }

def getDailyEmission (s : Store) (epoch : UInt64) : Except Error DailyEmission :=
  match s.emission.get (emissionKey epoch) with
  | none => .error .dailyEmissionNotFound
  | some stored => .ok (storedToDailyEmission stored)

def getContributorReward (s : Store) (addr : Bytes) : UInt64 :=
  (s.contribReward.get (contribRewardKey addr)).getD 0

def getLifetimeContributorReward (s : Store) (addr : Bytes) : UInt64 :=
  (s.lifetimeReward.get (lifetimeRewardKey addr)).getD 0

def setContributorReward (s : Store) (addr : Bytes) (amount : UInt64) : Store :=
  { s with contribReward := s.contribReward.set (contribRewardKey addr) amount }

def addContributorReward (s : Store) (addr : Bytes) (amount : UInt64) : Store :=
  { s with
    contribReward := s.contribReward.set (contribRewardKey addr)
      (getContributorReward s addr + amount)
    lifetimeReward := s.lifetimeReward.set (lifetimeRewardKey addr)
      (getLifetimeContributorReward s addr + amount) }

def addContributorRewards (s : Store) (credits : List (Bytes × UInt64)) : Store :=
  credits.foldl (fun s c => addContributorReward s c.1 c.2) s

end Accessors

section Amounts
variable (params : Params) (pool : EmissionPool)

def remainingEpochs : UInt64 :=
  if params.scheduleDurationDays > pool.totalEpochsElapsed then
    params.scheduleDurationDays - pool.totalEpochsElapsed
  else 1

def validatorEmission : UInt64 :=
  if pool.validatorPoolRemainingUvibe > 0 then
    let emission := pool.validatorPoolRemainingUvibe / remainingEpochs params pool
    if emission > pool.validatorPoolRemainingUvibe then pool.validatorPoolRemainingUvibe
    else emission
  else 0

def contributorBudget : UInt64 :=
  if pool.contributorPoolRemainingUvibe > 0 then
    let share := pool.contributorPoolRemainingUvibe / remainingEpochs params pool
    let epochCap := params.contributorAnnualCapUvibe / epochsPerYear
    let budget := if epochCap > 0 ∧ share > epochCap then epochCap else share
    if budget > pool.contributorPoolRemainingUvibe then pool.contributorPoolRemainingUvibe
    else budget
  else 0

/-- The addresses that share the budget. The map is in key order already, which is the order
`sort.Strings` puts them in. -/
def qualifying (counts : OrderedMap Bytes UInt64) : List Bytes :=
  (counts.entries.filter fun e =>
    e.1 ≠ [] ∧ e.2 ≥ params.contributorQualifyThreshold).map Prod.fst

variable (counts : OrderedMap Bytes UInt64)

def contributorTotal : UInt64 := contributorBudget params pool + pool.contributorRolloverUvibe

/-- The length of a slice is far below `2^64`, so the division by it is done over `Nat`. -/
def perContributor : UInt64 :=
  UInt64.ofNat ((contributorTotal params pool).toNat / (qualifying params counts).length)

def contributorRemainder : UInt64 :=
  UInt64.ofNat ((contributorTotal params pool).toNat % (qualifying params counts).length)

/-- The calls of `AddContributorReward`, in order. -/
def contributorCredits : List (Bytes × UInt64) :=
  if perContributor params pool counts > 0 then
    (qualifying params counts).map fun addr => (addr, perContributor params pool counts)
  else []

def distributedToContributors : UInt64 :=
  if (qualifying params counts).length = 0 then 0
  else UInt64.ofNat
    ((perContributor params pool counts).toNat * (qualifying params counts).length)

def contributorRollover : UInt64 :=
  if (qualifying params counts).length = 0 then
    pool.contributorRolloverUvibe + contributorBudget params pool
  else contributorRemainder params pool counts

def totalEmitted : UInt64 :=
  validatorEmission params pool + distributedToContributors params pool counts

/-- The pool as it is written back. -/
def advancePool (epoch : UInt64) : EmissionPool :=
  { pool with
    totalSupply := pool.totalSupply + totalEmitted params pool counts
    epoch := epoch
    validatorPoolRemainingUvibe :=
      pool.validatorPoolRemainingUvibe - validatorEmission params pool
    contributorPoolRemainingUvibe :=
      pool.contributorPoolRemainingUvibe - contributorBudget params pool
    contributorRolloverUvibe := contributorRollover params pool counts
    startEpoch :=
      if pool.startEpoch = 0 ∧ pool.totalEpochsElapsed = 0 then epoch else pool.startEpoch
    totalEpochsElapsed := pool.totalEpochsElapsed + 1 }

def emissionOf (epoch : UInt64) : DailyEmission :=
  ⟨epoch, totalEmitted params pool counts, validatorEmission params pool⟩

end Amounts

section Mint
variable {β : Type}

structure State (β : Type) where
  store : Store
  bank : β
  deriving DecidableEq

/-- The lump sum for all contributors is minted at once, and not at all when it is zero. -/
def mintDistributed (bk : BankKeeper β) (bank : β) (distributed : UInt64) : Option β :=
  if distributed > 0 then bk.mintCoins bank emissionsModuleName (uvibeCoin distributed) else some bank

section Writes
variable (s : Store) (pool : EmissionPool) (counts : OrderedMap Bytes UInt64) (epoch : UInt64)

/-- The store after the reward loop. -/
def creditedStore : Store := addContributorRewards s (contributorCredits (getParams s) pool counts)

/-- The store after the daily record is written. -/
def recordedStore : Store :=
  { creditedStore s pool counts with
    emission := (creditedStore s pool counts).emission.set (emissionKey epoch)
      (dailyEmissionToStored (emissionOf (getParams s) pool counts epoch)) }

/-- The store after the pool is written: the whole mint. -/
def mintedStore : Store :=
  { recordedStore s pool counts epoch with
    pool := some (emissionPoolToStored (advancePool (getParams s) pool counts epoch)) }

end Writes

/-- `approvals` is the memory keeper's `GetContributorsWithApprovalsInEpoch`; a failed query
counts as no approvals. -/
def mintDailyEmission (bk : BankKeeper β)
    (approvals : UInt64 → Option (OrderedMap Bytes UInt64)) (st : State β) (epoch : UInt64) :
    State β × Except Error DailyEmission :=
  match getEmissionPool st.store with
  | .error _ => (st, .error .noEmissionPool)
  | .ok pool =>
    if epoch ≤ pool.epoch then (st, .error .epochNotAfterLastEmission)
    else
      let params := getParams st.store
      let counts := (approvals epoch).getD ∅
      match mintDistributed bk st.bank (distributedToContributors params pool counts) with
      | none => ({ st with store := creditedStore st.store pool counts }, .error .bankFailure)
      | some bank =>
        let recorded := recordedStore st.store pool counts epoch
        match setEmissionPool recorded (advancePool params pool counts epoch) with
        | .error e => (⟨recorded, bank⟩, .error e)
        | .ok written => (⟨written, bank⟩, .ok (emissionOf params pool counts epoch))

/-- The ways one call of the mint can end, with the state each leaves. -/
inductive MintEnd (bk : BankKeeper β) (counts : OrderedMap Bytes UInt64) (st : State β)
    (epoch : UInt64) : State β × Except Error DailyEmission → Prop where
  | noPool (hpool : getEmissionPool st.store = .error .noEmissionPool) :
      MintEnd bk counts st epoch (st, .error .noEmissionPool)
  | notAfter (pool : EmissionPool) (hpool : getEmissionPool st.store = .ok pool)
      (hepoch : epoch ≤ pool.epoch) :
      MintEnd bk counts st epoch (st, .error .epochNotAfterLastEmission)
  | bankFailed (pool : EmissionPool) (hpool : getEmissionPool st.store = .ok pool)
      (hepoch : pool.epoch < epoch)
      (hbank : mintDistributed bk st.bank
        (distributedToContributors (getParams st.store) pool counts) = none) :
      MintEnd bk counts st epoch
        ({ st with store := creditedStore st.store pool counts }, .error .bankFailure)
  | poolRefused (pool : EmissionPool) (bank : β) (hpool : getEmissionPool st.store = .ok pool)
      (hepoch : pool.epoch < epoch)
      (hbank : mintDistributed bk st.bank
        (distributedToContributors (getParams st.store) pool counts) = some bank)
      (hvalid : pool.validate = .error .invalidEmissionPool) :
      MintEnd bk counts st epoch
        (⟨recordedStore st.store pool counts epoch, bank⟩, .error .invalidEmissionPool)
  | minted (pool : EmissionPool) (bank : β) (hpool : getEmissionPool st.store = .ok pool)
      (hepoch : pool.epoch < epoch)
      (hbank : mintDistributed bk st.bank
        (distributedToContributors (getParams st.store) pool counts) = some bank)
      (hvalid : pool.validate = .ok ()) :
      MintEnd bk counts st epoch
        (⟨mintedStore st.store pool counts epoch, bank⟩,
          .ok (emissionOf (getParams st.store) pool counts epoch))

theorem getEmissionPool_error {s : Store} {e : Error} (h : getEmissionPool s = .error e) :
    e = .noEmissionPool := by
  unfold getEmissionPool at h
  split at h
  · exact (Except.error.inj h).symm
  · cases h

theorem validate_error {pool : EmissionPool} {e : Error} (h : pool.validate = .error e) :
    e = .invalidEmissionPool := by
  unfold EmissionPool.validate at h
  split at h
  · exact (Except.error.inj h).symm
  · cases h

@[simp] theorem advancePool_validate (params : Params) (pool : EmissionPool)
    (counts : OrderedMap Bytes UInt64) (epoch : UInt64) :
    (advancePool params pool counts epoch).validate = pool.validate := rfl

theorem mintDailyEmission_end (bk : BankKeeper β)
    (approvals : UInt64 → Option (OrderedMap Bytes UInt64)) (st : State β) (epoch : UInt64) :
    MintEnd bk ((approvals epoch).getD ∅) st epoch (mintDailyEmission bk approvals st epoch) := by
  unfold mintDailyEmission
  cases hpool : getEmissionPool st.store with
  | error e =>
    obtain rfl := getEmissionPool_error hpool
    exact .noPool hpool
  | ok pool =>
    by_cases hepoch : epoch ≤ pool.epoch
    · simp only [if_pos hepoch]
      exact .notAfter pool hpool hepoch
    · simp only [if_neg hepoch]
      have hlt : pool.epoch < epoch := UInt64.not_le.mp hepoch
      cases hbank : mintDistributed bk st.bank
          (distributedToContributors (getParams st.store) pool ((approvals epoch).getD ∅)) with
      | none => exact .bankFailed pool hpool hlt hbank
      | some bank =>
        cases hvalid : pool.validate with
        | error e =>
          obtain rfl := validate_error hvalid
          simp only [setEmissionPool, advancePool_validate, hvalid]
          exact .poolRefused pool bank hpool hlt hbank hvalid
        | ok u =>
          simp only [setEmissionPool, advancePool_validate, hvalid]
          exact .minted pool bank hpool hlt hbank hvalid

def weVibeEpochIdentifier : Bytes := ascii "wevibe_epoch"

/-- The epoch hook. It answers `ok` whatever the mint did. -/
def afterEpochEnd (bk : BankKeeper β)
    (approvals : UInt64 → Option (OrderedMap Bytes UInt64)) (st : State β)
    (epochIdentifier : Bytes) (epochNumber : Int64) : State β × Except Error Unit :=
  if epochIdentifier ≠ weVibeEpochIdentifier then (st, .ok ())
  else
    match mintDailyEmission bk approvals st epochNumber.toUInt64 with
    | (st', .error _) => (st', .ok ())
    | (st', .ok _) => (st', .ok ())

end Mint

section Bootstrap
variable (s : Store) (operatorID : Bytes)

def setBootstrapCredits (credits : UInt64) : Store := { s with bootstrapPool := some credits }

def getBootstrapCredits : Except Error UInt64 :=
  match s.bootstrapPool with
  | none => .error .noBootstrapPool
  | some credits => .ok credits

def setBootstrapExpiry (expiry : UInt64) : Store := { s with bootstrapExpiry := some expiry }

def getBootstrapExpiry : UInt64 := s.bootstrapExpiry.getD 0

def getBootstrapCredit : BootstrapCredit :=
  (s.bootstrap.get (bootstrapKey operatorID)).getD (newBootstrapCredit operatorID 0)

def addBootstrapCredit (credits : UInt64) : Store :=
  { s with
    bootstrap := s.bootstrap.set (bootstrapKey operatorID)
      (match s.bootstrap.get (bootstrapKey operatorID) with
      | none => newBootstrapCredit operatorID credits
      | some existing => { existing with credits := existing.credits + credits }) }

/-- The failure to read the bootstrap pool is ignored, and the pool then counts down from zero. -/
def redeemBootstrapCredit (amount : UInt64) : Except Error Store :=
  if getBootstrapExpiry s = 0 then .error .bootstrapExpired
  else
    match (getBootstrapCredit s operatorID).redeem amount with
    | .error e => .error e
    | .ok credit =>
      .ok
        { s with
          bootstrap := s.bootstrap.set (bootstrapKey operatorID) credit
          bootstrapPool := some ((getBootstrapCredits s).toOption.getD 0 - amount) }

end Bootstrap

def setAsymmetricGate (s : Store) (gate : AsymmetricGate) : Store :=
  { s with gate := s.gate.set (gateKey gate.operatorID gate.orgID gate.epoch) gate }

section Genesis

structure GenesisState where
  emissionPool : Option EmissionPool := none
  dailyEmissions : List DailyEmission := []
  bootstrapCredits : List BootstrapCredit := []
  asymmetricGates : List AsymmetricGate := []
  bootstrapExpiry : UInt64 := 0

/-- The pool is stored as it is given: `InitGenesis` does not call `Validate`. -/
def initGenesis (s : Store) (g : GenesisState) : Store :=
  { s with
    pool := match g.emissionPool with
      | none => s.pool
      | some pool => some (emissionPoolToStored pool)
    emission := g.dailyEmissions.foldl
      (fun m e => m.set (emissionKey e.epoch) (dailyEmissionToStored e)) s.emission
    bootstrap := g.bootstrapCredits.foldl
      (fun m c => m.set (bootstrapKey c.operatorID) c) s.bootstrap
    gate := g.asymmetricGates.foldl
      (fun m a => m.set (gateKey a.operatorID a.orgID a.epoch) a) s.gate
    bootstrapExpiry := if g.bootstrapExpiry > 0 then some g.bootstrapExpiry else s.bootstrapExpiry }

def defaultGenesis : GenesisState := { emissionPool := some defaultEmissionPool }

/-- `InitGenesis` of the module, which sets the parameters to their defaults first. -/
def moduleInitGenesis (s : Store) (g : GenesisState) : Store :=
  initGenesis (setParams s defaultParams)
    { g with emissionPool := some (g.emissionPool.getD defaultEmissionPool) }

/-- The pool that is exported when none is stored. -/
def zeroEmissionPool : EmissionPool := ⟨0, 0, 0, 0, 0, 0, 0, 0, 0, 0⟩

def exportGenesis (s : Store) : GenesisState where
  emissionPool := some (match s.pool with
    | none => zeroEmissionPool
    | some stored => storedToEmissionPool stored)
  dailyEmissions := s.emission.values.map storedToDailyEmission
  bootstrapCredits := s.bootstrap.values
  asymmetricGates := s.gate.values
  bootstrapExpiry := getBootstrapExpiry s

end Genesis

end WeVibeChain.Emissions
