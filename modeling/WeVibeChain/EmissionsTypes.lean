import WeVibeChain.Shared.Bytes
import WeVibeChain.Shared.OrderedMap

/-!
# x/emissions: records, parameters and the module store

The emission pool, the daily record and the parameters as `x/emissions/types`
has them, each beside the form it is stored in. The module's key-value store is
one record with a field per key family. The families have distinct prefixes, so
no key of one is a key of another. Values are kept decoded.
-/

set_option autoImplicit false

namespace WeVibeChain.Emissions

open Bytes

inductive Error where
  | invalidEmissionPool
  | noEmissionPool
  | insufficientBalance
  | bootstrapExpired
  | noBootstrapPool
  | unauthorized
  | notMigrated
  | unauthorizedClaim
  | nothingToClaim
  | invalidWalletAddress
  | epochNotAfterLastEmission
  | dailyEmissionNotFound
  | sharePercents (operator validator : UInt64)
  | weightPercents (storage retrieval : UInt64)
  | authorityEmpty
  | epochZero
  | signerEmpty
  | passkeyPubkeyEmpty
  | bankFailure
  deriving DecidableEq, Repr

def Error.text : Error → String
  | invalidEmissionPool => "invalid emission pool"
  | noEmissionPool => "no emission pool found"
  | insufficientBalance => "insufficient balance"
  | bootstrapExpired => "bootstrap period expired"
  | noBootstrapPool => "no bootstrap pool found"
  | unauthorized => "unauthorized"
  | notMigrated => "identity not migrated"
  | unauthorizedClaim => "unauthorized claim"
  | nothingToClaim => "nothing to claim"
  | invalidWalletAddress => "invalid wallet address"
  | epochNotAfterLastEmission => "epoch must be greater than last emission epoch"
  | dailyEmissionNotFound => "daily emission not found for epoch"
  | sharePercents operator validator =>
    "operator_share_percent (" ++ toString operator ++ ") + validator_share_percent (" ++
      toString validator ++ ") must equal 100"
  | weightPercents storage retrieval =>
    "storage_weight_percent (" ++ toString storage ++ ") + retrieval_weight_percent (" ++
      toString retrieval ++ ") must equal 100"
  | authorityEmpty => "authority cannot be empty"
  | epochZero => "epoch must be greater than 0"
  | signerEmpty => "signer cannot be empty"
  | passkeyPubkeyEmpty => "passkey_pubkey cannot be empty"
  | bankFailure => "bank"

section Records

structure EmissionPool where
  totalSupply : UInt64
  dailyMint : UInt64
  operatorShare : UInt64
  validatorShare : UInt64
  epoch : UInt64
  validatorPoolRemainingUvibe : UInt64
  contributorPoolRemainingUvibe : UInt64
  contributorRolloverUvibe : UInt64
  startEpoch : UInt64
  totalEpochsElapsed : UInt64
  deriving DecidableEq, Repr

structure StoredEmissionPool where
  totalSupply : UInt64
  dailyMint : UInt64
  operatorShare : UInt64
  validatorShare : UInt64
  epoch : UInt64
  validatorPoolRemainingUvibe : UInt64
  contributorPoolRemainingUvibe : UInt64
  contributorRolloverUvibe : UInt64
  startEpoch : UInt64
  totalEpochsElapsed : UInt64
  deriving DecidableEq, Repr

def emissionPoolToStored (p : EmissionPool) : StoredEmissionPool where
  totalSupply := p.totalSupply
  dailyMint := p.dailyMint
  operatorShare := p.operatorShare
  validatorShare := p.validatorShare
  epoch := p.epoch
  validatorPoolRemainingUvibe := p.validatorPoolRemainingUvibe
  contributorPoolRemainingUvibe := p.contributorPoolRemainingUvibe
  contributorRolloverUvibe := p.contributorRolloverUvibe
  startEpoch := p.startEpoch
  totalEpochsElapsed := p.totalEpochsElapsed

def storedToEmissionPool (s : StoredEmissionPool) : EmissionPool where
  totalSupply := s.totalSupply
  dailyMint := s.dailyMint
  operatorShare := s.operatorShare
  validatorShare := s.validatorShare
  epoch := s.epoch
  validatorPoolRemainingUvibe := s.validatorPoolRemainingUvibe
  contributorPoolRemainingUvibe := s.contributorPoolRemainingUvibe
  contributorRolloverUvibe := s.contributorRolloverUvibe
  startEpoch := s.startEpoch
  totalEpochsElapsed := s.totalEpochsElapsed

@[simp] theorem storedToEmissionPool_toStored (p : EmissionPool) :
    storedToEmissionPool (emissionPoolToStored p) = p := rfl

@[simp] theorem emissionPoolToStored_ofStored (s : StoredEmissionPool) :
    emissionPoolToStored (storedToEmissionPool s) = s := rfl

/-- The sum of the two shares is taken in 64 bits. -/
def EmissionPool.validate (p : EmissionPool) : Except Error Unit :=
  if p.operatorShare + p.validatorShare ≠ 100 then .error .invalidEmissionPool else .ok ()

structure DailyEmission where
  epoch : UInt64
  totalEmitted : UInt64
  validatorShare : UInt64
  deriving DecidableEq, Repr

structure StoredDailyEmission where
  epoch : UInt64
  totalEmitted : UInt64
  validatorShare : UInt64
  deriving DecidableEq, Repr

def dailyEmissionToStored (e : DailyEmission) : StoredDailyEmission :=
  ⟨e.epoch, e.totalEmitted, e.validatorShare⟩

def storedToDailyEmission (s : StoredDailyEmission) : DailyEmission :=
  ⟨s.epoch, s.totalEmitted, s.validatorShare⟩

@[simp] theorem storedToDailyEmission_toStored (e : DailyEmission) :
    storedToDailyEmission (dailyEmissionToStored e) = e := rfl

structure BootstrapCredit where
  operatorID : Bytes
  credits : UInt64
  redeemed : UInt64
  deriving DecidableEq, Repr

def newBootstrapCredit (operatorID : Bytes) (credits : UInt64) : BootstrapCredit :=
  ⟨operatorID, credits, 0⟩

/-- The difference is taken in 64 bits. -/
def BootstrapCredit.canRedeem (b : BootstrapCredit) (amount : UInt64) : Bool :=
  b.credits - b.redeemed ≥ amount

def BootstrapCredit.redeem (b : BootstrapCredit) (amount : UInt64) : Except Error BootstrapCredit :=
  if b.canRedeem amount = false then .error .insufficientBalance
  else .ok { b with redeemed := b.redeemed + amount }

structure AsymmetricGate where
  operatorID : Bytes
  orgID : Bytes
  storagePassed : Bool
  retrievalAllowed : Bool
  epoch : UInt64
  deriving DecidableEq, Repr

end Records

section Params

structure Params where
  dailyMintAmount : UInt64
  operatorSharePercent : UInt64
  validatorSharePercent : UInt64
  storageWeightPercent : UInt64
  retrievalWeightPercent : UInt64
  rarityMultiplierCap : Bytes
  bootstrapDurationEpochs : UInt64
  totalSupplyUvibe : UInt64
  validatorEmissionPoolUvibe : UInt64
  contributorAnnualCapUvibe : UInt64
  scheduleDurationDays : UInt64
  contributorQualifyThreshold : UInt64
  deriving DecidableEq, Repr

def defaultParams : Params where
  dailyMintAmount := 1000000000
  operatorSharePercent := 80
  validatorSharePercent := 20
  storageWeightPercent := 30
  retrievalWeightPercent := 70
  rarityMultiplierCap := ascii "3.0"
  bootstrapDurationEpochs := 365
  totalSupplyUvibe := 1000000000000000
  validatorEmissionPoolUvibe := 570000000000000
  contributorAnnualCapUvibe := 10000000000000
  scheduleDurationDays := 11680
  contributorQualifyThreshold := 1

def Params.validate (p : Params) : Except Error Unit :=
  if p.operatorSharePercent + p.validatorSharePercent ≠ 100 then
    .error (.sharePercents p.operatorSharePercent p.validatorSharePercent)
  else if p.storageWeightPercent + p.retrievalWeightPercent ≠ 100 then
    .error (.weightPercents p.storageWeightPercent p.retrievalWeightPercent)
  else .ok ()

def epochsPerYear : UInt64 := 365

def defaultEmissionPool : EmissionPool :=
  let p := defaultParams
  let years := p.scheduleDurationDays / epochsPerYear
  { totalSupply := 0
    dailyMint := p.dailyMintAmount
    operatorShare := p.operatorSharePercent
    validatorShare := p.validatorSharePercent
    epoch := 0
    validatorPoolRemainingUvibe := p.validatorEmissionPoolUvibe
    contributorPoolRemainingUvibe := p.contributorAnnualCapUvibe * years
    contributorRolloverUvibe := 0
    startEpoch := 0
    totalEpochsElapsed := 0 }

theorem defaultParams_validate : defaultParams.validate = .ok () := rfl

theorem defaultEmissionPool_validate : defaultEmissionPool.validate = .ok () := rfl

end Params

section Store

def emissionsModuleName : Bytes := ascii "emissions"

def emissionKey (epoch : UInt64) : Bytes := ascii "emission/" ++ formatUint epoch

def gateKey (operatorID orgID : Bytes) (epoch : UInt64) : Bytes :=
  ascii "gate/" ++ operatorID ++ slash :: (orgID ++ slash :: formatUint epoch)

def bootstrapKey (operatorID : Bytes) : Bytes := ascii "bootstrap/" ++ operatorID

def contribRewardKey (addr : Bytes) : Bytes := ascii "contribreward/" ++ addr

def lifetimeRewardKey (addr : Bytes) : Bytes := ascii "lifetimereward/" ++ addr

@[simp] theorem emissionKey_inj {a b : UInt64} : emissionKey a = emissionKey b ↔ a = b := by
  simp [emissionKey]

@[simp] theorem bootstrapKey_inj {a b : Bytes} : bootstrapKey a = bootstrapKey b ↔ a = b := by
  simp [bootstrapKey]

@[simp] theorem contribRewardKey_inj {a b : Bytes} :
    contribRewardKey a = contribRewardKey b ↔ a = b := by
  simp [contribRewardKey]

@[simp] theorem lifetimeRewardKey_inj {a b : Bytes} :
    lifetimeRewardKey a = lifetimeRewardKey b ↔ a = b := by
  simp [lifetimeRewardKey]

/-- The store of x/emissions, one field for each key or key prefix. -/
structure Store where
  pool : Option StoredEmissionPool := none
  emission : OrderedMap Bytes StoredDailyEmission := ∅
  gate : OrderedMap Bytes AsymmetricGate := ∅
  bootstrap : OrderedMap Bytes BootstrapCredit := ∅
  bootstrapPool : Option UInt64 := none
  contribReward : OrderedMap Bytes UInt64 := ∅
  lifetimeReward : OrderedMap Bytes UInt64 := ∅
  params : Option Params := none
  bootstrapExpiry : Option UInt64 := none
  deriving DecidableEq

end Store

end WeVibeChain.Emissions
