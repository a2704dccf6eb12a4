import WeVibeChain.OrgConsistency

/-!
# x/org: the terms of a trial allowance

The limits of a trial allowance are computed with big integers and are exact. Its
expiration is the block time and a signed 64-bit number of nanoseconds. A trial of
106752 days does not fit into it any more, and some longer ones end on the same day.
-/

set_option autoImplicit false

namespace WeVibeChain.Orgs

open Bytes

section Terms
variable {β γ : Type} {ext : Externals β γ} {st st' : State β γ} {blockTime : Int}
  {msg : MsgGrantTrialAllowance}

/-- A day in nanoseconds, as a number without a bound. -/
def dayLength : Nat := 24 * 60 * 60 * 1000000000

/-- An allowance for `days` days with `daily` submissions a day, at 2000 uvibe for each. -/
def TrialTerms (blockTime : Int) (daily days : Nat) : Allowance → Prop
  | .allowedMsg _ => False
  | .periodic spendLimit expiration period periodSpendLimit periodCanSpend =>
    spendLimit = ⟨uvibe, 2000 * daily * days⟩ ∧ expiration = blockTime + (days * dayLength : Nat) ∧
      period = dayLength ∧ periodSpendLimit = ⟨uvibe, 2000 * daily⟩ ∧
      periodCanSpend = ⟨uvibe, 2000 * daily⟩

theorem day_toInt : day.toInt = dayLength := by decide

theorem trialDuration_eq_iff (days : UInt64) :
    (days.toInt64 * day).toInt = (days.toNat * dayLength : Nat) ↔ days.toNat * dayLength < 2 ^ 63 := by
  have hcast : ((days.toNat * dayLength : Nat) : Int) = days.toNat * dayLength :=
    Int.natCast_mul _ _
  rw [Words.toInt_toInt64_mul, day_toInt, ← hcast,
    Words.bmod_eq_self_iff (Int.natCast_nonneg _)]
  omega

theorem trialTerms_iff (blockTime : Int) (daily days : UInt64) :
    TrialTerms blockTime daily.toNat days.toNat (trialAllowance blockTime daily days) ↔
      days.toNat * dayLength < 2 ^ 63 := by
  rw [← trialDuration_eq_iff]
  constructor
  · rintro ⟨-, hexpiration, -⟩
    exact Int.add_left_cancel hexpiration
  · intro hduration
    exact ⟨rfl, congrArg (blockTime + ·) hduration, day_toInt, rfl, rfl⟩

/-- An accepted message grants the allowance of its trial, and that has the terms of the message
exactly if the trial is shorter than 2^63 nanoseconds. -/
theorem grantTrialAllowanceMsg_terms_iff
    (h : grantTrialAllowanceMsg ext st blockTime msg = .ok st') :
    ∃ grantAllowance granter grantee allowance, ext.grantAllowance = some grantAllowance ∧
      ext.accAddressFromBech32 msg.signer = some granter ∧
      ext.accAddressFromBech32 msg.grantee = some grantee ∧
      allowance = trialAllowance blockTime msg.dailySubmissions msg.trialDays ∧
      grantAllowance st.feegrant granter grantee allowance = some st'.feegrant ∧
      (TrialTerms blockTime msg.dailySubmissions.toNat msg.trialDays.toNat allowance ↔
        msg.trialDays.toNat * dayLength < 2 ^ 63) := by
  obtain ⟨-, -, grantAllowance, granter, grantee, feegrant, hconfigured, hgranter, hgrantee, hgranted,
    rfl⟩ := grantTrialAllowanceMsg_ok h
  exact ⟨grantAllowance, granter, grantee, _, hconfigured, hgranter, hgrantee, rfl, hgranted,
    trialTerms_iff _ _ _⟩

end Terms

section Sample

/-- The allowances with their terms. At time zero, one that has expired is refused. -/
def sampleTrialExternals : Externals Unit (List (Bytes × Bytes × Allowance)) where
  accAddressFromBech32 := sampleExternals.accAddressFromBech32
  accAddressString := sampleExternals.accAddressString
  newModuleAddress := sampleExternals.newModuleAddress
  toLower := sampleExternals.toLower
  parseURL := sampleExternals.parseURL
  sendCoinsFromAccountToModule := sampleExternals.sendCoinsFromAccountToModule
  burnCoins := sampleExternals.burnCoins
  sendCoins := sampleExternals.sendCoins
  grantAllowance := some fun grants granter grantee allowance =>
    match allowance with
    | .allowedMsg _ => some ((granter, grantee, allowance) :: grants)
    | .periodic _ expiration _ _ _ =>
      if expiration < 0 then none else some ((granter, grantee, allowance) :: grants)

def sampleTrialState : State Unit (List (Bytes × Bytes × Allowance)) :=
  (chain sampleTrialExternals (ascii "gov")).run ⟨{ params := none }, (), []⟩
    [.msg (.registerOrg sampleRegister)]

def sampleTrial (trialDays : UInt64) : MsgGrantTrialAllowance where
  signer := sampleAddress 0
  orgId := formatOrgID 0
  grantee := sampleAddress 1
  dailySubmissions := 10
  trialDays := trialDays

theorem trial_of_two_days :
    ∃ st', grantTrialAllowanceMsg sampleTrialExternals sampleTrialState 0 (sampleTrial 2) = .ok st' ∧
      ∃ grantAllowance granter grantee allowance,
        sampleTrialExternals.grantAllowance = some grantAllowance ∧
        grantAllowance sampleTrialState.feegrant granter grantee allowance = some st'.feegrant ∧
        TrialTerms 0 10 2 allowance := by
  have haccepted : (grantTrialAllowanceMsg sampleTrialExternals sampleTrialState 0
      (sampleTrial 2)).toOption.isSome = true := by
    decide +kernel
  cases h : grantTrialAllowanceMsg sampleTrialExternals sampleTrialState 0 (sampleTrial 2) with
  | error e =>
    rw [h] at haccepted
    cases haccepted
  | ok st' =>
    obtain ⟨grantAllowance, granter, grantee, allowance, hconfigured, -, -, -, hgranted, hterms⟩ :=
      grantTrialAllowanceMsg_terms_iff h
    exact ⟨st', rfl, grantAllowance, granter, grantee, allowance, hconfigured, hgranted,
      hterms.mpr (by decide)⟩

/-- The allowance of a trial of 213504 days expires within half an hour. -/
def sampleShortAllowance : Allowance :=
  .periodic ⟨uvibe, 4270080000⟩ 1526290448384 86400000000000 ⟨uvibe, 20000⟩ ⟨uvibe, 20000⟩

theorem trial_expires_within_the_hour :
    (grantTrialAllowanceMsg sampleTrialExternals sampleTrialState 0
        (sampleTrial 213504)).toOption.map (fun st' => st'.feegrant.head?) =
      some (some (List.replicate 20 1, List.replicate 20 2, sampleShortAllowance)) ∧
      ¬ TrialTerms 0 10 213504 sampleShortAllowance := by
  refine ⟨by decide +kernel, ?_⟩
  rintro ⟨-, hexpiration, -⟩
  revert hexpiration
  decide

end Sample

end WeVibeChain.Orgs
