import WeVibeChain.EmissionsKeeper
import WeVibeChain.IdentityKeeper

/-!
# x/emissions: messages

The handlers of `x/emissions/keeper/msg_server.go`. A handler that fails has its
writes discarded by the transaction, so it returns the new state or an error.
-/

set_option autoImplicit false

namespace WeVibeChain.Emissions

open Bytes

structure MsgMintDailyEmission where
  authority : Bytes
  epoch : UInt64
  deriving DecidableEq, Repr

def MsgMintDailyEmission.validateBasic (m : MsgMintDailyEmission) : Except Error Unit :=
  if m.authority = [] then .error .authorityEmpty
  else if m.epoch = 0 then .error .epochZero
  else .ok ()

structure MsgUpdateParams where
  authority : Bytes
  params : Params
  deriving DecidableEq, Repr

structure MsgClaimContributorReward where
  signer : Bytes
  passkeyPubkey : Bytes
  deriving DecidableEq, Repr

def MsgClaimContributorReward.validateBasic (m : MsgClaimContributorReward) : Except Error Unit :=
  if m.signer = [] then .error .signerEmpty
  else if m.passkeyPubkey = [] then .error .passkeyPubkeyEmpty
  else .ok ()

section Handlers
variable {β : Type} (bk : BankKeeper β) (authority : Bytes)

def mintDailyEmissionMsg (approvals : UInt64 → Option (OrderedMap Bytes UInt64)) (st : State β)
    (msg : MsgMintDailyEmission) : Except Error (State β × DailyEmission) := do
  msg.validateBasic
  if msg.authority ≠ authority then throw .unauthorized
  match mintDailyEmission bk approvals st msg.epoch with
  | (_, .error e) => throw e
  | (st', .ok emission) => pure (st', emission)

/-- The message is refused whatever the state is, or it does what the mint does. -/
theorem mintDailyEmissionMsg_cases (msg : MsgMintDailyEmission) :
    (∃ e, ∀ approvals (st : State β),
      mintDailyEmissionMsg bk authority approvals st msg = .error e) ∨
    ∀ approvals (st : State β),
      mintDailyEmissionMsg bk authority approvals st msg =
        (mintDailyEmission bk approvals st msg.epoch).2.map
          fun emission => ((mintDailyEmission bk approvals st msg.epoch).1, emission) := by
  cases hbasic : msg.validateBasic with
  | error e =>
    left
    refine ⟨e, fun approvals st => ?_⟩
    unfold mintDailyEmissionMsg
    rw [hbasic]
    rfl
  | ok u =>
    by_cases hauthority : msg.authority = authority
    · right
      intro approvals st
      unfold mintDailyEmissionMsg
      rw [hbasic, if_neg (not_not.mpr hauthority)]
      generalize mintDailyEmission bk approvals st msg.epoch = result
      obtain ⟨st', _ | emission⟩ := result
      · rfl
      · rfl
    · left
      refine ⟨.unauthorized, fun approvals st => ?_⟩
      unfold mintDailyEmissionMsg
      rw [hbasic, if_pos hauthority]
      rfl

def updateParams (s : Store) (msg : MsgUpdateParams) : Except Error Store :=
  if msg.authority ≠ authority then .error .unauthorized
  else
    match msg.params.validate with
    | .error e => .error e
    | .ok () => .ok (setParams s msg.params)

theorem updateParams_ok {s s' : Store} {msg : MsgUpdateParams}
    (h : updateParams authority s msg = .ok s') : s' = { s with params := some msg.params } := by
  unfold updateParams at h
  split at h
  · cases h
  · split at h
    · cases h
    · exact (Except.ok.inj h).symm

/-- A payment made by an accepted claim. -/
structure Payment where
  passkeyPubkey : Bytes
  recipient : Bytes
  amount : UInt64
  deriving DecidableEq, Repr

variable (accAddressFromBech32 : Bytes → Option Bytes)

/-- The accepted answer carries the recipient handed to the bank beside the amount claimed. -/
def claimContributorReward (identity : Identity.Store) (st : State β)
    (msg : MsgClaimContributorReward) : Except Error (State β × Payment) :=
  match msg.validateBasic with
  | .error e => .error e
  | .ok () =>
    match Identity.resolveIdentity identity msg.passkeyPubkey with
    | none => .error .notMigrated
    | some (wallet, isMigrated) =>
      if isMigrated = false then .error .notMigrated
      else if wallet ≠ msg.signer then .error .unauthorizedClaim
      else
        let balance := getContributorReward st.store msg.passkeyPubkey
        if balance = 0 then .error .nothingToClaim
        else
          match accAddressFromBech32 msg.signer with
          | none => .error .invalidWalletAddress
          | some recipient =>
            match bk.sendCoinsFromModuleToAccount st.bank emissionsModuleName recipient
                (uvibeCoin balance) with
            | none => .error .bankFailure
            | some bank =>
              .ok (⟨setContributorReward st.store msg.passkeyPubkey 0, bank⟩,
                ⟨msg.passkeyPubkey, recipient, balance⟩)

theorem claimContributorReward_ok {identity : Identity.Store} {st st' : State β}
    {msg : MsgClaimContributorReward} {paid : Payment}
    (h : claimContributorReward bk accAddressFromBech32 identity st msg = .ok (st', paid)) :
    ∃ recipient bank,
      Identity.resolveIdentity identity msg.passkeyPubkey = some (msg.signer, true) ∧
      accAddressFromBech32 msg.signer = some recipient ∧
      bk.sendCoinsFromModuleToAccount st.bank emissionsModuleName recipient
        (uvibeCoin (getContributorReward st.store msg.passkeyPubkey)) = some bank ∧
      st' = ⟨setContributorReward st.store msg.passkeyPubkey 0, bank⟩ ∧
      paid = ⟨msg.passkeyPubkey, recipient, getContributorReward st.store msg.passkeyPubkey⟩ := by
  unfold claimContributorReward at h
  split at h
  · cases h
  split at h
  · cases h
  rename_i wallet isMigrated hresolve
  split at h
  · cases h
  rename_i hmigrated
  split at h
  · cases h
  rename_i hwallet
  dsimp only at h
  split at h
  · cases h
  split at h
  · cases h
  rename_i recipient hrecipient
  split at h
  · cases h
  rename_i bank hbank
  have hwallet' : wallet = msg.signer := not_not.mp hwallet
  have hmigrated' : isMigrated = true := by simpa using hmigrated
  subst hwallet' hmigrated'
  obtain ⟨rfl, rfl⟩ := Prod.mk.inj (Except.ok.inj h)
  exact ⟨recipient, bank, hresolve, hrecipient, hbank, rfl, rfl⟩

end Handlers

end WeVibeChain.Emissions
