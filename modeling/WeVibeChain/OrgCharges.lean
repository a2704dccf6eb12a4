import WeVibeChain.OrgChanges
import WeVibeChain.Shared.Words

/-!
# What a registration costs

The price of a slot is paid in three calls of x/bank: one half goes to the module
account and is burnt there, the other half goes to the account of the new org. The
balances and the supply are views of a bank state that nothing else is known of;
`ExactBank` says what the three calls do to them. What a move takes from one
balance and adds to another is written as additions on both sides, so that it also
holds when the two accounts are the same one.
-/

set_option autoImplicit false

namespace WeVibeChain.Orgs

open Bytes

section Bank
variable {β γ : Type}

/-- What a bank state says: the balance of an account and the supply, in a denomination. -/
structure BankView (β : Type) where
  balance : β → Bytes → Bytes → Nat
  supply : β → Bytes → Nat

/-- The part of the balance of `addr` in `denom` that `coin` is when it belongs to `owner`. -/
def share (owner : Bytes) (coin : Coin) (addr denom : Bytes) : Nat :=
  if addr = owner ∧ denom = coin.denom then coin.amount else 0

theorem share_self (owner : Bytes) (coin : Coin) : share owner coin owner coin.denom = coin.amount :=
  if_pos ⟨rfl, rfl⟩

theorem share_of_ne {owner addr : Bytes} (h : addr ≠ owner) (coin : Coin) (denom : Bytes) :
    share owner coin addr denom = 0 := if_neg fun hboth => h hboth.1

theorem share_of_denom_ne {coin : Coin} {denom : Bytes} (h : denom ≠ coin.denom)
    (owner addr : Bytes) : share owner coin addr denom = 0 := if_neg fun hboth => h hboth.2

/-- The coin leaves one account for another. -/
structure Moved (view : BankView β) (sender recipient : Bytes) (coin : Coin) (bank bank' : β) :
    Prop where
  balance : ∀ addr denom, view.balance bank' addr denom + share sender coin addr denom =
    view.balance bank addr denom + share recipient coin addr denom
  supply : ∀ denom, view.supply bank' denom = view.supply bank denom

/-- The coin leaves the account and the supply. -/
structure Burnt (view : BankView β) (owner : Bytes) (coin : Coin) (bank bank' : β) : Prop where
  balance : ∀ addr denom, view.balance bank' addr denom + share owner coin addr denom =
    view.balance bank addr denom
  supply : ∀ denom, view.supply bank' denom + (if denom = coin.denom then coin.amount else 0) =
    view.supply bank denom

/-- Moves and burns are of exactly the requested amount; a failed call has no new state at all. -/
structure ExactBank (ext : Externals β γ) (view : BankView β) : Prop where
  sendToModule : ∀ {bank bank' : β} {sender name : Bytes} {coin : Coin},
    ext.sendCoinsFromAccountToModule bank sender name coin = some bank' →
      Moved view sender (ext.newModuleAddress name) coin bank bank'
  burn : ∀ {bank bank' : β} {name : Bytes} {coin : Coin},
    ext.burnCoins bank name coin = some bank' →
      Burnt view (ext.newModuleAddress name) coin bank bank'
  send : ∀ {bank bank' : β} {sender recipient : Bytes} {coin : Coin},
    ext.sendCoins bank sender recipient coin = some bank' →
      Moved view sender recipient coin bank bank'

variable {ext : Externals β γ} {view : BankView β} {bank bank' : β} {creator orgID : Bytes}
  {amount price : Nat}

/-- The module account is only passed through. -/
theorem burnFrom_burnt (hbank : ExactBank ext view)
    (h : burnFrom ext bank creator amount = .ok bank') :
    Burnt view creator ⟨uvibe, amount⟩ bank bank' := by
  unfold burnFrom at h
  split at h
  · rename_i hzero
    obtain rfl := Except.ok.inj h
    refine ⟨?_, ?_⟩
    · intro addr denom
      simp [share, hzero]
    · intro denom
      simp [hzero]
  split at h
  · cases h
  rename_i moved hsend
  split at h
  · cases h
  rename_i burnt hburn
  obtain rfl := Except.ok.inj h
  have hmoved := hbank.sendToModule hsend
  have hburnt := hbank.burn hburn
  refine ⟨?_, ?_⟩
  · intro addr denom
    have hin := hmoved.balance addr denom
    have hout := hburnt.balance addr denom
    omega
  · intro denom
    rw [hburnt.supply, hmoved.supply]

/-- Half of the price, rounded down, is burnt and the other half reaches the org's account. -/
structure Charged (ext : Externals β γ) (view : BankView β) (creator orgID : Bytes) (price : Nat)
    (bank bank' : β) : Prop where
  balance : ∀ addr denom, view.balance bank' addr denom + share creator ⟨uvibe, price⟩ addr denom =
    view.balance bank addr denom +
      share (orgAccountAddress ext orgID) ⟨uvibe, (price + 1) / 2⟩ addr denom
  supply : ∀ denom, view.supply bank' denom + (if denom = uvibe then price / 2 else 0) =
    view.supply bank denom

theorem share_add (owner : Bytes) (m n : Nat) (addr denom : Bytes) :
    share owner ⟨uvibe, m⟩ addr denom + share owner ⟨uvibe, n⟩ addr denom =
      share owner ⟨uvibe, m + n⟩ addr denom := by
  unfold share
  split <;> rfl

theorem chargeSlotPrice_charged (hbank : ExactBank ext view)
    (h : chargeSlotPrice ext bank creator orgID price = .ok bank') :
    Charged ext view creator orgID price bank bank' := by
  unfold chargeSlotPrice at h
  dsimp only at h
  split at h
  · cases h
  rename_i burntBank hburn
  have hburnt := burnFrom_burnt hbank hburn
  have hhalves : price / 2 + (price - price / 2) = price := by omega
  have hceil : price - price / 2 = (price + 1) / 2 := by omega
  have hprice := fun addr denom => share_add creator (price / 2) (price - price / 2) addr denom
  rw [hhalves] at hprice
  rw [hceil] at h hprice
  split at h
  · rename_i hzero
    obtain rfl := Except.ok.inj h
    refine ⟨?_, hburnt.supply⟩
    intro addr denom
    have hout := hburnt.balance addr denom
    have hsum := hprice addr denom
    simp only [hzero] at hsum ⊢
    simp only [share, ite_self] at hsum hout ⊢
    omega
  split at h
  · cases h
  rename_i hsend
  obtain rfl := Except.ok.inj h
  have hmoved := hbank.send hsend
  refine ⟨?_, ?_⟩
  · intro addr denom
    have hout := hburnt.balance addr denom
    have hin := hmoved.balance addr denom
    have hsum := hprice addr denom
    omega
  · intro denom
    rw [hmoved.supply]
    exact hburnt.supply denom

end Bank

section Registration
variable {β γ : Type} {ext : Externals β γ} {view : BankView β} {st : State β γ} {newOrg : Org}
  {creator : Bytes}

/-- `RegisterOrg` in a message, whose failure takes back everything that was written. -/
def registerOrgOrRollBack (ext : Externals β γ) (st : State β γ) (newOrg : Org) (creator : Bytes) :
    State β γ × Except Error Org :=
  match registerOrg ext st newOrg creator with
  | .error e => (st, .error e)
  | .ok (st', org) => (st', .ok org)

/-- A registration that went through: the creator has paid the price of the slot, the supply has
lost one half of it and the org's account has gained the other. No other balance has changed, that
of the module account included, and one slot, one org and one member are new. -/
structure SlotPaid (ext : Externals β γ) (view : BankView β) (creator : Bytes) (st : State β γ)
    (org : Org) (st' : State β γ) : Prop where
  creatorPays : view.balance st'.bank creator uvibe +
    computeSlotPrice st.store (getNextSlot st.store) = view.balance st.bank creator uvibe
  orgGains : view.balance st'.bank (orgAccountAddress ext org.orgID) uvibe =
    view.balance st.bank (orgAccountAddress ext org.orgID) uvibe +
      (computeSlotPrice st.store (getNextSlot st.store) + 1) / 2
  burnt : view.supply st'.bank uvibe + computeSlotPrice st.store (getNextSlot st.store) / 2 =
    view.supply st.bank uvibe
  otherBalances : ∀ addr denom,
    (addr ≠ creator ∧ addr ≠ orgAccountAddress ext org.orgID) ∨ denom ≠ uvibe →
      view.balance st'.bank addr denom = view.balance st.bank addr denom
  otherSupply : ∀ denom, denom ≠ uvibe → view.supply st'.bank denom = view.supply st.bank denom
  slot : org.slot = getNextSlot st.store ∧
    (getNextSlot st'.store).toNat = (getNextSlot st.store).toNat + 1
  written : st.store.org.get (orgKey org.orgID) = none ∧ st'.store = registeredStore st.store org

theorem Charged.slotPaid {st' : State β γ} {org : Org}
    (h : Charged ext view creator org.orgID (computeSlotPrice st.store org.slot) st.bank st'.bank)
    (hcreator : creator ≠ orgAccountAddress ext org.orgID)
    (hslot : org.slot = getNextSlot st.store)
    (hcap : getNextSlot st.store < (getParams st.store).slotCap)
    (hwritten : st.store.org.get (orgKey org.orgID) = none ∧
      st'.store = registeredStore st.store org) :
    SlotPaid ext view creator st org st' := by
  rw [hslot] at h
  refine ⟨?_, ?_, ?_, ?_, ?_, ⟨hslot, ?_⟩, hwritten⟩
  · have hbalance := h.balance creator uvibe
    rwa [share_self creator ⟨uvibe, _⟩, share_of_ne hcreator, Nat.add_zero] at hbalance
  · have hbalance := h.balance (orgAccountAddress ext org.orgID) uvibe
    rwa [share_of_ne hcreator.symm, share_self _ ⟨uvibe, _⟩, Nat.add_zero] at hbalance
  · have hsupply := h.supply uvibe
    rwa [if_pos rfl] at hsupply
  · intro addr denom hother
    have hbalance := h.balance addr denom
    rcases hother with ⟨hpayer, haccount⟩ | hdenom
    · rwa [share_of_ne hpayer, share_of_ne haccount] at hbalance
    · rwa [share_of_denom_ne hdenom, share_of_denom_ne hdenom] at hbalance
  · intro denom hdenom
    have hsupply := h.supply denom
    rwa [if_neg hdenom] at hsupply
  · have hlt := UInt64.lt_iff_toNat_lt.mp hcap
    have hbound := (getParams st.store).slotCap.toNat_lt
    rw [hwritten.2]
    change (org.slot + 1).toNat = _
    rw [hslot]
    exact Words.toNat_add_of_lt (show _ + 1 < _ by omega)

/-- A registration moves exactly the price of the next slot, and a failed one nothing. -/
theorem registration_charges_exactly (hbank : ExactBank ext view)
    (hcreator : creator ≠ orgAccountAddress ext (formatOrgID (getNextSlot st.store))) :
    (∀ st' org, registerOrgOrRollBack ext st newOrg creator = (st', .ok org) →
      SlotPaid ext view creator st org st') ∧
    ∀ st' e, registerOrgOrRollBack ext st newOrg creator = (st', .error e) → st' = st := by
  unfold registerOrgOrRollBack
  cases h : registerOrg ext st newOrg creator with
  | error e =>
    refine ⟨?_, ?_⟩ <;> intro st' outcome heq
    · cases (Prod.mk.inj heq).2
    · exact (Prod.mk.inj heq).1.symm
  | ok result =>
    obtain ⟨st₁, org₁⟩ := result
    refine ⟨?_, ?_⟩ <;> intro st' outcome heq
    swap
    · cases (Prod.mk.inj heq).2
    obtain ⟨rfl, horg⟩ := Prod.mk.inj heq
    obtain rfl := Except.ok.inj horg
    obtain ⟨hcap, horg, hfresh, -, hstore, hcharge⟩ := registerOrg_ok h
    have hcharged := chargeSlotPrice_charged hbank hcharge
    subst horg
    exact hcharged.slotPaid hcreator rfl hcap ⟨hfresh, hstore⟩

end Registration

section Sample

/-- A bank that has all balances at hand. -/
structure Accounts where
  balance : Bytes → Bytes → Nat
  supply : Bytes → Nat

namespace Accounts

def view : BankView Accounts := ⟨balance, supply⟩

def withdraw (bank : Accounts) (owner : Bytes) (coin : Coin) : Option Accounts :=
  if coin.amount ≤ bank.balance owner coin.denom then
    some { bank with balance := fun addr denom => bank.balance addr denom - share owner coin addr denom }
  else none

def deposit (bank : Accounts) (owner : Bytes) (coin : Coin) : Accounts :=
  { bank with balance := fun addr denom => bank.balance addr denom + share owner coin addr denom }

def send (bank : Accounts) (sender recipient : Bytes) (coin : Coin) : Option Accounts :=
  (bank.withdraw sender coin).map fun bank => bank.deposit recipient coin

def burn (bank : Accounts) (owner : Bytes) (coin : Coin) : Option Accounts :=
  if coin.amount ≤ bank.supply coin.denom then
    (bank.withdraw owner coin).map fun bank' =>
      { bank' with supply := fun denom =>
          bank'.supply denom - if denom = coin.denom then coin.amount else 0 }
  else none

theorem withdraw_balance {bank bank' : Accounts} {owner : Bytes} {coin : Coin}
    (h : bank.withdraw owner coin = some bank') (addr denom : Bytes) :
    bank'.balance addr denom + share owner coin addr denom = bank.balance addr denom ∧
      bank'.supply = bank.supply := by
  unfold withdraw at h
  split at h
  · rename_i hle
    obtain rfl := Option.some.inj h
    refine ⟨Nat.sub_add_cancel ?_, rfl⟩
    unfold share
    split
    · rename_i hboth
      rw [hboth.1, hboth.2]
      exact hle
    · exact Nat.zero_le _
  · cases h

theorem send_moved {bank bank' : Accounts} {sender recipient : Bytes} {coin : Coin}
    (h : bank.send sender recipient coin = some bank') :
    Moved view sender recipient coin bank bank' := by
  obtain ⟨taken, hwithdraw, rfl⟩ := Option.map_eq_some_iff.mp h
  refine ⟨?_, ?_⟩
  · intro addr denom
    have hout := (withdraw_balance hwithdraw addr denom).1
    change taken.balance addr denom + share recipient coin addr denom + _ = bank.balance addr denom + _
    omega
  · intro denom
    exact congrFun (withdraw_balance hwithdraw [] []).2 denom

theorem burn_burnt {bank bank' : Accounts} {owner : Bytes} {coin : Coin}
    (h : bank.burn owner coin = some bank') : Burnt view owner coin bank bank' := by
  unfold burn at h
  split at h
  · rename_i hle
    obtain ⟨taken, hwithdraw, rfl⟩ := Option.map_eq_some_iff.mp h
    refine ⟨fun addr denom => (withdraw_balance hwithdraw addr denom).1, ?_⟩
    intro denom
    change taken.supply denom - _ + _ = bank.supply denom
    rw [(withdraw_balance hwithdraw [] []).2]
    apply Nat.sub_add_cancel
    split
    · rename_i hdenom
      rw [hdenom]
      exact hle
    · exact Nat.zero_le _
  · cases h

def externals : Externals Accounts Unit where
  accAddressFromBech32 := some
  accAddressString address := address
  newModuleAddress name := ascii "module/" ++ name
  toLower text := text
  parseURL _ := none
  sendCoinsFromAccountToModule bank sender name := bank.send sender (ascii "module/" ++ name)
  burnCoins bank name := bank.burn (ascii "module/" ++ name)
  sendCoins := send
  grantAllowance := some fun _ _ _ _ => some ()

theorem externals_exact : ExactBank externals view where
  sendToModule := send_moved
  burn := burn_burnt
  send := send_moved

end Accounts

/-- One account that has eleven coins, and a base price of seven. -/
def fundedState : State Accounts Unit where
  store := { params := some { defaultParams with baseBurnPrice := 7 } }
  bank := ⟨fun addr denom => if addr = [97] ∧ denom = uvibe then 11 else 0,
    fun denom => if denom = uvibe then 11 else 0⟩
  feegrant := ()

def plainOrg : Org := MsgRegisterOrg.org { signer := [97], leader := [98] }

theorem registration_charges_funded :
    ∃ st' org, registerOrgOrRollBack Accounts.externals fundedState plainOrg [97] = (st', .ok org) ∧
      SlotPaid Accounts.externals Accounts.view [97] fundedState org st' ∧
      st'.bank.balance [97] uvibe = 4 ∧ st'.bank.supply uvibe = 8 := by
  have hcreator : ([97] : Bytes) ≠
      orgAccountAddress Accounts.externals (formatOrgID (getNextSlot fundedState.store)) := by decide
  have hresult : registerOrgOrRollBack Accounts.externals fundedState plainOrg [97] = (_, .ok _) := rfl
  exact ⟨_, _, hresult, (registration_charges_exactly Accounts.externals_exact hcreator).1 _ _ hresult,
    rfl, rfl⟩

end Sample

end WeVibeChain.Orgs
