import WeVibeChain.EmissionsMsgServer
import WeVibeChain.EmissionsAmounts
import WeVibeChain.EmissionsRewards
import WeVibeChain.Shared.Machine

/-!
# The module account backs the pending rewards

The system here is the emission store, the bank and the identity aliases under
successful mints, claims that are accepted or rejected, parameter changes, and
whatever else changes aliases and the bank without touching the module account.
Its history lists the mints and the payments.

The rewards are 64-bit counters and the bank's amounts are not, so the results
are for runs whose credits add up to less than `2^64`.
-/

set_option autoImplicit false

namespace WeVibeChain.Emissions

open Words

section System
variable {β : Type}

structure RewardState (β : Type) where
  emissions : State β
  identity : Identity.Store

inductive RewardInput (β : Type) where
  | mint (epoch : UInt64) (approvals : Option (OrderedMap Bytes UInt64))
  | claim (msg : MsgClaimContributorReward)
  | updateParams (msg : MsgUpdateParams)
  | environment (bank : β) (identity : Identity.Store)

inductive Event where
  | minted (m : Minted)
  | paid (p : Payment)
  | nothing
  deriving DecidableEq

def Event.credits : Event → List (Bytes × UInt64)
  | minted m => m.credits
  | _ => []

/-- What the event pays out for a passkey. -/
def Event.paidFor (passkey : Bytes) : Event → Nat
  | paid p => if p.passkeyPubkey = passkey then p.amount.toNat else 0
  | _ => 0

def credits (log : List Event) : List (Bytes × UInt64) := log.flatMap Event.credits

def totalCredits (log : List Event) : Nat := ((credits log).map fun c => c.2.toNat).sum

def paidFor (passkey : Bytes) (log : List Event) : Nat := (log.map (Event.paidFor passkey)).sum

variable (bk : BankKeeper β) (authority : Bytes) (accAddressFromBech32 : Bytes → Option Bytes)

def rewardStep (s : RewardState β) : RewardInput β → RewardState β × Event
  | .mint epoch approvals =>
    match mintDailyEmission bk (fun _ => approvals) s.emissions epoch with
    | (st, .error _) => ({ s with emissions := st }, .nothing)
    | (st, .ok emission) =>
      ({ s with emissions := st },
        .minted ⟨emission, creditsIn s.emissions.store (approvals.getD ∅)⟩)
  | .claim msg =>
    match claimContributorReward bk accAddressFromBech32 s.identity s.emissions msg with
    | .error _ => (s, .nothing)
    | .ok (st, paid) => ({ s with emissions := st }, .paid paid)
  | .updateParams msg =>
    match updateParams authority s.emissions.store msg with
    | .error _ => (s, .nothing)
    | .ok store => ({ s with emissions := { s.emissions with store := store } }, .nothing)
  | .environment bank identity => (⟨{ s.emissions with bank := bank }, identity⟩, .nothing)

def rewardSystem : Machine (RewardState β) (RewardInput β) Event :=
  ⟨rewardStep bk authority accAddressFromBech32⟩

def moduleUvibe (s : RewardState β) : Nat :=
  bk.moduleBalance s.emissions.bank emissionsModuleName uvibe

/-- Mints succeed, and the environment leaves the module account alone. -/
def Admissible (s : RewardState β) : RewardInput β → Prop
  | .mint epoch approvals =>
    ∃ emission, (mintDailyEmission bk (fun _ => approvals) s.emissions epoch).2 = .ok emission
  | .environment bank _ => bk.moduleBalance bank emissionsModuleName uvibe = moduleUvibe bk s
  | _ => True

end System

section Pending

def totalPending (s : Store) : Nat := s.contribReward.sumBy UInt64.toNat

theorem totalPending_write (s : Store) (addr : Bytes) (amount : UInt64) :
    (s.contribReward.set (contribRewardKey addr) amount).sumBy UInt64.toNat +
      (getContributorReward s addr).toNat = totalPending s + amount.toNat := by
  have h := s.contribReward.sumBy_set UInt64.toNat (contribRewardKey addr) amount
  unfold totalPending getContributorReward
  cases hget : s.contribReward.get (contribRewardKey addr) with
  | none =>
    rw [hget] at h
    exact h
  | some w =>
    rw [hget] at h
    exact h

theorem totalPending_add {s : Store} {addr : Bytes} {amount : UInt64}
    (hlt : (getContributorReward s addr).toNat + amount.toNat < 2 ^ 64) :
    totalPending (addContributorReward s addr amount) = totalPending s + amount.toNat := by
  have h := totalPending_write s addr (getContributorReward s addr + amount)
  rw [toNat_add_of_lt hlt] at h
  change (s.contribReward.set (contribRewardKey addr)
    (getContributorReward s addr + amount)).sumBy UInt64.toNat = _
  omega

theorem totalPending_clear (s : Store) (addr : Bytes) :
    totalPending (setContributorReward s addr 0) + (getContributorReward s addr).toNat =
      totalPending s :=
  totalPending_write s addr 0

/-- The reward loop adds its credits to the pending total when no address overflows. -/
theorem totalPending_addAll {s : Store} {credits : List (Bytes × UInt64)}
    (hlt : ∀ addr, (getContributorReward s addr).toNat + creditedTo addr credits < 2 ^ 64) :
    totalPending (addContributorRewards s credits) =
      totalPending s + (credits.map fun c => c.2.toNat).sum := by
  induction credits generalizing s with
  | nil => rfl
  | cons c credits ih =>
    have hhead : (getContributorReward s c.1).toNat + c.2.toNat < 2 ^ 64 := by
      have h := hlt c.1
      rw [creditedTo_cons, if_pos rfl] at h
      omega
    rw [addContributorRewards_cons, ih, totalPending_add hhead, List.map_cons, List.sum_cons,
      Nat.add_assoc]
    intro addr
    have h := hlt addr
    rw [creditedTo_cons] at h
    rw [getContributorReward_add]
    by_cases heq : addr = c.1
    · subst heq
      rw [if_pos rfl] at h
      rw [if_pos rfl, toNat_add_of_lt hhead]
      omega
    · rw [if_neg (Ne.symm heq)] at h
      rw [if_neg heq]
      omega

end Pending

section Step
variable {β : Type} {bk : BankKeeper β} (authority : Bytes)
variable (accAddressFromBech32 : Bytes → Option Bytes) {s : RewardState β}

/-- What a step does: nothing to the rewards, a whole mint, or a payment. -/
theorem rewardStep_cases (input : RewardInput β) (hadm : Admissible bk s input) :
    (∃ params bank identity,
      bk.moduleBalance bank emissionsModuleName uvibe = moduleUvibe bk s ∧
      rewardStep bk authority accAddressFromBech32 s input =
        (⟨⟨{ s.emissions.store with params := params }, bank⟩, identity⟩, .nothing)) ∨
    (∃ pool counts epoch bank,
      mintDistributed bk s.emissions.bank
        (distributedToContributors (getParams s.emissions.store) pool counts) = some bank ∧
      rewardStep bk authority accAddressFromBech32 s input =
        (⟨⟨mintedStore s.emissions.store pool counts epoch, bank⟩, s.identity⟩,
          .minted ⟨emissionOf (getParams s.emissions.store) pool counts epoch,
            contributorCredits (getParams s.emissions.store) pool counts⟩)) ∨
    ∃ passkey wallet recipient bank,
      Identity.resolveIdentity s.identity passkey = some (wallet, true) ∧
      accAddressFromBech32 wallet = some recipient ∧
      bk.sendCoinsFromModuleToAccount s.emissions.bank emissionsModuleName recipient
        (uvibeCoin (getContributorReward s.emissions.store passkey)) = some bank ∧
      rewardStep bk authority accAddressFromBech32 s input =
        (⟨⟨setContributorReward s.emissions.store passkey 0, bank⟩, s.identity⟩,
          .paid ⟨passkey, recipient, getContributorReward s.emissions.store passkey⟩) := by
  cases input with
  | environment bank identity =>
    exact Or.inl ⟨s.emissions.store.params, bank, identity, hadm, rfl⟩
  | updateParams msg =>
    left
    cases h : updateParams authority s.emissions.store msg with
    | error e =>
      refine ⟨s.emissions.store.params, s.emissions.bank, s.identity, rfl, ?_⟩
      simp [rewardStep, h]
    | ok store =>
      have hstore := updateParams_ok authority h
      refine ⟨some msg.params, s.emissions.bank, s.identity, rfl, ?_⟩
      simp [rewardStep, h, hstore]
  | mint epoch approvals =>
    right
    left
    obtain ⟨emission, hok⟩ := hadm
    have hend := mintDailyEmission_end bk (fun _ => approvals) s.emissions epoch
    generalize hresult : mintDailyEmission bk (fun _ => approvals) s.emissions epoch = result
      at hend hok
    cases hend with
    | noPool _ => cases hok
    | notAfter _ _ _ => cases hok
    | bankFailed _ _ _ _ => cases hok
    | poolRefused _ _ _ _ _ _ => cases hok
    | minted pool bank hpool _ hbank _ =>
      refine ⟨pool, approvals.getD ∅, epoch, bank, hbank, ?_⟩
      simp [rewardStep, hresult, creditsIn, hpool]
  | claim msg =>
    cases h : claimContributorReward bk accAddressFromBech32 s.identity s.emissions msg with
    | error e =>
      left
      refine ⟨s.emissions.store.params, s.emissions.bank, s.identity, rfl, ?_⟩
      simp [rewardStep, h]
    | ok result =>
      obtain ⟨st, paid⟩ := result
      obtain ⟨recipient, bank, hresolve, hrecipient, hsend, rfl, rfl⟩ :=
        claimContributorReward_ok bk accAddressFromBech32 h
      right
      right
      refine ⟨msg.passkeyPubkey, msg.signer, recipient, bank, hresolve, hrecipient, hsend, ?_⟩
      simp [rewardStep, h]

end Step

section Backing
variable {β : Type} {bk : BankKeeper β} {s : RewardState β} {log : List Event}

/-- The account, the pending rewards and the lifetime rewards agree with the history. -/
structure Backed (bk : BankKeeper β) (s : RewardState β) (log : List Event) : Prop where
  balance : moduleUvibe bk s = totalPending s.emissions.store
  pending : ∀ passkey, (getContributorReward s.emissions.store passkey).toNat +
    paidFor passkey log = creditedTo passkey (credits log)
  lifetime : ∀ passkey, (getLifetimeContributorReward s.emissions.store passkey).toNat =
    creditedTo passkey (credits log)

theorem mintDistributed_balance (hexact : bk.Exact) {bank bank' : β} {amount : UInt64}
    (h : mintDistributed bk bank amount = some bank') :
    bk.moduleBalance bank' emissionsModuleName uvibe =
      bk.moduleBalance bank emissionsModuleName uvibe + amount.toNat := by
  unfold mintDistributed at h
  split at h
  · exact hexact.mint h
  · rename_i hpos
    have hzero : amount.toNat = 0 := Nat.le_zero.mp (UInt64.le_iff_toNat_le.mp (UInt64.not_lt.mp hpos))
    rw [hzero, ← Option.some.inj h, Nat.add_zero]

theorem credits_concat (log : List Event) (e : Event) :
    credits (log ++ [e]) = credits log ++ e.credits := by
  simp [credits]

theorem totalCredits_concat (log : List Event) (e : Event) :
    totalCredits (log ++ [e]) = totalCredits log + (e.credits.map fun c => c.2.toNat).sum := by
  unfold totalCredits
  rw [credits_concat, List.map_append, List.sum_append]

theorem paidFor_concat (passkey : Bytes) (log : List Event) (e : Event) :
    paidFor passkey (log ++ [e]) = paidFor passkey log + e.paidFor passkey := by
  simp [paidFor]

theorem Backed.quiet (h : Backed bk s log) {bank : β} (params : Option Params)
    (identity : Identity.Store)
    (hbank : bk.moduleBalance bank emissionsModuleName uvibe = moduleUvibe bk s) :
    Backed bk ⟨⟨{ s.emissions.store with params := params }, bank⟩, identity⟩
      (log ++ [.nothing]) := by
  refine ⟨hbank.trans h.balance, ?_, ?_⟩
  · intro passkey
    rw [paidFor_concat, credits_concat, creditedTo_append]
    exact h.pending passkey
  · intro passkey
    rw [credits_concat, creditedTo_append]
    exact h.lifetime passkey

/-- A mint adds its credits to the account, to the pending and to the lifetime rewards. The
pending reward of an address never exceeds its credits, so the bound on all credits covers it. -/
theorem Backed.mint (h : Backed bk s log) (hexact : bk.Exact) {pool : EmissionPool}
    {counts : OrderedMap Bytes UInt64} {bank : β}
    (hbank : mintDistributed bk s.emissions.bank
      (distributedToContributors (getParams s.emissions.store) pool counts) = some bank)
    (epoch : UInt64) {m : Minted}
    (hm : m.credits = contributorCredits (getParams s.emissions.store) pool counts)
    (htotal : totalCredits (log ++ [.minted m]) < 2 ^ 64) :
    Backed bk ⟨⟨mintedStore s.emissions.store pool counts epoch, bank⟩, s.identity⟩
      (log ++ [.minted m]) := by
  rw [totalCredits_concat] at htotal
  have hbound : ∀ addr, creditedTo addr (credits log) + creditedTo addr m.credits < 2 ^ 64 := by
    intro addr
    have hold := creditedTo_le_sum addr (credits log)
    have hnew := creditedTo_le_sum addr m.credits
    change totalCredits log + (m.credits.map fun c => c.2.toNat).sum < 2 ^ 64 at htotal
    unfold totalCredits at htotal
    omega
  have hpending : ∀ addr, (getContributorReward s.emissions.store addr).toNat +
      creditedTo addr m.credits < 2 ^ 64 := by
    intro addr
    have hold := h.pending addr
    have hlt := hbound addr
    omega
  refine ⟨?_, ?_, ?_⟩
  · have hstore : totalPending (mintedStore s.emissions.store pool counts epoch) =
        totalPending (addContributorRewards s.emissions.store m.credits) := by
      rw [hm]
      rfl
    change bk.moduleBalance bank emissionsModuleName uvibe = _
    rw [mintDistributed_balance hexact hbank, hstore, totalPending_addAll hpending, ← h.balance, hm,
      sum_contributorCredits]
    rfl
  · intro passkey
    have hold := h.pending passkey
    have hlt := hpending passkey
    rw [paidFor_concat, credits_concat, creditedTo_append, getContributorReward_minted, ← hm,
      toNat_add_ofNat_of_lt hlt]
    change _ + (paidFor passkey log + 0) = _ + creditedTo passkey m.credits
    omega
  · intro passkey
    have hold := h.lifetime passkey
    have hlt := hbound passkey
    rw [← hold] at hlt
    rw [credits_concat, creditedTo_append, getLifetimeContributorReward_minted, ← hm,
      toNat_add_ofNat_of_lt hlt, hold]
    rfl

/-- A payment takes a whole pending reward out of the account. -/
theorem Backed.pay (h : Backed bk s log) (hexact : bk.Exact) {passkey recipient : Bytes} {bank : β}
    (hsend : bk.sendCoinsFromModuleToAccount s.emissions.bank emissionsModuleName recipient
      (uvibeCoin (getContributorReward s.emissions.store passkey)) = some bank) :
    Backed bk ⟨⟨setContributorReward s.emissions.store passkey 0, bank⟩, s.identity⟩
      (log ++ [.paid ⟨passkey, recipient, getContributorReward s.emissions.store passkey⟩]) := by
  refine ⟨?_, ?_, ?_⟩
  · have hmove := (hexact.send hsend).1
    have hclear := totalPending_clear s.emissions.store passkey
    have hold := h.balance
    change bk.moduleBalance bank emissionsModuleName uvibe +
      (getContributorReward s.emissions.store passkey).toNat = moduleUvibe bk s at hmove
    change bk.moduleBalance bank emissionsModuleName uvibe =
      totalPending (setContributorReward s.emissions.store passkey 0)
    omega
  · intro other
    have hold := h.pending other
    rw [paidFor_concat, credits_concat, creditedTo_append, getContributorReward_set]
    change _ + (paidFor other log + if passkey = other then _ else 0) = _ + 0
    by_cases heq : other = passkey
    · subst heq
      rw [if_pos rfl, if_pos rfl]
      change 0 + (paidFor other log + (getContributorReward s.emissions.store other).toNat) = _
      omega
    · rw [if_neg heq, if_neg (Ne.symm heq)]
      exact hold
  · intro other
    rw [credits_concat, creditedTo_append]
    exact h.lifetime other

/-- The invariant up to the point where the credits no longer fit. -/
theorem backed_step (hexact : bk.Exact) (authority : Bytes)
    (accAddressFromBech32 : Bytes → Option Bytes) (input : RewardInput β)
    (h : totalCredits log < 2 ^ 64 → Backed bk s log) (hadm : Admissible bk s input)
    (htotal : totalCredits
      (log ++ [(rewardSystem bk authority accAddressFromBech32).output s input]) < 2 ^ 64) :
    Backed bk ((rewardSystem bk authority accAddressFromBech32).next s input)
      (log ++ [(rewardSystem bk authority accAddressFromBech32).output s input]) := by
  have hbacked : Backed bk s log := by
    apply h
    rw [totalCredits_concat] at htotal
    omega
  simp only [rewardSystem, Machine.next, Machine.output] at htotal ⊢
  rcases rewardStep_cases authority accAddressFromBech32 input hadm with
    ⟨params, bank, identity, hbank, hstep⟩ | ⟨pool, counts, epoch, bank, hbank, hstep⟩ |
    ⟨passkey, wallet, recipient, bank, _, _, hsend, hstep⟩
  all_goals rw [hstep] at htotal ⊢
  · exact hbacked.quiet params identity hbank
  · exact hbacked.mint hexact hbank epoch rfl htotal
  · exact hbacked.pay hexact hsend

theorem backed_start (hpending : s.emissions.store.contribReward = ∅)
    (hlifetime : s.emissions.store.lifetimeReward = ∅) (hbalance : moduleUvibe bk s = 0) :
    Backed bk s [] := by
  refine ⟨?_, ?_, ?_⟩
  · rw [hbalance, totalPending, hpending]
    rfl
  · intro passkey
    rw [getContributorReward, hpending]
    rfl
  · intro passkey
    rw [getLifetimeContributorReward, hlifetime]
    rfl

end Backing

section Run
variable {β : Type} {bk : BankKeeper β} (authority : Bytes)
variable (accAddressFromBech32 : Bytes → Option Bytes)

/-- A payment in this step goes to the wallet the passkey is bound to in this state: its account
receives exactly the amount, and no other account changes. -/
def PaysBoundWallet (bk : BankKeeper β) (s : RewardState β) (input : RewardInput β) : Prop :=
  ∀ p, (rewardSystem bk authority accAddressFromBech32).output s input = .paid p →
    ∃ wallet, Identity.resolveIdentity s.identity p.passkeyPubkey = some (wallet, true) ∧
      accAddressFromBech32 wallet = some p.recipient ∧
      bk.accountBalance ((rewardSystem bk authority accAddressFromBech32).next s input).emissions.bank
          p.recipient uvibe =
        bk.accountBalance s.emissions.bank p.recipient uvibe + p.amount.toNat ∧
      ∀ other, other ≠ p.recipient →
        bk.accountBalance
            ((rewardSystem bk authority accAddressFromBech32).next s input).emissions.bank
            other uvibe =
          bk.accountBalance s.emissions.bank other uvibe

theorem paysBoundWallet_step (hexact : bk.Exact) {s : RewardState β} {input : RewardInput β}
    (hadm : Admissible bk s input) :
    PaysBoundWallet authority accAddressFromBech32 bk s input := by
  intro p hp
  simp only [rewardSystem, Machine.next, Machine.output] at hp ⊢
  rcases rewardStep_cases authority accAddressFromBech32 input hadm with
    ⟨_, _, _, _, hstep⟩ | ⟨_, _, _, _, _, hstep⟩ |
    ⟨passkey, wallet, recipient, bank, hresolve, hrecipient, hsend, hstep⟩
  all_goals rw [hstep] at hp ⊢
  · cases hp
  · cases hp
  · obtain rfl := Event.paid.inj hp
    exact ⟨wallet, hresolve, hrecipient, (hexact.send hsend).2⟩

/-- From no rewards and an empty account, the account always holds exactly the pending rewards,
a lifetime reward is the pending reward and what was paid, and payments reach the bound wallet. -/
theorem rewards_backed (hexact : bk.Exact) {s : RewardState β}
    (hpending : s.emissions.store.contribReward = ∅)
    (hlifetime : s.emissions.store.lifetimeReward = ∅) (hbalance : moduleUvibe bk s = 0)
    (inputs : List (RewardInput β))
    (hrun : (rewardSystem bk authority accAddressFromBech32).Along (Admissible bk) s inputs)
    (htotal : totalCredits
      ((rewardSystem bk authority accAddressFromBech32).history s inputs) < 2 ^ 64) :
    moduleUvibe bk ((rewardSystem bk authority accAddressFromBech32).run s inputs) =
        totalPending
          ((rewardSystem bk authority accAddressFromBech32).run s inputs).emissions.store ∧
      (∀ passkey,
        (getLifetimeContributorReward
          ((rewardSystem bk authority accAddressFromBech32).run s inputs).emissions.store
          passkey).toNat =
        (getContributorReward
          ((rewardSystem bk authority accAddressFromBech32).run s inputs).emissions.store
          passkey).toNat +
        paidFor passkey ((rewardSystem bk authority accAddressFromBech32).history s inputs)) ∧
      (rewardSystem bk authority accAddressFromBech32).Along
        (PaysBoundWallet authority accAddressFromBech32 bk) s inputs := by
  have hend := (rewardSystem bk authority accAddressFromBech32).run_history_invariant
    (I := fun s log => totalCredits log < 2 ^ 64 → Backed bk s log)
    (fun s log input h hadm => backed_step hexact authority accAddressFromBech32 input h hadm)
    (fun _ => backed_start hpending hlifetime hbalance) hrun
  have hbacked : Backed bk ((rewardSystem bk authority accAddressFromBech32).run s inputs)
      ((rewardSystem bk authority accAddressFromBech32).history s inputs) := hend htotal
  refine ⟨hbacked.balance, ?_, ?_⟩
  · intro passkey
    rw [hbacked.lifetime]
    exact (hbacked.pending passkey).symm
  · exact (rewardSystem bk authority accAddressFromBech32).along_of_invariant
      (I := fun _ => True) (fun _ _ _ _ => trivial)
      (fun _ _ _ hadm => paysBoundWallet_step authority accAddressFromBech32 hexact hadm)
      trivial hrun

end Run

section Sample

/-- A passkey in hex, the wallet it is bound to, and that wallet's decoded address. -/
def samplePasskey : Bytes :=
  Bytes.ascii "000102030405060708090a0b0c0d0e0f101112131415161718191a1b1c1d1e1f"

def sampleWallet : Bytes := Bytes.ascii "wevibe1qypqxpq9qcrsszg2pvxq6rs0zqg3yyc55dw8g0"

def sampleAddress : Bytes := [1, 2, 3, 4, 5, 6, 7, 8, 9, 10, 11, 12, 13, 14, 15, 16, 17, 18, 19, 20]

def sampleDecode (text : Bytes) : Option Bytes :=
  if text = sampleWallet then some sampleAddress else none

def sampleState : RewardState Ledger where
  emissions := ⟨initGenesis {} defaultGenesis, {}⟩
  identity := Identity.setAlias {} ⟨samplePasskey, sampleWallet, true, 1⟩

/-- A mint for one contributor, a claim by a stranger, the claim, and a second claim. -/
def sampleRun : List (RewardInput Ledger) :=
  [.mint 1 (some ((∅ : OrderedMap Bytes UInt64).set samplePasskey 1)),
    .claim ⟨[120], samplePasskey⟩, .claim ⟨sampleWallet, samplePasskey⟩,
    .claim ⟨sampleWallet, samplePasskey⟩]

theorem rewards_backed_sample :
    paidFor samplePasskey ((rewardSystem Ledger.keeper [] sampleDecode).history sampleState
        sampleRun) = 27397260273 ∧
      moduleUvibe Ledger.keeper
          ((rewardSystem Ledger.keeper [] sampleDecode).run sampleState sampleRun) =
        totalPending
          ((rewardSystem Ledger.keeper [] sampleDecode).run sampleState sampleRun).emissions.store :=
  ⟨by decide +kernel, (rewards_backed [] sampleDecode Ledger.keeper_exact rfl rfl rfl sampleRun
    ⟨⟨_, rfl⟩, trivial, trivial, trivial, trivial⟩ (by decide +kernel)).1⟩

end Sample

end WeVibeChain.Emissions
