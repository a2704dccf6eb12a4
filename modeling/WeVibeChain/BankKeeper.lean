import WeVibeChain.Shared.Bytes
import WeVibeChain.Shared.OrderedMap
import Mathlib.Data.Prod.Lex

/-!
# The bank, as the WeVibe modules see it

x/bank is not part of this repository. It is a parameter: an unknown state, the
two calls that x/emissions makes, and the balances that statements speak of.
`BankKeeper.Exact` is the behaviour the module relies on. `Ledger` is a small
bank that has it.
-/

set_option autoImplicit false

namespace WeVibeChain

open Bytes

structure Coin where
  denom : Bytes
  amount : Nat
  deriving DecidableEq, Repr

/-- The calls made on x/bank, where `none` is a failed call, and the balances it keeps. -/
structure BankKeeper (β : Type) where
  mintCoins : β → Bytes → Coin → Option β
  sendCoinsFromModuleToAccount : β → Bytes → Bytes → Coin → Option β
  moduleBalance : β → Bytes → Bytes → Nat
  accountBalance : β → Bytes → Bytes → Nat

def uvibe : Bytes := ascii "uvibe"

def uvibeCoin (amount : UInt64) : Coin := ⟨uvibe, amount.toNat⟩

namespace BankKeeper
variable {β : Type}

/-- Mints and sends move exactly the requested amount; a failed call has no new state at all. -/
structure Exact (bk : BankKeeper β) : Prop where
  mint : ∀ {bank bank' : β} {name : Bytes} {coin : Coin}, bk.mintCoins bank name coin = some bank' →
    bk.moduleBalance bank' name coin.denom = bk.moduleBalance bank name coin.denom + coin.amount
  send : ∀ {bank bank' : β} {name recipient : Bytes} {coin : Coin},
    bk.sendCoinsFromModuleToAccount bank name recipient coin = some bank' →
    bk.moduleBalance bank' name coin.denom + coin.amount = bk.moduleBalance bank name coin.denom ∧
      bk.accountBalance bank' recipient coin.denom =
        bk.accountBalance bank recipient coin.denom + coin.amount ∧
      ∀ other, other ≠ recipient →
        bk.accountBalance bank' other coin.denom = bk.accountBalance bank other coin.denom

def MintsAlways (bk : BankKeeper β) : Prop :=
  ∀ bank name coin, (bk.mintCoins bank name coin).isSome

end BankKeeper

/-- Balances of module accounts by name and of other accounts by address, in each denomination. -/
structure Ledger where
  modules : OrderedMap (Lex (Bytes × Bytes)) Nat := ∅
  accounts : OrderedMap (Lex (Bytes × Bytes)) Nat := ∅
  deriving DecidableEq

namespace Ledger

def moduleBalance (l : Ledger) (name denom : Bytes) : Nat :=
  (l.modules.get (toLex (name, denom))).getD 0

def accountBalance (l : Ledger) (addr denom : Bytes) : Nat :=
  (l.accounts.get (toLex (addr, denom))).getD 0

def mint (l : Ledger) (name : Bytes) (coin : Coin) : Ledger :=
  { l with
    modules := l.modules.set (toLex (name, coin.denom))
      (l.moduleBalance name coin.denom + coin.amount) }

def send (l : Ledger) (name recipient : Bytes) (coin : Coin) : Option Ledger :=
  if coin.amount ≤ l.moduleBalance name coin.denom then
    some
      { modules := l.modules.set (toLex (name, coin.denom))
          (l.moduleBalance name coin.denom - coin.amount)
        accounts := l.accounts.set (toLex (recipient, coin.denom))
          (l.accountBalance recipient coin.denom + coin.amount) }
  else none

def keeper : BankKeeper Ledger where
  mintCoins l name coin := some (l.mint name coin)
  sendCoinsFromModuleToAccount := send
  moduleBalance := moduleBalance
  accountBalance := accountBalance

theorem keeper_mintsAlways : keeper.MintsAlways := fun _ _ _ => rfl

theorem keeper_exact : keeper.Exact where
  mint := by
    intro bank bank' name coin h
    obtain rfl := Option.some.inj h
    simp [keeper, moduleBalance, mint]
  send := by
    intro bank bank' name recipient coin h
    change send bank name recipient coin = some bank' at h
    unfold send at h
    split at h
    · rename_i hle
      obtain rfl := Option.some.inj h
      refine ⟨?_, ?_, ?_⟩
      · simp only [keeper, moduleBalance, OrderedMap.get_set_self, Option.getD_some] at hle ⊢
        omega
      · simp [keeper, accountBalance]
      · intro other hne
        have hkey : toLex (other, coin.denom) ≠ toLex (recipient, coin.denom) := by
          intro heq
          exact hne (congrArg Prod.fst (toLex_inj.mp heq))
        simp only [keeper, accountBalance]
        rw [OrderedMap.get_set_of_ne _ _ hkey]
    · cases h

end Ledger

end WeVibeChain
