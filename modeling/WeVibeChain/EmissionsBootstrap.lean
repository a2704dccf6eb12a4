import Mathlib.Logic.Function.Basic
import WeVibeChain.EmissionsKeeper
import WeVibeChain.Shared.Machine
import WeVibeChain.Shared.Words

/-!
# x/emissions: bootstrap credits and their pool

A redemption is checked against the credits of its operator and is then taken from
the pool of all operators, without a check and in 64 bits. What the operators can
redeem depends on the calls alone and is kept here in a ledger of unbounded
numbers. The pool follows the ledger up to a multiple of 2^64, so it goes right as
long as the ledger stays within what the pool held at first.
-/

set_option autoImplicit false

namespace WeVibeChain.Emissions

section Calls

inductive BootstrapCall where
  | add (operatorID : Bytes) (credits : UInt64)
  | redeem (operatorID : Bytes) (amount : UInt64)

/-- A failed redemption returns before it writes. -/
def bootstrapStep (s : Store) : BootstrapCall → Store × Except Error Unit
  | .add operatorID credits => (addBootstrapCredit s operatorID credits, .ok ())
  | .redeem operatorID amount =>
    match redeemBootstrapCredit s operatorID amount with
    | .error e => (s, .error e)
    | .ok s' => (s', .ok ())

def bootstrapCalls : Machine Store BootstrapCall (Except Error Unit) := ⟨bootstrapStep⟩

/-- The amount of a successful redemption. -/
def BootstrapCall.taken : BootstrapCall → Except Error Unit → Nat
  | .redeem _ amount, .ok () => amount.toNat
  | .redeem _ _, .error _ => 0
  | .add _ _, _ => 0

/-- All successful redemptions of a run together. -/
def redemptions (s : Store) (calls : List BootstrapCall) : Nat :=
  (List.zipWith BootstrapCall.taken calls (bootstrapCalls.history s calls)).sum

def BootstrapCall.grantTo (operatorID : Bytes) : BootstrapCall → Nat
  | .add id credits => if id = operatorID then credits.toNat else 0
  | .redeem _ _ => 0

def BootstrapCall.grant : BootstrapCall → Nat
  | .add _ credits => credits.toNat
  | .redeem _ _ => 0

def grantedTo (operatorID : Bytes) (calls : List BootstrapCall) : Nat :=
  (calls.map (BootstrapCall.grantTo operatorID)).sum

def totalGranted (calls : List BootstrapCall) : Nat := (calls.map BootstrapCall.grant).sum

theorem grantTo_le_grant (operatorID : Bytes) (call : BootstrapCall) :
    call.grantTo operatorID ≤ call.grant := by
  cases call with
  | add id credits =>
    simp only [BootstrapCall.grantTo, BootstrapCall.grant]
    split
    · exact Nat.le_refl _
    · exact Nat.zero_le _
  | redeem id amount => exact Nat.le_refl 0

theorem grantedTo_le_totalGranted (operatorID : Bytes) (calls : List BootstrapCall) :
    grantedTo operatorID calls ≤ totalGranted calls := by
  induction calls with
  | nil => exact Nat.le_refl 0
  | cons call calls ih => exact Nat.add_le_add (grantTo_le_grant operatorID call) ih

end Calls

section Ledger

/-- The credits of each operator and what is redeemed of them, and everything redeemed. -/
structure CreditLedger where
  granted : Bytes → Nat := fun _ => 0
  redeemed : Bytes → Nat := fun _ => 0
  total : Nat := 0

namespace CreditLedger

def grantCredits (l : CreditLedger) (id : Bytes) (n : Nat) : CreditLedger :=
  { l with granted := Function.update l.granted id (l.granted id + n) }

def take (l : CreditLedger) (id : Bytes) (n : Nat) : CreditLedger :=
  { l with redeemed := Function.update l.redeemed id (l.redeemed id + n), total := l.total + n }

theorem granted_grantCredits (l : CreditLedger) (id id' : Bytes) (n : Nat) :
    (l.grantCredits id n).granted id' = if id' = id then l.granted id + n else l.granted id' :=
  Function.update_apply ..

theorem redeemed_take (l : CreditLedger) (id id' : Bytes) (n : Nat) :
    (l.take id n).redeemed id' = if id' = id then l.redeemed id + n else l.redeemed id' :=
  Function.update_apply ..

/-- Redeeming is `live` and the operator's credits cover the amount. -/
def Covers (live : Bool) (l : CreditLedger) (id : Bytes) (n : Nat) : Prop :=
  live = true ∧ l.redeemed id + n ≤ l.granted id

instance decidableCovers (live : Bool) (l : CreditLedger) (id : Bytes) (n : Nat) :
    Decidable (Covers live l id n) :=
  inferInstanceAs (Decidable (_ ∧ _))

def next (live : Bool) (l : CreditLedger) : BootstrapCall → CreditLedger
  | .add id credits => l.grantCredits id credits.toNat
  | .redeem id amount => if Covers live l id amount.toNat then l.take id amount.toNat else l

def ofCalls (live : Bool) (calls : List BootstrapCall) : CreditLedger :=
  calls.foldl (next live) {}

variable {live : Bool}

theorem ofCalls_append_singleton (calls : List BootstrapCall) (call : BootstrapCall) :
    ofCalls live (calls ++ [call]) = (ofCalls live calls).next live call := by
  rw [ofCalls, List.foldl_append]
  rfl

theorem granted_next (l : CreditLedger) (call : BootstrapCall) (id : Bytes) :
    (l.next live call).granted id = l.granted id + call.grantTo id := by
  cases call with
  | add id' credits =>
    simp only [next, granted_grantCredits, BootstrapCall.grantTo]
    by_cases h : id = id'
    · rw [if_pos h, if_pos h.symm, h]
    · rw [if_neg h, if_neg (Ne.symm h), Nat.add_zero]
  | redeem id' amount =>
    simp only [next]
    split
    · rfl
    · rfl

theorem granted_ofCalls (calls : List BootstrapCall) (id : Bytes) :
    (ofCalls live calls).granted id = grantedTo id calls := by
  induction calls using List.reverseRecOn with
  | nil => rfl
  | append_singleton calls call ih =>
    rw [ofCalls_append_singleton, granted_next, ih]
    simp [grantedTo]

theorem total_le_next (l : CreditLedger) (call : BootstrapCall) :
    l.total ≤ (l.next live call).total := by
  cases call with
  | add id credits => exact Nat.le_refl _
  | redeem id amount =>
    simp only [next]
    split
    · exact Nat.le_add_right _ _
    · exact Nat.le_refl _

theorem total_le_append (live : Bool) (before after : List BootstrapCall) :
    (ofCalls live before).total ≤ (ofCalls live (before ++ after)).total := by
  induction after using List.reverseRecOn with
  | nil => rw [List.append_nil]
  | append_singleton after call ih =>
    rw [← List.append_assoc, ofCalls_append_singleton]
    exact ih.trans (total_le_next _ call)

end CreditLedger

end Ledger

section Agreement
variable {s s' : Store} {l : CreditLedger} {budget : UInt64} {live : Bool} {id : Bytes}
  {amount credits : UInt64}

/-- The records are those of the ledger. The pool is what the ledger leaves of the budget, up to a
multiple of 2^64. -/
structure Agrees (budget : UInt64) (live : Bool) (s : Store) (l : CreditLedger) : Prop where
  live : decide (getBootstrapExpiry s ≠ 0) = live
  credits : ∀ id, (getBootstrapCredit s id).credits.toNat = l.granted id
  redeemed : ∀ id, (getBootstrapCredit s id).redeemed.toNat = l.redeemed id
  within : ∀ id, l.redeemed id ≤ l.granted id
  pool : ∃ p, s.bootstrapPool = some p ∧ (p.toNat + l.total) % 2 ^ 64 = budget.toNat

theorem credits_addBootstrapCredit (s : Store) (id id' : Bytes) (credits : UInt64) :
    (getBootstrapCredit (addBootstrapCredit s id credits) id').credits =
      if id' = id then (getBootstrapCredit s id).credits + credits
      else (getBootstrapCredit s id').credits := by
  simp only [getBootstrapCredit, addBootstrapCredit, OrderedMap.get_set, bootstrapKey_inj]
  split
  · cases s.bootstrap.get (bootstrapKey id) with
    | none => simp [newBootstrapCredit]
    | some existing => rfl
  · rfl

theorem redeemed_addBootstrapCredit (s : Store) (id id' : Bytes) (credits : UInt64) :
    (getBootstrapCredit (addBootstrapCredit s id credits) id').redeemed =
      (getBootstrapCredit s id').redeemed := by
  simp only [getBootstrapCredit, addBootstrapCredit, OrderedMap.get_set, bootstrapKey_inj]
  split
  · rename_i heq
    rw [heq]
    cases s.bootstrap.get (bootstrapKey id) with
    | none => rfl
    | some existing => rfl
  · rfl

theorem Agrees.add (h : Agrees budget live s l) (hlt : l.granted id + credits.toNat < 2 ^ 64) :
    Agrees budget live (addBootstrapCredit s id credits) (l.grantCredits id credits.toNat) := by
  have hadd := Words.toNat_add_of_lt (a := (getBootstrapCredit s id).credits) (b := credits)
    (by rw [h.credits]; exact hlt)
  refine ⟨h.live, fun id' => ?_, fun id' => ?_, fun id' => ?_, h.pool⟩
  · rw [credits_addBootstrapCredit, CreditLedger.granted_grantCredits]
    split
    · rw [hadd, h.credits]
    · exact h.credits id'
  · rw [redeemed_addBootstrapCredit]
    exact h.redeemed id'
  · rw [CreditLedger.granted_grantCredits]
    split
    · rename_i heq
      rw [heq]
      exact (h.within id).trans (Nat.le_add_right _ _)
    · exact h.within id'

/-- The check in 64 bits is the one of the ledger. -/
theorem Agrees.canRedeem_iff (h : Agrees budget live s l) :
    (getBootstrapCredit s id).canRedeem amount = true ↔
      l.redeemed id + amount.toNat ≤ l.granted id := by
  have hwithin := h.within id
  have hsub := Words.toNat_sub_of_toNat_le (a := (getBootstrapCredit s id).credits)
    (b := (getBootstrapCredit s id).redeemed) (by rw [h.credits, h.redeemed]; exact hwithin)
  rw [h.credits, h.redeemed] at hsub
  rw [BootstrapCredit.canRedeem, decide_eq_true_eq, ge_iff_le, UInt64.le_iff_toNat_le, hsub]
  omega

/-- What a successful redemption makes of the store. -/
def redeemedStore (s : Store) (id : Bytes) (amount : UInt64) : Store :=
  { s with
    bootstrap := s.bootstrap.set (bootstrapKey id)
      { getBootstrapCredit s id with redeemed := (getBootstrapCredit s id).redeemed + amount }
    bootstrapPool := some ((getBootstrapCredits s).toOption.getD 0 - amount) }

theorem getBootstrapCredit_redeemedStore (s : Store) (id id' : Bytes) (amount : UInt64) :
    getBootstrapCredit (redeemedStore s id amount) id' =
      if id' = id then
        { getBootstrapCredit s id with redeemed := (getBootstrapCredit s id).redeemed + amount }
      else getBootstrapCredit s id' := by
  unfold redeemedStore
  rw [getBootstrapCredit, OrderedMap.get_set]
  simp only [bootstrapKey_inj]
  split
  · rfl
  · rfl

theorem credits_redeemedStore (s : Store) (id id' : Bytes) (amount : UInt64) :
    (getBootstrapCredit (redeemedStore s id amount) id').credits =
      (getBootstrapCredit s id').credits := by
  rw [getBootstrapCredit_redeemedStore]
  split
  · rename_i heq
    rw [heq]
  · rfl

theorem redeemed_redeemedStore (s : Store) (id id' : Bytes) (amount : UInt64) :
    (getBootstrapCredit (redeemedStore s id amount) id').redeemed =
      if id' = id then (getBootstrapCredit s id).redeemed + amount
      else (getBootstrapCredit s id').redeemed := by
  rw [getBootstrapCredit_redeemedStore]
  split
  · rfl
  · rfl

/-- A redemption succeeds exactly if the ledger covers it. -/
theorem Agrees.step_redeem (h : Agrees budget live s l) (id : Bytes) (amount : UInt64) :
    (l.Covers live id amount.toNat ∧
        bootstrapStep s (.redeem id amount) = (redeemedStore s id amount, .ok ())) ∨
      (¬ l.Covers live id amount.toNat ∧
        ∃ e, bootstrapStep s (.redeem id amount) = (s, .error e)) := by
  have hcovers : l.Covers live id amount.toNat ↔
      getBootstrapExpiry s ≠ 0 ∧ (getBootstrapCredit s id).canRedeem amount = true := by
    rw [h.canRedeem_iff, CreditLedger.Covers, ← h.live, decide_eq_true_eq]
  simp only [hcovers, bootstrapStep, redeemBootstrapCredit]
  by_cases hexpiry : getBootstrapExpiry s = 0
  · rw [if_pos hexpiry]
    exact Or.inr ⟨fun hboth => hboth.1 hexpiry, _, rfl⟩
  · rw [if_neg hexpiry, BootstrapCredit.redeem]
    cases hcan : (getBootstrapCredit s id).canRedeem amount with
    | false => exact Or.inr ⟨fun hboth => Bool.false_ne_true hboth.2, _, rfl⟩
    | true => exact Or.inl ⟨⟨hexpiry, rfl⟩, rfl⟩

theorem Agrees.redeem (h : Agrees budget live s l) (hcovers : l.Covers live id amount.toNat) :
    Agrees budget live (redeemedStore s id amount) (l.take id amount.toNat) := by
  obtain ⟨p, hpool, hbudget⟩ := h.pool
  have hbound := (getBootstrapCredit s id).credits.toNat_lt
  have hadd := Words.toNat_add_of_lt (a := (getBootstrapCredit s id).redeemed) (b := amount) (by
    have hcovered := hcovers.2
    rw [h.redeemed]
    rw [h.credits] at hbound
    omega)
  refine ⟨h.live, fun id' => ?_, fun id' => ?_, fun id' => ?_, p - amount, ?_, ?_⟩
  · rw [credits_redeemedStore]
    exact h.credits id'
  · rw [redeemed_redeemedStore, CreditLedger.redeemed_take]
    split
    · rw [hadd, h.redeemed]
    · exact h.redeemed id'
  · rw [CreditLedger.redeemed_take]
    split
    · rename_i heq
      rw [heq]
      exact hcovers.2
    · exact h.within id'
  · rw [redeemedStore, getBootstrapCredits, hpool]
    rfl
  · have hamount := amount.toNat_lt
    change ((p - amount).toNat + (l.total + amount.toNat)) % 2 ^ 64 = budget.toNat
    rw [UInt64.toNat_sub]
    omega

/-- A call does to the store what it does to the ledger. -/
theorem Agrees.next (h : Agrees budget live s l) (call : BootstrapCall)
    (hlt : ∀ id, l.granted id + call.grantTo id < 2 ^ 64) :
    Agrees budget live (bootstrapCalls.next s call) (l.next live call) ∧
      (l.next live call).total = l.total + call.taken (bootstrapCalls.output s call) := by
  cases call with
  | add id credits =>
    have hgrant := hlt id
    rw [BootstrapCall.grantTo, if_pos rfl] at hgrant
    exact ⟨h.add hgrant, rfl⟩
  | redeem id amount =>
    change Agrees budget live (bootstrapStep s (.redeem id amount)).1 _ ∧
      _ = l.total + BootstrapCall.taken _ (bootstrapStep s (.redeem id amount)).2
    rcases h.step_redeem id amount with ⟨hcovers, hok⟩ | ⟨hnot, e, herror⟩
    · rw [hok, CreditLedger.next, if_pos hcovers]
      exact ⟨h.redeem hcovers, rfl⟩
    · rw [herror, CreditLedger.next, if_neg hnot]
      exact ⟨h, rfl⟩

end Agreement

section Runs
variable {s : Store} {budget : UInt64} {calls : List BootstrapCall}

/-- The pool holds the budget and no operator has credits. -/
structure BootstrapStart (budget : UInt64) (s : Store) : Prop where
  pool : s.bootstrapPool = some budget
  credits : ∀ id, (getBootstrapCredit s id).credits = 0
  redeemed : ∀ id, (getBootstrapCredit s id).redeemed = 0

theorem redemptions_append_singleton (s : Store) (calls : List BootstrapCall) (call : BootstrapCall) :
    redemptions s (calls ++ [call]) =
      redemptions s calls + call.taken (bootstrapCalls.output (bootstrapCalls.run s calls) call) := by
  have hlength : ∀ (t : Store) (as : List BootstrapCall),
      as.length = (bootstrapCalls.history t as).length := by
    intro t as
    induction as generalizing t with
    | nil => rfl
    | cons a as ih => exact congrArg (· + 1) (ih _)
  rw [redemptions, Machine.history_append, List.zipWith_append (hlength s calls), List.sum_append]
  rfl

theorem BootstrapStart.run (h : BootstrapStart budget s) (hlt : totalGranted calls < 2 ^ 64) :
    Agrees budget (getBootstrapExpiry s ≠ 0) (bootstrapCalls.run s calls)
        (CreditLedger.ofCalls (getBootstrapExpiry s ≠ 0) calls) ∧
      redemptions s calls = (CreditLedger.ofCalls (getBootstrapExpiry s ≠ 0) calls).total := by
  induction calls using List.reverseRecOn with
  | nil =>
    refine ⟨⟨rfl, fun id => ?_, fun id => ?_, fun id => Nat.le_refl 0, budget, h.pool, ?_⟩, rfl⟩
    · rw [Machine.run_nil, h.credits]
      rfl
    · rw [Machine.run_nil, h.redeemed]
      rfl
    · exact Nat.mod_eq_of_lt budget.toNat_lt
  | append_singleton calls call ih =>
    have htotal : totalGranted (calls ++ [call]) = totalGranted calls + call.grant := by
      simp [totalGranted]
    obtain ⟨hagrees, hsum⟩ := ih (by omega)
    obtain ⟨hnext, htaken⟩ := hagrees.next call fun id => by
      have hgranted := grantedTo_le_totalGranted id calls
      have hgrant := grantTo_le_grant id call
      rw [CreditLedger.granted_ofCalls]
      omega
    rw [CreditLedger.ofCalls_append_singleton, Machine.run_append, redemptions_append_singleton, hsum]
    exact ⟨hnext, htaken.symm⟩

/-- The bootstrap credits over a run of calls: no operator redeems more than was granted to it, the
pool and what was redeemed add up to what the pool held, and a redemption of more than the pool
holds fails and changes nothing. -/
structure BootstrapSound (budget : UInt64) (s : Store) (calls : List BootstrapCall) : Prop where
  within : ∀ id, (getBootstrapCredit (bootstrapCalls.run s calls) id).redeemed.toNat ≤
    grantedTo id calls
  conserved : ∃ p, getBootstrapCredits (bootstrapCalls.run s calls) = .ok p ∧
    p.toNat + redemptions s calls = budget.toNat
  refused : ∀ before id amount after, calls = before ++ .redeem id amount :: after →
    ∀ p, getBootstrapCredits (bootstrapCalls.run s before) = .ok p → p < amount →
      ∃ e, bootstrapStep (bootstrapCalls.run s before) (.redeem id amount) =
        (bootstrapCalls.run s before, .error e)

theorem Agrees.getBootstrapCredits {l : CreditLedger} {live : Bool} (h : Agrees budget live s l) :
    ∃ p, getBootstrapCredits s = .ok p ∧ (l.total ≤ budget.toNat → p.toNat + l.total = budget.toNat) := by
  obtain ⟨p, hpool, hbudget⟩ := h.pool
  refine ⟨p, by rw [Emissions.getBootstrapCredits, hpool], fun hle => ?_⟩
  have hp := p.toNat_lt
  have hb := budget.toNat_lt
  omega

/-- The bootstrap credits go right over a run exactly if what the operators' own credits let them
redeem fits into the pool. -/
theorem bootstrapSound_iff (h : BootstrapStart budget s) (calls : List BootstrapCall)
    (hlt : totalGranted calls < 2 ^ 64) :
    BootstrapSound budget s calls ↔
      (CreditLedger.ofCalls (getBootstrapExpiry s ≠ 0) calls).total ≤ budget.toNat := by
  obtain ⟨hagrees, hsum⟩ := h.run hlt
  constructor
  · intro hsound
    obtain ⟨p, -, hp⟩ := hsound.conserved
    omega
  · intro hle
    refine ⟨fun id => ?_, ?_, ?_⟩
    · rw [hagrees.redeemed, ← CreditLedger.granted_ofCalls]
      exact hagrees.within id
    · obtain ⟨p, hp, hconserved⟩ := hagrees.getBootstrapCredits
      exact ⟨p, hp, by rw [hsum]; exact hconserved hle⟩
    · rintro before id amount after rfl p hp hgreater
      have hbefore : totalGranted before < 2 ^ 64 := by
        rw [totalGranted, List.map_append, List.sum_append] at hlt
        exact Nat.lt_of_le_of_lt (Nat.le_add_right _ _) hlt
      obtain ⟨hagrees, -⟩ := h.run hbefore
      rcases hagrees.step_redeem id amount with ⟨hcovers, -⟩ | ⟨-, hfails⟩
      · -- A covered redemption is part of what fits into the pool.
        have hnext := CreditLedger.total_le_append (getBootstrapExpiry s ≠ 0)
          (before ++ [.redeem id amount]) after
        rw [CreditLedger.ofCalls_append_singleton, CreditLedger.next, if_pos hcovers,
          List.append_assoc, List.singleton_append] at hnext
        change (CreditLedger.ofCalls _ before).total + amount.toNat ≤ _ at hnext
        obtain ⟨p', hp', hconserved⟩ := hagrees.getBootstrapCredits
        rw [hp'] at hp
        obtain rfl := Except.ok.inj hp
        rw [UInt64.lt_iff_toNat_lt] at hgreater
        omega
      · exact hfails

section Samples

def sampleBootstrap : Store where
  bootstrapPool := some 500
  bootstrapExpiry := some 100

theorem sampleBootstrap_start : BootstrapStart 500 sampleBootstrap :=
  ⟨rfl, fun _ => rfl, fun _ => rfl⟩

def sampleOperator : Bytes := Bytes.ascii "op1"

theorem redemption_within_pool :
    BootstrapStart 500 sampleBootstrap ∧
      totalGranted [.add sampleOperator 5000, .redeem sampleOperator 300] < 2 ^ 64 ∧
      BootstrapSound 500 sampleBootstrap
        [.add sampleOperator 5000, .redeem sampleOperator 300] := by
  have hlt : totalGranted [.add sampleOperator 5000, .redeem sampleOperator 300] < 2 ^ 64 := by
    decide
  refine ⟨sampleBootstrap_start, hlt, (bootstrapSound_iff sampleBootstrap_start _ hlt).mpr ?_⟩
  decide

/-- The pool holds 500. An operator with credits of 1000 redeems them, and the pool is then 500
below zero. -/
theorem redemption_wraps_pool :
    BootstrapStart 500 sampleBootstrap ∧
      totalGranted [.add sampleOperator 1000, .redeem sampleOperator 1000] < 2 ^ 64 ∧
      bootstrapCalls.history sampleBootstrap
        [.add sampleOperator 1000, .redeem sampleOperator 1000] = [.ok (), .ok ()] ∧
      (bootstrapCalls.run sampleBootstrap
        [.add sampleOperator 1000, .redeem sampleOperator 1000]).bootstrapPool =
          some 18446744073709551116 ∧
      ¬ BootstrapSound 500 sampleBootstrap
        [.add sampleOperator 1000, .redeem sampleOperator 1000] := by
  refine ⟨sampleBootstrap_start, by decide, by decide, by decide, fun h => ?_⟩
  obtain ⟨p, -, hconserved⟩ := h.conserved
  have hredeemed : redemptions sampleBootstrap
      [.add sampleOperator 1000, .redeem sampleOperator 1000] = 1000 := by decide
  rw [hredeemed] at hconserved
  change p.toNat + 1000 = 500 at hconserved
  omega

end Samples

end Runs

end WeVibeChain.Emissions
