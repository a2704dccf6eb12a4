import WeVibeChain.OrgOperations
import WeVibeChain.Shared.Words
import Mathlib.Data.Rat.Defs
import Mathlib.Tactic.Ring
import Mathlib.Tactic.FieldSimp
import Mathlib.Tactic.Linarith

/-!
# x/org: the price of a slot

The price grows by the same amount from slot to slot. The loop adds fractions in
lowest terms and divides at the end, so the price is the exact one rounded down,
as long as that is a positive 64-bit number. Otherwise it is the base price again.

The base price and the increase are read as signed words. Whether later slots are
never cheaper depends on the two parameters alone.
-/

set_option autoImplicit false

namespace WeVibeChain.Orgs

section Exact

/-- A multiple of a fraction, rounded down, does not depend on how the fraction is written. -/
theorem mul_num_ediv_den {q : Rat} {a : Int} {b : Nat} (hb : 0 < b) (h : q = mkRat a b) (x : Int) :
    x * q.num / q.den = x * a / b := by
  have hden : (0 : Int) < q.den := Int.natCast_pos.mpr q.den_pos
  have hbpos : (0 : Int) < b := Int.natCast_pos.mpr hb
  have hcross : q.num * b = a * q.den := by
    have hq : mkRat q.num q.den = mkRat a b := by rw [Rat.mkRat_self, h]
    exact (Rat.mkRat_eq_iff q.den_ne_zero hb.ne').mp hq
  rw [← Int.mul_ediv_mul_of_pos_left (x * q.num) q.den hbpos,
    ← Int.mul_ediv_mul_of_pos_left (x * a) b hden, Int.mul_comm (b : Int) q.den, Int.mul_assoc,
    Int.mul_assoc, hcross]

theorem ascendingMultiplier_eq (increasePercent : UInt64) (n : Nat) :
    ascendingMultiplier increasePercent n =
      mkRat (100 + increasePercent.toInt64.toInt * n) 100 := by
  induction n with
  | zero => simp [ascendingMultiplier]
  | succ n ih =>
    rw [ascendingMultiplier, ih, Rat.mkRat_eq_div, Rat.mkRat_eq_div, Rat.mkRat_eq_div]
    push_cast
    ring

/-- A hundred times the exact price of the slot. -/
def scaledPrice (base increase : Int) (slot : Nat) : Int := base * (100 + increase * slot)

/-- The exact price where it is a positive word, and the base price where it is not. -/
def priceOf (base increase fallback : Int) (slot : Nat) : Int :=
  if 100 ≤ scaledPrice base increase slot ∧ scaledPrice base increase slot < 100 * 2 ^ 64 then
    scaledPrice base increase slot / 100
  else fallback

theorem computeSlotPrice_eq (s : Store) (slot : UInt64) :
    (computeSlotPrice s slot : Int) =
      priceOf (getParams s).baseBurnPrice.toInt64.toInt
        (getParams s).burnPriceIncreasePercent.toInt64.toInt (getParams s).baseBurnPrice.toNat
        slot.toNat := by
  have hexact := mul_num_ediv_den (by decide : 0 < 100)
    (ascendingMultiplier_eq (getParams s).burnPriceIncreasePercent slot.toNat)
    (getParams s).baseBurnPrice.toInt64.toInt
  unfold computeSlotPrice computeAscendingPrice priceOf scaledPrice
  dsimp only
  rw [hexact]
  generalize (getParams s).baseBurnPrice.toInt64.toInt *
    (100 + (getParams s).burnPriceIncreasePercent.toInt64.toInt * slot.toNat) = x
  push_cast
  split
  · rw [if_neg (by omega)]
  · split
    · rw [if_neg (by omega)]
    · rw [if_pos (by omega), UInt64.toNat_ofNat_of_lt' (show (x / 100).toNat < 2 ^ 64 by omega)]
      omega

/-- The loop computes the linear price, rounded down. -/
theorem ascending_price_linear (s : Store) (slot : UInt64)
    (hbase : (getParams s).baseBurnPrice.toNat < 2 ^ 63)
    (hincrease : (getParams s).burnPriceIncreasePercent.toNat < 2 ^ 63)
    (hfits : (getParams s).baseBurnPrice.toNat *
      (100 + (getParams s).burnPriceIncreasePercent.toNat * slot.toNat) / 100 < 2 ^ 64) :
    (computeAscendingPrice s slot).toNat =
      (getParams s).baseBurnPrice.toNat *
        (100 + (getParams s).burnPriceIncreasePercent.toNat * slot.toNat) / 100 := by
  have hprice := computeSlotPrice_eq s slot
  rw [Words.toInt_toInt64_of_lt hbase, Words.toInt_toInt64_of_lt hincrease] at hprice
  change ((computeAscendingPrice s slot).toNat : Int) = _ at hprice
  apply Int.ofNat.inj
  refine hprice.trans ?_
  have hscaled : scaledPrice (getParams s).baseBurnPrice.toNat
      (getParams s).burnPriceIncreasePercent.toNat slot.toNat =
        ((getParams s).baseBurnPrice.toNat *
          (100 + (getParams s).burnPriceIncreasePercent.toNat * slot.toNat) : Nat) := by
    unfold scaledPrice
    push_cast
    rfl
  have hgrows : 100 * (getParams s).baseBurnPrice.toNat ≤ (getParams s).baseBurnPrice.toNat *
      (100 + (getParams s).burnPriceIncreasePercent.toNat * slot.toNat) := by
    rw [Nat.mul_comm]
    exact Nat.mul_le_mul_left _ (Nat.le_add_right _ _)
  unfold priceOf
  rw [hscaled]
  split
  · exact (Int.natCast_ediv _ _).symm
  · -- only a price of zero is replaced by the base price, which is zero then
    rename_i hout
    have hzero : (getParams s).baseBurnPrice.toNat = 0 := by omega
    rw [hzero, Nat.zero_mul]
    rfl

theorem ascending_price_linear_default :
    (computeAscendingPrice { } 15).toNat = 10000000 * (100 + 20 * 15) / 100 :=
  ascending_price_linear {} 15 (by decide) (by decide) (by decide)

end Exact

section Order
variable {base increase fallback : Int}

theorem scaledPrice_eq (base increase : Int) (n : Nat) :
    scaledPrice base increase n = 100 * base + base * increase * n := by
  unfold scaledPrice
  ring

theorem scaledPrice_succ (base increase : Int) (n : Nat) :
    scaledPrice base increase (n + 1) = scaledPrice base increase n + base * increase := by
  rw [scaledPrice_eq, scaledPrice_eq]
  push_cast
  ring

theorem scaledPrice_zero (base increase : Int) : scaledPrice base increase 0 = 100 * base := by
  simp [scaledPrice_eq]

theorem scaledPrice_one (base increase : Int) :
    scaledPrice base increase 1 = base * (100 + increase) := by
  simp [scaledPrice]

theorem scaledPrice_mono (h : 0 ≤ base * increase) {m n : Nat} (hmn : m ≤ n) :
    scaledPrice base increase m ≤ scaledPrice base increase n := by
  rw [scaledPrice_eq, scaledPrice_eq]
  have hmul := Int.mul_le_mul_of_nonneg_left (Int.ofNat_le.mpr hmn) h
  omega

theorem scaledPrice_anti (h : base * increase ≤ 0) {m n : Nat} (hmn : m ≤ n) :
    scaledPrice base increase n ≤ scaledPrice base increase m := by
  rw [scaledPrice_eq, scaledPrice_eq]
  have hmul := mul_le_mul_of_nonpos_left (Int.ofNat_le.mpr hmn) h
  omega

theorem exists_crossing {bound : Int} {k : Nat} (hstart : scaledPrice base increase 0 < bound)
    (hend : bound ≤ scaledPrice base increase k) :
    ∃ n < k, scaledPrice base increase n < bound ∧ bound ≤ scaledPrice base increase (n + 1) := by
  induction k with
  | zero => exact absurd hend (not_le.mpr hstart)
  | succ k ih =>
    by_cases hk : bound ≤ scaledPrice base increase k
    · obtain ⟨n, hn, hcrossing⟩ := ih hk
      exact ⟨n, by omega, hcrossing⟩
    · exact ⟨k, Nat.lt_succ_self k, not_le.mp hk, hend⟩

/-- No slot below `2^64` is cheaper than an earlier one. -/
def Ascends (base increase fallback : Int) : Prop :=
  ∀ m n : Nat, m ≤ n → n < 2 ^ 64 →
    priceOf base increase fallback m ≤ priceOf base increase fallback n

theorem ascends_of_constant (h : ∀ n : Nat, n < 2 ^ 64 →
    100 ≤ scaledPrice base increase n → scaledPrice base increase n < 100 * 2 ^ 64 →
      scaledPrice base increase n / 100 = fallback) : Ascends base increase fallback := by
  have hprice : ∀ n : Nat, n < 2 ^ 64 → priceOf base increase fallback n = fallback := by
    intro n hn
    unfold priceOf
    split
    · rename_i hrange
      exact h n hn hrange.1 hrange.2
    · rfl
  intro m n hmn hn
  rw [hprice m (by omega), hprice n hn]

/-- The base price is charged throughout if no later exact price is in range. -/
theorem ascends_of_outside (hfirst : 100 ≤ scaledPrice base increase 0 → base = fallback)
    (hlater : ∀ n : Nat, 1 ≤ n → 100 ≤ scaledPrice base increase n →
      100 * 2 ^ 64 ≤ scaledPrice base increase n) : Ascends base increase fallback := by
  apply ascends_of_constant
  intro n _ hlow hhigh
  rcases Nat.eq_zero_or_pos n with rfl | hpos
  · have hbase := hfirst hlow
    rw [scaledPrice_zero]
    omega
  · exact absurd (hlater n hpos hlow) (not_le.mpr hhigh)

section NonNegative

/-- The last slot whose price fits is dearer than the base price that the next one costs. -/
theorem not_ascends_of_overflow (hbase : 0 ≤ base) (hsmall : base < 2 ^ 63)
    (hincrease : 0 ≤ increase) (hfits : scaledPrice base increase 1 < 100 * 2 ^ 64)
    (hover : 100 * 2 ^ 64 ≤ scaledPrice base increase (2 ^ 64 - 1)) :
    ¬ Ascends base increase base := by
  intro hascends
  have hstep : 0 ≤ base * increase := Int.mul_nonneg hbase hincrease
  have hmono := scaledPrice_mono hstep (Nat.zero_le 1)
  obtain ⟨n, hbound, hlow, hhigh⟩ := exists_crossing (by omega) hover
  have hpos : 0 < n := by
    apply Nat.pos_of_ne_zero
    rintro rfl
    exact absurd hhigh (not_le.mpr hfits)
  have hdrop := hascends n (n + 1) (Nat.le_succ n) (by omega)
  have hsucc := scaledPrice_succ base increase n
  have hlinear := scaledPrice_eq base increase n
  have hmul : base * increase ≤ base * increase * n :=
    le_mul_of_one_le_right hstep (by exact_mod_cast hpos)
  have hzero := scaledPrice_zero base increase
  unfold priceOf at hdrop
  rw [if_pos (by omega), if_neg (by omega)] at hdrop
  omega

theorem ascends_of_fits (hbase : 0 < base) (hincrease : 0 ≤ increase)
    (hfits : scaledPrice base increase (2 ^ 64 - 1) < 100 * 2 ^ 64) :
    Ascends base increase fallback := by
  intro m n hmn hn
  have hstep : 0 ≤ base * increase := Int.mul_nonneg hbase.le hincrease
  have hzero := scaledPrice_zero base increase
  have hfirst := scaledPrice_mono hstep (Nat.zero_le m)
  have hlast := scaledPrice_mono hstep (show n ≤ 2 ^ 64 - 1 by omega)
  have hle := scaledPrice_mono hstep hmn
  unfold priceOf
  rw [if_pos (by omega), if_pos (by omega)]
  omega

theorem ascends_iff_of_nonneg (hbase : 0 ≤ base) (hsmall : base < 2 ^ 63) (hincrease : 0 ≤ increase) :
    Ascends base increase base ↔ base * (100 + increase * (2 ^ 64 - 1)) < 100 * 2 ^ 64 ∨
      100 * 2 ^ 64 ≤ base * (100 + increase) := by
  have hstep : 0 ≤ base * increase := Int.mul_nonneg hbase hincrease
  have hlast : scaledPrice base increase (2 ^ 64 - 1) = base * (100 + increase * (2 ^ 64 - 1)) := by
    simp [scaledPrice]
  rw [← scaledPrice_one base increase, ← hlast]
  constructor
  · intro hascends
    by_contra hnot
    exact not_ascends_of_overflow hbase hsmall hincrease (by omega) (by omega) hascends
  · rintro (hfits | hover)
    · rcases Int.lt_or_eq_of_le hbase with hpos | rfl
      · exact ascends_of_fits hpos hincrease hfits
      · apply ascends_of_outside (fun _ => rfl)
        intro n _ hlow
        simp [scaledPrice] at hlow
    · exact ascends_of_outside (fun _ => rfl) fun n hn _ => hover.trans (scaledPrice_mono hstep hn)

theorem ascends_of_base_neg (hbase : base < 0) (hincrease : 0 ≤ increase) :
    Ascends base increase fallback := by
  have hstep : base * increase ≤ 0 := Int.mul_nonpos_of_nonpos_of_nonneg hbase.le hincrease
  have hzero := scaledPrice_zero base increase
  refine ascends_of_outside (by omega) ?_
  intro n _ hlow
  have hle := scaledPrice_anti hstep (Nat.zero_le n)
  omega

end NonNegative

section Negative

theorem ascends_iff_of_increase_neg (hbase : 0 ≤ base) (hsmall : base < 2 ^ 63)
    (hincrease : increase < 0) :
    Ascends base increase base ↔ base * (100 + increase) < 100 := by
  have hstep : base * increase ≤ 0 := Int.mul_nonpos_of_nonneg_of_nonpos hbase hincrease.le
  have hzero := scaledPrice_zero base increase
  have hsucc : scaledPrice base increase 1 = scaledPrice base increase 0 + base * increase :=
    scaledPrice_succ base increase 0
  rw [← scaledPrice_one]
  constructor
  · intro hascends
    by_contra hlow
    have hpos : 0 < base := by omega
    have hneg : base * increase < 0 := Int.mul_neg_of_pos_of_neg hpos hincrease
    have hdrop := hascends 0 1 (Nat.zero_le 1) (by decide)
    unfold priceOf at hdrop
    rw [if_pos (by omega), if_pos (by omega)] at hdrop
    omega
  · intro hlow
    refine ascends_of_outside (fun _ => rfl) ?_
    intro n hn hhigh
    have hle := scaledPrice_anti hstep hn
    omega

/-- The first slot with a positive exact price is slot 1, or the increase is so small that its
price reaches the base price for one pair of parameters only. -/
theorem first_positive_of_ascends (hbase : base < 0) (hsmall : -2 ^ 63 ≤ base)
    (hincrease : increase < 0) (hascends : Ascends base increase (2 ^ 64 + base)) :
    100 * 2 ^ 64 ≤ scaledPrice base increase 1 ∨
      scaledPrice base increase 1 / 100 = 2 ^ 64 + base ∨ (base = -2 ^ 63 ∧ increase = -100) := by
  have hstep : 0 < base * increase := Int.mul_pos_of_neg_of_neg hbase hincrease
  have hgrows : -base ≤ base * increase := by
    have hmul := mul_le_mul_of_nonpos_left (show increase ≤ -1 by omega) hbase.le
    omega
  have hzero := scaledPrice_zero base increase
  have hfirst : scaledPrice base increase 1 = scaledPrice base increase 0 + base * increase :=
    scaledPrice_succ base increase 0
  have hpositive : 100 ≤ scaledPrice base increase 201 := by
    rw [scaledPrice_eq]
    push_cast
    omega
  obtain ⟨n, hbound, hbefore, hn⟩ := exists_crossing (by omega) hpositive
  have hsucc := scaledPrice_succ base increase n
  have hsucc' : scaledPrice base increase (n + 2) =
      scaledPrice base increase (n + 1) + base * increase := scaledPrice_succ base increase (n + 1)
  have hstart := hascends 0 (n + 1) (Nat.zero_le _) (by omega)
  have hnext := hascends (n + 1) (n + 2) (by omega) (by omega)
  unfold priceOf at hstart hnext
  rw [if_neg (by omega)] at hstart
  rcases Nat.eq_zero_or_pos n with rfl | hpos
  · by_cases hhigh : scaledPrice base increase (0 + 1) < 100 * 2 ^ 64
    · rw [if_pos (by omega)] at hstart
      rw [if_pos (by omega)] at hnext
      by_cases hequal : scaledPrice base increase (0 + 1) / 100 = 2 ^ 64 + base
      · exact Or.inr (Or.inl hequal)
      · rw [if_neg (by omega)] at hnext
        omega
    · exact Or.inl (by omega)
  · -- an increase of at most a hundred cannot skip the prices below the base price
    have hlow : scaledPrice base increase 1 < 100 := by
      have hmono := scaledPrice_mono hstep.le (show 1 ≤ n by omega)
      omega
    rw [if_pos (by omega)] at hstart
    obtain rfl : base = -2 ^ 63 := by omega
    exact Or.inr (Or.inr ⟨rfl, by omega⟩)

/-- With two negative readings the price starts as the base price, has no room to grow beyond it
and must not come back below it. -/
theorem ascends_iff_of_neg (hbase : base < 0) (hsmall : -2 ^ 63 ≤ base) (hincrease : increase < 0) :
    Ascends base increase (2 ^ 64 + base) ↔ 100 * 2 ^ 64 ≤ base * (100 + increase) ∨
      base * (100 + increase) / 100 = 2 ^ 64 + base ∨ (base = -2 ^ 63 ∧ increase = -100) := by
  have hstep : 0 < base * increase := Int.mul_pos_of_neg_of_neg hbase hincrease
  have hzero := scaledPrice_zero base increase
  have hfirst : scaledPrice base increase 1 = scaledPrice base increase 0 + base * increase :=
    scaledPrice_succ base increase 0
  have hsecond : scaledPrice base increase 2 = scaledPrice base increase 1 + base * increase :=
    scaledPrice_succ base increase 1
  rw [← scaledPrice_one]
  refine ⟨first_positive_of_ascends hbase hsmall hincrease, ?_⟩
  rintro (hover | hequal | ⟨rfl, rfl⟩)
  · exact ascends_of_outside (by omega) fun n hn _ => hover.trans (scaledPrice_mono hstep.le hn)
  · apply ascends_of_constant
    intro n _ hlow hhigh
    rcases Nat.lt_or_ge n 2 with hn | hn
    · obtain rfl | rfl : n = 0 ∨ n = 1 := by omega
      · omega
      · exact hequal
    · have hle := scaledPrice_mono hstep.le hn
      omega
  · apply ascends_of_constant
    intro n _ hlow hhigh
    rw [scaledPrice_eq] at hlow hhigh ⊢
    omega

end Negative

/-- Whether the two parameters, read as signed words, make a price that never drops. -/
def PricesAscend (base increase : Int) : Prop :=
  if 0 ≤ increase then
    base < 0 ∨ base * (100 + increase * (2 ^ 64 - 1)) < 100 * 2 ^ 64 ∨
      100 * 2 ^ 64 ≤ base * (100 + increase)
  else if 0 ≤ base then base * (100 + increase) < 100
  else
    100 * 2 ^ 64 ≤ base * (100 + increase) ∨ base * (100 + increase) / 100 = 2 ^ 64 + base ∨
      (base = -2 ^ 63 ∧ increase = -100)

theorem prices_le_iff_ascends (s : Store) :
    (∀ slot later : UInt64, slot ≤ later → computeSlotPrice s slot ≤ computeSlotPrice s later) ↔
      Ascends (getParams s).baseBurnPrice.toInt64.toInt
        (getParams s).burnPriceIncreasePercent.toInt64.toInt (getParams s).baseBurnPrice.toNat := by
  constructor
  · intro h m n hmn hn
    have hm : m < 2 ^ 64 := by omega
    have hle := h (UInt64.ofNat m) (UInt64.ofNat n) ((UInt64.ofNat_le_iff_le hm hn).mpr hmn)
    have hprices := Int.ofNat_le.mpr hle
    rw [computeSlotPrice_eq, computeSlotPrice_eq, UInt64.toNat_ofNat_of_lt' hn,
      UInt64.toNat_ofNat_of_lt' hm] at hprices
    exact hprices
  · intro h slot later hle
    apply Int.ofNat_le.mp
    rw [computeSlotPrice_eq, computeSlotPrice_eq]
    exact h slot.toNat later.toNat (UInt64.le_iff_toNat_le.mp hle) later.toNat_lt

/-- A later slot is never cheaper if and only if the prices of all slots fit or none but the base
price is ever charged. -/
theorem slot_prices_ascend_iff (s : Store) :
    (∀ slot later : UInt64, slot ≤ later → computeSlotPrice s slot ≤ computeSlotPrice s later) ↔
      PricesAscend (getParams s).baseBurnPrice.toInt64.toInt
        (getParams s).burnPriceIncreasePercent.toInt64.toInt := by
  rw [prices_le_iff_ascends]
  have hword := (getParams s).baseBurnPrice.toNat_lt
  have hbase := Words.toInt_toInt64 (getParams s).baseBurnPrice
  generalize (getParams s).burnPriceIncreasePercent.toInt64.toInt = increase
  generalize (getParams s).baseBurnPrice.toInt64.toInt = base at hbase ⊢
  unfold PricesAscend
  rcases lt_or_ge base 0 with hneg | hpos
  · have hfallback : ((getParams s).baseBurnPrice.toNat : Int) = 2 ^ 64 + base ∧ -2 ^ 63 ≤ base := by
      split at hbase <;> omega
    rw [hfallback.1]
    split
    · rename_i hincrease
      exact iff_of_true (ascends_of_base_neg hneg hincrease) (Or.inl hneg)
    · rw [if_neg (by omega)]
      exact ascends_iff_of_neg hneg hfallback.2 (by omega)
  · have hfallback : ((getParams s).baseBurnPrice.toNat : Int) = base ∧ base < 2 ^ 63 := by
      split at hbase <;> omega
    rw [hfallback.1]
    split
    · rename_i hincrease
      rw [or_iff_right (not_lt.mpr hpos)]
      exact ascends_iff_of_nonneg hpos hfallback.2 hincrease
    · exact ascends_iff_of_increase_neg hpos hfallback.2 (by omega)

/-- Slot 3 would cost 2^64, which does not fit, and falls back to a third of the price of slot 2. -/
theorem slot_price_drops_at_overflow :
    let params := { defaultParams with
      baseBurnPrice := 2 ^ 62
      burnPriceIncreasePercent := 100 }
    params.validate = .ok () ∧
      computeSlotPrice { params := some params } 3 < computeSlotPrice { params := some params } 2 := by
  decide +kernel

end Order

end WeVibeChain.Orgs
