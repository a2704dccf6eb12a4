import Mathlib.Algebra.Order.Floor.Div
import Mathlib.Algebra.BigOperators.Group.List.Basic
import Mathlib.Data.List.Range

/-!
# Paying out an amount over a number of slots

Slot by slot, what is left is divided by the number of slots left and rounded
down. The shares have a closed form: slot `k` gets `(amount + k) / slots`. So the
rounding never drifts, the last slots carry the remainder, and nothing is left.
-/

set_option autoImplicit false

namespace EvenSpread
variable (amount slots : Nat)

def share (k : Nat) : Nat := if k < slots then (amount + k) / slots else 0

/-- What is left before slot `k`. -/
def left (k : Nat) : Nat := amount / slots * (slots - k) + min (amount % slots) (slots - k)

def shares (n : Nat) : List Nat := (List.range n).map (share amount slots)

section Share
variable {k : Nat}

theorem share_of_le (h : slots ≤ k) : share amount slots k = 0 := if_neg (by omega)

theorem share_of_lt (h : k < slots) :
    share amount slots k = amount / slots + if slots ≤ amount % slots + k then 1 else 0 := by
  rw [share, if_pos h, Nat.add_div (by omega), Nat.div_eq_of_lt h, Nat.mod_eq_of_lt h, Nat.add_zero]

theorem share_eq_floor_or_ceil (h : k < slots) :
    share amount slots k = amount / slots ∨ share amount slots k = amount ⌈/⌉ slots := by
  have hpos : 0 < slots := by omega
  have hmod := Nat.mod_lt amount hpos
  rw [share_of_lt amount slots h]
  split
  · -- the quotient is rounded up as there is a remainder
    right
    have hceil : amount ⌈/⌉ slots = share amount slots (slots - 1) := by
      rw [Nat.ceilDiv_eq_add_pred_div, share, if_pos (by omega), Nat.add_sub_assoc hpos]
    rw [hceil, share_of_lt amount slots (by omega), if_pos (by omega)]
  · left
    rfl

theorem share_mono {j : Nat} (hjk : j ≤ k) (hk : k < slots) :
    share amount slots j ≤ share amount slots k := by
  rw [share, share, if_pos (by omega), if_pos hk]
  exact Nat.div_le_div_right (by omega)

end Share

section Left

@[simp] theorem left_zero (h : 0 < slots) : left amount slots 0 = amount := by
  have hmod := Nat.mod_lt amount h
  rw [left, Nat.sub_zero, Nat.min_eq_left hmod.le]
  exact Nat.div_add_mod' amount slots

theorem left_of_le {k : Nat} (h : slots ≤ k) : left amount slots k = 0 := by
  have hnone : slots - k = 0 := by omega
  rw [left, hnone, Nat.mul_zero, Nat.min_zero]

/-- The rounded down quotient of what is left. -/
theorem left_div {k : Nat} (h : k < slots) :
    left amount slots k / (slots - k) = share amount slots k := by
  have hpos : 0 < slots - k := by omega
  rw [share_of_lt amount slots h, left, Nat.mul_comm, Nat.mul_add_div hpos]
  congr 1
  split
  · rw [Nat.min_eq_right (by omega), Nat.div_self hpos]
  · exact Nat.div_eq_of_lt (by omega)

theorem left_succ (k : Nat) :
    left amount slots (k + 1) + share amount slots k = left amount slots k := by
  by_cases h : k < slots
  · obtain ⟨n, hn⟩ : ∃ n, slots - k = n + 1 := ⟨slots - k - 1, by omega⟩
    have hn' : slots - (k + 1) = n := by omega
    rw [share_of_lt amount slots h, left, left, hn, hn', Nat.mul_succ]
    split <;> omega
  · rw [share_of_le amount slots (by omega), left_of_le amount slots (by omega),
      left_of_le amount slots (by omega)]

/-- Before the last slot something is left of a positive amount. -/
theorem left_pos {k : Nat} (hamount : 0 < amount) (h : k < slots) : 0 < left amount slots k := by
  have hdiv := Nat.div_add_mod amount slots
  rw [left]
  by_cases hq : amount / slots = 0
  · rw [hq, Nat.mul_zero] at hdiv
    omega
  · have hprod : 0 < amount / slots * (slots - k) := Nat.mul_pos (Nat.pos_of_ne_zero hq) (by omega)
    omega

/-- Less than one unit a slot is paid out only if nothing is due before the amount's last slots. -/
theorem le_left_add_iff (hpos : 0 < slots) {k paid : Nat} (h : paid < k) :
    amount ≤ left amount slots k + paid ↔ amount ≤ paid + (slots - k) := by
  by_cases hk : slots ≤ k
  · rw [left_of_le amount slots hk]
    omega
  · have hdiv := Nat.div_add_mod' amount slots
    have hmod := Nat.mod_lt amount hpos
    rw [left]
    rcases Nat.eq_zero_or_pos (amount / slots) with hq | hq
    · rw [hq, Nat.zero_mul] at hdiv ⊢
      omega
    · -- at least one unit is paid out in each slot
      have hslots : slots ≤ amount / slots * slots := Nat.le_mul_of_pos_left slots hq
      have hpaid : k ≤ amount / slots * k := Nat.le_mul_of_pos_left k hq
      have hsplit : amount / slots * (slots - k) + amount / slots * k = amount / slots * slots := by
        rw [← Nat.mul_add, Nat.sub_add_cancel (by omega)]
      omega

end Left

section Shares

@[simp] theorem length_shares (n : Nat) : (shares amount slots n).length = n := by simp [shares]

theorem shares_succ (n : Nat) :
    shares amount slots (n + 1) = shares amount slots n ++ [share amount slots n] := by
  rw [shares, List.range_succ, List.map_append]
  rfl

theorem take_shares (n k : Nat) :
    (shares amount slots n).take k = shares amount slots (min k n) := by
  rw [shares, ← List.map_take, List.take_range, shares]

theorem sum_shares_add_left (h : 0 < slots) (n : Nat) :
    (shares amount slots n).sum + left amount slots n = amount := by
  induction n with
  | zero => simp [shares, h]
  | succ n ih =>
    have hsucc := left_succ amount slots n
    rw [shares_succ, List.sum_append, List.sum_singleton]
    omega

end Shares

/-- The first `slots` shares differ by rounding only and use the amount up, and no sooner; nothing
comes after them. -/
structure SpreadEvenly (shares : List Nat) : Prop where
  floor_or_ceil : ∀ s ∈ shares.take slots, s = amount / slots ∨ s = amount ⌈/⌉ slots
  nondecreasing : (shares.take slots).Pairwise (· ≤ ·)
  all : slots ≤ shares.length → (shares.take slots).sum = amount
  not_before : shares.length < slots → 0 < amount → shares.sum < amount
  zero_after : ∀ s ∈ shares.drop slots, s = 0

variable {amount slots} in
theorem spreadEvenly_shares (h : 0 < slots) (n : Nat) :
    SpreadEvenly amount slots (shares amount slots n) where
  floor_or_ceil := by
    intro s hs
    rw [take_shares] at hs
    obtain ⟨k, hk, rfl⟩ := List.mem_map.mp hs
    have hlt := List.mem_range.mp hk
    exact share_eq_floor_or_ceil amount slots (by omega)
  nondecreasing := by
    rw [take_shares]
    apply List.pairwise_map.mpr
    apply List.pairwise_lt_range.imp_of_mem
    intro j k _ hk hjk
    have hlt := List.mem_range.mp hk
    exact share_mono amount slots hjk.le (by omega)
  all := by
    intro hn
    rw [length_shares] at hn
    have hsum := sum_shares_add_left amount slots h slots
    rw [left_of_le amount slots le_rfl] at hsum
    rwa [take_shares, Nat.min_eq_left hn]
  not_before := by
    intro hn hamount
    rw [length_shares] at hn
    have hsum := sum_shares_add_left amount slots h n
    have hleft := left_pos amount slots hamount hn
    omega
  zero_after := by
    intro s hs
    obtain ⟨i, hi, rfl⟩ := List.mem_iff_getElem.mp hs
    simp [shares, share]

end EvenSpread
