import Mathlib.Order.Cover
import WeVibeChain.Shared.OrderedMap

/-!
# Strings with a common beginning as a range

In the order of strings the strings that start with `p` are the range from `p` up
to the next string that does not. Where the last letter of `p` is not the greatest
one, that next string has it raised by one. Where it is, the carry goes to a letter
further left, and what stands behind that letter has to be cut off: with least
letters left in its place the range has some strings too many.
-/

set_option autoImplicit false

universe u v

namespace PrefixRange

open List

variable {α : Type u} [LinearOrder α] {p k lo hi r : List α} {x y t z : α} {m : Nat}

/-- Strings between two extensions of `p` extend `p`. -/
theorem exists_append_of_between (hlo : p ++ lo ≤ k) (hhi : k < p ++ hi) : ∃ r, k = p ++ r := by
  induction p generalizing k with
  | nil => exact ⟨k, rfl⟩
  | cons x p ih =>
    rw [cons_append] at hlo hhi
    cases k with
    | nil => exact absurd (nil_lt_cons x (p ++ lo)) hlo.not_gt
    | cons y k =>
      rcases cons_lt_cons_iff.mp hhi with hlt | ⟨rfl, hrest⟩
      · have hgt : y :: k < x :: (p ++ lo) := cons_lt_cons_iff.mpr (Or.inl hlt)
        exact absurd hgt hlo.not_gt
      · have hlo' : p ++ lo ≤ k := by
          rw [← not_lt] at hlo ⊢
          exact fun hgt => hlo (cons_lt_cons_iff.mpr (Or.inr ⟨rfl, hgt⟩))
        obtain ⟨r, rfl⟩ := ih hlo' hrest
        exact ⟨r, rfl⟩

theorem le_of_isPrefix (h : p <+: k) : p ≤ k := by
  obtain ⟨r, rfl⟩ := h
  have hle := (OrderedMap.append_lt_append_iff p r []).not.mpr (not_lt_nil r)
  rwa [append_nil, not_lt] at hle

theorem replicate_top_le_iff (ht : IsTop t) : replicate m t ≤ r ↔ replicate m t <+: r := by
  constructor
  · intro h
    induction m generalizing r with
    | zero => exact nil_prefix
    | succ m ih =>
      rw [replicate_succ] at h ⊢
      cases r with
      | nil => exact absurd (nil_lt_cons t (replicate m t)) h.not_gt
      | cons y r =>
        obtain rfl : t = y := by
          by_contra hne
          exact h.not_gt (cons_lt_cons_iff.mpr (Or.inl ((ht y).lt_of_ne (Ne.symm hne))))
        rw [cons_prefix_cons]
        refine ⟨rfl, ih ?_⟩
        rw [← not_lt] at h ⊢
        exact fun hgt => h (cons_lt_cons_iff.mpr (Or.inr ⟨rfl, hgt⟩))
  · exact le_of_isPrefix

theorem lt_replicate_bot_iff (hz : IsBot z) : r < replicate m z ↔ ∃ j < m, r = replicate j z := by
  induction m generalizing r with
  | zero => simp
  | succ m ih =>
    rw [replicate_succ]
    cases r with
    | nil => exact ⟨fun _ => ⟨0, Nat.succ_pos m, rfl⟩, fun _ => nil_lt_cons z _⟩
    | cons y r =>
      rw [cons_lt_cons_iff, or_iff_right (hz y).not_gt, ih]
      constructor
      · rintro ⟨rfl, j, hj, rfl⟩
        exact ⟨j + 1, Nat.succ_lt_succ hj, rfl⟩
      · rintro ⟨j, hj, heq⟩
        cases j with
        | zero => cases heq
        | succ j =>
          rw [replicate_succ, cons.injEq] at heq
          exact ⟨heq.1, j, Nat.lt_of_succ_lt_succ hj, heq.2⟩

/-- The range up to the carry that leaves least letters behind. -/
theorem between_carried_iff (hxy : x ⋖ y) (ht : IsTop t) (hz : IsBot z) :
    p ++ x :: replicate m t ≤ k ∧ k < p ++ y :: replicate m z ↔
      p ++ x :: replicate m t <+: k ∨ ∃ j < m, k = p ++ y :: replicate j z := by
  constructor
  · rintro ⟨hlo, hhi⟩
    obtain ⟨r, rfl⟩ := exists_append_of_between hlo hhi
    rw [OrderedMap.append_lt_append_iff] at hhi
    rw [← not_lt, OrderedMap.append_lt_append_iff, not_lt] at hlo
    rw [prefix_append_right_inj]
    cases r with
    | nil => exact absurd (nil_lt_cons x (replicate m t)) hlo.not_gt
    | cons b r =>
      have hxb : x ≤ b := by
        by_contra hlt
        exact hlo.not_gt (cons_lt_cons_iff.mpr (Or.inl (not_le.mp hlt)))
      rcases cons_lt_cons_iff.mp hhi with hlt | ⟨rfl, hrest⟩
      · -- Nothing lies between the letter and the raised one.
        obtain rfl : x = b := hxb.eq_of_not_lt fun hgt => hxy.2 hgt hlt
        rw [← not_lt, cons_lt_cons_iff, not_or] at hlo
        refine Or.inl (cons_prefix_cons.mpr ⟨rfl, (replicate_top_le_iff ht).mp ?_⟩)
        exact not_lt.mp fun hgt => hlo.2 ⟨rfl, hgt⟩
      · obtain ⟨j, hj, rfl⟩ := (lt_replicate_bot_iff hz).mp hrest
        exact Or.inr ⟨j, hj, rfl⟩
  · rintro (hstart | ⟨j, hj, rfl⟩)
    · refine ⟨le_of_isPrefix hstart, ?_⟩
      obtain ⟨r, rfl⟩ := hstart
      rw [append_assoc, OrderedMap.append_lt_append_iff, cons_append]
      exact cons_lt_cons_iff.mpr (Or.inl hxy.1)
    · rw [OrderedMap.append_lt_append_iff, ← not_lt, OrderedMap.append_lt_append_iff, not_lt]
      refine ⟨le_of_lt (cons_lt_cons_iff.mpr (Or.inl hxy.1)), ?_⟩
      exact cons_lt_cons_iff.mpr (Or.inr ⟨rfl, (lt_replicate_bot_iff hz).mpr ⟨j, hj, rfl⟩⟩)

/-- A string has only the letter `t`, or a last letter other than `t`. -/
theorem eq_replicate_or_exists_last_ne (t : α) (l : List α) :
    l = replicate l.length t ∨ ∃ p x m, x ≠ t ∧ l = p ++ x :: replicate m t := by
  induction l using List.reverseRecOn with
  | nil => exact Or.inl rfl
  | append_singleton l y ih =>
    by_cases hy : y = t
    · subst hy
      rcases ih with hall | ⟨p, x, m, hx, rfl⟩
      · left
        rw [length_append, length_singleton, replicate_succ', ← hall]
      · exact Or.inr ⟨p, x, m + 1, hx, by simp [replicate_succ']⟩
    · exact Or.inr ⟨l, y, 0, hy, rfl⟩

end PrefixRange

namespace OrderedMap
variable {K : Type u} {V : Type v} [LinearOrder K]

/-- A range is closed below and open above, or has no upper end. -/
def InRange (lo : K) (hi : Option K) (k : K) : Prop := lo ≤ k ∧ ∀ h ∈ hi, k < h

instance decidableInRange (lo : K) (hi : Option K) (k : K) : Decidable (InRange lo hi k) :=
  inferInstanceAs (Decidable (_ ∧ _))

/-- The entries in a range of keys. -/
def between (m : OrderedMap K V) (lo : K) (hi : Option K) : List (K × V) :=
  m.entries.filter fun e => InRange lo hi e.1

/-- A range that has of all keys those with a prefix gives the values under the prefix. -/
theorem between_eq_under {α : Type u} [LinearOrder α] {m : OrderedMap (List α) V} {p : List α}
    {hi : Option (List α)} (h : ∀ k, InRange p hi k ↔ p <+: k) :
    (m.between p hi).map Prod.snd = (m.under p).values := by
  have hsame : m.between p hi = m.entries.filter fun e => p.isPrefixOf e.1 := by
    refine List.filter_congr fun e _ => ?_
    rw [Bool.eq_iff_iff, decide_eq_true_eq, h, List.isPrefixOf_iff_prefix]
  rw [hsame, values_under]

end OrderedMap
