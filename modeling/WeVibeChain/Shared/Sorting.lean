import Mathlib.Data.List.Sort
import Mathlib.Data.List.Perm.Basic

/-!
# Sorted lists

Sorting in ascending order gives the same list for two lists that are permutations
of each other, and for no others. An exchange sort puts a list in descending order
of a key; among elements with equal keys it keeps no particular order.
-/

set_option autoImplicit false

universe u v

namespace Sorting

section Canonical
variable {α : Type u} [LinearOrder α] {xs ys : List α}

theorem mergeSort_eq_of_perm (h : xs.Perm ys) (hys : ys.Pairwise (· ≤ ·)) :
    (xs.mergeSort fun a b => a ≤ b) = ys :=
  List.Perm.eq_of_pairwise (fun _ _ _ _ => le_antisymm) (List.pairwise_mergeSort' (· ≤ ·) xs) hys
    ((List.mergeSort_perm xs _).trans h)

theorem mergeSort_eq_mergeSort_iff :
    ((xs.mergeSort fun a b => a ≤ b) = ys.mergeSort fun a b => a ≤ b) ↔ xs.Perm ys := by
  constructor
  · intro h
    have hys := List.mergeSort_perm ys fun a b => a ≤ b
    rw [← h] at hys
    exact (List.mergeSort_perm xs _).symm.trans hys
  · intro h
    exact mergeSort_eq_of_perm (h.trans (List.mergeSort_perm ys _).symm)
      (List.pairwise_mergeSort' (· ≤ ·) ys)

end Canonical

section Exchange
variable {α : Type u} {κ : Type v} [LinearOrder κ] (key : α → κ)

/-- The inner loop: the element at hand is exchanged for each later one with a larger key. The
result is the element left at hand and the list as the exchanges leave it. -/
def exchangePass : α → List α → α × List α
  | x, [] => (x, [])
  | x, y :: ys =>
    if key y > key x then ((exchangePass y ys).1, x :: (exchangePass y ys).2)
    else ((exchangePass x ys).1, y :: (exchangePass x ys).2)

def exchangeLoop : Nat → List α → List α
  | 0, xs => xs
  | _ + 1, [] => []
  | fuel + 1, x :: xs =>
    (exchangePass key x xs).1 :: exchangeLoop fuel (exchangePass key x xs).2

/-- The outer loop makes one pass for each position. -/
def exchangeSort (xs : List α) : List α := exchangeLoop key xs.length xs

theorem exchangePass_perm (x : α) (xs : List α) :
    ((exchangePass key x xs).1 :: (exchangePass key x xs).2).Perm (x :: xs) := by
  induction xs generalizing x with
  | nil => exact List.Perm.refl _
  | cons y ys ih =>
    unfold exchangePass
    split
    · exact (List.Perm.swap _ _ _).trans ((ih y).cons x)
    · exact (List.Perm.swap _ _ _).trans (((ih x).cons y).trans (List.Perm.swap _ _ _))

theorem length_exchangePass (x : α) (xs : List α) :
    (exchangePass key x xs).2.length = xs.length :=
  Nat.succ.inj (exchangePass_perm key x xs).length_eq

/-- The element left at hand has the largest key of all. -/
theorem exchangePass_max (x : α) (xs : List α) :
    key x ≤ key (exchangePass key x xs).1 ∧
      ∀ y ∈ (exchangePass key x xs).2, key y ≤ key (exchangePass key x xs).1 := by
  induction xs generalizing x with
  | nil => exact ⟨le_rfl, fun y hy => absurd hy List.not_mem_nil⟩
  | cons y ys ih =>
    unfold exchangePass
    split
    · rename_i hlt
      have hx := hlt.le.trans (ih y).1
      exact ⟨hx, List.forall_mem_cons.mpr ⟨hx, (ih y).2⟩⟩
    · rename_i hle
      have hy := (not_lt.mp hle).trans (ih x).1
      exact ⟨(ih x).1, List.forall_mem_cons.mpr ⟨hy, (ih x).2⟩⟩

theorem exchangeLoop_perm (fuel : Nat) (xs : List α) : (exchangeLoop key fuel xs).Perm xs := by
  induction fuel generalizing xs with
  | zero => exact List.Perm.refl xs
  | succ fuel ih =>
    cases xs with
    | nil => exact List.Perm.refl []
    | cons x xs => exact ((ih _).cons _).trans (exchangePass_perm key x xs)

theorem exchangeLoop_pairwise {fuel : Nat} {xs : List α} (h : xs.length ≤ fuel) :
    (exchangeLoop key fuel xs).Pairwise fun a b => key b ≤ key a := by
  induction fuel generalizing xs with
  | zero =>
    rw [List.length_eq_zero_iff.mp (Nat.le_zero.mp h)]
    exact List.Pairwise.nil
  | succ fuel ih =>
    cases xs with
    | nil => exact List.Pairwise.nil
    | cons x xs =>
      have hlength := length_exchangePass key x xs
      refine List.Pairwise.cons ?_ (ih (by rw [List.length_cons] at h; omega))
      intro y hy
      -- the rest of the loop only rearranges what the pass has left
      exact (exchangePass_max key x xs).2 y ((exchangeLoop_perm key fuel _).mem_iff.mp hy)

theorem exchangeSort_perm (xs : List α) : (exchangeSort key xs).Perm xs :=
  exchangeLoop_perm key xs.length xs

theorem exchangeSort_pairwise (xs : List α) :
    (exchangeSort key xs).Pairwise fun a b => key b ≤ key a :=
  exchangeLoop_pairwise key le_rfl

end Exchange

end Sorting
