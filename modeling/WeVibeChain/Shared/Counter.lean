import WeVibeChain.Shared.OrderedMap

/-!
# Word counters in a map

A map of 64-bit counters in which a missing key counts as zero. A map counts a
list by a key when each counter is the number of elements with that key, modulo
`2^64`; adding one to the counter of an element's key counts the element too.
-/

set_option autoImplicit false

universe u v

namespace OrderedMap
variable {K : Type u} {α : Type v} [LinearOrder K]

def count (m : OrderedMap K UInt64) (k : K) : UInt64 := (m.get k).getD 0

def bump (m : OrderedMap K UInt64) (k : K) : OrderedMap K UInt64 := m.set k (m.count k + 1)

theorem count_bump (m : OrderedMap K UInt64) (k k' : K) :
    (m.bump k).count k' = if k' = k then m.count k' + 1 else m.count k' := by
  unfold bump
  rw [count, get_set]
  split
  · rename_i hk
    rw [hk, Option.getD_some]
  · rfl

/-- Each counter of the map is the number of elements that have its key. -/
def Counts (m : OrderedMap K UInt64) (key : α → Option K) (xs : List α) : Prop :=
  ∀ k, m.count k = UInt64.ofNat (xs.countP fun x => key x = some k)

theorem counts_empty (key : α → Option K) : (∅ : OrderedMap K UInt64).Counts key [] := by
  intro k
  rfl

theorem Counts.bump {m : OrderedMap K UInt64} {key : α → Option K} {xs : List α} {x : α} {k : K}
    (h : m.Counts key xs) (hx : key x = some k) : (m.bump k).Counts key (x :: xs) := by
  intro k'
  rw [count_bump, h k', List.countP_cons]
  by_cases hk : k' = k
  · simp [hk, hx, UInt64.ofNat_add]
  · simp [hk, hx, Ne.symm hk]

theorem Counts.skip {m : OrderedMap K UInt64} {key : α → Option K} {xs : List α} {x : α}
    (h : m.Counts key xs) (hx : key x = none) : m.Counts key (x :: xs) := by
  intro k'
  rw [h k', List.countP_cons]
  simp [hx]

theorem Counts.perm {m : OrderedMap K UInt64} {key : α → Option K} {xs ys : List α}
    (h : m.Counts key xs) (hxy : xs.Perm ys) : m.Counts key ys := by
  intro k
  rw [h k, hxy.countP_eq]

end OrderedMap
