import Mathlib.Data.List.Lex
import Mathlib.Data.List.Nodup
import Mathlib.Data.List.Perm.Basic
import Mathlib.Data.UInt
import Mathlib.Order.Lattice

/-!
# Finite maps in key order

An `OrderedMap` is its list of entries, strictly ascending in the key. The list
is canonical: two maps with the same lookups are equal, so equality of maps is
equality of contents. Counts and sums over the entries are followed through an
update by the permutation lemmas at the end.
-/

set_option autoImplicit false

universe u v

structure OrderedMap (K : Type u) (V : Type v) [LinearOrder K] where
  entries : List (K × V)
  sorted : entries.Pairwise fun a b => a.1 < b.1

namespace OrderedMap
variable {K : Type u} {V : Type v} [LinearOrder K]

def empty : OrderedMap K V := ⟨[], .nil⟩

instance : EmptyCollection (OrderedMap K V) := ⟨empty⟩

instance : Inhabited (OrderedMap K V) := ⟨∅⟩

def get (m : OrderedMap K V) (k : K) : Option V :=
  (m.entries.find? fun e => e.1 = k).map Prod.snd

def has (m : OrderedMap K V) (k : K) : Bool := (m.get k).isSome

def keys (m : OrderedMap K V) : List K := m.entries.map Prod.fst

def values (m : OrderedMap K V) : List V := m.entries.map Prod.snd

theorem set_sorted (m : OrderedMap K V) (k : K) (v : V) :
    (m.entries.filter (fun e => e.1 < k) ++ (k, v) :: m.entries.filter (fun e => k < e.1)).Pairwise
      fun a b => a.1 < b.1 := by
  rw [List.pairwise_append, List.pairwise_cons]
  refine ⟨m.sorted.filter _, ⟨?_, m.sorted.filter _⟩, ?_⟩
  · intro e he
    simpa using (List.mem_filter.mp he).2
  · intro a ha b hb
    have hak : a.1 < k := by simpa using (List.mem_filter.mp ha).2
    rcases List.mem_cons.mp hb with rfl | hb
    · exact hak
    · have hkb : k < b.1 := by simpa using (List.mem_filter.mp hb).2
      exact hak.trans hkb

def set (m : OrderedMap K V) (k : K) (v : V) : OrderedMap K V where
  entries := m.entries.filter (fun e => e.1 < k) ++ (k, v) :: m.entries.filter (fun e => k < e.1)
  sorted := m.set_sorted k v

def delete (m : OrderedMap K V) (k : K) : OrderedMap K V where
  entries := m.entries.filter fun e => e.1 ≠ k
  sorted := m.sorted.filter _

theorem keys_nodup (m : OrderedMap K V) : m.keys.Nodup := by
  rw [keys, List.Nodup, List.pairwise_map]
  exact m.sorted.imp fun h => h.ne

theorem entries_nodup (m : OrderedMap K V) : m.entries.Nodup :=
  m.keys_nodup.of_map

theorem eq_of_mem_of_key_eq {m : OrderedMap K V} {a b : K × V}
    (ha : a ∈ m.entries) (hb : b ∈ m.entries) (hk : a.1 = b.1) : a = b :=
  List.inj_on_of_nodup_map m.keys_nodup ha hb hk

theorem get_eq_some_iff {m : OrderedMap K V} {k : K} {v : V} :
    m.get k = some v ↔ (k, v) ∈ m.entries := by
  constructor
  · intro h
    obtain ⟨e, he, rfl⟩ := Option.map_eq_some_iff.mp h
    have hk : e.1 = k := by simpa using List.find?_some he
    subst hk
    exact List.mem_of_find?_eq_some he
  · intro h
    cases hf : m.entries.find? fun e => e.1 = k with
    | none => simpa using List.find?_eq_none.mp hf (k, v) h
    | some e =>
      have hk : e.1 = k := by simpa using List.find?_some hf
      have he := eq_of_mem_of_key_eq (List.mem_of_find?_eq_some hf) h hk
      rw [get, hf, he]
      rfl

theorem get_eq_none_iff {m : OrderedMap K V} {k : K} :
    m.get k = none ↔ ∀ v, (k, v) ∉ m.entries := by
  simp only [Option.eq_none_iff_forall_ne_some, ne_eq, get_eq_some_iff]

@[simp] theorem get_empty (k : K) : (∅ : OrderedMap K V).get k = none := rfl

theorem get_ne_some {m : OrderedMap K V} (h : m = ∅) (k : K) (v : V) : m.get k ≠ some v := by
  rw [h, get_empty]
  exact nofun

@[simp] theorem entries_empty : (∅ : OrderedMap K V).entries = [] := rfl

theorem has_iff {m : OrderedMap K V} {k : K} : m.has k = true ↔ ∃ v, m.get k = some v :=
  Option.isSome_iff_exists

theorem mem_keys_iff {m : OrderedMap K V} {k : K} : k ∈ m.keys ↔ m.has k = true := by
  rw [has_iff, keys, List.mem_map]
  constructor
  · rintro ⟨⟨k', v⟩, hentry, rfl⟩
    exact ⟨v, get_eq_some_iff.mpr hentry⟩
  · rintro ⟨v, hget⟩
    exact ⟨(k, v), get_eq_some_iff.mp hget, rfl⟩

theorem has_eq_false_iff {m : OrderedMap K V} {k : K} : m.has k = false ↔ m.get k = none := by
  simp [has]

theorem mem_set_entries {m : OrderedMap K V} {k : K} {v : V} {e : K × V} :
    e ∈ (m.set k v).entries ↔ e = (k, v) ∨ (e.1 ≠ k ∧ e ∈ m.entries) := by
  simp only [set, List.mem_append, List.mem_filter, List.mem_cons, decide_eq_true_eq]
  constructor
  · intro hcase
    rcases hcase with ⟨he, hlt⟩ | rfl | ⟨he, hlt⟩
    · exact Or.inr ⟨hlt.ne, he⟩
    · exact Or.inl rfl
    · exact Or.inr ⟨hlt.ne', he⟩
  · intro hcase
    rcases hcase with rfl | ⟨hne, he⟩
    · exact Or.inr (Or.inl rfl)
    · rcases lt_or_gt_of_ne hne with hlt | hlt
      · exact Or.inl ⟨he, hlt⟩
      · exact Or.inr (Or.inr ⟨he, hlt⟩)

theorem mem_delete_entries {m : OrderedMap K V} {k : K} {e : K × V} :
    e ∈ (m.delete k).entries ↔ e ∈ m.entries ∧ e.1 ≠ k := by
  simp [delete]

theorem get_set (m : OrderedMap K V) (k k' : K) (v : V) :
    (m.set k v).get k' = if k' = k then some v else m.get k' := by
  split
  · rename_i h
    subst h
    exact get_eq_some_iff.mpr (mem_set_entries.mpr (Or.inl rfl))
  · rename_i h
    apply Option.ext
    intro w
    simp only [get_eq_some_iff, mem_set_entries, Prod.mk.injEq]
    constructor
    · intro hcase
      rcases hcase with ⟨hk, _⟩ | ⟨_, hm⟩
      · exact absurd hk h
      · exact hm
    · exact fun hm => Or.inr ⟨h, hm⟩

@[simp] theorem get_set_self (m : OrderedMap K V) (k : K) (v : V) :
    (m.set k v).get k = some v := by
  rw [get_set, if_pos rfl]

theorem get_set_of_ne (m : OrderedMap K V) {k k' : K} (v : V) (h : k' ≠ k) :
    (m.set k v).get k' = m.get k' := by
  rw [get_set, if_neg h]

/-- Maps that agree at a key still do after the same write. -/
theorem get_set_congr {m m' : OrderedMap K V} {k' : K} (h : m'.get k' = m.get k') (k : K) (v : V) :
    (m'.set k v).get k' = (m.set k v).get k' := by
  rw [get_set, get_set, h]

theorem get_delete (m : OrderedMap K V) (k k' : K) :
    (m.delete k).get k' = if k' = k then none else m.get k' := by
  apply Option.ext
  intro w
  by_cases h : k' = k
  · simp [get_eq_some_iff, mem_delete_entries, h]
  · simp [get_eq_some_iff, mem_delete_entries, h]

theorem has_set (m : OrderedMap K V) (k k' : K) (v : V) :
    (m.set k v).has k' = (decide (k' = k) || m.has k') := by
  by_cases h : k' = k <;> simp [has, get_set, h]

theorem has_set_iff {m : OrderedMap K V} {k k' : K} {v : V} :
    (m.set k v).has k' = true ↔ k' = k ∨ m.has k' = true := by
  rw [has_set, Bool.or_eq_true, decide_eq_true_eq]

/-- Writing a key that has an entry brings no key in. -/
theorem has_set_of_get_some {m : OrderedMap K V} {k k' : K} {v w : V} (h : m.get k = some w) :
    (m.set k v).has k' = true ↔ m.has k' = true := by
  rw [has_set_iff]
  refine or_iff_right_of_imp ?_
  rintro rfl
  exact has_iff.mpr ⟨w, h⟩

theorem has_delete_iff {m : OrderedMap K V} {k k' : K} :
    (m.delete k).has k' = true ↔ k' ≠ k ∧ m.has k' = true := by
  by_cases h : k' = k <;> simp [has, get_delete, h]

@[ext] theorem ext {m m' : OrderedMap K V} (h : ∀ k, m.get k = m'.get k) : m = m' := by
  have hperm : m.entries.Perm m'.entries := by
    rw [List.perm_ext_iff_of_nodup m.entries_nodup m'.entries_nodup]
    intro e
    obtain ⟨k, v⟩ := e
    rw [← get_eq_some_iff, ← get_eq_some_iff, h k]
  have heq := hperm.eq_of_pairwise (fun a b _ _ hab hba => absurd hab hba.asymm) m.sorted m'.sorted
  cases m
  cases m'
  simpa using heq

instance [DecidableEq V] : DecidableEq (OrderedMap K V) := fun a b =>
  decidable_of_iff (a.entries = b.entries) (by cases a; cases b; simp)

theorem set_eq_self {m : OrderedMap K V} {k : K} {v : V} (h : m.get k = some v) :
    m.set k v = m := by
  ext1 k'
  rw [get_set]
  split
  · rename_i hk
    rw [hk, h]
  · rfl

theorem set_ne_empty (m : OrderedMap K V) (k : K) (v : V) : m.set k v ≠ ∅ := by
  intro h
  have hget := get_set_self m k v
  rw [h] at hget
  cases hget

/-- Of two writes to one key the second counts. -/
@[simp] theorem set_set (m : OrderedMap K V) (k : K) (v w : V) : (m.set k v).set k w = m.set k w := by
  ext1 k'
  simp only [get_set]
  split <;> rfl

/-- Writing a key that has no entry adds one entry. -/
theorem entries_set_perm_of_get_none {m : OrderedMap K V} {k : K} {v : V}
    (h : m.get k = none) : (m.set k v).entries.Perm ((k, v) :: m.entries) := by
  have hk : (k, v) ∉ m.entries := get_eq_none_iff.mp h v
  rw [List.perm_ext_iff_of_nodup (m.set k v).entries_nodup
    (List.nodup_cons.mpr ⟨hk, m.entries_nodup⟩)]
  intro e
  obtain ⟨a, w⟩ := e
  rw [mem_set_entries, List.mem_cons]
  constructor
  · intro hcase
    rcases hcase with he | ⟨_, he⟩
    · exact Or.inl he
    · exact Or.inr he
  · intro hcase
    rcases hcase with he | he
    · exact Or.inl he
    · refine Or.inr ⟨?_, he⟩
      intro heq
      subst heq
      exact get_eq_none_iff.mp h w he

theorem values_set_perm_of_get_none {m : OrderedMap K V} {k : K} {v : V} (h : m.get k = none) :
    (m.set k v).values.Perm (v :: m.values) :=
  (entries_set_perm_of_get_none h).map Prod.snd

theorem mem_values_iff {m : OrderedMap K V} {v : V} : v ∈ m.values ↔ ∃ k, m.get k = some v := by
  rw [values, List.mem_map]
  constructor
  · rintro ⟨⟨k, w⟩, hentry, rfl⟩
    exact ⟨k, get_eq_some_iff.mpr hentry⟩
  · rintro ⟨k, hget⟩
    exact ⟨(k, v), get_eq_some_iff.mp hget, rfl⟩

/-- A value under a new key is counted once more. -/
theorem countP_values_set {m : OrderedMap K V} {k : K} (h : m.get k = none) (v : V) (p : V → Bool) :
    (m.set k v).values.countP p = m.values.countP p + if p v then 1 else 0 := by
  rw [(values_set_perm_of_get_none h).countP_eq, List.countP_cons]

/-- Deleting a key that has an entry takes that entry away. -/
theorem entries_perm_delete {m : OrderedMap K V} {k : K} {w : V} (h : m.get k = some w) :
    m.entries.Perm ((k, w) :: (m.delete k).entries) := by
  have hdel : (m.delete k).get k = none := by simp [get_delete]
  have hback : (m.delete k).set k w = m := by
    ext1 k'
    simp only [get_set, get_delete]
    split
    · rename_i hk
      rw [hk, h]
    · rfl
  have hw := entries_set_perm_of_get_none (v := w) hdel
  rwa [hback] at hw

theorem countP_keys_set {m : OrderedMap K V} {k : K} (h : m.get k = none) (v : V) (p : K → Bool) :
    (m.set k v).keys.countP p = m.keys.countP p + if p k then 1 else 0 := by
  rw [keys, ((entries_set_perm_of_get_none h).map Prod.fst).countP_eq, List.map_cons,
    List.countP_cons]
  rfl

theorem countP_keys_delete {m : OrderedMap K V} {k : K} {w : V} (h : m.get k = some w)
    (p : K → Bool) :
    (m.delete k).keys.countP p + (if p k then 1 else 0) = m.keys.countP p := by
  rw [keys, keys, ((entries_perm_delete h).map Prod.fst).countP_eq, List.map_cons,
    List.countP_cons]

/-- Writing a key that has an entry exchanges that entry. -/
theorem entries_set_perm_of_get_some {m : OrderedMap K V} {k : K} {v w : V}
    (h : m.get k = some w) : ((k, w) :: (m.set k v).entries).Perm ((k, v) :: m.entries) := by
  have hdel : (m.delete k).get k = none := by simp [get_delete]
  have hset : (m.delete k).set k v = m.set k v := by
    ext1 k'
    simp only [get_set, get_delete]
    split <;> rfl
  have hv := entries_set_perm_of_get_none (v := v) hdel
  have hw := entries_perm_delete h
  rw [hset] at hv
  calc (k, w) :: (m.set k v).entries
      _ |>.Perm ((k, w) :: (k, v) :: (m.delete k).entries) := hv.cons _
      _ |>.Perm ((k, v) :: (k, w) :: (m.delete k).entries) := .swap _ _ _
      _ |>.Perm ((k, v) :: m.entries) := (hw.cons _).symm

theorem length_set_of_get_none {m : OrderedMap K V} {k : K} (h : m.get k = none) (v : V) :
    (m.set k v).entries.length = m.entries.length + 1 :=
  (entries_set_perm_of_get_none h).length_eq

theorem length_set_of_get_some {m : OrderedMap K V} {k : K} {w : V} (h : m.get k = some w)
    (v : V) : (m.set k v).entries.length = m.entries.length := by
  have hperm := (entries_set_perm_of_get_some (v := v) h).length_eq
  simpa using hperm

theorem length_delete_of_get_some {m : OrderedMap K V} {k : K} {w : V} (h : m.get k = some w) :
    (m.delete k).entries.length + 1 = m.entries.length :=
  (entries_perm_delete h).length_eq.symm

section Under
variable {α : Type u} [LinearOrder α]

theorem append_lt_append_iff (p a b : List α) : p ++ a < p ++ b ↔ a < b := by
  induction p with
  | nil => rfl
  | cons x p ih =>
    rw [List.cons_append, List.cons_append, List.cons_lt_cons_iff]
    simp [ih]

/-- The entries whose key starts with `p`, under the rest of the key. -/
def under (p : List α) (m : OrderedMap (List α) V) : OrderedMap (List α) V where
  entries := (m.entries.filter fun e => p.isPrefixOf e.1).map fun e => (e.1.drop p.length, e.2)
  sorted := by
    rw [List.pairwise_map]
    refine (m.sorted.filter _).imp_of_mem ?_
    intro a b ha hb hlt
    obtain ⟨ra, hra⟩ := List.isPrefixOf_iff_prefix.mp (List.mem_filter.mp ha).2
    obtain ⟨rb, hrb⟩ := List.isPrefixOf_iff_prefix.mp (List.mem_filter.mp hb).2
    rw [← hra, ← hrb, append_lt_append_iff] at hlt
    simpa [← hra, ← hrb] using hlt

variable (p : List α) (m : OrderedMap (List α) V)

@[simp] theorem get_under (k : List α) : (m.under p).get k = m.get (p ++ k) := by
  apply Option.ext
  intro v
  rw [get_eq_some_iff, get_eq_some_iff, under, List.mem_map]
  constructor
  · rintro ⟨e, he, heq⟩
    obtain ⟨hmem, hstart⟩ := List.mem_filter.mp he
    obtain ⟨rest, hrest⟩ := List.isPrefixOf_iff_prefix.mp hstart
    obtain ⟨rfl, rfl⟩ := Prod.mk.inj heq
    rw [← hrest, List.drop_left, hrest]
    exact hmem
  · intro hmem
    refine ⟨(p ++ k, v), List.mem_filter.mpr ⟨hmem, ?_⟩, by simp⟩
    exact List.isPrefixOf_iff_prefix.mpr (List.prefix_append p k)

theorem values_under :
    (m.under p).values = (m.entries.filter fun e => p.isPrefixOf e.1).map Prod.snd := by
  simp [under, values, List.map_map, Function.comp_def]

/-- Where every key has the prefix, taking it off loses no entry. -/
theorem values_under_of_forall (h : ∀ e ∈ m.entries, p <+: e.1) : (m.under p).values = m.values := by
  have hall : m.entries.filter (fun e => p.isPrefixOf e.1) = m.entries := by
    rw [List.filter_eq_self]
    intro e he
    exact List.isPrefixOf_iff_prefix.mpr (h e he)
  rw [values_under, hall, values]

theorem under_set (k : List α) (v : V) : (m.set (p ++ k) v).under p = (m.under p).set k v := by
  ext1 k'
  simp only [get_under, get_set, List.append_cancel_left_eq]

theorem under_delete (k : List α) : (m.delete (p ++ k)).under p = (m.under p).delete k := by
  ext1 k'
  simp only [get_under, get_delete, List.append_cancel_left_eq]

end Under

/-- An increasing list of keys that is as long as the map has all of them. -/
theorem eq_keys_of_subset {m : OrderedMap K V} {ks : List K} (hsorted : ks.Pairwise (· < ·))
    (hsub : ks ⊆ m.keys) (hlength : m.entries.length ≤ ks.length) : ks = m.keys := by
  have hnodup : ks.Nodup := hsorted.imp fun h => h.ne
  have hkeys : m.keys.Pairwise (· < ·) := List.pairwise_map.mpr m.sorted
  have hperm : ks.Perm m.keys := by
    refine (List.subperm_of_subset hnodup hsub).perm_of_length_le ?_
    rwa [keys, List.length_map]
  exact hperm.eq_of_pairwise (fun a b _ _ hab hba => absurd hab hba.asymm) hsorted hkeys

section MapValues
variable {W : Type v} (f : V → W) (m : OrderedMap K V)

def mapValues : OrderedMap K W where
  entries := m.entries.map fun e => (e.1, f e.2)
  sorted := by
    rw [List.pairwise_map]
    exact m.sorted

@[simp] theorem get_mapValues (k : K) : (m.mapValues f).get k = (m.get k).map f := by
  apply Option.ext
  intro w
  rw [get_eq_some_iff, mapValues, List.mem_map, Option.map_eq_some_iff]
  constructor
  · rintro ⟨e, he, heq⟩
    obtain ⟨rfl, rfl⟩ := Prod.mk.inj heq
    exact ⟨e.2, get_eq_some_iff.mpr he, rfl⟩
  · rintro ⟨v, hget, rfl⟩
    exact ⟨(k, v), get_eq_some_iff.mp hget, rfl⟩

@[simp] theorem values_mapValues : (m.mapValues f).values = m.values.map f := by
  simp [mapValues, values, List.map_map, Function.comp_def]

theorem mapValues_set (k : K) (v : V) : (m.set k v).mapValues f = (m.mapValues f).set k (f v) := by
  ext1 k'
  simp only [get_mapValues, get_set]
  split
  · rfl
  · rfl

theorem mapValues_under {α : Type u} [LinearOrder α] (p : List α) (m : OrderedMap (List α) V) :
    (m.mapValues f).under p = (m.under p).mapValues f := by
  ext1 k
  simp only [get_under, get_mapValues]

end MapValues

section Forall
variable {P : K → V → Prop} {m : OrderedMap K V}

/-- Every entry satisfies `P`. -/
def Forall (P : K → V → Prop) (m : OrderedMap K V) : Prop := ∀ k v, m.get k = some v → P k v

@[simp] theorem forall_empty : Forall P (∅ : OrderedMap K V) := by
  intro k v h
  cases h

theorem Forall.imp {Q : K → V → Prop} (h : m.Forall P) (hPQ : ∀ k v, P k v → Q k v) :
    m.Forall Q :=
  fun k v hget => hPQ k v (h k v hget)

theorem Forall.set {k : K} {v : V} (h : m.Forall P) (hv : P k v) : (m.set k v).Forall P := by
  intro k' v' hget
  rw [get_set] at hget
  split at hget
  · rename_i hk
    obtain rfl := Option.some.inj hget
    exact hk ▸ hv
  · exact h k' v' hget

theorem Forall.delete (h : m.Forall P) (k : K) : (m.delete k).Forall P := by
  intro k' v' hget
  rw [get_delete] at hget
  split at hget
  · cases hget
  · exact h k' v' hget

theorem Forall.foldl_set {ι : Type u} {key : ι → K} {value : ι → V} {xs : List ι}
    (h : m.Forall P) (hxs : ∀ x ∈ xs, P (key x) (value x)) :
    (xs.foldl (fun m x => m.set (key x) (value x)) m).Forall P := by
  induction xs generalizing m with
  | nil => exact h
  | cons x xs ih =>
    apply ih (h.set (hxs x List.mem_cons_self))
    intro y hy
    exact hxs y (List.mem_cons_of_mem x hy)

end Forall

section Sum
variable (f : V → Nat)

def sumBy (m : OrderedMap K V) : Nat := (m.entries.map fun e => f e.2).sum

/-- A write exchanges the old summand of its key, if any, for the new one. -/
theorem sumBy_set (m : OrderedMap K V) (k : K) (v : V) :
    (m.set k v).sumBy f + ((m.get k).map f).getD 0 = m.sumBy f + f v := by
  cases h : m.get k with
  | none =>
    have hperm := ((entries_set_perm_of_get_none (v := v) h).map fun e => f e.2).sum_nat
    simp only [List.map_cons, List.sum_cons] at hperm
    simp only [sumBy, Option.map_none, Option.getD_none]
    omega
  | some w =>
    have hperm := ((entries_set_perm_of_get_some (v := v) h).map fun e => f e.2).sum_nat
    simp only [List.map_cons, List.sum_cons] at hperm
    simp only [sumBy, Option.map_some, Option.getD_some]
    omega

variable {f}

/-- A write that raises the summand of its key by `n` raises the sum by `n`. -/
theorem sumBy_set_add {m : OrderedMap K V} {k : K} {v : V} {n : Nat}
    (h : f v = ((m.get k).map f).getD 0 + n) : (m.set k v).sumBy f = m.sumBy f + n := by
  have hset := sumBy_set f m k v
  omega

theorem sumBy_eq_sum_values (m : OrderedMap K V) : m.sumBy f = (m.values.map f).sum := by
  rw [sumBy, values, List.map_map]
  rfl

variable (f) in
theorem countP_le_sum_map (vs : List V) : (vs.countP fun v => 0 < f v) ≤ (vs.map f).sum := by
  induction vs with
  | nil => exact Nat.le_refl 0
  | cons v vs ih =>
    simp only [List.map_cons, List.countP_cons, List.sum_cons, decide_eq_true_eq]
    split <;> omega

theorem countP_le_sumBy (m : OrderedMap K V) :
    (m.values.countP fun v => 0 < f v) ≤ m.sumBy f := by
  rw [sumBy_eq_sum_values]
  exact countP_le_sum_map f m.values

/-- The sum is the number of values with a summand exactly if every summand is at most one. -/
theorem sumBy_eq_countP_iff (m : OrderedMap K V) :
    (m.sumBy f = m.values.countP fun v => 0 < f v) ↔ ∀ v ∈ m.values, f v ≤ 1 := by
  rw [sumBy_eq_sum_values]
  induction m.values with
  | nil => simp
  | cons v vs ih =>
    have hle := countP_le_sum_map f vs
    simp only [List.map_cons, List.countP_cons, List.sum_cons, decide_eq_true_eq,
      List.forall_mem_cons, ← ih]
    split <;> omega

theorem le_sumBy {m : OrderedMap K V} {k : K} {v : V} (h : m.get k = some v) : f v ≤ m.sumBy f := by
  have hperm := ((entries_perm_delete h).map fun e => f e.2).sum_nat
  rw [List.map_cons, List.sum_cons] at hperm
  rw [sumBy, hperm]
  exact Nat.le_add_right _ _

end Sum

end OrderedMap
