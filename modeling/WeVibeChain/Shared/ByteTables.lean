import WeVibeChain.Shared.Tables
import WeVibeChain.Shared.Wire

/-!
# Tables in one store

A store maps keys to written values and knows nothing of records. A table is kept in
it under a family of keys, each record written with a codec that reads it back.
Families that have no key in common do not disturb each other, so several tables and
single values can share a store; each of them is a lookup function on its family.

What an iterator meets is settled by the lookups alone: a list in key order with the
right members is the list of entries.

Protobuf records are written with the codec of their fields, as long as no byte string
in them is too long for a length of 64 bits.
-/

set_option autoImplicit false

universe u v w

/-- A way to write values and to read them back. Not every value need be fit for writing. -/
structure Codec (V : Type v) (B : Type w) where
  Fits : V → Prop
  write : V → B
  read : B → Option V
  read_write : ∀ v, Fits v → read (write v) = some v

namespace Codec
variable {K : Type u} {V : Type v} {B : Type w} [LinearOrder K]

/-- Under the keys of the family the store holds what the lookups say, written out. -/
structure Holds (c : Codec V B) (family : K → Prop) (store : OrderedMap K B) (lookup : K → Option V) :
    Prop where
  written : ∀ k, family k → store.get k = (lookup k).map c.write
  fits : ∀ k v, family k → lookup k = some v → c.Fits v

variable {c : Codec V B} {family : K → Prop} {store : OrderedMap K B} {lookup : K → Option V} {k : K}

theorem Holds.get_of_none (h : c.Holds family store lookup) (hk : family k)
    (hnone : lookup k = none) : store.get k = none := by
  rw [h.written k hk, hnone]
  rfl

/-- What the store has under a key of the family can be read. -/
theorem Holds.get_of_some (h : c.Holds family store lookup) (hk : family k) {v : V}
    (hsome : lookup k = some v) :
    store.get k = some (c.write v) ∧ c.read (c.write v) = some v := by
  refine ⟨?_, c.read_write v (h.fits k v hk hsome)⟩
  rw [h.written k hk, hsome]
  rfl

theorem Holds.set (h : c.Holds family store lookup) {v : V} (hv : c.Fits v) :
    c.Holds family (store.set k (c.write v)) (Function.update lookup k (some v)) := by
  constructor
  · intro k' hk'
    by_cases heq : k' = k
    · rw [heq, OrderedMap.get_set_self, Function.update_self]
      rfl
    · rw [OrderedMap.get_set_of_ne _ _ heq, Function.update_of_ne heq]
      exact h.written k' hk'
  · intro k' v' hk' hv'
    by_cases heq : k' = k
    · rw [heq, Function.update_self] at hv'
      obtain rfl := Option.some.inj hv'
      exact hv
    · rw [Function.update_of_ne heq] at hv'
      exact h.fits k' v' hk' hv'

theorem Holds.delete (h : c.Holds family store lookup) (k : K) :
    c.Holds family (store.delete k) (Function.update lookup k none) := by
  constructor
  · intro k' hk'
    rw [OrderedMap.get_delete]
    by_cases heq : k' = k
    · rw [if_pos heq, heq, Function.update_self]
      rfl
    · rw [if_neg heq, Function.update_of_ne heq]
      exact h.written k' hk'
  · intro k' v' hk' hv'
    by_cases heq : k' = k
    · rw [heq, Function.update_self] at hv'
      cases hv'
    · rw [Function.update_of_ne heq] at hv'
      exact h.fits k' v' hk' hv'

/-- A store that has the same under the keys of the family. -/
theorem Holds.congr {store' : OrderedMap K B} (h : c.Holds family store lookup)
    (hsame : ∀ k, family k → store'.get k = store.get k) : c.Holds family store' lookup :=
  ⟨fun k hk => (hsame k hk).trans (h.written k hk), h.fits⟩

theorem Holds.set_other (h : c.Holds family store lookup) (hk : ¬ family k) (b : B) :
    c.Holds family (store.set k b) lookup := by
  refine h.congr fun k' hk' => OrderedMap.get_set_of_ne _ _ ?_
  rintro rfl
  exact hk hk'

theorem Holds.delete_other (h : c.Holds family store lookup) (hk : ¬ family k) :
    c.Holds family (store.delete k) lookup := by
  refine h.congr fun k' hk' => ?_
  rw [OrderedMap.get_delete, if_neg]
  rintro rfl
  exact hk hk'

theorem holds_none (hnone : ∀ k, family k → store.get k = none) :
    c.Holds family store (fun _ => none) :=
  ⟨hnone, fun _ _ _ h => nomatch h⟩

/-- A single value is a table with one key. -/
theorem Holds.set_value {o : Option V} (h : c.Holds (· = k) store fun _ => o) {v : V}
    (hv : c.Fits v) : c.Holds (· = k) (store.set k (c.write v)) fun _ => some v := by
  have hset := h.set (k := k) hv
  constructor
  · rintro k' rfl
    rw [hset.written _ rfl, Function.update_self]
  · rintro k' v' rfl hv'
    obtain rfl := Option.some.inj hv'
    exact hv

end Codec

namespace OrderedMap
variable {K : Type u} {V : Type v} [LinearOrder K] {m : OrderedMap K V}

theorem get_set_eq (m : OrderedMap K V) (k : K) (v : V) :
    (m.set k v).get = Function.update m.get k (some v) :=
  funext (get_set_eq_update Function.injective_id (fun _ => rfl) k v)

theorem get_delete_eq (m : OrderedMap K V) (k : K) :
    (m.delete k).get = Function.update m.get k none :=
  funext (get_delete_eq_update Function.injective_id (fun _ => rfl) k)

/-- The entries are the only list of their members in key order. -/
theorem entries_eq_of_sorted {es : List (K × V)} (hsorted : es.Pairwise fun a b => a.1 < b.1)
    (hmem : ∀ k v, (k, v) ∈ es ↔ m.get k = some v) : m.entries = es := by
  have hsame : m = ⟨es, hsorted⟩ := by
    apply ext
    intro k
    apply Option.ext
    intro v
    rw [← hmem, get_eq_some_iff]
  rw [hsame]

end OrderedMap

namespace Wire
variable {ρ : Type}

/-- Every byte string in the record has a length of 64 bits. -/
def Light (fields : List Field) : Prop := ∀ f ∈ fields, f.value.weight < 2 ^ 64

@[simp] theorem light_nil : Light [] := fun _ h => absurd h List.not_mem_nil

@[simp] theorem light_append (fields fields' : List Field) :
    Light (fields ++ fields') ↔ Light fields ∧ Light fields' := List.forall_mem_append

@[simp] theorem light_varintField (number : Nat) (n : UInt64) : Light (varintField number n) := by
  unfold varintField
  split
  · exact light_nil
  · exact List.forall_mem_singleton.mpr (by simp [Value.weight])

@[simp] theorem light_bytesField (number : Nat) (b : Bytes) :
    Light (bytesField number b) ↔ b.length < 2 ^ 64 := by
  unfold bytesField
  split
  · rename_i hb
    simp [hb]
  · exact List.forall_mem_singleton

/-- The codec of a record type: its fields in order, and the reader of its fields. -/
def codec (fields : ρ → List Field) (ofFields : List Field → Option ρ)
    (hplain : ∀ r, Plain (fields r)) (hround : ∀ r, ofFields (fields r) = some r) :
    Codec ρ Bytes where
  Fits r := Light (fields r)
  write r := write (fields r)
  read bz := (parse bz).bind ofFields
  read_write r hlight := by rw [parse_write (hplain r) hlight, Option.bind_some, hround]

end Wire
