import Mathlib.Logic.Function.Basic
import WeVibeChain.Shared.OrderedMap

/-!
# Tables written out and loaded again

A table is written out as the list of its records in key order and loaded by
writing each record of a list under the key that it names. Where the key of every
entry is the one that its record names, loading what was written out gives the
table back, up to what the record loses on the way.

A loop that remembers the names it has seen keeps the first record of every name.

A store of several tables is scanned from a key on, through whatever follows. Of a
table that lies wholly before the key the scan meets nothing, of one that lies
behind it everything.

A map that is read under keys that differ is a function of what the keys are made
of, and a write changes it at one place.
-/

set_option autoImplicit false

universe u v w

namespace OrderedMap
variable {K : Type u} {V : Type v} {ι : Type w} [LinearOrder K] {key : ι → K} {value : ι → V}
  {m : OrderedMap K V} {xs : List ι} {k : K}

section Load

theorem get_load_of_notMem (h : ∀ x ∈ xs, key x ≠ k) :
    (xs.foldl (fun m x => m.set (key x) (value x)) m).get k = m.get k := by
  induction xs generalizing m with
  | nil => rfl
  | cons x xs ih =>
    rw [List.forall_mem_cons] at h
    rw [List.foldl_cons, ih h.2, get_set_of_ne _ _ h.1.symm]

/-- Where all records of a name agree, it does not matter which of them is written last. -/
theorem get_load_of_mem {x : ι} (hx : x ∈ xs)
    (hagree : ∀ y ∈ xs, key y = key x → value y = value x) :
    (xs.foldl (fun m x => m.set (key x) (value x)) m).get (key x) = some (value x) := by
  induction xs generalizing m x with
  | nil => cases hx
  | cons y ys ih =>
    rw [List.forall_mem_cons] at hagree
    rw [List.foldl_cons]
    by_cases hlater : ∃ z ∈ ys, key z = key x
    · obtain ⟨z, hz, hkey⟩ := hlater
      have hvalue := hagree.2 z hz hkey
      rw [← hkey, ← hvalue]
      apply ih hz
      intro w hw hwz
      rw [hagree.2 w hw (hwz.trans hkey), hvalue]
    · have hlast : ∀ z ∈ ys, key z ≠ key x := fun z hz hkey => hlater ⟨z, hz, hkey⟩
      rw [get_load_of_notMem hlast]
      rcases List.mem_cons.mp hx with rfl | hx
      · exact get_set_self _ _ _
      · exact absurd rfl (hlast x hx)

/-- What loading makes of a table that is written out with `dump`. -/
theorem get_load_dump (key : ι → K) (dump : V → ι) (value : ι → V)
    (hkeyed : m.Forall fun k v => key (dump v) = k) (k : K) :
    ((m.values.map dump).foldl (fun m x => m.set (key x) (value x)) (∅ : OrderedMap K V)).get k =
      (m.get k).map fun v => value (dump v) := by
  cases hget : m.get k with
  | none =>
    rw [get_load_of_notMem]
    · rfl
    · intro x hx hkey
      obtain ⟨v, hv, rfl⟩ := List.mem_map.mp hx
      obtain ⟨k', hk'⟩ := mem_values_iff.mp hv
      rw [← hkey, hkeyed k' v hk', hk'] at hget
      cases hget
  | some v =>
    have hname := hkeyed k v hget
    have hmem : dump v ∈ m.values.map dump :=
      List.mem_map_of_mem (mem_values_iff.mpr ⟨k, hget⟩)
    rw [← hname]
    apply get_load_of_mem hmem
    intro y hy hkey
    obtain ⟨w, hw, rfl⟩ := List.mem_map.mp hy
    obtain ⟨k', hk'⟩ := mem_values_iff.mp hw
    have hsame : k' = k := (hkeyed k' w hk').symm.trans (hkey.trans hname)
    rw [hsame, hget] at hk'
    rw [Option.some.inj hk']

/-- The table comes back exactly if every record survives on its own. -/
theorem load_dump_eq_iff (key : ι → K) (dump : V → ι) (value : ι → V)
    (hkeyed : m.Forall fun k v => key (dump v) = k) :
    (m.values.map dump).foldl (fun m x => m.set (key x) (value x)) (∅ : OrderedMap K V) = m ↔
      m.Forall fun _ v => value (dump v) = v := by
  constructor
  · intro h k v hget
    have hloaded := get_load_dump key dump value hkeyed k
    rw [h, hget] at hloaded
    exact (Option.some.inj hloaded).symm
  · intro h
    ext1 k
    rw [get_load_dump key dump value hkeyed]
    cases hget : m.get k with
    | none => rfl
    | some v => exact congrArg some (h k v hget)

/-- A table of records that are loaded as they are. -/
theorem load_values {name : V → K} (hkeyed : m.Forall fun k v => name v = k) :
    m.values.foldl (fun m v => m.set (name v) v) (∅ : OrderedMap K V) = m := by
  have hload := (load_dump_eq_iff name id id hkeyed).mpr fun _ _ _ => rfl
  rwa [List.map_id] at hload

/-- A table is loaded from any list of its records. -/
theorem load_of_mem_iff {name : V → K} {vs : List V} (hkeyed : m.Forall fun k v => name v = k)
    (hvs : ∀ v, v ∈ vs ↔ v ∈ m.values) :
    vs.foldl (fun m v => m.set (name v) v) (∅ : OrderedMap K V) = m := by
  ext1 k
  cases hget : m.get k with
  | none =>
    refine get_load_of_notMem fun v hv hname => ?_
    obtain ⟨k', hk'⟩ := mem_values_iff.mp ((hvs v).mp hv)
    rw [← hname, hkeyed k' v hk', hk'] at hget
    cases hget
  | some v =>
    have hv : v ∈ vs := (hvs v).mpr (mem_values_iff.mpr ⟨k, hget⟩)
    rw [← hkeyed k v hget]
    apply get_load_of_mem hv
    intro w hw hname
    obtain ⟨k', hk'⟩ := mem_values_iff.mp ((hvs w).mp hw)
    rw [hkeyed k' w hk', hkeyed k v hget] at hname
    rw [hname, hget] at hk'
    exact (Option.some.inj hk').symm

/-- A key has an entry if it had one before or a record names it. -/
theorem has_load_iff :
    (xs.foldl (fun m x => m.set (key x) (value x)) m).has k = true ↔
      m.has k = true ∨ ∃ x ∈ xs, key x = k := by
  induction xs generalizing m with
  | nil => simp
  | cons x xs ih =>
    rw [List.foldl_cons, ih, has_set_iff, List.exists_mem_cons_iff, @eq_comm _ k, or_assoc,
      or_left_comm]

/-- Records with different names are all kept. -/
theorem values_load_perm {name : V → K} {vs : List V} (hnodup : (vs.map name).Nodup) :
    (vs.foldl (fun m v => m.set (name v) v) (∅ : OrderedMap K V)).values.Perm vs := by
  induction vs using List.reverseRecOn with
  | nil => exact List.Perm.nil
  | append_singleton vs v ih =>
    rw [List.map_append, List.nodup_append] at hnodup
    obtain ⟨hinit, -, hnew⟩ := hnodup
    rw [List.foldl_append, List.foldl_cons, List.foldl_nil]
    have hnone : (vs.foldl (fun m v => m.set (name v) v) (∅ : OrderedMap K V)).get (name v) = none :=
      get_load_of_notMem fun w hw => hnew _ (List.mem_map_of_mem hw) _ (List.mem_singleton_self _)
    refine (values_set_perm_of_get_none hnone).trans ?_
    exact ((ih hinit).cons v).trans (List.perm_append_singleton v vs).symm

theorem load_ne_empty (h : m ≠ ∅) :
    xs.foldl (fun m x => m.set (key x) (value x)) m ≠ ∅ := by
  induction xs generalizing m with
  | nil => exact h
  | cons x xs ih => exact ih (set_ne_empty _ _ _)

/-- Nothing is loaded from an empty list only. -/
theorem load_eq_empty_iff :
    xs.foldl (fun m x => m.set (key x) (value x)) (∅ : OrderedMap K V) = ∅ ↔ xs = [] := by
  constructor
  · intro h
    cases xs with
    | nil => rfl
    | cons x xs =>
      rw [List.foldl_cons] at h
      exact absurd h (load_ne_empty (set_ne_empty _ _ _))
  · rintro rfl
    rfl

/-- Of values that are written to one place the last stays. -/
theorem foldl_some_eq_getLast? (value : ι → V) (xs : List ι) :
    xs.foldl (fun _ x => some (value x)) none = xs.getLast?.map value := by
  have hstart : ∀ o : Option V, xs.foldl (fun _ x => some (value x)) o =
      (xs.getLast?.map value).or o := by
    induction xs with
    | nil =>
      intro o
      rfl
    | cons x xs ih =>
      intro o
      rw [List.foldl_cons, ih, List.getLast?_cons]
      cases xs.getLast? with
      | none => rfl
      | some y => rfl
  rw [hstart, Option.or_none]

/-- The last record of a kind is the newest one or was the last before. -/
theorem find?_reverse_append_singleton (p : ι → Bool) (xs : List ι) (x : ι) :
    (xs ++ [x]).reverse.find? p = if p x then some x else xs.reverse.find? p := by
  rw [List.reverse_append, List.reverse_singleton, List.singleton_append, List.find?_cons]
  cases p x with
  | false => rfl
  | true => rfl

theorem mem_of_find?_reverse {p : ι → Bool} {x : ι} (h : xs.reverse.find? p = some x) : x ∈ xs :=
  List.mem_reverse.mp (List.mem_of_find?_eq_some h)

theorem exists_find?_reverse {p : ι → Bool} {x : ι} (hx : x ∈ xs) (hp : p x = true) :
    ∃ y, xs.reverse.find? p = some y := by
  rw [← Option.isSome_iff_exists, List.find?_isSome]
  exact ⟨x, List.mem_reverse.mpr hx, hp⟩

end Load

section Scan
variable {W : Type w} {g : V → W} {lo : K}

theorem scan_eq_nil (h : m.Forall fun k _ => k < lo) :
    (m.entries.map fun e => (e.1, g e.2)).filter (fun e => lo ≤ e.1) = [] := by
  rw [List.filter_eq_nil_iff]
  intro e he
  obtain ⟨⟨k, v⟩, hmem, rfl⟩ := List.mem_map.mp he
  rw [decide_eq_true_eq, not_le]
  exact h k v (get_eq_some_iff.mpr hmem)

theorem scan_eq_self (h : m.Forall fun k _ => lo ≤ k) :
    (m.entries.map fun e => (e.1, g e.2)).filter (fun e => lo ≤ e.1) =
      m.entries.map fun e => (e.1, g e.2) := by
  rw [List.filter_eq_self]
  intro e he
  obtain ⟨⟨k, v⟩, hmem, rfl⟩ := List.mem_map.mp he
  exact decide_eq_true (h k v (get_eq_some_iff.mpr hmem))

/-- What a scan makes of a table in which every record names its key. -/
theorem scan_decode {ρ : Type*} {name : V → K} (hkeyed : m.Forall fun k v => name v = k)
    (decode : W → Option ρ) :
    ((m.entries.map fun e => (e.1, g e.2)).filter fun e => lo ≤ e.1).filterMap (fun e => decode e.2) =
      (m.values.filter fun v => lo ≤ name v).filterMap fun v => decode (g v) := by
  have hnamed : m.entries.filter (fun e => lo ≤ e.1) =
      m.entries.filter fun e => lo ≤ name e.2 := by
    refine List.filter_congr fun e he => ?_
    rw [hkeyed e.1 e.2 (get_eq_some_iff.mpr he)]
  rw [values, List.filter_map, List.filterMap_map, List.filter_map, List.filterMap_map]
  exact congrArg (List.filterMap fun e => decode (g e.2)) hnamed

/-- A single entry. -/
theorem scan_entry_eq_nil (o : Option V) (h : k < lo) :
    (o.toList.map fun v => (k, g v)).filter (fun e => lo ≤ e.1) = [] := by
  rw [List.filter_eq_nil_iff]
  intro e he
  obtain ⟨v, -, rfl⟩ := List.mem_map.mp he
  rw [decide_eq_true_eq, not_le]
  exact h

theorem scan_entry_eq_self (o : Option V) (h : lo ≤ k) :
    (o.toList.map fun v => (k, g v)).filter (fun e => lo ≤ e.1) =
      o.toList.map fun v => (k, g v) := by
  rw [List.filter_eq_self]
  intro e he
  obtain ⟨v, -, rfl⟩ := List.mem_map.mp he
  exact decide_eq_true h

/-- What is kept of a list, with more behind it, is what is wanted of the list exactly if nothing
unwanted is kept and the rest is what is wanted and not kept. -/
theorem filter_append_perm_filter_iff {vs more : List V} {kept wanted : V → Prop}
    [DecidablePred kept] [DecidablePred wanted] :
    ((vs.filter fun v => kept v) ++ more).Perm (vs.filter fun v => wanted v) ↔
      (∀ v ∈ vs, kept v → wanted v) ∧ more.Perm (vs.filter fun v => wanted v ∧ ¬ kept v) := by
  have hsplit : (∀ v ∈ vs, kept v → wanted v) →
      ((vs.filter fun v => kept v) ++ vs.filter fun v => wanted v ∧ ¬ kept v).Perm
        (vs.filter fun v => wanted v) := by
    intro hwanted
    have hboth := List.filter_append_perm (fun v => kept v) (vs.filter fun v => wanted v)
    rw [List.filter_filter, List.filter_filter] at hboth
    refine List.Perm.trans (List.Perm.of_eq ?_) hboth
    congr 1
    · refine List.filter_congr fun v hv => ?_
      by_cases hk : kept v
      · simp [hk, hwanted v hv hk]
      · simp [hk]
    · refine List.filter_congr fun v _ => ?_
      simp [Bool.and_comm]
  constructor
  · intro hperm
    have hwanted : ∀ v ∈ vs, kept v → wanted v := by
      intro v hv hk
      have hmem : v ∈ vs.filter fun v => wanted v :=
        hperm.subset (List.mem_append_left _ (List.mem_filter.mpr ⟨hv, decide_eq_true hk⟩))
      exact of_decide_eq_true (List.mem_filter.mp hmem).2
    exact ⟨hwanted, (List.perm_append_left_iff _).mp (hperm.trans (hsplit hwanted).symm)⟩
  · rintro ⟨hwanted, hmore⟩
    exact (hmore.append_left _).trans (hsplit hwanted)

/-- What is kept of a list is what is wanted and, if all of that is kept, the rest of it. -/
theorem countP_kept_eq_add {vs : List V} {kept wanted : V → Prop} [DecidablePred kept]
    [DecidablePred wanted] (h : ∀ v ∈ vs, wanted v → kept v) :
    (vs.countP fun v => kept v) =
      (vs.countP fun v => wanted v) + vs.countP fun v => ¬ wanted v ∧ kept v := by
  rw [List.countP_eq_countP_filter_add vs (fun v => decide (kept v)) (fun v => decide (wanted v)),
    List.countP_filter, List.countP_filter]
  congr 1
  · refine List.countP_congr fun v hv => ?_
    by_cases hw : wanted v
    · simp [hw, h v hv hw]
    · simp [hw]
  · refine List.countP_congr fun v _ => ?_
    simp [and_comm]

end Scan

section FirstSeen
variable {N : Type} [DecidableEq N] (name : ι → N)

/-- The records whose name has not been seen before. -/
def firstSeen : List N → List ι → List ι
  | _, [] => []
  | seen, x :: xs =>
    if name x ∈ seen then firstSeen seen xs else x :: firstSeen (name x :: seen) xs

variable {name} {seen : List N}

theorem mem_of_mem_firstSeen {x : ι} (h : x ∈ firstSeen name seen xs) :
    x ∈ xs ∧ name x ∉ seen := by
  induction xs generalizing seen with
  | nil => cases h
  | cons y ys ih =>
    unfold firstSeen at h
    split at h
    · obtain ⟨hmem, hnew⟩ := ih h
      exact ⟨List.mem_cons_of_mem y hmem, hnew⟩
    · rename_i hy
      rcases List.mem_cons.mp h with rfl | hlater
      · exact ⟨List.mem_cons_self, hy⟩
      · obtain ⟨hmem, hnew⟩ := ih hlater
        exact ⟨List.mem_cons_of_mem y hmem, fun hseen => hnew (List.mem_cons_of_mem _ hseen)⟩

theorem nodup_firstSeen (seen : List N) (xs : List ι) :
    ((firstSeen name seen xs).map name).Nodup := by
  induction xs generalizing seen with
  | nil => exact List.nodup_nil
  | cons x xs ih =>
    unfold firstSeen
    split
    · exact ih seen
    · rw [List.map_cons, List.nodup_cons]
      refine ⟨?_, ih _⟩
      intro hmem
      obtain ⟨y, hy, hname⟩ := List.mem_map.mp hmem
      apply (mem_of_mem_firstSeen hy).2
      rw [hname]
      exact List.mem_cons_self

theorem firstSeen_of_nodup (hnodup : (xs.map name).Nodup) (hnew : ∀ x ∈ xs, name x ∉ seen) :
    firstSeen name seen xs = xs := by
  induction xs generalizing seen with
  | nil => rfl
  | cons x xs ih =>
    rw [List.map_cons, List.nodup_cons] at hnodup
    rw [List.forall_mem_cons] at hnew
    rw [firstSeen, if_neg hnew.1, ih hnodup.2]
    intro y hy hseen
    rcases List.mem_cons.mp hseen with hname | hseen
    · exact hnodup.1 (hname ▸ List.mem_map_of_mem hy)
    · exact hnew.2 y hy hseen

/-- One more record is kept if its name is new. -/
theorem firstSeen_append_singleton (seen : List N) (xs : List ι) (x : ι) :
    firstSeen name seen (xs ++ [x]) = firstSeen name seen xs ++
      if name x ∈ seen ∨ ∃ y ∈ xs, name y = name x then [] else [x] := by
  induction xs generalizing seen with
  | nil => simp [firstSeen]
  | cons y ys ih =>
    rw [List.cons_append]
    by_cases hy : name y ∈ seen
    · have hcond : (name x ∈ seen ∨ ∃ z ∈ y :: ys, name z = name x) ↔
          name x ∈ seen ∨ ∃ z ∈ ys, name z = name x := by
        rw [List.exists_mem_cons_iff, or_left_comm]
        exact or_iff_right_of_imp fun heq => Or.inl (heq ▸ hy)
      rw [firstSeen, firstSeen, if_pos hy, if_pos hy, ih]
      simp only [hcond]
    · have hcond : (name x ∈ seen ∨ ∃ z ∈ y :: ys, name z = name x) ↔
          name x ∈ name y :: seen ∨ ∃ z ∈ ys, name z = name x := by
        rw [List.exists_mem_cons_iff, List.mem_cons, or_left_comm, or_assoc, @eq_comm _ (name x)]
      rw [firstSeen, firstSeen, if_neg hy, if_neg hy, ih, List.cons_append]
      simp only [hcond]

/-- The loop run over its own result changes nothing. -/
theorem firstSeen_firstSeen (xs : List ι) :
    firstSeen name [] (firstSeen name [] xs) = firstSeen name [] xs :=
  firstSeen_of_nodup (nodup_firstSeen [] xs) fun _ _ => List.not_mem_nil

theorem find?_firstSeen {n : N} (hn : n ∉ seen) (xs : List ι) :
    (firstSeen name seen xs).find? (fun x => name x = n) = xs.find? fun x => name x = n := by
  induction xs generalizing seen with
  | nil => rfl
  | cons x xs ih =>
    unfold firstSeen
    by_cases hx : name x = n
    · rw [if_neg (hx ▸ hn), List.find?_cons_of_pos (by simpa using hx),
        List.find?_cons_of_pos (by simpa using hx)]
    · rw [List.find?_cons_of_neg (by simpa using hx)]
      split
      · exact ih hn
      · rw [List.find?_cons_of_neg (by simpa using hx)]
        apply ih
        simpa [eq_comm] using And.intro hx hn

/-- In a table whose records name their keys, the record of a name is found under its key. -/
theorem find?_values {name : V → N} {place : N → K} (hplace : Function.Injective place)
    (hkeyed : m.Forall fun k v => place (name v) = k) (n : N) :
    (m.values.find? fun v => name v = n) = m.get (place n) := by
  cases hfind : m.values.find? fun v => name v = n with
  | none =>
    cases hget : m.get (place n) with
    | none => rfl
    | some v =>
      have hname := List.find?_eq_none.mp hfind v (mem_values_iff.mpr ⟨_, hget⟩)
      exact absurd (decide_eq_true (hplace (hkeyed _ v hget))) hname
  | some v =>
    have hname : name v = n := by simpa using List.find?_some hfind
    obtain ⟨k, hget⟩ := mem_values_iff.mp (List.mem_of_find?_eq_some hfind)
    rw [← hname, hkeyed k v hget, hget]

/-- Loading what the loop keeps gives every name its first record. -/
theorem get_load_firstSeen {place : N → K} (hplace : Function.Injective place) (n : N) :
    ((firstSeen name [] xs).foldl (fun m x => m.set (place (name x)) (value x))
      (∅ : OrderedMap K V)).get (place n) = (xs.find? fun x => name x = n).map value := by
  rw [← find?_firstSeen List.not_mem_nil]
  cases hfind : (firstSeen name [] xs).find? fun x => name x = n with
  | none =>
    rw [get_load_of_notMem]
    · rfl
    · intro x hx hkey
      have hname := List.find?_eq_none.mp hfind x hx
      exact hname (decide_eq_true (hplace hkey))
  | some x =>
    have hname : name x = n := by simpa using List.find?_some hfind
    have hx := List.mem_of_find?_eq_some hfind
    have hagree : ∀ y ∈ firstSeen name [] xs, place (name y) = place (name x) →
        value y = value x := by
      intro y hy hkey
      rw [List.inj_on_of_nodup_map (nodup_firstSeen [] xs) hy hx (hplace hkey)]
    rw [← hname]
    exact get_load_of_mem hx hagree

end FirstSeen

section Rows
variable [DecidableEq ι] {f : ι → Option V}

theorem get_set_eq_update (hkey : Function.Injective key) (h : ∀ i, m.get (key i) = f i) (i : ι)
    (v : V) (j : ι) : (m.set (key i) v).get (key j) = Function.update f i (some v) j := by
  rw [Function.update_apply, get_set, h]
  simp only [hkey.eq_iff]

theorem get_delete_eq_update (hkey : Function.Injective key) (h : ∀ i, m.get (key i) = f i) (i j : ι) :
    (m.delete (key i)).get (key j) = Function.update f i none j := by
  rw [Function.update_apply, get_delete, h]
  simp only [hkey.eq_iff]

end Rows

end OrderedMap
