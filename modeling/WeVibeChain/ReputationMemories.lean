import WeVibeChain.ReputationRuns

/-!
# x/reputation: the memories of a developer

A memory is stored under the developer and its cid with a slash between them, and
the memories of a developer are looked for under the developer alone. The scan
meets every key that starts so: those of developers with a longer name, and those
of a developer whose name and a part of the cid make up the name looked for.

What the scan returns is exact where each key that it meets was last written for
the developer.
-/

set_option autoImplicit false

namespace WeVibeChain.Reputation

open Bytes OrderedMap

section Writers
variable {s s' : Store} {log : List Attestation} {d cid : Bytes}

/-- The attestation that was last to write each key. -/
def writers (log : List Attestation) : OrderedMap Bytes Attestation :=
  log.foldl (fun m a => m.set (memoryKey a.developer a.memory.memoryCID) a) ∅

theorem memoryKey_eq (d cid : Bytes) : memoryKey d cid = memoryPrefix d ++ slash :: cid := rfl

theorem memoryKey_cid_inj {cid' : Bytes} : memoryKey d cid = memoryKey d cid' ↔ cid = cid' := by
  simp [memoryKey]

theorem memoryKey_developer_inj {d' : Bytes} : memoryKey d cid = memoryKey d' cid ↔ d = d' := by
  simp [memoryKey]

theorem writers_append (log : List Attestation) (a : Attestation) :
    writers (log ++ [a]) = (writers log).set (memoryKey a.developer a.memory.memoryCID) a := by
  rw [writers, List.foldl_append]
  rfl

theorem writers_keyed (log : List Attestation) :
    (writers log).Forall fun k a => memoryKey a.developer a.memory.memoryCID = k :=
  forall_empty.foldl_set fun _ _ => rfl

theorem lastAttested_keyed (memories : List AttestedMemory) :
    (lastAttested memories).Forall fun cid memory => memory.memoryCID = cid :=
  forall_empty.foldl_set fun _ _ => rfl

theorem lastAttested_append (memories : List AttestedMemory) (memory : AttestedMemory) :
    lastAttested (memories ++ [memory]) = (lastAttested memories).set memory.memoryCID memory := by
  rw [lastAttested, List.foldl_append]
  rfl

/-- If a key was last written for the developer, then with what was last attested for the cid. -/
theorem lastAttested_of_writer {a : Attestation}
    (hwriter : (writers log).get (memoryKey d cid) = some a) (ha : a.developer = d) :
    (lastAttested (attestedFor d log)).get cid = some a.memory := by
  induction log using List.reverseRecOn with
  | nil => cases hwriter
  | append_singleton log b ih =>
    rw [writers_append, get_set] at hwriter
    rw [attestedFor_append]
    split at hwriter
    · rename_i hkey
      obtain rfl := Option.some.inj hwriter
      have hcid : b.memory.memoryCID = cid := by
        rw [ha] at hkey
        exact (memoryKey_cid_inj.mp hkey).symm
      have hnew : attestedFor d [b] = [b.memory] := by simp [attestedFor, ha]
      rw [hnew, lastAttested_append, hcid, get_set_self]
    · rename_i hkey
      by_cases hb : b.developer = d
      · have hnew : attestedFor d [b] = [b.memory] := by simp [attestedFor, hb]
        have hcid : cid ≠ b.memory.memoryCID := by
          intro heq
          rw [hb, heq] at hkey
          exact hkey rfl
        rw [hnew, lastAttested_append, get_set_of_ne _ _ hcid]
        exact ih hwriter
      · have hnew : attestedFor d [b] = [] := by simp [attestedFor, hb]
        rw [hnew, List.append_nil]
        exact ih hwriter

theorem has_writer (h : (lastAttested (attestedFor d log)).has cid = true) :
    (writers log).has (memoryKey d cid) = true := by
  obtain hempty | ⟨memory, hmemory, hcid⟩ := has_load_iff.mp h
  · cases hempty
  · obtain ⟨a, ha, rfl⟩ := List.mem_map.mp hmemory
    obtain ⟨hlog, hd⟩ := List.mem_filter.mp ha
    refine has_load_iff.mpr (Or.inr ⟨a, hlog, ?_⟩)
    rw [of_decide_eq_true hd, hcid]

end Writers

section Scan
variable {log : List Attestation} {d : Bytes}

theorem storedToAttestedMemory_stored (memory : AttestedMemory) :
    storedToAttestedMemory (attestedMemoryToStored memory) = memory := by
  unfold storedToAttestedMemory attestedMemoryToStored
  simp

/-- What is stored for memories is what was last written under each key. -/
theorem memory_run (params : Option Params) (calls : List StatsCall) :
    (counting.run (emptyStore params) calls).memory =
      (writers (attestations params calls)).mapValues fun a => attestedMemoryToStored a.memory := by
  induction calls using List.reverseRecOn with
  | nil => rfl
  | append_singleton calls call ih =>
    have hstep := counted_run params calls call
    rw [attestations_append]
    generalize counting.run (emptyStore params) calls = s at ih hstep ⊢
    generalize counting.run (emptyStore params) (calls ++ [call]) = s' at hstep ⊢
    generalize counting.output s call = out at hstep ⊢
    cases hstep with
    | refused developer memory => exact (List.append_nil _).symm ▸ ih
    | attested developer memory =>
      rw [Option.toList_some, writers_append, mapValues_set, ← ih]
      rfl
    | served wallet orgID epoch isSelfServe => exact (List.append_nil _).symm ▸ ih
    | params params => exact (List.append_nil _).symm ▸ ih

theorem getDeveloperMemories_run (params : Option Params) (calls : List StatsCall) (d : Bytes) :
    getDeveloperMemories (counting.run (emptyStore params) calls) d =
      ((writers (attestations params calls)).under (memoryPrefix d)).values.map
        Attestation.memory := by
  unfold getDeveloperMemories
  rw [memory_run, mapValues_under, values_mapValues, List.map_map]
  refine List.map_congr_left fun a _ => ?_
  exact storedToAttestedMemory_stored a.memory

/-- Every key that the scan meets was last written for the developer. -/
def WrittenFor (d : Bytes) (log : List Attestation) : Prop :=
  (writers log).Forall fun k a => memoryPrefix d <+: k → a.developer = d

theorem values_of_writtenFor (h : WrittenFor d log) :
    ((writers log).under (memoryPrefix d)).values.map Attestation.memory =
      (lastAttested (attestedFor d log)).values := by
  -- The keys that the scan meets go on with the separator.
  have hslash : ∀ e ∈ ((writers log).under (memoryPrefix d)).entries, [slash] <+: e.1 := by
    intro e he
    have hget := get_eq_some_iff.mpr he
    rw [get_under] at hget
    have hd := h _ _ hget (List.prefix_append _ _)
    have hkey : memoryKey e.2.developer e.2.memory.memoryCID = _ := writers_keyed log _ _ hget
    rw [hd, memoryKey_eq] at hkey
    rw [← List.append_cancel_left hkey]
    exact ⟨_, rfl⟩
  rw [← values_under_of_forall _ _ hslash, ← values_mapValues]
  congr 1
  ext1 cid
  rw [get_mapValues, get_under, get_under]
  change ((writers log).get (memoryKey d cid)).map Attestation.memory = _
  cases hwriter : (writers log).get (memoryKey d cid) with
  | none =>
    rw [← has_eq_false_iff, Bool.eq_false_iff] at hwriter
    refine (has_eq_false_iff.mp ?_).symm
    rw [Bool.eq_false_iff]
    exact fun hlast => hwriter (has_writer hlast)
  | some a =>
    have hd : a.developer = d := h _ a hwriter (memoryKey_eq d cid ▸ List.prefix_append _ _)
    rw [lastAttested_of_writer hwriter hd]
    rfl

theorem writtenFor_of_values
    (h : ((writers log).under (memoryPrefix d)).values.map Attestation.memory =
      (lastAttested (attestedFor d log)).values) : WrittenFor d log := by
  -- The developer's own keys are met by the scan, and there is no room for others.
  have hkeys : (lastAttested (attestedFor d log)).keys.map (slash :: ·) =
      ((writers log).under (memoryPrefix d)).keys := by
    apply eq_keys_of_subset
    · rw [List.pairwise_map, keys, List.pairwise_map]
      refine (lastAttested (attestedFor d log)).sorted.imp fun hlt => ?_
      exact (append_lt_append_iff [slash] _ _).mpr hlt
    · intro k hk
      obtain ⟨cid, hcid, rfl⟩ := List.mem_map.mp hk
      obtain ⟨e, he, rfl⟩ := List.mem_map.mp hcid
      have hlast : (lastAttested (attestedFor d log)).has e.1 = true :=
        has_iff.mpr ⟨e.2, get_eq_some_iff.mpr he⟩
      obtain ⟨a, ha⟩ := has_iff.mp (has_writer hlast)
      refine List.mem_map.mpr ⟨(slash :: e.1, a), get_eq_some_iff.mp ?_, rfl⟩
      rw [get_under]
      exact ha
    · have hlength := congrArg List.length h
      simp only [values, List.length_map] at hlength
      simp only [keys, List.length_map, hlength]
      exact Nat.le_refl _
  have hentries : ((writers log).under (memoryPrefix d)).entries.map (fun e => (e.1, e.2.memory)) =
      (lastAttested (attestedFor d log)).entries.map fun e => (slash :: e.1, e.2) := by
    have hfirst : (((writers log).under (memoryPrefix d)).entries.map
        fun e => (e.1, e.2.memory)).map Prod.fst =
          ((lastAttested (attestedFor d log)).entries.map fun e => (slash :: e.1, e.2)).map Prod.fst := by
      simpa [keys, List.map_map, Function.comp_def] using hkeys.symm
    have hsecond : (((writers log).under (memoryPrefix d)).entries.map
        fun e => (e.1, e.2.memory)).map Prod.snd =
          ((lastAttested (attestedFor d log)).entries.map fun e => (slash :: e.1, e.2)).map Prod.snd := by
      simpa [OrderedMap.values, List.map_map, Function.comp_def] using h
    exact (List.zip_of_prod hfirst hsecond).trans (List.zip_of_prod rfl rfl).symm
  rintro k a hget ⟨rest, rfl⟩
  have hmem : (rest, a) ∈ ((writers log).under (memoryPrefix d)).entries := by
    rw [← get_eq_some_iff, get_under]
    exact hget
  have hown : (rest, a.memory) ∈
      (lastAttested (attestedFor d log)).entries.map fun e => (slash :: e.1, e.2) :=
    hentries ▸ List.mem_map_of_mem (f := fun e => (e.1, e.2.memory)) hmem
  obtain ⟨e, he, heq⟩ := List.mem_map.mp hown
  obtain ⟨hrest, hmemory⟩ := Prod.mk.inj heq
  have hcid : e.2.memoryCID = e.1 := lastAttested_keyed _ _ _ (get_eq_some_iff.mpr he)
  have hkey : memoryKey a.developer a.memory.memoryCID = memoryPrefix d ++ rest :=
    writers_keyed log _ _ hget
  rw [← hrest, ← hmemory, hcid, ← memoryKey_eq] at hkey
  exact memoryKey_developer_inj.mp hkey

/-- In every store that the calls reach, the scan returns the memories last attested for the
developer, in the order of their cids, if and only if each key that it meets was last written for
the developer. -/
theorem developer_memories_exact_iff (params : Option Params) (calls : List StatsCall) (d : Bytes) :
    getDeveloperMemories (counting.run (emptyStore params) calls) d =
        (lastAttested (attestedFor d (attestations params calls))).values ↔
      WrittenFor d (attestations params calls) := by
  rw [getDeveloperMemories_run]
  exact ⟨writtenFor_of_values, values_of_writtenFor⟩

/-- A memory of the developer `dev2`. -/
def sampleOther : List StatsCall :=
  [.updateReputation (ascii "dev2") { sampleMemory with developer := ascii "dev2" }]

/-- It is also returned for the developer `dev`, for whom nothing was attested. -/
theorem memory_of_longer_name_returned :
    attestedFor (ascii "dev") (attestations none sampleOther) = [] ∧
      getDeveloperMemories (counting.run (emptyStore none) sampleOther) (ascii "dev") =
        [{ sampleMemory with developer := ascii "dev2" }] := by
  decide +kernel

end Scan

end WeVibeChain.Reputation
