import WeVibeChain.ReputationRuns
import WeVibeChain.Shared.Words

/-!
# x/reputation: what the attestations of a developer add up to

The counters of attestations are the totals over all attestations that were
accepted, in 64-bit words. A memory that is attested again is stored in place of
the first attestation and counted a second time, so the totals are those of the
stored memories only where no cid comes back.

A valid memory is accepted unless it has a name to count in a map that was empty
when the statistics were stored.
-/

set_option autoImplicit false

namespace WeVibeChain.Reputation

open Bytes OrderedMap

section Totals
variable {s s' : Store} {stats stats' : ReputationStats} {memory : AttestedMemory}
  {memories memories' : List AttestedMemory}

def AttestedMemory.getXP (memory : AttestedMemory) : Nat :=
  memory.difficulty.toNat * memory.quality.toNat

/-- The total for a domain tag. -/
def tagTotal (tag : Bytes) (memories : List AttestedMemory) : Nat :=
  (memories.map fun memory => occurrences tag memory.domainTags).sum

/-- The total for a provenance. -/
def provenanceTotal (name : Bytes) (memories : List AttestedMemory) : Nat :=
  (memories.map fun memory => occurrences name [memory.provenance]).sum

def xpTotal (memories : List AttestedMemory) : Nat := (memories.map AttestedMemory.getXP).sum

def gradeTotal (grade : Nat) (memories : List AttestedMemory) : Nat :=
  memories.countP fun memory => memory.difficulty.toNat = grade

/-- The statistics are the totals over the memories, in words. -/
structure Accumulates (stats : ReputationStats) (memories : List AttestedMemory) : Prop where
  memoryCount : stats.memoryCount = UInt64.ofNat memories.length
  xp : stats.xp = UInt64.ofNat (xpTotal memories)
  difficulty : ∀ grade ≤ 10,
    stats.difficultyBucket[grade]? = some (UInt64.ofNat (gradeTotal grade memories))
  domainTags : ∀ tag, stats.domainTags.count tag = UInt64.ofNat (tagTotal tag memories)
  provenance : ∀ name,
    stats.provenanceBreakdown.count name = UInt64.ofNat (provenanceTotal name memories)

theorem accumulates_nil (developer : Bytes) : Accumulates { developerID := developer } [] where
  memoryCount := rfl
  xp := rfl
  difficulty grade hgrade := by
    have hlt : grade < 11 := by omega
    exact List.getElem?_replicate_of_lt hlt
  domainTags _ := rfl
  provenance _ := rfl

/-- Only the counters of attestations matter. -/
theorem Accumulates.congr (h : Accumulates stats memories)
    (hcount : stats'.memoryCount = stats.memoryCount) (hxp : stats'.xp = stats.xp)
    (hdifficulty : stats'.difficultyBucket = stats.difficultyBucket)
    (htags : stats'.domainTags = stats.domainTags)
    (hprovenance : stats'.provenanceBreakdown = stats.provenanceBreakdown) :
    Accumulates stats' memories where
  memoryCount := hcount.trans h.memoryCount
  xp := hxp.trans h.xp
  difficulty := by rw [hdifficulty]; exact h.difficulty
  domainTags := by rw [htags]; exact h.domainTags
  provenance := by rw [hprovenance]; exact h.provenance

theorem ofNat_getXP (memory : AttestedMemory) :
    UInt64.ofNat memory.getXP = memory.difficulty.toUInt64 * memory.quality.toUInt64 := by
  unfold AttestedMemory.getXP
  rw [UInt64.ofNat_mul, UInt64.ofNat_uInt8ToNat, UInt64.ofNat_uInt8ToNat]

theorem gradeTotal_append (grade : Nat) (memories : List AttestedMemory) (memory : AttestedMemory) :
    gradeTotal grade (memories ++ [memory]) =
      gradeTotal grade memories + if memory.difficulty.toNat = grade then 1 else 0 := by
  simp [gradeTotal, List.countP_append, List.countP_singleton]

theorem Accumulates.credit (h : Accumulates stats memories) (memory : AttestedMemory) :
    Accumulates (credit stats memory) (memories ++ [memory]) where
  memoryCount := by
    rw [List.length_append, UInt64.ofNat_add, ← h.memoryCount]
    rfl
  xp := by
    rw [xpTotal, List.map_append, List.sum_append, UInt64.ofNat_add, ← xpTotal, ← h.xp,
      List.map_singleton, List.sum_singleton, ofNat_getXP]
    rfl
  difficulty grade hgrade := by
    have hold := h.difficulty grade hgrade
    have hten : memory.difficulty ≤ 10 ↔ memory.difficulty.toNat ≤ 10 := UInt8.le_iff_toNat_le
    rw [gradeTotal_append, UInt64.ofNat_add]
    unfold Reputation.credit
    by_cases heq : memory.difficulty.toNat = grade
    · have hle : memory.difficulty ≤ 10 := hten.mpr (by omega)
      simp [hle, heq, hold]
    · by_cases hle : memory.difficulty ≤ 10
      · simp [hle, heq, hold]
      · simp [hle, heq, hold]
  domainTags tag := by
    rw [tagTotal, List.map_append, List.sum_append, UInt64.ofNat_add, ← tagTotal, ← h.domainTags tag,
      List.map_singleton, List.sum_singleton]
    exact count_foldl_bumpName _ _ _
  provenance name := by
    rw [provenanceTotal, List.map_append, List.sum_append, UInt64.ofNat_add, ← provenanceTotal,
      ← h.provenance name, List.map_singleton, List.sum_singleton]
    exact count_bumpName _ _ _

theorem Counted.accumulates {call : StatsCall} {out : Option Attestation}
    (h : Counted s call s' out) {log : List Attestation}
    (hs : ∀ d, Accumulates (statsOf s d) (attestedFor d log)) (d : Bytes) :
    Accumulates (statsOf s' d) (attestedFor d (log ++ out.toList)) := by
  rw [attestedFor_append]
  cases h with
  | refused developer memory => exact (List.append_nil _).symm ▸ hs d
  | attested developer memory =>
    rw [statsOf_set rfl]
    by_cases hd : d = developer
    · subst hd
      have hnew : attestedFor d [⟨d, memory⟩] = [memory] := by simp [attestedFor]
      rw [if_pos rfl, Option.toList_some, hnew]
      exact (hs d).credit memory
    · have hnew : attestedFor d [⟨developer, memory⟩] = [] := by simp [attestedFor, Ne.symm hd]
      rw [if_neg hd, Option.toList_some, hnew, List.append_nil]
      exact hs d
  | served wallet orgID epoch isSelfServe =>
    rw [statsOf_set rfl, Option.toList_none]
    refine (List.append_nil _).symm ▸ ?_
    by_cases hd : d = wallet
    · subst hd
      rw [if_pos rfl]
      exact (hs d).congr rfl rfl rfl rfl rfl
    · rw [if_neg hd]
      exact hs d
  | params params => exact (List.append_nil _).symm ▸ hs d

/-- The counters of attestations are the totals over everything that was attested. -/
theorem accumulates_run (params : Option Params) (calls : List StatsCall) (d : Bytes) :
    Accumulates (statsOf (counting.run (emptyStore params) calls) d)
      (attestedFor d (attestations params calls)) := by
  induction calls using List.reverseRecOn generalizing d with
  | nil => exact accumulates_nil d
  | append_singleton calls call ih =>
    rw [attestations_append]
    exact (counted_run params calls call).accumulates ih d

end Totals

section CountedOnce
variable {stats stats' : ReputationStats} {memories memories' : List AttestedMemory}

/-- The statistics are the totals over the memories. -/
structure Counts (stats : ReputationStats) (memories : List AttestedMemory) : Prop where
  memoryCount : stats.memoryCount.toNat = memories.length
  xp : stats.xp.toNat = xpTotal memories
  difficulty : ∀ grade ≤ 10,
    stats.difficultyBucket[grade]?.map UInt64.toNat = some (gradeTotal grade memories)
  domainTags : ∀ tag, (stats.domainTags.count tag).toNat = tagTotal tag memories
  provenance : ∀ name, (stats.provenanceBreakdown.count name).toNat = provenanceTotal name memories

/-- The totals fit in their words. -/
structure Fits (memories : List AttestedMemory) : Prop where
  memoryCount : memories.length < 2 ^ 64
  xp : xpTotal memories < 2 ^ 64
  domainTags : ∀ tag, tagTotal tag memories < 2 ^ 64

theorem Counts.perm (h : Counts stats memories) (hperm : memories.Perm memories') :
    Counts stats memories' where
  memoryCount := h.memoryCount.trans hperm.length_eq
  xp := h.xp.trans (hperm.map _).sum_nat
  difficulty grade hgrade := by
    rw [h.difficulty grade hgrade, gradeTotal, hperm.countP_eq, gradeTotal]
  domainTags tag := (h.domainTags tag).trans (hperm.map _).sum_nat
  provenance name := (h.provenance name).trans (hperm.map _).sum_nat

/-- A memory has one provenance. -/
theorem provenanceTotal_le (name : Bytes) (memories : List AttestedMemory) :
    provenanceTotal name memories ≤ memories.length := by
  unfold provenanceTotal
  induction memories with
  | nil => exact Nat.le_refl _
  | cons memory memories ih =>
    have hone : occurrences name [memory.provenance] ≤ 1 := by
      unfold occurrences
      split
      · exact Nat.zero_le _
      · exact List.count_le_length
    rw [List.map_cons, List.sum_cons, List.length_cons]
    omega

theorem Accumulates.counts_iff (h : Accumulates stats memories) :
    Counts stats memories ↔ Fits memories := by
  constructor
  · intro hcounts
    refine ⟨?_, ?_, fun tag => ?_⟩
    · rw [← hcounts.memoryCount]
      exact UInt64.toNat_lt _
    · rw [← hcounts.xp]
      exact UInt64.toNat_lt _
    · rw [← hcounts.domainTags tag]
      exact UInt64.toNat_lt _
  · intro hfits
    constructor
    · rw [h.memoryCount]
      exact Words.toNat_ofNat_eq_iff.mpr hfits.memoryCount
    · rw [h.xp]
      exact Words.toNat_ofNat_eq_iff.mpr hfits.xp
    · intro grade hgrade
      have hle : gradeTotal grade memories ≤ memories.length := List.countP_le_length
      rw [h.difficulty grade hgrade, Option.map_some,
        Words.toNat_ofNat_eq_iff.mpr (hle.trans_lt hfits.memoryCount)]
    · intro tag
      rw [h.domainTags tag]
      exact Words.toNat_ofNat_eq_iff.mpr (hfits.domainTags tag)
    · intro name
      have hle := provenanceTotal_le name memories
      rw [h.provenance name]
      exact Words.toNat_ofNat_eq_iff.mpr (hle.trans_lt hfits.memoryCount)

theorem Fits.of_append (h : Fits (memories ++ memories')) : Fits memories where
  memoryCount := by
    have hall := h.memoryCount
    rw [List.length_append] at hall
    omega
  xp := by
    have hall := h.xp
    rw [xpTotal, List.map_append, List.sum_append, ← xpTotal] at hall
    omega
  domainTags tag := by
    have hall := h.domainTags tag
    rw [tagTotal, List.map_append, List.sum_append, ← tagTotal] at hall
    omega

/-- The memories that are stored for a developer are counted, each once. -/
def CountedOnce (params : Option Params) (calls : List StatsCall) : Prop :=
  ∀ d, Counts (statsOf (counting.run (emptyStore params) calls) d)
    (lastAttested (attestedFor d (attestations params calls))).values

/-- No cid is attested a second time for a developer, and the totals fit. -/
def AttestedOnce (log : List Attestation) : Prop :=
  ∀ d, ((attestedFor d log).map AttestedMemory.memoryCID).Nodup ∧ Fits (attestedFor d log)

theorem countedOnce_of_nodup {params : Option Params} {calls : List StatsCall}
    (hnodup : ∀ d, ((attestedFor d (attestations params calls)).map AttestedMemory.memoryCID).Nodup) :
    CountedOnce params calls ↔ ∀ d, Fits (attestedFor d (attestations params calls)) := by
  refine forall_congr' fun d => ?_
  have hperm := values_load_perm (hnodup d)
  rw [← (accumulates_run params calls d).counts_iff]
  exact ⟨fun h => h.perm hperm, fun h => h.perm hperm.symm⟩

/-- A second attestation of a cid shows in the counter and not in what is stored. -/
theorem not_counts_again {memory : AttestedMemory}
    (hcid : memory.memoryCID ∈ memories.map AttestedMemory.memoryCID)
    (h : Counts stats (lastAttested memories).values) :
    ¬ Counts (credit stats memory) (lastAttested (memories ++ [memory])).values := by
  intro hagain
  have hcount := hagain.memoryCount
  have hstored : (lastAttested memories).has memory.memoryCID = true :=
    has_load_iff.mpr (Or.inr (List.mem_map.mp hcid))
  obtain ⟨last, hlast⟩ := has_iff.mp hstored
  have hlength : (lastAttested (memories ++ [memory])).values.length =
      (lastAttested memories).values.length := by
    rw [lastAttested, List.foldl_append, List.foldl_cons, List.foldl_nil, ← lastAttested,
      OrderedMap.values, List.length_map, length_set_of_get_some hlast, OrderedMap.values,
      List.length_map]
  rw [hlength, ← h.memoryCount] at hcount
  exact Words.add_ne_self (by decide) (UInt64.toNat_inj.mp hcount)

theorem Counted.credited {s s' : Store} {call : StatsCall} {a : Attestation}
    (h : Counted s call s' (some a)) : statsOf s' a.developer = credit (statsOf s a.developer) a.memory := by
  cases h with
  | attested developer memory =>
    rw [statsOf_set rfl, if_pos rfl]

/-- Where every state of the run has each memory counted once, no cid has come back. -/
theorem nodup_of_countedOnce {params : Option Params} {calls : List StatsCall}
    (h : ∀ before after, calls = before ++ after → CountedOnce params before) (d : Bytes) :
    ((attestedFor d (attestations params calls)).map AttestedMemory.memoryCID).Nodup := by
  induction calls using List.reverseRecOn with
  | nil => exact List.nodup_nil
  | append_singleton calls call ih =>
    have hinit := ih fun before after heq => h before (after ++ [call]) (by rw [heq, List.append_assoc])
    have hbefore := h calls [call] rfl d
    have hafter := h (calls ++ [call]) [] (List.append_nil _).symm d
    have hstep := counted_run params calls call
    rw [attestations_append, attestedFor_append] at hafter ⊢
    cases hout : counting.output (counting.run (emptyStore params) calls) call with
    | none =>
      rw [Option.toList_none]
      exact (List.append_nil _).symm ▸ hinit
    | some a =>
      rw [hout] at hafter hstep
      by_cases ha : a.developer = d
      · have hnew : attestedFor d [a] = [a.memory] := by simp [attestedFor, ha]
        rw [Option.toList_some, hnew] at hafter ⊢
        rw [← ha, hstep.credited, ha] at hafter
        rw [List.map_append, List.map_singleton, List.nodup_append]
        refine ⟨hinit, List.nodup_singleton _, ?_⟩
        intro cid hcid cid' hcid' heq
        rw [List.mem_singleton.mp hcid'] at heq
        exact not_counts_again (heq ▸ hcid) hbefore hafter
      · have hnew : attestedFor d [a] = [] := by simp [attestedFor, ha]
        rw [Option.toList_some, hnew, List.append_nil]
        exact hinit

/-- In every state of the run each memory is counted once if and only if no cid is attested a second
time for a developer and the totals fit in their words. -/
theorem attestations_counted_once_iff (params : Option Params) (calls : List StatsCall) :
    (∀ before after, calls = before ++ after → CountedOnce params before) ↔
      AttestedOnce (attestations params calls) := by
  constructor
  · intro h d
    have hnodup := nodup_of_countedOnce h
    have hlast := h calls [] (List.append_nil _).symm
    exact ⟨hnodup d, (countedOnce_of_nodup hnodup).mp hlast d⟩
  · intro h before after hsplit
    have hlog : attestations params calls = attestations params before ++
        (counting.history (counting.run (emptyStore params) before) after).filterMap id := by
      rw [hsplit, attestations, Machine.history_append, List.filterMap_append]
      rfl
    have hbefore : ∀ d, ((attestedFor d (attestations params before)).map
        AttestedMemory.memoryCID).Nodup ∧ Fits (attestedFor d (attestations params before)) := by
      intro d
      obtain ⟨hnodup, hfits⟩ := h d
      rw [hlog, attestedFor_append] at hnodup hfits
      rw [List.map_append] at hnodup
      exact ⟨hnodup.of_append_left, hfits.of_append⟩
    exact (countedOnce_of_nodup fun d => (hbefore d).1).mpr fun d => (hbefore d).2

def sampleAgain : List StatsCall :=
  [.updateReputation (ascii "dev") sampleMemory, .updateReputation (ascii "dev") sampleMemory]

/-- The same memory attested twice is stored once and counts twice. -/
theorem attested_again_counted_twice :
    (lastAttested (attestedFor (ascii "dev") (attestations none sampleAgain))).values =
        [sampleMemory] ∧
      (statsOf (counting.run (emptyStore none) sampleAgain) (ascii "dev")).memoryCount = 2 ∧
      (statsOf (counting.run (emptyStore none) sampleAgain) (ascii "dev")).xp = 12 ∧
      ¬ CountedOnce none sampleAgain := by
  have hsample : (lastAttested (attestedFor (ascii "dev") (attestations none sampleAgain))).values =
        [sampleMemory] ∧
      (statsOf (counting.run (emptyStore none) sampleAgain) (ascii "dev")).memoryCount = 2 ∧
      (statsOf (counting.run (emptyStore none) sampleAgain) (ascii "dev")).xp = 12 := by
    decide +kernel
  obtain ⟨hlast, hcount, hxp⟩ := hsample
  refine ⟨hlast, hcount, hxp, ?_⟩
  intro h
  have hone := (h (ascii "dev")).memoryCount
  rw [hlast, hcount] at hone
  exact absurd hone (by decide)

end CountedOnce

section Acceptance

/-- The tags and the provenance of the memory are added to the developer's statistics. -/
structure NamesAdded (s s' : Store) (developer : Bytes) (memory : AttestedMemory) : Prop where
  domainTags : ∀ tag, (statsOf s' developer).domainTags.count tag =
    (statsOf s developer).domainTags.count tag + UInt64.ofNat (occurrences tag memory.domainTags)
  provenance : ∀ name, (statsOf s' developer).provenanceBreakdown.count name =
    (statsOf s developer).provenanceBreakdown.count name +
      UInt64.ofNat (occurrences name [memory.provenance])

variable {s : Store} {developer : Bytes} {memory : AttestedMemory}

theorem updateReputation_accepted_iff (hactive : isActive s = true)
    (hvalid : memory.validate = .ok ()) :
    (∃ s', updateReputation s developer memory = .ok s') ↔ Countable s developer memory := by
  have hgate : ¬ isActive s = false := by simp [hactive]
  rw [← addMemoryOf_ok_iff]
  unfold updateReputation
  rw [if_neg hgate, hvalid]
  cases addMemoryOf s developer memory with
  | error e => simp
  | ok stats => simp

theorem namesAdded_attestedStore (s : Store) (developer : Bytes) (memory : AttestedMemory) :
    NamesAdded s (attestedStore s developer memory) developer memory where
  domainTags tag := by
    rw [statsOf_set rfl, if_pos rfl]
    exact count_foldl_bumpName _ _ _
  provenance name := by
    rw [statsOf_set rfl, if_pos rfl]
    exact count_bumpName _ _ _

/-- In every state that the calls reach, a valid memory is accepted and its names are added if and
only if the stored maps are there for the names that are not empty. -/
theorem attestation_adds_names_iff_countable (params : Option Params) (calls : List StatsCall)
    (developer : Bytes) (memory : AttestedMemory) (hvalid : memory.validate = .ok ()) :
    (∃ s', updateReputation (counting.run (emptyStore params) calls) developer memory = .ok s' ∧
        NamesAdded (counting.run (emptyStore params) calls) s' developer memory) ↔
      Countable (counting.run (emptyStore params) calls) developer memory := by
  rw [← updateReputation_accepted_iff (isActive_run params calls) hvalid]
  refine exists_congr fun s' => and_iff_left_of_imp ?_
  intro h
  rw [updateReputation_eq h]
  exact namesAdded_attestedStore _ developer memory

def sampleServed : List StatsCall := [.recordServe (ascii "dev") (ascii "org") 1 false]

/-- A developer who is new has the names of a memory added. -/
theorem attestation_of_new_developer :
    ∃ s', updateReputation (counting.run (emptyStore none) sampleServed) (ascii "peer") sampleMemory =
        .ok s' ∧
      NamesAdded (counting.run (emptyStore none) sampleServed) s' (ascii "peer") sampleMemory := by
  rw [attestation_adds_names_iff_countable none sampleServed (ascii "peer") sampleMemory (by decide)]
  intro stored hstored
  have hnone : (counting.run (emptyStore none) sampleServed).stats.get (statsKey (ascii "peer")) =
      none := by
    decide +kernel
  rw [hnone] at hstored
  cases hstored

/-- The statistics that a serve leaves have no maps, so the first memory with a tag panics. -/
theorem attestation_after_serve_panics :
    sampleMemory.validate = .ok () ∧
      updateReputation (counting.run (emptyStore none) sampleServed) (ascii "dev") sampleMemory =
        .error .nilMapWrite := by
  decide +kernel

end Acceptance

end WeVibeChain.Reputation
