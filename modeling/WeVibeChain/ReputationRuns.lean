import WeVibeChain.ReputationAuthority
import WeVibeChain.Shared.Tables

/-!
# x/reputation: runs of the calls that write statistics

Recording a serve and attesting a memory write the same record of statistics. A run
takes the two in any order, with changes of the parameters between them, from an
active store in which nothing is recorded. What one call does to the statistics,
the org sets and the memories is said once here, with the list of attestations
that were accepted.
-/

set_option autoImplicit false

namespace WeVibeChain.Reputation

open Bytes OrderedMap

section Runs

/-- The calls that the statistics depend on. -/
inductive StatsCall where
  | updateReputation (developer : Bytes) (memory : AttestedMemory)
  | recordServe (contributorWallet orgID : Bytes) (epoch : UInt64) (isSelfServe : Bool)
  | setParams (params : Params)

def StatsCall.apply (s : Store) : StatsCall → Except Error Store
  | updateReputation developer memory => Reputation.updateReputation s developer memory
  | recordServe wallet orgID epoch isSelfServe => Reputation.recordServe s wallet orgID epoch isSelfServe
  | setParams params => .ok (Reputation.setParams s params)

/-- A memory that was attested for a developer. -/
structure Attestation where
  developer : Bytes
  memory : AttestedMemory
  deriving DecidableEq

/-- The attestation that the call makes, if it is accepted. -/
def StatsCall.attestation (s : Store) : StatsCall → Option Attestation
  | updateReputation developer memory =>
    match Reputation.updateReputation s developer memory with
    | .error _ => none
    | .ok _ => some ⟨developer, memory⟩
  | _ => none

/-- A call that fails is undone with its transaction. -/
def counting : Machine Store StatsCall (Option Attestation) :=
  ⟨fun s call => ((call.apply s).toOption.getD s, call.attestation s)⟩

/-- An active store in which nothing is recorded. -/
def emptyStore (params : Option Params) : Store := { active := some true, params := params }

/-- The attestations of a run, in order. -/
def attestations (params : Option Params) (calls : List StatsCall) : List Attestation :=
  (counting.history (emptyStore params) calls).filterMap id

/-- The memories attested for the developer, in order. -/
def attestedFor (developer : Bytes) (log : List Attestation) : List AttestedMemory :=
  (log.filter fun a => a.developer = developer).map Attestation.memory

/-- What was attested last for each cid. -/
def lastAttested (memories : List AttestedMemory) : OrderedMap Bytes AttestedMemory :=
  memories.foldl (fun m memory => m.set memory.memoryCID memory) ∅

/-- The statistics of a developer, which are zero where none are stored. -/
def statsOf (s : Store) (developer : Bytes) : ReputationStats :=
  (s.stats.get (statsKey developer)).getD { developerID := developer }

theorem statsKey_inj {d d' : Bytes} : statsKey d = statsKey d' ↔ d = d' := by
  unfold statsKey
  rw [List.append_cancel_left_eq]

theorem statsOf_set {s s' : Store} {developer : Bytes} {stats : ReputationStats}
    (h : s'.stats = s.stats.set (statsKey developer) stats) (d : Bytes) :
    statsOf s' d = if d = developer then stats else statsOf s d := by
  unfold statsOf
  rw [h, get_set]
  simp only [statsKey_inj]
  split
  · rfl
  · rfl

theorem attestedFor_append (d : Bytes) (log log' : List Attestation) :
    attestedFor d (log ++ log') = attestedFor d log ++ attestedFor d log' := by
  unfold attestedFor
  rw [List.filter_append, List.map_append]

end Runs

section Names
variable {tally tally' : Tally} {name : Bytes} {names : List Bytes}

/-- The counter of the name, unless the name is empty. -/
def bumpName (m : OrderedMap Bytes UInt64) (name : Bytes) : OrderedMap Bytes UInt64 :=
  if name = [] then m else m.bump name

/-- How often a list counts for a name. -/
def occurrences (name : Bytes) (names : List Bytes) : Nat :=
  if name = [] then 0 else names.count name

theorem countName_ok (h : countName tally name = .ok tally') :
    tally'.getD ∅ = bumpName (tally.getD ∅) name := by
  unfold countName at h
  unfold bumpName
  split at h
  · rename_i hname
    rw [if_pos hname, Except.ok.inj h]
  · rename_i hname
    cases tally with
    | none => cases h
    | some m =>
      rw [if_neg hname, ← Except.ok.inj h]
      rfl

theorem countNames_ok (h : countNames tally names = .ok tally') :
    tally'.getD ∅ = names.foldl bumpName (tally.getD ∅) := by
  induction names generalizing tally with
  | nil => rw [← Except.ok.inj h]; rfl
  | cons name names ih =>
    unfold countNames at h
    split at h
    · cases h
    · rename_i next hname
      rw [ih h, List.foldl_cons, countName_ok hname]

theorem loadTally_getD (m : OrderedMap Bytes UInt64) : (loadTally m).getD ∅ = m := by
  unfold loadTally
  split
  · rename_i hempty
    exact hempty.symm
  · rfl

theorem count_bumpName (m : OrderedMap Bytes UInt64) (name name' : Bytes) :
    (bumpName m name).count name' = m.count name' + UInt64.ofNat (occurrences name' [name]) := by
  unfold bumpName occurrences
  by_cases hname : name = []
  · by_cases hname' : name' = []
    · simp [hname, hname']
    · simp [hname, hname', Ne.symm hname']
  · rw [if_neg hname, count_bump]
    by_cases heq : name' = name
    · subst heq
      simp [hname]
    · by_cases hname' : name' = []
      · subst hname'
        simp [Ne.symm heq]
      · simp [heq, hname', Ne.symm heq]

theorem occurrences_cons (name name' : Bytes) (names : List Bytes) :
    occurrences name (name' :: names) = occurrences name [name'] + occurrences name names := by
  unfold occurrences
  split
  · rfl
  · rw [← List.singleton_append, List.count_append]

theorem count_foldl_bumpName (m : OrderedMap Bytes UInt64) (names : List Bytes) (name : Bytes) :
    (names.foldl bumpName m).count name = m.count name + UInt64.ofNat (occurrences name names) := by
  induction names generalizing m with
  | nil => simp [occurrences]
  | cons name' names ih =>
    rw [List.foldl_cons, ih, count_bumpName, occurrences_cons name name' names, UInt64.ofNat_add,
      UInt64.add_assoc]

end Names

section Credit
variable {s s' : Store} {stats : ReputationStats} {memory : AttestedMemory} {developer : Bytes}

/-- The statistics with one memory more. -/
def credit (stats : ReputationStats) (memory : AttestedMemory) : ReputationStats :=
  { stats with
    memoryCount := stats.memoryCount + 1
    difficultyBucket :=
      if memory.difficulty ≤ 10 then stats.difficultyBucket.modify memory.difficulty.toNat (· + 1)
      else stats.difficultyBucket
    domainTags := memory.domainTags.foldl bumpName stats.domainTags
    provenanceBreakdown := bumpName stats.provenanceBreakdown memory.provenance
    xp := stats.xp + memory.difficulty.toUInt64 * memory.quality.toUInt64 }

theorem addMemory_eq_credit {tags provenances : Tally} {stats' : ReputationStats}
    (htags : tags.getD ∅ = stats.domainTags)
    (hprovenances : provenances.getD ∅ = stats.provenanceBreakdown)
    (h : addMemory tags provenances stats memory = .ok stats') : stats' = credit stats memory := by
  unfold addMemory at h
  split at h
  · cases h
  rename_i tags' hnames
  split at h
  · cases h
  rename_i provenances' hname
  rw [← Except.ok.inj h, countNames_ok hnames, countName_ok hname, htags, hprovenances]
  rfl

theorem addMemoryOf_eq_credit {stats' : ReputationStats}
    (h : addMemoryOf s developer memory = .ok stats') :
    stats' = credit (statsOf s developer) memory := by
  unfold addMemoryOf at h
  unfold statsOf
  split at h
  · rename_i hnone
    rw [hnone]
    exact addMemory_eq_credit rfl rfl h
  · rename_i stored hsome
    rw [hsome]
    exact addMemory_eq_credit (loadTally_getD _) (loadTally_getD _) h

end Credit

section Steps
variable {s s' : Store}

/-- Whether a serve in the org is the first one of the wallet there. -/
def newOrg (s : Store) (wallet orgID : Bytes) : Bool :=
  !(getContributorOrgSet s wallet).orgIds.contains orgID

/-- The store after a serve. -/
def servedStore (s : Store) (wallet orgID : Bytes) (epoch : UInt64) (isSelfServe : Bool) : Store :=
  { s with
    orgSet := s.orgSet.set (contributorOrgSetKey wallet)
      (if newOrg s wallet orgID then
        { getContributorOrgSet s wallet with
          orgIds := (getContributorOrgSet s wallet).orgIds ++ [orgID] }
        else getContributorOrgSet s wallet)
    stats := s.stats.set (statsKey wallet)
      (countServe (getParams s) (statsOf s wallet) epoch isSelfServe (newOrg s wallet orgID)) }

/-- The store after an attestation. -/
def attestedStore (s : Store) (developer : Bytes) (memory : AttestedMemory) : Store :=
  { s with
    stats := s.stats.set (statsKey developer) (credit (statsOf s developer) memory)
    memory := s.memory.set (memoryKey developer memory.memoryCID) (attestedMemoryToStored memory) }

theorem updateReputation_eq {developer : Bytes} {memory : AttestedMemory}
    (h : updateReputation s developer memory = .ok s') :
    s' = attestedStore s developer memory := by
  obtain ⟨-, stats, hstats, hs'⟩ := updateReputation_ok h
  rw [hs', addMemoryOf_eq_credit hstats]
  rfl

theorem recordServe_eq (wallet orgID : Bytes) (epoch : UInt64) (isSelfServe : Bool)
    (hactive : isActive s = true) :
    recordServe s wallet orgID epoch isSelfServe =
      .ok (servedStore s wallet orgID epoch isSelfServe) := by
  have hgate : ¬ isActive s = false := by simp [hactive]
  unfold recordServe
  rw [if_neg hgate]
  rfl

/-- What one call makes of an active store, and the attestation it leaves. -/
inductive Counted (s : Store) : StatsCall → Store → Option Attestation → Prop where
  | refused (developer : Bytes) (memory : AttestedMemory) :
      Counted s (.updateReputation developer memory) s none
  | attested (developer : Bytes) (memory : AttestedMemory) :
      Counted s (.updateReputation developer memory) (attestedStore s developer memory)
        (some ⟨developer, memory⟩)
  | served (wallet orgID : Bytes) (epoch : UInt64) (isSelfServe : Bool) :
      Counted s (.recordServe wallet orgID epoch isSelfServe)
        (servedStore s wallet orgID epoch isSelfServe) none
  | params (params : Params) : Counted s (.setParams params) (setParams s params) none

theorem counting_counted (hactive : isActive s = true) (call : StatsCall) :
    Counted s call (counting.next s call) (counting.output s call) := by
  unfold counting Machine.next Machine.output
  cases call with
  | updateReputation developer memory =>
    simp only [StatsCall.apply, StatsCall.attestation]
    cases h : updateReputation s developer memory with
    | error e => exact .refused developer memory
    | ok s' =>
      rw [updateReputation_eq h]
      exact .attested developer memory
  | recordServe wallet orgID epoch isSelfServe =>
    simp only [StatsCall.apply, StatsCall.attestation, recordServe_eq _ _ _ _ hactive]
    exact .served wallet orgID epoch isSelfServe
  | setParams params => exact .params params

theorem Counted.active {call : StatsCall} {out : Option Attestation} (h : Counted s call s' out) :
    isActive s' = isActive s := by
  cases h with
  | refused developer memory => rfl
  | attested developer memory => rfl
  | served wallet orgID epoch isSelfServe => rfl
  | params params => rfl

theorem isActive_run (params : Option Params) (calls : List StatsCall) :
    isActive (counting.run (emptyStore params) calls) = true :=
  counting.run_always (I := fun s => isActive s = true)
    (fun _ call hs => (counting_counted hs call).active.trans hs) rfl calls

/-- The attestations of a run grow by those of each call. -/
theorem attestations_append (params : Option Params) (calls : List StatsCall) (call : StatsCall) :
    attestations params (calls ++ [call]) = attestations params calls ++
      (counting.output (counting.run (emptyStore params) calls) call).toList := by
  unfold attestations
  rw [Machine.history_append, List.filterMap_append]
  rfl

theorem counted_run (params : Option Params) (calls : List StatsCall) (call : StatsCall) :
    Counted (counting.run (emptyStore params) calls) call
      (counting.run (emptyStore params) (calls ++ [call]))
      (counting.output (counting.run (emptyStore params) calls) call) := by
  rw [Machine.run_append]
  exact counting_counted (isActive_run params calls) call

/-- A memory of difficulty two and quality three, attested with one tag. -/
def sampleMemory : AttestedMemory where
  developer := ascii "dev"
  memoryCID := ascii "cid"
  difficulty := 2
  quality := 3
  domainTags := [ascii "go"]
  provenance := ascii "verified"

end Steps

end WeVibeChain.Reputation
