import WeVibeChain.ReputationMsgServer

/-!
# x/reputation: who can change the store, and when the module is active

Anyone can have a memory counted for any developer: an accepted
`MsgUpdateReputation` always changes the store, and its acceptance does not
depend on the signer.

Whether the module is active is said by a flag that genesis writes and nothing
else does. The parameters have a field of the same name that no keeper reads.
-/

set_option autoImplicit false

namespace WeVibeChain.Reputation

open Bytes

section OpenUpdates
variable {authority : Bytes} {s : Store}

theorem countName_ok_iff {tally : Tally} {name : Bytes} :
    (∃ tally', countName tally name = .ok tally') ↔ (tally = none → name = []) := by
  unfold countName
  by_cases hname : name = []
  · simp [hname]
  · cases tally with
    | none => simp [hname]
    | some m => simp [hname]

/-- Counting neither makes a map that is not there nor drops one. -/
theorem countName_none_iff {tally tally' : Tally} {name : Bytes}
    (h : countName tally name = .ok tally') : tally' = none ↔ tally = none := by
  unfold countName at h
  split at h
  · rw [Except.ok.inj h]
  · cases tally with
    | none => cases h
    | some m =>
      obtain rfl := Except.ok.inj h
      simp

theorem countNames_ok_iff {tally : Tally} {names : List Bytes} :
    (∃ tally', countNames tally names = .ok tally') ↔
      (tally = none → ∀ name ∈ names, name = []) := by
  induction names generalizing tally with
  | nil => simp [countNames]
  | cons name names ih =>
    unfold countNames
    cases hname : countName tally name with
    | error e =>
      have hrefused : ¬ (tally = none → name = []) := by
        rw [← countName_ok_iff, hname]
        rintro ⟨tally', h⟩
        cases h
      simp only [reduceCtorEq, exists_false, List.mem_cons, forall_eq_or_imp, false_iff]
      exact fun hall => hrefused fun hnone => (hall hnone).1
    | ok tally' =>
      have hcounted := countName_ok_iff.mp ⟨tally', hname⟩
      simp only [ih, countName_none_iff hname, List.mem_cons, forall_eq_or_imp]
      exact forall_congr' fun hnone => (and_iff_right (hcounted hnone)).symm

theorem addMemory_ok_iff {tags provenances : Tally} {stats : ReputationStats}
    {memory : AttestedMemory} :
    (∃ stats', addMemory tags provenances stats memory = .ok stats') ↔
      (tags = none → ∀ tag ∈ memory.domainTags, tag = []) ∧
        (provenances = none → memory.provenance = []) := by
  rw [← countNames_ok_iff, ← countName_ok_iff]
  unfold addMemory
  cases countNames tags memory.domainTags with
  | error e => simp
  | ok tags' =>
    cases countName provenances memory.provenance with
    | error e => simp
    | ok provenances' => simp

theorem addMemory_memoryCount {tags provenances : Tally} {stats stats' : ReputationStats}
    {memory : AttestedMemory} (h : addMemory tags provenances stats memory = .ok stats') :
    stats'.memoryCount = stats.memoryCount + 1 := by
  unfold addMemory at h
  split at h
  · cases h
  split at h
  · cases h
  rw [← Except.ok.inj h]

theorem loadTally_eq_none {m : OrderedMap Bytes UInt64} : loadTally m = none ↔ m = ∅ := by
  unfold loadTally
  split <;> simp_all

/-- The memory's tags and its provenance can be counted for the developer: the maps of stored
statistics are there unless nothing is to be written in them. -/
def Countable (s : Store) (developer : Bytes) (memory : AttestedMemory) : Prop :=
  ∀ stored, s.stats.get (statsKey developer) = some stored →
    (stored.domainTags = ∅ → ∀ tag ∈ memory.domainTags, tag = []) ∧
      (stored.provenanceBreakdown = ∅ → memory.provenance = [])

theorem addMemoryOf_ok_iff {developer : Bytes} {memory : AttestedMemory} :
    (∃ stats, addMemoryOf s developer memory = .ok stats) ↔ Countable s developer memory := by
  unfold addMemoryOf Countable
  cases s.stats.get (statsKey developer) with
  | none => simp [addMemory_ok_iff]
  | some stored => simp [addMemory_ok_iff, loadTally_eq_none]

/-- A memory that is counted shows in the developer's statistics. -/
theorem addMemoryOf_changes {developer : Bytes} {memory : AttestedMemory} {stats : ReputationStats}
    (h : addMemoryOf s developer memory = .ok stats) :
    s.stats.get (statsKey developer) ≠ some stats := by
  unfold addMemoryOf at h
  split at h
  · rename_i hnone
    rw [hnone]
    exact nofun
  · rename_i stored hsome
    rw [hsome]
    intro heq
    have hcount := addMemory_memoryCount h
    rw [Option.some.inj heq] at hcount
    exact absurd hcount.symm (by simp)

theorem memory_validate {msg : MsgUpdateReputation} (h : msg.validateBasic = .ok ()) :
    msg.memory.validate = .ok () := by
  unfold MsgUpdateReputation.validateBasic at h
  split at h
  · cases h
  split at h
  · cases h
  rename_i hdeveloper
  split at h
  · cases h
  rename_i hcid
  split at h
  · cases h
  rename_i hdifficulty
  split at h
  · cases h
  rename_i hquality
  -- A grade of at most ten is not changed by the conversion to a byte.
  have hgrade : ∀ n : UInt32, ¬ n > 10 → ¬ n.toUInt8 > 10 := by
    intro n hn
    rw [gt_iff_lt, UInt32.lt_iff_toNat_lt] at hn
    rw [gt_iff_lt, UInt8.lt_iff_toNat_lt, UInt32.toNat_toUInt8]
    have hten : (10 : UInt32).toNat = 10 := rfl
    have hten' : (10 : UInt8).toNat = 10 := rfl
    omega
  unfold AttestedMemory.validate MsgUpdateReputation.memory
  simp [hdeveloper, hcid, hgrade _ hdifficulty, hgrade _ hquality]

/-- What an update needs to be accepted, whoever signs it. -/
def OpenUpdate (s : Store) : Msg → Prop
  | .updateReputation msg =>
    isActive s = true ∧ msg.validateBasic = .ok () ∧ Countable s msg.developer msg.memory
  | _ => False

theorem updateReputation_accepted {msg : MsgUpdateReputation}
    (h : OpenUpdate s (.updateReputation msg)) :
    ∃ stats xp,
      addMemoryOf s msg.developer msg.memory = .ok stats ∧
      updateReputationMsg s msg =
        .ok ({ s with
          stats := s.stats.set (statsKey msg.developer) stats
          memory := s.memory.set (memoryKey msg.developer msg.memory.memoryCID)
            (attestedMemoryToStored msg.memory) }, xp) := by
  obtain ⟨hactive, hbasic, hcountable⟩ := h
  obtain ⟨stats, hstats⟩ := addMemoryOf_ok_iff.mpr hcountable
  refine ⟨stats, stats.xp, hstats, ?_⟩
  unfold updateReputationMsg updateReputation
  simp [hbasic, hactive, memory_validate hbasic, hstats, getXP, getReputation, Except.map]

/-- Of the messages that the module authority did not sign, exactly the updates that can be counted
change the store. -/
theorem unsigned_unchanged_iff (msg : Msg) (h : msg.signer ≠ authority) :
    (deliver authority s msg).1 = s ↔ ¬ OpenUpdate s msg := by
  constructor
  · intro hsame hopen
    cases msg with
    | updateReputation m =>
      obtain ⟨stats, xp, hstats, haccepted⟩ := updateReputation_accepted hopen
      have hstored : (deliver authority s (.updateReputation m)).1.stats.get
          (statsKey m.developer) = some stats := by
        simp [deliver, handle, haccepted, Except.map]
      rw [hsame] at hstored
      exact addMemoryOf_changes hstats hstored
    | updateParams m => exact hopen
    | incrementContribution m => exact hopen
    | incrementServe m => exact hopen
    | recordBan m => exact hopen
  · intro hclosed
    rcases deliver_cases authority s msg with ⟨-, hsame⟩ | hstored
    · exact hsame
    · generalize (deliver authority s msg).1 = s' at hstored
      cases hstored with
      | update m hbasic s' hupdated =>
        obtain ⟨hactive, stats, hstats, -⟩ := updateReputation_ok hupdated
        exact absurd ⟨hactive, hbasic, addMemoryOf_ok_iff.mp ⟨stats, hstats⟩⟩ hclosed
      | params m hsigned => exact absurd hsigned h
      | contribution m hsigned => exact absurd hsigned h
      | serve m hsigned => exact absurd hsigned h
      | ban m hsigned => exact absurd hsigned h

def sampleGovernance : Bytes := ascii "wevibe-gov"

/-- A developer attests a memory of their own with the highest grades. -/
def sampleUpdate : MsgUpdateReputation where
  signer := ascii "wevibe-dev"
  developer := ascii "wevibe-dev"
  memoryCid := ascii "cid-1"
  difficulty := 10
  quality := 10

theorem stranger_raises_xp :
    sampleUpdate.signer ≠ sampleGovernance ∧
      getXP (initGenesis defaultGenesis) sampleUpdate.developer = .error .noStats ∧
      getXP (deliver sampleGovernance (initGenesis defaultGenesis)
        (.updateReputation sampleUpdate)).1 sampleUpdate.developer = .ok 100 := by
  decide +kernel

theorem stranger_update_changes :
    (deliver sampleGovernance (initGenesis defaultGenesis) (.updateReputation sampleUpdate)).1 ≠
      initGenesis defaultGenesis := by
  rw [ne_eq, unsigned_unchanged_iff (.updateReputation sampleUpdate) (by decide), not_not]
  refine ⟨by decide, by decide, ?_⟩
  intro stored hget
  cases hget

end OpenUpdates

section Activation

/-- The entry points of the keeper that change the store. -/
inductive Call where
  | updateReputation (developer : Bytes) (memory : AttestedMemory)
  | recordServe (contributorWallet orgID : Bytes) (epoch : UInt64) (isSelfServe : Bool)
  | incrementContribution (contributorID orgID : Bytes)
  | incrementModeratorUpheld (modPubkey orgID : Bytes)
  | incrementLeaderChainCommit (leaderPubkey orgID : Bytes)
  | incrementLeaderUpheldReport (leaderPubkey orgID : Bytes)

def Call.apply (s : Store) : Call → Except Error Store
  | updateReputation developer memory => Reputation.updateReputation s developer memory
  | recordServe wallet orgID epoch isSelfServe => Reputation.recordServe s wallet orgID epoch isSelfServe
  | incrementContribution contributorID orgID =>
    .ok (Reputation.incrementContribution s contributorID orgID)
  | incrementModeratorUpheld modPubkey orgID =>
    .ok (Reputation.incrementModeratorUpheld s modPubkey orgID)
  | incrementLeaderChainCommit leaderPubkey orgID =>
    .ok (Reputation.incrementLeaderChainCommit s leaderPubkey orgID)
  | incrementLeaderUpheldReport leaderPubkey orgID =>
    .ok (Reputation.incrementLeaderUpheldReport s leaderPubkey orgID)

/-- The two calls that an inactive module is to refuse. -/
def Call.gated : Call → Bool
  | updateReputation _ _ => true
  | recordServe _ _ _ _ => true
  | _ => false

def Call.deliver (s : Store) (call : Call) : Store × Except Error Unit :=
  match call.apply s with
  | .error e => (s, .error e)
  | .ok s' => (s', .ok ())

/-- A restart takes the exported genesis state to an empty store. -/
inductive Input where
  | msg (msg : Msg)
  | call (call : Call)
  | restart

variable (authority : Bytes)

def step (s : Store) : Input → Store × Except Error Unit
  | .msg msg => ((deliver authority s msg).1, (deliver authority s msg).2.map fun _ => ())
  | .call call => call.deliver s
  | .restart => (initGenesis (exportGenesisState s), .ok ())

def chain : Machine Store Input (Except Error Unit) := ⟨step authority⟩

/-- The call answers that the module is not active and leaves the store as it was. -/
def Refuses (s : Store) (call : Call) : Prop := call.deliver s = (s, .error .reputationNotActive)

variable {authority} {s s' : Store}

theorem recordServe_active {wallet orgID : Bytes} {epoch : UInt64} {isSelfServe : Bool}
    (h : recordServe s wallet orgID epoch isSelfServe = .ok s') : isActive s' = isActive s := by
  unfold recordServe at h
  split at h
  · cases h
  rw [← Except.ok.inj h]
  rfl

theorem updateReputation_active {developer : Bytes} {memory : AttestedMemory}
    (h : updateReputation s developer memory = .ok s') : isActive s' = isActive s := by
  obtain ⟨-, stats, -, rfl⟩ := updateReputation_ok h
  rfl

theorem apply_active {call : Call} (h : call.apply s = .ok s') : isActive s' = isActive s := by
  cases call with
  | updateReputation developer memory => exact updateReputation_active h
  | recordServe wallet orgID epoch isSelfServe => exact recordServe_active h
  | incrementContribution contributorID orgID =>
    rw [← Except.ok.inj h]
    rfl
  | incrementModeratorUpheld modPubkey orgID =>
    rw [← Except.ok.inj h]
    rfl
  | incrementLeaderChainCommit leaderPubkey orgID =>
    rw [← Except.ok.inj h]
    rfl
  | incrementLeaderUpheldReport leaderPubkey orgID =>
    rw [← Except.ok.inj h]
    rfl

theorem deliver_active (s : Store) (msg : Msg) :
    isActive (deliver authority s msg).1 = isActive s := by
  rcases deliver_cases authority s msg with ⟨-, hsame⟩ | hstored
  · rw [hsame]
  · generalize (deliver authority s msg).1 = s' at hstored
    cases hstored with
    | update m hbasic s' hupdated => exact updateReputation_active hupdated
    | params m hsigned => rfl
    | contribution m hsigned => rfl
    | serve m hsigned => rfl
    | ban m hsigned => rfl

theorem isActive_initGenesis (g : GenesisState) : isActive (initGenesis g) = g.active := by
  unfold initGenesis initGenesisState isActive
  cases g.active <;> rfl

/-- Nothing after genesis moves the flag, a restart included. -/
theorem next_active (s : Store) (input : Input) :
    isActive ((chain authority).next s input) = isActive s := by
  cases input with
  | msg msg => exact deliver_active s msg
  | call call =>
    change isActive (call.deliver s).1 = isActive s
    unfold Call.deliver
    cases hcall : call.apply s with
    | error e => rfl
    | ok s' => exact apply_active hcall
  | restart => exact isActive_initGenesis (exportGenesisState s)

theorem run_active (s : Store) (inputs : List Input) :
    isActive ((chain authority).run s inputs) = isActive s :=
  (chain authority).run_always (I := fun t => isActive t = isActive s)
    (fun t input ht => (next_active t input).trans ht) rfl inputs

theorem countName_error {tally : Tally} {name : Bytes} {e : Error}
    (h : countName tally name = .error e) : e = .nilMapWrite := by
  unfold countName at h
  split at h
  · cases h
  split at h
  · exact (Except.error.inj h).symm
  · cases h

theorem countNames_error {tally : Tally} {names : List Bytes} {e : Error}
    (h : countNames tally names = .error e) : e = .nilMapWrite := by
  induction names generalizing tally with
  | nil => cases h
  | cons name names ih =>
    unfold countNames at h
    split at h
    · rename_i e' hname
      rw [← Except.error.inj h]
      exact countName_error hname
    · exact ih h

theorem addMemory_error {tags provenances : Tally} {stats : ReputationStats}
    {memory : AttestedMemory} {e : Error}
    (h : addMemory tags provenances stats memory = .error e) : e = .nilMapWrite := by
  unfold addMemory at h
  split at h
  · rename_i e' htags
    rw [← Except.error.inj h]
    exact countNames_error htags
  split at h
  · rename_i e' hprovenance
    rw [← Except.error.inj h]
    exact countName_error hprovenance
  · cases h

theorem validate_active (memory : AttestedMemory) :
    memory.validate ≠ .error .reputationNotActive := by
  unfold AttestedMemory.validate
  repeat' split
  all_goals exact nofun

theorem updateReputation_refused_iff {developer : Bytes} {memory : AttestedMemory} :
    updateReputation s developer memory = .error .reputationNotActive ↔ isActive s = false := by
  unfold updateReputation
  split
  · rename_i hinactive
    simp [hinactive]
  · rename_i hactive
    refine iff_of_false ?_ hactive
    split
    · rename_i e hvalid
      intro h
      rw [Except.error.inj h] at hvalid
      exact validate_active memory hvalid
    · split
      · rename_i e hadd
        intro h
        rw [Except.error.inj h] at hadd
        unfold addMemoryOf at hadd
        split at hadd
        · exact absurd (addMemory_error hadd) (by decide)
        · exact absurd (addMemory_error hadd) (by decide)
      · exact nofun

theorem recordServe_refused_iff {wallet orgID : Bytes} {epoch : UInt64} {isSelfServe : Bool} :
    recordServe s wallet orgID epoch isSelfServe = .error .reputationNotActive ↔
      isActive s = false := by
  unfold recordServe
  split
  · rename_i hinactive
    simp [hinactive]
  · rename_i hactive
    exact iff_of_false nofun hactive

theorem refuses_iff_apply {call : Call} :
    Refuses s call ↔ call.apply s = .error .reputationNotActive := by
  unfold Refuses Call.deliver
  cases call.apply s with
  | error e => simp
  | ok s' => simp

theorem gated_refused_iff {call : Call} (hgated : call.gated = true) :
    Refuses s call ↔ isActive s = false := by
  rw [refuses_iff_apply]
  cases call with
  | updateReputation developer memory => exact updateReputation_refused_iff
  | recordServe wallet orgID epoch isSelfServe => exact recordServe_refused_iff
  | incrementContribution contributorID orgID => cases hgated
  | incrementModeratorUpheld modPubkey orgID => cases hgated
  | incrementLeaderChainCommit leaderPubkey orgID => cases hgated
  | incrementLeaderUpheldReport leaderPubkey orgID => cases hgated

/-- After an accepted update of the parameters, in whatever follows, the module is refused exactly
when the parameters say inactive if and only if the flag already agreed with them. -/
theorem params_govern_activation_iff {msg : MsgUpdateParams}
    (h : updateParamsMsg authority s msg = .ok s') (inputs : List Input) :
    (∀ call : Call, call.gated = true →
      (Refuses ((chain authority).run s' inputs) call ↔ msg.params.active = false)) ↔
      isActive s = msg.params.active := by
  obtain ⟨-, rfl⟩ := updateParamsMsg_ok h
  have hflag : isActive ((chain authority).run (setParams s msg.params) inputs) = isActive s :=
    run_active (setParams s msg.params) inputs
  constructor
  · intro hall
    have hserve := hall (.recordServe [] [] 0 false) rfl
    rw [gated_refused_iff rfl, hflag] at hserve
    exact Bool.eq_iff_iff.mpr (not_iff_not.mp (by simpa using hserve))
  · intro hagree call hgated
    rw [gated_refused_iff hgated, hflag, hagree]

def sampleDeactivation : MsgUpdateParams where
  authority := sampleGovernance
  params := { defaultParams with active := false }

/-- The parameters say inactive and a serve is still recorded. -/
theorem deactivation_ignored :
    ∃ s', updateParamsMsg sampleGovernance (initGenesis defaultGenesis) sampleDeactivation = .ok s' ∧
      (getParams s').active = false ∧
      ¬ Refuses s' (.recordServe (ascii "wevibe-dev") (ascii "wevibe-org-0") 1 false) := by
  refine ⟨setParams (initGenesis defaultGenesis) sampleDeactivation.params, by decide +kernel,
    by decide +kernel, ?_⟩
  rw [gated_refused_iff rfl]
  decide +kernel

theorem activation_in_agreement :
    updateParamsMsg sampleGovernance (initGenesis defaultGenesis)
        ⟨sampleGovernance, defaultParams⟩ =
        .ok (setParams (initGenesis defaultGenesis) defaultParams) ∧
      ∀ call : Call, call.gated = true →
        (Refuses ((chain sampleGovernance).run
          (setParams (initGenesis defaultGenesis) defaultParams) [.restart]) call ↔
            defaultParams.active = false) := by
  have haccepted : updateParamsMsg sampleGovernance (initGenesis defaultGenesis)
      ⟨sampleGovernance, defaultParams⟩ =
        .ok (setParams (initGenesis defaultGenesis) defaultParams) := by decide +kernel
  exact ⟨haccepted, (params_govern_activation_iff haccepted [.restart]).mpr (by decide +kernel)⟩

end Activation

end WeVibeChain.Reputation
