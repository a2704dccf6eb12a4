import WeVibeChain.OrgFeegrants
import WeVibeChain.Shared.Tables

/-!
# x/org: genesis export and import

An org is exported in its in-memory form, which has no counters, and is written
back from it. Of a configuration the export keeps four fields and the import two.
What else the genesis holds comes back.
-/

set_option autoImplicit false

namespace WeVibeChain.Orgs

open Bytes OrderedMap

section Genesis

structure GenesisState where
  orgs : List Org := []
  members : List MemberRecord := []
  orgConfigs : List OrgConfig := []
  nextSlot : UInt64 := 0
  params : Params
  deriving DecidableEq

def zeroParams : Params := ⟨0, 0, 0, 0, 0, 0, 0, 0, 0⟩

def importOrgs (s : Store) : List Org → Except Error Store
  | [] => .ok s
  | org :: orgs =>
    match org.validate with
    | .error e => .error e
    | .ok () => importOrgs { s with org := s.org.set (orgKey org.orgID) (orgToStored org) } orgs

/-- What the import writes of a configuration. -/
def importedConfig (config : OrgConfig) : OrgConfig :=
  { orgID := config.orgID, serveReceiptRequired := config.serveReceiptRequired }

def initGenesis (s : Store) (g : GenesisState) : Except Error Store :=
  let params := if g.params = zeroParams then defaultParams else g.params
  match importOrgs { setParams s params with slotRegistry := some g.nextSlot } g.orgs with
  | .error e => .error e
  | .ok s =>
    .ok { s with
      member := g.members.foldl (fun m member =>
        m.set (memberKey member.orgID member.pubkey) member) s.member
      orgConfig := g.orgConfigs.foldl (fun m config =>
        m.set (orgConfigKey config.orgID) (importedConfig config)) s.orgConfig }

/-- What the export keeps of a configuration. -/
def exportedConfig (stored : OrgConfig) : OrgConfig where
  orgID := stored.orgID
  serveReceiptRequired := stored.serveReceiptRequired
  contestStakeVibe := stored.contestStakeVibe
  minContributionsPerEpoch := stored.minContributionsPerEpoch

def exportGenesis (s : Store) : GenesisState where
  orgs := s.org.values.map storedToOrg
  members := s.member.values
  orgConfigs := s.orgConfig.values.map exportedConfig
  nextSlot := getNextSlot s
  params := getParams s

end Genesis

section Records

theorem OrgStatus.code_ofCode (code : Int32) : (OrgStatus.ofCode code).code = code := by
  unfold OrgStatus.ofCode
  split
  · rename_i h
    exact h.symm
  split
  · rename_i h
    exact h.symm
  split
  · rename_i h
    exact h.symm
  split
  · rename_i h
    exact h.symm
  rfl

/-- The counters are lost. -/
theorem orgToStored_storedToOrg (stored : StoredOrg) :
    orgToStored (storedToOrg stored) =
      { stored with
        totalCommittedMemories := 0
        totalActiveMembers := 0
        totalUpheldReports := 0
        lastActivityEpoch := 0 } := by
  unfold orgToStored storedToOrg
  rw [OrgStatus.code_ofCode]

/-- The org has no counter that is not zero. -/
structure StoredOrg.Uncounted (stored : StoredOrg) : Prop where
  committedMemories : stored.totalCommittedMemories = 0
  activeMembers : stored.totalActiveMembers = 0
  upheldReports : stored.totalUpheldReports = 0
  activityEpoch : stored.lastActivityEpoch = 0

theorem orgToStored_storedToOrg_eq_iff {stored : StoredOrg} :
    orgToStored (storedToOrg stored) = stored ↔ stored.Uncounted := by
  rw [orgToStored_storedToOrg]
  constructor
  · intro h
    exact ⟨(congrArg StoredOrg.totalCommittedMemories h).symm,
      (congrArg StoredOrg.totalActiveMembers h).symm,
      (congrArg StoredOrg.totalUpheldReports h).symm,
      (congrArg StoredOrg.lastActivityEpoch h).symm⟩
  · rintro ⟨hcommitted, hactive, hupheld, hactivity⟩
    cases stored
    dsimp only at hcommitted hactive hupheld hactivity
    subst hcommitted hactive hupheld hactivity
    rfl

/-- The configuration sets nothing but whether receipts are required. -/
structure OrgConfig.ReceiptsOnly (config : OrgConfig) : Prop where
  stake : config.contestStakeVibe = 0
  vocabulary : config.vocabHash = []
  model : config.embeddingModelID = []
  contributions : config.minContributionsPerEpoch = 0

theorem importedConfig_eq_iff {config : OrgConfig} :
    importedConfig (exportedConfig config) = config ↔ config.ReceiptsOnly := by
  unfold importedConfig exportedConfig
  constructor
  · intro h
    exact ⟨(congrArg OrgConfig.contestStakeVibe h).symm,
      (congrArg OrgConfig.vocabHash h).symm,
      (congrArg OrgConfig.embeddingModelID h).symm,
      (congrArg OrgConfig.minContributionsPerEpoch h).symm⟩
  · rintro ⟨hstake, hvocabulary, hmodel, hcontributions⟩
    cases config
    dsimp only at hstake hvocabulary hmodel hcontributions
    subst hstake hvocabulary hmodel hcontributions
    rfl

end Records

section RoundTrip
variable {s : Store}

theorem importOrgs_ok {orgs : List Org} (h : ∀ org ∈ orgs, org.validate = .ok ()) :
    importOrgs s orgs = .ok { s with
      org := orgs.foldl (fun m org => m.set (orgKey org.orgID) (orgToStored org)) s.org } := by
  induction orgs generalizing s with
  | nil => rfl
  | cons org orgs ih =>
    rw [List.forall_mem_cons] at h
    unfold importOrgs
    rw [h.1]
    exact ih h.2

/-- The export imported into an empty store. -/
def roundTrip (s : Store) : Except Error Store := initGenesis {} (exportGenesis s)

theorem roundTrip_ok (hs : Recorded s) :
    ∃ s', roundTrip s = .ok s' ∧
      s'.org = (s.org.values.map storedToOrg).foldl
        (fun m org => m.set (orgKey org.orgID) (orgToStored org)) ∅ ∧
      s'.member = s.member ∧
      s'.orgConfig = (s.orgConfig.values.map exportedConfig).foldl
        (fun m config => m.set (orgConfigKey config.orgID) (importedConfig config)) ∅ ∧
      getNextSlot s' = getNextSlot s ∧
      getParams s' = if getParams s = zeroParams then defaultParams else getParams s := by
  have hvalid : ∀ org ∈ s.org.values.map storedToOrg, org.validate = .ok () := by
    intro org horg
    obtain ⟨stored, hstored, rfl⟩ := List.mem_map.mp horg
    obtain ⟨k, hget⟩ := mem_values_iff.mp hstored
    exact (hs.orgs k stored hget).2
  unfold roundTrip initGenesis exportGenesis
  dsimp only
  rw [importOrgs_ok hvalid]
  refine ⟨_, rfl, rfl, ?_, rfl, rfl, rfl⟩
  exact load_values (hs.members.imp fun _ _ h => h.1)

/-- What the import has to give back. -/
structure Restored (s s' : Store) : Prop where
  orgs : s'.org = s.org
  members : s'.member = s.member
  configs : s'.orgConfig = s.orgConfig
  nextSlot : getNextSlot s' = getNextSlot s
  params : getParams s' = getParams s

/-- Nothing is stored that the genesis has no room for. -/
structure Exportable (s : Store) : Prop where
  orgs : s.org.Forall fun _ stored => stored.Uncounted
  configs : s.orgConfig.Forall fun _ config => config.ReceiptsOnly

theorem restored_iff (hs : Recorded s) (hparams : getParams s ≠ zeroParams) :
    (∃ s', roundTrip s = .ok s' ∧ Restored s s') ↔ Exportable s := by
  have horgs := load_dump_eq_iff (fun org => orgKey org.orgID) storedToOrg orgToStored
    (hs.orgs.imp fun _ _ h => h.1)
  have hconfigs := load_dump_eq_iff (fun config => orgConfigKey config.orgID) exportedConfig
    importedConfig hs.configs
  obtain ⟨s', hok, horg, hmember, hconfig, hslot, hparams'⟩ := roundTrip_ok hs
  rw [if_neg hparams] at hparams'
  constructor
  · rintro ⟨s'', hok', hrestored⟩
    obtain rfl := Except.ok.inj (hok.symm.trans hok')
    constructor
    · exact (horgs.mp (horg.symm.trans hrestored.orgs)).imp fun _ _ =>
        orgToStored_storedToOrg_eq_iff.mp
    · exact (hconfigs.mp (hconfig.symm.trans hrestored.configs)).imp fun _ _ =>
        importedConfig_eq_iff.mp
  · intro h
    refine ⟨s', hok, ?_, hmember, ?_, hslot, hparams'⟩
    · exact horg.trans (horgs.mpr (h.orgs.imp fun _ _ => orgToStored_storedToOrg_eq_iff.mpr))
    · exact hconfig.trans (hconfigs.mpr (h.configs.imp fun _ _ => importedConfig_eq_iff.mpr))

end RoundTrip

section Runs
variable {β γ : Type} {ext : Externals β γ} {authority : Bytes}

theorem defaultParams_slotCap : defaultParams.slotCap ≠ 0 := by decide

theorem Stored.slotCap {s s' : Store} {msg : Msg} {response : Response}
    (h : Stored ext authority s msg response s') (hs : (getParams s).slotCap ≠ 0) :
    (getParams s').slotCap ≠ 0 := by
  cases h with
  | updateParams msg signed valid => exact valid
  | _ => exact hs

theorem slotCap_update {st : State β γ} (hs : (getParams st.store).slotCap ≠ 0)
    {x : Except Error Store} {orgID : Bytes}
    (hx : ∀ s', x = .ok s' → CountersChanged orgID st.store s') :
    (getParams (st.update x).store).slotCap ≠ 0 := by
  cases x with
  | error e => exact hs
  | ok s' =>
    obtain ⟨stored, committed, upheld, activity, -, rfl⟩ := hx s' rfl
    exact hs

/-- The parameters allow for an org, so they are not all zero. -/
theorem slotCap_next {st : State β γ} (hs : (getParams st.store).slotCap ≠ 0)
    (input : Input β γ) : (getParams ((chain ext authority).next st input).store).slotCap ≠ 0 := by
  cases input with
  | msg msg =>
    change (getParams (deliver ext authority st msg).1.store).slotCap ≠ 0
    rcases deliver_cases ext authority st msg with ⟨e, he⟩ | ⟨response, -, hstored⟩
    · rwa [he]
    · exact hstored.slotCap hs
  | committed orgID => exact slotCap_update hs fun s' h => incrementOrgCommittedMemories_ok h
  | upheld orgID => exact slotCap_update hs fun s' h => incrementOrgUpheldReports_ok h
  | activity orgID epoch => exact slotCap_update hs fun s' h => setOrgLastActivityEpoch_ok h
  | others bank feegrant => exact hs

theorem registry_restored_iff (ext : Externals β γ) (authority : Bytes) (bank : β) (feegrant : γ)
    (inputs : List (Input β γ)) :
    (∃ s', roundTrip ((chain ext authority).run ⟨{}, bank, feegrant⟩ inputs).store = .ok s' ∧
        Restored ((chain ext authority).run ⟨{}, bank, feegrant⟩ inputs).store s') ↔
      Exportable ((chain ext authority).run ⟨{}, bank, feegrant⟩ inputs).store := by
  apply restored_iff (recorded_run ext authority none bank feegrant inputs).2
  have hcap := (chain ext authority).run_always
    (I := fun st => (getParams st.store).slotCap ≠ 0) (fun _ input hs => slotCap_next hs input)
    (s := ⟨{}, bank, feegrant⟩) defaultParams_slotCap inputs
  intro hzero
  rw [hzero] at hcap
  exact hcap rfl

end Runs

section Sample

/-- The first org is registered; its leader is its one member. -/
def sampleRegistered : Store :=
  (sampleChain.run sampleStart [.msg (.registerOrg sampleRegister)]).store

/-- After the round trip it has none. -/
theorem sampleRegistered_not_restored :
    (sampleRegistered.org.get (orgKey (formatOrgID 0))).map StoredOrg.totalActiveMembers =
        some 1 ∧
      (∃ s', roundTrip sampleRegistered = .ok s' ∧
        (s'.org.get (orgKey (formatOrgID 0))).map StoredOrg.totalActiveMembers = some 0) ∧
      ¬ ∃ s', roundTrip sampleRegistered = .ok s' ∧ Restored sampleRegistered s' := by
  have hbefore : (sampleRegistered.org.get (orgKey (formatOrgID 0))).map
      StoredOrg.totalActiveMembers = some 1 := by decide +kernel
  have hafter : (roundTrip sampleRegistered).map (fun s' =>
      (s'.org.get (orgKey (formatOrgID 0))).map StoredOrg.totalActiveMembers) =
        .ok (some 0) := by decide +kernel
  obtain ⟨s', hok, hzero⟩ := Except.map_eq_ok hafter
  refine ⟨hbefore, ⟨s', hok, hzero⟩, ?_⟩
  rintro ⟨s'', hok', hrestored⟩
  obtain rfl := Except.ok.inj (hok.symm.trans hok')
  rw [hrestored.orgs, hbefore] at hzero
  cases hzero

end Sample

end WeVibeChain.Orgs
