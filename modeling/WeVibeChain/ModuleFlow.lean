import WeVibeChain.Node

/-!
# What a module can see

The parts of the state that the handlers of each part's messages read or share with
others make a graph. A set of parts that has with a part all that it needs behaves as
if the rest of the chain were not there: leaving out every input that is not its own
changes nothing that it holds and none of the answers that it gives.

x/reputation is written by x/memory and x/serve and read by neither, nobody reads
x/attestation, and x/identity needs nothing.
-/

set_option autoImplicit false

namespace WeVibeChain.Memory

section Blind
variable {st : State} (reputation : Reputation.Store)

/-- The two states are the same but for the reputation. -/
def SameButReputation (a b : State) : Prop := b.store = a.store ∧ b.org = a.org

theorem submitCommitmentMsg_alike (msg : MsgSubmitCommitment) :
    Except.Alike SameButReputation (submitCommitmentMsg st msg)
      (submitCommitmentMsg { st with reputation := reputation } msg) := by
  unfold submitCommitmentMsg
  dsimp only
  split
  · exact .error _
  split
  · exact .error _
  split
  · exact .error _
  split
  · exact .error _
  split
  · exact .error _
  unfold submitCommitment
  dsimp only
  split
  · exact .error _
  split
  · exact .error _
  split
  · exact .error _
  split
  · exact .error _
  · exact .ok ⟨rfl, rfl⟩

theorem approveMemory_alike (a : Approval) :
    Except.Alike SameButReputation (approveMemory st a)
      (approveMemory { st with reputation := reputation } a) := by
  unfold approveMemory
  dsimp only
  split
  · exact .error _
  split
  · exact .error _
  split
  · exact .error _
  split
  · exact .error _
  split
  · exact .error _
  split
  · exact .error _
  split
  · exact .error _
  · exact .ok ⟨rfl, rfl⟩

theorem approveMemoryMsg_alike (crypto : Crypto) (msg : MsgApproveMemory) :
    Except.Alike SameButReputation (approveMemoryMsg crypto st msg)
      (approveMemoryMsg crypto { st with reputation := reputation } msg) := by
  unfold approveMemoryMsg
  dsimp only
  split
  · exact .error _
  split
  · exact .error _
  split
  · exact .error _
  split
  · exact .error _
  split
  · exact .error _
  · exact approveMemory_alike reputation _

theorem reportMemoryMsg_alike (msg : MsgReportMemory) :
    Except.Alike SameButReputation (reportMemoryMsg st msg)
      (reportMemoryMsg { st with reputation := reputation } msg) := by
  unfold reportMemoryMsg
  dsimp only
  split
  · exact .error _
  split
  · exact .error _
  unfold reportMemory
  dsimp only
  split
  · exact .error _
  split
  · exact .error _
  split
  · exact .error _
  split
  · exact .error _
  · exact .ok ⟨rfl, rfl⟩

theorem updateParamsMsg_alike (authority : Bytes) (msg : MsgUpdateParams) :
    Except.Alike SameButReputation (updateParamsMsg authority st msg)
      (updateParamsMsg authority { st with reputation := reputation } msg) := by
  unfold updateParamsMsg
  split
  · exact .error _
  split
  · exact .error _
  · exact .ok ⟨rfl, rfl⟩

theorem handle_alike (crypto : Crypto) (authority : Bytes) {st st' : State}
    (h : SameButReputation st st') (msg : Msg) :
    Except.Alike SameButReputation (handle crypto authority st msg)
      (handle crypto authority st' msg) := by
  obtain ⟨store, org, reputation⟩ := st'
  obtain ⟨rfl, rfl⟩ : store = st.store ∧ org = st.org := h
  cases msg with
  | submitCommitment msg => exact submitCommitmentMsg_alike reputation msg
  | approveMemory msg => exact approveMemoryMsg_alike reputation crypto msg
  | reportMemory msg => exact reportMemoryMsg_alike reputation msg
  | updateParams msg => exact updateParamsMsg_alike reputation authority msg

end Blind

end WeVibeChain.Memory

namespace WeVibeChain.Serve

section Blind
variable (crypto : Crypto) (scopeTagsOf : Bytes → Option (OrderedMap Bytes Bytes))

/-- The two states are the same but for the reputation. -/
structure SameButReputation (a b : State) : Prop where
  store : b.store = a.store
  org : b.org = a.org
  memory : b.memory = a.memory
  bandwidth : b.bandwidth = a.bandwidth

/-- The same up to the reputation, and the same beside. -/
def SameResult {ρ : Type} (r r' : State × ρ) : Prop := SameButReputation r.1 r'.1 ∧ r'.2 = r.2

theorem processServe_alike (params : Params) (orgID : Bytes) (epoch : UInt64) (st : State)
    (reputation : Reputation.Store) (serve : ServeEntry) :
    Except.Alike SameResult (processServe crypto scopeTagsOf params orgID epoch st serve)
      (processServe crypto scopeTagsOf params orgID epoch { st with reputation := reputation }
        serve) := by
  unfold processServe
  dsimp only
  split
  · exact .ok ⟨⟨rfl, rfl, rfl, rfl⟩, rfl⟩
  split
  · exact .ok ⟨⟨rfl, rfl, rfl, rfl⟩, rfl⟩
  split
  · exact .ok ⟨⟨rfl, rfl, rfl, rfl⟩, rfl⟩
  split
  · exact .ok ⟨⟨rfl, rfl, rfl, rfl⟩, rfl⟩
  split
  · exact .error _
  · exact .ok ⟨⟨rfl, rfl, rfl, rfl⟩, rfl⟩
  split
  · exact .ok ⟨⟨rfl, rfl, rfl, rfl⟩, rfl⟩
  · exact .ok ⟨⟨rfl, rfl, rfl, rfl⟩, rfl⟩

theorem SameButReputation.eq {a b : State} (h : SameButReputation a b) :
    b = { a with reputation := b.reputation } := by
  obtain ⟨store, org, memory, bandwidth, reputation⟩ := b
  obtain ⟨rfl, rfl, rfl, rfl⟩ := h
  rfl

theorem processServes_alike (params : Params) (orgID : Bytes) (epoch : UInt64) {st st' : State}
    (h : SameButReputation st st') (result : BatchResult) (serves : List ServeEntry) :
    Except.Alike SameResult (processServes crypto scopeTagsOf params orgID epoch st result serves)
      (processServes crypto scopeTagsOf params orgID epoch st' result serves) := by
  induction serves generalizing st st' result with
  | nil => exact .ok ⟨h, rfl⟩
  | cons serve serves ih =>
    have hturn := processServe_alike crypto scopeTagsOf params orgID epoch st st'.reputation serve
    rw [← h.eq] at hturn
    unfold processServes
    generalize processServe crypto scopeTagsOf params orgID epoch st serve = r,
      processServe crypto scopeTagsOf params orgID epoch st' serve = r' at hturn
    cases hturn with
    | error e => exact .error e
    | @ok r r' hr =>
      obtain ⟨hsame, houtcome⟩ := hr
      dsimp only
      rw [houtcome]
      exact ih hsame _

theorem submitServeBatch_alike (st : State) (reputation : Reputation.Store)
    (msg : MsgSubmitServeBatch) :
    Except.Alike SameResult (submitServeBatch crypto scopeTagsOf st msg)
      (submitServeBatch crypto scopeTagsOf { st with reputation := reputation } msg) := by
  unfold submitServeBatch processServeBatch
  dsimp only
  split
  · exact .error _
  split
  · exact .error _
  split
  · exact .error _
  · refine processServes_alike crypto scopeTagsOf _ _ _ ?_ _ _
    exact ⟨rfl, rfl, rfl, rfl⟩

theorem submitDenialBatch_alike (st : State) (reputation : Reputation.Store)
    (msg : MsgSubmitDenialBatch) :
    Except.Alike SameResult (submitDenialBatch crypto st msg)
      (submitDenialBatch crypto { st with reputation := reputation } msg) := by
  unfold submitDenialBatch
  dsimp only
  split
  · exact .error _
  split
  · exact .error _
  · exact .ok ⟨⟨rfl, rfl, rfl, rfl⟩, rfl⟩

theorem submitEventBatch_alike (st : State) (reputation : Reputation.Store)
    (msg : MsgSubmitEventBatch) :
    Except.Alike SameResult (submitEventBatch crypto st msg)
      (submitEventBatch crypto { st with reputation := reputation } msg) := by
  unfold submitEventBatch
  dsimp only
  split
  · exact .error _
  split
  · exact .error _
  · exact .ok ⟨⟨rfl, rfl, rfl, rfl⟩, rfl⟩

theorem anchorPolicyVersion_alike (authority : Bytes) (st : State) (reputation : Reputation.Store)
    (height : Int64) (msg : MsgAnchorPolicyVersion) :
    Except.Alike SameButReputation (anchorPolicyVersion authority st height msg)
      (anchorPolicyVersion authority { st with reputation := reputation } height msg) := by
  unfold anchorPolicyVersion
  dsimp only
  split
  · exact .error _
  split
  · exact .error _
  split
  · exact .error _
  · exact .ok ⟨rfl, rfl, rfl, rfl⟩

theorem updateParams_alike (authority : Bytes) (st : State) (reputation : Reputation.Store)
    (msg : MsgUpdateParams) :
    Except.Alike SameButReputation (updateParams authority st msg)
      (updateParams authority { st with reputation := reputation } msg) := by
  unfold updateParams
  dsimp only
  split
  · exact .error _
  split
  · exact .error _
  · exact .ok ⟨rfl, rfl, rfl, rfl⟩

theorem handle_alike (authority : Bytes) {st st' : State} (h : SameButReputation st st')
    (msg : Msg) :
    Except.Alike SameResult (handle crypto scopeTagsOf authority st msg)
      (handle crypto scopeTagsOf authority st' msg) := by
  rw [h.eq]
  cases msg with
  | submitServeBatch msg =>
    exact (submitServeBatch_alike crypto scopeTagsOf st _ msg).map
      fun _ _ hr => ⟨hr.1, congrArg Response.serveBatch hr.2⟩
  | submitDenialBatch msg =>
    exact (submitDenialBatch_alike crypto st _ msg).map
      fun _ _ hr => ⟨hr.1, congrArg Response.denialBatch hr.2⟩
  | submitEventBatch msg =>
    exact (submitEventBatch_alike crypto st _ msg).map
      fun _ _ hr => ⟨hr.1, congrArg Response.eventBatch hr.2⟩
  | anchorPolicyVersion height msg =>
    exact (anchorPolicyVersion_alike authority st _ height msg).map fun _ _ hr => ⟨hr, rfl⟩
  | updateParams msg =>
    exact (updateParams_alike authority st _ msg).map fun _ _ hr => ⟨hr, rfl⟩

end Blind

end WeVibeChain.Serve

namespace WeVibeChain.Node

section Parts
variable {β γ : Type}

/-- The stores of the modules, and the balances with the fee allowances. -/
inductive Part where
  | org
  | memory
  | serve
  | bandwidth
  | reputation
  | emissions
  | identity
  | attestation
  | funds
  deriving DecidableEq

/-- What the handlers of the part read, and the parts whose handlers write it. -/
def Part.needs : Part → List Part
  | .org => [.funds, .memory]
  | .memory => [.org]
  | .serve => [.org, .memory, .bandwidth]
  | .bandwidth => [.org, .serve]
  | .reputation => [.memory, .serve]
  | .emissions => [.memory, .identity, .funds]
  | .identity => []
  | .attestation => []
  | .funds => [.org, .emissions]

/-- With a part come all parts that it needs. -/
def Closed (S : Part → Bool) : Prop := ∀ p q, S p = true → q ∈ p.needs → S q = true

/-- The part that an input is for. The end of an epoch is also for x/emissions, which x/memory
needs by way of x/org. -/
def Input.part : Input β γ → Part
  | .msg (.app (.org _)) => .org
  | .msg (.app (.memory _)) => .memory
  | .msg (.app (.serve _)) => .serve
  | .msg (.app (.bandwidth _)) => .bandwidth
  | .msg (.bandwidthParams _) => .bandwidth
  | .msg (.reputation _) => .reputation
  | .msg (.mintDailyEmission _) => .emissions
  | .msg (.claimContributorReward _) => .emissions
  | .msg (.emissionsParams _) => .emissions
  | .msg (.migrateIdentity _ _) => .identity
  | .msg (.attestation _) => .attestation
  | .epochEnd _ => .memory
  | .others _ _ => .funds

/-- The two states have the same in the parts. -/
structure Agree (S : Part → Bool) (st st' : State β γ) : Prop where
  org : S .org = true → st'.app.org = st.app.org
  memory : S .memory = true → st'.app.memory = st.app.memory
  serve : S .serve = true → st'.app.serve = st.app.serve
  bandwidth : S .bandwidth = true → st'.app.bandwidth = st.app.bandwidth
  reputation : S .reputation = true → st'.app.reputation = st.app.reputation
  emissions : S .emissions = true → st'.emissions = st.emissions
  identity : S .identity = true → st'.identity = st.identity
  attestation : S .attestation = true → st'.attestation = st.attestation
  funds : S .funds = true → st'.app.bank = st.app.bank ∧ st'.app.feegrant = st.app.feegrant

end Parts

section Quiet
variable {β γ : Type} {env : Env β γ} {S : Part → Bool} {st st' : State β γ}

/-- Who needs a part that is left out is left out. -/
theorem Closed.leaves_out (hclosed : Closed S) (p q : Part) (hneeds : q ∈ p.needs)
    (hout : ¬ S q = true) : ¬ S p = true :=
  fun hp => hout (hclosed p q hp hneeds)

/-- An input for another part is not noticed. -/
theorem Agree.quiet (h : Agree S st st') (hclosed : Closed S) {input : Input β γ}
    (hother : ¬ S input.part = true) : Agree S ((chain env).next st input) st' := by
  have hchanged := next_changed env st input
  generalize (chain env).next st input = next at hchanged ⊢
  cases hchanged with
  | refused => exact h
  | app msg app response accepted =>
    cases msg with
    | org msg =>
      obtain ⟨org, orgResponse, -, -, rfl⟩ := Application.handle_org_eq accepted
      have hfunds : ¬ S .funds = true := hclosed.leaves_out .funds .org (by decide) hother
      exact { h with
        org := fun hp => (hother hp).elim
        funds := fun hp => (hfunds hp).elim }
    | memory msg =>
      obtain ⟨memory, -, rfl⟩ := Application.handle_memory_eq accepted
      have horg : ¬ S .org = true := hclosed.leaves_out .org .memory (by decide) hother
      have hreputation : ¬ S .reputation = true := hclosed.leaves_out .reputation .memory (by decide) hother
      exact { h with
        memory := fun hp => (hother hp).elim
        org := fun hp => (horg hp).elim
        reputation := fun hp => (hreputation hp).elim }
    | serve msg =>
      obtain ⟨serve, serveResponse, -, rfl⟩ := Application.handle_serve_eq accepted
      have hbandwidth : ¬ S .bandwidth = true := hclosed.leaves_out .bandwidth .serve (by decide) hother
      have hreputation : ¬ S .reputation = true := hclosed.leaves_out .reputation .serve (by decide) hother
      exact { h with
        serve := fun hp => (hother hp).elim
        bandwidth := fun hp => (hbandwidth hp).elim
        reputation := fun hp => (hreputation hp).elim }
    | bandwidth msg =>
      obtain ⟨bandwidth, rfl⟩ := Application.handle_bandwidth accepted
      exact { h with bandwidth := fun hp => (hother hp).elim }
  | bandwidthParams => exact { h with bandwidth := fun hp => (hother hp).elim }
  | reputation => exact { h with reputation := fun hp => (hother hp).elim }
  | minted =>
    have hfunds : ¬ S .funds = true := hclosed.leaves_out .funds .emissions (by decide) hother
    exact { h with
      emissions := fun hp => (hother hp).elim
      funds := fun hp => (hfunds hp).elim }
  | claimed =>
    have hfunds : ¬ S .funds = true := hclosed.leaves_out .funds .emissions (by decide) hother
    exact { h with
      emissions := fun hp => (hother hp).elim
      funds := fun hp => (hfunds hp).elim }
  | emissionsParams => exact { h with emissions := fun hp => (hother hp).elim }
  | migrated => exact { h with identity := fun hp => (hother hp).elim }
  | attestation => exact { h with attestation := fun hp => (hother hp).elim }
  | epochEnd n =>
    have hemissions : ¬ S .emissions = true := hclosed.leaves_out .emissions .memory (by decide) hother
    have hfunds : ¬ S .funds = true := hclosed.leaves_out .funds .emissions (by decide) hemissions
    exact { h with
      memory := fun hp => (hother hp).elim
      emissions := fun hp => (hemissions hp).elim
      funds := fun hp => (hfunds hp).elim }
  | others => exact { h with funds := fun hp => (hother hp).elim }

end Quiet

section Own
variable {β γ : Type} (env : Env β γ) {S : Part → Bool} {st st' : State β γ}

/-- The same answer, and agreement again. -/
def AgreeResult (S : Part → Bool) {ρ : Type} (r r' : State β γ × ρ) : Prop :=
  Agree S r.1 r'.1 ∧ r'.2 = r.2

theorem Agree.handle_org (h : Agree S st st') (hclosed : Closed S) (hown : S .org = true)
    (msg : Orgs.Msg) :
    Except.Alike (AgreeResult S) (handle env st (.app (.org msg)))
      (handle env st' (.app (.org msg))) := by
  have hfunds := h.funds (hclosed .org .funds hown (by decide))
  have hstate : st'.app.orgState = st.app.orgState := by
    rw [Application.State.orgState, h.org hown, hfunds.1, hfunds.2]
    rfl
  simp only [handle, Application.handle, hstate, markerRefuses]
  cases Orgs.handle env.ext env.authority st.app.orgState msg with
  | error e => exact .error _
  | ok r => exact .ok ⟨{ h with org := fun _ => rfl, funds := fun _ => ⟨rfl, rfl⟩ }, rfl⟩

/-- With the reputation among the parts the keeper starts from the same; without it the keeper does
not see the difference. -/
theorem Agree.handle_memory (h : Agree S st st') (hclosed : Closed S) (hown : S .memory = true)
    (msg : Memory.Msg) :
    Except.Alike (AgreeResult S) (handle env st (.app (.memory msg)))
      (handle env st' (.app (.memory msg))) := by
  have horg := h.org (hclosed .memory .org hown (by decide))
  have hmarker := congrArg (markerRefuses · (.memory msg)) (h.memory hown)
  simp only [handle, Application.handle, hmarker]
  generalize markerRefuses st.app.memory (.memory msg) = refused
  by_cases hreputation : S .reputation = true
  · have hstate : st'.app.memoryState = st.app.memoryState := by
      rw [Application.State.memoryState, h.memory hown, horg, h.reputation hreputation]
      rfl
    rw [hstate]
    cases Memory.handle env.crypto env.authority st.app.memoryState msg with
    | error e => exact .error _
    | ok r =>
      cases refused with
      | true => exact .error _
      | false => exact .ok ⟨{ h with
        memory := fun _ => rfl
        org := fun _ => rfl
        reputation := fun _ => rfl }, rfl⟩
  · have hsame : Memory.SameButReputation st.app.memoryState st'.app.memoryState :=
      ⟨h.memory hown, horg⟩
    have halike := Memory.handle_alike env.crypto env.authority hsame msg
    generalize Memory.handle env.crypto env.authority st.app.memoryState msg = x,
      Memory.handle env.crypto env.authority st'.app.memoryState msg = x' at halike ⊢
    cases halike with
    | error e => exact .error _
    | ok hr =>
      cases refused with
      | true => exact .error _
      | false => exact .ok ⟨{ h with
        memory := fun _ => hr.1
        org := fun _ => hr.2
        reputation := fun hp => (hreputation hp).elim }, rfl⟩

theorem Agree.handle_serve (h : Agree S st st') (hclosed : Closed S) (hown : S .serve = true)
    (msg : Serve.Msg) :
    Except.Alike (AgreeResult S) (handle env st (.app (.serve msg)))
      (handle env st' (.app (.serve msg))) := by
  have horg := h.org (hclosed .serve .org hown (by decide))
  have hmemory := h.memory (hclosed .serve .memory hown (by decide))
  have hbandwidth := h.bandwidth (hclosed .serve .bandwidth hown (by decide))
  simp only [handle, Application.handle, markerRefuses]
  by_cases hreputation : S .reputation = true
  · have hstate : st'.app.serveState = st.app.serveState := by
      rw [Application.State.serveState, h.serve hown, horg, hmemory, hbandwidth,
        h.reputation hreputation]
      rfl
    rw [hstate]
    cases Serve.handle env.crypto env.scopeTagsOf env.authority st.app.serveState msg with
    | error e => exact .error _
    | ok r =>
      exact .ok ⟨{ h with
        serve := fun _ => rfl
        org := fun _ => rfl
        memory := fun _ => rfl
        bandwidth := fun _ => rfl
        reputation := fun _ => rfl }, rfl⟩
  · have hsame : Serve.SameButReputation st.app.serveState st'.app.serveState :=
      ⟨h.serve hown, horg, hmemory, hbandwidth⟩
    have halike := Serve.handle_alike env.crypto env.scopeTagsOf env.authority hsame msg
    generalize Serve.handle env.crypto env.scopeTagsOf env.authority st.app.serveState msg = x,
      Serve.handle env.crypto env.scopeTagsOf env.authority st'.app.serveState msg = x'
      at halike ⊢
    cases halike with
    | error e => exact .error _
    | ok hr =>
      obtain ⟨hstate, hresponse⟩ := hr
      exact .ok ⟨{ h with
        serve := fun _ => hstate.store
        org := fun _ => hstate.org
        memory := fun _ => hstate.memory
        bandwidth := fun _ => hstate.bandwidth
        reputation := fun hp => (hreputation hp).elim },
        congrArg (Response.app ∘ Application.Response.serve) hresponse⟩

theorem Agree.handle_emissions (h : Agree S st st') (hclosed : Closed S)
    (hown : S .emissions = true) :
    st'.emissionsState = st.emissionsState ∧ st'.approvals = st.approvals ∧
      st'.identity = st.identity := by
  have hmemory := h.memory (hclosed .emissions .memory hown (by decide))
  have hfunds := h.funds (hclosed .emissions .funds hown (by decide))
  refine ⟨?_, ?_, h.identity (hclosed .emissions .identity hown (by decide))⟩
  · rw [State.emissionsState, h.emissions hown, hfunds.1]
    rfl
  · funext epoch
    rw [State.approvals, hmemory]
    rfl

theorem Agree.withEmissions (h : Agree S st st') (emissions : Emissions.State β) :
    Agree S (st.withEmissions emissions) (st'.withEmissions emissions) :=
  { h with
    emissions := fun _ => rfl
    funds := fun hp => ⟨rfl, (h.funds hp).2⟩ }

/-- A message for one of the parts is answered alike. -/
theorem Agree.handle (h : Agree S st st') (hclosed : Closed S) {msg : Msg}
    (hown : S (Input.msg msg : Input β γ).part = true) :
    Except.Alike (AgreeResult S) (handle env st msg) (handle env st' msg) := by
  cases msg with
  | app msg =>
    cases msg with
    | org msg => exact h.handle_org env hclosed hown msg
    | memory msg => exact h.handle_memory env hclosed hown msg
    | serve msg => exact h.handle_serve env hclosed hown msg
    | bandwidth msg =>
      have horg := h.org (hclosed .bandwidth .org hown (by decide))
      simp only [Node.handle, Application.handle, horg, h.bandwidth hown, markerRefuses]
      cases Bandwidth.setBandwidthOverrideMsg st.app.org st.app.bandwidth msg with
      | error e => exact .error _
      | ok bandwidth =>
        exact .ok ⟨{ h with org := fun _ => rfl, bandwidth := fun _ => rfl }, rfl⟩
  | bandwidthParams msg =>
    simp only [Node.handle, h.bandwidth hown]
    cases Bandwidth.updateParamsMsg env.authority st.app.bandwidth msg with
    | error e => exact .error _
    | ok bandwidth => exact .ok ⟨{ h with bandwidth := fun _ => rfl }, rfl⟩
  | reputation msg =>
    simp only [Node.handle, h.reputation hown]
    cases Reputation.handle env.authority st.app.reputation msg with
    | error e => exact .error _
    | ok r => exact .ok ⟨{ h with reputation := fun _ => rfl }, rfl⟩
  | mintDailyEmission msg =>
    obtain ⟨hstate, happrovals, -⟩ := h.handle_emissions hclosed hown
    simp only [Node.handle, hstate, happrovals]
    cases Emissions.mintDailyEmissionMsg env.bank env.authority st.approvals st.emissionsState msg with
    | error e => exact .error _
    | ok r => exact .ok ⟨h.withEmissions r.1, rfl⟩
  | claimContributorReward msg =>
    obtain ⟨hstate, -, hidentity⟩ := h.handle_emissions hclosed hown
    simp only [Node.handle, hstate, hidentity]
    cases Emissions.claimContributorReward env.bank env.ext.accAddressFromBech32 st.identity
        st.emissionsState msg with
    | error e => exact .error _
    | ok r => exact .ok ⟨h.withEmissions r.1, rfl⟩
  | emissionsParams msg =>
    simp only [Node.handle, h.emissions hown]
    cases Emissions.updateParams env.authority st.emissions msg with
    | error e => exact .error _
    | ok emissions => exact .ok ⟨{ h with emissions := fun _ => rfl }, rfl⟩
  | migrateIdentity blockHeight msg =>
    simp only [Node.handle, h.identity hown]
    cases Identity.migrateIdentity env.crypto.ed25519Verify env.ext.accAddressFromBech32 blockHeight
        st.identity msg with
    | error e => exact .error _
    | ok identity => exact .ok ⟨{ h with identity := fun _ => rfl }, rfl⟩
  | attestation msg =>
    simp only [Node.handle, h.attestation hown]
    cases msg.apply env.authority st.attestation with
    | error e => exact .error _
    | ok attestation => exact .ok ⟨{ h with attestation := fun _ => rfl }, rfl⟩

theorem Agree.epochEnd (h : Agree S st st') (hclosed : Closed S) (hown : S .memory = true)
    (n : Int64) : Agree S (epochEnd env st n) (epochEnd env st' n) := by
  have horg := hclosed .memory .org hown (by decide)
  have hfunds := hclosed .org .funds horg (by decide)
  have hemissions := hclosed .funds .emissions hfunds (by decide)
  obtain ⟨hstate, happrovals, -⟩ := h.handle_emissions hclosed hemissions
  have hmemory := h.memory hown
  unfold Node.epochEnd mintAtEpochEnd
  rw [hstate, happrovals]
  have hminted := h.withEmissions (Emissions.afterEpochEnd env.bank st.approvals st.emissionsState
    Emissions.weVibeEpochIdentifier n).1
  refine { hminted with memory := fun _ => ?_ }
  change (Memory.afterEpochEnd _ _ st'.app.memory _ n).1 = _
  rw [hmemory]
  rfl

theorem Agree.step (h : Agree S st st') (hclosed : Closed S) {input : Input β γ}
    (hown : S input.part = true) :
    Agree S ((chain env).next st input) ((chain env).next st' input) ∧
      (chain env).output st input = (chain env).output st' input := by
  cases input with
  | msg msg =>
    have halike := h.handle env hclosed hown
    change Agree S (deliver env st msg).1 (deliver env st' msg).1 ∧
      some (msg, (deliver env st msg).2) = some (msg, (deliver env st' msg).2)
    unfold deliver
    generalize Node.handle env st msg = x, Node.handle env st' msg = x' at halike ⊢
    cases halike with
    | error e => exact ⟨h, rfl⟩
    | ok hr =>
      refine ⟨hr.1, ?_⟩
      dsimp only
      rw [hr.2]
  | epochEnd n => exact ⟨h.epochEnd env hclosed hown n, rfl⟩
  | others bank feegrant => exact ⟨{ h with funds := fun _ => ⟨rfl, rfl⟩ }, rfl⟩

/-- Whatever else happens on the chain, parts that have all that they need come to what they come to
when they get their own inputs alone, and they answer as they answer then. -/
theorem parts_run_alone (hclosed : Closed S) (h : Agree S st st') (inputs : List (Input β γ)) :
    Agree S ((chain env).run st inputs)
        ((chain env).run st' (inputs.filter fun input => S input.part)) ∧
      (chain env).observed (fun input => S input.part) st inputs =
        (chain env).history st' (inputs.filter fun input => S input.part) := by
  refine Machine.run_purged (fun input => S input.part) ?_ ?_ h inputs
  · intro s t input hs hother
    refine hs.quiet hclosed ?_
    rw [hother]
    exact Bool.false_ne_true
  · intro s t input hs hown
    exact hs.step env hclosed hown

end Own

section Sample

/-- Everything but the serve traffic and what is known of people and sessions. -/
def Part.settled : Part → Bool
  | .serve | .bandwidth | .reputation | .attestation => false
  | _ => true

theorem closed_settled : Closed Part.settled := by
  have hneeds : ∀ p : Part, p.settled = true → ∀ q ∈ p.needs, q.settled = true := by
    intro p
    cases p <;> decide
  exact fun p q hp hq => hneeds p hp q hq

/-- The parameters of x/bandwidth are changed between the approval and the end of the epoch. -/
def sampleSettings : Input Ledger (List (Bytes × Bytes)) :=
  .msg (.bandwidthParams ⟨sampleEnv.authority, ⟨1, 1⟩⟩)

theorem sample_parts_alone :
    ((chain sampleEnv).run sampleStart [sampleSettings]).app.bandwidth.params = some ⟨1, 1⟩ ∧
      Agree Part.settled
        ((chain sampleEnv).run sampleStart (sampleInputs.take 3 ++ sampleSettings :: sampleInputs.drop 3))
        ((chain sampleEnv).run sampleStart sampleInputs) := by
  have hsame : Agree Part.settled sampleStart sampleStart :=
    ⟨fun _ => rfl, fun _ => rfl, fun _ => rfl, fun _ => rfl, fun _ => rfl, fun _ => rfl,
      fun _ => rfl, fun _ => rfl, fun _ => ⟨rfl, rfl⟩⟩
  exact ⟨by decide +kernel, (parts_run_alone sampleEnv closed_settled hsame
    (sampleInputs.take 3 ++ sampleSettings :: sampleInputs.drop 3)).1⟩

end Sample

end WeVibeChain.Node
