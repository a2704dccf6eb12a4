import WeVibeChain.AttestationKeeper
import WeVibeChain.EmissionsMsgServer
import WeVibeChain.IdentityAliases
import WeVibeChain.MemoryTotals
import WeVibeChain.PendingLimit
import WeVibeChain.Shared.Traces

/-!
# The node: all modules on one state

Every module of the application with its messages, on one state. The modules share
one bank. At the end of an epoch the hook of x/emissions runs before the hook of
x/memory; the number of the epoch comes from outside and may be any number.

The genesis of x/memory, x/bandwidth and x/attestation is never read: their modules
declare `InitGenesis` with another signature than the one that the module manager
looks for. So these three stores are empty when the chain starts, but for the marker
that the application leaves in every store. The count of pending commitments, which
has no end, takes the marker for one more of them.
-/

set_option autoImplicit false

namespace WeVibeChain.Application

/-- An accepted message of x/serve leaves the bank and the fee allowances alone. -/
theorem handle_serve_eq {β γ : Type} {env : Env β γ} {st st' : State β γ} {response : Response}
    {msg : Serve.Msg} (h : handle env st (.serve msg) = .ok (st', response)) :
    ∃ serve serveResponse,
      Serve.handle env.crypto env.scopeTagsOf env.authority st.serveState msg =
        .ok (serve, serveResponse) ∧
      st' = { st with
        serve := serve.store
        bandwidth := serve.bandwidth
        reputation := serve.reputation } := by
  have hframe := handle_serve h
  unfold handle at h
  dsimp only at h
  split at h
  · cases h
  · rename_i serve serveResponse hok
    obtain ⟨rfl, -⟩ := Prod.mk.inj (Except.ok.inj h)
    obtain ⟨-, -, -, -, horg, hmemory⟩ := hframe
    refine ⟨serve, serveResponse, hok, ?_⟩
    dsimp only at horg hmemory ⊢
    rw [horg, hmemory]

theorem handle_bandwidth_eq {β γ : Type} {env : Env β γ} {st st' : State β γ} {response : Response}
    {msg : Bandwidth.MsgSetBandwidthOverride}
    (h : handle env st (.bandwidth msg) = .ok (st', response)) :
    ∃ bandwidth, Bandwidth.setBandwidthOverrideMsg st.org st.bandwidth msg = .ok bandwidth ∧
      st' = { st with bandwidth := bandwidth } := by
  unfold handle at h
  dsimp only at h
  split at h
  · cases h
  · rename_i bandwidth hok
    obtain ⟨rfl, -⟩ := Prod.mk.inj (Except.ok.inj h)
    exact ⟨bandwidth, hok, rfl⟩

end WeVibeChain.Application

namespace WeVibeChain.Node

open Bytes

/-- What the application is given from outside. -/
structure Env (β γ : Type) extends Application.Env β γ where
  bank : BankKeeper β

structure State (β γ : Type) where
  app : Application.State β γ
  emissions : Emissions.Store
  identity : Identity.Store
  attestation : Attestation.Store

inductive Msg where
  | app (msg : Application.Msg)
  | bandwidthParams (msg : Bandwidth.MsgUpdateParams)
  | reputation (msg : Reputation.Msg)
  | mintDailyEmission (msg : Emissions.MsgMintDailyEmission)
  | claimContributorReward (msg : Emissions.MsgClaimContributorReward)
  | emissionsParams (msg : Emissions.MsgUpdateParams)
  | migrateIdentity (blockHeight : UInt64) (msg : Identity.MsgMigrateIdentity)
  | attestation (msg : Attestation.Msg)

inductive Error where
  | app (e : Application.Error)
  | bandwidth (e : Bandwidth.Error)
  | reputation (e : Reputation.Error)
  | emissions (e : Emissions.Error)
  | identity (e : Identity.Error)
  | attestation (e : Attestation.Error)

inductive Response where
  | app (response : Application.Response)
  | reputation (response : Reputation.Response)
  | emission (emission : Emissions.DailyEmission)
  | paid (payment : Emissions.Payment)
  | empty

section Delivery
variable {β γ : Type} (env : Env β γ)

def State.emissionsState (st : State β γ) : Emissions.State β := ⟨st.emissions, st.app.bank⟩

def State.withEmissions (st : State β γ) (emissions : Emissions.State β) : State β γ :=
  { st with emissions := emissions.store, app := { st.app with bank := emissions.bank } }

/-- `GetContributorsWithApprovalsInEpoch`, as x/emissions is given it. -/
def State.approvals (st : State β γ) (epoch : UInt64) : Option (OrderedMap Bytes UInt64) :=
  some (Memory.getContributorsWithApprovalsInEpoch st.app.memory epoch)

/-- With the marker there is no room left for the commitment. The limit is the last thing that a
submission is checked for. -/
def markerRefuses (memory : Memory.Store) : Application.Msg → Bool
  | .memory (.submitCommitment msg) =>
    (Memory.getParams memory).maxPendingPerOrg.toNat ≤ Memory.pendingCount memory msg.orgId + 1
  | _ => false

theorem submitCommitmentIn_marker (st : Memory.State) (msg : Memory.MsgSubmitCommitment) :
    Memory.submitCommitmentIn true st msg.commitment =
      (Memory.submitCommitment st msg.commitment).bind fun st' =>
        if markerRefuses st.store (.memory (.submitCommitment msg)) then .error .maxPendingExceeded
        else .ok st' := by
  simp [Memory.submitCommitmentIn_eq, markerRefuses, Memory.MsgSubmitCommitment.commitment]

def handle (st : State β γ) : Msg → Except Error (State β γ × Response)
  | .app msg =>
    match Application.handle env.toEnv st.app msg with
    | .error e => .error (.app e)
    | .ok (app, response) =>
      if markerRefuses st.app.memory msg then .error (.app (.memory .maxPendingExceeded))
      else .ok ({ st with app := app }, .app response)
  | .bandwidthParams msg =>
    match Bandwidth.updateParamsMsg env.authority st.app.bandwidth msg with
    | .error e => .error (.bandwidth e)
    | .ok bandwidth => .ok ({ st with app := { st.app with bandwidth := bandwidth } }, .empty)
  | .reputation msg =>
    match Reputation.handle env.authority st.app.reputation msg with
    | .error e => .error (.reputation e)
    | .ok (reputation, response) =>
      .ok ({ st with app := { st.app with reputation := reputation } }, .reputation response)
  | .mintDailyEmission msg =>
    match Emissions.mintDailyEmissionMsg env.bank env.authority st.approvals st.emissionsState msg with
    | .error e => .error (.emissions e)
    | .ok (emissions, emission) => .ok (st.withEmissions emissions, .emission emission)
  | .claimContributorReward msg =>
    match Emissions.claimContributorReward env.bank env.ext.accAddressFromBech32 st.identity
        st.emissionsState msg with
    | .error e => .error (.emissions e)
    | .ok (emissions, payment) => .ok (st.withEmissions emissions, .paid payment)
  | .emissionsParams msg =>
    match Emissions.updateParams env.authority st.emissions msg with
    | .error e => .error (.emissions e)
    | .ok emissions => .ok ({ st with emissions := emissions }, .empty)
  | .migrateIdentity blockHeight msg =>
    match Identity.migrateIdentity env.crypto.ed25519Verify env.ext.accAddressFromBech32 blockHeight
        st.identity msg with
    | .error e => .error (.identity e)
    | .ok identity => .ok ({ st with identity := identity }, .empty)
  | .attestation msg =>
    match msg.apply env.authority st.attestation with
    | .error e => .error (.attestation e)
    | .ok attestation => .ok ({ st with attestation := attestation }, .empty)

/-- A failed message leaves the state as it was. -/
def deliver (st : State β γ) (msg : Msg) : State β γ × Except Error Response :=
  match handle env st msg with
  | .error e => (st, .error e)
  | .ok (st', response) => (st', .ok response)

/-- The hook of x/emissions, which keeps what it wrote when it fails. -/
def mintAtEpochEnd (st : State β γ) (n : Int64) : State β γ :=
  st.withEmissions (Emissions.afterEpochEnd env.bank st.approvals st.emissionsState
    Emissions.weVibeEpochIdentifier n).1

/-- The hook of x/memory. -/
def memoryAtEpochEnd (st : State β γ) (n : Int64) : State β γ :=
  { st with app := { st.app with
      memory := (Memory.afterEpochEnd env.crypto.sha256 env.foreign st.app.memory
        Memory.weVibeEpochIdentifier n).1 } }

def epochEnd (st : State β γ) (n : Int64) : State β γ :=
  memoryAtEpochEnd env (mintAtEpochEnd env st n) n

/-- A message, the end of an epoch, or whatever the modules of the framework do to the balances
and the fee allowances. -/
inductive Input (β γ : Type) where
  | msg (msg : Msg)
  | epochEnd (n : Int64)
  | others (bank : β) (feegrant : γ)

abbrev Output := Option (Msg × Except Error Response)

def step (st : State β γ) : Input β γ → State β γ × Output
  | .msg msg => ((deliver env st msg).1, some (msg, (deliver env st msg).2))
  | .epochEnd n => (epochEnd env st n, none)
  | .others bank feegrant =>
    ({ st with app := { st.app with bank := bank, feegrant := feegrant } }, none)

def chain : Machine (State β γ) (Input β γ) Output := ⟨step env⟩

end Delivery

section Effects
variable {β γ : Type} {env : Env β γ} {st st' : State β γ}

/-- Everything that an input can do to the state. -/
inductive Changed (env : Env β γ) (st : State β γ) : Input β γ → State β γ → Prop
  | refused (msg : Msg) (e : Error) (failed : handle env st msg = .error e) :
      Changed env st (.msg msg) st
  | app (msg : Application.Msg) (app : Application.State β γ) (response : Application.Response)
      (accepted : Application.handle env.toEnv st.app msg = .ok (app, response)) :
      Changed env st (.msg (.app msg)) { st with app := app }
  | bandwidthParams (msg : Bandwidth.MsgUpdateParams) (bandwidth : Bandwidth.Store)
      (accepted : Bandwidth.updateParamsMsg env.authority st.app.bandwidth msg = .ok bandwidth) :
      Changed env st (.msg (.bandwidthParams msg))
        { st with app := { st.app with bandwidth := bandwidth } }
  | reputation (msg : Reputation.Msg) (reputation : Reputation.Store)
      (response : Reputation.Response)
      (accepted : Reputation.handle env.authority st.app.reputation msg =
        .ok (reputation, response)) :
      Changed env st (.msg (.reputation msg))
        { st with app := { st.app with reputation := reputation } }
  | minted (msg : Emissions.MsgMintDailyEmission) (emissions : Emissions.State β)
      (emission : Emissions.DailyEmission)
      (accepted : Emissions.mintDailyEmissionMsg env.bank env.authority st.approvals
        st.emissionsState msg = .ok (emissions, emission)) :
      Changed env st (.msg (.mintDailyEmission msg)) (st.withEmissions emissions)
  | claimed (msg : Emissions.MsgClaimContributorReward) (emissions : Emissions.State β)
      (payment : Emissions.Payment)
      (accepted : Emissions.claimContributorReward env.bank env.ext.accAddressFromBech32
        st.identity st.emissionsState msg = .ok (emissions, payment)) :
      Changed env st (.msg (.claimContributorReward msg)) (st.withEmissions emissions)
  | emissionsParams (msg : Emissions.MsgUpdateParams) (emissions : Emissions.Store)
      (accepted : Emissions.updateParams env.authority st.emissions msg = .ok emissions) :
      Changed env st (.msg (.emissionsParams msg)) { st with emissions := emissions }
  | migrated (blockHeight : UInt64) (msg : Identity.MsgMigrateIdentity) (identity : Identity.Store)
      (accepted : Identity.migrateIdentity env.crypto.ed25519Verify env.ext.accAddressFromBech32
        blockHeight st.identity msg = .ok identity) :
      Changed env st (.msg (.migrateIdentity blockHeight msg)) { st with identity := identity }
  | attestation (msg : Attestation.Msg) (attestation : Attestation.Store)
      (accepted : msg.apply env.authority st.attestation = .ok attestation) :
      Changed env st (.msg (.attestation msg)) { st with attestation := attestation }
  | epochEnd (n : Int64) : Changed env st (.epochEnd n) (epochEnd env st n)
  | others (bank : β) (feegrant : γ) :
      Changed env st (.others bank feegrant)
        { st with app := { st.app with bank := bank, feegrant := feegrant } }

theorem handle_changed {msg : Msg} {response : Response}
    (h : handle env st msg = .ok (st', response)) : Changed env st (.msg msg) st' := by
  unfold handle at h
  split at h <;> split at h
  case h_2 msg _ app appResponse hok =>
    split at h
    · cases h
    · cases h
      exact .app msg app appResponse hok
  all_goals cases h
  · rename_i msg _ bandwidth hok
    exact .bandwidthParams msg bandwidth hok
  · rename_i msg _ reputation reputationResponse hok
    exact .reputation msg reputation reputationResponse hok
  · rename_i msg _ emissions emission hok
    exact .minted msg emissions emission hok
  · rename_i msg _ emissions payment hok
    exact .claimed msg emissions payment hok
  · rename_i msg _ emissions hok
    exact .emissionsParams msg emissions hok
  · rename_i blockHeight msg _ identity hok
    exact .migrated blockHeight msg identity hok
  · rename_i msg _ attestation hok
    exact .attestation msg attestation hok

/-- A message is refused and changes nothing, or is accepted. -/
theorem deliver_cases (env : Env β γ) (st : State β γ) (msg : Msg) :
    (∃ e, handle env st msg = .error e ∧ deliver env st msg = (st, .error e)) ∨
      ∃ response, deliver env st msg = ((deliver env st msg).1, .ok response) ∧
        handle env st msg = .ok ((deliver env st msg).1, response) := by
  unfold deliver
  cases handle env st msg with
  | error e => exact Or.inl ⟨e, rfl, rfl⟩
  | ok r => exact Or.inr ⟨r.2, rfl, rfl⟩

theorem next_changed (env : Env β γ) (st : State β γ) (input : Input β γ) :
    Changed env st input ((chain env).next st input) := by
  cases input with
  | msg msg =>
    change Changed env st (.msg msg) (deliver env st msg).1
    rcases deliver_cases env st msg with ⟨e, hfailed, he⟩ | ⟨response, -, hok⟩
    · rw [he]
      exact .refused msg e hfailed
    · exact handle_changed hok
  | epochEnd n => exact .epochEnd n
  | others bank feegrant => exact .others bank feegrant

end Effects

section Projection
variable {β γ : Type} (env : Env β γ)

/-- What an input comes down to for the modules that `Counters` follows. -/
def toCounters (st : State β γ) : Input β γ → List (Counters.Input β γ)
  | .msg (.app msg) => if markerRefuses st.app.memory msg then [] else [.msg msg]
  | .msg (.reputation msg) => [.reputation msg]
  | .msg msg =>
    let app := (deliver env st msg).1.app
    [.others app.bandwidth app.bank app.feegrant]
  | .epochEnd n =>
    [.others st.app.bandwidth (mintAtEpochEnd env st n).app.bank st.app.feegrant, .epochEnd n]
  | .others bank feegrant => [.others st.app.bandwidth bank feegrant]

theorem deliver_app (st : State β γ) (msg : Application.Msg) :
    (deliver env st (.app msg)).1.app =
      (Counters.chain env.toEnv).run st.app (toCounters env st (.msg (.app msg))) := by
  by_cases hmarker : markerRefuses st.app.memory msg = true
  · simp only [toCounters, if_pos hmarker, Machine.run_nil]
    cases happ : Application.handle env.toEnv st.app msg with
    | error e => simp only [deliver, handle, happ]
    | ok r => simp only [deliver, handle, happ, if_pos hmarker]
  · simp only [toCounters, if_neg hmarker]
    change _ = (Application.deliver env.toEnv st.app msg).1
    cases happ : Application.handle env.toEnv st.app msg with
    | error e => simp only [deliver, handle, Application.deliver, happ]
    | ok r => simp only [deliver, handle, Application.deliver, happ, if_neg hmarker]

theorem deliver_reputation (st : State β γ) (msg : Reputation.Msg) :
    (deliver env st (.reputation msg)).1 = { st with app := { st.app with
      reputation := (Reputation.deliver env.authority st.app.reputation msg).1 } } := by
  cases hreputation : Reputation.handle env.authority st.app.reputation msg with
  | error e => simp only [deliver, handle, Reputation.deliver, hreputation]
  | ok r => simp only [deliver, handle, Reputation.deliver, hreputation]

theorem next_app (st : State β γ) (input : Input β γ) :
    ((chain env).next st input).app =
      (Counters.chain env.toEnv).run st.app (toCounters env st input) := by
  cases input with
  | msg msg =>
    change (deliver env st msg).1.app = _
    -- The messages of the other modules change the bank and x/bandwidth at most.
    have hother : (deliver env st msg).1.app = { st.app with
        bandwidth := (deliver env st msg).1.app.bandwidth
        bank := (deliver env st msg).1.app.bank
        feegrant := (deliver env st msg).1.app.feegrant } ∨
        (∃ m, msg = .app m) ∨ ∃ m, msg = .reputation m := by
      have hchanged := next_changed env st (.msg msg)
      change Changed env st (.msg msg) (deliver env st msg).1 at hchanged
      generalize (deliver env st msg).1 = st' at hchanged ⊢
      cases hchanged with
      | app m => exact Or.inr (Or.inl ⟨m, rfl⟩)
      | reputation m => exact Or.inr (Or.inr ⟨m, rfl⟩)
      | _ => exact Or.inl rfl
    cases msg with
    | app m => exact deliver_app env st m
    | reputation m => exact congrArg State.app (deliver_reputation env st m)
    | _ =>
      obtain h | ⟨m, hm⟩ | ⟨m, hm⟩ := hother
      · exact h
      · cases hm
      · cases hm
  | epochEnd n => rfl
  | others bank feegrant => rfl

theorem next_evolution (st : State β γ) (input : Input β γ) :
    ((chain env).next st input).app.org = st.app.org ∨
      Orgs.Evolution st.app.org ((chain env).next st input).app.org := by
  have hchanged := next_changed env st input
  generalize (chain env).next st input = st' at hchanged ⊢
  cases hchanged with
  | app msg app response accepted => exact Application.handle_evolution accepted
  | _ => exact Or.inl rfl

/-- A message of x/memory or the end of an epoch, and nothing else, changes its store. -/
theorem next_memory (st : State β γ) (input : Input β γ) :
    ((chain env).next st input).app.memory = st.app.memory ∨
      (∃ msg memory, Memory.handle env.crypto env.authority st.app.memoryState msg = .ok memory ∧
        ((chain env).next st input).app.memory = memory.store) ∨
      ∃ n, input = .epochEnd n ∧ ((chain env).next st input).app.memory =
        (Memory.afterEpochEnd env.crypto.sha256 env.foreign st.app.memory
          Memory.weVibeEpochIdentifier n).1 := by
  have hchanged := next_changed env st input
  generalize (chain env).next st input = st' at hchanged ⊢
  cases hchanged with
  | app msg app response accepted =>
    cases msg with
    | org msg =>
      obtain ⟨-, -, -, hmemory, -⟩ := Application.handle_org accepted
      exact Or.inl hmemory
    | memory msg =>
      obtain ⟨memory, hok, rfl⟩ := Application.handle_memory_eq accepted
      exact Or.inr (Or.inl ⟨msg, memory, hok, rfl⟩)
    | serve msg =>
      obtain ⟨serve, serveResponse, -, rfl⟩ := Application.handle_serve_eq accepted
      exact Or.inl rfl
    | bandwidth msg =>
      obtain ⟨bandwidth, rfl⟩ := Application.handle_bandwidth accepted
      exact Or.inl rfl
  | epochEnd n => exact Or.inr (Or.inr ⟨n, rfl, rfl⟩)
  | _ => exact Or.inl rfl

/-- Messages of x/serve, and nothing else, change its store. They may use bandwidth; beside them an
override or the parameters of x/bandwidth can change. -/
theorem next_serve (st : State β γ) (input : Input β γ) :
    (∃ msg serve response, input = .msg (.app (.serve msg)) ∧
      Serve.handle env.crypto env.scopeTagsOf env.authority st.app.serveState msg =
        .ok (serve, response) ∧
      ((chain env).next st input).app.serve = serve.store ∧
      ((chain env).next st input).app.bandwidth = serve.bandwidth) ∨
    ((chain env).next st input).app.serve = st.app.serve ∧
      (((chain env).next st input).app.bandwidth = st.app.bandwidth ∨
        (∃ msg, Bandwidth.setBandwidthOverrideMsg st.app.org st.app.bandwidth msg =
          .ok ((chain env).next st input).app.bandwidth) ∨
        ∃ msg, Bandwidth.updateParamsMsg env.authority st.app.bandwidth msg =
          .ok ((chain env).next st input).app.bandwidth) := by
  have hchanged := next_changed env st input
  generalize (chain env).next st input = st' at hchanged ⊢
  cases hchanged with
  | app msg app response accepted =>
    cases msg with
    | org msg =>
      obtain ⟨org, orgResponse, -, -, rfl⟩ := Application.handle_org_eq accepted
      exact Or.inr ⟨rfl, Or.inl rfl⟩
    | memory msg =>
      obtain ⟨memory, -, rfl⟩ := Application.handle_memory_eq accepted
      exact Or.inr ⟨rfl, Or.inl rfl⟩
    | serve msg =>
      obtain ⟨serve, serveResponse, hok, rfl⟩ := Application.handle_serve_eq accepted
      exact Or.inl ⟨msg, serve, serveResponse, rfl, hok, rfl, rfl⟩
    | bandwidth msg =>
      obtain ⟨bandwidth, hok, rfl⟩ := Application.handle_bandwidth_eq accepted
      exact Or.inr ⟨rfl, Or.inr (Or.inl ⟨msg, hok⟩)⟩
  | bandwidthParams msg bandwidth accepted =>
    exact Or.inr ⟨rfl, Or.inr (Or.inr ⟨msg, accepted⟩)⟩
  | _ => exact Or.inr ⟨rfl, Or.inl rfl⟩

end Projection

section Sample

open EpochHooks (sampleApprove sampleContributor sampleHash sampleSubmit)
open Orgs (formatOrgID sampleAddress)

/-- The addresses and signatures of the samples, with accounts that can always pay. -/
def sampleEnv : Env Ledger (List (Bytes × Bytes)) where
  ext :=
    { Orgs.sampleExternals with
      sendCoinsFromAccountToModule := fun bank _ _ _ => some bank
      burnCoins := fun bank _ _ => some bank
      sendCoins := fun bank _ _ _ => some bank }
  crypto := { Counters.sampleEnv.crypto with
    ed25519Verify := fun key body signature =>
      Counters.sampleEnv.crypto.ed25519Verify key body signature ||
        Identity.sampleVerify key body signature }
  authority := Counters.sampleEnv.authority
  foreign := Counters.sampleEnv.foreign
  scopeTagsOf := Counters.sampleEnv.scopeTagsOf
  bank := Ledger.keeper

def sampleStart : State Ledger (List (Bytes × Bytes)) where
  app := ⟨{}, {}, {}, {}, {}, {}, []⟩
  emissions := Emissions.moduleInitGenesis {} Emissions.defaultGenesis
  identity := {}
  attestation := {}

/-- A memory is approved in an org of its own before the first epoch ends. -/
def sampleInputs : List (Input Ledger (List (Bytes × Bytes))) :=
  [.msg (.app (.org (.registerOrg { Orgs.sampleRegister with leader := sampleContributor }))),
    .msg (.app (.memory (.submitCommitment
      { sampleSubmit with signer := sampleAddress 0, orgId := formatOrgID 0 }))),
    .msg (.app (.memory (.approveMemory
      { sampleApprove with
        signer := sampleAddress 0
        orgId := formatOrgID 0
        contributorSig := Counters.sampleSignature }))),
    .epochEnd 1, .epochEnd 2]

/-- In the end a passkey is bound to the wallet of the leader. -/
def sampleSigned : List (Input Ledger (List (Bytes × Bytes))) :=
  sampleInputs ++ [.msg (.migrateIdentity 1 Identity.sampleMigration)]

end Sample

end WeVibeChain.Node
