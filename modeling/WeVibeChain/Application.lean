import WeVibeChain.MemoryAuthority
import WeVibeChain.OrgRegistry
import WeVibeChain.ServeAuthority

/-!
# The modules together

Messages of x/org, x/memory, x/serve and x/bandwidth act on one state, in which
the org, memory and bandwidth stores are shared. Between them an epoch may end,
and the modules that are not followed here may change what is theirs.
-/

set_option autoImplicit false

namespace WeVibeChain.Application

open Bytes

/-- What the modules are given from outside. -/
structure Env (β γ : Type) where
  ext : Orgs.Externals β γ
  crypto : Crypto
  authority : Bytes
  foreign : Memory.Entry → Option Memory.StoredMemoryCommitment
  scopeTagsOf : Bytes → Option (OrderedMap Bytes Bytes)

structure State (β γ : Type) where
  org : Orgs.Store
  memory : Memory.Store
  serve : Serve.Store
  bandwidth : Bandwidth.Store
  reputation : Reputation.Store
  bank : β
  feegrant : γ

inductive Msg where
  | org (msg : Orgs.Msg)
  | memory (msg : Memory.Msg)
  | serve (msg : Serve.Msg)
  | bandwidth (msg : Bandwidth.MsgSetBandwidthOverride)

inductive Error where
  | org (e : Orgs.Error)
  | memory (e : Memory.Error)
  | serve (e : Serve.Error)
  | bandwidth (e : Bandwidth.Error)

inductive Response where
  | org (response : Orgs.Response)
  | memory
  | serve (response : Serve.Response)
  | bandwidth

section Delivery
variable {β γ : Type} (env : Env β γ)

def State.orgState (st : State β γ) : Orgs.State β γ := ⟨st.org, st.bank, st.feegrant⟩

def State.memoryState (st : State β γ) : Memory.State := ⟨st.memory, st.org, st.reputation⟩

def State.serveState (st : State β γ) : Serve.State :=
  ⟨st.serve, st.org, st.memory, st.bandwidth, st.reputation⟩

def handle (st : State β γ) : Msg → Except Error (State β γ × Response)
  | .org msg =>
    match Orgs.handle env.ext env.authority st.orgState msg with
    | .error e => .error (.org e)
    | .ok (st', response) =>
      .ok ({ st with org := st'.store, bank := st'.bank, feegrant := st'.feegrant }, .org response)
  | .memory msg =>
    match Memory.handle env.crypto env.authority st.memoryState msg with
    | .error e => .error (.memory e)
    | .ok st' =>
      .ok ({ st with memory := st'.store, org := st'.org, reputation := st'.reputation }, .memory)
  | .serve msg =>
    match Serve.handle env.crypto env.scopeTagsOf env.authority st.serveState msg with
    | .error e => .error (.serve e)
    | .ok (st', response) =>
      .ok ({ st with
        serve := st'.store
        org := st'.org
        memory := st'.memory
        bandwidth := st'.bandwidth
        reputation := st'.reputation }, .serve response)
  | .bandwidth msg =>
    match Bandwidth.setBandwidthOverrideMsg st.org st.bandwidth msg with
    | .error e => .error (.bandwidth e)
    | .ok bandwidth => .ok ({ st with bandwidth := bandwidth }, .bandwidth)

/-- A failed message leaves the state as it was. -/
def deliver (st : State β γ) (msg : Msg) : State β γ × Except Error Response :=
  match handle env st msg with
  | .error e => (st, .error e)
  | .ok (st', response) => (st', .ok response)

inductive Input (β γ : Type) where
  | msg (msg : Msg)
  | epochEnd (n : Int64)
  | others (bandwidth : Bandwidth.Store) (reputation : Reputation.Store) (bank : β) (feegrant : γ)

/-- The output of a message is the message with its result. -/
def step (st : State β γ) : Input β γ → State β γ × Option (Msg × Except Error Response)
  | .msg msg => ((deliver env st msg).1, some (msg, (deliver env st msg).2))
  | .epochEnd n =>
    ({ st with
      memory := (Memory.afterEpochEnd env.crypto.sha256 env.foreign st.memory
        Memory.weVibeEpochIdentifier n).1 }, none)
  | .others bandwidth reputation bank feegrant =>
    ({ st with
      bandwidth := bandwidth
      reputation := reputation
      bank := bank
      feegrant := feegrant }, none)

def chain : Machine (State β γ) (Input β γ) (Option (Msg × Except Error Response)) := ⟨step env⟩

end Delivery

section Effects
variable {β γ : Type} {env : Env β γ} {st st' : State β γ} {response : Response}

/-- A message is refused and changes nothing, or is accepted. -/
theorem deliver_cases (env : Env β γ) (st : State β γ) (msg : Msg) :
    (∃ e, deliver env st msg = (st, .error e)) ∨
      ∃ response, deliver env st msg = ((deliver env st msg).1, .ok response) ∧
        handle env st msg = .ok ((deliver env st msg).1, response) := by
  unfold deliver
  cases handle env st msg with
  | error e => exact Or.inl ⟨e, rfl⟩
  | ok r => exact Or.inr ⟨r.2, rfl, rfl⟩

theorem handle_org_eq {msg : Orgs.Msg} (h : handle env st (.org msg) = .ok (st', response)) :
    ∃ (org : Orgs.State β γ) (orgResponse : Orgs.Response), response = .org orgResponse ∧
      Orgs.Stored env.ext env.authority st.org msg orgResponse org.store ∧
      st' = { st with org := org.store, bank := org.bank, feegrant := org.feegrant } := by
  unfold handle at h
  dsimp only at h
  split at h
  · cases h
  · rename_i org orgResponse hok
    obtain ⟨rfl, rfl⟩ := Prod.mk.inj (Except.ok.inj h)
    exact ⟨org, orgResponse, rfl, Orgs.handle_stored hok, rfl⟩

theorem handle_org {msg : Orgs.Msg} (h : handle env st (.org msg) = .ok (st', response)) :
    ∃ orgResponse, response = .org orgResponse ∧
      Orgs.Stored env.ext env.authority st.org msg orgResponse st'.org ∧
      st'.memory = st.memory ∧ st'.serve = st.serve := by
  obtain ⟨org, orgResponse, hresponse, hstored, rfl⟩ := handle_org_eq h
  exact ⟨orgResponse, hresponse, hstored, rfl, rfl⟩

theorem handle_memory_eq {msg : Memory.Msg}
    (h : handle env st (.memory msg) = .ok (st', response)) :
    ∃ memory, Memory.handle env.crypto env.authority st.memoryState msg = .ok memory ∧
      st' = { st with
        memory := memory.store
        org := memory.org
        reputation := memory.reputation } := by
  unfold handle at h
  dsimp only at h
  split at h
  · cases h
  · rename_i memory hok
    obtain ⟨rfl, -⟩ := Prod.mk.inj (Except.ok.inj h)
    exact ⟨memory, hok, rfl⟩

theorem handle_memory {msg : Memory.Msg} (h : handle env st (.memory msg) = .ok (st', response)) :
    ∃ memory, Memory.handle env.crypto env.authority st.memoryState msg = .ok memory ∧
      st'.memory = memory.store ∧ st'.org = memory.org ∧ st'.serve = st.serve := by
  obtain ⟨memory, hok, rfl⟩ := handle_memory_eq h
  exact ⟨memory, hok, rfl, rfl, rfl⟩

/-- Of the org store x/memory changes at most the counters in one record. -/
theorem handle_memory_org {msg : Memory.Msg} (h : handle env st (.memory msg) = .ok (st', response)) :
    st'.org = st.org ∨ ∃ orgID, Orgs.CountersChanged orgID st.org st'.org := by
  obtain ⟨memory, hok, -, horg, -⟩ := handle_memory h
  rw [horg]
  cases hrequest : msg.request with
  | none => exact Or.inl (Memory.handle_org hok hrequest)
  | some request =>
    obtain ⟨-, -, hsame | hcounters⟩ := Memory.handle_request hok hrequest
    · exact Or.inl hsame
    · exact Or.inr ⟨request.1, hcounters⟩

theorem handle_serve {msg : Serve.Msg} (h : handle env st (.serve msg) = .ok (st', response)) :
    ∃ serve serveResponse,
      Serve.handle env.crypto env.scopeTagsOf env.authority st.serveState msg =
        .ok (serve, serveResponse) ∧
      st'.serve = serve.store ∧ st'.org = st.org ∧ st'.memory = st.memory := by
  unfold handle at h
  dsimp only at h
  split at h
  · cases h
  · rename_i serve serveResponse hok
    obtain ⟨rfl, -⟩ := Prod.mk.inj (Except.ok.inj h)
    have hchanges := Serve.deliver_changes env.crypto env.scopeTagsOf env.authority st.serveState msg
    rw [Serve.deliver, hok] at hchanges
    exact ⟨serve, serveResponse, hok, rfl, hchanges.2.2, hchanges.2.1⟩

theorem handle_bandwidth {msg : Bandwidth.MsgSetBandwidthOverride}
    (h : handle env st (.bandwidth msg) = .ok (st', response)) :
    ∃ bandwidth, st' = { st with bandwidth := bandwidth } := by
  unfold handle at h
  dsimp only at h
  split at h
  · cases h
  · rename_i bandwidth _
    obtain ⟨rfl, -⟩ := Prod.mk.inj (Except.ok.inj h)
    exact ⟨bandwidth, rfl⟩

/-- Whatever happens to the org store is one of the changes known of it. -/
theorem handle_evolution {msg : Msg} (h : handle env st msg = .ok (st', response)) :
    st'.org = st.org ∨ Orgs.Evolution st.org st'.org := by
  cases msg with
  | org msg =>
    obtain ⟨orgResponse, -, hstored, -⟩ := handle_org h
    exact Or.inr hstored.evolution
  | memory msg =>
    rcases handle_memory_org h with hsame | ⟨orgID, hcounters⟩
    · exact Or.inl hsame
    · exact Or.inr hcounters.evolution
  | serve msg =>
    obtain ⟨serve, serveResponse, -, -, horg, -⟩ := handle_serve h
    exact Or.inl horg
  | bandwidth msg =>
    obtain ⟨bandwidth, rfl⟩ := handle_bandwidth h
    exact Or.inl rfl

theorem next_evolution (env : Env β γ) (st : State β γ) (input : Input β γ) :
    ((chain env).next st input).org = st.org ∨
      Orgs.Evolution st.org ((chain env).next st input).org := by
  cases input with
  | msg msg =>
    rcases deliver_cases env st msg with ⟨e, he⟩ | ⟨response, -, hok⟩
    · exact Or.inl (congrArg (fun r => r.1.org) he)
    · exact handle_evolution hok
  | epochEnd n => exact Or.inl rfl
  | others bandwidth reputation bank feegrant => exact Or.inl rfl

theorem governed_run (env : Env β γ) (params : Option Orgs.Params) (start : State β γ)
    (inputs : List (Input β γ)) :
    Orgs.Governed ((chain env).run { start with org := { params := params } } inputs).org :=
  (chain env).run_always (I := fun st => Orgs.Governed st.org)
    (fun st input hs => hs.kept (next_evolution env st input)) (Orgs.governed_empty params) inputs

end Effects

end WeVibeChain.Application
