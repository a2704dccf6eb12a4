import WeVibeChain.OrgKeeper
import WeVibeChain.Shared.Words

/-!
# x/bandwidth: serve and memory quotas

An org's quota is kept for each epoch number a caller names. The first use of a
number fixes the caps of that number: the org's override if there is one,
otherwise the defaults. Later changes of the override or the defaults leave a
state that already exists as it is.
-/

set_option autoImplicit false

namespace WeVibeChain.Bandwidth

open Bytes

inductive Error where
  | invalidOrgID
  | memoryBandwidthExhausted
  | serveBandwidthExhausted
  | invalidCap
  | unauthorized
  | orgNotFound
  | signerEmpty
  | authorityEmpty
  deriving DecidableEq, Repr

def Error.text : Error → String
  | invalidOrgID => "invalid org ID"
  | memoryBandwidthExhausted => "memory bandwidth exhausted for this epoch"
  | serveBandwidthExhausted => "serve bandwidth exhausted for this epoch"
  | invalidCap => "bandwidth cap must be greater than zero"
  | unauthorized => "unauthorized"
  | orgNotFound => "org not found"
  | signerEmpty => "signer cannot be empty"
  | authorityEmpty => "authority cannot be empty"

structure BandwidthState where
  orgID : Bytes
  epoch : UInt64
  memoryUsed : UInt64
  memoryCap : UInt64
  serveUsed : UInt64
  serveCap : UInt64
  deriving DecidableEq

def newBandwidthState (orgID : Bytes) (epoch memoryCap serveCap : UInt64) : BandwidthState :=
  ⟨orgID, epoch, 0, memoryCap, 0, serveCap⟩

structure BandwidthOverride where
  orgID : Bytes
  memoryCap : UInt64
  serveCap : UInt64
  deriving DecidableEq

structure Params where
  defaultMemoryCapPerEpoch : UInt64
  defaultServeCapPerEpoch : UInt64
  deriving DecidableEq

def defaultParams : Params := ⟨10000, 50000⟩

def stateKey (orgID : Bytes) (epoch : UInt64) : Bytes :=
  ascii "state/" ++ orgID ++ slash :: formatUint epoch

def overrideKey (orgID : Bytes) : Bytes := ascii "override/" ++ orgID

theorem stateKey_inj {o o' : Bytes} {n n' : UInt64} :
    stateKey o n = stateKey o' n' ↔ o = o' ∧ n = n' := by
  unfold stateKey
  rw [append_cons_inj_of_notMem (slash_notMem_formatUint n) (slash_notMem_formatUint n')]
  simp

structure Store where
  state : OrderedMap Bytes BandwidthState := ∅
  override : OrderedMap Bytes BandwidthOverride := ∅
  params : Option Params := none
  deriving DecidableEq

section Keeper
variable (s : Store) (orgID : Bytes) (epoch : UInt64)

def getParams : Params := s.params.getD defaultParams

/-- The caps a state created now would get, memory first. -/
def currentCaps : UInt64 × UInt64 :=
  match s.override.get (overrideKey orgID) with
  | some override => (override.memoryCap, override.serveCap)
  | none => ((getParams s).defaultMemoryCapPerEpoch, (getParams s).defaultServeCapPerEpoch)

def getOrInitBandwidthState : Store × BandwidthState :=
  match s.state.get (stateKey orgID epoch) with
  | some state => (s, state)
  | none =>
    let state := newBandwidthState orgID epoch (currentCaps s orgID).1 (currentCaps s orgID).2
    ({ s with state := s.state.set (stateKey orgID epoch) state }, state)

def consumeMemoryBandwidth : Except Error Store :=
  let (s', state) := getOrInitBandwidthState s orgID epoch
  if state.memoryUsed ≥ state.memoryCap then .error .memoryBandwidthExhausted
  else
    .ok { s' with
      state := s'.state.set (stateKey orgID epoch)
        { state with memoryUsed := state.memoryUsed + 1 } }

/-- The sum in the comparison is a 64-bit word. -/
def consumeServeBandwidth (count : UInt64) : Except Error Store :=
  let (s', state) := getOrInitBandwidthState s orgID epoch
  if state.serveUsed + count > state.serveCap then .error .serveBandwidthExhausted
  else
    .ok { s' with
      state := s'.state.set (stateKey orgID epoch)
        { state with serveUsed := state.serveUsed + count } }

def setBandwidthOverride (memoryCap serveCap : UInt64) : Store :=
  { s with override := s.override.set (overrideKey orgID) ⟨orgID, memoryCap, serveCap⟩ }

def deleteBandwidthOverride : Store :=
  { s with override := s.override.delete (overrideKey orgID) }

/-- Memory first. A state that is missing is created by the question. -/
def getRemainingBandwidth : Store × UInt64 × UInt64 :=
  let (s', state) := getOrInitBandwidthState s orgID epoch
  (s', state.memoryCap - state.memoryUsed, state.serveCap - state.serveUsed)

end Keeper

section Messages

structure MsgSetBandwidthOverride where
  signer : Bytes
  orgId : Bytes
  memoryCap : UInt64
  serveCap : UInt64
  deriving DecidableEq

def MsgSetBandwidthOverride.validateBasic (m : MsgSetBandwidthOverride) : Except Error Unit :=
  if m.signer = [] then .error .signerEmpty
  else if m.orgId = [] then .error .invalidOrgID
  else if m.memoryCap = 0 ∧ m.serveCap = 0 then .error .invalidCap
  else .ok ()

structure MsgUpdateParams where
  authority : Bytes
  params : Params
  deriving DecidableEq

def setBandwidthOverrideMsg (org : Orgs.Store) (s : Store) (msg : MsgSetBandwidthOverride) :
    Except Error Store :=
  match msg.validateBasic with
  | .error e => .error e
  | .ok () =>
    if Orgs.hasOrg org msg.orgId = false then .error .orgNotFound
    else if Orgs.isLeader org msg.orgId msg.signer = false then .error .unauthorized
    else .ok (setBandwidthOverride s msg.orgId msg.memoryCap msg.serveCap)

def updateParamsMsg (authority : Bytes) (s : Store) (msg : MsgUpdateParams) : Except Error Store :=
  if msg.authority ≠ authority then .error .unauthorized
  else if msg.authority = [] then .error .authorityEmpty
  else .ok { s with params := some msg.params }

theorem updateParamsMsg_ok {authority : Bytes} {s s' : Store} {msg : MsgUpdateParams}
    (h : updateParamsMsg authority s msg = .ok s') : s' = { s with params := some msg.params } := by
  unfold updateParamsMsg at h
  split at h
  · cases h
  · split at h
    · cases h
    · exact (Except.ok.inj h).symm

end Messages

section Effects
variable {s s' : Store} {orgID : Bytes} {epoch count : UInt64}

/-- The quota state of the org for the epoch number, stored or about to be created. -/
def quota (s : Store) (orgID : Bytes) (epoch : UInt64) : BandwidthState :=
  (getOrInitBandwidthState s orgID epoch).2

theorem getRemainingBandwidth_eq (s : Store) (orgID : Bytes) (epoch : UInt64) :
    (getRemainingBandwidth s orgID epoch).2 =
      ((quota s orgID epoch).memoryCap - (quota s orgID epoch).memoryUsed,
        (quota s orgID epoch).serveCap - (quota s orgID epoch).serveUsed) := rfl

theorem getOrInitBandwidthState_frame (s : Store) (orgID : Bytes) (epoch : UInt64) :
    ∃ state, (getOrInitBandwidthState s orgID epoch).1 = { s with state := state } ∧
      ∀ key, key ≠ stateKey orgID epoch → state.get key = s.state.get key := by
  unfold getOrInitBandwidthState
  split
  · exact ⟨s.state, rfl, fun _ _ => rfl⟩
  · exact ⟨_, rfl, fun key hkey => OrderedMap.get_set_of_ne _ _ hkey⟩

/-- An accepted use adds to the quota of its org and epoch number and to nothing else. -/
theorem consumeServeBandwidth_ok (h : consumeServeBandwidth s orgID epoch count = .ok s') :
    (quota s orgID epoch).serveUsed + count ≤ (quota s orgID epoch).serveCap ∧
      ∃ state, s' = { s with state := state } ∧
        state.get (stateKey orgID epoch) = some { quota s orgID epoch with
          serveUsed := (quota s orgID epoch).serveUsed + count } ∧
        ∀ key, key ≠ stateKey orgID epoch → state.get key = s.state.get key := by
  obtain ⟨state, hstate, hother⟩ := getOrInitBandwidthState_frame s orgID epoch
  unfold consumeServeBandwidth at h
  simp only [hstate] at h
  change (if (quota s orgID epoch).serveUsed + count > (quota s orgID epoch).serveCap then _
    else _) = _ at h
  split at h
  · cases h
  · rename_i hle
    refine ⟨UInt64.not_lt.mp hle, _, (Except.ok.inj h).symm, OrderedMap.get_set_self _ _ _, ?_⟩
    intro key hkey
    exact (OrderedMap.get_set_of_ne _ _ hkey).trans (hother key hkey)

theorem quota_of_state {state : BandwidthState}
    (h : s.state.get (stateKey orgID epoch) = some state) : quota s orgID epoch = state := by
  unfold quota getOrInitBandwidthState
  rw [h]

theorem quota_congr
    (hstate : s'.state.get (stateKey orgID epoch) = s.state.get (stateKey orgID epoch))
    (hcaps : currentCaps s' orgID = currentCaps s orgID) :
    quota s' orgID epoch = quota s orgID epoch := by
  unfold quota getOrInitBandwidthState
  rw [hstate, hcaps]
  split <;> rfl

/-- The quota after an accepted use. -/
theorem quota_consume (h : consumeServeBandwidth s orgID epoch count = .ok s') :
    quota s' orgID epoch = { quota s orgID epoch with
      serveUsed := (quota s orgID epoch).serveUsed + count } := by
  obtain ⟨-, state, rfl, hself, -⟩ := consumeServeBandwidth_ok h
  exact quota_of_state hself

/-- The serve quotas of the org, used and cap, are the same in the two stores for every epoch
number, and so are the caps of numbers not used yet. -/
def SameServeQuota (orgID : Bytes) (s s' : Store) : Prop :=
  currentCaps s' orgID = currentCaps s orgID ∧
    ∀ epoch, (quota s' orgID epoch).serveUsed = (quota s orgID epoch).serveUsed ∧
      (quota s' orgID epoch).serveCap = (quota s orgID epoch).serveCap

theorem consumeMemoryBandwidth_ok (h : consumeMemoryBandwidth s orgID epoch = .ok s') :
    ∃ state, s' = { s with state := state } ∧
      state.get (stateKey orgID epoch) = some { quota s orgID epoch with
        memoryUsed := (quota s orgID epoch).memoryUsed + 1 } ∧
      ∀ key, key ≠ stateKey orgID epoch → state.get key = s.state.get key := by
  obtain ⟨state, hstate, hother⟩ := getOrInitBandwidthState_frame s orgID epoch
  unfold consumeMemoryBandwidth at h
  simp only [hstate] at h
  split at h
  · cases h
  · refine ⟨_, (Except.ok.inj h).symm, OrderedMap.get_set_self _ _ _, ?_⟩
    intro key hkey
    exact (OrderedMap.get_set_of_ne _ _ hkey).trans (hother key hkey)

theorem consumeMemoryBandwidth_lt (h : consumeMemoryBandwidth s orgID epoch = .ok s') :
    (quota s orgID epoch).memoryUsed < (quota s orgID epoch).memoryCap := by
  unfold consumeMemoryBandwidth at h
  change (if (quota s orgID epoch).memoryUsed ≥ (quota s orgID epoch).memoryCap then _
    else _) = _ at h
  split at h
  · cases h
  · rename_i hlt
    exact UInt64.not_le.mp hlt

end Effects

section OneOrg

/-- The two stores hold the same for one org. -/
structure SameFor (orgID : Bytes) (s s' : Store) : Prop where
  state : ∀ epoch, s'.state.get (stateKey orgID epoch) = s.state.get (stateKey orgID epoch)
  override : s'.override.get (overrideKey orgID) = s.override.get (overrideKey orgID)
  params : s'.params = s.params

variable {s s' t : Store} {orgID : Bytes}

theorem SameFor.refl (orgID : Bytes) (s : Store) : SameFor orgID s s :=
  ⟨fun _ => rfl, rfl, rfl⟩

theorem SameFor.symm (h : SameFor orgID s s') : SameFor orgID s' s :=
  ⟨fun epoch => (h.state epoch).symm, h.override.symm, h.params.symm⟩

theorem SameFor.quota_eq (h : SameFor orgID s s') (epoch : UInt64) :
    quota s' orgID epoch = quota s orgID epoch := by
  apply quota_congr (h.state epoch)
  unfold currentCaps getParams
  rw [h.override, h.params]

/-- The answer to a use of the quota depends on the quota alone. -/
theorem consumeServeBandwidth_eq_error_iff {epoch count : UInt64} {e : Error} :
    consumeServeBandwidth s orgID epoch count = .error e ↔
      (quota s orgID epoch).serveUsed + count > (quota s orgID epoch).serveCap ∧
        e = .serveBandwidthExhausted := by
  unfold consumeServeBandwidth
  change (if (quota s orgID epoch).serveUsed + count > (quota s orgID epoch).serveCap then _
    else _) = _ ↔ _
  split
  · rename_i hexceeded
    constructor
    · intro h
      exact ⟨hexceeded, (Except.error.inj h).symm⟩
    · intro hall
      obtain ⟨-, rfl⟩ := hall
      rfl
  · rename_i hwithin
    exact ⟨nofun, fun h => absurd h.1 hwithin⟩

/-- A use that does not wrap can be made in two parts. -/
theorem consumeServeBandwidth_split {epoch : UInt64} {m n : Nat}
    (hfits : (quota s orgID epoch).serveUsed.toNat + (m + n) < 2 ^ 64)
    (h : consumeServeBandwidth s orgID epoch (UInt64.ofNat (m + n)) = .ok t) :
    ∃ s₁, consumeServeBandwidth s orgID epoch (UInt64.ofNat m) = .ok s₁ ∧
      consumeServeBandwidth s₁ orgID epoch (UInt64.ofNat n) = .ok t := by
  obtain ⟨hcap, state, rfl, hself, hother⟩ := consumeServeBandwidth_ok h
  have hcap' := UInt64.le_iff_toNat_le.mp hcap
  rw [Words.toNat_add_ofNat_of_lt hfits] at hcap'
  have hsum : (quota s orgID epoch).serveUsed + UInt64.ofNat m + UInt64.ofNat n =
      (quota s orgID epoch).serveUsed + UInt64.ofNat (m + n) := by
    rw [UInt64.ofNat_add, UInt64.add_assoc]
  cases hfirst : consumeServeBandwidth s orgID epoch (UInt64.ofNat m) with
  | error e =>
    have hexceeded := UInt64.lt_iff_toNat_lt.mp (consumeServeBandwidth_eq_error_iff.mp hfirst).1
    rw [Words.toNat_add_ofNat_of_lt (by omega)] at hexceeded
    omega
  | ok s₁ =>
    refine ⟨s₁, rfl, ?_⟩
    have hquota := quota_consume hfirst
    cases hsecond : consumeServeBandwidth s₁ orgID epoch (UInt64.ofNat n) with
    | error e =>
      have hexceeded := (consumeServeBandwidth_eq_error_iff.mp hsecond).1
      rw [hquota] at hexceeded
      exact absurd hexceeded (UInt64.not_lt.mpr (hsum ▸ hcap))
    | ok s₂ =>
      obtain ⟨-, state₁, rfl, -, hother₁⟩ := consumeServeBandwidth_ok hfirst
      obtain ⟨-, state₂, rfl, hself₂, hother₂⟩ := consumeServeBandwidth_ok hsecond
      rw [hquota] at hself₂
      have hstate : state₂ = state := by
        apply OrderedMap.ext
        intro key
        by_cases hkey : key = stateKey orgID epoch
        · rw [hkey, hself₂, hself, ← hsum]
        · rw [hother₂ key hkey, hother₁ key hkey, hother key hkey]
      rw [hstate]

/-- A use by one org is seen by no other. -/
theorem SameFor.consume_other (h : SameFor orgID s s') {other : Bytes} (hother : other ≠ orgID)
    {epoch count : UInt64} (hconsume : consumeServeBandwidth s other epoch count = .ok t) :
    SameFor orgID t s' := by
  obtain ⟨-, state, rfl, -, hframe⟩ := consumeServeBandwidth_ok hconsume
  refine ⟨?_, h.override, h.params⟩
  intro e
  rw [h.state e]
  apply (hframe _ _).symm
  intro hkey
  exact hother (stateKey_inj.mp hkey).1.symm

/-- The same use in both stores is answered alike and leaves the org with the same again. -/
theorem SameFor.consume (h : SameFor orgID s s') {epoch count : UInt64}
    (hconsume : consumeServeBandwidth s orgID epoch count = .ok t) :
    ∃ t', consumeServeBandwidth s' orgID epoch count = .ok t' ∧ SameFor orgID t t' := by
  have hquota := h.quota_eq epoch
  cases hconsume' : consumeServeBandwidth s' orgID epoch count with
  | error e =>
    have hexceeded := (consumeServeBandwidth_eq_error_iff.mp hconsume').1
    rw [hquota] at hexceeded
    rw [consumeServeBandwidth_eq_error_iff.mpr ⟨hexceeded, rfl⟩] at hconsume
    cases hconsume
  | ok t' =>
    refine ⟨t', rfl, ?_⟩
    obtain ⟨-, state, rfl, hself, hframe⟩ := consumeServeBandwidth_ok hconsume
    obtain ⟨-, state', rfl, hself', hframe'⟩ := consumeServeBandwidth_ok hconsume'
    refine ⟨?_, h.override, h.params⟩
    intro e
    by_cases he : stateKey orgID e = stateKey orgID epoch
    · rw [he, hself, hself', hquota]
    · rw [hframe _ he, hframe' _ he, h.state e]

end OneOrg

end WeVibeChain.Bandwidth
