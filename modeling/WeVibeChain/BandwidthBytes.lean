import WeVibeChain.BandwidthGenesis
import WeVibeChain.MemoryDecoding
import WeVibeChain.Shared.ByteTables
import WeVibeChain.Shared.Traces

/-!
# x/bandwidth on a store of bytes

The keeper as it stands: one store of bytes under all keys, with every record written
and read as protobuf, and the marker that the application puts behind the last key at
genesis. The keeper can fail to read what it finds.

The tables of `BandwidthKeeper` are what this store holds. Over every run the two keepers
give the same answers, no read ever fails, and the two exports agree.
-/

set_option autoImplicit false

namespace WeVibeChain.Bandwidth

open Bytes Wire OrderedMap

section Codecs

def readParamsField (p : Params) : Field → Option Params
  | ⟨1, .varint n⟩ => some { p with defaultMemoryCapPerEpoch := n }
  | ⟨2, .varint n⟩ => some { p with defaultServeCapPerEpoch := n }
  | ⟨number, _⟩ => if number ∈ [1, 2] then none else some p

def paramsOfFields (fields : List Field) : Option Params :=
  readInto readParamsField ⟨0, 0⟩ fields

theorem paramsOfFields_paramsFields (p : Params) : paramsOfFields (paramsFields p) = some p := by
  unfold paramsOfFields paramsFields
  refine readInto_varintField ?_
  refine readInto_varintField ?_
  rfl

def stateCodec : Codec BandwidthState Bytes :=
  codec stateFields stateOfFields (fun b => by simp [stateFields]) stateOfFields_stateFields

def overrideCodec : Codec BandwidthOverride Bytes :=
  codec overrideFields overrideOfFields (fun o => by simp [overrideFields])
    overrideOfFields_overrideFields

def paramsCodec : Codec Params Bytes :=
  codec paramsFields paramsOfFields (fun p => by simp [paramsFields]) paramsOfFields_paramsFields

theorem stateCodec_fits {b : BandwidthState} : stateCodec.Fits b ↔ b.orgID.length < 2 ^ 64 := by
  change Light (stateFields b) ↔ _
  simp [stateFields]

theorem overrideCodec_fits {o : BandwidthOverride} :
    overrideCodec.Fits o ↔ o.orgID.length < 2 ^ 64 := by
  change Light (overrideFields o) ↔ _
  simp [overrideFields]

theorem paramsCodec_fits (p : Params) : paramsCodec.Fits p := by
  change Light (paramsFields p)
  simp [paramsFields]

end Codecs

namespace Raw

abbrev KVStore := OrderedMap Bytes Bytes

inductive Error where
  | keeper (e : Bandwidth.Error)
  | unmarshalParams
  | unmarshalBandwidthState
  | unmarshalOverride
  deriving DecidableEq

section Keeper
variable (kv : KVStore) (orgID : Bytes) (epoch : UInt64)

def setParams (params : Params) : KVStore := kv.set (ascii "params") (paramsCodec.write params)

def getParams : Except Error Params :=
  match kv.get (ascii "params") with
  | none => .ok defaultParams
  | some bz =>
    match paramsCodec.read bz with
    | none => .error .unmarshalParams
    | some params => .ok params

/-- The part of `GetOrInitBandwidthState` that finds the caps of a new state, memory first. -/
def currentCaps : Except Error (UInt64 × UInt64) :=
  match kv.get (overrideKey orgID) with
  | some bz =>
    match overrideCodec.read bz with
    | none => .error .unmarshalOverride
    | some override => .ok (override.memoryCap, override.serveCap)
  | none =>
    match getParams kv with
    | .error e => .error e
    | .ok params => .ok (params.defaultMemoryCapPerEpoch, params.defaultServeCapPerEpoch)

def getOrInitBandwidthState : Except Error (KVStore × BandwidthState) :=
  match kv.get (stateKey orgID epoch) with
  | some bz =>
    match stateCodec.read bz with
    | none => .error .unmarshalBandwidthState
    | some state => .ok (kv, state)
  | none =>
    match currentCaps kv orgID with
    | .error e => .error e
    | .ok (memoryCap, serveCap) =>
      let state := newBandwidthState orgID epoch memoryCap serveCap
      .ok (kv.set (stateKey orgID epoch) (stateCodec.write state), state)

/-- The state that was created stays when the use is refused. -/
def consumeMemoryBandwidth : KVStore × Except Error Unit :=
  match getOrInitBandwidthState kv orgID epoch with
  | .error e => (kv, .error e)
  | .ok (kv', state) =>
    if state.memoryUsed ≥ state.memoryCap then (kv', .error (.keeper .memoryBandwidthExhausted))
    else
      (kv'.set (stateKey orgID epoch)
        (stateCodec.write { state with memoryUsed := state.memoryUsed + 1 }), .ok ())

def consumeServeBandwidth (count : UInt64) : KVStore × Except Error Unit :=
  match getOrInitBandwidthState kv orgID epoch with
  | .error e => (kv, .error e)
  | .ok (kv', state) =>
    if state.serveUsed + count > state.serveCap then (kv', .error (.keeper .serveBandwidthExhausted))
    else
      (kv'.set (stateKey orgID epoch)
        (stateCodec.write { state with serveUsed := state.serveUsed + count }), .ok ())

def setBandwidthOverride (memoryCap serveCap : UInt64) : KVStore :=
  kv.set (overrideKey orgID) (overrideCodec.write ⟨orgID, memoryCap, serveCap⟩)

def deleteBandwidthOverride : KVStore := kv.delete (overrideKey orgID)

def getRemainingBandwidth : KVStore × Except Error (UInt64 × UInt64) :=
  match getOrInitBandwidthState kv orgID epoch with
  | .error e => (kv, .error e)
  | .ok (kv', state) =>
    (kv', .ok (state.memoryCap - state.memoryUsed, state.serveCap - state.serveUsed))

def updateParamsMsg (authority : Bytes) (msg : MsgUpdateParams) : Except Error KVStore :=
  if msg.authority ≠ authority then .error (.keeper .unauthorized)
  else if msg.authority = [] then .error (.keeper .authorityEmpty)
  else .ok (setParams kv msg.params)

/-- An iterator that starts at `lo` and has no end. -/
def iteratorFrom (lo : Bytes) : List (Bytes × Bytes) := kv.entries.filter fun e => lo ≤ e.1

def exportGenesis : GenesisState where
  bandwidthStates := (iteratorFrom kv (ascii "state/")).filterMap fun e => stateCodec.read e.2
  bandwidthOverrides := firstSeen BandwidthOverride.orgID []
    ((iteratorFrom kv (ascii "override/")).filterMap fun e => overrideCodec.read e.2)

end Keeper

section Calls
variable (authority : Bytes)

def perform (kv : KVStore) : Call → KVStore × Except Error Answer
  | .consumeMemory orgID epoch =>
    let (kv', result) := consumeMemoryBandwidth kv orgID epoch
    (kv', result.map fun _ => .done)
  | .consumeServe orgID epoch count =>
    let (kv', result) := consumeServeBandwidth kv orgID epoch count
    (kv', result.map fun _ => .done)
  | .setOverride orgID memoryCap serveCap =>
    (setBandwidthOverride kv orgID memoryCap serveCap, .ok .done)
  | .deleteOverride orgID => (deleteBandwidthOverride kv orgID, .ok .done)
  | .updateParams msg =>
    match updateParamsMsg kv authority msg with
    | .error e => (kv, .error e)
    | .ok kv' => (kv', .ok .done)
  | .getRemaining orgID epoch =>
    let (kv', result) := getRemainingBandwidth kv orgID epoch
    (kv', result.map fun (memory, serve) => .remaining memory serve)

def meter : Machine KVStore Input (Call × Except Error Answer) where
  step kv input :=
    let r := perform authority kv input.call
    (if input.dropped ∧ r.2 ≠ .ok .done then kv else r.1, input.call, r.2)

/-- The store that the application starts with. -/
def genesis : KVStore := (∅ : KVStore).set Memory.genesisInitMarkerKey Memory.genesisInitMarkerValue

end Calls

section Families

def IsStateKey (k : Bytes) : Prop := ∃ orgID epoch, k = stateKey orgID epoch

def IsOverrideKey (k : Bytes) : Prop := ∃ orgID, k = overrideKey orgID

theorem stateKey_ne_overrideKey (orgID orgID' : Bytes) (epoch : UInt64) :
    stateKey orgID epoch ≠ overrideKey orgID' := by
  intro h
  exact absurd (List.head_eq_of_cons_eq h) (by decide)

theorem stateKey_ne_params (orgID : Bytes) (epoch : UInt64) :
    stateKey orgID epoch ≠ ascii "params" := by
  intro h
  exact absurd (List.head_eq_of_cons_eq h) (by decide)

theorem overrideKey_ne_params (orgID : Bytes) : overrideKey orgID ≠ ascii "params" := by
  intro h
  exact absurd (List.head_eq_of_cons_eq h) (by decide)

/-- A key that the keeper never writes. -/
structure IsRest (k : Bytes) : Prop where
  notState : ¬ IsStateKey k
  notOverride : ¬ IsOverrideKey k
  notParams : k ≠ ascii "params"

end Families

section Refinement
variable {kv : KVStore} {s : Store} {orgID : Bytes} {epoch : UInt64}

/-- The store of bytes holds the tables, the marker and nothing else. -/
structure Holds (kv : KVStore) (s : Store) : Prop where
  state : stateCodec.Holds IsStateKey kv s.state.get
  override : overrideCodec.Holds IsOverrideKey kv s.override.get
  params : paramsCodec.Holds (· = ascii "params") kv fun _ => s.params
  keyed : Keyed s
  rest : ∀ k, IsRest k → kv.get k = genesis.get k

theorem Holds.getParams (h : Holds kv s) : getParams kv = .ok (Bandwidth.getParams s) := by
  unfold Raw.getParams Bandwidth.getParams
  cases hparams : s.params with
  | none => rw [h.params.get_of_none rfl hparams]; rfl
  | some params =>
    obtain ⟨hget, hread⟩ := h.params.get_of_some rfl hparams
    simp only [hget, hread]
    rfl

theorem Holds.currentCaps (h : Holds kv s) (orgID : Bytes) :
    currentCaps kv orgID = .ok (Bandwidth.currentCaps s orgID) := by
  unfold Raw.currentCaps Bandwidth.currentCaps
  cases hoverride : s.override.get (overrideKey orgID) with
  | none =>
    simp only [h.override.get_of_none ⟨orgID, rfl⟩ hoverride, h.getParams]
  | some override =>
    obtain ⟨hget, hread⟩ := h.override.get_of_some ⟨orgID, rfl⟩ hoverride
    simp only [hget, hread]

theorem rest_set (hrest : ∀ k, IsRest k → kv.get k = genesis.get k) {key : Bytes}
    (hkey : ¬ IsRest key) (bz : Bytes) (k : Bytes) (hk : IsRest k) :
    (kv.set key bz).get k = genesis.get k := by
  rw [get_set_of_ne _ _, hrest k hk]
  rintro rfl
  exact hkey hk

theorem Holds.set_state (h : Holds kv s) {b : BandwidthState} (hlength : b.orgID.length < 2 ^ 64) :
    Holds (kv.set (stateKey b.orgID b.epoch) (stateCodec.write b))
      { s with state := s.state.set (stateKey b.orgID b.epoch) b } where
  state := by
    rw [get_set_eq]
    exact h.state.set (stateCodec_fits.mpr hlength)
  override := h.override.set_other (fun ⟨_, hk⟩ => stateKey_ne_overrideKey _ _ _ hk) _
  params := h.params.set_other (stateKey_ne_params _ _) _
  keyed := ⟨h.keyed.state.set rfl, h.keyed.override⟩
  rest := rest_set h.rest (fun hk => hk.notState ⟨_, _, rfl⟩) _

theorem Holds.set_override (h : Holds kv s) {o : BandwidthOverride}
    (hlength : o.orgID.length < 2 ^ 64) :
    Holds (kv.set (overrideKey o.orgID) (overrideCodec.write o))
      { s with override := s.override.set (overrideKey o.orgID) o } where
  state := h.state.set_other (fun ⟨_, _, hk⟩ => stateKey_ne_overrideKey _ _ _ hk.symm) _
  override := by
    rw [get_set_eq]
    exact h.override.set (overrideCodec_fits.mpr hlength)
  params := h.params.set_other (overrideKey_ne_params _) _
  keyed := ⟨h.keyed.state, h.keyed.override.set rfl⟩
  rest := rest_set h.rest (fun hk => hk.notOverride ⟨_, rfl⟩) _

theorem Holds.delete_override (h : Holds kv s) (orgID : Bytes) :
    Holds (deleteBandwidthOverride kv orgID) (Bandwidth.deleteBandwidthOverride s orgID) where
  state := h.state.delete_other fun ⟨_, _, hk⟩ => stateKey_ne_overrideKey _ _ _ hk.symm
  override := by
    change overrideCodec.Holds _ _ (s.override.delete _).get
    rw [get_delete_eq]
    exact h.override.delete _
  params := h.params.delete_other (overrideKey_ne_params _)
  keyed := ⟨h.keyed.state, h.keyed.override.delete _⟩
  rest := by
    intro k hk
    have hne : k ≠ overrideKey orgID := fun heq => hk.notOverride ⟨orgID, heq⟩
    rw [deleteBandwidthOverride, get_delete, if_neg hne, h.rest k hk]

theorem Holds.set_params (h : Holds kv s) (params : Params) :
    Holds (setParams kv params) { s with params := some params } where
  state := h.state.set_other (fun ⟨_, _, hk⟩ => stateKey_ne_params _ _ hk.symm) _
  override := h.override.set_other (fun ⟨_, hk⟩ => overrideKey_ne_params _ hk.symm) _
  params := h.params.set_value (paramsCodec_fits params)
  keyed := ⟨h.keyed.state, h.keyed.override⟩
  rest := rest_set h.rest (fun hk => hk.notParams rfl) _

theorem holds_genesis : Holds genesis {} where
  state := by
    refine Codec.holds_none ?_
    rintro k ⟨orgID, epoch, rfl⟩
    exact get_set_of_ne _ _ fun hk => absurd (List.head_eq_of_cons_eq hk) (by decide)
  override := by
    refine Codec.holds_none ?_
    rintro k ⟨orgID, rfl⟩
    exact get_set_of_ne _ _ fun hk => absurd (List.head_eq_of_cons_eq hk) (by decide)
  params := by
    refine Codec.holds_none ?_
    rintro k rfl
    exact get_set_of_ne _ _ (by decide)
  keyed := ⟨forall_empty, forall_empty⟩
  rest _ _ := rfl

/-- The state of the org is found, or created in both stores alike. -/
theorem Holds.getOrInit (h : Holds kv s) (hlength : orgID.length < 2 ^ 64) (epoch : UInt64) :
    ∃ kv', getOrInitBandwidthState kv orgID epoch = .ok (kv', quota s orgID epoch) ∧
      Holds kv' (Bandwidth.getOrInitBandwidthState s orgID epoch).1 := by
  unfold getOrInitBandwidthState quota Bandwidth.getOrInitBandwidthState
  cases hstate : s.state.get (stateKey orgID epoch) with
  | some state =>
    obtain ⟨hget, hread⟩ := h.state.get_of_some ⟨orgID, epoch, rfl⟩ hstate
    simp only [hget, hread]
    exact ⟨kv, rfl, h⟩
  | none =>
    simp only [h.state.get_of_none ⟨orgID, epoch, rfl⟩ hstate, h.currentCaps]
    exact ⟨_, rfl, h.set_state (b := newBandwidthState orgID epoch _ _) hlength⟩

/-- The change of a state that was just found. -/
theorem Holds.set_quota (h : Holds kv s) (hlength : orgID.length < 2 ^ 64) {kv' : KVStore}
    (hkv' : Holds kv' (Bandwidth.getOrInitBandwidthState s orgID epoch).1) {b : BandwidthState}
    (hnames : b.orgID = (quota s orgID epoch).orgID ∧ b.epoch = (quota s orgID epoch).epoch) :
    Holds (kv'.set (stateKey orgID epoch) (stateCodec.write b))
      { (Bandwidth.getOrInitBandwidthState s orgID epoch).1 with
        state := (Bandwidth.getOrInitBandwidthState s orgID epoch).1.state.set
          (stateKey orgID epoch) b } := by
  obtain ⟨horg, hepoch⟩ := quota_named h.keyed orgID epoch
  obtain ⟨rfl, rfl⟩ : orgID = b.orgID ∧ epoch = b.epoch :=
    ⟨(hnames.1.trans horg).symm, (hnames.2.trans hepoch).symm⟩
  exact hkv'.set_state hlength

end Refinement

section Calls
variable (authority : Bytes) {kv : KVStore} {s : Store}

/-- The org's name is not too long to be written. -/
def Writable : Call → Prop
  | .consumeMemory orgID _ => orgID.length < 2 ^ 64
  | .consumeServe orgID _ _ => orgID.length < 2 ^ 64
  | .setOverride orgID _ _ => orgID.length < 2 ^ 64
  | .getRemaining orgID _ => orgID.length < 2 ^ 64
  | .deleteOverride _ => True
  | .updateParams _ => True

/-- The answer of the tables as the answer of the bytes. -/
def lift : Except Bandwidth.Error Answer → Except Error Answer := Except.mapError .keeper

/-- The call leads to stores that belong together again, with the same answer. -/
def Performed (kv : KVStore) (s : Store) (call : Call) : Prop :=
  Holds (perform authority kv call).1 (Bandwidth.perform authority s call).1 ∧
    (perform authority kv call).2 = lift (Bandwidth.perform authority s call).2

theorem Holds.consumeMemory (h : Holds kv s) {orgID : Bytes} (hlength : orgID.length < 2 ^ 64)
    (epoch : UInt64) :
    Performed authority kv s (.consumeMemory orgID epoch) := by
  obtain ⟨kv', hfound, hkv'⟩ := h.getOrInit hlength epoch
  have hconsume : Bandwidth.consumeMemoryBandwidth s orgID epoch =
      if (quota s orgID epoch).memoryUsed ≥ (quota s orgID epoch).memoryCap then
        .error .memoryBandwidthExhausted else .ok _ := rfl
  simp only [Performed, perform, Bandwidth.perform, consumeMemoryBandwidth, hfound, hconsume]
  by_cases hfull : (quota s orgID epoch).memoryUsed ≥ (quota s orgID epoch).memoryCap
  · simp only [if_pos hfull]
    exact ⟨hkv', rfl⟩
  · simp only [if_neg hfull]
    exact ⟨h.set_quota hlength hkv' ⟨rfl, rfl⟩, rfl⟩

theorem Holds.consumeServe (h : Holds kv s) {orgID : Bytes} (hlength : orgID.length < 2 ^ 64)
    (epoch count : UInt64) :
    Performed authority kv s (.consumeServe orgID epoch count) := by
  obtain ⟨kv', hfound, hkv'⟩ := h.getOrInit hlength epoch
  have hconsume : Bandwidth.consumeServeBandwidth s orgID epoch count =
      if (quota s orgID epoch).serveUsed + count > (quota s orgID epoch).serveCap then
        .error .serveBandwidthExhausted else .ok _ := rfl
  simp only [Performed, perform, Bandwidth.perform, consumeServeBandwidth, hfound, hconsume]
  by_cases hfull : (quota s orgID epoch).serveUsed + count > (quota s orgID epoch).serveCap
  · simp only [if_pos hfull]
    exact ⟨hkv', rfl⟩
  · simp only [if_neg hfull]
    exact ⟨h.set_quota hlength hkv' ⟨rfl, rfl⟩, rfl⟩

theorem Holds.updateParams (h : Holds kv s) (msg : MsgUpdateParams) :
    Performed authority kv s (.updateParams msg) := by
  simp only [Performed, perform, Bandwidth.perform, updateParamsMsg, Bandwidth.updateParamsMsg]
  by_cases hsigned : msg.authority ≠ authority
  · simp only [if_pos hsigned]
    exact ⟨h, rfl⟩
  · by_cases hempty : msg.authority = []
    · simp only [if_neg hsigned, if_pos hempty]
      exact ⟨h, rfl⟩
    · simp only [if_neg hsigned, if_neg hempty]
      exact ⟨h.set_params msg.params, rfl⟩

theorem Holds.perform (h : Holds kv s) {call : Call} (hwritable : Writable call) :
    Performed authority kv s call := by
  cases call with
  | consumeMemory orgID epoch => exact h.consumeMemory authority hwritable epoch
  | consumeServe orgID epoch count => exact h.consumeServe authority hwritable epoch count
  | setOverride orgID memoryCap serveCap =>
    exact ⟨h.set_override (o := ⟨orgID, memoryCap, serveCap⟩) hwritable, rfl⟩
  | deleteOverride orgID => exact ⟨h.delete_override orgID, rfl⟩
  | updateParams msg => exact h.updateParams authority msg
  | getRemaining orgID epoch =>
    obtain ⟨kv', hfound, hkv'⟩ := h.getOrInit hwritable epoch
    simp only [Performed, Raw.perform, getRemainingBandwidth, hfound]
    exact ⟨hkv', rfl⟩

theorem lift_eq_done_iff {answer : Except Bandwidth.Error Answer} :
    lift answer = .ok .done ↔ answer = .ok .done := by
  cases answer with
  | error e => exact ⟨nofun, nofun⟩
  | ok a =>
    change Except.ok a = _ ↔ _
    rw [Except.ok.injEq, Except.ok.injEq]

/-- One call on the two stores. -/
theorem Holds.next (h : Holds kv s) {input : Input} (hwritable : Writable input.call) :
    Holds ((meter authority).next kv input) ((Bandwidth.meter authority).next s input) ∧
      (meter authority).output kv input =
        ((Bandwidth.meter authority).output s input).map id lift := by
  obtain ⟨hnext, hanswer⟩ := h.perform authority hwritable
  refine ⟨?_, Prod.ext rfl hanswer⟩
  change Holds (if _ then _ else _) (if _ then _ else _)
  rw [hanswer]
  simp only [ne_eq, lift_eq_done_iff]
  split
  · exact h
  · exact hnext

end Calls

section Export
variable {kv : KVStore} {s : Store}

def written (e : Bytes × Entry) : Bytes × Bytes := (e.1, write e.2.fields)

theorem mem_written_iff {k bz : Bytes} : (k, bz) ∈ s.entries.map written ↔
    (∃ o, s.override.get k = some o ∧ overrideCodec.write o = bz) ∨
      (∃ p, k = ascii "params" ∧ s.params = some p ∧ paramsCodec.write p = bz) ∨
      ∃ b, s.state.get k = some b ∧ stateCodec.write b = bz := by
  rw [Store.entries, List.map_append, List.map_append, List.mem_append, List.mem_append]
  refine or_congr ?_ (or_congr ?_ ?_)
  · simp only [List.mem_map, get_eq_some_iff]
    constructor
    · rintro ⟨_, ⟨⟨k', o⟩, he, rfl⟩, heq⟩
      obtain ⟨rfl, rfl⟩ := Prod.mk.inj heq
      exact ⟨o, he, rfl⟩
    · rintro ⟨o, he, rfl⟩
      exact ⟨_, ⟨(k, o), he, rfl⟩, rfl⟩
  · simp only [List.mem_map, Option.mem_toList]
    constructor
    · rintro ⟨_, ⟨p, hp, rfl⟩, heq⟩
      obtain ⟨rfl, rfl⟩ := Prod.mk.inj heq
      exact ⟨p, rfl, hp, rfl⟩
    · rintro ⟨p, rfl, hp, rfl⟩
      exact ⟨_, ⟨p, hp, rfl⟩, rfl⟩
  · simp only [List.mem_map, get_eq_some_iff]
    constructor
    · rintro ⟨_, ⟨⟨k', b⟩, he, rfl⟩, heq⟩
      obtain ⟨rfl, rfl⟩ := Prod.mk.inj heq
      exact ⟨b, he, rfl⟩
    · rintro ⟨b, he, rfl⟩
      exact ⟨_, ⟨(k, b), he, rfl⟩, rfl⟩

theorem Holds.mem_entries_iff (h : Holds kv s) {k bz : Bytes} :
    (k, bz) ∈ s.entries.map written ++
        [(Memory.genesisInitMarkerKey, Memory.genesisInitMarkerValue)] ↔ kv.get k = some bz := by
  have hmarker : IsRest Memory.genesisInitMarkerKey :=
    ⟨fun ⟨_, _, hk⟩ => absurd (List.head_eq_of_cons_eq hk) (by decide),
      fun ⟨_, hk⟩ => absurd (List.head_eq_of_cons_eq hk) (by decide), by decide⟩
  rw [List.mem_append, List.mem_singleton, mem_written_iff]
  constructor
  · rintro ((⟨o, hget, rfl⟩ | ⟨p, rfl, hget, rfl⟩ | ⟨b, hget, rfl⟩) | hmark)
    · exact (h.override.get_of_some ⟨_, (h.keyed.override k o hget).symm⟩ hget).1
    · exact (h.params.get_of_some rfl hget).1
    · exact (h.state.get_of_some ⟨_, _, (h.keyed.state k b hget).symm⟩ hget).1
    · obtain ⟨rfl, rfl⟩ := Prod.mk.inj hmark
      exact (h.rest _ hmarker).trans (get_set_self _ _ _)
  · intro hget
    by_cases hstate : IsStateKey k
    · rw [h.state.written k hstate] at hget
      exact Or.inl (Or.inr (Or.inr (Option.map_eq_some_iff.mp hget)))
    by_cases hoverride : IsOverrideKey k
    · rw [h.override.written k hoverride] at hget
      exact Or.inl (Or.inl (Option.map_eq_some_iff.mp hget))
    by_cases hparams : k = ascii "params"
    · rw [h.params.written k hparams] at hget
      obtain ⟨p, hp, hwrite⟩ := Option.map_eq_some_iff.mp hget
      exact Or.inl (Or.inr (Or.inl ⟨p, hparams, hp, hwrite⟩))
    · rw [h.rest k ⟨hstate, hoverride, hparams⟩, genesis, get_set] at hget
      obtain ⟨rfl, hvalue⟩ := Option.ite_none_right_eq_some.mp hget
      exact Or.inr (Prod.ext rfl (Option.some.inj hvalue).symm)

/-- Keys of different families are told apart by their first byte. -/
theorem lt_of_head {x y : UInt8} (hxy : x < y) {k k' : Bytes} (hk : k.head? = some x)
    (hk' : k'.head? = some y) : k < k' := by
  obtain ⟨r, rfl⟩ := List.head?_eq_some_iff.mp hk
  obtain ⟨r', rfl⟩ := List.head?_eq_some_iff.mp hk'
  exact cons_lt_cons_of_lt hxy r r'

theorem entries_sorted (hs : Keyed s) :
    (s.entries.map written ++ [(Memory.genesisInitMarkerKey, Memory.genesisInitMarkerValue)]).Pairwise
      fun a b => a.1 < b.1 := by
  have hoverride : ∀ e ∈ s.override.entries.map (written ∘ fun e => (e.1, Entry.override e.2)),
      e.1.head? = some 0x6F := by
    rw [List.forall_mem_map]
    rintro ⟨k, o⟩ he
    change k.head? = _
    rw [← hs.override k o (get_eq_some_iff.mpr he)]
    rfl
  have hparams : ∀ e ∈ s.params.toList.map (written ∘ fun v => (ascii "params", Entry.params v)),
      e.1.head? = some 0x70 := by
    rw [List.forall_mem_map]
    exact fun _ _ => rfl
  have hstate : ∀ e ∈ s.state.entries.map (written ∘ fun e => (e.1, Entry.state e.2)),
      e.1.head? = some 0x73 := by
    rw [List.forall_mem_map]
    rintro ⟨k, b⟩ he
    change k.head? = _
    rw [← hs.state k b (get_eq_some_iff.mpr he)]
    rfl
  have hmarker : Memory.genesisInitMarkerKey.head? = some 0xFF := rfl
  simp only [Store.entries, List.map_append, List.map_map, List.pairwise_append,
    List.pairwise_singleton, List.mem_append, List.forall_mem_singleton]
  refine ⟨⟨?_, ⟨?_, ?_, ?_⟩, ?_⟩, trivial, ?_⟩
  · exact List.pairwise_map.mpr s.override.sorted
  · cases s.params with
    | none => exact .nil
    | some p => exact List.pairwise_singleton _ _
  · exact List.pairwise_map.mpr s.state.sorted
  · exact fun a ha b hb => lt_of_head (by decide) (hparams a ha) (hstate b hb)
  · rintro a ha b (hb | hb)
    · exact lt_of_head (by decide) (hoverride a ha) (hparams b hb)
    · exact lt_of_head (by decide) (hoverride a ha) (hstate b hb)
  · rintro a (ha | ha | ha)
    · exact lt_of_head (by decide) (hoverride a ha) hmarker
    · exact lt_of_head (by decide) (hparams a ha) hmarker
    · exact lt_of_head (by decide) (hstate a ha) hmarker

/-- Everything in the store in key order. -/
theorem Holds.entries (h : Holds kv s) :
    kv.entries = s.entries.map written ++
      [(Memory.genesisInitMarkerKey, Memory.genesisInitMarkerValue)] :=
  entries_eq_of_sorted (entries_sorted h.keyed) fun _ _ => h.mem_entries_iff

theorem Holds.light (h : Holds kv s) : ∀ e ∈ s.entries, Light e.2.fields := by
  intro e he
  rw [Store.entries, List.mem_append, List.mem_append] at he
  rcases he with he | he | he
  · obtain ⟨⟨k, o⟩, ho, rfl⟩ := List.mem_map.mp he
    have hget := get_eq_some_iff.mpr ho
    exact h.override.fits k o ⟨_, (h.keyed.override k o hget).symm⟩ hget
  · obtain ⟨p, -, rfl⟩ := List.mem_map.mp he
    exact paramsCodec_fits p
  · obtain ⟨⟨k, b⟩, hb, rfl⟩ := List.mem_map.mp he
    have hget := get_eq_some_iff.mpr hb
    exact h.state.fits k b ⟨_, _, (h.keyed.state k b hget).symm⟩ hget

/-- A scan that decodes what it meets reads the entries of the tables, and skips the marker. -/
theorem Holds.scan (h : Holds kv s) {ρ : Type} {ofFields : List Field → Option ρ}
    {decode : Entry → Option ρ}
    (hdecode : ∀ entry, Light entry.fields →
      (parse (write entry.fields)).bind ofFields = decode entry)
    (lo : Bytes) :
    (iteratorFrom kv lo).filterMap (fun e => (parse e.2).bind ofFields) =
      (s.iteratorFrom lo).filterMap fun e => decode e.2 := by
  have hmarker : ([(Memory.genesisInitMarkerKey, Memory.genesisInitMarkerValue)].filter
      fun e => lo ≤ e.1).filterMap (fun e => (parse e.2).bind ofFields) = [] := by
    rw [List.filterMap_eq_nil_iff]
    intro e he
    obtain rfl := List.mem_singleton.mp (List.mem_of_mem_filter he)
    rw [Memory.parse_genesisInitMarkerValue, Option.bind_none]
  rw [iteratorFrom, h.entries, List.filter_append, List.filterMap_append, hmarker, List.append_nil,
    List.filter_map, List.filterMap_map]
  refine List.filterMap_congr ?_
  intro e he
  exact hdecode e.2 (h.light e (List.mem_of_mem_filter he))

theorem Holds.exportGenesis (h : Holds kv s) :
    exportGenesis kv = Bandwidth.exportGenesis s := by
  have hstates := h.scan (fun entry hlight => (decode_bytes entry hlight).2) (ascii "state/")
  have hoverrides := h.scan (fun entry hlight => (decode_bytes entry hlight).1) (ascii "override/")
  exact GenesisState.mk.injEq .. |>.mpr ⟨hstates, congrArg (firstSeen _ []) hoverrides⟩

end Export

section Runs

/-- Over every sequence of calls of the keeper, on orgs with names that can be written, the store of
bytes answers like the tables, no record is found that cannot be read, and what is exported from the
two stores is the same. -/
theorem bytes_answer_like_tables (authority : Bytes) {inputs : List Input}
    (hwritable : ∀ input ∈ inputs, Writable input.call) :
    (meter authority).history genesis inputs =
        ((Bandwidth.meter authority).history {} inputs).map (Prod.map id lift) ∧
      exportGenesis ((meter authority).run genesis inputs) =
        Bandwidth.exportGenesis ((Bandwidth.meter authority).run {} inputs) := by
  obtain ⟨hholds, hanswers⟩ := Machine.history_refines (Prod.map id lift)
    (fun kv s input (h : Holds kv s) hinput => h.next authority hinput) holds_genesis hwritable
  exact ⟨hanswers, hholds.exportGenesis⟩

theorem sample_bytes_answer :
    (meter (ascii "gov")).history genesis sampleUse =
        [(.consumeMemory (ascii "org") 7, .ok .done)] ∧
      (exportGenesis ((meter (ascii "gov")).run genesis sampleUse)).bandwidthStates =
        [⟨ascii "org", 7, 1, 10000, 0, 50000⟩] := by
  have hwritable : ∀ input ∈ sampleUse, Writable input.call :=
    List.forall_mem_singleton.mpr (by decide : (ascii "org").length < 2 ^ 64)
  obtain ⟨hanswers, hexport⟩ := bytes_answer_like_tables (ascii "gov") hwritable
  rw [hanswers, hexport]
  decide +kernel

end Runs

end Raw

end WeVibeChain.Bandwidth
